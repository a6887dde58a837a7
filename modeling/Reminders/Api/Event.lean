import Reminders.Event.Wire

/-!
# Api — events on the wire

Clients send and receive times as whole Unix seconds.  A request is checked in a fixed order: the
sizes of its texts in bytes, its times, its seconds of notice, and last the rules that every stored
event obeys.
-/

namespace Reminders

open Json

/-- Reads an integer of 64 bits. -/
def readInt64 : Reader Int64 :=
  Int64.ofInt <$> readIntegerIn (-9223372036854775808) 9223372036854775807

/-- A written integer of 64 bits. -/
def writeInt64 (n : Int64) : Bytes :=
  writeInteger n.toInt

/-! ### Requests -/

/-- What a client sends to create or replace an event. -/
structure EventRequest where
  userId : String
  title : String
  description : Option String
  /-- Unix seconds. -/
  startTime : Int64
  /-- Unix seconds. -/
  endTime : Int64
  /-- Seconds before the start; none if it is left out. -/
  notifyBefore : Option Int64
deriving DecidableEq

namespace EventRequest

/-- The greatest size of a user id in bytes. -/
def maxUserId : Nat := 256

/-- The greatest size of a title in bytes. -/
def maxTitle : Nat := 1024

/-- The greatest size of a description in bytes. -/
def maxDescription : Nat := 10240

/-- A text holds at most `limit` bytes. -/
def checkSize (field : String) (limit : Nat) (s : String) : Except EventError Unit :=
  if s.utf8ByteSize ≤ limit then .ok () else .error (.tooLarge field limit)

/-- The texts of an event have admissible sizes. -/
def checkSizes (userId title : String) (description : Option String) :
    Except EventError Unit := do
  checkSize "userId" maxUserId userId
  checkSize "title" maxTitle title
  match description with
  | some description => checkSize "description" maxDescription description
  | none => return ()

/-- The instant at the start of a Unix second. -/
def instant (seconds : Int64) : Except EventError Instant :=
  match Instant.ofUnix? seconds.toInt 0 with
  | some t => .ok t
  | none => .error (.invalidTimestamp seconds.toInt)

/-- The seconds of notice; none are meant if they are left out. -/
def notice (seconds : Option Int64) : Except EventError UInt32 :=
  let n := (seconds.getD 0).toInt
  if n < 0 then .error (.negativeNotifyBefore n)
  else if n < 4294967296 then .ok (UInt32.ofNat n.toNat)
  else .error (.notifyBeforeOutOfRange n)

/-- The event asked for, under the given id. -/
def toEvent (r : EventRequest) (id : String) : Except EventError Event := do
  checkSizes r.userId r.title r.description
  let e : Event := {
    id := id
    userId := r.userId
    title := r.title
    description := r.description.getD ""
    startTime := ← instant r.startTime
    endTime := ← instant r.endTime
    notifyBefore := ← notice r.notifyBefore }
  e.validate
  return e

/-- A request while it is read. -/
structure Draft where
  userId : Option String
  title : Option String
  description : Option (Option String)
  startTime : Option Int64
  endTime : Option Int64
  notifyBefore : Option (Option Int64)

/-- The request of a draft. -/
def Draft.finish (d : Draft) : Option EventRequest := do
  return {
    userId := ← d.userId
    title := ← d.title
    description := d.description.getD none
    startTime := ← d.startTime
    endTime := ← d.endTime
    notifyBefore := d.notifyBefore.getD none }

/-- The fields of a request. -/
def record : Record Draft EventRequest where
  fields := [
    .of "userId" (·.userId) (fun d v => { d with userId := some v }) readText,
    .of "title" (·.title) (fun d v => { d with title := some v }) readText,
    .of "description" (·.description) (fun d v => { d with description := some v })
      (readOptional readText),
    .of "startTime" (·.startTime) (fun d v => { d with startTime := some v }) readInt64,
    .of "endTime" (·.endTime) (fun d v => { d with endTime := some v }) readInt64,
    .of "notifyBefore" (·.notifyBefore) (fun d v => { d with notifyBefore := some v })
      (readOptional readInt64)]
  blank := ⟨none, none, none, none, none, none⟩
  finish := Draft.finish

/-- The request that the bytes hold. -/
def decode (bytes : Bytes) : Except Fault EventRequest :=
  record.read.run bytes

/-- The written form of a request; a value that was left out stays out. -/
def encode (r : EventRequest) : Bytes :=
  writeObject <|
    [("userId", writeText r.userId), ("title", writeText r.title)] ++
    (r.description.map fun s => ("description", writeText s)).toList ++
    [("startTime", writeInt64 r.startTime), ("endTime", writeInt64 r.endTime)] ++
    (r.notifyBefore.map fun n => ("notifyBefore", writeInt64 n)).toList

end EventRequest

/-! ### Responses -/

/-- An event as clients see it. -/
structure EventResponse where
  id : String
  userId : String
  title : String
  description : String
  /-- Unix seconds. -/
  startTime : Int64
  /-- Unix seconds. -/
  endTime : Int64
  notifyBefore : Int64
deriving DecidableEq

namespace EventResponse

/-- The view of an event. -/
def ofEvent (e : Event) : EventResponse where
  id := e.id
  userId := e.userId
  title := e.title
  description := e.description
  startTime := Int64.ofInt e.startTime.unixSecond
  endTime := Int64.ofInt e.endTime.unixSecond
  notifyBefore := Int64.ofNat e.notifyBefore.toNat

/-- A response while it is read. -/
structure Draft where
  id : Option String
  userId : Option String
  title : Option String
  description : Option String
  startTime : Option Int64
  endTime : Option Int64
  notifyBefore : Option Int64

/-- The response of a draft. -/
def Draft.finish (d : Draft) : Option EventResponse := do
  return {
    id := ← d.id
    userId := ← d.userId
    title := ← d.title
    description := ← d.description
    startTime := ← d.startTime
    endTime := ← d.endTime
    notifyBefore := ← d.notifyBefore }

/-- The fields of a response. -/
def record : Record Draft EventResponse where
  fields := [
    .of "id" (·.id) (fun d v => { d with id := some v }) readText,
    .of "userId" (·.userId) (fun d v => { d with userId := some v }) readText,
    .of "title" (·.title) (fun d v => { d with title := some v }) readText,
    .of "description" (·.description) (fun d v => { d with description := some v }) readText,
    .of "startTime" (·.startTime) (fun d v => { d with startTime := some v }) readInt64,
    .of "endTime" (·.endTime) (fun d v => { d with endTime := some v }) readInt64,
    .of "notifyBefore" (·.notifyBefore) (fun d v => { d with notifyBefore := some v }) readInt64]
  blank := ⟨none, none, none, none, none, none, none⟩
  finish := Draft.finish

/-- The response that the bytes hold. -/
def decode (bytes : Bytes) : Except Fault EventResponse :=
  record.read.run bytes

/-- The written form of a response. -/
def encode (r : EventResponse) : Bytes :=
  writeObject [
    ("id", writeText r.id),
    ("userId", writeText r.userId),
    ("title", writeText r.title),
    ("description", writeText r.description),
    ("startTime", writeInt64 r.startTime),
    ("endTime", writeInt64 r.endTime),
    ("notifyBefore", writeInt64 r.notifyBefore)]

end EventResponse

end Reminders
