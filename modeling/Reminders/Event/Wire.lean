import Reminders.Event.Basic
import Reminders.Json.Record

/-!
# Event — written events

An event is written with all its fields.  When it is read, the id and the description may be
missing, which stands for the empty text, and the seconds of notice, which stands for none.
-/

namespace Reminders

open Json

/-- A written instant. -/
def writeInstant (t : Instant) : Bytes :=
  writeText t.write

/-- Reads an instant. -/
def readInstant : Reader Instant :=
  readTextAs Instant.read?

/-- Reads a number of 32 bits. -/
def readSeconds : Reader UInt32 :=
  (fun n => UInt32.ofNat n.toNat) <$> readIntegerIn 0 4294967295

namespace Event

/-- An event while it is read. -/
structure Draft where
  id : Option String
  userId : Option String
  title : Option String
  description : Option String
  startTime : Option Instant
  endTime : Option Instant
  notifyBefore : Option UInt32

/-- The event of a draft. -/
def Draft.finish (d : Draft) : Option Event := do
  return {
    id := d.id.getD ""
    userId := ← d.userId
    title := ← d.title
    description := d.description.getD ""
    startTime := ← d.startTime
    endTime := ← d.endTime
    notifyBefore := d.notifyBefore.getD 0 }

/-- The fields of an event. -/
def record : Record Draft Event where
  fields := [
    .of "id" (·.id) (fun d v => { d with id := some v }) readText,
    .of "userId" (·.userId) (fun d v => { d with userId := some v }) readText,
    .of "title" (·.title) (fun d v => { d with title := some v }) readText,
    .of "description" (·.description) (fun d v => { d with description := some v }) readText,
    .of "startTime" (·.startTime) (fun d v => { d with startTime := some v }) readInstant,
    .of "endTime" (·.endTime) (fun d v => { d with endTime := some v }) readInstant,
    .of "notifyBefore" (·.notifyBefore) (fun d v => { d with notifyBefore := some v }) readSeconds]
  blank := ⟨none, none, none, none, none, none, none⟩
  finish := Draft.finish

/-- The event that the bytes hold. -/
def decode (bytes : Bytes) : Except Fault Event :=
  record.read.run bytes

/-- The written form of an event. -/
def encode (e : Event) : Bytes :=
  writeObject [
    ("id", writeText e.id),
    ("userId", writeText e.userId),
    ("title", writeText e.title),
    ("description", writeText e.description),
    ("startTime", writeInstant e.startTime),
    ("endTime", writeInstant e.endTime),
    ("notifyBefore", writeInteger e.notifyBefore.toNat)]

end Event

end Reminders
