import Reminders.Event.Wire

/-!
# Notification — messages between scheduler and sender

A notification reminds the owner of an event; it is routed by the owner.  A delivery status
acknowledges one notification; all of them are routed by one fixed key.
-/

namespace Reminders

open Json

/-- A reminder of an event. -/
structure Notification where
  /-- The id of the event. -/
  id : String
  title : String
  description : String
  userId : String
  /-- The start of the event. -/
  time : Instant
  /-- The instant at which the reminder was made. -/
  notifyAt : Instant
deriving DecidableEq

namespace Notification

/-- The reminder of an event made at `now`. -/
def forEvent (e : Event) (now : Instant) : Notification where
  id := e.id
  title := e.title
  description := e.description
  userId := e.userId
  time := e.startTime
  notifyAt := now

/-- Reminders are routed by owner. -/
def routingKey (n : Notification) : String :=
  n.userId

/-- A notification while it is read. -/
structure Draft where
  id : Option String
  title : Option String
  description : Option String
  userId : Option String
  time : Option Instant
  notifyAt : Option Instant

/-- The notification of a draft. -/
def Draft.finish (d : Draft) : Option Notification := do
  return {
    id := ← d.id
    title := ← d.title
    description := ← d.description
    userId := ← d.userId
    time := ← d.time
    notifyAt := ← d.notifyAt }

/-- The fields of a notification. -/
def record : Record Draft Notification where
  fields := [
    .of "id" (·.id) (fun d v => { d with id := some v }) readText,
    .of "title" (·.title) (fun d v => { d with title := some v }) readText,
    .of "description" (·.description) (fun d v => { d with description := some v }) readText,
    .of "userId" (·.userId) (fun d v => { d with userId := some v }) readText,
    .of "time" (·.time) (fun d v => { d with time := some v }) readInstant,
    .of "notifyAt" (·.notifyAt) (fun d v => { d with notifyAt := some v }) readInstant]
  blank := ⟨none, none, none, none, none, none⟩
  finish := Draft.finish

/-- The notification that the bytes hold. -/
def decode (bytes : Bytes) : Except Fault Notification :=
  record.read.run bytes

/-- The written form of a notification. -/
def encode (n : Notification) : Bytes :=
  writeObject [
    ("id", writeText n.id),
    ("title", writeText n.title),
    ("description", writeText n.description),
    ("userId", writeText n.userId),
    ("time", writeInstant n.time),
    ("notifyAt", writeInstant n.notifyAt)]

end Notification

/-- What became of a notification. -/
inductive Delivery where
  | delivered
deriving DecidableEq

namespace Delivery

def name : Delivery → String
  | .delivered => "delivered"

def ofName? (s : String) : Option Delivery :=
  if s = "delivered" then some .delivered else none

end Delivery

/-- The acknowledgement of a notification. -/
structure DeliveryStatus where
  notificationId : String
  eventId : String
  userId : String
  status : Delivery
  timestamp : Instant
deriving DecidableEq

namespace DeliveryStatus

/-- The key by which every status is routed. -/
def routingKey : String := "notification_status"

/-- The notification was delivered at `now`. -/
def delivered (n : Notification) (now : Instant) : DeliveryStatus where
  notificationId := n.id
  eventId := n.id
  userId := n.userId
  status := .delivered
  timestamp := now

/-- A status while it is read. -/
structure Draft where
  notificationId : Option String
  eventId : Option String
  userId : Option String
  status : Option Delivery
  timestamp : Option Instant

/-- The status of a draft. -/
def Draft.finish (d : Draft) : Option DeliveryStatus := do
  return {
    notificationId := ← d.notificationId
    eventId := ← d.eventId
    userId := ← d.userId
    status := ← d.status
    timestamp := ← d.timestamp }

/-- The fields of a status. -/
def record : Record Draft DeliveryStatus where
  fields := [
    .of "notificationId" (·.notificationId) (fun d v => { d with notificationId := some v })
      readText,
    .of "eventId" (·.eventId) (fun d v => { d with eventId := some v }) readText,
    .of "userId" (·.userId) (fun d v => { d with userId := some v }) readText,
    .of "status" (·.status) (fun d v => { d with status := some v }) (readWord Delivery.ofName?),
    .of "timestamp" (·.timestamp) (fun d v => { d with timestamp := some v }) readInstant]
  blank := ⟨none, none, none, none, none⟩
  finish := Draft.finish

/-- The status that the bytes hold. -/
def decode (bytes : Bytes) : Except Fault DeliveryStatus :=
  record.read.run bytes

/-- The written form of a status. -/
def encode (s : DeliveryStatus) : Bytes :=
  writeObject [
    ("notificationId", writeText s.notificationId),
    ("eventId", writeText s.eventId),
    ("userId", writeText s.userId),
    ("status", writeText s.status.name),
    ("timestamp", writeInstant s.timestamp)]

end DeliveryStatus

end Reminders
