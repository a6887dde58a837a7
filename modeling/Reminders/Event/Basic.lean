import Reminders.Text.Blank
import Reminders.Time.Written

/-!
# Event — events of a calendar

An event is a half-open interval of time that belongs to one user.  Two intervals overlap if they
share an instant, so events that only touch do not.  Some seconds before its start an event asks
for a notification; the event is *due* in a window of time if that instant lies in the window.
-/

namespace Reminders

/-- An event of one user. -/
structure Event where
  /-- Identifies the event; empty until the store assigns one. -/
  id : String
  /-- The owner. -/
  userId : String
  title : String
  description : String
  startTime : Instant
  endTime : Instant
  /-- How many seconds before the start the owner wants to be notified. -/
  notifyBefore : UInt32
deriving DecidableEq

/-- Why an event is refused. -/
inductive EventError where
  | missingUserId
  | missingTitle
  | invalidInterval (start finish : Instant)
  | negativeNotifyBefore (seconds : Int)
  | notifyBeforeOutOfRange (seconds : Int)
  | tooLarge (field : String) (limit : Nat)
  | invalidTimestamp (seconds : Int)
deriving DecidableEq

/-- The text that reports a refused event. -/
def EventError.message : EventError → String
  | .missingUserId => "user id is required"
  | .missingTitle => "title is required"
  | .invalidInterval start finish =>
    "start time " ++ start.display ++ " must be before end time " ++ finish.display
  | .negativeNotifyBefore seconds =>
    "notify before must be a non-negative number of seconds, got " ++ toString seconds
  | .notifyBeforeOutOfRange seconds =>
    "notify before of " ++ toString seconds ++ " seconds is out of range"
  | .tooLarge field limit => field ++ " exceeds " ++ toString limit ++ " bytes"
  | .invalidTimestamp seconds => "invalid timestamp: " ++ toString seconds

/-- Two half-open intervals, each given by its start and its end, share an instant. -/
def intervalsOverlap (start finish start' finish' : Instant) : Bool :=
  start < finish' && start' < finish

namespace Event

/-- The instant at which a notification is due; there is none before the first instant. -/
def notifyAt (e : Event) : Option Instant :=
  e.startTime.shift? (-(e.notifyBefore.toNat * 1000000000 : Nat))

/-- The two events share an instant, whoever owns them. -/
def overlaps (a b : Event) : Bool :=
  intervalsOverlap a.startTime a.endTime b.startTime b.endTime

/-- The event shares an instant with the time between `first` and `last`. -/
def intersectsRange (e : Event) (first last : Instant) : Bool :=
  !(e.endTime ≤ first || last ≤ e.startTime)

/-- The notification is due after `now` and not after `before`, and the event has not started at
`now`. -/
def isDue (e : Event) (now before : Instant) : Bool :=
  match e.notifyAt with
  | some t => now < e.startTime && now < t && t ≤ before
  | none => false

/-- The event ended before `cutoff`. -/
def endedBefore (e : Event) (cutoff : Instant) : Bool :=
  e.endTime < cutoff

/-- Every stored event names an owner and a title, and starts before it ends. -/
def validate (e : Event) : Except EventError Unit :=
  if Text.isBlank e.userId then .error .missingUserId
  else if Text.isBlank e.title then .error .missingTitle
  else if e.startTime < e.endTime then .ok ()
  else .error (.invalidInterval e.startTime e.endTime)

/-- The stored event excludes the candidate: it has the same owner, another id, and a common
instant with it. -/
def conflictsWith (candidate stored : Event) : Bool :=
  stored.userId == candidate.userId && stored.id != candidate.id && candidate.overlaps stored

/-- The first of some stored events that excludes the candidate. -/
def findConflict (candidate : Event) (stored : List Event) : Option Event :=
  stored.find? candidate.conflictsWith

/-! ### Order -/

/-- Events are listed by start, and by id where the start is the same. -/
def listedBefore (a b : Event) : Bool :=
  a.startTime < b.startTime || (a.startTime == b.startTime && a.id ≤ b.id)

/-- The events in the order of listings; events of the same start and id keep their order. -/
def sort (events : List Event) : List Event :=
  events.mergeSort listedBefore

end Event

end Reminders
