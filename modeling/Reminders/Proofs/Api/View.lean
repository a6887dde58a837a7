import Mathlib.Data.Nat.Digits.Defs
import Reminders.Api.Router
import Reminders.Proofs.Api.Request
import Reminders.Proofs.Json.Skip
import Reminders.Proofs.Time.Shift
import Reminders.Proofs.Wire

/-!
# Api — what clients see of their requests

The view of an event shows what was asked for: defaults stand for what a request leaves out, and the
seconds of its times come back as they were given.  A view can be sent back as a request for the
same event: its id names no field of a request and is passed over, and its written form is not too
large.

* `ofEvent_of_toEvent`: the view of the event that a request becomes.
* `front_encode`: a written view reads as a request.
* `toEvent_request`: this request becomes the event that was viewed.
* `CreatedEvent.decode_encode`: what the creator of an event gets back.
* `length_encode_le`: how large a written view can be.
-/

namespace Reminders

open Json Record

/-- What clients will see of the event of a request under the given id. -/
def EventRequest.view (r : EventRequest) (id : String) : EventResponse where
  id := id
  userId := r.userId
  title := r.title
  description := r.description.getD ""
  startTime := r.startTime
  endTime := r.endTime
  notifyBefore := r.notifyBefore.getD 0

/-- The request for an event like the one that is seen. -/
def EventResponse.request (v : EventResponse) : EventRequest where
  userId := v.userId
  title := v.title
  description := some v.description
  startTime := v.startTime
  endTime := v.endTime
  notifyBefore := some v.notifyBefore

/-! ### The event of a request -/

namespace EventRequest

/-- A time is seen as the second that was asked for. -/
theorem unixSecond_of_instant {seconds : Int64} {t : Instant} (h : instant seconds = .ok t) :
    Int64.ofInt t.unixSecond = seconds := by
  obtain ⟨hrank, _⟩ := Instant.rank_of_ofUnix? (instant_eq_ok.mp h)
  have hsecond : t.unixSecond = seconds.toInt := by
    rw [Instant.unixSecond]
    omega
  rw [hsecond, Int64.ofInt_toInt]

theorem instant_unixSecond {t : Instant} (h : t.nanosecond = 0) :
    instant (Int64.ofInt t.unixSecond) = .ok t := by
  have hlower := t.lower
  have hupper := t.upper
  have hrank := t.rank_eq
  have hself := t.ofUnix?_self
  rw [instant_eq_ok, Int64.toInt_ofInt_of_le (by omega) (by omega), ← h, hself]

/-- The seconds of notice are seen as they were asked for, and none if they were left out. -/
theorem toNat_of_notice {seconds : Option Int64} {n : UInt32} (h : notice seconds = .ok n) :
    Int64.ofNat n.toNat = seconds.getD 0 := by
  rw [notice] at h
  split at h
  · cases h
  · split at h
    · next hnonneg hlt =>
        obtain rfl := Except.ok.inj h
        have hvalue : ((UInt32.ofNat (seconds.getD 0).toInt.toNat).toNat : Int) =
            (seconds.getD 0).toInt := by
          rw [UInt32.toNat_ofNat']
          omega
        rw [← Int64.ofInt_eq_ofNat, hvalue, Int64.ofInt_toInt]
    · cases h

theorem notice_toNat (n : UInt32) : notice (some (Int64.ofNat n.toNat)) = .ok n := by
  have hlt := n.toNat_lt
  have hvalue : (Int64.ofNat n.toNat).toInt = n.toNat := Int64.toInt_ofNat_of_lt (by omega)
  rw [notice, Option.getD_some, hvalue, if_neg (by omega), if_pos (by omega), Int.toNat_natCast,
    UInt32.ofNat_toNat]

/-- **The view of the event of a request.** -/
theorem ofEvent_of_toEvent {r : EventRequest} {id : String} {e : Event} (h : r.toEvent id = .ok e) :
    EventResponse.ofEvent e = r.view id := by
  obtain ⟨_, hstart, hend, hnotice, _, hid, huser, htitle, hdescription⟩ := toEvent_eq_ok.mp h
  rw [EventResponse.ofEvent, view, unixSecond_of_instant hstart, unixSecond_of_instant hend,
    toNat_of_notice hnotice, hid, huser, htitle, hdescription]

end EventRequest

/-! ### Views as requests -/

namespace EventResponse

/-- **A view as a request.**  A written view reads as a request; its id is passed over. -/
theorem front_encode (v : EventResponse) :
    EventRequest.record.read.front v.encode = .ok v.request := by
  have hread : EventRequest.record.read (v.encode ++ []) = .ok (v.request, []) := by
    refine read_writeObject_of_unknown rfl (skipValue_writeText v.id)
      (?_ : Takes _ _ _ ⟨some v.userId, some v.title, some (some v.description), some v.startTime,
        some v.endTime, some (some v.notifyBefore)⟩) rfl []
    refine .cons rfl rfl (fun rest _ => Field.read_of (readText_writeText v.userId rest) _) ?_
    refine .cons rfl rfl (fun rest _ => Field.read_of (readText_writeText v.title rest) _) ?_
    refine .cons rfl rfl
      (fun rest _ => Field.read_of (readOptional_writeText v.description rest) _) ?_
    refine .cons rfl rfl (fun _ h => Field.read_of (readInt64_writeInt64 v.startTime h) _) ?_
    refine .cons rfl rfl (fun _ h => Field.read_of (readInt64_writeInt64 v.endTime h) _) ?_
    refine .cons rfl rfl (fun _ h => Field.read_of (readOptional_writeInt64 v.notifyBefore h) _) ?_
    exact .nil _
  rw [List.append_nil] at hread
  exact congrArg (Except.map Prod.fst) hread

/-- The view of an admissible event asks for this event. -/
theorem toEvent_request {e : Event} (h : e.Admissible) : (ofEvent e).request.toEvent e.id = .ok e :=
  EventRequest.toEvent_eq_ok.mpr ⟨⟨h.userId_le, h.title_le, fun s hs => by
      obtain rfl : e.description = s := Option.some.inj hs
      exact h.description_le⟩,
    EventRequest.instant_unixSecond h.startTime_whole,
    EventRequest.instant_unixSecond h.endTime_whole,
    EventRequest.notice_toNat e.notifyBefore, h.validated, rfl, rfl, rfl, rfl⟩

end EventResponse

/-! ### Created events -/

namespace CreatedEvent

/-- What the creator of an event gets back, while it is read. -/
structure Draft where
  id : Option String
  event : Option EventResponse

/-- What is read of a draft. -/
def Draft.finish (d : Draft) : Option CreatedEvent := do
  return ⟨← d.id, ← d.event⟩

/-- The fields of what the creator gets back. -/
def record : Record Draft CreatedEvent where
  fields := [
    .of "id" (·.id) (fun d v => { d with id := some v }) readText,
    .of "event" (·.event) (fun d v => { d with event := some v }) EventResponse.record.read]
  blank := ⟨none, none⟩
  finish := Draft.finish

/-- The created event that the bytes hold. -/
def decode (bytes : Bytes) : Except Fault CreatedEvent :=
  record.read.run bytes

/-- What the creator of an event gets back can be read. -/
theorem decode_encode (c : CreatedEvent) : decode c.encode = .ok c := by
  refine run_writeObject (?_ : Takes _ _ _ ⟨some c.id, some c.event⟩) rfl
  refine .cons rfl rfl (fun rest _ => Field.read_of (readText_writeText c.id rest) _) ?_
  refine .cons rfl rfl (fun rest _ => Field.read_of (c.event.read_encode rest) _) ?_
  exact .nil _

end CreatedEvent

/-! ### The size of a view -/

namespace Json

theorem length_flatMap_escape_le (bytes : Bytes) :
    (bytes.flatMap escape).length ≤ 6 * bytes.length := by
  induction bytes with
  | nil => exact Nat.zero_le _
  | cons b bytes ih =>
      have hb : (escape b).length ≤ 6 := by
        simp only [escape]
        repeat' split
        all_goals simp
      simp only [List.flatMap_cons, List.length_append, List.length_cons]
      omega

theorem length_writeText_le (s : String) : (writeText s).length ≤ 6 * s.utf8ByteSize + 2 := by
  have hbytes : (bytesOf s).length = s.utf8ByteSize := by simp [bytesOf]
  have hescaped := length_flatMap_escape_le (bytesOf s)
  simp only [writeText, List.length_cons, List.length_append, List.length_nil]
  omega

theorem length_writeObject_le (members : List (String × Bytes)) :
    (writeObject members).length ≤
      (members.map fun member => (writeMember member).length + 1).sum + 2 := by
  cases members with
  | nil => decide
  | cons member members =>
      have hrest : ∀ members : List (String × Bytes),
          (members.flatMap fun member => 0x2C :: writeMember member).length =
            (members.map fun member => (writeMember member).length + 1).sum := fun members => by
        rw [List.length_flatMap]
        rfl
      have hopen : (writeMember member).length = (writeMember member).tail.length + 1 := rfl
      rw [writeObject_cons, writeRest, List.length_cons, List.length_cons, List.length_append,
        List.length_append, hrest, List.map_cons, List.sum_cons, hopen, List.length_singleton]
      omega

end Json

theorem length_writeInt64_le (n : Int64) : (writeInt64 n).length ≤ 20 := by
  have hlower := n.le_toInt
  have hupper := n.toInt_lt
  have hdigits (m : Nat) (hm : m < 10 ^ 19) : (Text.digits m).length ≤ 19 :=
    Nat.toDigits_length 10 m 19 (by decide) hm
  rw [writeInt64, writeInteger, List.length_map]
  cases hn : n.toInt with
  | ofNat m =>
      rw [hn, Int.ofNat_eq_natCast] at hupper
      exact Nat.le_succ_of_le (hdigits m (by omega))
  | negSucc m =>
      rw [hn] at hlower
      have := hdigits (m + 1) (by omega)
      rw [Text.signedDigits, List.length_cons]
      omega

/-- The view of an admissible event is not too large for a request. -/
theorem EventResponse.length_encode_le {e : Event} (h : e.Admissible)
    (hid : e.id.utf8ByteSize ≤ 36) : (ofEvent e).encode.length ≤ Request.maxBody := by
  have hnames : ∀ name ∈ ["id", "userId", "title", "description", "startTime", "endTime",
      "notifyBefore"], (writeText name).length ≤ 14 := by
    decide
  have hmembers := length_writeObject_le [
    ("id", writeText e.id), ("userId", writeText e.userId), ("title", writeText e.title),
    ("description", writeText e.description),
    ("startTime", writeInt64 (ofEvent e).startTime), ("endTime", writeInt64 (ofEvent e).endTime),
    ("notifyBefore", writeInt64 (ofEvent e).notifyBefore)]
  simp only [List.forall_mem_cons] at hnames
  have hsizes := And.intro h.userId_le (And.intro h.title_le h.description_le)
  have hidText := length_writeText_le e.id
  have huserText := length_writeText_le e.userId
  have htitleText := length_writeText_le e.title
  have hdescriptionText := length_writeText_le e.description
  have hstart := length_writeInt64_le (ofEvent e).startTime
  have hend := length_writeInt64_le (ofEvent e).endTime
  have hnotice := length_writeInt64_le (ofEvent e).notifyBefore
  simp only [List.map_cons, List.map_nil, List.sum_cons, List.sum_nil, writeMember,
    List.length_append, List.length_cons] at hmembers
  refine Nat.le_trans hmembers ?_
  rw [Request.maxBody]
  omega

end Reminders
