import Reminders.Api.Event
import Reminders.Proofs.Notification

/-!
# Wire — what is written reads back

Requests and responses carry integers of 64 bits, and a request leaves out what its client left out.
With events, notifications and delivery statuses they make up all that is sent as a message or over
HTTP, and each of them reads back as it was written.

* `EventRequest.decode_encode`, `EventResponse.decode_encode`.
* `written_values_read_back`: all kinds of values at once, and which times read back unchanged;
  `unsettledEvent_reads_back_changed`: an event that does not.
-/

namespace Reminders

open Json Record

theorem readInt64_writeInt64 (n : Int64) {rest : Bytes} (h : AtEnd rest) :
    readInt64 (writeInt64 n ++ rest) = .ok (n, rest) := by
  have hread : readIntegerIn (-9223372036854775808) 9223372036854775807 (writeInt64 n ++ rest) =
      .ok (n.toInt, rest) :=
    readIntegerIn_writeInteger n.le_toInt (Int.le_of_lt_add_one n.toInt_lt) (by decide) (by decide) h
  rw [readInt64, reader_map _ hread, Int64.ofInt_toInt]

/-! ### Optional values -/

theorem readOptional_writeText (s : String) (rest : Bytes) :
    readOptional readText (writeText s ++ rest) = .ok (some s, rest) :=
  readOptional_cons rfl (by decide) (readText_writeText s rest)

theorem readOptional_writeInt64 (n : Int64) {rest : Bytes} (h : AtEnd rest) :
    readOptional readInt64 (writeInt64 n ++ rest) = .ok (some n, rest) := by
  have hread := readInt64_writeInt64 n h
  obtain ⟨b, bs, hwritten, hb⟩ := exists_writeInteger_cons n.toInt
  rw [writeInt64, hwritten, List.cons_append] at hread ⊢
  exact readOptional_cons (not_isSpace_of_numeral hb).1 (not_isSpace_of_numeral hb).2 hread

/-- A member that is written only if there is a value leads to the draft with that value. -/
theorem Json.Record.Takes.optional {α β δ : Type} {record : Record δ α} {draft : δ}
    {field : Field δ} {name : String} {written : β → Bytes} {members : List (String × Bytes)}
    (set : Option β → δ) {value : Option β}
    (hfield : record.fields.find? (fun field => field.name = name) = some field)
    (hnew : field.isSet (set none) = false)
    (hread : ∀ v rest, AtEnd rest →
      field.read (set none) (written v ++ rest) = .ok (set (some v), rest))
    (h : Takes record (set value) members draft) :
    Takes record (set none) ((value.map fun v => (name, written v)).toList ++ members) draft := by
  cases value with
  | none => exact h
  | some v => exact .cons hfield hnew (hread v) h

/-! ### Requests and responses -/

namespace EventRequest

/-- **A written request reads back**, whatever it leaves out. -/
theorem decode_encode (r : EventRequest) : decode r.encode = .ok r := by
  have hmembers : r.encode = writeObject (("userId", writeText r.userId) ::
      ("title", writeText r.title) ::
      ((r.description.map fun s => ("description", writeText s)).toList ++
      ("startTime", writeInt64 r.startTime) :: ("endTime", writeInt64 r.endTime) ::
      ((r.notifyBefore.map fun n => ("notifyBefore", writeInt64 n)).toList ++ []))) := by
    simp [encode]
  have hfinish : (Draft.mk (some r.userId) (some r.title) (r.description.map some)
      (some r.startTime) (some r.endTime) (r.notifyBefore.map some)).finish = some r := by
    obtain ⟨userId, title, _ | description, startTime, endTime, _ | notifyBefore⟩ := r <;> rfl
  rw [hmembers]
  refine run_writeObject ?_ hfinish
  refine .cons rfl rfl (fun rest _ => Field.read_of (readText_writeText r.userId rest) _) ?_
  refine .cons rfl rfl (fun rest _ => Field.read_of (readText_writeText r.title rest) _) ?_
  refine Takes.optional (fun d => Draft.mk (some r.userId) (some r.title) (d.map some) none none none)
    rfl rfl (fun s rest _ => Field.read_of (readOptional_writeText s rest) _) ?_
  refine .cons rfl rfl (fun _ h => Field.read_of (readInt64_writeInt64 r.startTime h) _) ?_
  refine .cons rfl rfl (fun _ h => Field.read_of (readInt64_writeInt64 r.endTime h) _) ?_
  refine Takes.optional (fun n => Draft.mk (some r.userId) (some r.title) (r.description.map some)
      (some r.startTime) (some r.endTime) (n.map some)) rfl rfl
    (fun n _ h => Field.read_of (readOptional_writeInt64 n h) _) ?_
  exact .nil _

end EventRequest

namespace EventResponse

/-- A written response reads back, whatever follows it. -/
theorem read_encode (r : EventResponse) (rest : Bytes) :
    record.read (r.encode ++ rest) = .ok (r, rest) := by
  refine read_writeObject (?_ : Takes _ _ _ ⟨some r.id, some r.userId, some r.title,
    some r.description, some r.startTime, some r.endTime, some r.notifyBefore⟩) rfl rest
  refine .cons rfl rfl (fun rest _ => Field.read_of (readText_writeText r.id rest) _) ?_
  refine .cons rfl rfl (fun rest _ => Field.read_of (readText_writeText r.userId rest) _) ?_
  refine .cons rfl rfl (fun rest _ => Field.read_of (readText_writeText r.title rest) _) ?_
  refine .cons rfl rfl (fun rest _ => Field.read_of (readText_writeText r.description rest) _) ?_
  refine .cons rfl rfl (fun _ h => Field.read_of (readInt64_writeInt64 r.startTime h) _) ?_
  refine .cons rfl rfl (fun _ h => Field.read_of (readInt64_writeInt64 r.endTime h) _) ?_
  refine .cons rfl rfl (fun _ h => Field.read_of (readInt64_writeInt64 r.notifyBefore h) _) ?_
  exact .nil _

/-- **A written response reads back.** -/
theorem decode_encode (r : EventResponse) : decode r.encode = .ok r :=
  run_of_read (r.read_encode [])

end EventResponse

/-! ### All values -/

/-- **What is written reads back.**  The bytes of an event, a notification, a delivery status, a
request or a response are read as that value, whatever texts and numbers it holds and whatever a
request leaves out.  Times read back as they are written: a value with times reads back unchanged
exactly if a clock shows all of them.  These are the times that a text can name, leap seconds at the
end of a minute included, and a shift of time does not lead away from them. -/
theorem written_values_read_back (e : Event) (n : Notification) (s : DeliveryStatus)
    (r : EventRequest) (r' : EventResponse) :
    (Event.decode e.encode = .ok e.settled ∧
      (Event.decode e.encode = .ok e ↔ e.startTime.IsClockTime ∧ e.endTime.IsClockTime)) ∧
    (Notification.decode n.encode = .ok n.settled ∧
      (Notification.decode n.encode = .ok n ↔ n.time.IsClockTime ∧ n.notifyAt.IsClockTime)) ∧
    (DeliveryStatus.decode s.encode = .ok s.settled ∧
      (DeliveryStatus.decode s.encode = .ok s ↔ s.timestamp.IsClockTime)) ∧
    EventRequest.decode r.encode = .ok r ∧ EventResponse.decode r'.encode = .ok r' ∧
    ∀ t : Instant, (t.IsClockTime ↔ ∃ text, Instant.read? text = some t) ∧
      (t.IsClockTime → ∀ nanos t', t.shift? nanos = some t' → t'.IsClockTime) := by
  refine ⟨⟨e.decode_encode, ?_⟩, ⟨n.decode_encode, ?_⟩, ⟨s.decode_encode, ?_⟩, r.decode_encode,
    r'.decode_encode, fun t => ⟨Instant.exists_read?_iff.symm, fun ht _ _ h => ht.shift? h⟩⟩
  · rw [Event.decode_encode, Except.ok.injEq, Event.settled_eq_iff]
  · rw [Notification.decode_encode, Except.ok.injEq, Notification.settled_eq_iff]
  · rw [DeliveryStatus.decode_encode, Except.ok.injEq, DeliveryStatus.settled_eq_iff]

/-- An event with a text of all kinds of characters, from a leap second before the year 0 to the
last instant. -/
def leapSecondEvent : Event where
  id := "\"\\/"
  userId := "\u0007\n\r\t\u001f"
  title := "π \u2028 😀"
  description := ""
  startTime := ⟨-62167219201 * 2000000000 + 1500000007, by decide, by decide⟩
  endTime := .latest
  notifyBefore := 4294967295

/-- A request at both ends of the range of its numbers, without a description. -/
def farRequest : EventRequest :=
  ⟨"u1", "\u0000", none, -9223372036854775808, 9223372036854775807, some (-1)⟩

theorem leapSecondEvent_reads_back :
    (leapSecondEvent.startTime.IsClockTime ∧ leapSecondEvent.endTime.IsClockTime ∧
      Event.decode leapSecondEvent.encode = .ok leapSecondEvent) ∧
    (Instant.earliest.IsClockTime ∧
      Notification.decode (Notification.forEvent leapSecondEvent .earliest).encode =
        .ok (Notification.forEvent leapSecondEvent .earliest) ∧
      DeliveryStatus.decode
        (DeliveryStatus.delivered (Notification.forEvent leapSecondEvent .earliest) .earliest).encode =
        .ok (DeliveryStatus.delivered (Notification.forEvent leapSecondEvent .earliest) .earliest)) ∧
    EventRequest.decode farRequest.encode = .ok farRequest ∧
    EventResponse.decode (EventResponse.ofEvent leapSecondEvent).encode =
      .ok (EventResponse.ofEvent leapSecondEvent) := by
  have hstart : leapSecondEvent.startTime.IsClockTime := by decide
  have hend : leapSecondEvent.endTime.IsClockTime := by decide
  have hearliest : Instant.earliest.IsClockTime := by decide
  obtain ⟨⟨_, hevent⟩, ⟨_, hnotification⟩, ⟨_, hstatus⟩, hrequest, hresponse, _⟩ :=
    written_values_read_back leapSecondEvent (.forEvent leapSecondEvent .earliest)
      (.delivered (.forEvent leapSecondEvent .earliest) .earliest) farRequest
      (.ofEvent leapSecondEvent)
  exact ⟨⟨hstart, hend, hevent.mpr ⟨hstart, hend⟩⟩,
    ⟨hearliest, hnotification.mpr ⟨hstart, hearliest⟩, hstatus.mpr hearliest⟩, hrequest, hresponse⟩

/-- An event that starts in the second half of a second that does not end a minute. -/
def unsettledEvent : Event where
  id := "a"
  userId := "u1"
  title := "Meeting"
  description := ""
  startTime := ⟨1714998605 * 2000000000 + 1500000000, by decide, by decide⟩
  endTime := ⟨1714998665 * 2000000000, by decide, by decide⟩
  notifyBefore := 0

/-- The event that starts half a second into the next second instead. -/
def settledEvent : Event :=
  { unsettledEvent with
    startTime := ⟨1714998606 * 2000000000 + 500000000, by decide, by decide⟩ }

/-- An event that starts before the next second does is read as one that starts after that, and so
is due in another window. -/
theorem unsettledEvent_reads_back_changed :
    Event.decode unsettledEvent.encode = .ok settledEvent ∧
      Event.decode unsettledEvent.encode ≠ .ok unsettledEvent ∧
      ∃ now before : Instant,
        unsettledEvent.isDue now before = true ∧ settledEvent.isDue now before = false := by
  have hsettled : unsettledEvent.settled = settledEvent := by decide
  rw [Event.decode_encode, hsettled]
  exact ⟨rfl, mt Except.ok.inj (by decide),
    ⟨1714998605 * 2000000000 + 900000000, by decide, by decide⟩,
    ⟨1714998606 * 2000000000, by decide, by decide⟩, by decide, by decide⟩

end Reminders
