import Reminders.Proofs.Api.View

/-!
# Api — the rules of a request

A request has to obey ten rules to become an event.  They are checked one after the other, and a
request that violates several of them is refused for the first one.

* `Rule.Holds`, `Rule.error`, `Rule.inOrder`: the rules, what they report and their order.
* `checks_checkSizes`, `checks_instant`, `checks_notice`, `checks_validate`: which rules each check
  enforces.
* `toEvent_enforces_rules`: which requests become an event, and why the others do not.
-/

namespace Reminders

namespace EventRequest

/-- What is asked of a request. -/
inductive Rule where
  | userIdSize
  | titleSize
  | descriptionSize
  | startTime
  | endTime
  | noticeSign
  | noticeRange
  | userIdText
  | titleText
  | interval
deriving DecidableEq

/-- The seconds of notice that a request asks for. -/
def noticeSeconds (r : EventRequest) : Int :=
  (r.notifyBefore.getD 0).toInt

/-- The Unix second lies in the span of instants. -/
def InSpan (seconds : Int64) : Prop :=
  Instant.earliest.unixSecond ≤ seconds.toInt ∧ seconds.toInt ≤ Instant.latest.unixSecond

instance (seconds : Int64) : Decidable (InSpan seconds) :=
  inferInstanceAs (Decidable (_ ∧ _))

/-- The instant at the start of a Unix second that lies in the span. -/
def atSecond (seconds : Int64) : Instant :=
  (Instant.ofUnix? seconds.toInt 0).getD .earliest

namespace Rule

/-- The request obeys the rule. -/
def Holds (r : EventRequest) : Rule → Prop
  | userIdSize => r.userId.utf8ByteSize ≤ 256
  | titleSize => r.title.utf8ByteSize ≤ 1024
  | descriptionSize => ∀ s ∈ r.description, s.utf8ByteSize ≤ 10240
  | startTime => InSpan r.startTime
  | endTime => InSpan r.endTime
  | noticeSign => 0 ≤ r.noticeSeconds
  | noticeRange => r.noticeSeconds ≤ 4294967295
  | userIdText => ∃ c ∈ r.userId.toList, Text.isBlankChar c = false
  | titleText => ∃ c ∈ r.title.toList, Text.isBlankChar c = false
  | interval => r.startTime < r.endTime

instance (r : EventRequest) (rule : Rule) : Decidable (rule.Holds r) :=
  match rule with
  | userIdSize => inferInstanceAs (Decidable (r.userId.utf8ByteSize ≤ 256))
  | titleSize => inferInstanceAs (Decidable (r.title.utf8ByteSize ≤ 1024))
  | descriptionSize => inferInstanceAs (Decidable (∀ s ∈ r.description, s.utf8ByteSize ≤ 10240))
  | startTime => inferInstanceAs (Decidable (InSpan r.startTime))
  | endTime => inferInstanceAs (Decidable (InSpan r.endTime))
  | noticeSign => inferInstanceAs (Decidable (0 ≤ r.noticeSeconds))
  | noticeRange => inferInstanceAs (Decidable (r.noticeSeconds ≤ 4294967295))
  | userIdText => List.decidableBEx (Text.isBlankChar · = false) r.userId.toList
  | titleText => List.decidableBEx (Text.isBlankChar · = false) r.title.toList
  | interval => inferInstanceAs (Decidable (r.startTime < r.endTime))

/-- What is reported of a request that violates the rule. -/
def error (r : EventRequest) : Rule → EventError
  | userIdSize => .tooLarge "userId" 256
  | titleSize => .tooLarge "title" 1024
  | descriptionSize => .tooLarge "description" 10240
  | startTime => .invalidTimestamp r.startTime.toInt
  | endTime => .invalidTimestamp r.endTime.toInt
  | noticeSign => .negativeNotifyBefore r.noticeSeconds
  | noticeRange => .notifyBeforeOutOfRange r.noticeSeconds
  | userIdText => .missingUserId
  | titleText => .missingTitle
  | interval => .invalidInterval (atSecond r.startTime) (atSecond r.endTime)

/-- The rules in the order in which they are checked. -/
def inOrder : List Rule :=
  [userIdSize, titleSize, descriptionSize, startTime, endTime, noticeSign, noticeRange, userIdText,
    titleText, interval]

/-- The rules in the same order, by the checks that enforce them. -/
theorem inOrder_eq : inOrder = [userIdSize, titleSize, descriptionSize] ++ ([startTime] ++
    ([endTime] ++ ([noticeSign, noticeRange] ++ ([userIdText, titleText, interval] ++ [])))) :=
  rfl

end Rule

variable {r : EventRequest} {seconds : Int64} {t : Instant}

/-! ### Instants -/

theorem instant_of_inSpan (h : InSpan seconds) : instant seconds = .ok (atSecond seconds) := by
  obtain ⟨hlower, hupper⟩ := h
  have hearliest : Instant.earliest.unixSecond = -8334601228800 := by decide
  have hlatest : Instant.latest.unixSecond = 8210266876799 := by decide
  rw [hearliest] at hlower
  rw [hlatest] at hupper
  have hsome : Instant.ofUnix? seconds.toInt 0 =
      some ⟨seconds.toInt * 2000000000 + 0, by omega, by omega⟩ := by
    rw [Instant.ofUnix?, if_pos (by decide), Instant.ofRank?, dif_pos ⟨by omega, by omega⟩]
  rw [atSecond, instant, hsome, Option.getD_some]

theorem instant_of_not_inSpan (h : ¬ InSpan seconds) :
    instant seconds = .error (.invalidTimestamp seconds.toInt) := by
  rw [instant]
  cases ht : Instant.ofUnix? seconds.toInt 0 with
  | none => rfl
  | some t =>
      -- Every instant lies in the span.
      obtain ⟨hrank, _⟩ := Instant.rank_of_ofUnix? ht
      have hlower := t.lower
      have hupper := t.upper
      have hearliest : Instant.earliest.unixSecond = -8334601228800 := by decide
      have hlatest : Instant.latest.unixSecond = 8210266876799 := by decide
      exact absurd ⟨by omega, by omega⟩ h

theorem atSecond_eq (h : instant seconds = .ok t) : atSecond seconds = t := by
  rw [atSecond, instant_eq_ok.mp h, Option.getD_some]

/-- Instants are in the order of their seconds. -/
theorem lt_iff_of_instant {seconds' : Int64} {t' : Instant} (h : instant seconds = .ok t)
    (h' : instant seconds' = .ok t') : t < t' ↔ seconds < seconds' := by
  obtain ⟨hrank, _⟩ := Instant.rank_of_ofUnix? (instant_eq_ok.mp h)
  obtain ⟨hrank', _⟩ := Instant.rank_of_ofUnix? (instant_eq_ok.mp h')
  rw [Instant.lt_def, Int64.lt_iff_toInt_lt]
  omega

/-! ### The checks -/

theorem isBlank_eq_false_iff {s : String} :
    Text.isBlank s = false ↔ ∃ c ∈ s.toList, Text.isBlankChar c = false := by
  rw [Text.isBlank, List.all_eq_false]
  simp only [Bool.not_eq_true]

theorem checks_checkSize (rule : Rule) {field s : String} {limit : Nat}
    (hholds : rule.Holds r ↔ s.utf8ByteSize ≤ limit)
    (herror : rule.error r = .tooLarge field limit) :
    Checks (Rule.Holds r) (Rule.error r) [rule] (checkSize field limit s) := by
  rw [checkSize, ← herror]
  exact .of_ite rule hholds.symm ()

theorem checks_checkSizes (r : EventRequest) :
    Checks (Rule.Holds r) (Rule.error r) [.userIdSize, .titleSize, .descriptionSize]
      (checkSizes r.userId r.title r.description) := by
  refine (checks_checkSize .userIdSize Iff.rfl rfl).bind fun _ _ => ?_
  refine (checks_checkSize .titleSize Iff.rfl rfl).bind fun _ _ => ?_
  cases hd : r.description with
  | none => exact .obeyed (by simp [Rule.Holds, hd]) (.passed ())
  | some s =>
      exact checks_checkSize .descriptionSize (by simp [Rule.Holds, hd, maxDescription]) rfl

theorem checks_instant (rule : Rule) (seconds : Int64) (hholds : rule.Holds r ↔ InSpan seconds)
    (herror : rule.error r = .invalidTimestamp seconds.toInt) :
    Checks (Rule.Holds r) (Rule.error r) [rule] (instant seconds) := by
  by_cases h : InSpan seconds
  · rw [instant_of_inSpan h]
    exact .obeyed (hholds.mpr h) (.passed _)
  · rw [instant_of_not_inSpan h, ← herror]
    exact .violated fun hrule => h (hholds.mp hrule)

theorem checks_notice (r : EventRequest) :
    Checks (Rule.Holds r) (Rule.error r) [.noticeSign, .noticeRange] (notice r.notifyBefore) := by
  rw [notice]
  split
  · next hneg => exact .violated (Int.not_le.mpr hneg)
  · next hneg =>
      exact .obeyed (Int.not_lt.mp hneg) (.of_ite Rule.noticeRange Int.le_sub_one_iff.symm _)

/-- The rules of every stored event are checked last. -/
theorem checks_validate {e : Event} (huser : e.userId = r.userId) (htitle : e.title = r.title)
    (hstart : instant r.startTime = .ok e.startTime) (hend : instant r.endTime = .ok e.endTime) :
    Checks (Rule.Holds r) (Rule.error r) [.userIdText, .titleText, .interval] e.validate := by
  have herror : Rule.interval.error r = .invalidInterval e.startTime e.endTime := by
    rw [Rule.error, atSecond_eq hstart, atSecond_eq hend]
  have hinterval : e.startTime < e.endTime ↔ Rule.interval.Holds r := lt_iff_of_instant hstart hend
  rw [Event.validate, huser, htitle, ← herror]
  split
  · next hblank =>
      refine .violated fun h => ?_
      rw [isBlank_eq_false_iff.mpr h] at hblank
      cases hblank
  · next huser =>
      refine .obeyed (isBlank_eq_false_iff.mp (Bool.eq_false_iff.mpr huser)) ?_
      split
      · next hblank =>
          refine .violated fun h => ?_
          rw [isBlank_eq_false_iff.mpr h] at hblank
          cases hblank
      · next htitle =>
          refine .obeyed (isBlank_eq_false_iff.mp (Bool.eq_false_iff.mpr htitle)) ?_
          exact .of_ite Rule.interval hinterval ()

/-- The rules of a request are checked in order. -/
theorem checks_toEvent (r : EventRequest) (id : String) :
    Checks (Rule.Holds r) (Rule.error r) Rule.inOrder (r.toEvent id) := by
  rw [Rule.inOrder_eq, toEvent]
  refine (checks_checkSizes r).bind fun _ _ => ?_
  refine (checks_instant .startTime r.startTime Iff.rfl rfl).bind fun start hstart => ?_
  refine (checks_instant .endTime r.endTime Iff.rfl rfl).bind fun finish hend => ?_
  refine (checks_notice r).bind fun notifyBefore _ => ?_
  exact (checks_validate rfl rfl hstart hend).bind fun _ _ => .passed _

/-- **The rules of a request.**  A request becomes an event exactly if it obeys all rules.
Otherwise the error is that of the first rule that it violates.  The view of the event shows what
was asked for, under the given id and with defaults for what was left out. -/
theorem toEvent_enforces_rules (r : EventRequest) (id : String) :
    ((∃ e, r.toEvent id = .ok e) ↔ ∀ rule ∈ Rule.inOrder, rule.Holds r) ∧
      (∀ error, r.toEvent id = .error error ↔
        ∃ before rule after, Rule.inOrder = before ++ rule :: after ∧
          (∀ earlier ∈ before, earlier.Holds r) ∧ ¬ rule.Holds r ∧ error = rule.error r) ∧
      ∀ e, r.toEvent id = .ok e → EventResponse.ofEvent e = {
        id := id
        userId := r.userId
        title := r.title
        description := r.description.getD ""
        startTime := r.startTime
        endTime := r.endTime
        notifyBefore := r.notifyBefore.getD 0 } :=
  ⟨(checks_toEvent r id).ok_iff, fun _ => (checks_toEvent r id).error_iff,
    fun _ he => ofEvent_of_toEvent he⟩

/-- A request for the last two seconds of the span, with the longest notice. -/
def lastSeconds : EventRequest where
  userId := "u1"
  title := "Meeting"
  description := none
  startTime := 8210266876798
  endTime := 8210266876799
  notifyBefore := some 4294967295

/-- The last seconds can be asked for.  With a blank title and no time between the start and the
end, the title is reported; where the end lies outside the span, the end is. -/
theorem lastSeconds_enforce_rules :
    (∃ e, lastSeconds.toEvent "a" = .ok e ∧ EventResponse.ofEvent e =
        ⟨"a", "u1", "Meeting", "", 8210266876798, 8210266876799, 4294967295⟩) ∧
      ({ lastSeconds with title := "\u3000", startTime := 8210266876799 }).toEvent "a" =
        .error .missingTitle ∧
      ({ lastSeconds with title := "\u3000", endTime := 8210266876800 }).toEvent "a" =
        .error (.invalidTimestamp 8210266876800) := by
  refine ⟨?_, ?_, ?_⟩
  · obtain ⟨hok, _, hview⟩ := toEvent_enforces_rules lastSeconds "a"
    obtain ⟨e, he⟩ := hok.mpr (by decide +kernel)
    exact ⟨e, he, hview e he⟩
  · refine ((toEvent_enforces_rules _ "a").2.1 _).mpr
      ⟨[.userIdSize, .titleSize, .descriptionSize, .startTime, .endTime, .noticeSign, .noticeRange,
        .userIdText], .titleText, [.interval], rfl, by decide +kernel, by decide +kernel, rfl⟩
  · refine ((toEvent_enforces_rules _ "a").2.1 _).mpr
      ⟨[.userIdSize, .titleSize, .descriptionSize, .startTime], .endTime,
        [.noticeSign, .noticeRange, .userIdText, .titleText, .interval], rfl, by decide +kernel,
        by decide +kernel, rfl⟩

end EventRequest

end Reminders
