import Mathlib.Data.List.Chain
import Reminders.Proofs.Scheduler.Memory
import Reminders.Proofs.Time.Nanos

/-!
# Scheduler — windows

The *window* of a tick begins after its reading and ends one interval later, its end included.  An
event is due at a tick exactly when its notice falls into the window.  Windows of successive ticks
that do not leave a gap catch every notice, and windows that do not overlap catch none twice.

* `hasBounds`: the ends of windows, and the cutoffs of ticks.
* `inWindow_or_fallsBetween`: a notice that is missed by all windows falls between two of them.
* `not_inWindow_of_fallsBetween`: such a notice is really missed.
* `windows_catch_each_notice_once`: what some ticks find due of an event that the store holds
  throughout.
* `leapMeeting_is_due_past_last_window`: why readings in the last leap second are left out.
-/

namespace Reminders

instance : Trans (α := Instant) (β := Instant) (γ := Instant) (· < ·) (· < ·) (· < ·) where
  trans := Int.lt_trans

/-- No later reading comes before the first one. -/
theorem Instant.head_le_of_isChain {first now : Instant} {readings : List Instant}
    (h : (first :: readings).IsChain (· < ·)) (hnow : now ∈ first :: readings) : first ≤ now := by
  rcases List.mem_cons.mp hnow with rfl | hnow
  · exact Int.le_refl _
  · exact Int.le_of_lt (List.rel_of_pairwise_cons h.pairwise hnow)

namespace Event

variable {e : Event} {now before : Instant}

/-- No notice is later than the start of its event. -/
theorem notifyAt_le {t : Instant} (h : e.notifyAt = some t) : t ≤ e.startTime :=
  Instant.le_of_shift?_neg h

/-- The start of the event takes no part: the notice is not later. -/
theorem isDue_iff {t : Instant} (h : e.notifyAt = some t) :
    e.isDue now before = true ↔ now < t ∧ t ≤ before := by
  have hstart := notifyAt_le h
  simp only [isDue, h, Bool.and_eq_true, decide_eq_true_eq, Instant.lt_def, Instant.le_def]
    at hstart ⊢
  omega

end Event

namespace SchedulerConfig

/-- The end of the window and the cutoff of a tick at `now`: the reading moved forward by the
interval and back by the retention period, or the last and the first instant if there is no such
instant.  Outside leap seconds they are integers that stop at the ends of the span. -/
structure HasBounds (config : SchedulerConfig) (now : Instant) : Prop where
  windowEnd : config.windowEnd now = (now.shift? config.interval).getD .latest
  cutoff : config.cutoff now = (now.shift? (-(config.retention : Int))).getD .earliest
  windowEndNanos : now.IsRegular → (config.windowEnd now).IsRegular ∧
    (config.windowEnd now).nanos = min (now.nanos + config.interval) Instant.latest.nanos
  cutoffNanos : now.IsRegular → (config.cutoff now).IsRegular ∧
    (config.cutoff now).nanos = max (now.nanos - config.retention) Instant.earliest.nanos

theorem hasBounds (config : SchedulerConfig) (now : Instant) : config.HasBounds now where
  windowEnd := now.later_eq config.interval
  cutoff := now.earlier_eq config.retention
  windowEndNanos h := Instant.nanos_later h config.interval
  cutoffNanos h := Instant.nanos_earlier h config.retention

/-! ### Windows -/

variable {c : SchedulerConfig} {readings : List Instant} {now next first last t : Instant}

/-- The instant lies in the window of a tick at `now`. -/
def InWindow (c : SchedulerConfig) (now t : Instant) : Prop :=
  now < t ∧ t ≤ c.windowEnd now

instance (c : SchedulerConfig) (now t : Instant) : Decidable (c.InWindow now t) :=
  inferInstanceAs (Decidable (_ ∧ _))

/-- The instant comes after one of two successive readings and past its window, and not after the
other one. -/
def FallsBetween (c : SchedulerConfig) (readings : List Instant) (t : Instant) : Prop :=
  ∃ now next, [now, next] <:+: readings ∧ now < t ∧ c.windowEnd now < t ∧ t ≤ next

theorem FallsBetween.cons (h : c.FallsBetween readings t) : c.FallsBetween (now :: readings) t := by
  obtain ⟨now', next, hinfix, h⟩ := h
  exact ⟨now', next, List.infix_cons hinfix, h⟩

/-- **Between two windows.**  An instant after the first reading that is not past the last one or
its window lies in a window or falls between two of them. -/
theorem inWindow_or_fallsBetween (hlast : (first :: readings).getLast? = some last)
    (hafter : first < t) (hupto : t ≤ last ∨ t ≤ c.windowEnd last) :
    (∃ now ∈ first :: readings, c.InWindow now t) ∨ c.FallsBetween (first :: readings) t := by
  -- By induction on the later readings: the first tick catches the instant, or misses it for good,
  -- or leaves it to the next one.
  induction readings generalizing first with
  | nil =>
      obtain rfl : first = last := Option.some.inj hlast
      refine .inl ⟨first, List.mem_singleton.mpr rfl, hafter, ?_⟩
      rcases hupto with h | h
      · exact absurd h (Int.not_le.mpr hafter)
      · exact h
  | cons second readings ih =>
      rw [List.getLast?_cons_cons] at hlast
      by_cases hsecond : second < t
      · rcases ih hlast hsecond with ⟨now, hnow, h⟩ | h
        · exact .inl ⟨now, List.mem_cons_of_mem _ hnow, h⟩
        · exact .inr h.cons
      · have hle : t ≤ second := Int.not_lt.mp hsecond
        by_cases hend : t ≤ c.windowEnd first
        · exact .inl ⟨first, List.mem_cons_self, hafter, hend⟩
        · exact .inr ⟨first, second, ⟨[], readings, rfl⟩, hafter, Int.not_le.mp hend, hle⟩

/-- Windows that leave no gap catch every notice. -/
theorem one_le_countP_inWindow
    (hchain : (first :: readings).IsChain fun now next => next ≤ c.windowEnd now)
    (hlast : (first :: readings).getLast? = some last) (hafter : first < t)
    (hupto : t ≤ last ∨ t ≤ c.windowEnd last) :
    1 ≤ (first :: readings).countP fun now => c.InWindow now t := by
  rcases inWindow_or_fallsBetween hlast hafter hupto with ⟨now, hnow, h⟩ | h
  · exact List.countP_pos_iff.mpr ⟨now, hnow, decide_eq_true h⟩
  · obtain ⟨now, next, hinfix, _, hend, hnext⟩ := h
    have hpair := List.IsChain.infix hchain hinfix
    exact absurd (Int.le_trans hnext hpair.rel) (Int.not_le.mpr hend)

/-- The second reading comes after the first one and not within its window. -/
def Spaced (c : SchedulerConfig) (now next : Instant) : Prop :=
  now < next ∧ c.windowEnd now ≤ next

instance (c : SchedulerConfig) (now next : Instant) : Decidable (c.Spaced now next) :=
  inferInstanceAs (Decidable (_ ∧ _))

instance (c : SchedulerConfig) : Trans c.Spaced c.Spaced c.Spaced where
  trans h h' := ⟨Int.lt_trans h.1 h'.1, Int.le_trans h.2 (Int.le_of_lt h'.1)⟩

theorem Spaced.not_inWindow (h : c.Spaced now next) (hnow : c.InWindow now t) :
    ¬ c.InWindow next t :=
  fun hnext => Int.not_le.mpr hnext.1 (Int.le_trans hnow.2 h.2)

/-- What falls between two windows of spaced readings lies in no window. -/
theorem not_inWindow_of_fallsBetween (hchain : readings.IsChain c.Spaced)
    (h : c.FallsBetween readings t) (hnow : now ∈ readings) : ¬ c.InWindow now t := by
  obtain ⟨prev, next, ⟨early, late, rfl⟩, hafter, hpast, hupto⟩ := h
  have hpairwise := hchain.pairwise
  rw [List.append_assoc, List.pairwise_append] at hpairwise
  obtain ⟨_, hrest, hearly⟩ := hpairwise
  simp only [List.append_assoc, List.mem_append, List.cons_append, List.nil_append, List.mem_cons,
    List.pairwise_cons] at hnow hrest hearly
  rintro ⟨hlt, hle⟩
  rcases hnow with hnow | rfl | rfl | hnow
  · have hspaced := hearly now hnow prev (.inl rfl)
    exact Int.not_le.mpr hafter (Int.le_trans hle hspaced.2)
  · exact Int.not_le.mpr hpast hle
  · exact Int.not_le.mpr hlt hupto
  · have hspaced := hrest.2.1 now hnow
    exact Int.not_le.mpr (Int.lt_trans hspaced.1 hlt) hupto

/-- Windows of spaced readings catch no notice twice. -/
theorem countP_inWindow_le_one (hchain : readings.IsChain c.Spaced) (t : Instant) :
    readings.countP (fun now => c.InWindow now t) ≤ 1 := by
  have hpairwise := hchain.pairwise
  clear hchain
  induction readings with
  | nil => exact Nat.zero_le 1
  | cons now readings ih =>
      obtain ⟨hnow, hrest⟩ := List.pairwise_cons.mp hpairwise
      by_cases h : c.InWindow now t
      · have hnone : readings.countP (fun now => c.InWindow now t) = 0 :=
          List.countP_eq_zero.mpr fun next hnext => by
            simpa using (hnow next hnext).not_inWindow h
        rw [List.countP_cons_of_pos (by simpa using h), hnone, Nat.zero_add]
      · rw [List.countP_cons_of_neg (by simpa using h)]
        exact ih hrest

/-- What comes after the last reading and past its window lies in no earlier window either. -/
theorem not_inWindow_of_past (hchain : readings.IsChain c.Spaced)
    (hlast : readings.getLast? = some last) (hafter : last < t) (hpast : c.windowEnd last < t)
    (hnow : now ∈ readings) : ¬ c.InWindow now t := by
  rintro ⟨_, hle⟩
  obtain ⟨early, rfl⟩ := List.getLast?_eq_some_iff.mp hlast
  rcases List.mem_append.mp hnow with hnow | hnow
  · have hspaced : c.Spaced now last :=
      (List.pairwise_append.mp hchain.pairwise).2.2 now hnow last (List.mem_singleton.mpr rfl)
    exact Int.not_le.mpr hafter (Int.le_trans hle hspaced.2)
  · obtain rfl := List.mem_singleton.mp hnow
    exact Int.not_le.mpr hpast hle

/-- **Windows that follow one another** catch a notice once if it comes after the first reading and
not past both the last one and its window, and otherwise never. -/
theorem countP_inWindow (hincreasing : (first :: readings).IsChain (· < ·))
    (hchain : (first :: readings).IsChain fun now next => next = c.windowEnd now)
    (hlast : (first :: readings).getLast? = some last) (t : Instant) :
    ((first :: readings).countP fun now => c.InWindow now t) =
      if first < t ∧ (t ≤ last ∨ t ≤ c.windowEnd last) then 1 else 0 := by
  have hspaced : (first :: readings).IsChain c.Spaced :=
    List.isChain_iff_getElem.mpr fun i hi =>
      ⟨hincreasing.getElem i hi, Int.le_of_eq (congrArg Instant.rank (hchain.getElem i hi).symm)⟩
  split
  · next h =>
      have hgapless : (first :: readings).IsChain fun now next => next ≤ c.windowEnd now :=
        hchain.imp fun _ _ h => Int.le_of_eq (congrArg Instant.rank h)
      exact Nat.le_antisymm (countP_inWindow_le_one hspaced t)
        (one_le_countP_inWindow hgapless hlast h.1 h.2)
  · next h =>
      refine List.countP_eq_zero.mpr fun now hnow hin => ?_
      have hin : c.InWindow now t := of_decide_eq_true hin
      have hafter : first < t :=
        Int.lt_of_le_of_lt (Instant.head_le_of_isChain hincreasing hnow) hin.1
      rw [not_and, not_or] at h
      obtain ⟨hupto, hpast⟩ := h hafter
      exact not_inWindow_of_past hspaced hlast (Int.not_le.mp hupto) (Int.not_le.mp hpast) hnow hin

/-- The last one of several readings is where the window before it ends, so it lies in the leap
second that ends the span only if the interval is shorter than a second. -/
theorem last_le_latest (hchain : (first :: readings).IsChain fun now next => next = c.windowEnd now)
    (hlast : (first :: readings).getLast? = some last) (hlong : 1000000000 ≤ c.interval)
    (hlater : first < last) : last ≤ Instant.latest := by
  obtain ⟨early, hreadings⟩ := List.getLast?_eq_some_iff.mp hlast
  rcases early.eq_nil_or_concat' with rfl | ⟨early, prev, rfl⟩
  · obtain ⟨rfl, _⟩ := List.cons.inj hreadings
    exact absurd hlater (Int.lt_irrefl _)
  · have hinfix : [prev, last] <:+: first :: readings := ⟨early, [], by simp [hreadings]⟩
    have hpair := List.IsChain.infix hchain hinfix
    rw [hpair.rel]
    exact Instant.later_le_latest hlong

end SchedulerConfig

/-! ### What ticks find due -/

/-- The store holds the event and no other one of its id, and so lists it when it is due. -/
def EventStore.Holds {σ : Type} (store : EventStore (StateM σ)) (e : Event) (w : σ) : Prop :=
  ∀ now before, ∃ es, (store.listDueBefore now before w).1 = .ok es ∧
    (e ∈ es ↔ e.isDue now before = true) ∧ ∀ e' ∈ es, e'.id = e.id → e' = e

theorem MemoryStore.holds {s : MemoryStore} {e : Event} (hs : s.WellKept) (he : s.Stores e.id e) :
    MemoryStore.store.Holds e s := by
  intro now before
  have hlists := hs.lists_collect fun e => e.isDue now before
  refine ⟨_, rfl, ?_, fun e' h hid => ?_⟩
  · rw [hlists.mem_iff]
    exact ⟨fun h => h.2, fun h => ⟨⟨e.id, he⟩, h⟩⟩
  · obtain ⟨⟨id, h⟩, _⟩ := (hlists.mem_iff e').mp h
    obtain rfl := hs.keyed h
    exact (hid ▸ h).unique he

namespace Scheduler

variable {σ : Type}

/-- The events that a tick finds due: what the store lists at the reading of the tick, in the state
that the tick meets. -/
def dueAt (s : Scheduler (StateM σ)) (tick : σ × Instant) : List Event :=
  (s.store.listDueBefore tick.2 (s.config.windowEnd tick.2) tick.1).1.toOption.getD []

theorem mem_dueAt {s : Scheduler (StateM σ)} {e : Event} {t : Instant} (ht : e.notifyAt = some t)
    {tick : σ × Instant} (h : s.store.Holds e tick.1) :
    e ∈ s.dueAt tick ↔ s.config.InWindow tick.2 t := by
  obtain ⟨es, hes, hmem, _⟩ := h tick.2 (s.config.windowEnd tick.2)
  rw [dueAt, hes]
  exact hmem.trans (Event.isDue_iff ht)

/-- How many of some ticks find an event due. -/
theorem countP_dueAt {s : Scheduler (StateM σ)} {e : Event} {t : Instant} (ht : e.notifyAt = some t)
    {ticks : List (σ × Instant)} (hholds : ∀ tick ∈ ticks, s.store.Holds e tick.1) :
    (ticks.countP fun tick => e ∈ s.dueAt tick) =
      (ticks.map Prod.snd).countP fun now => s.config.InWindow now t := by
  rw [List.countP_map]
  exact List.countP_congr fun tick htick => by simp [mem_dueAt ht (hholds tick htick)]

theorem holds_inMemory (config : SchedulerConfig) {s : MemoryStore} {c : MemoryChannel} {e : Event}
    (hs : s.WellKept) (he : s.Stores e.id e) : (inMemory config).store.Holds e (s, c) :=
  MemoryStore.holds hs he

/-- A store with a single event holds it. -/
theorem holds_single (config : SchedulerConfig) (c : MemoryChannel) {e : Event} (hid : e.id ≠ "") :
    (inMemory config).store.Holds e (MemoryStore.empty.put e, c) :=
  holds_inMemory config
    (MemoryStore.WellKept.empty.put hid fun _ _ h => absurd h MemoryStore.not_stores_empty)
    (MemoryStore.stores_put.mpr (.inl ⟨rfl, rfl⟩))

/-- **Each notice falls into one window.**  Let a scheduler meet these states at the readings of its
ticks, which increase, and let its store hold the event in all of them.  The event is due at a tick
exactly if its notice falls into the window of the tick, which ends one interval after the reading
or where time does; so it is not due once its notice has come or it has started.  If the windows
leave no gap, it is due at some tick.  If they do not overlap, it is due at no more than one.  If
each window ends where the next one begins, it is due at one tick or at none, depending on whether
its notice comes after the first reading and not after the end of the last window.  Ticks of an
interval below a second may share the leap second in which time ends, and the last window may then
stop at an instant before its reading, which takes the place of its end. -/
theorem windows_catch_each_notice_once {s : Scheduler (StateM σ)} {e : Event} {t : Instant}
    (ht : e.notifyAt = some t) {ticks : List (σ × Instant)}
    (hholds : ∀ tick ∈ ticks, s.store.Holds e tick.1)
    (hincreasing : (ticks.map Prod.snd).IsChain (· < ·)) {first last : Instant}
    (hfirst : (ticks.map Prod.snd).head? = some first)
    (hlast : (ticks.map Prod.snd).getLast? = some last) :
    (∀ tick ∈ ticks, s.config.HasBounds tick.2 ∧
      (e ∈ s.dueAt tick ↔ tick.2 < t ∧ t ≤ s.config.windowEnd tick.2)) ∧
    ((ticks.map Prod.snd).IsChain (fun now next => next ≤ s.config.windowEnd now) →
      first < t → t ≤ s.config.windowEnd last → 1 ≤ ticks.countP fun tick => e ∈ s.dueAt tick) ∧
    ((ticks.map Prod.snd).IsChain (fun now next => s.config.windowEnd now ≤ next) →
      (ticks.countP fun tick => e ∈ s.dueAt tick) ≤ 1) ∧
    ((ticks.map Prod.snd).IsChain (fun now next => next = s.config.windowEnd now) →
      (first < t ∧ t ≤ s.config.windowEnd last →
        (ticks.countP fun tick => e ∈ s.dueAt tick) = 1) ∧
      (¬ (first < t ∧ t ≤ s.config.windowEnd last) →
        (s.config.interval < 1000000000 → s.config.windowEnd last = Instant.latest →
          last ≤ Instant.latest) →
        (ticks.countP fun tick => e ∈ s.dueAt tick) = 0) ∧
      (s.config.windowEnd last = Instant.latest → Instant.latest < last →
        (ticks.countP fun tick => e ∈ s.dueAt tick) = if first < t ∧ t ≤ last then 1 else 0)) ∧
    ∀ tick ∈ ticks, t ≤ tick.2 ∨ e.startTime ≤ tick.2 → e ∉ s.dueAt tick := by
  rw [countP_dueAt ht hholds]
  have hdue : ∀ tick ∈ ticks, e ∈ s.dueAt tick ↔ s.config.InWindow tick.2 t :=
    fun tick htick => mem_dueAt ht (hholds tick htick)
  generalize ticks.map Prod.snd = readings at hincreasing hfirst hlast ⊢
  obtain ⟨rest, rfl⟩ := List.head?_eq_some_iff.mp hfirst
  refine ⟨fun tick htick => ⟨s.config.hasBounds tick.2, hdue tick htick⟩,
    fun hchain hafter hupto => ?_, fun hchain => ?_, fun hchain => ?_,
    fun tick htick h hmem => ?_⟩
  · exact SchedulerConfig.one_le_countP_inWindow hchain hlast hafter (.inr hupto)
  · exact SchedulerConfig.countP_inWindow_le_one (List.isChain_iff_getElem.mpr fun i hi =>
      ⟨hincreasing.getElem i hi, hchain.getElem i hi⟩) t
  · rw [SchedulerConfig.countP_inWindow hincreasing hchain hlast]
    refine ⟨fun h => if_pos ⟨h.1, .inr h.2⟩, fun h hspan => if_neg ?_, fun hend hleap => ?_⟩
    · rintro ⟨hafter, hupto | hupto⟩
      · refine h ⟨hafter, Int.le_trans hupto (Int.not_lt.mp fun hbefore => ?_)⟩
        -- The last window ends before it begins, so its reading lies in the last leap second.
        obtain ⟨hend, hleap⟩ := Instant.later_lt_iff.mp hbefore
        by_cases hshort : s.config.interval < 1000000000
        · exact Int.not_le.mpr hleap (hspan hshort hend)
        · have hlater : first < last := Int.lt_of_lt_of_le hafter hupto
          exact Int.not_le.mpr hleap
            (SchedulerConfig.last_le_latest hchain hlast (Nat.not_lt.mp hshort) hlater)
      · exact h ⟨hafter, hupto⟩
    · have hupto : t ≤ last ∨ t ≤ s.config.windowEnd last ↔ t ≤ last :=
        or_iff_left_of_imp fun h => Int.le_trans h (Int.le_of_lt (hend ▸ hleap))
      simp only [hupto]
  · have hle : t ≤ tick.2 := h.elim id (Int.le_trans (Event.notifyAt_le ht))
    exact Int.not_le.mpr ((hdue tick htick).mp hmem).1 hle

/-- A meeting in the last minute of time. -/
def lastMeeting : Event where
  id := "a"
  userId := "u1"
  title := "Meeting"
  description := ""
  startTime := ⟨8210266876790 * 2000000000, by omega, by omega⟩
  endTime := ⟨8210266876795 * 2000000000, by omega, by omega⟩
  notifyBefore := 0

/-- An instant some seconds before the end of time. -/
def beforeEnd (seconds : Fin 1000) : Instant :=
  ⟨(8210266876799 - seconds) * 2000000000, by omega, by omega⟩

/-- The states and readings of two ticks, of which the second one looks beyond the end of time. -/
def lastTicks : List ((MemoryStore × MemoryChannel) × Instant) :=
  let w := (MemoryStore.empty.put lastMeeting, MemoryChannel.ofBindings "notifications" [])
  [(w, beforeEnd 99), (w, beforeEnd 39)]

theorem lastMeeting_is_due_once :
    lastMeeting.notifyAt = some lastMeeting.startTime ∧
      (∀ tick ∈ lastTicks, (inMemory {}).store.Holds lastMeeting tick.1) ∧
      (inMemory {}).config.windowEnd (beforeEnd 39) = Instant.latest ∧
      (lastTicks.countP fun tick => lastMeeting ∈ (inMemory {}).dueAt tick) = 1 := by
  have hholds : ∀ tick ∈ lastTicks, (inMemory {}).store.Holds lastMeeting tick.1 := by
    intro tick htick
    rcases List.mem_pair.mp htick with rfl | rfl <;> exact holds_single {} _ (by decide)
  have hwindows := windows_catch_each_notice_once (s := inMemory {}) (e := lastMeeting)
    (t := lastMeeting.startTime) (by decide) hholds (by decide)
    (show _ = some (beforeEnd 99) from rfl) (show _ = some (beforeEnd 39) from rfl)
  exact ⟨by decide, hholds, by decide,
    (hwindows.2.2.2.1 (by decide)).1 ⟨by decide, by decide⟩⟩

/-! ### The leap second in which time ends -/

/-- An instant in the leap second that follows the last second of the span. -/
def inLastLeap (milliseconds : Fin 1000) : Instant :=
  ⟨8210266876799 * 2000000000 + 1000000000 + milliseconds * 1000000, by omega, by omega⟩

/-- A meeting in that leap second. -/
def leapMeeting : Event where
  id := "a"
  userId := "u1"
  title := "Meeting"
  description := ""
  startTime := inLastLeap 300
  endTime := inLastLeap 900
  notifyBefore := 0

/-- A scheduler that ticks twice a second. -/
def halfSecond : SchedulerConfig where
  interval := 500000000

/-- Two ticks in that leap second, half a second apart. -/
def leapTicks : List ((MemoryStore × MemoryChannel) × Instant) :=
  let w := (MemoryStore.empty.put leapMeeting, MemoryChannel.ofBindings "notifications" [])
  [(w, inLastLeap 100), (w, inLastLeap 600)]

/-- A window that stops at the last instant ends before it begins if the reading lies in the leap
second after that instant.  So a notice may come after the end of the last window although an
earlier tick caught it. -/
theorem leapMeeting_is_due_past_last_window :
    leapMeeting.notifyAt = some (inLastLeap 300) ∧
      (∀ tick ∈ leapTicks, (inMemory halfSecond).store.Holds leapMeeting tick.1) ∧
      leapTicks.map Prod.snd = [inLastLeap 100, inLastLeap 600] ∧
      inLastLeap 100 < inLastLeap 600 ∧ inLastLeap 600 = halfSecond.windowEnd (inLastLeap 100) ∧
      halfSecond.windowEnd (inLastLeap 600) = Instant.latest ∧
      ¬ (inLastLeap 100 < inLastLeap 300 ∧
        inLastLeap 300 ≤ halfSecond.windowEnd (inLastLeap 600)) ∧
      (leapTicks.countP fun tick => leapMeeting ∈ (inMemory halfSecond).dueAt tick) = 1 := by
  have hnotice : leapMeeting.notifyAt = some (inLastLeap 300) := by decide
  have hholds : ∀ tick ∈ leapTicks, (inMemory halfSecond).store.Holds leapMeeting tick.1 := by
    intro tick htick
    rcases List.mem_pair.mp htick with rfl | rfl <;> exact holds_single halfSecond _ (by decide)
  refine ⟨hnotice, hholds, rfl, by decide, by decide, by decide, by decide, ?_⟩
  rw [countP_dueAt hnotice hholds]
  decide

end Scheduler

end Reminders
