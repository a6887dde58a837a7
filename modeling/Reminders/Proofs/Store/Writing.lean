import Reminders.Proofs.Database.Transaction
import Reminders.Store.Database

/-!
# Store — the transactions that write an event

Adding and replacing an event are transactions of the same kind: they take the lock of the owner,
look for the id, look for an overlapping event of the owner, and write.  Each statement is a gate:
the work goes on only if the reply allows it.

* `run_createWork_eq`, `run_updateWork_eq`: the work of both is a row of gates.
* `writes_commit_or_roll_back`: what they send, when they write and commit, and what they return.
* `nameless_overlap_is_no_conflict`: an overlapping event is reported by its id only if it has one
  that can be read.
-/

namespace Reminders.DatabaseStore

open Database Dialogue

variable {σ α : Type}

/-! ### Statements -/

/-- The statement that locks the owner of the event. -/
def lockOf (e : Event) : Statement :=
  .query .lockUser [.text e.userId]

/-- The statement that looks for the id of the event. -/
def lookupOf (lookup : Query) (e : Event) : Statement :=
  .query lookup [.text e.id]

/-- The statement that looks for another event of the owner that overlaps the event. -/
def overlapOf (e : Event) : Statement :=
  .query .overlappingEvent
    [.text e.userId, .text e.id, .ofInstant e.startTime, .ofInstant e.endTime]

/-- The statement that writes the event. -/
def writeOf (write : Query) (e : Event) : Statement :=
  .query write
    [.text e.id, .text e.userId, .text e.title, .text e.description, .ofInstant e.startTime,
      .ofInstant e.endTime, .integer e.notifyBefore.toNat]

/-! ### Gates -/

/-- The gate of a query that refuses some rows. -/
def gateOf (s : Statement) (refused : List Row → Option StoreError) : Gate StoreError :=
  ⟨s, failed, refused⟩

/-- The error that names an overlapping event by the id in its row. -/
def conflictWith (e : Event) (row : Row) : StoreError :=
  match textAt row 0 "id" with
  | .ok other => .conflictOverlap e.id other
  | .error unreadable => unreadable

/-- The owner is locked. -/
def lockGate (e : Event) : Gate StoreError :=
  gateOf (lockOf e) fun _ => none

/-- The rows with the id of the event must be free. -/
def lookupGate (lookup : Query) (own : StoreError) (free : List Row → Bool) (e : Event) :
    Gate StoreError :=
  gateOf (lookupOf lookup e) fun rows => if free rows then none else some own

/-- No other event of the owner may overlap the event. -/
def overlapGate (e : Event) : Gate StoreError :=
  gateOf (overlapOf e) fun rows => rows.head?.map (conflictWith e)

/-- The event is written, where its id must not clash. -/
def writeGate (write : Query) (own : StoreError) (clashes : String → Bool) (e : Event) :
    Gate StoreError :=
  ⟨writeOf write e, fun code => if clashes code then own else failed code, fun _ => none⟩

theorem writeGate_failed_of_clashes {write : Query} {own : StoreError} {clashes : String → Bool}
    {e : Event} {code : String} (h : clashes code = true) :
    (writeGate write own clashes e).failed code = own :=
  if_pos h

theorem writeGate_failed_of_not_clashes {write : Query} {own : StoreError} {clashes : String → Bool}
    {e : Event} {code : String} (h : ¬ clashes code = true) :
    (writeGate write own clashes e).failed code = failed code :=
  if_neg h

/-- The gates of writing the event; if its id is not free or clashes, the error is `own`. -/
def writeGates (lookup write : Query) (own : StoreError) (free : List Row → Bool)
    (clashes : String → Bool) (e : Event) : List (Gate StoreError) :=
  [lockGate e, lookupGate lookup own free e, overlapGate e, writeGate write own clashes e]

/-- The gates of adding the event, whose id must be new. -/
def createGates (e : Event) : List (Gate StoreError) :=
  writeGates .eventExists .insertEvent (.alreadyExists e.id) (·.isEmpty) (· == uniqueViolation) e

/-- The gates of replacing the event, whose id must be there. -/
def updateGates (e : Event) : List (Gate StoreError) :=
  writeGates .lockEvent .updateEvent (.notFound e.id) (!·.isEmpty) (fun _ => false) e

theorem run_query_bind {q : Query} {parameters : List Value} {f : Reply → Step α} :
    (query q parameters >>= f).run = .ask (.query q parameters) fun reply =>
      match reply with
      | .failure code => .done (.error (failed code))
      | reply => (f reply).run := by
  refine congrArg (Dialogue.ask _) (funext fun reply => ?_)
  cases reply <;> rfl

/-- A query whose reply decides how the work goes on is a gate. -/
theorem run_query_bind_eq {q : Query} {parameters : List Value} {f : Reply → Step α}
    {refused : List Row → Option StoreError} {gates : List (Gate StoreError)} {a : α}
    (hstop : ∀ (reply : Reply) (e : StoreError), refused reply.found = some e →
      (f reply).run = .done (.error e))
    (hpass : ∀ reply : Reply, refused reply.found = none → (f reply).run = through a gates) :
    (query q parameters >>= f).run = through a (gateOf (.query q parameters) refused :: gates) := by
  rw [run_query_bind]
  refine ask_eq_through (g := gateOf (.query q parameters) refused) ?_ ?_ ?_
  · intro code
    rfl
  · intro reply e hreply he
    cases reply with
    | failure code => exact absurd rfl (hreply code)
    | rows _ | affected _ => exact hstop _ e he
  · intro reply hreply hnone
    cases reply with
    | failure code => exact absurd rfl (hreply code)
    | rows _ | affected _ => exact hpass _ hnone

theorem run_lockUser_bind_eq {e : Event} {work : Step α} {gates : List (Gate StoreError)} {a : α}
    (h : work.run = through a gates) :
    (lockUser e.userId >>= fun _ => work).run = through a (lockGate e :: gates) := by
  rw [lockUser, bind_assoc]
  simp only [pure_bind]
  exact run_query_bind_eq (fun _ _ => nofun) fun _ _ => h

theorem run_checkOverlap_bind_eq {e : Event} {work : Step α} {gates : List (Gate StoreError)}
    {a : α} (h : work.run = through a gates) :
    (checkOverlap e >>= fun _ => work).run = through a (overlapGate e :: gates) := by
  rw [checkOverlap, bind_assoc]
  refine run_query_bind_eq ?_ ?_
  · intro reply e' he'
    obtain ⟨row, hrow, rfl⟩ := Option.map_eq_some_iff.mp he'
    rw [hrow, conflictWith]
    dsimp only
    cases textAt row 0 "id" with
    | ok other => rfl
    | error unreadable => rfl
  · intro reply hnone
    rw [Option.map_eq_none_iff.mp hnone]
    exact h

/-- The id is looked up, and the work goes on if the rows found are free. -/
theorem run_lookup_bind_eq {lookup : Query} {e : Event} {f : Reply → Step α} {own : StoreError}
    {free : List Row → Bool} {gates : List (Gate StoreError)} {a : α}
    (hfree : ∀ reply : Reply, free reply.found = true → (f reply).run = through a gates)
    (hown : ∀ reply : Reply, free reply.found = false → (f reply).run = .done (.error own)) :
    (query lookup [.text e.id] >>= f).run = through a (lookupGate lookup own free e :: gates) := by
  refine run_query_bind_eq ?_ ?_
  · intro reply err herr
    cases hrows : free reply.found with
    | false =>
        rw [hrows] at herr
        cases herr
        exact hown reply hrows
    | true =>
        rw [hrows] at herr
        cases herr
  · intro reply hnone
    cases hrows : free reply.found with
    | false =>
        rw [hrows] at hnone
        cases hnone
    | true => exact hfree reply hrows

theorem run_createWork_eq (e : Event) : (createWork e).run = through e.id (createGates e) := by
  refine run_lockUser_bind_eq (run_lookup_bind_eq ?_ ?_)
  · intro reply (hrows : reply.found.isEmpty = true)
    rw [hrows]
    refine run_checkOverlap_bind_eq (ask_eq_through
      (g := writeGate .insertEvent _ _ e) ?_ ?_ ?_)
    · intro code
      show ExceptT.run (if code = uniqueViolation then throw (.alreadyExists e.id)
        else throw (failed code) : Step String) = _
      by_cases hcode : code = uniqueViolation
      · rw [if_pos hcode, writeGate_failed_of_clashes (by simpa using hcode)]
        rfl
      · rw [if_neg hcode, writeGate_failed_of_not_clashes (by simpa using hcode)]
        rfl
    · intro reply err _ herr
      cases herr
    · intro reply hreply _
      cases reply with
      | failure code => exact absurd rfl (hreply code)
      | rows _ | affected _ => rfl
  · intro reply (hrows : reply.found.isEmpty = false)
    rw [hrows]
    rfl

theorem run_updateWork_eq (e : Event) : (updateWork e).run = through () (updateGates e) := by
  refine run_lockUser_bind_eq (run_lookup_bind_eq ?_ ?_)
  · intro reply hrows
    rw [Bool.not_eq_true'] at hrows
    rw [hrows]
    refine run_checkOverlap_bind_eq (run_query_bind_eq ?_ ?_)
    · intro reply err herr
      cases herr
    · intro reply _
      rfl
  · intro reply hrows
    rw [Bool.not_eq_false'] at hrows
    rw [hrows]
    rfl

/-! ### What is sent and returned -/

/-- What is said about writing an event and what is returned, if its id is looked up by `lookup`,
may be written where the rows found are `free`, clashes where writing it fails with some codes, and
is reported by the error `own` if it is not free or clashes:
* the statements are sent in order, up to some point, and then perhaps `ROLLBACK`;
* the owner is locked once the transaction has begun, the id is looked up once the owner is locked,
  an overlap is looked for once the rows found are free, and the event is written once no overlap is
  found;
* `COMMIT` is sent once the event is written;
* what has begun and is not committed is rolled back;
* writing has succeeded if `COMMIT` is acknowledged;
* the error is `own` if the rows found are not free or the event clashes;
* a conflict is reported if an overlapping event is found whose id can be read, and it is named;
* a fault of the database is reported if some other statement fails, or if that id cannot be read;
* there are no other errors. -/
structure Writes (e : Event) (lookup write : Query) (own : StoreError) (free : List Row → Bool)
    (clashes : String → Bool) (talk : Transcript) (r : Except StoreError α) : Prop where
  inOrder : ∃ sent, sent <+: [.begin, lockOf e, lookupOf lookup e, overlapOf e, writeOf write e,
    .commit] ∧ (talk.sent = sent ∨ talk.sent = sent ++ [.rollback])
  locks : lockOf e ∈ talk.sent ↔ talk.Acknowledged .begin
  looksUp : lookupOf lookup e ∈ talk.sent ↔
    talk.Acknowledged .begin ∧ talk.Acknowledged (lockOf e)
  compares : overlapOf e ∈ talk.sent ↔ talk.Acknowledged .begin ∧ talk.Acknowledged (lockOf e) ∧
    ∃ rows, free rows ∧ talk.Found (lookupOf lookup e) rows
  writes : writeOf write e ∈ talk.sent ↔ talk.Acknowledged .begin ∧ talk.Acknowledged (lockOf e) ∧
    (∃ rows, free rows ∧ talk.Found (lookupOf lookup e) rows) ∧ talk.Found (overlapOf e) []
  commits : .commit ∈ talk.sent ↔ talk.Acknowledged (writeOf write e)
  rollsBack : .rollback ∈ talk.sent ↔ talk.Acknowledged .begin ∧ ¬ talk.Acknowledged .commit
  succeeds : (∃ a, r = .ok a) ↔ talk.Acknowledged .commit
  owns : r = .error own ↔ (∃ rows, ¬ free rows ∧ talk.Found (lookupOf lookup e) rows) ∨
    ∃ code, clashes code ∧ talk.Failed (writeOf write e) code
  conflicts : ∀ id other, r = .error (.conflictOverlap id other) ↔
    e.id = id ∧ ∃ row rows, row[0]? = some (.text other) ∧ talk.Found (overlapOf e) (row :: rows)
  faults : ∀ detail, r = .error (.database detail) ↔
    (∃ s code, (s ∈ [.begin, lockOf e, lookupOf lookup e, overlapOf e, .commit] ∨
      s = writeOf write e ∧ ¬ clashes code) ∧ talk.Failed s code ∧ failureText code = detail) ∨
    columnText "id" = detail ∧ ∃ row rows, (∀ other, row[0]? ≠ some (.text other)) ∧
      talk.Found (overlapOf e) (row :: rows)
  noOther : ∀ err, r = .error err → err = own ∨ (∃ other, err = .conflictOverlap e.id other) ∨
    ∃ detail, err = .database detail

section Writing

variable {e : Event} {lookup write : Query} {own err : StoreError} {free : List Row → Bool}
  {clashes : String → Bool} {a : α} {talk : Transcript} {r : Except StoreError α} {row : Row}

theorem conflictWith_of_text {other : String} (h : row[0]? = some (.text other)) :
    conflictWith e row = .conflictOverlap e.id other := by
  rw [conflictWith, textAt, h]

theorem conflictWith_of_not_text (h : ∀ other, row[0]? ≠ some (.text other)) :
    conflictWith e row = .database (columnText "id") := by
  have hunreadable : textAt row 0 "id" = .error (badColumn "id") := by
    rw [textAt]
    split
    · next other hother => exact absurd hother (h other)
    · rfl
  rw [conflictWith, hunreadable]
  rfl

/-- An overlapping event is named, or its id cannot be read. -/
theorem conflictWith_eq_iff :
    conflictWith e row = err ↔
      (∃ other, .conflictOverlap e.id other = err ∧ row[0]? = some (.text other)) ∨
        .database (columnText "id") = err ∧ ∀ other, row[0]? ≠ some (.text other) := by
  by_cases h : ∃ text, row[0]? = some (.text text)
  · obtain ⟨text, h⟩ := h
    simp [conflictWith_of_text h, h]
  · rw [not_exists] at h
    simp [conflictWith_of_not_text h, h]

theorem areDistinct_writeGates (h : [.lockUser, lookup, .overlappingEvent, write].Nodup) :
    Gate.AreDistinct (writeGates lookup write own free clashes e) := by
  refine ⟨?_, ?_⟩
  · have hstatements : ((writeGates lookup write own free clashes e).map Gate.statement) =
        [lockOf e, lookupOf lookup e, overlapOf e, writeOf write e] := rfl
    rw [hstatements]
    simp_all [lockOf, lookupOf, overlapOf, writeOf]
  · simp [writeGates, lockGate, lookupGate, overlapGate, writeGate, gateOf, lockOf, lookupOf,
      overlapOf, writeOf]

theorem judged_none_lockGate :
    (lockGate e).Judged talk none ↔ talk.Acknowledged (lockOf e) :=
  Gate.judged_none_iff_acknowledged fun _ => rfl

theorem judged_some_lockGate :
    (lockGate e).Judged talk (some err) ↔ ∃ code, talk.Failed (lockOf e) code ∧ failed code = err :=
  Gate.judged_some_iff_failed fun _ => rfl

theorem judged_none_lookupGate :
    (lookupGate lookup own free e).Judged talk none ↔
      ∃ rows, free rows ∧ talk.Found (lookupOf lookup e) rows := by
  rw [Gate.judged_none_iff]
  simp [lookupGate, gateOf]

theorem judged_some_lookupGate :
    (lookupGate lookup own free e).Judged talk (some err) ↔
      (∃ code, talk.Failed (lookupOf lookup e) code ∧ failed code = err) ∨
        own = err ∧ ∃ rows, ¬ free rows ∧ talk.Found (lookupOf lookup e) rows := by
  rw [Gate.judged_some_iff]
  refine or_congr_right ?_
  simp only [lookupGate, gateOf, ite_eq_iff, reduceCtorEq, and_false, false_or, Option.some.injEq]
  constructor
  · rintro ⟨rows, ⟨hfree, rfl⟩, hfound⟩
    exact ⟨rfl, rows, hfree, hfound⟩
  · rintro ⟨rfl, rows, hfree, hfound⟩
    exact ⟨rows, ⟨hfree, rfl⟩, hfound⟩

theorem judged_none_overlapGate :
    (overlapGate e).Judged talk none ↔ talk.Found (overlapOf e) [] := by
  rw [Gate.judged_none_iff]
  constructor
  · rintro ⟨rows, hrows, hfound⟩
    cases rows with
    | nil => exact hfound
    | cons row rows => cases hrows
  · intro hfound
    exact ⟨[], rfl, hfound⟩

theorem judged_some_overlapGate :
    (overlapGate e).Judged talk (some err) ↔
      (∃ code, talk.Failed (overlapOf e) code ∧ failed code = err) ∨
        ∃ row rows, conflictWith e row = err ∧ talk.Found (overlapOf e) (row :: rows) := by
  rw [Gate.judged_some_iff]
  refine or_congr_right ⟨?_, ?_⟩
  · rintro ⟨rows, hrows, hfound⟩
    cases rows with
    | nil => cases hrows
    | cons row rows => exact ⟨row, rows, Option.some.inj hrows, hfound⟩
  · rintro ⟨row, rows, hrow, hfound⟩
    exact ⟨row :: rows, congrArg some hrow, hfound⟩

theorem judged_none_writeGate :
    (writeGate write own clashes e).Judged talk none ↔ talk.Acknowledged (writeOf write e) :=
  Gate.judged_none_iff_acknowledged fun _ => rfl

theorem judged_some_writeGate :
    (writeGate write own clashes e).Judged talk (some err) ↔
      (∃ code, ¬ clashes code ∧ talk.Failed (writeOf write e) code ∧ failed code = err) ∨
        own = err ∧ ∃ code, clashes code ∧ talk.Failed (writeOf write e) code := by
  rw [Gate.judged_some_iff_failed fun _ => rfl]
  simp only [writeGate, ite_eq_iff, and_or_left, exists_or]
  constructor
  · rintro (⟨code, hfailed, hclashes, rfl⟩ | ⟨code, hfailed, hclashes, hcode⟩)
    · exact .inr ⟨rfl, code, hclashes, hfailed⟩
    · exact .inl ⟨code, hclashes, hfailed, hcode⟩
  · rintro (⟨code, hclashes, hfailed, hcode⟩ | ⟨rfl, code, hclashes, hfailed⟩)
    · exact .inr ⟨code, hfailed, hclashes, hcode⟩
    · exact .inl ⟨code, hfailed, hclashes, rfl⟩

/-- Writing fails with the error of a statement that failed, or of rows that were found. -/
theorem error_iff_of_settles (hq : [.lockUser, lookup, .overlappingEvent, write].Nodup)
    (h : Settles failed a (writeGates lookup write own free clashes e) talk r) :
    r = .error err ↔
      (∃ s code, (s ∈ [.begin, lockOf e, lookupOf lookup e, overlapOf e, .commit] ∨
        s = writeOf write e ∧ ¬ clashes code) ∧ talk.Failed s code ∧ failed code = err) ∨
      own = err ∧ ((∃ rows, ¬ free rows ∧ talk.Found (lookupOf lookup e) rows) ∨
        ∃ code, clashes code ∧ talk.Failed (writeOf write e) code) ∨
      ∃ row rows, conflictWith e row = err ∧ talk.Found (overlapOf e) (row :: rows) := by
  rw [h.error_iff (areDistinct_writeGates hq)]
  simp only [writeGates, List.mem_cons, List.not_mem_nil, or_false, exists_eq_left,
    exists_eq_or_imp, judged_some_lockGate, judged_some_lookupGate, judged_some_overlapGate,
    judged_some_writeGate]
  simp only [or_and_right, exists_or, and_assoc, exists_and_left, exists_eq_left, and_or_left]
  -- The two sides name the same causes, statement by statement and kind by kind.
  have hcauses : ∀ b c l k o v x w o' : Prop,
      ((b ∨ c) ∨ l ∨ (k ∨ o) ∨ (v ∨ x) ∨ w ∨ o') ↔
        (((b ∨ l ∨ k ∨ v ∨ c) ∨ w) ∨ (o ∨ o') ∨ x) := by
    intros
    tauto
  exact hcauses _ _ _ _ _ _ _ _ _

/-- A transaction of these gates writes the event as described. -/
theorem writes_of_settles (hq : [.lockUser, lookup, .overlappingEvent, write].Nodup)
    (hown : own = .alreadyExists e.id ∨ own = .notFound e.id)
    (h : Settles failed a (writeGates lookup write own free clashes e) talk r) :
    Writes e lookup write own free clashes talk r := by
  have hd : Gate.AreDistinct (writeGates lookup write own free clashes e) :=
    areDistinct_writeGates hq
  have hgates : writeGates lookup write own free clashes e =
      [lockGate e, lookupGate lookup own free e, overlapGate e] ++
        [writeGate write own clashes e] := rfl
  have hconflict : ∀ id other, own ≠ .conflictOverlap id other := by
    rcases hown with rfl | rfl <;> exact fun _ _ => nofun
  have hfault : ∀ detail, own ≠ .database detail := by
    rcases hown with rfl | rfl <;> exact fun _ => nofun
  refine ⟨h.sent_isPrefix, ?_, ?_, ?_, ?_, ?_, h.rollback_sent_iff hd, h.ok_iff hd, ?_, ?_, ?_, ?_⟩
  · have hlock : lockOf e ∈ talk.sent ↔ _ := h.sent_iff_take (g := lockGate e) hd 0 rfl
    rw [hlock]
    simp
  · have hlookup : lookupOf lookup e ∈ talk.sent ↔ _ :=
      h.sent_iff_take (g := lookupGate lookup own free e) hd 1 rfl
    rw [hlookup]
    simp [writeGates, judged_none_lockGate]
  · have hoverlap : overlapOf e ∈ talk.sent ↔ _ := h.sent_iff_take (g := overlapGate e) hd 2 rfl
    rw [hoverlap]
    simp [writeGates, judged_none_lockGate, judged_none_lookupGate]
  · have hwrite : writeOf write e ∈ talk.sent ↔ _ :=
      h.sent_iff_take (g := writeGate write own clashes e) hd 3 rfl
    rw [hwrite]
    simp [writeGates, judged_none_lockGate, judged_none_lookupGate, judged_none_overlapGate]
  · rw [← judged_none_writeGate]
    exact h.commit_sent_iff_last hd hgates
  · rw [error_iff_of_settles hq h]
    simp [conflictWith_eq_iff, failed, (hconflict _ _).symm, (hfault _).symm]
  · intro id other
    rw [error_iff_of_settles hq h]
    simp [conflictWith_eq_iff, failed, hconflict, and_assoc]
  · intro detail
    rw [error_iff_of_settles hq h]
    simp [conflictWith_eq_iff, failed, hfault, and_assoc]
  · intro err herr
    rcases (error_iff_of_settles hq h).mp herr with
      ⟨_, code, _, _, rfl⟩ | ⟨rfl, _⟩ | ⟨row, _, hrow, _⟩
    · exact .inr (.inr ⟨_, rfl⟩)
    · exact .inl rfl
    · rcases conflictWith_eq_iff.mp hrow with ⟨other, rfl, _⟩ | ⟨rfl, _⟩
      · exact .inr (.inl ⟨other, rfl⟩)
      · exact .inr (.inr ⟨_, rfl⟩)

end Writing

/-- **Adding and replacing commit or roll back.**  Whatever the database replies, adding an event
and replacing one end with a result, and both write as described: adding returns the id of the
event, which must be new, and replacing one needs its id to be there. -/
theorem writes_commit_or_roll_back (peer : Statement → StateM σ Reply) (w : σ) (e : Event) :
    (∀ fresh, ∃ r, ((create fresh e).run peer w).1 = some r ∧
      Writes (e.identified fresh) .eventExists .insertEvent
        (.alreadyExists (e.identified fresh).id) (·.isEmpty) (· == uniqueViolation)
        ((create fresh e).transcript peer w) r ∧
      ∀ id, r = .ok id → id = (e.identified fresh).id) ∧
    ∃ r, ((update e).run peer w).1 = some r ∧
      Writes e .lockEvent .updateEvent (.notFound e.id) (!·.isEmpty) (fun _ => false)
        ((update e).transcript peer w) r := by
  refine ⟨?_, ?_⟩
  · intro fresh
    have hcreate : create fresh e = transaction failed
        (through (e.identified fresh).id (createGates (e.identified fresh))) := by
      rw [create, run_createWork_eq]
    rw [hcreate]
    obtain ⟨r, hr, hsettles⟩ := settles_run peer w
    refine ⟨r, hr, writes_of_settles (by decide) (.inl rfl) hsettles, ?_⟩
    rintro id rfl
    exact hsettles.eq_of_ok
  · have hupdate : update e = transaction failed (through () (updateGates e)) := by
      rw [update, run_updateWork_eq]
    rw [hupdate]
    obtain ⟨r, hr, hsettles⟩ := settles_run peer w
    exact ⟨r, hr, writes_of_settles (by decide) (.inr rfl) hsettles⟩

/-- An event with an id. -/
def meeting : Event where
  id := "e1"
  userId := "u1"
  title := "Meeting"
  description := ""
  startTime := ⟨0, by decide, by decide⟩
  endTime := ⟨120000000000, by decide, by decide⟩
  notifyBefore := 30

/-- An overlapping event whose id cannot be read is found, but it is not reported as a conflict. -/
theorem nameless_overlap_is_no_conflict :
    let script : Script := ⟨[.nothing, .nothing, .rows [[.null]]], none, []⟩
    ((create "f" meeting).transcript Script.answer script).Found (overlapOf meeting) [[.null]] ∧
      ((create "f" meeting).run Script.answer script).1 =
        some (.error (.database (columnText "id"))) ∧
      ∀ id other, ((create "f" meeting).run Script.answer script).1 ≠
        some (.error (.conflictOverlap id other)) := by
  have hrun : ((create "f" meeting).run Script.answer
      ⟨[.nothing, .nothing, .rows [[.null]]], none, []⟩).1 =
        some (.error (.database (columnText "id"))) := by
    rfl
  refine ⟨⟨.rows [[.null]], ?_, nofun, rfl⟩, hrun, ?_⟩
  · have htalk : (create "f" meeting).transcript Script.answer
        ⟨[.nothing, .nothing, .rows [[.null]]], none, []⟩ =
        [⟨.begin, .nothing⟩, ⟨lockOf meeting, .nothing⟩, ⟨lookupOf .eventExists meeting, .nothing⟩,
          ⟨overlapOf meeting, .rows [[.null]]⟩, ⟨.rollback, .nothing⟩] := rfl
    rw [htalk]
    simp
  · intro id other
    rw [hrun]
    nofun

end Reminders.DatabaseStore
