import Reminders.Proofs.Database.Sole

/-!
# Store — the operations of a sole client

What each operation of the store in a database does to the table, and what it returns, if its
statements get answered by their meaning and nobody else is there.

* `run_create_cases`, `run_update_cases`, `run_delete_cases`, `run_get_cases`: all the ways in which
  an operation ends, each with what was found, what is returned and which rows there are afterwards.
* `run_deleteOlderThan`, `run_select`: the operations that cannot fail for a sole client.
-/

namespace Reminders.DatabaseStore

open Database Sole

variable {α β : Type} {t rows : Table} {x y : Sole} {e e' : Event}

/-! ### Steps -/

/-- What a step does to the database, and what it returns. -/
def runStep (d : Step α) : StateM Sole (Option (Except StoreError α)) :=
  d.run.run answer

theorem runStep_bind (d : Step α) (f : α → Step β) (x : Sole) :
    runStep (d >>= f) x =
      match runStep d x with
      | (some (.ok a), y) => runStep (f a) y
      | (some (.error e), y) => (some (.error e), y)
      | (none, y) => (none, y) := by
  refine (Dialogue.run_bind answer d.run _ x).trans ?_
  show _ = match d.run.run answer x with
    | (some (.ok a), y) => runStep (f a) y
    | (some (.error e), y) => (some (.error e), y)
    | (none, y) => (none, y)
  rcases d.run.run answer x with ⟨_ | _ | a, y⟩ <;> rfl

theorem runStep_then {d : Step α} {a : α} (h : runStep d x = (some (.ok a), y)) (f : α → Step β) :
    runStep (d >>= f) x = runStep (f a) y := by
  rw [runStep_bind, h]

theorem runStep_throws {d : Step α} {e : StoreError} (h : runStep d x = (some (.error e), y))
    (f : α → Step β) : runStep (d >>= f) x = (some (.error e), y) := by
  rw [runStep_bind, h]

/-- A query goes on with the reply it receives, or fails. -/
def received : Reply → Step Reply
  | .failure code => throw (failed code)
  | reply => pure reply

/-- A query that succeeds returns its reply. -/
theorem runStep_query {q : Query} {parameters : List Value} {reply : Reply}
    (h : answer (.query q parameters) x = (reply, y)) (hreply : reply.Succeeds) :
    runStep (query q parameters) x = (some (.ok reply), y) := by
  have hask : runStep (query q parameters) x =
      runStep (received (answer (.query q parameters) x).1) (answer (.query q parameters) x).2 :=
    rfl
  rw [hask, h]
  cases reply with
  | failure code => exact absurd rfl (hreply code)
  | rows _ | affected _ => rfl

/-- Nobody else holds the lock of a user. -/
theorem runStep_lockUser (userId : String) :
    runStep (lockUser userId) (inside t rows) = (some (.ok ()), inside t rows) :=
  rfl

/-- Where the table is clear, the check for an overlap is passed. -/
theorem runStep_checkOverlap (hclear : rows.ClearFor (.ofEvent e)) :
    runStep (checkOverlap e) (inside t rows) = (some (.ok ()), inside t rows) := by
  have hanswer := answer_query_inside (t := t) (Table.outcome_overlappingEvent_of_clear hclear)
    (Reply.succeeds_rows [])
  exact runStep_then (runStep_query hanswer (Reply.succeeds_rows [])) _

/-- Where the table is not clear, the check for an overlap names a row. -/
theorem runStep_checkOverlap_throws (hclear : ¬ rows.ClearFor (.ofEvent e)) :
    ∃ r ∈ rows, r.userId = e.userId ∧ r.id ≠ e.id ∧
      r.meets (microsOf e.startTime) (microsOf e.endTime) = true ∧
      runStep (checkOverlap e) (inside t rows) =
        (some (.error (.conflictOverlap e.id r.id)), inside t rows) := by
  obtain ⟨r, hr, huser, hid, hmeets, hout⟩ := Table.outcome_overlappingEvent_of_not_clear hclear
  have hanswer := answer_query_inside (t := t) hout (Reply.succeeds_rows _)
  exact ⟨r, hr, huser, hid, hmeets, runStep_then (runStep_query hanswer (Reply.succeeds_rows _)) _⟩

/-- Once the user is locked, a row is looked up by its id. -/
theorem runStep_lookup {q : Query} (hq : q = .eventExists ∨ q = .lockEvent) (t rows : Table)
    (userId id : String) (f : Reply → Step β) :
    ∃ reply : Reply, reply.found.isEmpty = !decide (rows.Has id) ∧
      runStep (lockUser userId >>= fun _ => query q [.text id] >>= f) (inside t rows) =
        runStep (f reply) (inside t rows) := by
  let found : List Row := (rows.filter (·.id == id)).map fun _ => [.integer 1]
  have hout : q.outcome [.text id] rows = (.rows found, []) := by
    rcases hq with rfl | rfl <;> rfl
  have hanswer := answer_query_inside (t := t) hout (Reply.succeeds_rows _)
  refine ⟨.rows found, ?_, ?_⟩
  · show found.isEmpty = _
    rw [Bool.eq_iff_iff, Bool.not_eq_true', decide_eq_false_iff_not]
    simp [found, Table.Has]
  · rw [runStep_then (runStep_lockUser userId),
      runStep_then (runStep_query hanswer (Reply.succeeds_rows _))]
    rfl

/-! ### Adding and replacing -/

/-- The end of adding an event, once the reply to the query is received. -/
def inserted (e : Event) : Reply → Step String
  | .failure code =>
    if code = uniqueViolation then throw (.alreadyExists e.id) else throw (failed code)
  | _ => return e.id

/-- Adding an event that was checked. -/
def insertRow (e : Event) : Step String := do
  inserted e (← ExceptT.lift (Dialogue.query .insertEvent (valuesOf e)))

theorem runStep_insertRow (hvalid : (EventRow.ofEvent e).isValid = true) (h : ¬ t.Has e.id) :
    runStep (insertRow e) (inside t t) =
      (some (.ok e.id), inside t (t.change (.insert (.ofEvent e)))) := by
  have hout := Table.outcome_insertEvent (EventRow.ofValues?_valuesOf e) hvalid h
  have hanswer := answer_query_inside (t := t) hout (Reply.succeeds_affected 1)
  have hask : runStep (insertRow e) (inside t t) =
      runStep (inserted e (answer (.query .insertEvent (valuesOf e)) (inside t t)).1)
        (answer (.query .insertEvent (valuesOf e)) (inside t t)).2 :=
    rfl
  rw [hask, hanswer]
  rfl

theorem runStep_createWork_of_has (h : t.Has e.id) :
    runStep (createWork e) (inside t t) = (some (.error (.alreadyExists e.id)), inside t t) := by
  obtain ⟨reply, hempty, hlookup⟩ := runStep_lookup (.inl rfl) t t e.userId e.id _
  refine hlookup.trans ?_
  simp only [hempty, h]
  rfl

/-- Where its id is free, an event is checked and added. -/
theorem runStep_createWork_of_not_has (h : ¬ t.Has e.id) :
    runStep (createWork e) (inside t t) =
      runStep (checkOverlap e >>= fun _ => insertRow e) (inside t t) := by
  obtain ⟨reply, hempty, hlookup⟩ := runStep_lookup (.inl rfl) t t e.userId e.id _
  refine hlookup.trans ?_
  simp only [hempty, h]
  rfl

theorem runStep_updateWork_of_not_has (h : ¬ t.Has e.id) :
    runStep (updateWork e) (inside t t) = (some (.error (.notFound e.id)), inside t t) := by
  obtain ⟨reply, hempty, hlookup⟩ := runStep_lookup (.inr rfl) t t e.userId e.id _
  refine hlookup.trans ?_
  simp only [hempty, h]
  rfl

/-- Where there is a row of its id, an event is checked and takes its place. -/
theorem runStep_updateWork_of_has (h : t.Has e.id) :
    runStep (updateWork e) (inside t t) =
      runStep (checkOverlap e >>= fun _ => do
        let _ ← query .updateEvent (valuesOf e)) (inside t t) := by
  obtain ⟨reply, hempty, hlookup⟩ := runStep_lookup (.inr rfl) t t e.userId e.id _
  refine hlookup.trans ?_
  simp only [hempty, h]
  rfl

theorem runStep_updateRow (hvalid : (EventRow.ofEvent e).isValid = true) (h : t.Has e.id) :
    runStep (do let _ ← query .updateEvent (valuesOf e)) (inside t t) =
      (some (.ok ()), inside t (t.change (.replace (.ofEvent e)))) := by
  have hout : Query.outcome .updateEvent (valuesOf e) t =
      (.affected (t.countP (·.id == e.id)), [.replace (.ofEvent e)]) := by
    have hhas : t.Has (EventRow.ofEvent e).id := h
    simp only [Query.outcome, EventRow.ofValues?_valuesOf, hvalid, hhas]
    rfl
  have hanswer := answer_query_inside (t := t) hout (Reply.succeeds_affected _)
  exact runStep_then (runStep_query hanswer (Reply.succeeds_affected _)) _

/-- **How adding a row ends.**  Its id is taken, a row of its user overlaps it, or it is
committed. -/
theorem run_create_cases (fresh : String) {e : Event} (t : Table)
    (he : e.identified fresh = e') (hvalid : (EventRow.ofEvent e').isValid = true) :
    (t.Has e'.id ∧ (create fresh e).run answer (resting t) =
        (some (.error (.alreadyExists e'.id)), resting t)) ∨
      (¬ t.Has e'.id ∧
        ∃ r ∈ t, r.userId = e'.userId ∧ r.id ≠ e'.id ∧
          r.meets (microsOf e'.startTime) (microsOf e'.endTime) = true ∧
          (create fresh e).run answer (resting t) =
            (some (.error (.conflictOverlap e'.id r.id)), resting t)) ∨
      (¬ t.Has e'.id ∧ t.ClearFor (.ofEvent e') ∧
        (create fresh e).run answer (resting t) =
          (some (.ok e'.id), resting (t.change (.insert (.ofEvent e'))))) := by
  rw [create, he]
  by_cases h : t.Has e'.id
  · exact .inl ⟨h, run_transaction_error failed (runStep_createWork_of_has h)⟩
  · by_cases hclear : t.ClearFor (.ofEvent e')
    · refine .inr (.inr ⟨h, hclear, run_transaction_ok failed ?_⟩)
      refine (runStep_createWork_of_not_has h).trans ?_
      rw [runStep_then (runStep_checkOverlap hclear), runStep_insertRow hvalid h]
    · obtain ⟨r, hr, huser, hid, hmeets, hthrows⟩ := runStep_checkOverlap_throws (t := t) hclear
      have hwork := (runStep_createWork_of_not_has h).trans (runStep_throws hthrows _)
      exact .inr (.inl ⟨h, r, hr, huser, hid, hmeets, run_transaction_error failed hwork⟩)

/-- **How replacing a row ends.**  There is no row of its id, another row of its user overlaps it,
or it is committed. -/
theorem run_update_cases (e : Event) (t : Table) (hvalid : (EventRow.ofEvent e).isValid = true) :
    (¬ t.Has e.id ∧
        (update e).run answer (resting t) = (some (.error (.notFound e.id)), resting t)) ∨
      (t.Has e.id ∧
        ∃ r ∈ t, r.userId = e.userId ∧ r.id ≠ e.id ∧
          r.meets (microsOf e.startTime) (microsOf e.endTime) = true ∧
          (update e).run answer (resting t) =
            (some (.error (.conflictOverlap e.id r.id)), resting t)) ∨
      (t.Has e.id ∧ t.ClearFor (.ofEvent e) ∧
        (update e).run answer (resting t) =
          (some (.ok ()), resting (t.change (.replace (.ofEvent e))))) := by
  rw [update]
  by_cases h : t.Has e.id
  · by_cases hclear : t.ClearFor (.ofEvent e)
    · refine .inr (.inr ⟨h, hclear, run_transaction_ok failed ?_⟩)
      refine (runStep_updateWork_of_has h).trans ?_
      rw [runStep_then (runStep_checkOverlap hclear), runStep_updateRow hvalid h]
    · obtain ⟨r, hr, huser, hid, hmeets, hthrows⟩ := runStep_checkOverlap_throws (t := t) hclear
      have hwork := (runStep_updateWork_of_has h).trans (runStep_throws hthrows _)
      exact .inr (.inl ⟨h, r, hr, huser, hid, hmeets, run_transaction_error failed hwork⟩)
  · exact .inl ⟨h, run_transaction_error failed (runStep_updateWork_of_not_has h)⟩

/-! ### Single statements -/

/-- **How removing a row ends.**  There is no row of the id, or it is removed. -/
theorem run_delete_cases (id : String) (t : Table) :
    (¬ t.Has id ∧ (delete id).run answer (resting t) = (some (.error (.notFound id)), resting t)) ∨
      (t.Has id ∧ (delete id).run answer (resting t) =
        (some (.ok ()), resting (t.apply (Table.removals (t.filter (·.id == id)))))) := by
  let gone : Table := t.filter (·.id == id)
  have hout : Query.outcome .deleteEvent [.text id] t = (.affected gone.length, gone.removals) := rfl
  have hquery := runStep_query (answer_query hout) (Reply.succeeds_affected _)
  have hdelete : (delete id).run answer (resting t) =
      runStep (if gone.length = 0 then throw (.notFound id) else pure ())
        (resting (t.apply gone.removals)) :=
    runStep_then hquery fun reply =>
      if reply.count = 0 then throw (StoreError.notFound id) else pure ()
  by_cases h : t.Has id
  · obtain ⟨r, hr, hid⟩ := h
    have hmem : r ∈ gone := List.mem_filter.mpr ⟨hr, beq_iff_eq.mpr hid⟩
    have hgone : gone.length ≠ 0 := Nat.ne_of_gt (List.length_pos_of_mem hmem)
    refine .inr ⟨⟨r, hr, hid⟩, ?_⟩
    rw [hdelete, if_neg hgone]
    rfl
  · have hgone : gone = [] :=
      List.filter_eq_nil_iff.mpr fun r hr hid => h ⟨r, hr, beq_iff_eq.mp hid⟩
    refine .inl ⟨h, ?_⟩
    rw [hdelete, hgone]
    rfl

theorem run_deleteOlderThan (cutoff : Instant) (t : Table) :
    (deleteOlderThan cutoff).run answer (resting t) =
      (some (.ok (t.countP (·.endTime < microsOf cutoff))),
        resting (t.apply (Table.removals (t.filter (·.endTime < microsOf cutoff))))) := by
  rw [List.countP_eq_length_filter]
  rfl

/-- The event of the first row, if there is one. -/
def firstEvent (id : String) (rows : List Row) : Step Event :=
  match rows.head? with
  | some row => lift (eventOfRow row)
  | none => throw (.notFound id)

/-- **How looking up a row ends.**  There is no row of the id, or the event of a row is
returned. -/
theorem run_get_cases (id : String) (t : Table) :
    (¬ t.Has id ∧ (get id).run answer (resting t) = (some (.error (.notFound id)), resting t)) ∨
      ∃ r ∈ t, r.id = id ∧ (get id).run answer (resting t) =
        (some (eventOfRow r.values), resting t) := by
  let found : Table := t.filter (·.id == id)
  have hout : Query.outcome .selectEvent [.text id] t = (found.found, []) := rfl
  have hquery := runStep_query (answer_query hout) (Reply.succeeds_rows _)
  have hget : (get id).run answer (resting t) =
      runStep (firstEvent id (found.map EventRow.values)) (resting t) :=
    runStep_then hquery fun reply => firstEvent id reply.found
  cases hfound : found with
  | nil =>
      have hnone : ¬ t.Has id := fun ⟨r, hr, hid⟩ =>
        List.filter_eq_nil_iff.mp hfound r hr (beq_iff_eq.mpr hid)
      rw [hfound] at hget
      exact .inl ⟨hnone, hget⟩
  | cons r rest =>
      have hr : r ∈ found := hfound ▸ List.mem_cons_self
      obtain ⟨hr, hid⟩ := List.mem_filter.mp hr
      rw [hfound] at hget
      exact .inr ⟨r, hr, beq_iff_eq.mp hid, hget⟩

/-- A listing returns the events of its rows. -/
theorem run_select {q : Query} {parameters : List Value} {t found : Table}
    (hout : q.outcome parameters t = (found.found, [])) :
    (select q parameters).run answer (resting t) =
      (some ((found.map EventRow.values).mapM eventOfRow), resting t) :=
  runStep_then (runStep_query (answer_query hout) (Reply.succeeds_rows _)) _

end Reminders.DatabaseStore
