import Reminders.Proofs.Database.Sessions
import Reminders.Proofs.Store.Discipline
import Reminders.Proofs.Store.History
import Reminders.Proofs.Store.Unhindered

/-!
# Store — every interleaving keeps rows apart

Clients of one table, whose statements come in any order, never commit two rows of one user that
overlap.  The reason is a fact for each stage of the discipline that no other session can spoil: the
rows of a user are changed only by a session that holds the key of the user.

* `Stage.Holds`: the fact of a stage.
* `Stage.Holds.of_addsOwn`: the steps of other sessions keep it.
* `executes_keeps`: a statement of the session leads to the fact of the next stage, and keeps the
  committed rows apart.
* `interleavings_keep_rows_apart`: the main result.
-/

namespace Reminders.DatabaseStore

open Database Database.Dialogue

variable {ι κ : Type} {hash : String → κ}

/-! ### What the committed rows may become -/

/-- Each row that is new belongs to a user whose key is held, and its id was there before or is
locked. -/
def AddsOwn (hash : String → κ) (st : Standing κ) (table table' : Table) : Prop :=
  ∀ r ∈ table', r ∈ table ∨ hash r.userId ∈ st.keys ∧ (table.Has r.id ∨ r.id ∈ st.ids)

theorem AddsOwn.refl (st : Standing κ) (table : Table) : AddsOwn hash st table table :=
  fun _ hr => .inl hr

/-- Removing rows keeps the others apart and adds none. -/
theorem apply_removals {table : Table} {changes : List Change}
    (h : ∀ c ∈ changes, ∃ id, c = .remove id) (ht : table.KeptApart) (st : Standing κ) :
    (table.apply changes).KeptApart ∧ AddsOwn hash st table (table.apply changes) := by
  induction changes generalizing table with
  | nil => exact ⟨ht, AddsOwn.refl st table⟩
  | cons c changes ih =>
      obtain ⟨id, rfl⟩ := h c List.mem_cons_self
      obtain ⟨hk, ho⟩ := ih (fun c' hc' => h c' (List.mem_cons_of_mem _ hc')) (ht.remove id)
      refine ⟨hk, fun r hr => ?_⟩
      rcases ho r hr with hr' | ⟨hkey, ⟨r', hr', hid⟩ | hid⟩
      · exact .inl (Table.mem_remove.mp hr').1
      · exact .inr ⟨hkey, .inl ⟨r', (Table.mem_remove.mp hr').1, hid⟩⟩
      · exact .inr ⟨hkey, .inr hid⟩

/-- A change that may be committed at any time: the key of the owner is held, the table is clear for
the row, and a row that is inserted has a new id, which is locked. -/
def IsSafe (hash : String → κ) (table : Table) (t : Transaction κ) : Change → Prop
  | .insert row =>
    hash row.userId ∈ t.keys ∧ table.ClearFor row ∧ row.id ∈ t.ids ∧ ¬ table.Has row.id
  | .replace row => hash row.userId ∈ t.keys ∧ table.ClearFor row
  | .remove _ => False

theorem IsSafe.commit {table : Table} {t : Transaction κ} {c : Change}
    (h : IsSafe hash table t c) (ht : table.KeptApart) :
    (table.change c).KeptApart ∧ AddsOwn hash (.inside t) table (table.change c) := by
  cases c with
  | insert row =>
      obtain ⟨hkey, hclear, hid, hnew⟩ := h
      refine ⟨ht.insert hnew hclear, fun r hr => ?_⟩
      rcases Table.mem_insert.mp hr with hr' | rfl
      · exact .inl hr'
      · exact .inr ⟨hkey, .inr hid⟩
  | replace row =>
      obtain ⟨hkey, hclear⟩ := h
      refine ⟨ht.replace hclear, fun r hr => ?_⟩
      rcases Table.mem_replace.mp hr with ⟨rfl, hhas⟩ | ⟨hr', _⟩
      · exact .inr ⟨hkey, .inl hhas⟩
      · exact .inl hr'
  | remove id => exact h.elim

/-! ### The fact of a stage -/

namespace Stage

/-- What holds of the committed rows and of a session at each stage: `sent` are the rows that were
committed when the statement under way was sent. -/
def Holds (hash : String → κ) (table : Table) (sent : Option Table) (st : Standing κ) :
    Stage → Prop
  | .outside => st = .outside
  | .begun => ∃ t, st = .inside t ∧ t.changes = []
  | .guarded userId => ∃ t, st = .inside t ∧ t.changes = [] ∧ hash userId ∈ t.keys ∧
      ∀ seen, sent = some seen → ∀ r ∈ table, r.userId = userId → r ∈ seen
  | .checked userId id first last => ∃ t, st = .inside t ∧ t.changes = [] ∧ hash userId ∈ t.keys ∧
      table.Clear userId id first last
  | .written => ∃ t, st = .inside t ∧
      (t.changes = [] ∨ ∃ c, t.changes = [c] ∧ IsSafe hash table t c)
  | .failed => st = .failed

variable {table table' : Table} {sent : Option Table} {st : Standing κ} {stage : Stage}

theorem Holds.send (h : stage.Holds hash table sent st) :
    stage.Holds hash table (some table) st := by
  cases stage with
  | guarded userId =>
      obtain ⟨t, hst, hc, hkey, _⟩ := h
      exact ⟨t, hst, hc, hkey, fun seen hseen r hr _ => Option.some.inj hseen ▸ hr⟩
  | _ => exact h

theorem Holds.received (h : stage.Holds hash table sent st) : stage.Holds hash table none st := by
  cases stage with
  | guarded userId =>
      obtain ⟨t, hst, hc, hkey, _⟩ := h
      exact ⟨t, hst, hc, hkey, nofun⟩
  | _ => exact h

/-- A row of a user is new only if a key of the user was held, so what a session knows of a user
whose key it holds stays true while another session changes rows. -/
theorem Holds.of_addsOwn (h : stage.Holds hash table sent st) {st' : Standing κ}
    (ho : AddsOwn hash st' table table') (hkeys : ∀ k ∈ st'.keys, k ∉ st.keys)
    (hids : ∀ id ∈ st'.ids, id ∉ st.ids) : stage.Holds hash table' sent st := by
  -- A new row of the user would need a key that this session holds.
  have hold : ∀ {t : Transaction κ} {userId : String}, st = .inside t → hash userId ∈ t.keys →
      ∀ r ∈ table', r.userId = userId → r ∈ table := by
    rintro t userId rfl hkey r hr rfl
    rcases ho r hr with hr' | ⟨hkey', _⟩
    · exact hr'
    · exact absurd hkey (hkeys _ hkey')
  cases stage with
  | outside | begun | failed => exact h
  | guarded userId =>
      obtain ⟨t, hst, hc, hkey, hsent⟩ := h
      refine ⟨t, hst, hc, hkey, fun seen hseen r hr hu => ?_⟩
      exact hsent seen hseen r (hold hst hkey r hr hu) hu
  | checked userId id first last =>
      obtain ⟨t, hst, hc, hkey, hclear⟩ := h
      exact ⟨t, hst, hc, hkey, hclear.mono (hold hst hkey)⟩
  | written =>
      obtain ⟨t, hst, hc | ⟨c, hc, hsafe⟩⟩ := h
      · exact ⟨t, hst, .inl hc⟩
      · refine ⟨t, hst, .inr ⟨c, hc, ?_⟩⟩
        cases c with
        | insert row =>
            obtain ⟨hkey, hclear, hid, hnew⟩ := hsafe
            refine ⟨hkey, hclear.mono (hold hst hkey), hid, ?_⟩
            -- A row of this id that was not there before would lie under a lock of this session.
            rintro ⟨r, hr, hrid⟩
            subst hst
            rcases ho r hr with hr' | ⟨_, hhas | hid'⟩
            · exact hnew ⟨r, hr', hrid⟩
            · exact hnew (hrid ▸ hhas)
            · exact hids _ hid' (hrid ▸ hid)
        | replace row => exact ⟨hsafe.1, hsafe.2.mono (hold hst hsafe.1)⟩
        | remove id => exact hsafe.elim

/-- What a session has done at a stage can be committed. -/
theorem Holds.commit (h : stage.Holds hash table sent st) (ht : table.KeptApart) :
    (table.apply st.changes).KeptApart ∧ AddsOwn hash st table (table.apply st.changes) := by
  have hnone : st.changes = [] →
      (table.apply st.changes).KeptApart ∧ AddsOwn hash st table (table.apply st.changes) := by
    intro hc
    rw [hc]
    exact ⟨ht, AddsOwn.refl st table⟩
  cases stage with
  | outside | failed => exact hnone (by rw [h]; rfl)
  | begun =>
      obtain ⟨t, rfl, hc⟩ := h
      exact hnone hc
  | guarded _ | checked _ _ _ _ =>
      obtain ⟨t, rfl, hc, _⟩ := h
      exact hnone hc
  | written =>
      obtain ⟨t, rfl, hc | ⟨c, hc, hsafe⟩⟩ := h
      · exact hnone hc
      · have hchanges : (Standing.inside t).changes = [c] := hc
        rw [hchanges]
        exact hsafe.commit ht

/-! ### Statements of the session itself -/

theorem Holds.eq_outside (h : stage.Holds hash table sent .outside) : stage = .outside := by
  cases stage with
  | outside => rfl
  | begun | guarded _ | checked _ _ _ _ | written =>
      obtain ⟨t, ht, _⟩ := h
      cases ht
  | failed => cases h

theorem Holds.ne_outside {t : Transaction κ} (h : stage.Holds hash table sent (.inside t)) :
    stage ≠ .outside := by
  rintro rfl
  cases h

/-- A query that changes nothing only adds to what is held. -/
theorem Holds.extend {t : Transaction κ} (h : stage.Holds hash table sent (.inside t)) {q : Query}
    {parameters : List Value} {found : Table} (hq : (q.outcome parameters found).2 = []) :
    stage.Holds hash table none (.inside (t.extend hash q parameters found)) := by
  have hkeys : ∀ {k}, k ∈ t.keys → k ∈ (t.extend hash q parameters found).keys :=
    List.mem_append_left _
  have hids : ∀ {id}, id ∈ t.ids → id ∈ (t.extend hash q parameters found).ids :=
    List.mem_append_left _
  have hchanges : (t.extend hash q parameters found).changes = t.changes := by
    simp only [Transaction.extend, hq, List.append_nil]
  cases stage with
  | outside | failed => cases h
  | begun =>
      obtain ⟨_, ⟨⟩, hc⟩ := h
      exact ⟨_, rfl, hchanges.trans hc⟩
  | guarded userId =>
      obtain ⟨_, ⟨⟩, hc, hkey, _⟩ := h
      exact ⟨_, rfl, hchanges.trans hc, hkeys hkey, by intro _ hsent; cases hsent⟩
  | checked userId id first last =>
      obtain ⟨_, ⟨⟩, hc, hkey, hclear⟩ := h
      exact ⟨_, rfl, hchanges.trans hc, hkeys hkey, hclear⟩
  | written =>
      obtain ⟨_, ⟨⟩, hc | ⟨c, hc, hsafe⟩⟩ := h
      · exact ⟨_, rfl, .inl (hchanges.trans hc)⟩
      · refine ⟨_, rfl, .inr ⟨c, hchanges.trans hc, ?_⟩⟩
        cases c with
        | insert row => exact ⟨hkeys hsafe.1, hsafe.2.1, hids hsafe.2.2.1, hsafe.2.2.2⟩
        | replace row => exact ⟨hkeys hsafe.1, hsafe.2⟩
        | remove id => exact hsafe.elim

/-- The lock of a user, once it is granted, makes the transaction the only one that changes rows of
the user. -/
theorem Holds.lock {t : Transaction κ} (h : Stage.begun.Holds hash table sent (.inside t))
    {q : Query} {parameters : List Value} (reply : Reply) {found : Table}
    (hq : (q.outcome parameters found).2 = []) :
    (Stage.begun.after q parameters reply).Holds hash table none
      (.inside (t.extend hash q parameters found)) := by
  rcases after_begun q parameters reply with ha | ⟨userId, rfl, rfl, ha⟩
  · rw [ha]
    exact h.extend hq
  · rw [ha]
    obtain ⟨t', ht', hc⟩ := h.extend hq
    exact ⟨t', ht', hc, by cases ht'; exact List.mem_append_right _ List.mem_cons_self, nofun⟩

/-- The search for overlapping rows reads all rows of the user that are committed. -/
theorem Holds.check {t : Transaction κ} {userId : String} {seen : Table}
    (h : (Stage.guarded userId).Holds hash table (some seen) (.inside t)) {q : Query}
    {parameters : List Value} {found : Table} (hq : (q.outcome parameters found).2 = [])
    (hfound : q.Finds (seen.apply t.changes) (table.apply t.changes) found) :
    ((Stage.guarded userId).after q parameters (q.outcome parameters found).1).Holds hash table none
      (.inside (t.extend hash q parameters found)) := by
  rcases after_guarded userId q parameters (q.outcome parameters found).1 with
    ha | ⟨id, first, last, rfl, rfl, hnil, ha⟩
  · rw [ha]
    exact h.extend hq
  · rw [ha]
    obtain ⟨_, ⟨⟩, hc, hkey, hsent⟩ := h
    -- The transaction has changed nothing yet, so the search reads what was committed when it was
    -- sent, and that includes all rows of the user that are committed now.
    obtain rfl : found = seen := by rw [hfound, hc]; rfl
    refine ⟨_, rfl, ?_, List.mem_append_left _ hkey, ?_⟩
    · simp only [Transaction.extend, hc, hq, List.append_nil]
    · exact (Table.found_overlapping_eq_nil.mp hnil).mono (hsent _ rfl)

/-- A row that was checked may be added: the table is still clear for it, and an id that is inserted
is locked and new. -/
theorem Holds.add {t : Transaction κ} {userId id : String} {first last : Int} {seen : Table}
    (h : (Stage.checked userId id first last).Holds hash table sent (.inside t)) {q : Query}
    {parameters : List Value} {found : Table} (hq : q.Adds)
    (ha : (Stage.checked userId id first last).Allows (.query q parameters))
    (hfound : q.Finds seen (table.apply t.changes) found) :
    Stage.written.Holds hash table none (.inside (t.extend hash q parameters found)) := by
  obtain ⟨_, ⟨⟩, hc, hkey, hclear⟩ := h
  refine ⟨_, rfl, ?_⟩
  simp only [Transaction.extend, hc, List.nil_append]
  rcases Query.changes_of_adds hq parameters found with
    hnone | ⟨row, hrow, ⟨rfl, hnew, hins⟩ | ⟨rfl, hrep⟩⟩
  · exact .inl hnone
  · obtain ⟨_, row', hrow', rfl, rfl, rfl, rfl⟩ := ha.imp_right (· hq)
    obtain rfl : row = row' := Option.some.inj (hrow.symm.trans hrow')
    refine .inr ⟨_, hins, List.mem_append_left _ hkey, hclear, List.mem_append_right _ ?_, ?_⟩
    · rw [Query.ids_insertEvent hrow]
      exact List.mem_cons_self
    · obtain rfl : found = table := by rw [hfound, hc]; rfl
      exact hnew
  · obtain ⟨_, row', hrow', rfl, rfl, rfl, rfl⟩ := ha.imp_right (· hq)
    obtain rfl : row = row' := Option.some.inj (hrow.symm.trans hrow')
    exact .inr ⟨_, hrep, List.mem_append_left _ hkey, hclear⟩

/-- A query of an open transaction leads to the fact of the next stage. -/
theorem Holds.query {t : Transaction κ} {seen : Table}
    (h : stage.Holds hash table (some seen) (.inside t)) {q : Query} {parameters : List Value}
    {found : Table} (ha : stage.Allows (.query q parameters))
    (hfound : q.Finds (seen.apply t.changes) (table.apply t.changes) found) :
    (stage.after q parameters (q.outcome parameters found).1).Holds hash table none
      (.inside (t.extend hash q parameters found)) := by
  have hreads : ¬ q.Adds ∧ ¬ q.Removes → (q.outcome parameters found).2 = [] := fun hq =>
    Query.changes_of_reads hq.1 hq.2 parameters found
  cases stage with
  | outside | failed => cases h
  | begun => exact h.lock _ (hreads ha)
  | guarded userId => exact h.check (hreads ha) hfound
  | checked userId id first last =>
      by_cases hq : q.Adds
      · rw [after_checked_of_adds hq]
        exact h.add hq ha hfound
      · rw [after_checked hq]
        exact h.extend (hreads ⟨hq, ha.1⟩)
  | written => exact h.extend (hreads ha)

end Stage

/-- **What a statement does.**  If it is allowed at a stage whose fact holds, the committed rows
stay apart, the new ones belong to users whose key the session holds, and the fact of the next stage
holds. -/
theorem executes_keeps {w : World ι κ} {i : ι} {seen : Table} {st : Standing κ} {s : Statement}
    {table : Table} {st' : Standing κ} {reply : Reply} {stage : Stage}
    (hx : w.Executes hash i seen st s table st' reply) (ha : stage.Allows s)
    (h : stage.Holds hash w.table (some seen) st) (hw : w.table.KeptApart) :
    table.KeptApart ∧ AddsOwn hash st w.table table ∧
      (stage.next s reply).Holds hash table none st' := by
  cases hx with
  | begin =>
      obtain rfl := h.eq_outside
      exact ⟨hw, AddsOwn.refl _ _, _, rfl, rfl⟩
  | commit st =>
      obtain ⟨hk, ho⟩ := h.commit hw
      refine ⟨hk, ho, ?_⟩
      cases stage <;> rfl
  | rollback st =>
      refine ⟨hw, AddsOwn.refl _ _, ?_⟩
      cases stage <;> rfl
  | single hfound hgrant hreply =>
      obtain rfl := h.eq_outside
      obtain ⟨hk, ho⟩ := apply_removals (fun _ => Query.changes_of_not_adds ha _ _) hw .outside
      exact ⟨hk, ho, rfl⟩
  | @query t q parameters found hfound hgrant hreply =>
      have hnext : stage.next (.query q parameters) (q.outcome parameters found).1 =
          stage.after q parameters (q.outcome parameters found).1 :=
        next_query h.ne_outside hreply
      rw [hnext]
      exact ⟨hw, AddsOwn.refl _ _, h.query ha hfound⟩

/-- A statement that fails. -/
theorem Stage.Holds.fail {table : Table} {sent : Option Table} {st : Standing κ} {stage : Stage}
    (h : stage.Holds hash table sent st) {s : Statement} (ha : stage.Allows s) (code : String) :
    (stage.next s (.failure code)).Holds hash table none (st.afterFailure s) := by
  cases stage with
  | outside =>
      obtain rfl : st = .outside := h
      cases s <;> rfl
  | begun | guarded _ | checked _ _ _ _ | written =>
      obtain ⟨t, rfl, _⟩ := h
      cases s with
      | begin => exact absurd rfl ha
      | commit | rollback | query _ _ => rfl
  | failed =>
      obtain rfl : st = .failed := h
      cases s with
      | begin => exact absurd rfl ha
      | commit | rollback | query _ _ => rfl

/-- If a statement leaves the session outside a transaction, the client gets outside also where the
reply is lost. -/
theorem next_of_lost {w : World ι κ} {i : ι} {seen : Table} {st : Standing κ} {s : Statement}
    {table : Table} {reply : Reply} {stage : Stage}
    (hx : w.Executes hash i seen st s table .outside reply)
    (h : stage.Holds hash w.table (some seen) st) (code : String) :
    stage.next s (.failure code) = .outside := by
  cases hx with
  | commit _ | rollback _ => cases stage <;> rfl
  | single hfound hgrant hreply =>
      obtain rfl := h.eq_outside
      rfl

/-- A statement only takes keys and locks that no other session holds. -/
theorem executes_takes {w : World ι κ} {i : ι} {seen : Table} {st : Standing κ} {s : Statement}
    {table : Table} {st' : Standing κ} {reply : Reply}
    (hx : w.Executes hash i seen st s table st' reply) {j : ι} (hj : j ≠ i) :
    (∀ k ∈ st'.keys, k ∈ st.keys ∨ k ∉ (w.sessions j).standing.keys) ∧
      ∀ id ∈ st'.ids, id ∈ st.ids ∨ id ∉ (w.sessions j).standing.ids := by
  cases hx with
  | begin | commit _ | rollback _ | single _ _ _ => exact ⟨nofun, nofun⟩
  | query hfound hgrant hreply =>
      obtain ⟨hkeys, hids⟩ := hgrant j hj
      refine ⟨fun k hk => ?_, fun id hid => ?_⟩
      · rcases List.mem_append.mp hk with hk' | hk'
        · exact .inl hk'
        · obtain ⟨userId, hu, rfl⟩ := List.mem_map.mp hk'
          exact .inr (hkeys userId hu)
      · rcases List.mem_append.mp hid with hid' | hid'
        · exact .inl hid'
        · exact .inr (hids id hid')

/-! ### The invariant -/

/-- The client of a session is at a stage: what it has still to do keeps the discipline from there
on, and the fact of the stage holds. -/
def IsAt (hash : String → κ) (table : Table) (s : Session κ) (stage : Stage) : Prop :=
  (∀ d, s.program = some d → d.Keeps discipline stage fun stage _ => stage = .outside) ∧
    stage.Holds hash table s.sent s.standing

theorem isAt_idle (hash : String → κ) (table : Table) : IsAt hash table .idle .outside :=
  ⟨nofun, rfl⟩

/-- No key and no lock is held by two of these sessions. -/
def Exclude (a b : Session κ) : Prop :=
  (∀ k ∈ a.standing.keys, k ∉ b.standing.keys) ∧ ∀ id ∈ a.standing.ids, id ∉ b.standing.ids

theorem Exclude.symm {a b : Session κ} (h : Exclude a b) : Exclude b a :=
  ⟨fun k hb ha => h.1 k ha hb, fun id hb ha => h.2 id ha hb⟩

/-- The committed rows are kept apart, no two sessions hold the same key or lock, and each client is
at some stage. -/
structure Disciplined (hash : String → κ) (w : World ι κ) : Prop where
  apart : w.table.KeptApart
  exclusive : ∀ i j, i ≠ j → Exclude (w.sessions i) (w.sessions j)
  staged : ∀ i, ∃ stage, IsAt hash w.table (w.sessions i) stage

/-- What a step of one session leads to. -/
structure Advances (hash : String → κ) (w : World ι κ) (i : ι) (table : Table) (s : Session κ) :
    Prop where
  apart : table.KeptApart
  own : AddsOwn hash (w.sessions i).standing w.table table
  exclusive : ∀ j, j ≠ i → Exclude s (w.sessions j)
  staged : ∃ stage, IsAt hash table s stage

namespace Disciplined

variable {w : World ι κ} {i : ι} {table : Table} {s : Session κ}

/-- A session that goes on without a change of the committed rows. -/
theorem advances (h : Disciplined hash w) {stage : Stage} (hs : IsAt hash w.table s stage)
    (hkeys : ∀ k ∈ s.standing.keys, k ∈ (w.sessions i).standing.keys)
    (hids : ∀ id ∈ s.standing.ids, id ∈ (w.sessions i).standing.ids) :
    Advances hash w i w.table s where
  apart := h.apart
  own := AddsOwn.refl _ _
  exclusive j hj :=
    ⟨fun k hk => (h.exclusive i j hj.symm).1 k (hkeys k hk),
      fun id hid => (h.exclusive i j hj.symm).2 id (hids id hid)⟩
  staged := ⟨stage, hs⟩

/-- **What one session can do.**  Whatever step it takes, the committed rows stay apart, the session
holds nothing that another one holds, and it gets to some stage. -/
theorem acts (h : Disciplined hash w) (ha : w.Acts hash i table s) : Advances hash w i table s := by
  obtain ⟨stage, hprogram, hholds⟩ := h.staged i
  have hexclusive := fun j (hj : j ≠ i) => h.exclusive i j hj.symm
  cases ha with
  | call op hi =>
      have hcall : IsAt hash w.table ⟨some (store.perform op), none, .outside⟩ .outside :=
        ⟨fun d hd => Option.some.inj hd ▸ store_keeps_discipline op, rfl⟩
      exact h.advances hcall nofun nofun
  | send hi =>
      rw [hi] at hprogram hholds
      exact h.advances ⟨hprogram, hholds.send⟩ (by rw [hi]; exact fun _ => id)
        (by rw [hi]; exact fun _ => id)
  | answer hi hx =>
      rw [hi] at hprogram hholds
      simp only [hi] at hexclusive
      obtain ⟨hallows, hnext⟩ := hprogram _ rfl
      obtain ⟨hapart, hown, hholds'⟩ := executes_keeps hx hallows hholds h.apart
      refine ⟨hapart, by rwa [hi], fun j hj => ?_, _,
        fun d hd => Option.some.inj hd ▸ hnext _, hholds'⟩
      obtain ⟨hkeys, hids⟩ := executes_takes hx hj
      exact ⟨fun k hk => (hkeys k hk).elim ((hexclusive j hj).1 k) id,
        fun id hid => (hids id hid).elim ((hexclusive j hj).2 id) fun h => h⟩
  | lose code hi hx =>
      rw [hi] at hprogram hholds
      obtain ⟨hallows, hnext⟩ := hprogram _ rfl
      obtain ⟨hapart, hown, _⟩ := executes_keeps hx hallows hholds h.apart
      -- The client takes the statement for failed, but it stops at the same place.
      have hlost := next_of_lost hx hholds code
      refine ⟨hapart, by rwa [hi], fun j _ => ⟨nofun, nofun⟩, .outside,
        fun d hd => Option.some.inj hd ▸ ?_, rfl⟩
      exact hlost ▸ hnext (.failure code)
  | @fail statement next seen st code hi =>
      rw [hi] at hprogram hholds
      obtain ⟨hallows, hnext⟩ := hprogram _ rfl
      have hnone :
          (st.afterFailure statement).keys = [] ∧ (st.afterFailure statement).ids = [] := by
        cases st <;> cases statement <;> exact ⟨rfl, rfl⟩
      have hat : IsAt hash w.table ⟨some (next (.failure code)), none, st.afterFailure statement⟩
          (stage.next statement (.failure code)) :=
        ⟨fun d hd => Option.some.inj hd ▸ hnext _, hholds.fail hallows code⟩
      exact h.advances hat (by rw [hnone.1]; exact nofun) (by rw [hnone.2]; exact nofun)
  | leave => exact h.advances (isAt_idle hash w.table) nofun nofun

/-- The step of one session keeps the invariant: the other sessions stay where they are. -/
theorem put [DecidableEq ι] (h : Disciplined hash w) (ha : Advances hash w i table s) :
    Disciplined hash (w.put i table s) where
  apart := ha.apart
  exclusive j k hjk := by
    by_cases hj : j = i
    · subst hj
      rw [World.put_self, World.put_ne w hjk.symm]
      exact ha.exclusive k hjk.symm
    · by_cases hk : k = i
      · subst hk
        rw [World.put_self, World.put_ne w hj]
        exact (ha.exclusive j hj).symm
      · rw [World.put_ne w hj, World.put_ne w hk]
        exact h.exclusive j k hjk
  staged j := by
    by_cases hj : j = i
    · subst hj
      rw [World.put_self]
      exact ha.staged
    -- Another session stays at its stage, since the keys of the one that acted are not its own.
    · obtain ⟨stage, hprogram, hholds⟩ := h.staged j
      have hex := h.exclusive i j (Ne.symm hj)
      rw [World.put_ne w hj]
      exact ⟨stage, hprogram, hholds.of_addsOwn ha.own hex.1 hex.2⟩

end Disciplined

theorem disciplined_of_reachable [DecidableEq ι] {w : World ι κ} (h : w.Reachable hash) :
    Disciplined hash w := by
  induction h with
  | start =>
      exact ⟨Table.KeptApart.nil, fun _ _ _ => ⟨nofun, nofun⟩,
        fun _ => ⟨.outside, isAt_idle hash []⟩⟩
  | step _ ha ih => exact ih.put (ih.acts ha)

/-- **Every interleaving keeps rows apart.**  Whatever operations any number of clients perform on
one table, in whatever order their statements are answered, fail or are abandoned, and whichever
users share a key, no two committed rows have the same id, and no two committed rows of one user
overlap. -/
theorem interleavings_keep_rows_apart [DecidableEq ι] (hash : String → κ) (w : World ι κ)
    (h : w.Reachable hash) :
    w.table.Pairwise fun a b =>
      a.id ≠ b.id ∧
        (a.userId = b.userId → ¬ (a.startTime < b.endTime ∧ b.startTime < a.endTime)) := by
  refine (disciplined_of_reachable h).apart.imp fun {a b} hab => ⟨hab.1, fun hu => ?_⟩
  have hmeets := hab.2 hu
  simpa [EventRow.meets] using hmeets

/-- A meeting of one user. -/
def firstMeeting : Event := MemoryStore.sampleEvent "a" "u1" 0 3600

/-- The meeting that follows it. -/
def secondMeeting : Event := MemoryStore.sampleEvent "b" "u1" 3600 7200

/-- One client has begun a transaction when another one creates the first meeting; it gives up,
starts again and creates the second. -/
theorem meetings_kept_apart :
    ∃ w : World Bool Nat, w.Reachable String.length ∧
      w.table = [.ofEvent firstMeeting, .ofEvent secondMeeting] ∧
      w.table.Pairwise fun a b => a.id ≠ b.id ∧
        (a.userId = b.userId → ¬ (a.startTime < b.endTime ∧ b.startTime < a.endTime)) := by
  have h₀ : (⟨[], fun _ => .idle⟩ : World Bool Nat).Reachable String.length := .start
  obtain ⟨w₁, h₁, ht₁, hs₁, ho₁⟩ := Alone.begin (Alone.call h₀ false rfl (.create "" secondMeeting))
  have hfree₁ : IsFree w₁ true := fun j hj =>
    match j with
    | true => absurd rfl hj
    | false => by rw [hs₁]; exact ⟨rfl, rfl⟩
  have hi₁ : w₁.sessions true = .idle := ho₁ true nofun
  obtain ⟨w₂, h₂, ht₂, hi₂, _⟩ := create_commits h₁ hi₁ hfree₁ "" firstMeeting rfl rfl
    (by rw [ht₁]; decide) (by rw [ht₁]; decide)
  rw [ht₁, List.nil_append] at ht₂
  have h₃ : (w₂.put false w₂.table .idle).Reachable String.length := .step h₂ .leave
  have hfree₃ : IsFree (w₂.put false w₂.table .idle) false := fun j hj =>
    match j with
    | true => by rw [World.put_ne _ hj, hi₂]; exact ⟨rfl, rfl⟩
    | false => absurd rfl hj
  have ht₃ : (w₂.put false w₂.table .idle).table = [.ofEvent firstMeeting] := ht₂
  obtain ⟨w₄, h₄, ht₄, _, _⟩ := create_commits h₃ (World.put_self _ _ _ _) hfree₃ "" secondMeeting
    rfl rfl (by rw [ht₃]; decide) (by rw [ht₃]; decide)
  rw [ht₃] at ht₄
  exact ⟨w₄, h₄, ht₄, interleavings_keep_rows_apart String.length w₄ h₄⟩

end Reminders.DatabaseStore
