import Reminders.Json.Record
import Reminders.Proofs.Monad

/-!
# Json — written records read back

The members of an object are read one after the other, each into the draft that the members before
it have left.  `Takes` follows this for members that hold what their fields expect, in the order in
which they are written.

* `readText_writeText`: a written text reads back, whatever follows it.
* `Record.read_writeObject`: an object of such members reads as the record of the last draft.
-/

namespace Reminders.Json

variable {α β δ : Type}

/-! ### Readers -/

/-- A reader that succeeds hands its value and the rest of the input on. -/
theorem reader_bind {x : Reader α} {f : α → Reader β} {input rest : Bytes} {a : α}
    (h : x input = .ok (a, rest)) : (x >>= f) input = f a rest :=
  bind_of_eq_pure h

theorem reader_map {x : Reader α} (f : α → β) {input rest : Bytes} {a : α}
    (h : x input = .ok (a, rest)) : (f <$> x) input = .ok (f a, rest) := by
  simp only [Functor.map, StateT.map, h, bind, Except.bind]
  rfl

theorem peekToken_cons {b : UInt8} (h : isSpace b = false) (rest : Bytes) :
    peekToken (b :: rest) = .ok (b, b :: rest) := by
  have hskip : skipSpace (b :: rest) = b :: rest := by simp [skipSpace, h]
  have hpeek : peek (b :: rest) = .ok (some b, b :: rest) := by
    simp only [peek, hskip, List.head?_cons]
  exact reader_bind hpeek

/-- After a peek at its first byte a reader goes on with the input as it is. -/
theorem peekToken_bind {b : UInt8} (h : isSpace b = false) (f : UInt8 → Reader β) (rest : Bytes) :
    (peekToken >>= f) (b :: rest) = f b (b :: rest) :=
  reader_bind (peekToken_cons h rest)

theorem readText_writeText (s : String) (rest : Bytes) :
    readText (writeText s ++ rest) = .ok (s, rest) := by
  have hopen : writeText s ++ rest = 0x22 :: ((writeText s).tail ++ rest) := rfl
  rw [hopen, readText, peekToken_bind rfl]
  exact readTextBody_writeText s rest

theorem readTextAs_writeText {interpret : String → Option α} {s : String} {a : α}
    (h : interpret s = some a) (rest : Bytes) :
    readTextAs interpret (writeText s ++ rest) = .ok (a, rest) := by
  refine (reader_bind (readText_writeText s rest)).trans ?_
  rw [h]
  rfl

theorem readWord_writeText {interpret : String → Option α} {s : String} {a : α}
    (h : interpret s = some a) (rest : Bytes) :
    readWord interpret (writeText s ++ rest) = .ok (a, rest) := by
  have hopen : writeText s ++ rest = 0x22 :: ((writeText s).tail ++ rest) := rfl
  rw [hopen, readWord, peekToken_bind rfl, if_pos rfl, ← hopen]
  exact readTextAs_writeText h rest

/-- A field takes the value that it reads into the draft. -/
theorem Field.read_of {name : String} {get : δ → Option β} {set : δ → β → δ} {value : Reader β}
    {input rest : Bytes} {v : β} (h : value input = .ok (v, rest)) (draft : δ) :
    (Field.of name get set value).read draft input = .ok (set draft v, rest) :=
  reader_map (set draft) h

theorem readColon_cons (rest : Bytes) : readColon (0x3A :: rest) = .ok ((), rest) :=
  peekToken_bind rfl _ rest

namespace Record

theorem openName_cons (rest : Bytes) : openName (0x22 :: rest) = .ok ((), rest) :=
  peekToken_bind rfl _ rest

theorem takeComma_cons (rest : Bytes) : takeComma (0x2C :: rest) = .ok ((), rest) :=
  peekToken_bind rfl _ rest

/-! ### Members -/

/-- A comma or the end of the object comes next. -/
def AtEnd (rest : Bytes) : Prop :=
  rest.head? = some 0x2C ∨ rest.head? = some 0x7D

/-- Some members lead from one draft to another: each of them names a field that is not yet set, and
its value is one that the field reads. -/
inductive Takes (record : Record δ α) : δ → List (String × Bytes) → δ → Prop where
  | nil (draft : δ) : Takes record draft [] draft
  | cons {draft draft' draft'' : δ} {field : Field δ} {member : String × Bytes}
      {members : List (String × Bytes)}
      (hfield : record.fields.find? (fun field => field.name = member.1) = some field)
      (hnew : field.isSet draft = false)
      (hread : ∀ rest, AtEnd rest → field.read draft (member.2 ++ rest) = .ok (draft', rest))
      (h : Takes record draft' members draft'') : Takes record draft (member :: members) draft''

variable {record : Record δ α} {draft draft' : δ} {member : String × Bytes}
  {members : List (String × Bytes)} {value : α}

/-- A written member is read into the draft. -/
theorem readMember_writeMember {field : Field δ}
    (hfield : record.fields.find? (fun field => field.name = member.1) = some field)
    (hnew : field.isSet draft = false) {rest : Bytes}
    (hread : field.read draft (member.2 ++ rest) = .ok (draft', rest)) :
    record.readMember draft ((writeMember member).tail ++ rest) = .ok (draft', rest) := by
  have hwritten : (writeMember member).tail ++ rest =
      (writeText member.1).tail ++ (0x3A :: (member.2 ++ rest)) := by
    simp [writeMember, writeText]
  rw [hwritten]
  refine (reader_bind (readTextBody_writeText _ _)).trans ?_
  simp only [hfield, hnew]
  exact (reader_bind (readColon_cons _)).trans hread

/-- The rest of an object after one of its members. -/
def writeRest (members : List (String × Bytes)) : Bytes :=
  members.flatMap (fun member => 0x2C :: writeMember member) ++ [0x7D]

theorem length_le_writeRest (members : List (String × Bytes)) :
    members.length ≤ (writeRest members).length := by
  induction members with
  | nil => exact Nat.zero_le _
  | cons member members ih =>
      simp only [writeRest, List.flatMap_cons, List.length_append, List.length_cons] at ih ⊢
      omega

theorem atEnd_writeRest (members : List (String × Bytes)) (rest : Bytes) :
    AtEnd (writeRest members ++ rest) := by
  cases members with
  | nil => exact .inr rfl
  | cons member members => exact .inl rfl

theorem readMembers_writeRest {fuel : Nat} (h : record.Takes draft members draft')
    (hvalue : record.finish draft' = some value) (hfuel : members.length < fuel) (rest : Bytes) :
    record.readMembers fuel false draft (writeRest members ++ rest) = .ok (value, rest) := by
  -- By induction on the members: each leaves the draft that the next one starts from.
  induction h generalizing fuel with
  | nil draft =>
      cases fuel with
      | zero => cases hfuel
      | succ fuel =>
          have hcomplete : record.complete draft = pure value := by rw [complete, hvalue]
          refine (peekToken_bind rfl _ rest).trans ?_
          rw [if_pos rfl, hcomplete]
          rfl
  | @cons draft draft' draft'' field member members hfield hnew hread h ih =>
      cases fuel with
      | zero => cases hfuel
      | succ fuel =>
          have hwritten : writeRest (member :: members) ++ rest =
              0x2C :: 0x22 :: ((writeMember member).tail ++ (writeRest members ++ rest)) := by
            simp [writeRest, writeMember, writeText]
          rw [hwritten]
          refine (peekToken_bind rfl _ _).trans ?_
          rw [if_neg (by decide)]
          refine (reader_bind (takeComma_cons _)).trans ?_
          refine (reader_bind (openName_cons _)).trans ?_
          -- After the value comes a comma or the brace, so even a number would end here.
          have hmember := hread _ (atEnd_writeRest members rest)
          refine (reader_bind (readMember_writeMember hfield hnew hmember)).trans ?_
          exact ih hvalue (by simpa using hfuel)

theorem writeSeparated_cons (value : Bytes) (values : List Bytes) :
    writeSeparated (value :: values) = value ++ values.flatMap (0x2C :: ·) := by
  induction values generalizing value with
  | nil => simp [writeSeparated]
  | cons next values ih => simp [writeSeparated, ih]

theorem writeObject_cons (member : String × Bytes) (members : List (String × Bytes)) :
    writeObject (member :: members) =
      0x7B :: 0x22 :: ((writeMember member).tail ++ writeRest members) := by
  rw [writeObject, List.map_cons, writeSeparated_cons, List.flatMap_map]
  simp [writeRest, writeMember, writeText]

theorem read_brace (rest : Bytes) : record.read (0x7B :: rest) =
    record.readMembers (rest.length + 1) true record.blank rest := by
  refine (peekToken_bind rfl _ rest).trans ?_
  rw [if_pos rfl]
  rfl

/-- An object is read member by member, once its first member is read. -/
theorem read_writeObject_cons {rest : Bytes}
    (hmember : record.readMember record.blank ((writeMember member).tail ++
      (writeRest members ++ rest)) = .ok (draft, writeRest members ++ rest))
    (h : record.Takes draft members draft') (hvalue : record.finish draft' = some value) :
    record.read (writeObject (member :: members) ++ rest) = .ok (value, rest) := by
  rw [writeObject_cons, List.cons_append, List.cons_append, read_brace, List.append_assoc]
  refine (peekToken_bind rfl _ _).trans ?_
  rw [if_neg (by decide)]
  refine (reader_bind (openName_cons _)).trans ?_
  refine (reader_bind hmember).trans ?_
  have hlength : members.length ≤ (writeRest members).length := length_le_writeRest members
  refine readMembers_writeRest h hvalue ?_ rest
  simp only [List.length_cons, List.length_append]
  omega

/-- **A written record reads back**, whatever follows it. -/
theorem read_writeObject (h : record.Takes record.blank members draft)
    (hvalue : record.finish draft = some value) (rest : Bytes) :
    record.read (writeObject members ++ rest) = .ok (value, rest) := by
  cases h with
  | nil =>
      have hempty : writeObject [] ++ rest = 0x7B :: 0x7D :: rest := rfl
      have hcomplete : record.complete record.blank = pure value := by rw [complete, hvalue]
      rw [hempty, read_brace]
      refine (peekToken_bind rfl _ rest).trans ?_
      rw [if_pos rfl, hcomplete]
      rfl
  | @cons _ draft' _ field member members hfield hnew hread h =>
      have hmember := hread _ (atEnd_writeRest members rest)
      exact read_writeObject_cons (readMember_writeMember hfield hnew hmember) h hvalue

/-- A reader that takes all bytes. -/
theorem run_of_read {x : Reader α} {input : Bytes} (h : x (input ++ []) = .ok (value, [])) :
    x.run input = .ok value := by
  rw [List.append_nil] at h
  simp only [Reader.run, StateT.run, h]
  rfl

theorem run_writeObject (h : record.Takes record.blank members draft)
    (hvalue : record.finish draft = some value) :
    record.read.run (writeObject members) = .ok value :=
  run_of_read (read_writeObject h hvalue [])

end Record

end Reminders.Json
