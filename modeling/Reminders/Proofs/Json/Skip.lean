import Reminders.Proofs.Json.Record

/-!
# Json — members that are passed over

A member of an object that names no field is skipped with its value, so an object may hold more than
the record that is read from it.

* `skipValue_writeText`: a written text is skipped as a whole.
* `Record.read_writeObject_of_unknown`: an object whose first member names no field.
-/

namespace Reminders.Json

/-! ### Texts -/

/-- One written byte is passed over. -/
theorem readBody_skipEscape (b : UInt8) (fuel : Nat) (gathered rest : Bytes) :
    ∃ gathered', readBody skipEscape (fuel + 1) gathered (escape b ++ rest) =
      readBody skipEscape fuel gathered' rest := by
  by_cases h : 0x20 ≤ b
  · by_cases h₁ : b = 0x22
    · subst h₁
      exact ⟨gathered, rfl⟩
    · by_cases h₂ : b = 0x5C
      · subst h₂
        exact ⟨gathered, rfl⟩
      · have h₃ : ¬ b < 0x20 := by simpa using h
        exact ⟨b :: gathered, by simp [escape, h₁, h₂, h, readBody, h₃]⟩
  · have hb : b.toNat < 32 := by simpa [UInt8.le_iff_toNat_le] using h
    obtain ⟨hhigh, hlow, _⟩ := hexValue?_hexDigit ⟨b.toNat, hb⟩
    simp only [UInt8.ofNat_toNat] at hhigh hlow
    have hlong : skipEscape (0x75 :: 0x30 :: 0x30 :: hexDigit (b / 16) ::
        hexDigit (b % 16) :: rest) = .ok ([], rest) := by
      have hzero : hexValue? 0x30 = some 0 := rfl
      simp only [skipEscape, if_pos, readHex, hzero, hhigh, hlow, bind, Except.bind]
      rfl
    have h₁ : b ≠ 0x22 := by rintro rfl; exact h (by decide)
    have h₂ : b ≠ 0x5C := by rintro rfl; exact h (by decide)
    refine ⟨gathered, ?_⟩
    simp only [escape, if_neg h₁, if_neg h₂, if_neg h]
    repeat' split
    case isFalse.isFalse.isFalse.isFalse.isFalse =>
      simp only [List.cons_append, List.nil_append, readBody, hlong]
      rfl
    all_goals rfl

/-- Written bytes are passed over up to the closing quote. -/
theorem readBody_skip_flatMap_escape (bytes rest : Bytes) (fuel : Nat) (gathered : Bytes)
    (h : bytes.length < fuel) :
    ∃ gathered', readBody skipEscape fuel gathered (bytes.flatMap escape ++ 0x22 :: rest) =
      .ok (gathered', rest) := by
  induction bytes generalizing fuel gathered with
  | nil =>
      cases fuel with
      | zero => cases h
      | succ fuel => exact ⟨gathered.reverse, by simp [readBody]⟩
  | cons b bytes ih =>
      cases fuel with
      | zero => cases h
      | succ fuel =>
          obtain ⟨gathered₁, hbyte⟩ := readBody_skipEscape b fuel gathered
            (bytes.flatMap escape ++ 0x22 :: rest)
          obtain ⟨gathered', hbytes⟩ := ih fuel gathered₁ (by simpa using h)
          exact ⟨gathered', by rw [List.flatMap_cons, List.append_assoc, hbyte, hbytes]⟩

theorem skipTextBody_writeText (s : String) (rest : Bytes) :
    skipTextBody ((writeText s).tail ++ rest) = .ok ((), rest) := by
  have hwritten : (writeText s).tail ++ rest = (bytesOf s).flatMap escape ++ 0x22 :: rest := by
    simp [writeText]
  have hlength := length_le_flatMap_escape (bytesOf s)
  obtain ⟨gathered, hbody⟩ := readBody_skip_flatMap_escape (bytesOf s) rest
    (((bytesOf s).flatMap escape ++ 0x22 :: rest).length + 1) []
    (by simp only [List.length_append, List.length_cons]; omega)
  rw [skipTextBody, hwritten, hbody]
  rfl

/-- A written text is skipped as a whole. -/
theorem skipValue_writeText (s : String) (rest : Bytes) :
    skipValue (writeText s ++ rest) = .ok ((), rest) := by
  have hopen : writeText s ++ rest = 0x22 :: ((writeText s).tail ++ rest) := rfl
  have hscalar : skipScalar 0x22 (0x22 :: ((writeText s).tail ++ rest)) = .ok ((), rest) :=
    skipTextBody_writeText s rest
  rw [hopen, skipValue, skipFrom]
  refine (peekToken_bind rfl _ _).trans ?_
  exact (reader_bind hscalar).trans rfl

/-! ### Members -/

namespace Record

variable {α δ : Type} {record : Record δ α} {draft : δ} {member : String × Bytes}
  {members : List (String × Bytes)} {value : α}

theorem readMember_of_unknown (draft : δ)
    (hunknown : record.fields.find? (fun field => field.name = member.1) = none) {rest : Bytes}
    (hskip : skipValue (member.2 ++ rest) = .ok ((), rest)) :
    record.readMember draft ((writeMember member).tail ++ rest) = .ok (draft, rest) := by
  have hwritten : (writeMember member).tail ++ rest =
      (writeText member.1).tail ++ (0x3A :: (member.2 ++ rest)) := by
    simp [writeMember, writeText]
  rw [hwritten]
  refine (reader_bind (readTextBody_writeText _ _)).trans ?_
  simp only [hunknown]
  exact (reader_bind (readColon_cons _)).trans ((reader_bind hskip).trans rfl)

/-- An object reads as the record of its other members if its first one names no field. -/
theorem read_writeObject_of_unknown
    (hunknown : record.fields.find? (fun field => field.name = member.1) = none)
    (hskip : ∀ rest, skipValue (member.2 ++ rest) = .ok ((), rest))
    (h : record.Takes record.blank members draft) (hvalue : record.finish draft = some value)
    (rest : Bytes) : record.read (writeObject (member :: members) ++ rest) = .ok (value, rest) :=
  read_writeObject_cons (readMember_of_unknown record.blank hunknown (hskip _)) h hvalue

end Record

end Reminders.Json
