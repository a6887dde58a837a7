import Reminders.Api.Query
import Reminders.Proofs.Text.Digits
import Reminders.Proofs.Text.Lossy
import Reminders.Proofs.Text.Words

/-!
# Api — queries that clients write

A client can ask for the events of any user in any range.  The name of the user may hold every
character if each of its bytes is written with a percent sign; the seconds are written in decimal.

* `queryText_percentEncoded`, `queryText_of_plain`: values that are read as they were meant.
* `queryFields_writeFields`: the fields of a written query.
* `ofQuery?_rangeQuery`: the query for a range reads as the filter for it.
-/

namespace Reminders

/-! ### Percent signs -/

namespace Text

/-- A byte as a percent sign and two hexadecimal digits. -/
def percentEncode (b : UInt8) : List Char :=
  ['%', Nat.digitChar (b.toNat / 16), Nat.digitChar (b.toNat % 16)]

/-- A text of which every byte is written with a percent sign. -/
def percentEncoded (s : String) : List Char :=
  (bytesOf s).flatMap percentEncode

theorem hexValue?_digitChar : ∀ d : Fin 16,
    (String.utf8EncodeChar (Nat.digitChar d)).map Json.hexValue? = [some d.val] := by
  decide

/-- A written byte is read back, whatever follows it. -/
theorem percentDecode_percentEncode (b : UInt8) (rest : Bytes) :
    percentDecode ((percentEncode b).flatMap String.utf8EncodeChar ++ rest) =
      b :: percentDecode rest := by
  have hb := b.toNat_lt
  have hmark : String.utf8EncodeChar '%' = [0x25] := by decide
  obtain ⟨high, hhigh, hhighValue⟩ := List.map_eq_singleton_iff.mp
    (hexValue?_digitChar ⟨b.toNat / 16, by omega⟩)
  obtain ⟨low, hlow, hlowValue⟩ := List.map_eq_singleton_iff.mp
    (hexValue?_digitChar ⟨b.toNat % 16, by omega⟩)
  have hbyte : (b.toNat / 16 * 16 + b.toNat % 16).toUInt8 = b := by
    rw [Nat.div_add_mod' b.toNat 16]
    exact UInt8.ofNat_toNat
  simp only [percentEncode, List.flatMap_cons, List.flatMap_nil, hmark, hhigh, hlow]
  simp only [List.cons_append, List.nil_append, percentDecode, hhighValue, hlowValue, hbyte]
  rfl

theorem percentDecode_percentEncoded (s : String) :
    percentDecode (bytesOf (String.ofList (percentEncoded s))) = bytesOf s := by
  rw [bytesOf_eq_flatMap, String.toList_ofList, percentEncoded]
  induction bytesOf s with
  | nil => rfl
  | cons b bytes ih =>
      rw [List.flatMap_cons, List.flatMap_append, percentDecode_percentEncode, ih]

/-- Nothing in a text so written has a meaning in queries. -/
theorem not_mem_percentEncoded (s : String) :
    '&' ∉ percentEncoded s ∧ '+' ∉ percentEncoded s := by
  have hdigit : ∀ d : Fin 16, Nat.digitChar d ≠ '&' ∧ Nat.digitChar d ≠ '+' := by decide
  have hbyte : ∀ b : UInt8, '&' ∉ percentEncode b ∧ '+' ∉ percentEncode b := fun b => by
    have hb := b.toNat_lt
    obtain ⟨hhigh, hhigh'⟩ := hdigit ⟨b.toNat / 16, by omega⟩
    obtain ⟨hlow, hlow'⟩ := hdigit ⟨b.toNat % 16, by omega⟩
    simp only [percentEncode, List.mem_cons, List.not_mem_nil, or_false, not_or]
    exact ⟨⟨by decide, hhigh.symm, hlow.symm⟩, by decide, hhigh'.symm, hlow'.symm⟩
  simp only [percentEncoded, List.mem_flatMap, not_exists, not_and]
  exact ⟨fun b _ => (hbyte b).1, fun b _ => (hbyte b).2⟩

end Text

open Text

/-! ### Values -/

/-- A percent sign stands in the bytes of no other character. -/
theorem percent_mem_utf8EncodeChar {c : Char} (h : 0x25 ∈ String.utf8EncodeChar c) : c = '%' := by
  have hbyte : ∀ {n : Nat}, n < 256 → (0x25 : UInt8) = .ofNat n → n = 37 := fun hn h => by
    rw [← toNat_ofNat hn, ← h]
    rfl
  refine Char.toNat_inj.mp ?_
  rcases utf8EncodeChar_cases c with ⟨hc, hcode⟩ | ⟨_, _, hcode⟩ | ⟨_, _, hcode⟩ | ⟨_, _, hcode⟩ <;>
    simp only [hcode, List.mem_cons, List.not_mem_nil, or_false] at h
  · exact hbyte (by omega) h
  · rcases h with h | h <;> have := hbyte (by omega) h <;> omega
  · rcases h with h | h | h <;> have := hbyte (by omega) h <;> omega
  · rcases h with h | h | h | h <;> have := hbyte (by omega) h <;> omega

/-- Characters that have no meaning in queries stand for themselves. -/
theorem queryText_of_plain {cs : List Char} (hplus : '+' ∉ cs) (hpercent : '%' ∉ cs) :
    queryText cs = String.ofList cs := by
  have hmap : (cs.map fun c => if c = '+' then ' ' else c) = cs := by
    refine (List.map_congr_left fun c hc => if_neg ?_).trans (List.map_id' cs)
    rintro rfl
    exact hplus hc
  have hbytes : 0x25 ∉ bytesOf (String.ofList cs) := by
    rw [bytesOf_eq_flatMap, String.toList_ofList, List.mem_flatMap]
    rintro ⟨c, hc, hbyte⟩
    exact hpercent (percent_mem_utf8EncodeChar hbyte ▸ hc)
  rw [queryText, hmap, percentDecode_of_not_mem hbytes, lossy_bytesOf]

/-- A text of which every byte was written with a percent sign is read as it was meant. -/
theorem queryText_percentEncoded (s : String) : queryText (percentEncoded s) = s := by
  have hmap : ((percentEncoded s).map fun c => if c = '+' then ' ' else c) = percentEncoded s := by
    refine (List.map_congr_left fun c hc => if_neg ?_).trans (List.map_id' _)
    rintro rfl
    exact (not_mem_percentEncoded s).2 hc
  rw [queryText, hmap, percentDecode_percentEncoded, lossy_bytesOf]

/-- An integer of 64 bits is read back. -/
theorem seconds?_signedDigits (n : Int64) :
    ListFilter.seconds? (String.ofList (signedDigits n.toInt)) = some n := by
  have hlower := n.le_toInt
  have hupper := n.toInt_lt
  have hbound : (bound63 : Int) = 9223372036854775808 := rfl
  have hread : int64? (String.ofList (signedDigits n.toInt)) = some n.toInt := by
    rw [int64?, String.toList_ofList]
    refine Option.filter_eq_some_iff.mpr ⟨?_, ?_⟩
    · cases n.toInt with
      | negSucc m => simp only [signedDigits, nat?_digits]; rfl
      | ofNat m =>
          -- A number without a minus sign begins with a digit.
          obtain ⟨c, cs, hdigits, hc⟩ := exists_digits_cons m
          have hnat := nat?_digits m
          simp only [signedDigits]
          rw [hdigits] at hnat ⊢
          split
          · next h =>
              rw [List.cons.inj h |>.1] at hc
              cases hc
          · next h =>
              rw [List.cons.inj h |>.1] at hc
              cases hc
          · rw [hnat]
            rfl
    · simp only [Bool.and_eq_true, decide_eq_true_eq]
      omega
  rw [ListFilter.seconds?, hread, Option.map_some, Int64.ofInt_toInt]

/-! ### Fields -/

/-- A query of some fields, each with its name and its written value. -/
def writeFields (fields : List (String × List Char)) : String :=
  String.ofList (['&'].intercalate (fields.map fun field => field.1.toList ++ '=' :: field.2))

theorem cutAt_append {mark : Char} {before : List Char} (h : mark ∉ before) (after : List Char) :
    cutAt mark (before ++ mark :: after) = (before, some after) := by
  induction before with
  | nil => rw [List.nil_append, cutAt, if_pos rfl]
  | cons c before ih =>
      rw [List.mem_cons, not_or] at h
      rw [List.cons_append, cutAt, if_neg (Ne.symm h.1), ih h.2]

/-- The fields of a query are read one by one. -/
theorem queryFields_writeFields {fields : List (String × List Char)} (hne : fields ≠ [])
    (hname : ∀ field ∈ fields, '=' ∉ field.1.toList ∧ '&' ∉ field.1.toList)
    (hvalue : ∀ field ∈ fields, '&' ∉ field.2) :
    queryFields (writeFields fields) =
      fields.map fun field => (queryText field.1.toList, queryText field.2) := by
  have hcut : wordsOf '&' (writeFields fields).toList =
      fields.map fun field => field.1.toList ++ '=' :: field.2 := by
    rw [wordsOf_eq_splitOn, writeFields, String.toList_ofList]
    refine List.splitOn_intercalate '&' ?_ (by simpa using hne)
    simp only [List.mem_map, forall_exists_index, and_imp, forall_apply_eq_imp_iff₂]
    intro field hfield
    simp only [List.mem_append, List.mem_cons, not_or]
    exact ⟨(hname field hfield).2, by decide, hvalue field hfield⟩
  have hfull : ∀ field ∈ fields.map fun field => field.1.toList ++ '=' :: field.2,
      (!field.isEmpty) = true := by
    simp only [List.mem_map, forall_exists_index, and_imp, forall_apply_eq_imp_iff₂]
    simp
  rw [queryFields, hcut, List.filter_eq_self.mpr hfull, List.map_map]
  refine List.map_congr_left fun field hfield => ?_
  simp only [Function.comp, cutAt_append (hname field hfield).1, Option.getD_some]

/-! ### Ranges -/

/-- The query for the events of a user in a range of Unix seconds. -/
def rangeQuery (userId : String) (first last : Int64) : String :=
  writeFields [("userId", percentEncoded userId), ("from", signedDigits first.toInt),
    ("to", signedDigits last.toInt)]

theorem plain_signedDigits (n : Int) :
    '&' ∉ signedDigits n ∧ '+' ∉ signedDigits n ∧ '%' ∉ signedDigits n := by
  have hdigits : ∀ (m : Nat) (c : Char), c.isDigit = false → c ∉ digits m := fun m c hc hmem => by
    rw [isDigit_of_mem_digits hmem] at hc
    cases hc
  cases n with
  | ofNat m => exact ⟨hdigits m _ rfl, hdigits m _ rfl, hdigits m _ rfl⟩
  | negSucc m =>
      simp only [signedDigits, List.mem_cons, not_or]
      exact ⟨⟨by decide, hdigits _ _ rfl⟩, ⟨by decide, hdigits _ _ rfl⟩, by decide, hdigits _ _ rfl⟩

/-- **The query for a range.**  It reads as the filter for this user and this range. -/
theorem ofQuery?_rangeQuery (userId : String) (first last : Int64) :
    ListFilter.ofQuery? (rangeQuery userId first last) =
      some ⟨some userId, some first, some last⟩ := by
  obtain ⟨hfirst, hfirst', hfirst''⟩ := plain_signedDigits first.toInt
  obtain ⟨hlast, hlast', hlast''⟩ := plain_signedDigits last.toInt
  have hfields : queryFields (rangeQuery userId first last) =
      [("userId", userId), ("from", String.ofList (signedDigits first.toInt)),
        ("to", String.ofList (signedDigits last.toInt))] := by
    rw [rangeQuery, queryFields_writeFields (List.cons_ne_nil _ _)]
    · simp only [List.map_cons, List.map_nil, queryText_percentEncoded,
        queryText_of_plain hfirst' hfirst'', queryText_of_plain hlast' hlast'']
      rw [queryText_of_plain (by decide) (by decide), queryText_of_plain (by decide) (by decide),
        queryText_of_plain (by decide) (by decide), String.ofList_toList, String.ofList_toList,
        String.ofList_toList]
    · simp only [List.forall_mem_cons]
      exact ⟨by decide, by decide, by decide, nofun⟩
    · simp only [List.forall_mem_cons]
      exact ⟨(not_mem_percentEncoded userId).1, hfirst, hlast, nofun⟩
  rw [ListFilter.ofQuery?, hfields]
  simp [ListFilter.add, seconds?_signedDigits]

end Reminders
