import Mathlib.Data.List.TakeWhile
import Reminders.Proofs.Text.Bytes
import Reminders.Text.Lossy

/-!
# Text — bytes that are text

Bytes that are text lose nothing where they are read with replacements.  The first byte of a
character tells how many bytes belong to it and where the second one lies; these bounds hold because
no character is encoded in more bytes than it needs, and none is a surrogate.

* `exists_encoding`: how many bytes are taken from the front.
* `lossy_bytesOf`: the bytes of a text are read as this text.
-/

namespace Reminders.Text

theorem toNat_ofNat {n : Nat} (h : n < 256) : (UInt8.ofNat n).toNat = n := by
  rw [UInt8.toNat_ofNat', Nat.mod_eq_of_lt h]

theorem sequenceOf?_ofNat {n : Nat} (h : n < 256) : sequenceOf? (.ofNat n) =
    if n < 128 then some (1, 128, 191)
    else if n < 194 then none
    else if n < 224 then some (2, 128, 191)
    else if n = 224 then some (3, 160, 191)
    else if n = 237 then some (3, 128, 159)
    else if n < 240 then some (3, 128, 191)
    else if n = 240 then some (4, 144, 191)
    else if n < 244 then some (4, 128, 191)
    else if n = 244 then some (4, 128, 143)
    else none := by
  simp only [sequenceOf?, UInt8.lt_iff_toNat_lt, ← UInt8.toNat_inj, toNat_ofNat h]
  rfl

theorem isContinuation_ofNat {n : Nat} (h : n < 64) : isContinuation (.ofNat (n + 128)) = true := by
  simp only [isContinuation, UInt8.le_iff_toNat_le, toNat_ofNat (show n + 128 < 256 by omega),
    Bool.and_eq_true, decide_eq_true_eq, UInt8.reduceToNat]
  omega

/-- Bytes that continue a character as its first byte asks for are taken together with it. -/
theorem continuing_append {first : UInt8} {second low high : Nat} {more : Bytes}
    (hfirst : sequenceOf? first = some (more.length + 2, .ofNat low, .ofNat high))
    (hlow : low ≤ second) (hhigh : second ≤ high) (hlt : high < 256)
    (hmore : ∀ b ∈ more, isContinuation b = true) (rest : Bytes) :
    continuing first (.ofNat second :: more ++ rest) = more.length + 1 := by
  have htake : (UInt8.ofNat second :: more ++ rest).take (more.length + 2 - 1) =
      .ofNat second :: more :=
    List.take_left' rfl
  have hbounds : UInt8.ofNat low ≤ .ofNat second ∧ UInt8.ofNat second ≤ .ofNat high := by
    simp only [UInt8.le_iff_toNat_le]
    rw [toNat_ofNat (by omega), toNat_ofNat (by omega), toNat_ofNat hlt]
    exact ⟨hlow, hhigh⟩
  simp only [continuing, hfirst, htake]
  rw [if_pos hbounds, List.takeWhile_eq_self_iff.mpr hmore]

/-- The encoding of a character is taken as a whole. -/
theorem exists_encoding (c : Char) : ∃ first more, String.utf8EncodeChar c = first :: more ∧
    ∀ rest, continuing first (more ++ rest) = more.length := by
  have hlt := toNat_lt_of_char c
  have hdigit : ∀ n, isContinuation (.ofNat (n % 64 + 128)) = true := fun n =>
    isContinuation_ofNat (Nat.mod_lt n (by decide))
  rcases utf8EncodeChar_cases c with ⟨hc, h⟩ | ⟨hc, hc', h⟩ | ⟨hc, hc', h⟩ | ⟨hc, hc', h⟩
  · refine ⟨_, [], h, fun rest => ?_⟩
    rw [continuing, sequenceOf?_ofNat (by omega), if_pos (by omega)]
    rfl
  · have hfirst : sequenceOf? (.ofNat (c.toNat / 64 % 32 + 192)) =
        some (2, .ofNat 128, .ofNat 191) := by
      rw [sequenceOf?_ofNat (by omega), if_neg (by omega), if_neg (by omega), if_pos (by omega)]
      rfl
    exact ⟨_, _, h, continuing_append hfirst (by omega) (by omega) (by decide) nofun⟩
  · have hfirst : ∃ low high, sequenceOf? (.ofNat (c.toNat / 4096 % 16 + 224)) =
        some (3, .ofNat low, .ofNat high) ∧
        low ≤ c.toNat / 64 % 64 + 128 ∧ c.toNat / 64 % 64 + 128 ≤ high ∧ high < 256 := by
      have hscalar : c.toNat < 55296 ∨ 57343 < c.toNat := c.valid.imp id And.left
      rw [sequenceOf?_ofNat (by omega), if_neg (by omega), if_neg (by omega), if_neg (by omega)]
      by_cases hshort : c.toNat / 4096 % 16 + 224 = 224
      · exact ⟨160, 191, if_pos hshort, by omega, by omega, by decide⟩
      · rw [if_neg hshort]
        by_cases hsurrogate : c.toNat / 4096 % 16 + 224 = 237
        · exact ⟨128, 159, if_pos hsurrogate, by omega, by omega, by decide⟩
        · exact ⟨128, 191, by rw [if_neg hsurrogate, if_pos (by omega)]; rfl, by omega, by omega,
            by decide⟩
    obtain ⟨low, high, hfirst, hlow, hhigh, hbyte⟩ := hfirst
    exact ⟨_, _, h, continuing_append hfirst hlow hhigh hbyte
      (List.forall_mem_singleton.mpr (hdigit _))⟩
  · have hfirst : ∃ low high, sequenceOf? (.ofNat (c.toNat / 262144 % 8 + 240)) =
        some (4, .ofNat low, .ofNat high) ∧
        low ≤ c.toNat / 4096 % 64 + 128 ∧ c.toNat / 4096 % 64 + 128 ≤ high ∧ high < 256 := by
      rw [sequenceOf?_ofNat (by omega), if_neg (by omega), if_neg (by omega), if_neg (by omega),
        if_neg (by omega), if_neg (by omega), if_neg (by omega)]
      by_cases hshort : c.toNat / 262144 % 8 + 240 = 240
      · exact ⟨144, 191, if_pos hshort, by omega, by omega, by decide⟩
      · rw [if_neg hshort]
        by_cases hlast : c.toNat / 262144 % 8 + 240 = 244
        · exact ⟨128, 143, by rw [if_neg (by omega), if_pos hlast]; rfl, by omega, by omega,
            by decide⟩
        · exact ⟨128, 191, by rw [if_pos (by omega)]; rfl, by omega, by omega, by decide⟩
    obtain ⟨low, high, hfirst, hlow, hhigh, hbyte⟩ := hfirst
    refine ⟨_, _, h, continuing_append hfirst hlow hhigh hbyte ?_⟩
    exact List.forall_mem_cons.mpr ⟨hdigit _, List.forall_mem_singleton.mpr (hdigit _)⟩

theorem lossyChars_encoding (c : Char) (rest : Bytes) (fuel : Nat) :
    lossyChars (fuel + 1) (String.utf8EncodeChar c ++ rest) = c :: lossyChars fuel rest := by
  obtain ⟨first, more, hc, htaken⟩ := exists_encoding c
  have hpiece : textOf? (first :: more) = some (String.singleton c) := by
    have hbytes : bytesOf (String.singleton c) = first :: more := by
      rw [bytesOf_eq_flatMap, String.toList_singleton, List.flatMap_singleton, hc]
    rw [← hbytes, textOf?_bytesOf]
  rw [hc, List.cons_append, lossyChars]
  simp only [htaken, List.take_left, List.drop_left, hpiece, Option.getD_some,
    String.toList_singleton, List.singleton_append]

theorem lossyChars_flatMap (cs : List Char) (fuel : Nat)
    (h : (cs.flatMap String.utf8EncodeChar).length ≤ fuel) :
    lossyChars fuel (cs.flatMap String.utf8EncodeChar) = cs := by
  induction cs generalizing fuel with
  | nil => cases fuel <;> rfl
  | cons c cs ih =>
      have hpos : 0 < (String.utf8EncodeChar c).length :=
        List.length_pos_iff.mpr String.utf8EncodeChar_ne_nil
      rw [List.flatMap_cons, List.length_append] at h
      cases fuel with
      | zero => omega
      | succ fuel => rw [List.flatMap_cons, lossyChars_encoding, ih fuel (by omega)]

/-- **The bytes of a text are read as this text.** -/
theorem lossy_bytesOf (s : String) : lossy (bytesOf s) = s := by
  rw [lossy, bytesOf_eq_flatMap, lossyChars_flatMap _ _ (Nat.le_refl _), String.ofList_toList]

end Reminders.Text
