import Reminders.Json.Text

/-!
# Text — percent signs

In addresses a byte may stand as a percent sign and two hexadecimal digits.  A percent sign without
two digits stands for itself.
-/

namespace Reminders.Text

/-- The bytes that a part of an address stands for. -/
def percentDecode : Bytes → Bytes
  | [] => []
  | b :: rest =>
    if b ≠ 0x25 then b :: percentDecode rest
    else match rest with
    | high :: low :: rest' =>
      match Json.hexValue? high, Json.hexValue? low with
      | some h, some l => (h * 16 + l).toUInt8 :: percentDecode rest'
      | _, _ => b :: percentDecode (high :: low :: rest')
    | rest => b :: percentDecode rest

/-- Bytes without percent signs stand for themselves. -/
theorem percentDecode_of_not_mem {bytes : Bytes} (h : 0x25 ∉ bytes) :
    percentDecode bytes = bytes := by
  induction bytes with
  | nil => rfl
  | cons b rest ih =>
    simp only [List.mem_cons, not_or] at h
    rw [percentDecode.eq_def]
    simp [Ne.symm h.1, ih h.2]

end Reminders.Text
