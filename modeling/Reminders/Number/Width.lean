/-!
# Number — widths

The natural numbers of a fixed number of bits lie below a power of two.
-/

namespace Reminders

/-- The numbers of 16 bits lie below this bound. -/
def bound16 : Nat := 65536

/-- The numbers of 32 bits lie below this bound. -/
def bound32 : Nat := 4294967296

/-- The numbers of 64 bits lie below this bound. -/
def bound64 : Nat := 18446744073709551616

/-- The integers of 64 bits lie below this bound, and not below its negative. -/
def bound63 : Nat := 9223372036854775808

end Reminders
