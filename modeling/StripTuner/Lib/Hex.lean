import Mathlib.Tactic.Common

/-!
# Hexadecimal digits

The values of hexadecimal digits in ASCII.
-/

namespace Hexadecimal

/-- The value of a hexadecimal digit, in either case. -/
def hexValue (digit : UInt8) : Option Nat :=
  if 0x30 ≤ digit ∧ digit ≤ 0x39 then some (digit.toNat - 0x30)
  else if 0x61 ≤ digit ∧ digit ≤ 0x66 then some (digit.toNat - 0x61 + 10)
  else if 0x41 ≤ digit ∧ digit ≤ 0x46 then some (digit.toNat - 0x41 + 10)
  else none

theorem hexValue_lt {digit : UInt8} {n : Nat} (h : hexValue digit = some n) : n < 16 := by
  have hnat (bound : UInt8) : digit ≤ bound ↔ digit.toNat ≤ bound.toNat := UInt8.le_iff_toNat_le
  have h9 : (0x39 : UInt8).toNat = 57 := by decide
  have hf : (0x66 : UInt8).toNat = 102 := by decide
  have hF : (0x46 : UInt8).toNat = 70 := by decide
  rw [hexValue] at h
  split at h
  · rename_i hdigit
    have hle := (hnat _).1 hdigit.2
    have hn := Option.some.inj h
    omega
  · split at h
    · rename_i hdigit
      have hle := (hnat _).1 hdigit.2
      have hn := Option.some.inj h
      omega
    · split at h
      · rename_i hdigit
        have hle := (hnat _).1 hdigit.2
        have hn := Option.some.inj h
        omega
      · cases h

end Hexadecimal
