import Mathlib.Algebra.Group.Nat.Defs
import Mathlib.Data.Prod.Lex

/-!
# Two fields in one number

A number can hold a high field above a low one that counts up to a radix. As long as the
low fields stay below the radix the packed numbers are ordered like the pairs of fields,
high field first. A low field that reaches the radix spills into the high one, and then the
pair is no longer below the next high field.
-/

namespace FactorUsb

/-- The number holding a high field above a low one. -/
def pack (radix hi lo : ℕ) : ℕ := hi * radix + lo

variable {radix hi lo hi' lo' : ℕ}

/-- Shifting the high field by whole bits is packing over a power of two. -/
theorem shiftLeft_add (bits : ℕ) : hi <<< bits + lo = pack (2 ^ bits) hi lo := by
  rw [Nat.shiftLeft_eq, pack]

/-- Packed numbers stay below the packed bound of the high field. -/
theorem pack_lt (hhi : hi < hi') (hlo : lo < radix) : pack radix hi lo < pack radix hi' 0 := by
  unfold pack
  have hnext : (hi + 1) * radix ≤ hi' * radix := Nat.mul_le_mul_right radix hhi
  rw [Nat.add_mul, Nat.one_mul] at hnext
  omega

/-- While the low fields stay below the radix, packed numbers are ordered
like the pairs of fields. -/
theorem pack_lt_pack_iff (hlo : lo < radix) (hlo' : lo' < radix) :
    pack radix hi lo < pack radix hi' lo' ↔ toLex (hi, lo) < toLex (hi', lo') := by
  rw [Prod.Lex.toLex_lt_toLex]
  rcases lt_trichotomy hi hi' with hless | rfl | hmore
  · have hpacked : pack radix hi lo < pack radix hi' 0 := pack_lt hless hlo
    exact iff_of_true (hpacked.trans_le (Nat.add_le_add_left (Nat.zero_le lo') _)) (Or.inl hless)
  · simp [pack]
  · have hpacked : pack radix hi' lo' < pack radix hi 0 := pack_lt hmore hlo'
    refine iff_of_false (fun hbelow => ?_) (by simp [hmore.not_gt, hmore.ne'])
    have habove : pack radix hi 0 ≤ pack radix hi lo := Nat.add_le_add_left (Nat.zero_le lo) _
    omega

/-- A low field that reaches the radix spills over the next high field. -/
theorem pack_spills (hlo : radix ≤ lo) : pack radix (hi + 1) 0 ≤ pack radix hi lo := by
  unfold pack
  rw [Nat.add_mul, Nat.one_mul]
  omega

end FactorUsb
