import Mathlib.Data.List.TakeWhile
import Mathlib.Data.Nat.Notation

/-!
# Text in UTF-16 code units

A character below `0x10000` is one code unit, and any other one a pair of surrogates. Decoding
replaces what is no character: a high surrogate together with the unit after it, if that is no
low surrogate, and a low surrogate on its own.

Encoded text decodes to itself whatever units follow it, so a reader that stops at the first
`NUL` recovers text that contains none and is followed by one.
-/

namespace FactorUsb.Utf16

/-- The code units of a character. -/
def encodeChar (c : Char) : List (BitVec 16) :=
  if c.toNat < 0x10000 then [BitVec.ofNat 16 c.toNat]
  else
    [BitVec.ofNat 16 (0xD800 + (c.toNat - 0x10000) / 0x400),
      BitVec.ofNat 16 (0xDC00 + (c.toNat - 0x10000) % 0x400)]

/-- The code units of a text. -/
def encode (text : List Char) : List (BitVec 16) := text.flatMap encodeChar

/-- The unit is the first half of a pair. -/
def IsHigh (u : BitVec 16) : Prop := 0xD800 ≤ u.toNat ∧ u.toNat < 0xDC00

/-- The unit is the second half of a pair. -/
def IsLow (u : BitVec 16) : Prop := 0xDC00 ≤ u.toNat ∧ u.toNat < 0xE000

instance : DecidablePred IsHigh := fun _ => inferInstanceAs (Decidable (_ ∧ _))

instance : DecidablePred IsLow := fun _ => inferInstanceAs (Decidable (_ ∧ _))

/-- What stands for units that are no character. -/
def replacementChar : Char := Char.ofNat 0xFFFD

/-- The character of a pair. -/
def pairChar (high low : BitVec 16) : Char :=
  Char.ofNat (0x10000 + (high.toNat - 0xD800) * 0x400 + (low.toNat - 0xDC00))

/-- The text of a list of code units. -/
def decode : List (BitVec 16) → List Char
  | [] => []
  | u :: rest =>
    if IsHigh u then
      match rest with
      | [] => [replacementChar]
      | v :: rest => (if IsLow v then pairChar u v else replacementChar) :: decode rest
    else (if IsLow u then replacementChar else Char.ofNat u.toNat) :: decode rest

/-- A unit that is no surrogate is a character of its own. -/
theorem decode_single {u : BitVec 16} (hhigh : ¬ IsHigh u) (hlow : ¬ IsLow u)
    (units : List (BitVec 16)) :
    decode (u :: units) = Char.ofNat u.toNat :: decode units := by
  cases units <;> simp [decode, hhigh, hlow]

/-- A high and a low surrogate are one character. -/
theorem decode_pair {high low : BitVec 16} (hhigh : IsHigh high) (hlow : IsLow low)
    (units : List (BitVec 16)) :
    decode (high :: low :: units) = pairChar high low :: decode units := by
  simp [decode, hhigh, hlow]

/-- A character is not a surrogate, and has at most 21 bits. -/
theorem toNat_bounds (c : Char) : c.toNat < 0xD800 ∨ (0xE000 ≤ c.toNat ∧ c.toNat < 0x110000) := by
  rcases c.valid with h | ⟨h, h'⟩
  · exact Or.inl h
  · exact Or.inr ⟨h, h'⟩

/-- A number of at most sixteen bits is its unit's value. -/
theorem toNat_unit {n : ℕ} (h : n < 65536) : (BitVec.ofNat 16 n).toNat = n := by
  rw [BitVec.toNat_ofNat, Nat.mod_eq_of_lt h]

/-- The units of one character decode to it, and what follows decodes as it would alone. -/
theorem decode_encodeChar_append (c : Char) (units : List (BitVec 16)) :
    decode (encodeChar c ++ units) = c :: decode units := by
  have hbounds := toNat_bounds c
  rw [encodeChar]
  split_ifs with hsmall
  · have hunit : (BitVec.ofNat 16 c.toNat).toNat = c.toNat := toNat_unit hsmall
    rw [List.singleton_append, decode_single _ _ units, hunit, Char.ofNat_toNat]
    · rw [IsHigh, hunit]
      omega
    · rw [IsLow, hunit]
      omega
  · have hhigh : (BitVec.ofNat 16 (0xD800 + (c.toNat - 0x10000) / 0x400)).toNat =
        0xD800 + (c.toNat - 0x10000) / 0x400 := toNat_unit (by omega)
    have hlow : (BitVec.ofNat 16 (0xDC00 + (c.toNat - 0x10000) % 0x400)).toNat =
        0xDC00 + (c.toNat - 0x10000) % 0x400 := toNat_unit (by omega)
    have hvalue : 0x10000 + (0xD800 + (c.toNat - 0x10000) / 0x400 - 0xD800) * 0x400 +
        (0xDC00 + (c.toNat - 0x10000) % 0x400 - 0xDC00) = c.toNat := by omega
    rw [List.cons_append, List.singleton_append, decode_pair _ _ units, pairChar,
      hhigh, hlow, hvalue,
      Char.ofNat_toNat]
    · rw [IsHigh, hhigh]
      omega
    · rw [IsLow, hlow]
      omega

/-- Encoded text decodes to itself, and what follows decodes as it would alone. -/
theorem decode_encode_append (text : List Char) (units : List (BitVec 16)) :
    decode (encode text ++ units) = text ++ decode units := by
  induction text with
  | nil => rfl
  | cons c rest ih =>
    rw [encode, List.flatMap_cons, List.append_assoc, decode_encodeChar_append, ← encode, ih,
      List.cons_append]

/-- The terminating character. -/
def nul : Char := Char.ofNat 0

/-- The text up to the first `NUL`. -/
def readString (units : List (BitVec 16)) : List Char := (decode units).takeWhile (· ≠ nul)

/-- Terminated text is read up to its first `NUL`, whatever follows it. -/
theorem readString_encode (text : List Char) (units : List (BitVec 16)) :
    readString (encode text ++ 0 :: units) = text.takeWhile (· ≠ nul) := by
  rw [readString, decode_encode_append, decode_single (by decide) (by decide),
    List.takeWhile_append]
  split_ifs with hall
  · rw [List.takeWhile_cons_of_neg (by decide), List.append_nil]
    exact (List.takeWhile_prefix _).eq_of_length hall |>.symm
  · rfl

end FactorUsb.Utf16
