import FactorUsb.Packing

/-!
# The packed kernel version

`detect-kernel-version` packs the three components of the release like the quoted macro
`KERNEL_VERSION(a,b,c)`: by shifts and additions that do not mask the components. Packed
versions are ordered like the versions themselves as long as the second and the third
component stay within their eight bits. A version outside this range is ordered wrongly
against some version inside it.
-/

namespace FactorUsb.Linux

/-- The components of a release. -/
abbrev Version := ℕ × ℕ × ℕ

/-- `detect-kernel-version`, on the components that `split-version` yields. -/
def detectKernelVersion : Version → ℕ
  | (a, b, c) => (a <<< 16) + ((b <<< 8) + c)

/-- The version as a point of the lexicographic order. -/
def Version.key (v : Version) : ℕ ×ₗ ℕ ×ₗ ℕ := toLex (v.1, toLex v.2)

/-- The second and the third component fit their fields. -/
def Version.Fits (v : Version) : Prop := v.2.1 < 256 ∧ v.2.2 < 256

instance : DecidablePred Version.Fits := fun _ => inferInstanceAs (Decidable (_ ∧ _))

/-- The version is packed into three fields. -/
theorem detectKernelVersion_eq_pack (v : Version) :
    detectKernelVersion v = pack 65536 v.1 (pack 256 v.2.1 v.2.2) := by
  obtain ⟨a, b, c⟩ := v
  calc detectKernelVersion (a, b, c)
      = pack (2 ^ 16) a ((b <<< 8) + c) := shiftLeft_add 16
    _ = pack (2 ^ 16) a (pack (2 ^ 8) b c) := congrArg (pack (2 ^ 16) a) (shiftLeft_add 8)

/-- The lower two fields of a version that fits stay below the highest. -/
theorem Version.Fits.pack_lt {v : Version} (h : v.Fits) : pack 256 v.2.1 v.2.2 < 65536 :=
  FactorUsb.pack_lt h.1 h.2

/-- Versions that fit are ordered by their packed numbers. -/
theorem detectKernelVersion_lt_iff_key {v w : Version} (hv : v.Fits) (hw : w.Fits) :
    detectKernelVersion v < detectKernelVersion w ↔ v.key < w.key := by
  rw [detectKernelVersion_eq_pack, detectKernelVersion_eq_pack,
    pack_lt_pack_iff hv.pack_lt hw.pack_lt,
    Version.key, Version.key, Prod.Lex.toLex_lt_toLex, Prod.Lex.toLex_lt_toLex,
      pack_lt_pack_iff hv.2 hw.2]

/-- For versions whose second and third component are below 256 the packed number decides the order,
and distinct versions are packed into distinct numbers. -/
theorem detectKernelVersion_lt_iff (v w : Version) (hv : v.Fits) (hw : w.Fits) :
    (detectKernelVersion v < detectKernelVersion w ↔ v.key < w.key) ∧
      (detectKernelVersion v = detectKernelVersion w → v = w) := by
  refine ⟨detectKernelVersion_lt_iff_key hv hw, fun hequal => ?_⟩
  rcases lt_trichotomy v.key w.key with hless | hsame | hmore
  · have hpacked := (detectKernelVersion_lt_iff_key hv hw).mpr hless
    omega
  · exact hsame
  · have hpacked := (detectKernelVersion_lt_iff_key hw hv).mpr hmore
    omega

/-- Two neighbouring versions. -/
theorem detectKernelVersion_lt_neighbours :
    (detectKernelVersion (4, 9, 255) < detectKernelVersion (4, 10, 0) ↔
        Version.key (4, 9, 255) < Version.key (4, 10, 0)) ∧
      (detectKernelVersion (4, 9, 255) = detectKernelVersion (4, 10, 0) →
        ((4, 9, 255) : Version) = (4, 10, 0)) :=
  detectKernelVersion_lt_iff (4, 9, 255) (4, 10, 0) (by decide) (by decide)

/-- The stable release 4.9.256 is packed like 4.10.0, which it precedes. -/
theorem detectKernelVersion_spills :
    ¬ (detectKernelVersion (4, 9, 256) < detectKernelVersion (4, 10, 0) ↔
        Version.key (4, 9, 256) < Version.key (4, 10, 0)) ∧
      detectKernelVersion (4, 9, 256) = detectKernelVersion (4, 10, 0) := by
  refine ⟨fun hiff => ?_, by decide⟩
  have hless : Version.key (4, 9, 256) < Version.key (4, 10, 0) := by
    simp [Version.key, Prod.Lex.toLex_lt_toLex]
  exact absurd (hiff.mpr hless) (by decide)

/-- A version that does not fit precedes one that does and is not packed below it. -/
theorem exists_not_lt_of_not_fits {v : Version} (hv : ¬ v.Fits) :
    ∃ w : Version, w.Fits ∧ v.key < w.key ∧ detectKernelVersion w ≤ detectKernelVersion v := by
  obtain ⟨a, b, c⟩ := v
  simp only [detectKernelVersion_eq_pack]
  by_cases hspills : 65536 ≤ pack 256 b c
  · have hzero : pack 256 0 0 = 0 := by decide
    refine ⟨(a + 1, 0, 0), ⟨Nat.zero_lt_succ _, Nat.zero_lt_succ _⟩, ?_, ?_⟩
    · simp [Version.key, Prod.Lex.toLex_lt_toLex]
    · rw [hzero]
      exact pack_spills hspills
  · -- the third component is too large, and the second leaves room for its successor
    have hb : b + 1 < 256 ∧ 256 ≤ c := by
      simp only [Version.Fits, pack] at hv hspills
      omega
    refine ⟨(a, b + 1, 0), ⟨hb.1, Nat.zero_lt_succ _⟩, ?_, ?_⟩
    · simp [Version.key, Prod.Lex.toLex_lt_toLex]
    · exact Nat.add_le_add_left (pack_spills hb.2) _

/-- A version is ordered rightly against every version that fits exactly if it fits itself. -/
theorem fits_iff_lt_iff (v : Version) :
    v.Fits ↔ ∀ w : Version, w.Fits →
      (detectKernelVersion v < detectKernelVersion w ↔ v.key < w.key) := by
  refine ⟨fun hv w hw => detectKernelVersion_lt_iff_key hv hw, fun h => ?_⟩
  by_contra hv
  obtain ⟨w, hw, hless, hpacked⟩ := exists_not_lt_of_not_fits hv
  exact absurd ((h w hw).mpr hless) (Nat.not_lt.mpr hpacked)

end FactorUsb.Linux
