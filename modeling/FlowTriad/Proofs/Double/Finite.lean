/-
`Proofs/Double/Finite.lean` -- the doubles that have a value.

`Decimal.Parts` reads the three fields of a double from its bits by division, and the
operations unpack the same fields. So a double that is finite to the one has a value to
the others, and it is the one that its parts say (`hasValue_of_parts`).

A double is also known by what it is unpacked to (`eq_of_unpack`), since of the many patterns
that stand for what is no number only one is in use. So one that is not zero is known by its
value (`HasValue.eq_of_ne_zero`); the two zeros have one value, and differ in their signs.
-/
import FlowTriad.Decimal.Parts
import FlowTriad.Proofs.Double.Value

set_option autoImplicit false

namespace FlowTriad.Double

open Float.Model (Format UnpackedFloat)
open Float.Model.UnpackedFloat

/-! ## 1. Three fields -/

/-- The number that three fields make. -/
theorem toNat_packComponents (s : Sign) (e : BitVec 11) (m : BitVec 52) :
    (packComponents Format.binary64 s e m).toNat =
      (s.toBitVec.toNat * 2 ^ 11 + e.toNat) * 2 ^ 52 + m.toNat := by
  unfold packComponents
  rw [BitVec.toNat_append, ← Nat.shiftLeft_add_eq_or_of_lt m.isLt, Nat.shiftLeft_eq,
    BitVec.toNat_append, ← Nat.shiftLeft_add_eq_or_of_lt e.isLt, Nat.shiftLeft_eq]

/-- Any bits are made of three fields: the quotients and remainders by the places of the
exponent and the sign. -/
theorem exists_packComponents (b : BitVec 64) :
    ∃ s e m, b = packComponents Format.binary64 s e m := by
  have hb := b.isLt
  refine ⟨Sign.ofBitVec (.ofNat 1 (b.toNat / 2 ^ 63)), .ofNat 11 (b.toNat / 2 ^ 52),
    .ofNat 52 b.toNat, BitVec.eq_of_toNat_eq ?_⟩
  have hsign : (Sign.ofBitVec (.ofNat 1 (b.toNat / 2 ^ 63))).toBitVec.toNat = b.toNat / 2 ^ 63 := by
    obtain hzero | hone : b.toNat / 2 ^ 63 = 0 ∨ b.toNat / 2 ^ 63 = 1 := by omega
    · rw [hzero]
      rfl
    · rw [hone]
      rfl
  rw [toNat_packComponents, hsign, BitVec.toNat_ofNat, BitVec.toNat_ofNat]
  omega

/-- The fields that the operations unpack a double to are those that are read from its
bits. -/
theorem exists_fields (a : Float) : ∃ (s : Sign) (e : BitVec 11) (f : BitVec 52),
    a.toModel.unpack = unpack Format.binary64 (packComponents Format.binary64 s e f) ∧
      a.toBits.toNat / Whole.twoPow 63 = s.toBitVec.toNat ∧
      a.toBits.toNat / Whole.twoPow 52 % Whole.twoPow 11 = e.toNat ∧
      a.toBits.toNat % Whole.twoPow 52 = f.toNat := by
  obtain ⟨s, e, f, hbits⟩ := exists_packComponents a.toModel.toBits.toBitVec
  have hnat : a.toBits.toNat = (s.toBitVec.toNat * 2 ^ 11 + e.toNat) * 2 ^ 52 + f.toNat := by
    rw [← toNat_packComponents, ← hbits]
    rfl
  have he : e.toNat < 2 ^ 11 := e.isLt
  have hf : f.toNat < 2 ^ 52 := f.isLt
  refine ⟨s, e, f, ?_, ?_, ?_, ?_⟩
  · rw [← hbits]
    rfl
  · show a.toBits.toNat / 2 ^ 63 = _
    omega
  · show a.toBits.toNat / 2 ^ 52 % 2 ^ 11 = _
    omega
  · show a.toBits.toNat % 2 ^ 52 = _
    omega

/-! ## 2. Parts and values -/

variable {a : Float} {negative : Bool} {m : ℕ} {q : ℤ} {p : ℚ}

/-- The sign of a flag for negative numbers. -/
def signOf (negative : Bool) : Sign :=
  if negative then .negative else .positive

theorem signOf_toBitVec (s : Sign) : signOf (s.toBitVec.toNat == 1) = s := by
  cases s <;> rfl

/-- The greatest exponent belongs to infinities and to what is no number. -/
theorem unpack_greatest (s : Sign) (f : BitVec 52) :
    unpack Format.binary64 (packComponents Format.binary64 s (-1#11) f) =
      if f = 0#52 then .infinity s else .notANumber := by
  unfold unpack
  simp only [unpackExponent_packComponents, unpackMantissa_packComponents,
    unpackSign_packComponents, Sign.ofBitVec_toBitVec]
  rfl

/-- What a double is unpacked to, by its parts. -/
inductive Unpacks : Decimal.Parts → UnpackedFloat → Prop
  | nan : Unpacks .nan .notANumber
  | infinite {negative : Bool} {s : Sign} (hs : signOf negative = s) :
      Unpacks (.infinite negative) (.infinity s)
  | zero {negative : Bool} {s : Sign} (hs : signOf negative = s) (q : ℤ) :
      Unpacks (.finite negative 0 q) (.zero s)
  | finite {negative : Bool} {s : Sign} (hs : signOf negative = s) {m : ℕ} {q : ℤ} (hm : 0 < m)
      (hcanonical : Canonical m q) (hq : q ≤ 971) :
      Unpacks (.finite negative m q) (.finite s m q hm)

/-- **The parts of a double** are those that the operations unpack it to. -/
theorem unpacks_parts (a : Float) : Unpacks (Decimal.Parts.of a) a.toModel.unpack := by
  obtain ⟨s, e, f, hunpack, hsign, hexponent, hfraction⟩ := exists_fields a
  have he : e.toNat < 2 ^ 11 := e.isLt
  have hf : f.toNat < 2 ^ 52 := f.isLt
  rw [hunpack]
  unfold Decimal.Parts.of
  simp only [hsign, hexponent, hfraction]
  split_ifs with hgreatest hzero hleast
  · obtain rfl : e = -1#11 := BitVec.eq_of_toNat_eq hgreatest
    rw [unpack_greatest, if_pos (BitVec.eq_of_toNat_eq hzero)]
    exact .infinite (signOf_toBitVec s)
  · obtain rfl : e = -1#11 := BitVec.eq_of_toNat_eq hgreatest
    have hf : f ≠ 0#52 := by
      rintro rfl
      exact hzero rfl
    rw [unpack_greatest, if_neg hf]
    exact .nan
  · -- the least exponent: zero, or a mantissa that is not of full length
    obtain rfl : e = 0#11 := BitVec.eq_of_toNat_eq hleast
    obtain hnone | hsome := Nat.eq_zero_or_pos f.toNat
    · obtain rfl : f = 0#52 := BitVec.eq_of_toNat_eq hnone
      exact @unpack_packedZero Format.binary64 s ▸ .zero (signOf_toBitVec s) (-1074)
    · rw [unpack_subnormal s hsome]
      exact .finite (signOf_toBitVec s) hsome
        ⟨le_rfl, by omega, fun h => absurd h (lt_irrefl _)⟩ (by norm_num)
  · -- any other: a mantissa whose first bit is not among the fields
    have hlt : e.toNat < 2047 := by
      have hne : e.toNat ≠ 2 ^ 11 - 1 := hgreatest
      omega
    rw [unpack_normal s f (Nat.pos_of_ne_zero hleast) hlt]
    have hcanonical : Canonical (2 ^ 52 + f.toNat) ((e.toNat : ℤ) - 1075) :=
      ⟨by omega, by omega, fun _ => by omega⟩
    exact .finite (signOf_toBitVec s) _ hcanonical (by omega)

/-- **The parts of a finite double are its value.** -/
theorem hasValue_of_parts (h : Decimal.Parts.of a = .finite negative m q) :
    HasValue a (signed (signOf negative) (m * 2 ^ q)) := by
  have hunpacks := unpacks_parts a
  rw [h] at hunpacks
  unfold HasValue
  generalize a.toModel.unpack = u at hunpacks
  cases hunpacks with
  | zero hs => exact ⟨_, 0, .zero _, two_zpow_pos _, by simp⟩
  | finite hs hm hcanonical hq =>
    rw [hs]
    exact ⟨_, _, .finite _ hm hcanonical, hcanonical.lt_limit hq, rfl⟩

theorem exists_hasValue (h : Decimal.isFinite a) : ∃ p, HasValue a p := by
  unfold Decimal.isFinite at h
  cases hparts : Decimal.Parts.of a with
  | nan => simp [hparts] at h
  | infinite negative => simp [hparts] at h
  | finite negative m q => exact ⟨_, hasValue_of_parts hparts⟩

/-- The parts of an infinity tell its place in the order. -/
theorem hasRank_of_parts (h : Decimal.Parts.of a = .infinite negative) :
    HasRank a (signed (signOf negative) (2 ^ (1024 : ℤ))) := by
  have hunpacks := unpacks_parts a
  rw [h] at hunpacks
  unfold HasRank
  generalize a.toModel.unpack = u at hunpacks
  cases hunpacks with
  | infinite hs =>
    rw [hs]
    exact ⟨_, _, .infinity _, rfl⟩

/-- What is no number has no place in it. -/
theorem parts_ne_nan (h : HasRank a p) : Decimal.Parts.of a ≠ .nan := by
  intro hnan
  have hunpacks := unpacks_parts a
  rw [hnan] at hunpacks
  obtain ⟨s, x, hranks, -⟩ := h
  generalize a.toModel.unpack = u at hunpacks hranks
  cases hunpacks with
  | nan =>
    cases hranks with
    | value hdenotes => cases hdenotes

/-- **Finite doubles are those with a value.** -/
theorem isFinite_iff : Decimal.isFinite a ↔ ∃ p, HasValue a p := by
  constructor
  · intro h
    exact exists_hasValue h
  · rintro ⟨p, h⟩
    unfold Decimal.isFinite
    cases hparts : Decimal.Parts.of a with
    | nan => exact absurd hparts (parts_ne_nan h.hasRank)
    | infinite negative =>
      -- the place of an infinity is beyond every value
      have hlt := h.abs_lt_limit
      rw [h.hasRank.eq (hasRank_of_parts hparts), abs_signed _ (two_zpow_pos _).le] at hlt
      exact absurd hlt (lt_irrefl _)
    | finite negative m q => rfl

/-! ## 3. What a double is known by -/

variable {b : Float}

/-- Doubles that are unpacked alike are the same. -/
theorem eq_of_unpack (h : a.toModel.unpack = b.toModel.unpack) : a = b := by
  have hbits := (unpack_inj_of_valid a.toModel.valid b.toModel.valid).1 h
  exact Float.toBits_inj.1 (UInt64.toBitVec_inj.1 hbits)

/-- **A double that is not zero is known by its value.** -/
theorem HasValue.eq_of_ne_zero (ha : HasValue a p) (hb : HasValue b p) (hp : p ≠ 0) : a = b := by
  have hbeq : a.toModel.unpack.beq b.toModel.unpack = true := (ha.beq_iff hb).2 rfl
  have hzero : ∀ s, a.toModel.unpack ≠ .zero s := by
    intro s hs
    obtain ⟨t, x, hdenotes, -, rfl⟩ := ha
    rw [hs] at hdenotes
    cases hdenotes
    exact hp (signed_zero s)
  obtain ⟨-, -, heq | ⟨hpositive, -⟩ | ⟨hnegative, -⟩⟩ :=
    (beq_iff_ne_notANumber_and_eq _ _).1 hbeq
  · exact eq_of_unpack heq
  · exact absurd hpositive (hzero _)
  · exact absurd hnegative (hzero _)

end FlowTriad.Double
