/-
`Proofs/Decimal/Layout.lean` -- doubles that are written out read back.

A reader of numbers written without an exponent takes the number for the digits and the point
that it finds, and makes the nearest double of it. What `plain` writes has that form
(`positionalText_positional`), its number is the shortest decimal, and the nearest double of that
is the one that was written. So every double is read back from its text (`read?_plain`): the
infinities, zero with its sign, and what is no number as well.

The form is also all there is to know of the characters, and what `fixed` writes has it too
(`positionalText_withPlaces`). So no number holds anything that could end a field of a table.
-/
import FlowTriad.Decimal.Layout
import FlowTriad.Proofs.Decimal.Shortest
import FlowTriad.Proofs.Text

set_option autoImplicit false

namespace FlowTriad.Decimal

open Double
open Text (DigitRun isDigit digitValue decimalValue)

/-! ## 1. A reader -/

/-- Reads a number without a sign: digits, and digits behind a point if there is one. -/
def readNumeral? (negative : Bool) (cs : List Char) : Option Numeral :=
  let whole := cs.takeWhile isDigit
  match cs.dropWhile isDigit with
  | [] => if whole.isEmpty then none else some ⟨negative, whole.map digitValue, [], 0⟩
  | '.' :: fraction =>
      if whole.isEmpty || fraction.isEmpty || !fraction.all isDigit then none
      else some ⟨negative, whole.map digitValue, fraction.map digitValue, 0⟩
  | _ => none

/-- Reads what stands behind a sign. An infinity and what is no number are words. -/
def readUnsigned? (negative : Bool) (cs : List Char) : Option Float :=
  if cs = "NaN".toList then some (0.0 / 0.0)
  else if cs = "inf".toList then some (if negative then -1.0 / 0.0 else 1.0 / 0.0)
  else (readNumeral? negative cs).map Numeral.nearest

/-- Reads a double. -/
def read? : List Char → Option Float
  | '-' :: cs => readUnsigned? true cs
  | cs => readUnsigned? false cs

/-! ## 2. Texts of numbers -/

/-- The texts of a number that is not negative: digits, or digits with a point among them. -/
inductive PositionalText : ℚ → List Char → Prop
  | whole {ds : List Char} (hds : DigitRun ds) : PositionalText (decimalValue ds) ds
  | point {ds fs : List Char} (hds : DigitRun ds) (hfs : DigitRun fs) :
      PositionalText (decimalValue (ds ++ fs) * 10 ^ (-(fs.length : ℤ))) (ds ++ '.' :: fs)

variable {cs ds : List Char} {k : ℕ} {q : ℚ}

/-- The first character is a digit. -/
theorem PositionalText.exists_cons (h : PositionalText q cs) :
    ∃ c r, cs = c :: r ∧ isDigit c := by
  have hfirst {ds : List Char} (hds : DigitRun ds) : ∃ c r, ds = c :: r ∧ isDigit c := by
    obtain ⟨c, r, rfl⟩ := List.exists_cons_of_ne_nil hds.1
    exact ⟨c, r, rfl, hds.2 c List.mem_cons_self⟩
  cases h with
  | whole hds => exact hfirst hds
  | point hds hfs =>
    obtain ⟨c, r, rfl, hc⟩ := hfirst hds
    exact ⟨c, _, List.cons_append, hc⟩

theorem valueOf_map_digitValue (cs : List Char) :
    Numeral.valueOf (cs.map digitValue) = decimalValue cs := by
  unfold Numeral.valueOf decimalValue
  rw [List.foldl_map]

/-- The numeral that is read from a text has the number of the text. -/
theorem PositionalText.exists_readNumeral? (h : PositionalText q cs) (negative : Bool) :
    ∃ n, readNumeral? negative cs = some n ∧ n.negative = negative ∧ n.magnitude = q := by
  cases h with
  | whole hds =>
    refine ⟨⟨negative, cs.map digitValue, [], 0⟩, ?_, rfl, ?_⟩
    · unfold readNumeral?
      rw [List.takeWhile_eq_self_iff.2 hds.2, List.dropWhile_eq_nil_iff.2 hds.2]
      simp [hds.1]
    · unfold Numeral.magnitude
      rw [List.append_nil, valueOf_map_digitValue]
      simp
  | @point ds fs hds hfs =>
    refine ⟨⟨negative, ds.map digitValue, fs.map digitValue, 0⟩, ?_, rfl, ?_⟩
    · have hpoint : ¬ isDigit '.' := by decide
      have hall : fs.all isDigit = true := List.all_eq_true.2 hfs.2
      unfold readNumeral?
      rw [List.takeWhile_append_of_pos hds.2, List.dropWhile_append_of_pos hds.2,
        List.takeWhile_cons_of_neg hpoint, List.dropWhile_cons_of_neg hpoint]
      simp [hds.1, hfs.1, hall]
    · unfold Numeral.magnitude
      rw [← List.map_append, valueOf_map_digitValue, List.length_map, zero_sub]

/-- A run of digits with a point put into it. -/
theorem positionalText_split (hds : DigitRun ds) (hpos : 0 < k) (hlt : k < ds.length) :
    PositionalText (decimalValue ds * 10 ^ ((k : ℤ) - ds.length))
      (ds.take k ++ '.' :: ds.drop k) := by
  have hpoint := PositionalText.point (hds.take hpos) (hds.drop hlt)
  have hplaces : -((ds.drop k).length : ℤ) = k - ds.length := by
    rw [List.length_drop]
    omega
  rwa [List.take_append_drop, hplaces] at hpoint

theorem toList_zeros (n : ℕ) : (zeros n).toList = List.replicate n '0' :=
  String.toList_ofList

theorem toList_positional (s : Scaled) :
    (positional s "").toList =
      if 0 ≤ s.exponent then
        Nat.toDigits 10 s.digits ++ List.replicate s.exponent.toNat '0'
      else if 0 < (Nat.toDigits 10 s.digits).length + s.exponent then
        (Nat.toDigits 10 s.digits).take ((Nat.toDigits 10 s.digits).length + s.exponent).toNat ++
          '.' :: (Nat.toDigits 10 s.digits).drop
            ((Nat.toDigits 10 s.digits).length + s.exponent).toNat
      else
        ['0'] ++ '.' :: (List.replicate (-((Nat.toDigits 10 s.digits).length + s.exponent)).toNat '0' ++
          Nat.toDigits 10 s.digits) := by
  unfold positional
  dsimp only
  rw [Text.length_toString]
  split_ifs
  · simp [toList_zeros]
  · simp
  · simp [toList_zeros]

/-- **A decimal written out** is a text of its number. -/
theorem positionalText_positional (s : Scaled) :
    PositionalText s.value (positional s "").toList := by
  have hrun := Text.digitRun_toDigits s.digits
  have hvalue := Text.decimalValue_toDigits s.digits
  rw [toList_positional]
  unfold Scaled.value
  generalize Nat.toDigits 10 s.digits = ds at hrun hvalue ⊢
  rw [← hvalue]
  split_ifs with hwhole hpoint
  · -- zeros behind the digits
    obtain ⟨j, hj⟩ := Int.eq_ofNat_of_zero_le hwhole
    have htext := PositionalText.whole (hrun.append (Text.forall_isDigit_zeros j))
    rw [Text.decimalValue_append, Text.decimalValue_zeros, List.length_replicate, add_zero] at htext
    rw [hj, Int.toNat_natCast, zpow_natCast]
    exact_mod_cast htext
  · -- a point among the digits
    obtain ⟨k, hk⟩ := Int.eq_ofNat_of_zero_le hpoint.le
    have htext := positionalText_split (k := k) hrun (by omega) (by omega)
    rw [hk, Int.toNat_natCast]
    rwa [← hk, add_sub_cancel_left] at htext
  · -- zeros in front of the digits, and the point in front of the zeros
    obtain ⟨j, hj⟩ := Int.eq_ofNat_of_zero_le (neg_nonneg.2 (not_lt.1 hpoint))
    have hzero : DigitRun ['0'] := Text.digitRun_toDigits 0
    have htext := PositionalText.point hzero (hrun.append_left (Text.forall_isDigit_zeros j))
    have hfront : decimalValue (['0'] ++ (List.replicate j '0' ++ ds)) = decimalValue ds := by
      rw [← List.append_assoc, List.singleton_append, ← List.replicate_succ,
        Text.decimalValue_append, Text.decimalValue_zeros, zero_mul, zero_add]
    have hplaces : -((List.replicate j '0' ++ ds).length : ℤ) = s.exponent := by
      rw [List.length_append, List.length_replicate]
      omega
    rw [hj, Int.toNat_natCast]
    rwa [hfront, hplaces] at htext

/-- **A number of places** is kept, however few digits there are. -/
theorem positionalText_withPlaces {places : ℕ} (hplaces : 0 < places) (n : ℕ) :
    PositionalText (n * 10 ^ (-(places : ℤ))) (withPlaces places n).toList := by
  have hrun := Text.digitRun_toDigits n
  have hvalue := Text.decimalValue_toDigits n
  unfold withPlaces
  dsimp only
  rw [if_neg hplaces.ne', Text.length_toString]
  simp only [String.toList_append, String.toList_ofList, toList_zeros, Nat.toString_eq_repr,
    Nat.toList_repr]
  generalize Nat.toDigits 10 n = ds at hrun hvalue ⊢
  have hpadded := hrun.append_left (Text.forall_isDigit_zeros (places + 1 - ds.length))
  have htotal : (List.replicate (places + 1 - ds.length) '0' ++ ds).length =
      max ds.length (places + 1) := by
    rw [List.length_append, List.length_replicate]
    omega
  have hnumber : decimalValue (List.replicate (places + 1 - ds.length) '0' ++ ds) = n := by
    rw [Text.decimalValue_append, Text.decimalValue_zeros, zero_mul, zero_add, hvalue]
  generalize List.replicate (places + 1 - ds.length) '0' ++ ds = padded at *
  have htext := positionalText_split (k := padded.length - places) hpadded (by omega) (by omega)
  have hexponent : ((padded.length - places : ℕ) : ℤ) - padded.length = -(places : ℤ) := by omega
  rw [hnumber, hexponent] at htext
  simpa using htext

/-! ## 3. Reading back -/

theorem read?_signText {r : List Char} (hr : r.head? ≠ some '-') (negative : Bool) :
    read? ((signText negative).toList ++ r) = readUnsigned? negative r := by
  cases negative with
  | true => rfl
  | false => exact read?.eq_2 r fun cs heq => hr (heq ▸ rfl)

/-- What is read from the text of a number. -/
theorem PositionalText.exists_read? (h : PositionalText q cs) (negative : Bool) :
    ∃ n : Numeral, read? ((signText negative).toList ++ cs) = some n.nearest ∧
      n.negative = negative ∧ n.magnitude = q := by
  obtain ⟨n, hread, hnegative, hmagnitude⟩ := h.exists_readNumeral? negative
  refine ⟨n, ?_, hnegative, hmagnitude⟩
  obtain ⟨c, r, rfl, hc⟩ := h.exists_cons
  -- a digit is neither a sign nor the first letter of a word
  have hsign : (c :: r).head? ≠ some '-' := by
    rintro ⟨⟩
    exact absurd hc (by decide)
  have hword {d : Char} {word : List Char} (hd : isDigit d = false) : c :: r ≠ d :: word := by
    rintro ⟨⟩
    exact absurd hc (by simp [hd])
  have hnan : c :: r ≠ "NaN".toList := hword (d := 'N') rfl
  have hinf : c :: r ≠ "inf".toList := hword (d := 'i') rfl
  rw [read?_signText hsign]
  unfold readUnsigned?
  rw [if_neg hnan, if_neg hinf, hread]
  rfl

/-- A zero is read with its sign. -/
theorem unpack_nearest_of_zero {n : Numeral} (h : n.magnitude = 0) :
    n.nearest.toModel.unpack = .zero (signOf n.negative) := by
  have hdigits : Numeral.valueOf (n.whole ++ n.fraction) = 0 := by
    have hfactor := (mul_eq_zero.1 h).resolve_right (ten_zpow_pos _).ne'
    exact_mod_cast hfactor
  unfold Numeral.nearest
  dsimp only
  rw [if_pos (.inl hdigits)]
  unfold Numeral.signed signOf
  cases n.negative <;> rfl

/-- **Every double is read back** from what is written for it. -/
theorem read?_plain (x : Float) : read? (plain x).toList = some x := by
  have hunpacks := unpacks_parts x
  unfold plain
  generalize hparts : Parts.of x = parts at hunpacks
  generalize hu : x.toModel.unpack = u at hunpacks
  cases hunpacks with
  | nan => exact congrArg some (eq_of_unpack hu.symm)
  | @infinite negative s hs =>
    obtain rfl := hs
    cases negative with
    | false => exact congrArg some (eq_of_unpack hu.symm)
    | true => exact congrArg some (eq_of_unpack hu.symm)
  | @zero negative s hs q =>
    -- both zeros have one value, so it is not the value that tells them apart
    obtain ⟨n, hread, rfl, hmagnitude⟩ :=
      (PositionalText.whole (Text.digitRun_toDigits 0)).exists_read? negative
    have hzero : n.nearest.toModel.unpack = x.toModel.unpack := by
      rw [unpack_nearest_of_zero hmagnitude, hu, hs]
    dsimp only
    rw [if_pos rfl, String.toList_append]
    exact hread.trans (congrArg some (eq_of_unpack hzero))
  | @finite negative s hs m q hm hcanonical hq =>
    obtain ⟨n, hread, rfl, hmagnitude⟩ :=
      (positionalText_positional (shortest .up m q)).exists_read? negative
    have hvalue := hasValue_of_parts hparts
    have hrounded : rounded n.value = signed (signOf n.negative) (m * 2 ^ q) := by
      unfold Numeral.value
      rw [rounded_signed _ n.magnitude_nonneg, hmagnitude, roundedMagnitude_shortest _ hcanonical hm]
    -- the number that is read is in the interval of the double, and so is rounded to it
    have hnearest := n.hasValue_nearest (hrounded ▸ hvalue.abs_lt_limit)
    rw [hrounded] at hnearest
    have hne := signed_ne_zero (signOf n.negative)
      (mul_pos (by exact_mod_cast hm) (two_zpow_pos q) : (0 : ℚ) < m * 2 ^ q)
    dsimp only
    rw [if_neg hm.ne', String.toList_append, hread, hnearest.eq_of_ne_zero hvalue hne]

/-! ## 4. Characters -/

/-- The characters that numbers are written with, and the letters of the two words. -/
def isNumberChar (c : Char) : Bool :=
  isDigit c || c ∈ ['-', '.', 'N', 'a', 'i', 'n', 'f']

theorem PositionalText.forall_isNumberChar (h : PositionalText q cs) : ∀ c ∈ cs, isNumberChar c := by
  have hdigits {ds : List Char} (hds : DigitRun ds) : ∀ c ∈ ds, isNumberChar c :=
    fun c hc => Bool.or_eq_true_iff.2 (.inl (hds.2 c hc))
  cases h with
  | whole hds => exact hdigits hds
  | point hds hfs =>
    exact List.forall_mem_append.2 ⟨hdigits hds, List.forall_mem_cons.2 ⟨by decide, hdigits hfs⟩⟩

theorem isNumberChar_signText (negative : Bool) (h : ∀ c ∈ cs, isNumberChar c) :
    ∀ c ∈ (signText negative).toList ++ cs, isNumberChar c := by
  have hsign : ∀ c ∈ (signText negative).toList, isNumberChar c := by
    cases negative <;> exact List.all_eq_true.1 rfl
  exact List.forall_mem_append.2 ⟨hsign, h⟩

theorem isNumberChar_plain (x : Float) : ∀ c ∈ (plain x).toList, isNumberChar c := by
  unfold plain
  cases Parts.of x with
  | nan => exact List.all_eq_true.1 rfl
  | infinite negative =>
    rw [String.toList_append]
    exact isNumberChar_signText negative (List.all_eq_true.1 rfl)
  | finite negative m q =>
    dsimp only
    rw [String.toList_append]
    refine isNumberChar_signText negative ?_
    split_ifs with hzero
    · exact List.all_eq_true.1 rfl
    · exact (positionalText_positional _).forall_isNumberChar

theorem isNumberChar_fixed {places : ℕ} (hplaces : 0 < places) (x : Float) :
    ∀ c ∈ (fixed places x).toList, isNumberChar c := by
  unfold fixed
  cases Parts.of x with
  | nan =>
    dsimp only
    exact List.all_eq_true.1 rfl
  | infinite negative =>
    rw [String.toList_append]
    exact isNumberChar_signText negative (List.all_eq_true.1 rfl)
  | finite negative m q =>
    dsimp only
    rw [String.toList_append]
    exact isNumberChar_signText negative (positionalText_withPlaces hplaces _).forall_isNumberChar

end FlowTriad.Decimal
