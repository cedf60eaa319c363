/-
`Proofs/Instant/Seconds.lean` -- distances as doubles.

A distance is a whole number of nanoseconds, or of milliseconds where the nanoseconds do
not fit into 64 bits; it is made a double and then divided. Each of the two steps rounds,
and rounding keeps the order, so seconds are in the order of what was counted.

What was counted is not always the distance. Where 64 bits end, so do fractions of a
millisecond, and of two distances in the millisecond of that limit the greater one, which
lies beyond it, is counted as the smaller (`counted`). Everything here is said of the
count: seconds follow it (`secondsValue_mono`), they show its sign
(`secondsValue_nonneg_iff`), and they show a difference of four microseconds within the
64 bits (`secondsValue_strictMono`).
-/
import FlowTriad.Proofs.Double.Scientific
import FlowTriad.Proofs.Instant.Distance

set_option autoImplicit false

namespace FlowTriad

open Double

/-! ## 1. A count, made a double and divided -/

/-- The value of a count of parts, if there are `d` of them in a second. -/
def countValue (d : ℚ) (n : ℤ) : ℚ :=
  rounded (rounded n / d)

theorem hasValue_count {a : Float} {d : ℚ} {n : ℤ} (ha : HasValue a d) (hd : 1 ≤ d)
    (hn : |(n : ℚ)| ≤ 2 ^ (80 : ℤ)) : HasValue (Float.ofInt n / a) (countValue d n) := by
  have hbig : (2 : ℚ) ^ (80 : ℤ) < 2 ^ (1024 : ℤ) :=
    zpow_lt_zpow_right₀ (by norm_num) (by norm_num)
  have hcount : |rounded (n : ℚ)| ≤ 2 ^ (80 : ℤ) := abs_rounded_le (by norm_num) hn
  have hquotient : |rounded n / d| ≤ 2 ^ (80 : ℤ) := by
    rw [abs_div, abs_of_pos (zero_lt_one.trans_le hd)]
    exact (div_le_self (abs_nonneg _) hd).trans hcount
  refine (hasValue_ofInt (hcount.trans_lt hbig)).div ha (by linarith) ?_
  exact (abs_rounded_le (by norm_num) hquotient).trans_lt hbig

theorem countValue_mono {d : ℚ} (hd : 0 < d) {m n : ℤ} (h : m ≤ n) :
    countValue d m ≤ countValue d n := by
  have hcount : rounded (m : ℚ) ≤ rounded n := rounded_mono (by exact_mod_cast h)
  exact rounded_mono ((div_le_div_iff_of_pos_right hd).2 hcount)

/-- A count keeps its sign. -/
theorem countValue_nonneg_iff {d : ℚ} (hd : 0 < d) (hle : d ≤ 2 ^ (30 : ℤ)) {n : ℤ} :
    0 ≤ countValue d n ↔ 0 ≤ n := by
  constructor
  · intro h
    by_contra hneg
    have hcount : rounded (n : ℚ) ≤ -1 := by
      have hone : rounded (1 : ℚ) = 1 := by simpa using rounded_two_zpow (k := 0) (by norm_num)
      have hint : n ≤ -1 := by omega
      rw [← hone, ← rounded_neg]
      exact rounded_mono (by exact_mod_cast hint)
    have hquotient : rounded (n : ℚ) / d ≤ -2 ^ (-30 : ℤ) := by
      rw [div_le_iff₀ hd]
      have hpart : (2 : ℚ) ^ (-30 : ℤ) * d ≤ 1 := by
        calc (2 : ℚ) ^ (-30 : ℤ) * d ≤ 2 ^ (-30 : ℤ) * 2 ^ (30 : ℤ) :=
              mul_le_mul_of_nonneg_left hle (two_zpow_pos _).le
          _ = 1 := by norm_num
      linarith
    exact absurd h (rounded_neg_of_le (by norm_num) hquotient).not_ge
  · intro h
    exact rounded_nonneg (div_nonneg (rounded_nonneg (by exact_mod_cast h)) hd.le)

/-- **Four microseconds are not rounded away** from nanoseconds of 64 bits: a count moves by
half a thousand nanoseconds at most, and what it is divided to by one thousand. -/
theorem countValue_strictMono {m n : ℤ} (hm : |(m : ℚ)| < 2 ^ (63 : ℤ))
    (hn : |(n : ℚ)| < 2 ^ (63 : ℤ)) (h : m + 4000 ≤ n) :
    countValue 1000000000 m < countValue 1000000000 n := by
  have hcount {k : ℤ} (hk : |(k : ℚ)| < 2 ^ (63 : ℤ)) : |rounded (k : ℚ) - k| ≤ 512 :=
    (abs_rounded_sub_le (k := 10) (by norm_num) hk).trans (by norm_num)
  have hquotient {k : ℤ} (hk : |(k : ℚ)| < 2 ^ (63 : ℤ)) :
      |countValue 1000000000 k - rounded k / 1000000000| ≤ 1 / 2 ^ 20 := by
    have hbound : |rounded (k : ℚ) / 1000000000| < 2 ^ (34 : ℤ) := by
      rw [abs_div, abs_of_pos (by norm_num : (0 : ℚ) < 1000000000), div_lt_iff₀ (by norm_num)]
      exact (abs_rounded_le (by norm_num) hk.le).trans_lt (by norm_num)
    exact (abs_rounded_sub_le (k := -19) (by norm_num) hbound).trans (by norm_num)
  -- of four thousand nanoseconds, 2976 are left before the division
  have hgap : (m : ℚ) + 4000 ≤ n := by exact_mod_cast h
  have hm' := (abs_le.1 (hcount hm)).2
  have hn' := (abs_le.1 (hcount hn)).1
  have hparts : rounded (m : ℚ) / 1000000000 + 2976 / 1000000000 ≤ rounded n / 1000000000 := by
    rw [← add_div]
    exact (div_le_div_iff_of_pos_right (by norm_num)).2 (by linarith)
  have hlower := (abs_le.1 (hquotient hm)).2
  have hupper := (abs_le.1 (hquotient hn)).1
  norm_num at hlower hupper hparts
  linarith

/-- The values of the numbers that counts are divided by. -/
theorem hasValue_billion : HasValue 1e9 1000000000 :=
  hasValue_of_positive (m := 8388608000000000) (e := -23) rfl (by decide) (by decide)
    (by norm_num)

theorem hasValue_thousand : HasValue 1e3 1000 :=
  hasValue_of_positive (m := 8796093022208000) (e := -43) rfl (by decide) (by decide)
    (by norm_num)

/-- Nanoseconds in seconds, of counts that the calendar allows. -/
theorem hasValue_nanos {n : ℤ} (hn : |n| ≤ 2 ^ 80) :
    HasValue (Float.ofInt n / 1e9) (countValue 1000000000 n) :=
  hasValue_count hasValue_billion (by norm_num) (by exact_mod_cast hn)

/-- Milliseconds in seconds. -/
theorem hasValue_millis {n : ℤ} (hn : |n| ≤ 2 ^ 80) :
    HasValue (Float.ofInt n / 1e3) (countValue 1000 n) :=
  hasValue_count hasValue_thousand (by norm_num) (by exact_mod_cast hn)

/-! ## 2. Where 64 bits end -/

/-- The nanoseconds of a distance that are left when it is counted. -/
def counted (n : ℤ) : ℤ :=
  if Whole.fits n then n else n.tdiv 1000000 * 1000000

/-- The value of a distance in seconds. -/
def secondsValue (n : ℤ) : ℚ :=
  if Whole.fits n then countValue 1000000000 n else countValue 1000 (n.tdiv 1000000)

theorem fits_iff {n : ℤ} : Whole.fits n ↔ Whole.least ≤ n ∧ n ≤ Whole.greatest := by
  unfold Whole.fits
  simp

theorem counted_of_fits {n : ℤ} (h : Whole.fits n) : counted n = n :=
  if_pos h

/-- At the limit, the two ways to count agree on the whole milliseconds. -/
theorem countValue_limit :
    countValue 1000000000 9223372036854000000 = countValue 1000 9223372036854 := by
  have hnanos := hasValue_nanos (n := 9223372036854000000) (by decide)
  have hmillis := hasValue_millis (n := 9223372036854) (by decide)
  exact le_antisymm ((hnanos.le_iff hmillis).1 (by decide)) ((hmillis.le_iff hnanos).1 (by decide))

/-- Above it, they go on in order. -/
theorem countValue_beyond :
    countValue 1000000000 9223372036854775807 ≤ countValue 1000 9223372036855 := by
  have hnanos := hasValue_nanos (n := 9223372036854775807) (by decide)
  have hmillis := hasValue_millis (n := 9223372036855) (by decide)
  exact (hnanos.le_iff hmillis).1 (by decide)

/-- Beyond the limit, whole milliseconds are counted. -/
theorem counted_of_greatest_lt {n : ℤ} (h : Whole.greatest < n) :
    counted n = n / 1000000 * 1000000 ∧ secondsValue n = countValue 1000 (n / 1000000) := by
  have hfits : ¬ Whole.fits n := by
    rw [fits_iff]
    omega
  have hdiv : n.tdiv 1000000 = n / 1000000 := by
    refine Int.tdiv_eq_ediv_of_nonneg ?_
    simp only [Whole.greatest] at h
    omega
  unfold counted secondsValue
  rw [if_neg hfits, if_neg hfits, hdiv]
  exact ⟨rfl, rfl⟩

/-- **A count that fits** gives the same seconds whichever way it came about. -/
theorem secondsValue_of_counted_le {n : ℤ} (hn : Whole.least ≤ n)
    (h : counted n ≤ Whole.greatest) : secondsValue n = countValue 1000000000 (counted n) := by
  by_cases hle : n ≤ Whole.greatest
  · have hfits := fits_iff.2 ⟨hn, hle⟩
    unfold secondsValue
    rw [if_pos hfits, counted_of_fits hfits]
  · -- beyond the limit, only one millisecond is left to be counted within it
    obtain ⟨hcounted, hvalue⟩ := counted_of_greatest_lt (not_le.1 hle)
    have hmillis : n / 1000000 = 9223372036854 := by
      rw [hcounted] at h
      simp only [Whole.greatest] at h hle
      omega
    rw [hvalue, hcounted, hmillis]
    exact countValue_limit.symm

/-- What is counted beyond the limit lies beyond it. -/
theorem greatest_lt_of_counted {n : ℤ} (hn : Whole.least ≤ n)
    (h : Whole.greatest < counted n) : Whole.greatest < n := by
  by_contra hle
  rw [counted_of_fits (fits_iff.2 ⟨hn, not_lt.1 hle⟩)] at h
  exact hle h

/-- **Seconds follow the count.** -/
theorem secondsValue_mono {m n : ℤ} (hm : Whole.least ≤ m) (hn : Whole.least ≤ n)
    (h : counted m ≤ counted n) : secondsValue m ≤ secondsValue n := by
  by_cases hfits : counted n ≤ Whole.greatest
  · rw [secondsValue_of_counted_le hm (h.trans hfits), secondsValue_of_counted_le hn hfits]
    exact countValue_mono (by norm_num) h
  · have hgreat := greatest_lt_of_counted hn (not_le.1 hfits)
    obtain ⟨hcounted, hvalue⟩ := counted_of_greatest_lt hgreat
    rw [hvalue]
    by_cases hfits' : counted m ≤ Whole.greatest
    · -- one count on either side of the limit, and a whole millisecond between them
      rw [secondsValue_of_counted_le hm hfits']
      have hmillis : 9223372036855 ≤ n / 1000000 := by
        rw [hcounted] at hfits
        simp only [Whole.greatest] at hfits
        omega
      calc countValue 1000000000 (counted m)
          ≤ countValue 1000000000 9223372036854775807 := countValue_mono (by norm_num) hfits'
        _ ≤ countValue 1000 9223372036855 := countValue_beyond
        _ ≤ countValue 1000 (n / 1000000) := countValue_mono (by norm_num) hmillis
    · have hgreat' := greatest_lt_of_counted hm (not_le.1 hfits')
      obtain ⟨hcounted', hvalue'⟩ := counted_of_greatest_lt hgreat'
      rw [hvalue']
      rw [hcounted, hcounted'] at h
      exact countValue_mono (by norm_num) (by omega)

/-- **Seconds show the sign of a distance.** -/
theorem secondsValue_nonneg_iff {n : ℤ} (hn : Whole.least ≤ n) : 0 ≤ secondsValue n ↔ 0 ≤ n := by
  by_cases hle : n ≤ Whole.greatest
  · have hfits := fits_iff.2 ⟨hn, hle⟩
    unfold secondsValue
    rw [if_pos hfits]
    exact countValue_nonneg_iff (by norm_num) (by norm_num)
  · obtain ⟨-, hvalue⟩ := counted_of_greatest_lt (not_le.1 hle)
    rw [hvalue, countValue_nonneg_iff (by norm_num) (by norm_num)]
    omega

/-- **Seconds show four microseconds**, where the nanoseconds fit into 64 bits. -/
theorem secondsValue_strictMono {m n : ℤ} (hm : Whole.least < m) (hn : Whole.least < n)
    (hfits : counted n ≤ Whole.greatest) (h : counted m + 4000 ≤ counted n) :
    secondsValue m < secondsValue n := by
  have hbound {k : ℤ} (hk : Whole.least < k) (hfits : counted k ≤ Whole.greatest) :
      |(counted k : ℚ)| < 2 ^ (63 : ℤ) := by
    have hleast : Whole.least < counted k := by
      by_cases hgreat : Whole.greatest < k
      · rw [(counted_of_greatest_lt hgreat).1]
        simp only [Whole.least, Whole.greatest] at *
        omega
      · rwa [counted_of_fits (fits_iff.2 ⟨hk.le, not_lt.1 hgreat⟩)]
    simp only [Whole.least, Whole.greatest] at hleast hfits
    have hint : |counted k| < 2 ^ 63 := by
      rw [abs_lt]
      omega
    exact_mod_cast hint
  have hfits' : counted m ≤ Whole.greatest := by omega
  rw [secondsValue_of_counted_le hm.le hfits', secondsValue_of_counted_le hn.le hfits]
  exact countValue_strictMono (hbound hm hfits') (hbound hn hfits) h

/-! ## 3. Seconds between instants -/

/-- The calendar bounds every distance. -/
theorem abs_nanosTo_le (t u : Instant) : |t.nanosTo u| ≤ 2 ^ 80 := by
  obtain ⟨htn, -, ht⟩ := t.valid
  obtain ⟨hun, -, hu⟩ := u.valid
  have hleap : -1 ≤ t.leapBetween u ∧ t.leapBetween u ≤ 1 := by
    unfold Instant.leapBetween
    split_ifs <;> omega
  rw [Instant.nanosTo_eq, abs_le]
  simp only [nanosPerSecond] at *
  omega

/-- **The seconds between two instants** are a double, and its value is known. -/
theorem hasValue_secondsTo (t u : Instant) :
    HasValue (t.secondsTo u) (secondsValue (t.nanosTo u)) := by
  have hbound := abs_nanosTo_le t u
  unfold Instant.secondsTo secondsValue
  simp only
  split_ifs
  · exact hasValue_nanos hbound
  · have hmillis : |(t.nanosTo u).tdiv 1000000| ≤ 2 ^ 80 := by
      refine le_trans ?_ hbound
      rw [Int.abs_eq_natAbs, Int.abs_eq_natAbs]
      exact_mod_cast Int.natAbs_tdiv_le_natAbs _ _
    exact hasValue_millis hmillis

end FlowTriad
