/-
`Proofs/Instant/Truncation.lean` -- cutting digits off does not put timestamps out of order.

A timestamp writes a moment: a second of universal time, which is the written second moved by
the offset, whether that is a leap second, and a fraction with as many digits as there are.
What is read of it is an instant with three digits of the fraction. This file says how far the
one is from the other, and that no two timestamps change places by it.

The written moment is said without the reader. Its days are counted (`Date.count`), and its
digits are taken as the decimal fraction that they are; so what has to be shown of the reader
is that its calendar counts days, that it takes the numbers from the right places, and that
three digits, filled up or cut off, are the whole milliseconds of the fraction
(`decimalValue_normalize`). The second and the leap second are then those that were written
(`Truncates`), and between moments of one second, whole milliseconds are in the order of the
fractions that they were cut from.
-/
import FlowTriad.Proofs.Alignment.Sorted
import FlowTriad.Proofs.Calendar
import FlowTriad.Proofs.Comparison.Stages
import FlowTriad.Proofs.Instant.Stamp
import FlowTriad.Proofs.Items

set_option autoImplicit false

namespace FlowTriad

open Text

/-! ## 1. Moments -/

/-- A moment of universal time, as exact as one likes. -/
structure Moment where
  /-- The whole seconds since the beginning of 1970. -/
  second : ℤ
  /-- Whether it is in the leap second that follows on that second, and not in the second. -/
  leap : Bool
  /-- How much of the second is over. -/
  fraction : ℚ

/-- A leap second comes after its second, and otherwise fractions decide. -/
instance : LE Moment where
  le m n := m.second < n.second ∨
    m.second = n.second ∧ (m.leap < n.leap ∨ m.leap = n.leap ∧ m.fraction ≤ n.fraction)

theorem Moment.le_iff {m n : Moment} : m ≤ n ↔ m.second < n.second ∨
    m.second = n.second ∧ (m.leap < n.leap ∨ m.leap = n.leap ∧ m.fraction ≤ n.fraction) :=
  Iff.rfl

namespace Instant

variable {t u : Instant}

/-- The moment that an instant is. -/
def moment (t : Instant) : Moment where
  second := t.seconds
  leap := t.isLeap
  fraction := ((t.nanos % nanosPerSecond : ℕ) : ℚ) / nanosPerSecond

/-- Within a second, nanoseconds count the leap second and then the fraction. -/
theorem nanos_le_iff : t.nanos ≤ u.nanos ↔ t.moment.leap < u.moment.leap ∨
    t.moment.leap = u.moment.leap ∧ t.moment.fraction ≤ u.moment.fraction := by
  have hpos : (0 : ℚ) < (nanosPerSecond : ℕ) := by norm_num [nanosPerSecond]
  have ht := t.valid.1
  have hu := u.valid.1
  unfold moment isLeap
  simp only [div_le_div_iff_of_pos_right hpos, Nat.cast_le, Bool.lt_iff, decide_eq_decide,
    decide_eq_true_eq, decide_eq_false_iff_not, nanosPerSecond] at *
  omega

/-- Instants are in the order of the moments that they are. -/
theorem le_iff_moment : t ≤ u ↔ t.moment ≤ u.moment := by
  rw [le_iff, nanos_le_iff]
  exact Iff.rfl

end Instant

/-! ## 2. What a timestamp writes -/

/-- An offset from universal time, as it is written. -/
inductive Zone where
  /-- No offset. -/
  | universal (mark : Char) (hmark : mark ∈ ['Z', 'z'])
  /-- So many hours and minutes before universal time, or after it. -/
  | shifted (sign : Char) (hours minutes : List Char) (hsign : sign ∈ ['+', '-'])
      (hhours : Stamp.Digits 2 hours) (hminutes : Stamp.Digits 2 minutes)

namespace Zone

/-- The offset as text. -/
def text : Zone → List Char
  | universal mark _ => [mark]
  | shifted sign hours minutes _ _ _ => sign :: (hours ++ ':' :: minutes)

/-- The seconds by which a clock is before universal time. -/
def seconds : Zone → ℤ
  | universal _ _ => 0
  | shifted sign hours minutes _ _ _ =>
      (if sign = '-' then -1 else 1) * (decimalValue hours * 3600 + decimalValue minutes * 60)

theorem offsetText (z : Zone) : Stamp.OffsetText z.text := by
  cases z with
  | universal mark hmark =>
    rcases List.mem_pair.1 hmark with rfl | rfl
    · exact .inl rfl
    · exact .inr (.inl rfl)
  | shifted sign hours minutes hsign hhours hminutes =>
    exact .inr (.inr ⟨sign, hours, minutes, hsign, hhours, hminutes, rfl⟩)

theorem exists_of_offsetText {cs : List Char} (h : Stamp.OffsetText cs) :
    ∃ z : Zone, z.text = cs := by
  rcases h with rfl | rfl | ⟨sign, hours, minutes, hsign, hhours, hminutes, rfl⟩
  · exact ⟨.universal 'Z' (by decide), rfl⟩
  · exact ⟨.universal 'z' (by decide), rfl⟩
  · exact ⟨.shifted sign hours minutes hsign hhours hminutes, rfl⟩

end Zone

/-- A timestamp by its pieces: the digits of its numbers, what is written between date and time,
the offset, and the white space around it. -/
structure WrittenStamp where
  before : List Char
  year : List Char
  month : List Char
  day : List Char
  separator : Char
  hour : List Char
  minute : List Char
  second : List Char
  fraction : List Char
  zone : Zone
  after : List Char
  beforeBlank : AllBlank before
  yearDigits : Stamp.Digits 4 year
  monthDigits : Stamp.Digits 2 month
  dayDigits : Stamp.Digits 2 day
  separates : separator ∈ ['T', 't', ' ']
  hourDigits : Stamp.Digits 2 hour
  minuteDigits : Stamp.Digits 2 minute
  secondDigits : Stamp.Digits 2 second
  fractionText : Stamp.FractionText fraction
  afterBlank : AllBlank after

namespace WrittenStamp

variable {w w' : WrittenStamp} {t t' : Instant}

/-- The date and the time as text. -/
def head (w : WrittenStamp) : List Char :=
  w.year ++ '-' :: (w.month ++ '-' :: (w.day ++ w.separator ::
    (w.hour ++ ':' :: (w.minute ++ ':' :: w.second))))

/-- The timestamp as text. -/
def text (w : WrittenStamp) : String :=
  String.ofList (w.before ++ (w.head ++ '.' :: w.fraction ++ w.zone.text) ++ w.after)

/-- The date that is written. -/
def date (w : WrittenStamp) : Date :=
  ⟨decimalValue w.year, decimalValue w.month, decimalValue w.day⟩

/-- **The moment that is written**: the second is moved by the offset, second 60 is the leap
second after second 59, and the fraction has all its digits. -/
def moment (w : WrittenStamp) : Moment where
  second := w.date.count * 86400 + decimalValue w.hour * 3600 + decimalValue w.minute * 60 +
    min (decimalValue w.second) 59 - w.zone.seconds
  leap := decimalValue w.second = 60
  fraction := decimalValue w.fraction / 10 ^ w.fraction.length

/-- The stamp that the pieces make. -/
def stamp (w : WrittenStamp) : Stamp :=
  ⟨w.head, w.fraction, w.zone.text⟩

theorem wellFormed (w : WrittenStamp) : w.stamp.WellFormed where
  head := ⟨w.year, w.month, w.day, w.separator, w.hour, w.minute, w.second,
    ⟨w.yearDigits, w.monthDigits, w.dayDigits⟩, w.separates,
    ⟨w.hourDigits, w.minuteDigits, w.secondDigits⟩, rfl⟩
  fraction := w.fractionText
  offset := w.zone.offsetText

theorem readStamp_text (w : WrittenStamp) : readStamp w.text = w.stamp.normalize.instant :=
  StampText.readStamp_text
    ⟨w.before, w.stamp, w.after, w.beforeBlank, w.wellFormed, w.afterBlank⟩

/-- Every text that an instant is read of is written in this way. -/
theorem exists_of_readStamp {text : String} (h : readStamp text = .ok t) :
    ∃ w : WrittenStamp, w.text = text := by
  obtain ⟨s, hs, -⟩ := bind_eq_ok.1 h
  obtain ⟨⟨before, ⟨head, fraction, offset⟩, after, hbefore, hwell, hafter⟩, rfl⟩ :=
    StampText.exists_of_read hs
  obtain ⟨year, month, day, separator, hour, minute, second, ⟨hyear, hmonth, hday⟩, hseparator,
    ⟨hhour, hminute, hsecond⟩, hhead⟩ := hwell.head
  obtain ⟨zone, hzone⟩ := Zone.exists_of_offsetText hwell.offset
  refine ⟨⟨before, year, month, day, separator, hour, minute, second, fraction, zone, after,
    hbefore, hyear, hmonth, hday, hseparator, hhour, hminute, hsecond, hwell.fraction,
    hafter⟩, ?_⟩
  unfold text StampText.text Stamp.written WrittenStamp.head
  dsimp only at hhead hzone ⊢
  rw [hhead, hzone]

end WrittenStamp

/-! ## 3. The digits that are kept -/

namespace Stamp

variable {s : Stamp}

/-- **Three digits are whole milliseconds**: filled up or cut off, they count the thousandths of
the fraction, and what is less than one is dropped. -/
theorem decimalValue_normalize (h : FractionText s.fraction) :
    decimalValue s.normalize.fraction =
      1000 * decimalValue s.fraction / 10 ^ s.fraction.length := by
  show decimalValue (s.fraction.take 3 ++ List.replicate (3 - s.fraction.length) '0') = _
  rw [decimalValue_append, decimalValue_zeros, List.length_replicate, add_zero]
  by_cases hle : s.fraction.length ≤ 3
  · -- nothing is cut off, and every zero is a place more
    have hpow : 1000 = 10 ^ (3 - s.fraction.length) * 10 ^ s.fraction.length := by
      rw [← pow_add, Nat.sub_add_cancel hle]
      norm_num
    rw [List.take_of_length_le hle, hpow, mul_right_comm, mul_comm _ (decimalValue s.fraction),
      Nat.mul_div_cancel _ (by positivity)]
  · -- the digits that are cut off are less than one of the last place that is kept
    have hrest := decimalValue_lt fun c hc => h.2 c (List.mem_of_mem_drop (i := 3) hc)
    have hsplit := decimalValue_append (s.fraction.take 3) (s.fraction.drop 3)
    rw [List.take_append_drop] at hsplit
    have hpow : 10 ^ s.fraction.length = 1000 * 10 ^ (s.fraction.drop 3).length := by
      have hthree : s.fraction.length = 3 + (s.fraction.drop 3).length := by
        rw [List.length_drop]
        omega
      rw [hthree, pow_add]
      norm_num
    have hnone : 3 - s.fraction.length = 0 := by omega
    rw [hnone, pow_zero, mul_one, hpow, Nat.mul_div_mul_left _ _ (by norm_num), hsplit, add_comm,
      Nat.add_mul_div_right _ _ (by positivity), Nat.div_eq_of_lt hrest, zero_add]

/-- So they are the fraction, or less by less than a thousandth. -/
theorem normalize_fraction_bounds (h : FractionText s.fraction) :
    (decimalValue s.normalize.fraction : ℚ) / 1000 ≤
        decimalValue s.fraction / 10 ^ s.fraction.length ∧
      (decimalValue s.fraction : ℚ) / 10 ^ s.fraction.length <
        decimalValue s.normalize.fraction / 1000 + 1 / 1000 := by
  have hpos : (0 : ℚ) < 10 ^ s.fraction.length := by positivity
  have hpos' : 0 < 10 ^ s.fraction.length := by positivity
  rw [decimalValue_normalize h]
  have hle := Nat.div_mul_le_self (1000 * decimalValue s.fraction) (10 ^ s.fraction.length)
  have hlt := Nat.lt_div_mul_add hpos' (a := 1000 * decimalValue s.fraction)
  generalize 1000 * decimalValue s.fraction / 10 ^ s.fraction.length = q at hle hlt
  have hle : (q : ℚ) * 10 ^ s.fraction.length ≤ 1000 * decimalValue s.fraction := by
    exact_mod_cast hle
  have hlt : (1000 * decimalValue s.fraction : ℚ) <
      q * 10 ^ s.fraction.length + 10 ^ s.fraction.length := by
    exact_mod_cast hlt
  constructor
  · rw [div_le_div_iff₀ (by norm_num) hpos]
    linarith
  · rw [← add_div, div_lt_div_iff₀ hpos (by norm_num)]
    linarith

/-! ## 4. The numbers that are read -/

/-- A number is read where its digits stand. -/
theorem field_of_begins (before : List Char) {cs digits : List Char} {start length : ℕ}
    (h : before ++ digits <+: cs) (hbefore : before.length = start)
    (hdigits : digits.length = length) : field cs start length = decimalValue digits := by
  obtain ⟨after, rfl⟩ := h
  unfold field
  rw [List.append_assoc, List.drop_left' hbefore, List.take_left' hdigits]

/-- **The instant of a stamp**: what it is read from must be a date, and its second is counted
from there. -/
theorem instant_eq_ok {t : Instant} (h : s.instant = .ok t) :
    ∃ offset, offsetSeconds? s.offset = some offset ∧
      Date.Exists ⟨field s.head 0 4, field s.head 5 2, field s.head 8 2⟩ ∧
      field s.head 17 2 ≤ 60 ∧
      t.seconds = Date.dayNumber ⟨field s.head 0 4, field s.head 5 2, field s.head 8 2⟩ * 86400 +
        (field s.head 11 2 * 3600 + field s.head 14 2 * 60 + min (field s.head 17 2 : ℤ) 59) -
          offset ∧
      t.nanos = (if field s.head 17 2 = 60 then nanosPerSecond else 0) +
        decimalValue s.fraction * 1000000 := by
  unfold instant at h
  cases hoffset : offsetSeconds? s.offset with
  | none =>
    rw [hoffset] at h
    cases h
  | some offset =>
    rw [hoffset] at h
    dsimp only at h
    split at h
    · next hnumbers =>
      obtain ⟨hdate, -, -, hsecond⟩ := hnumbers
      split at h
      · next hfound =>
        cases h
        obtain ⟨hseconds, hnanos⟩ := Instant.ofParts?_eq_some.1 hfound
        refine ⟨offset, rfl, hdate, hsecond, ?_, ?_⟩
        · rw [hseconds]
          split_ifs <;> omega
        · rw [hnanos]
          split_ifs <;> omega
      · cases h
    · cases h

end Stamp

namespace Zone

/-- The offset that is read is the one that is written. -/
theorem offsetSeconds?_text {z : Zone} {offset : ℤ}
    (h : Stamp.offsetSeconds? z.text = some offset) : offset = z.seconds := by
  cases z with
  | universal mark hmark => exact (Option.some.inj h).symm
  | shifted sign hours minutes hsign hhours hminutes =>
    have hhours' : Stamp.field (hours ++ ':' :: minutes) 0 2 = decimalValue hours :=
      Stamp.field_of_begins [] (by simp) rfl hhours.1
    have hminutes' : Stamp.field (hours ++ ':' :: minutes) 3 2 = decimalValue minutes :=
      Stamp.field_of_begins (hours ++ [':']) (by simp) (by simp [hhours.1]) hminutes.1
    unfold text Stamp.offsetSeconds? at h
    dsimp only at h
    rw [if_neg (by simp), hhours', hminutes'] at h
    split at h
    · rw [← Option.some.inj h]
      show _ = (if sign = '-' then -1 else 1) * _
      split_ifs
      · rw [neg_one_mul]
      · rw [one_mul]
    · cases h

end Zone

namespace WrittenStamp

variable {w w' : WrittenStamp} {t t' : Instant}

/-- The numbers of the head are read where they are written. -/
theorem field_head (w : WrittenStamp) :
    (Stamp.field w.head 0 4 = decimalValue w.year ∧
      Stamp.field w.head 5 2 = decimalValue w.month ∧
      Stamp.field w.head 8 2 = decimalValue w.day) ∧
    Stamp.field w.head 11 2 = decimalValue w.hour ∧
    Stamp.field w.head 14 2 = decimalValue w.minute ∧
    Stamp.field w.head 17 2 = decimalValue w.second := by
  obtain ⟨hyear, -⟩ := w.yearDigits
  obtain ⟨hmonth, -⟩ := w.monthDigits
  obtain ⟨hday, -⟩ := w.dayDigits
  obtain ⟨hhour, -⟩ := w.hourDigits
  obtain ⟨hminute, -⟩ := w.minuteDigits
  obtain ⟨hsecond, -⟩ := w.secondDigits
  refine ⟨⟨?_, ?_, ?_⟩, ?_, ?_, ?_⟩
  · apply Stamp.field_of_begins [] _ _ hyear
    all_goals simp [head]
  · apply Stamp.field_of_begins (w.year ++ ['-']) _ _ hmonth
    all_goals simp [head, hyear]
  · apply Stamp.field_of_begins (w.year ++ '-' :: (w.month ++ ['-'])) _ _ hday
    all_goals simp [head, hyear, hmonth]
  · apply Stamp.field_of_begins
      (w.year ++ '-' :: (w.month ++ '-' :: (w.day ++ [w.separator]))) _ _ hhour
    all_goals simp [head, hyear, hmonth, hday]
  · apply Stamp.field_of_begins (w.year ++ '-' :: (w.month ++ '-' ::
      (w.day ++ w.separator :: (w.hour ++ [':'])))) _ _ hminute
    all_goals simp [head, hyear, hmonth, hday, hhour]
  · apply Stamp.field_of_begins (w.year ++ '-' :: (w.month ++ '-' ::
      (w.day ++ w.separator :: (w.hour ++ ':' :: (w.minute ++ [':']))))) _ _ hsecond
    all_goals simp [head, hyear, hmonth, hday, hhour, hminute]

end WrittenStamp

/-! ## 5. What is cut off -/

/-- An instant is what is left of a moment when less than a millisecond of its fraction is
dropped. -/
structure Truncates (t : Instant) (m : Moment) : Prop where
  second : t.moment.second = m.second
  leap : t.moment.leap = m.leap
  le : t.moment.fraction ≤ m.fraction
  lt : m.fraction < t.moment.fraction + 1 / 1000

/-- An instant of whole milliseconds. -/
def Instant.WholeMillis (t : Instant) : Prop :=
  ∃ k : ℕ, t.moment.fraction = k / 1000

/-- **Whole milliseconds keep the order** of the moments that they were cut from. Of two
fractions in order, the first cannot have a millisecond more. -/
theorem Truncates.le_of_le {t u : Instant} {m n : Moment} (ht : Truncates t m)
    (hu : Truncates u n) (htm : t.WholeMillis) (hum : u.WholeMillis) (h : m ≤ n) : t ≤ u := by
  rw [Instant.le_iff_moment]
  rw [Moment.le_iff] at h ⊢
  rw [ht.second, hu.second, ht.leap, hu.leap]
  rcases h with hsecond | ⟨hsecond, hleap | ⟨hleap, hfraction⟩⟩
  · exact .inl hsecond
  · exact .inr ⟨hsecond, .inl hleap⟩
  · refine .inr ⟨hsecond, .inr ⟨hleap, ?_⟩⟩
    obtain ⟨j, hj⟩ := htm
    obtain ⟨k, hk⟩ := hum
    have hlt : (j : ℚ) / 1000 < k / 1000 + 1 / 1000 := by
      rw [← hj, ← hk]
      exact (ht.le.trans hfraction).trans_lt hu.lt
    have hmillis : j < k + 1 := by
      rw [← add_div, div_lt_div_iff_of_pos_right (by norm_num)] at hlt
      exact_mod_cast hlt
    rw [hj, hk, div_le_div_iff_of_pos_right (by norm_num)]
    exact_mod_cast Nat.lt_succ_iff.1 hmillis

namespace WrittenStamp

variable {w w' : WrittenStamp} {t t' : Instant}

/-- The nanoseconds of what is read, and the second that they are in. -/
theorem parts_of_readStamp (h : readStamp w.text = .ok t) :
    t.seconds = w.moment.second ∧
      t.nanos = (if decimalValue w.second = 60 then nanosPerSecond else 0) +
        decimalValue w.stamp.normalize.fraction * 1000000 := by
  rw [readStamp_text] at h
  obtain ⟨offset, hoffset, hdate, -, hseconds, hnanos⟩ := Stamp.instant_eq_ok h
  -- bringing it to three digits leaves the head and the offset as they are
  have hhead : w.stamp.normalize.head = w.head := rfl
  have hzone : offset = w.zone.seconds := Zone.offsetSeconds?_text hoffset
  obtain ⟨⟨hyear, hmonth, hday⟩, hhour, hminute, hsecond⟩ := w.field_head
  rw [hhead, hyear, hmonth, hday] at hdate hseconds
  rw [hhour, hminute, hsecond, Date.dayNumber_eq_count hdate, hzone] at hseconds
  rw [hhead, hsecond] at hnanos
  refine ⟨?_, hnanos⟩
  rw [hseconds]
  unfold moment date
  dsimp only
  omega

/-- **What is read** of a timestamp is the moment that it writes, cut off. -/
theorem truncates_of_readStamp (h : readStamp w.text = .ok t) :
    Truncates t w.moment ∧ t.WholeMillis := by
  obtain ⟨hseconds, hnanos⟩ := parts_of_readStamp h
  have hlt := Stamp.nanos_lt w.wellFormed
  obtain ⟨hle, hgap⟩ := Stamp.normalize_fraction_bounds (s := w.stamp) w.fractionText
  generalize decimalValue w.stamp.normalize.fraction = k at hnanos hlt hle hgap
  -- a leap second adds a whole second, so the fraction is that of the digits
  have hfraction : t.moment.fraction = (k : ℚ) / 1000 := by
    have hmod : t.nanos % nanosPerSecond = k * 1000000 := by
      rw [hnanos]
      simp only [nanosPerSecond] at hlt ⊢
      split_ifs <;> omega
    unfold Instant.moment
    dsimp only
    rw [hmod]
    simp only [nanosPerSecond]
    push_cast
    ring
  have hleap : t.isLeap = decide (decimalValue w.second = 60) := by
    rw [Bool.eq_iff_iff, Instant.isLeap_iff, decide_eq_true_eq, hnanos]
    simp only [nanosPerSecond] at hlt ⊢
    split_ifs with hsixty
    · simp [hsixty]
    · simp only [hsixty, iff_false]
      omega
  refine ⟨⟨hseconds, hleap, ?_, ?_⟩, k, hfraction⟩
  · rw [hfraction]
    exact hle
  · rw [hfraction]
    exact hgap

/-- **Cutting off keeps the order.** -/
theorem le_of_moment_le (h : readStamp w.text = .ok t) (h' : readStamp w'.text = .ok t')
    (hle : w.moment ≤ w'.moment) : t ≤ t' := by
  obtain ⟨hcut, hmillis⟩ := truncates_of_readStamp h
  obtain ⟨hcut', hmillis'⟩ := truncates_of_readStamp h'
  exact hcut.le_of_le hcut' hmillis hmillis' hle

end WrittenStamp

/-! ## 6. Captures in order -/

/-- Records that were written in the order of time make a series that is in it. -/
theorem sorted_of_written {source : Source} {origin : String} {records : List LineRecord}
    {series : TimedSeries} {ws : List WrittenStamp}
    (hseries : TimedSeries.ofRecords source origin records = .ok series)
    (hwritten : records.map (·.stamp) = ws.map (·.text))
    (hsorted : ws.Pairwise (·.moment ≤ ·.moment)) : series.Sorted := by
  obtain ⟨-, hsamples⟩ := TimedSeries.ofRecords_eq_ok.1 hseries
  have hread : List.Forall₂ (fun stamp (x : TimedSample) => readStamp stamp = .ok x.instant)
      (records.map (·.stamp)) series.samples := by
    rw [List.forall₂_map_left_iff]
    exact hsamples.imp fun _ _ h => h.1
  rw [hwritten, List.forall₂_map_left_iff] at hread
  refine pairwise_of_forall₂ ?_ hread hsorted
  intro w w' x x' h h' hle
  exact WrittenStamp.le_of_moment_le h h' hle

/-- **Timestamps stay in order** when their fractions are cut off.

* Every text that an instant is read of is a timestamp as it is written: its numbers, the
  marks between them, and white space around it.
* The instant has the second of universal time that is written, is in a leap second if that is
  written, and is less than a millisecond before what is written.
* Of two timestamps, with any digits and offsets, what is written not after the other is read
  not after it.
* So a capture that was written in the order of time is in that order when it is read. -/
theorem truncation_keeps_order :
    (∀ text t, readStamp text = .ok t → ∃ w : WrittenStamp, w.text = text) ∧
    (∀ (w : WrittenStamp) t, readStamp w.text = .ok t → Truncates t w.moment) ∧
    (∀ (w w' : WrittenStamp) t t', readStamp w.text = .ok t → readStamp w'.text = .ok t' →
      w.moment ≤ w'.moment → t ≤ t') ∧
    ∀ source origin records series (ws : List WrittenStamp),
      TimedSeries.ofRecords source origin records = .ok series →
      records.map (·.stamp) = ws.map (·.text) → ws.Pairwise (·.moment ≤ ·.moment) →
        series.Sorted := by
  refine ⟨?_, ?_, ?_, ?_⟩
  · intro text t h
    exact WrittenStamp.exists_of_readStamp h
  · intro w t h
    exact (WrittenStamp.truncates_of_readStamp h).1
  · intro w w' t t' h h' hle
    exact WrittenStamp.le_of_moment_le h h' hle
  · intro source origin records series ws hseries hwritten hsorted
    exact sorted_of_written hseries hwritten hsorted

/-- A timestamp in a leap second, with one digit to be filled up. -/
def leapUniversal : WrittenStamp where
  before := []
  year := "2016".toList
  month := "12".toList
  day := "31".toList
  separator := 'T'
  hour := "23".toList
  minute := "59".toList
  second := "60".toList
  fraction := "9".toList
  zone := .universal 'Z' (by decide)
  after := []
  beforeBlank := List.forall_mem_nil _
  yearDigits := ⟨by decide, List.all_eq_true.1 (by decide)⟩
  monthDigits := ⟨by decide, List.all_eq_true.1 (by decide)⟩
  dayDigits := ⟨by decide, List.all_eq_true.1 (by decide)⟩
  separates := by decide
  hourDigits := ⟨by decide, List.all_eq_true.1 (by decide)⟩
  minuteDigits := ⟨by decide, List.all_eq_true.1 (by decide)⟩
  secondDigits := ⟨by decide, List.all_eq_true.1 (by decide)⟩
  fractionText := ⟨by decide, List.all_eq_true.1 (by decide)⟩
  afterBlank := List.forall_mem_nil _

/-- A timestamp in the same leap second by a clock that has come to the next year, with digits
to be cut off. -/
def leapEastern : WrittenStamp :=
  { leapUniversal with
    before := ['\t']
    year := "2017".toList
    month := "01".toList
    day := "01".toList
    separator := ' '
    hour := "01".toList
    fraction := "9000001".toList
    zone := .shifted '+' "02".toList "00".toList (by decide)
      ⟨by decide, List.all_eq_true.1 (by decide)⟩ ⟨by decide, List.all_eq_true.1 (by decide)⟩
    beforeBlank := List.forall_mem_singleton.2 (by decide)
    yearDigits := ⟨by decide, List.all_eq_true.1 (by decide)⟩
    monthDigits := ⟨by decide, List.all_eq_true.1 (by decide)⟩
    dayDigits := ⟨by decide, List.all_eq_true.1 (by decide)⟩
    separates := by decide
    hourDigits := ⟨by decide, List.all_eq_true.1 (by decide)⟩
    fractionText := ⟨by decide, List.all_eq_true.1 (by decide)⟩ }

theorem leapUniversal_le_leapEastern : leapUniversal.moment ≤ leapEastern.moment := by
  have hday : leapUniversal.date.count = 17166 := by
    rw [← Date.dayNumber_eq_count (by decide)]
    decide
  have hday' : leapEastern.date.count = 17167 := by
    rw [← Date.dayNumber_eq_count (by decide)]
    decide
  have hsecond : leapUniversal.moment.second = leapEastern.moment.second := by
    unfold WrittenStamp.moment
    dsimp only
    rw [hday, hday']
    decide
  refine .inr ⟨hsecond, .inr ⟨by decide, ?_⟩⟩
  show ((9 : ℕ) : ℚ) / 10 ^ 1 ≤ ((9000001 : ℕ) : ℚ) / 10 ^ 7
  norm_num

theorem truncation_keeps_order_leap_second :
    ∃ t t' series, readStamp "2016-12-31T23:59:60.9Z" = .ok t ∧
      readStamp "\t2017-01-01 01:59:60.9000001+02:00" = .ok t' ∧
      Truncates t leapUniversal.moment ∧ Truncates t' leapEastern.moment ∧
      leapUniversal.moment ≤ leapEastern.moment ∧ t ≤ t' ∧
      TimedSeries.ofRecords .kernelSocket "f" [⟨1, leapUniversal.text, Keyed.empty⟩,
        ⟨2, leapEastern.text, Keyed.empty⟩] = .ok series ∧ series.Sorted := by
  have htext : leapUniversal.text = "2016-12-31T23:59:60.9Z" := by decide +kernel
  have htext' : leapEastern.text = "\t2017-01-01 01:59:60.9000001+02:00" := by decide +kernel
  obtain ⟨t, ht⟩ := exists_eq_ok (x := readStamp leapUniversal.text) (by decide +kernel)
  obtain ⟨t', ht'⟩ := exists_eq_ok (x := readStamp leapEastern.text) (by decide +kernel)
  obtain ⟨series, hseries⟩ := exists_eq_ok (x := TimedSeries.ofRecords .kernelSocket "f"
    [⟨1, leapUniversal.text, Keyed.empty⟩, ⟨2, leapEastern.text, Keyed.empty⟩]) (by decide +kernel)
  obtain ⟨-, hcut, horder, hcapture⟩ := truncation_keeps_order
  have hle := leapUniversal_le_leapEastern
  refine ⟨t, t', series, htext ▸ ht, htext' ▸ ht', hcut _ _ ht, hcut _ _ ht', hle,
    horder _ _ _ _ ht ht' hle, hseries, ?_⟩
  exact hcapture _ _ _ _ [leapUniversal, leapEastern] hseries rfl (by simpa using hle)

end FlowTriad
