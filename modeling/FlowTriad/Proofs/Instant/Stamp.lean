/-
`Proofs/Instant/Stamp.lean` -- which texts are timestamps, and the form they are brought to.

A timestamp is a head, a point, digits and an offset, with nothing else between the white
space at its ends (`StampText`). Bringing it to three digits changes nothing but the digits,
so what comes out is a timestamp again, is left as it is when it is brought to that form once
more, and denotes the same instant.

The digits matter to the instant but not to whether there is one: three digits are less
than a second in any case, and what can be out of range are the numbers of the head and of
the offset (`refusal?_instant`).
-/
import FlowTriad.Instant.Stamp
import FlowTriad.Proofs.Instant.Moving
import FlowTriad.Proofs.Outcome
import FlowTriad.Proofs.Text

set_option autoImplicit false

namespace FlowTriad

open Text

namespace Stamp

variable {s : Stamp} {text cs digits : List Char}

/-! ## 1. The shape -/

/-- A run of `n` digits. -/
def Digits (n : ℕ) (cs : List Char) : Prop :=
  cs.length = n ∧ ∀ c ∈ cs, isDigit c

/-- A date and a time to the second. -/
def HeadText (cs : List Char) : Prop :=
  ∃ year month day separator hour minute second,
    (Digits 4 year ∧ Digits 2 month ∧ Digits 2 day) ∧ separator ∈ ['T', 't', ' '] ∧
    (Digits 2 hour ∧ Digits 2 minute ∧ Digits 2 second) ∧
    cs = year ++ '-' :: (month ++ '-' :: (day ++ separator ::
      (hour ++ ':' :: (minute ++ ':' :: second))))

/-- An offset from universal time. -/
def OffsetText (cs : List Char) : Prop :=
  cs = ['Z'] ∨ cs = ['z'] ∨ ∃ sign hours minutes, sign ∈ ['+', '-'] ∧
    Digits 2 hours ∧ Digits 2 minutes ∧ cs = sign :: (hours ++ ':' :: minutes)

/-- A fraction has at least one digit, and nothing but digits. -/
def FractionText (cs : List Char) : Prop :=
  cs ≠ [] ∧ ∀ c ∈ cs, isDigit c

/-- That the pieces of a stamp are what they are taken for. -/
structure WellFormed (s : Stamp) : Prop where
  head : HeadText s.head
  fraction : FractionText s.fraction
  offset : OffsetText s.offset

/-! ## 2. The patterns of the shape -/

theorem fits_nil : fits [] cs ↔ cs = [] := by
  cases cs <;> simp [fits]

theorem fits_cons_cons (p c : Char) (pattern cs : List Char) :
    fits (p :: pattern) (c :: cs) = (fits [p] [c] && fits pattern cs) := by
  simp [fits, Bool.and_left_comm]

theorem fits_cons {p : Char} {pattern : List Char} :
    fits (p :: pattern) cs ↔ ∃ c rest, cs = c :: rest ∧ fits [p] [c] ∧ fits pattern rest := by
  cases cs with
  | nil => simp [fits]
  | cons c cs =>
    rw [fits_cons_cons, Bool.and_eq_true]
    constructor
    · rintro ⟨hp, hpattern⟩
      exact ⟨c, cs, rfl, hp, hpattern⟩
    · rintro ⟨c', rest, hcs, h⟩
      cases hcs
      exact h

/-- A mark that stands for itself. -/
theorem fits_mark {p : Char} {pattern : List Char} (hd : p ≠ 'd') (hT : p ≠ 'T') :
    fits (p :: pattern) cs ↔ ∃ rest, cs = p :: rest ∧ fits pattern rest := by
  have hone (c : Char) : fits [p] [c] ↔ p = c := by
    simp [fits, hd, hT]
  rw [fits_cons]
  constructor
  · rintro ⟨c, rest, rfl, hp, hrest⟩
    rw [(hone c).1 hp]
    exact ⟨rest, rfl, hrest⟩
  · rintro ⟨rest, rfl, hrest⟩
    exact ⟨p, rest, rfl, (hone p).2 rfl, hrest⟩

theorem fits_separator {pattern : List Char} :
    fits ('T' :: pattern) cs ↔
      ∃ c rest, c ∈ ['T', 't', ' '] ∧ cs = c :: rest ∧ fits pattern rest := by
  have hone (c : Char) : fits ['T'] [c] ↔ c ∈ ['T', 't', ' '] := by
    simp [fits]
  rw [fits_cons]
  constructor
  · rintro ⟨c, rest, hcs, hc, hrest⟩
    exact ⟨c, rest, (hone c).1 hc, hcs, hrest⟩
  · rintro ⟨c, rest, hc, hcs, hrest⟩
    exact ⟨c, rest, hcs, (hone c).2 hc, hrest⟩

theorem fits_digits (n : ℕ) {pattern : List Char} :
    fits (List.replicate n 'd' ++ pattern) cs ↔
      ∃ digits rest, Digits n digits ∧ cs = digits ++ rest ∧ fits pattern rest := by
  have hone (c : Char) : fits ['d'] [c] ↔ isDigit c := by
    simp [fits]
  induction n generalizing cs with
  | zero =>
    constructor
    · intro h
      exact ⟨[], cs, ⟨rfl, List.forall_mem_nil _⟩, rfl, h⟩
    · rintro ⟨digits, rest, ⟨hlength, -⟩, rfl, h⟩
      rw [List.eq_nil_of_length_eq_zero hlength]
      exact h
  | succ n ih =>
    rw [List.replicate_succ, List.cons_append, fits_cons]
    constructor
    · rintro ⟨c, rest, rfl, hc, hrest⟩
      obtain ⟨digits, rest', ⟨hlength, hdigits⟩, rfl, h⟩ := ih.1 hrest
      refine ⟨c :: digits, rest', ⟨?_, ?_⟩, rfl, h⟩
      · rw [List.length_cons, hlength]
      · exact List.forall_mem_cons.2 ⟨(hone c).1 hc, hdigits⟩
    · rintro ⟨digits, rest, ⟨hlength, hdigits⟩, rfl, h⟩
      obtain ⟨c, digits, rfl⟩ := List.exists_cons_of_length_eq_add_one hlength
      obtain ⟨hc, hdigits⟩ := List.forall_mem_cons.1 hdigits
      exact ⟨c, digits ++ rest, rfl, (hone c).2 hc,
        ih.2 ⟨digits, rest, ⟨Nat.succ.inj hlength, hdigits⟩, rfl, h⟩⟩

theorem isHead_iff : isHead cs ↔ HeadText cs := by
  have hpattern : "dddd-dd-ddTdd:dd:dd".toList = List.replicate 4 'd' ++ '-' ::
      (List.replicate 2 'd' ++ '-' :: (List.replicate 2 'd' ++ 'T' ::
        (List.replicate 2 'd' ++ ':' :: (List.replicate 2 'd' ++ ':' ::
          (List.replicate 2 'd' ++ []))))) := by
    decide
  unfold isHead HeadText
  -- the pattern is worked off from its front, run by run and mark by mark
  rw [hpattern]
  simp only [fits_digits, fits_separator, fits_nil,
    fits_mark (p := '-') (by decide) (by decide), fits_mark (p := ':') (by decide) (by decide)]
  constructor
  · rintro ⟨year, _, hyear, rfl, _, rfl, month, _, hmonth, rfl, _, rfl, day, _, hday, rfl,
      separator, _, hseparator, rfl, hour, _, hhour, rfl, _, rfl, minute, _, hminute, rfl, _, rfl,
      second, _, hsecond, rfl, rfl⟩
    rw [List.append_nil]
    exact ⟨year, month, day, separator, hour, minute, second, ⟨hyear, hmonth, hday⟩, hseparator,
      ⟨hhour, hminute, hsecond⟩, rfl⟩
  · rintro ⟨year, month, day, separator, hour, minute, second, ⟨hyear, hmonth, hday⟩, hseparator,
      ⟨hhour, hminute, hsecond⟩, rfl⟩
    exact ⟨year, _, hyear, rfl, _, rfl, month, _, hmonth, rfl, _, rfl, day, _, hday, rfl,
      separator, _, hseparator, rfl, hour, _, hhour, rfl, _, rfl, minute, _, hminute, rfl, _, rfl,
      second, [], hsecond, (List.append_nil second).symm, rfl⟩

theorem isOffset_iff : isOffset cs ↔ OffsetText cs := by
  have hsigned (sign : Char) (hd : sign ≠ 'd') (hT : sign ≠ 'T') :
      fits (sign :: "dd:dd".toList) cs ↔ ∃ hours minutes, Digits 2 hours ∧ Digits 2 minutes ∧
        cs = sign :: (hours ++ ':' :: minutes) := by
    have hpattern : "dd:dd".toList =
        List.replicate 2 'd' ++ ':' :: (List.replicate 2 'd' ++ []) := by
      decide
    rw [hpattern, fits_mark hd hT]
    simp only [fits_digits, fits_nil, fits_mark (p := ':') (by decide) (by decide)]
    constructor
    · rintro ⟨_, rfl, hours, _, hhours, rfl, _, rfl, minutes, _, hminutes, rfl, rfl⟩
      rw [List.append_nil]
      exact ⟨hours, minutes, hhours, hminutes, rfl⟩
    · rintro ⟨hours, minutes, hhours, hminutes, rfl⟩
      exact ⟨_, rfl, hours, _, hhours, rfl, _, rfl, minutes, [], hminutes,
        (List.append_nil minutes).symm, rfl⟩
  have hplus : "+dd:dd".toList = '+' :: "dd:dd".toList := by decide
  have hminus : "-dd:dd".toList = '-' :: "dd:dd".toList := by decide
  unfold isOffset OffsetText
  rw [hplus, hminus]
  simp only [Bool.or_eq_true, beq_iff_eq, hsigned '+' (by decide) (by decide),
    hsigned '-' (by decide) (by decide), List.mem_cons, List.not_mem_nil, or_false, or_assoc]
  constructor
  · rintro (h | h | ⟨hours, minutes, h⟩ | ⟨hours, minutes, h⟩)
    · exact .inl h
    · exact .inr (.inl h)
    · exact .inr (.inr ⟨'+', hours, minutes, .inl rfl, h⟩)
    · exact .inr (.inr ⟨'-', hours, minutes, .inr rfl, h⟩)
  · rintro (h | h | ⟨_, hours, minutes, rfl | rfl, h⟩)
    · exact .inl h
    · exact .inr (.inl h)
    · exact .inr (.inr (.inl ⟨hours, minutes, h⟩))
    · exact .inr (.inr (.inr ⟨hours, minutes, h⟩))

/-! ## 3. Reading -/

theorem HeadText.length (h : HeadText cs) : cs.length = 19 := by
  obtain ⟨year, month, day, separator, hour, minute, second,
    ⟨⟨hyear, -⟩, ⟨hmonth, -⟩, ⟨hday, -⟩⟩, -, ⟨⟨hhour, -⟩, ⟨hminute, -⟩, ⟨hsecond, -⟩⟩, rfl⟩ := h
  simp only [List.length_append, List.length_cons]
  omega

/-- A head begins with a digit. -/
theorem HeadText.head? (h : HeadText cs) : ∃ c, cs.head? = some c ∧ isBlank c = false := by
  obtain ⟨year, month, day, separator, hour, minute, second, ⟨⟨hyear, hdigits⟩, -⟩, -, -, rfl⟩ := h
  obtain ⟨c, year, rfl⟩ := List.exists_cons_of_length_eq_add_one hyear
  exact ⟨c, rfl, isBlank_of_isDigit (hdigits c List.mem_cons_self)⟩

/-- An offset does not begin with a digit, so that it ends the fraction. -/
theorem OffsetText.head? (h : OffsetText cs) : ∃ c rest, cs = c :: rest ∧ isDigit c = false := by
  obtain rfl | rfl | ⟨sign, hours, minutes, hsign, -, -, rfl⟩ := h
  · exact ⟨'Z', [], rfl, by decide⟩
  · exact ⟨'z', [], rfl, by decide⟩
  · refine ⟨sign, _, rfl, ?_⟩
    rcases List.mem_pair.1 hsign with rfl | rfl <;> decide

theorem OffsetText.getLast? (h : OffsetText cs) :
    ∃ c, cs.getLast? = some c ∧ isBlank c = false := by
  obtain rfl | rfl | ⟨sign, hours, minutes, -, -, ⟨hlength, hdigits⟩, rfl⟩ := h
  · exact ⟨'Z', rfl, by decide⟩
  · exact ⟨'z', rfl, by decide⟩
  · have hne : minutes ≠ [] := List.ne_nil_of_length_eq_add_one hlength
    refine ⟨minutes.getLast hne, ?_, isBlank_of_isDigit (hdigits _ (List.getLast_mem hne))⟩
    rw [← List.cons_append, List.append_cons, List.getLast?_append,
      List.getLast?_eq_some_getLast hne, Option.some_or]

/-- A stamp is what trimming leaves, whatever white space is put around it. -/
theorem WellFormed.trim_surrounded (h : s.WellFormed) {before after : List Char}
    (hbefore : AllBlank before) (hafter : AllBlank after) :
    trim (before ++ s.written ++ after) = s.written := by
  obtain ⟨first, hfirst, hfirstBlank⟩ := h.head.head?
  obtain ⟨last, hlast, hlastBlank⟩ := h.offset.getLast?
  refine Text.trim_surrounded hbefore hafter ?_ hfirstBlank ?_ hlastBlank
  · rw [written, List.append_assoc, List.head?_append, hfirst, Option.some_or]
  · rw [written, List.getLast?_append, hlast, Option.some_or]

theorem WellFormed.trim_written (h : s.WellFormed) : trim s.written = s.written := by
  have hnil : AllBlank [] := List.forall_mem_nil _
  have htrim := h.trim_surrounded hnil hnil
  rwa [List.nil_append, List.append_nil] at htrim

/-- What is read of a text whose head is followed by a point. -/
theorem read_of_point {r : List Char} (hrest : (trim text).drop 19 = '.' :: r) :
    read text =
      if !isHead ((trim text).take 19) ||
          !((r.dropWhile isDigit).isEmpty || isOffset (r.dropWhile isDigit)) then
        .error .notDateTime
      else if (r.takeWhile isDigit).isEmpty then .error .notDateTime
      else if (r.dropWhile isDigit).isEmpty then .error .noOffset
      else .ok ⟨(trim text).take 19, r.takeWhile isDigit, r.dropWhile isDigit⟩ := by
  unfold read
  simp only [hrest]
  rfl

/-- Without a point there is no fraction, and without a fraction no stamp. -/
theorem read_ne_ok_of_no_point (h : ∀ r, (trim text).drop 19 ≠ '.' :: r) :
    read text ≠ .ok s := by
  intro hread
  unfold read at hread
  dsimp only at hread
  split at hread
  next r hrest => exact h r hrest
  next =>
    -- the fraction is empty, whatever comes after the head
    dsimp only at hread
    split at hread
    · cases hread
    · rw [if_pos List.isEmpty_nil] at hread
      split at hread <;> cases hread

theorem read_of_written (hs : s.WellFormed) (h : trim text = s.written) : read text = .ok s := by
  have hparts : trim text = s.head ++ '.' :: (s.fraction ++ s.offset) := by
    rw [h, written, List.append_assoc, List.cons_append]
  obtain ⟨c, rest, hoffset, hc⟩ := hs.offset.head?
  have htake : (s.fraction ++ s.offset).takeWhile isDigit = s.fraction := by
    rw [List.takeWhile_append_of_pos hs.fraction.2, hoffset,
      List.takeWhile_cons_of_neg (by simp [hc]), List.append_nil]
  have hdrop : (s.fraction ++ s.offset).dropWhile isDigit = s.offset := by
    rw [List.dropWhile_append_of_pos hs.fraction.2, hoffset,
      List.dropWhile_cons_of_neg (by simp [hc])]
  have hhead : (trim text).take 19 = s.head := by
    rw [hparts, List.take_left' hs.head.length]
  have hrest : (trim text).drop 19 = '.' :: (s.fraction ++ s.offset) := by
    rw [hparts, List.drop_left' hs.head.length]
  rw [read_of_point hrest, hhead, htake, hdrop, isHead_iff.2 hs.head, isOffset_iff.2 hs.offset,
    Bool.or_true, if_neg (by decide), if_neg (by simpa using hs.fraction.1),
    if_neg (by simp [hoffset])]

theorem wellFormed_of_read (h : read text = .ok s) : s.WellFormed ∧ trim text = s.written := by
  by_cases hpoint : ∃ r, (trim text).drop 19 = '.' :: r
  · obtain ⟨r, hrest⟩ := hpoint
    rw [read_of_point hrest] at h
    -- the tests of the reader, all of which a text that is read has passed
    split at h
    · cases h
    next hshape =>
    split at h
    · cases h
    next hfraction =>
    split at h
    · cases h
    next hoffset =>
    cases h
    rw [Bool.not_eq_true, Bool.or_eq_false_iff, Bool.not_eq_false', Bool.not_eq_false',
      Bool.or_eq_true] at hshape
    refine ⟨⟨isHead_iff.1 hshape.1, ⟨?_, ?_⟩, isOffset_iff.1 (hshape.2.resolve_left hoffset)⟩, ?_⟩
    · exact fun hnil => hfraction (List.isEmpty_iff.2 hnil)
    · exact fun c hc => List.mem_takeWhile_imp hc
    · show trim text = (trim text).take 19 ++ '.' :: r.takeWhile isDigit ++ r.dropWhile isDigit
      rw [List.append_assoc, List.cons_append, List.takeWhile_append_dropWhile, ← hrest,
        List.take_append_drop]
  · exact absurd h (read_ne_ok_of_no_point (not_exists.1 hpoint))

/-- **Which texts are read**: those that are a stamp, white space at their ends aside. -/
theorem read_eq_ok : read text = .ok s ↔ s.WellFormed ∧ trim text = s.written :=
  ⟨wellFormed_of_read, fun ⟨hs, h⟩ => read_of_written hs h⟩

/-! ## 4. Three digits -/

theorem length_normalize : s.normalize.fraction.length = 3 := by
  show (s.fraction.take 3 ++ List.replicate (3 - s.fraction.length) '0').length = 3
  rw [List.length_append, List.length_take, List.length_replicate]
  omega

/-- The digits that are kept, filled up with zeros. -/
theorem fraction_normalize : s.normalize.fraction = (s.fraction.take 3).rightpad 3 '0' := by
  show s.fraction.take 3 ++ List.replicate (3 - s.fraction.length) '0' = _
  have hmissing : 3 - s.fraction.length = 3 - (s.fraction.take 3).length := by
    rw [List.length_take]
    omega
  rw [hmissing]
  rfl

/-- A stamp in its form of three digits is one still, -/
theorem WellFormed.normalize (h : s.WellFormed) : s.normalize.WellFormed := by
  refine ⟨h.head, ⟨?_, ?_⟩, h.offset⟩
  · exact List.ne_nil_of_length_eq_add_one length_normalize
  · intro c hc
    obtain hc | hc := List.mem_append.1 hc
    · exact h.fraction.2 c (List.mem_of_mem_take hc)
    · rw [List.eq_of_mem_replicate hc]
      decide

/-- and has that form already. -/
theorem normalize_normalize : s.normalize.normalize = s.normalize := by
  have hfraction : s.normalize.normalize.fraction = s.normalize.fraction := by
    rw [fraction_normalize, List.take_of_length_le length_normalize.le]
    show s.normalize.fraction ++ List.replicate (3 - s.normalize.fraction.length) '0' = _
    rw [length_normalize]
    exact List.append_nil _
  exact congrArg (fun digits => (⟨s.head, digits, s.offset⟩ : Stamp)) hfraction

/-! ## 5. The instant -/

/-- Three digits are less than a second. -/
theorem nanos_lt (h : s.WellFormed) :
    decimalValue s.normalize.fraction * 1000000 < nanosPerSecond := by
  have hlt := decimalValue_lt h.normalize.fraction.2
  rw [length_normalize] at hlt
  simp only [nanosPerSecond]
  omega

/-- Within a second, how many nanoseconds there are does not decide whether there is an
instant, in a leap second or out of one. -/
theorem isSome_ofParts?_of_lt {seconds : ℤ} {nanos nanos' : ℕ} (leap : Prop) [Decidable leap]
    (h : nanos < nanosPerSecond) (h' : nanos' < nanosPerSecond) :
    (Instant.ofParts? seconds (if leap then nanosPerSecond + nanos else nanos)).isSome =
      (Instant.ofParts? seconds (if leap then nanosPerSecond + nanos' else nanos')).isSome := by
  rw [Bool.eq_iff_iff, Instant.isSome_ofParts?, Instant.isSome_ofParts?]
  unfold Instant.Valid
  split <;> omega

/-- What is found or not found is refused or not. -/
theorem refusal?_found {x y : Option Instant} (h : x.isSome = y.isSome) :
    refusal? (match x with
      | some t => .ok t
      | none => .error StampFault.outOfRange) =
    refusal? (match y with
      | some t => .ok t
      | none => .error StampFault.outOfRange) := by
  cases x with
  | none =>
    cases y with
    | none => rfl
    | some u => cases h
  | some t =>
    cases y with
    | none => cases h
    | some u => rfl

/-- **The digits do not decide** whether a stamp denotes an instant, nor why it does not. -/
theorem refusal?_instant {s' : Stamp} (hs : s.WellFormed) (hs' : s'.WellFormed)
    (hhead : s'.head = s.head) (hoffset : s'.offset = s.offset) :
    refusal? s'.normalize.instant = refusal? s.normalize.instant := by
  unfold instant
  have hhead : s'.normalize.head = s.normalize.head := hhead
  have hoffset : s'.normalize.offset = s.normalize.offset := hoffset
  have hlt := nanos_lt hs
  have hlt' := nanos_lt hs'
  rw [hhead, hoffset]
  cases offsetSeconds? s.normalize.offset with
  | none => rfl
  | some offset =>
    -- what is left to differ is how many nanoseconds there are
    dsimp only
    split
    · exact refusal?_found (isSome_ofParts?_of_lt _ hlt' hlt)
    · rfl

end Stamp

/-! ## 6. Texts -/

/-- A text that is a stamp between white space. -/
structure StampText where
  before : List Char
  stamp : Stamp
  after : List Char
  beforeBlank : AllBlank before
  wellFormed : stamp.WellFormed
  afterBlank : AllBlank after

namespace StampText

variable {t : StampText}

/-- The text. -/
def text (t : StampText) : String :=
  String.ofList (t.before ++ t.stamp.written ++ t.after)

/-- The stamp with the first three digits of its fraction, filled up with zeros if there are
fewer. -/
def normal (t : StampText) : String :=
  String.ofList
    (t.stamp.head ++ '.' :: (t.stamp.fraction.take 3).rightpad 3 '0' ++ t.stamp.offset)

/-- The text with other digits in place of its fraction. -/
def withFraction (t : StampText) (digits : List Char) (h : Stamp.FractionText digits) :
    StampText :=
  { t with
    stamp := { t.stamp with fraction := digits }
    wellFormed := ⟨t.wellFormed.head, h, t.wellFormed.offset⟩ }

theorem normal_eq : t.normal = String.ofList t.stamp.normalize.written := by
  unfold normal Stamp.written
  rw [Stamp.fraction_normalize]
  rfl

theorem read_text (t : StampText) : Stamp.read t.text.toList = .ok t.stamp := by
  rw [text, String.toList_ofList, Stamp.read_eq_ok]
  exact ⟨t.wellFormed, t.wellFormed.trim_surrounded t.beforeBlank t.afterBlank⟩

theorem read_normal (t : StampText) : Stamp.read t.normal.toList = .ok t.stamp.normalize := by
  rw [normal_eq, String.toList_ofList, Stamp.read_eq_ok]
  exact ⟨t.wellFormed.normalize, t.wellFormed.normalize.trim_written⟩

/-- Every text that is read is a stamp between white space. -/
theorem exists_of_read {text : String} {s : Stamp} (h : Stamp.read text.toList = .ok s) :
    ∃ t : StampText, t.text = text := by
  obtain ⟨hs, htrim⟩ := Stamp.read_eq_ok.1 h
  obtain ⟨before, after, hbefore, hafter, htext⟩ := exists_eq_surrounded text.toList
  refine ⟨⟨before, s, after, hbefore, hs, hafter⟩, ?_⟩
  rw [StampText.text, ← htrim, ← htext, String.ofList_toList]

theorem normalizeFraction_text (t : StampText) : normalizeFraction t.text = .ok t.normal := by
  unfold normalizeFraction
  rw [read_text, normal_eq]
  rfl

theorem normalizeFraction_normal (t : StampText) : normalizeFraction t.normal = .ok t.normal := by
  unfold normalizeFraction
  rw [read_normal, normal_eq]
  show Except.ok (String.ofList t.stamp.normalize.normalize.written) = _
  rw [Stamp.normalize_normalize]

theorem readStamp_text (t : StampText) : readStamp t.text = t.stamp.normalize.instant := by
  unfold readStamp
  rw [read_text]
  rfl

theorem readStamp_normal (t : StampText) : readStamp t.normal = readStamp t.text := by
  rw [readStamp_text]
  unfold readStamp
  rw [read_normal]
  show t.stamp.normalize.normalize.instant = _
  rw [Stamp.normalize_normalize]

end StampText

/-- **The form of three digits.** A text can be brought to it just when it is a stamp between
white space, and then only the number of digits changes.

* What comes out is left as it is when it is brought to that form once more, and denotes
  the same instant, or is refused for the same reason.
* Other digits do not change whether a text denotes an instant, nor why it does not. -/
theorem stamp_normal_form :
    (∀ text : String, (∃ out, normalizeFraction text = .ok out) ↔
      ∃ t : StampText, t.text = text) ∧
    ∀ t : StampText, normalizeFraction t.text = .ok t.normal ∧
      normalizeFraction t.normal = .ok t.normal ∧ readStamp t.normal = readStamp t.text ∧
      ∀ (digits : List Char) (h : Stamp.FractionText digits),
        refusal? (readStamp (t.withFraction digits h).text) = refusal? (readStamp t.text) := by
  refine ⟨fun text => ⟨?_, ?_⟩, fun t => ⟨t.normalizeFraction_text, t.normalizeFraction_normal,
    t.readStamp_normal, fun digits h => ?_⟩⟩
  · rintro ⟨out, hout⟩
    obtain ⟨s, hs, -⟩ := map_eq_ok.1 hout
    exact StampText.exists_of_read hs
  · rintro ⟨t, rfl⟩
    exact ⟨_, t.normalizeFraction_text⟩
  · rw [StampText.readStamp_text, StampText.readStamp_text]
    exact Stamp.refusal?_instant t.wellFormed (t.withFraction digits h).wellFormed rfl rfl

/-- A stamp in a leap second. -/
def leapSecond : StampText where
  before := [' ']
  stamp := ⟨"2016-12-31t23:59:60".toList, ['7'], ['z']⟩
  after := ['\n']
  beforeBlank := List.forall_mem_singleton.2 (by decide)
  wellFormed :=
    ⟨Stamp.isHead_iff.1 (by decide), ⟨by decide, List.forall_mem_singleton.2 (by decide)⟩,
      .inr (.inl rfl)⟩
  afterBlank := List.forall_mem_singleton.2 (by decide)

/-- One digit of a leap second is filled up, and can be replaced by six. -/
theorem stamp_normal_form_leap_second :
    normalizeFraction " 2016-12-31t23:59:60.7z\n" = .ok "2016-12-31t23:59:60.700z" ∧
    readStamp "2016-12-31t23:59:60.700z" = readStamp " 2016-12-31t23:59:60.7z\n" ∧
    Stamp.FractionText "769470".toList ∧
    refusal? (readStamp " 2016-12-31t23:59:60.769470z\n") =
      refusal? (readStamp " 2016-12-31t23:59:60.7z\n") := by
  have hdigits : Stamp.FractionText "769470".toList :=
    ⟨by decide, List.all_eq_true.1 (by decide)⟩
  have htext : leapSecond.text = " 2016-12-31t23:59:60.7z\n" := by decide +kernel
  have hnormal : leapSecond.normal = "2016-12-31t23:59:60.700z" := by decide +kernel
  have hother : (leapSecond.withFraction _ hdigits).text = " 2016-12-31t23:59:60.769470z\n" := by
    unfold StampText.text StampText.withFraction
    dsimp only
    decide +kernel
  obtain ⟨hout, -, hsame, hfraction⟩ := stamp_normal_form.2 leapSecond
  have hreplaced := hfraction _ hdigits
  rw [htext, hnormal] at hout
  rw [htext, hnormal] at hsame
  rw [htext, hother] at hreplaced
  exact ⟨hout, hsame, hdigits, hreplaced⟩

end FlowTriad
