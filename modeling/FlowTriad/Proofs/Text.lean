/-
`Proofs/Text.lean` -- trimmed texts, lines, and runs of digits.

* **White space.** A text is what trimming leaves of it, between white space
  (`exists_eq_surrounded`); and what neither begins nor ends with white space is left,
  whatever white space is put around it (`trim_surrounded`). Digits are no white space,
  which is all that the shapes of timestamps and numbers need to know of it.
* **Lines.** `Text.lines` takes a text apart; `Text.ofLines` puts one together, with every
  line ended. Together they say that any list of lines without line feeds is the list of
  lines of some text, so a text with some of its lines changed can be spoken of.
* **Digits.** A run of digits is a number of as many places, and zeros in front add nothing
  to it. The other way round, the digits of a number are a run whose number it is
  (`decimalValue_toDigits`).
-/
import FlowTriad.Text
import Mathlib.Algebra.Ring.Nat
import Mathlib.Data.List.Induction
import Mathlib.Data.List.TakeWhile
import Mathlib.Tactic.Ring

set_option autoImplicit false

namespace FlowTriad.Text

/-! ## 1. White space -/

/-- Whether a text is nothing but white space. -/
def AllBlank (cs : List Char) : Prop :=
  ∀ c ∈ cs, isBlank c

theorem isDigit_iff {c : Char} : isDigit c ↔ 48 ≤ c.toNat ∧ c.toNat ≤ 57 := by
  unfold isDigit
  rw [Bool.and_eq_true, decide_eq_true_eq, decide_eq_true_eq, Char.le_def, Char.le_def,
    UInt32.le_iff_toNat_le, UInt32.le_iff_toNat_le]
  rfl

/-- A digit is no white space. -/
theorem isBlank_of_isDigit {c : Char} (h : isDigit c) : isBlank c = false := by
  obtain ⟨hle, hge⟩ := isDigit_iff.1 h
  rw [← Bool.not_eq_true]
  simp only [isBlank, blankRanges, List.any_cons, List.any_nil, Bool.or_eq_true, Bool.and_eq_true,
    decide_eq_true_eq, Bool.false_eq_true, or_false]
  omega

theorem dropWhile_append_of_allBlank {before : List Char} (h : AllBlank before)
    (cs : List Char) : (before ++ cs).dropWhile isBlank = cs.dropWhile isBlank :=
  List.dropWhile_append_of_pos h

theorem dropWhile_of_head {cs : List Char} {c : Char} (hc : cs.head? = some c)
    (h : isBlank c = false) : cs.dropWhile isBlank = cs := by
  cases cs with
  | nil => rfl
  | cons d cs =>
    cases hc
    exact List.dropWhile_cons_of_neg (by rw [h]; exact Bool.false_ne_true)

/-- **Trimming leaves** a text that neither begins nor ends with white space. -/
theorem trim_surrounded {before cs after : List Char} {first last : Char}
    (hbefore : AllBlank before) (hafter : AllBlank after)
    (hfirst : cs.head? = some first) (hfirstBlank : isBlank first = false)
    (hlast : cs.getLast? = some last) (hlastBlank : isBlank last = false) :
    trim (before ++ cs ++ after) = cs := by
  have hstart : trimStart (before ++ cs ++ after) = cs ++ after := by
    unfold trimStart
    rw [List.append_assoc, dropWhile_append_of_allBlank hbefore]
    refine dropWhile_of_head ?_ hfirstBlank
    rw [List.head?_append, hfirst, Option.some_or]
  have hend : ((cs ++ after).reverse.dropWhile isBlank).reverse = cs := by
    have hreverse : AllBlank after.reverse := fun c hc => hafter c (List.mem_reverse.1 hc)
    rw [List.reverse_append, dropWhile_append_of_allBlank hreverse,
      dropWhile_of_head (List.head?_reverse.trans hlast) hlastBlank, List.reverse_reverse]
  unfold trim trimEnd
  rw [hstart, hend]

/-- **Trimming takes away** white space only, and only at the ends. -/
theorem exists_eq_surrounded (cs : List Char) :
    ∃ before after, AllBlank before ∧ AllBlank after ∧ cs = before ++ trim cs ++ after := by
  refine ⟨cs.takeWhile isBlank, ((trimStart cs).reverse.takeWhile isBlank).reverse, ?_, ?_, ?_⟩
  · intro c hc
    exact List.mem_takeWhile_imp hc
  · intro c hc
    exact List.mem_takeWhile_imp (List.mem_reverse.1 hc)
  · have hend : trim cs ++ ((trimStart cs).reverse.takeWhile isBlank).reverse = trimStart cs := by
      unfold trim trimEnd
      rw [← List.reverse_append, List.takeWhile_append_dropWhile, List.reverse_reverse]
    rw [List.append_assoc, hend]
    exact List.takeWhile_append_dropWhile.symm

/-! ## 2. Lines -/

/-- A text of the given lines. The carriage return before each line feed keeps one at
the end of a line from being taken for a part of the line's end. -/
def ofLines (ls : List (List Char)) : List Char :=
  ls.flatMap (· ++ ['\r', '\n'])

/-- A character that ends no line belongs to the first line of the text. -/
theorem lines_cons_of_ne {c : Char} {r : List Char} (hc : c ≠ '\n')
    (hr : ∀ r', c = '\r' → r ≠ '\n' :: r') :
    lines (c :: r) = match lines r with
      | [] => [[c]]
      | l :: ls => (c :: l) :: ls :=
  lines.eq_4 c r hc hr

/-- Lines hold no line feed. -/
theorem not_mem_of_mem_lines {cs l : List Char} (h : l ∈ lines cs) : '\n' ∉ l := by
  induction cs using lines.induct generalizing l with
  | case1 => simp [lines] at h
  | case2 r ih | case3 r ih =>
    rw [lines, List.mem_cons] at h
    rcases h with rfl | h
    · exact List.not_mem_nil
    · exact ih h
  | case4 c r hc hcr hr ih =>
    rw [lines_cons_of_ne hc hcr, hr, List.mem_singleton] at h
    subst h
    simpa using Ne.symm hc
  | case5 c r hc hcr l' ls hr ih =>
    rw [lines_cons_of_ne hc hcr, hr, List.mem_cons] at h
    rw [hr] at ih
    rcases h with rfl | h
    · intro hm
      rcases List.mem_cons.1 hm with h | h
      · exact hc h.symm
      · exact ih List.mem_cons_self h
    · exact ih (List.mem_cons_of_mem _ h)

/-- A line that is ended comes first among the lines of the text. -/
theorem lines_append_end {l : List Char} (h : '\n' ∉ l) (r : List Char) :
    lines (l ++ ['\r', '\n'] ++ r) = l :: lines r := by
  induction l with
  | nil => rfl
  | cons c l ih =>
    obtain ⟨hc, hl⟩ := not_or.1 (mt List.mem_cons.2 h)
    have hr : ∀ r', c = '\r' → l ++ ['\r', '\n'] ++ r ≠ '\n' :: r' := by
      intro r' _ heq
      cases l with
      | nil => cases heq
      | cons d l =>
        have hd : d = '\n' := (List.cons.inj heq).1
        exact hl (hd ▸ List.mem_cons_self)
    have hcons := lines_cons_of_ne (Ne.symm hc) hr
    rw [ih hl] at hcons
    exact hcons

/-- Lines without line feeds are the lines of the text they are put together to. -/
theorem lines_ofLines {ls : List (List Char)} (h : ∀ l ∈ ls, '\n' ∉ l) :
    lines (ofLines ls) = ls := by
  induction ls with
  | nil => rfl
  | cons l ls ih =>
    rw [ofLines, List.flatMap_cons, lines_append_end (h l List.mem_cons_self)]
    rw [← ofLines, ih fun l' hl' => h l' (List.mem_cons_of_mem _ hl')]

/-! ## 3. Runs of digits -/

variable {cs ds : List Char} {c : Char} {k : ℕ}

/-- At least one digit, and nothing but digits. -/
def DigitRun (cs : List Char) : Prop :=
  cs ≠ [] ∧ ∀ c ∈ cs, isDigit c

/-! ### The number of a run -/

theorem digitValue_lt (h : isDigit c) : digitValue c < 10 := by
  have hc := (isDigit_iff.1 h).2
  show c.toNat - 48 < 10
  omega

/-- A run of digits is a number of more places before the digits that follow it. -/
theorem decimalValue_append (cs ds : List Char) :
    decimalValue (cs ++ ds) = decimalValue cs * 10 ^ ds.length + decimalValue ds := by
  induction ds using List.reverseRecOn with
  | nil => simp [decimalValue]
  | append_singleton ds d ih =>
    have hone (es : List Char) : decimalValue (es ++ [d]) = 10 * decimalValue es + digitValue d := by
      unfold decimalValue
      rw [List.foldl_append, List.foldl_cons, List.foldl_nil]
    rw [← List.append_assoc, hone, hone, ih, List.length_append, List.length_singleton, pow_succ]
    ring

/-- A number of `n` digits is less than the `n`th power of ten. -/
theorem decimalValue_lt (h : ∀ c ∈ cs, isDigit c) : decimalValue cs < 10 ^ cs.length := by
  induction cs using List.reverseRecOn with
  | nil => decide
  | append_singleton cs c ih =>
    have hcs := ih fun d hd => h d (List.mem_append_left _ hd)
    have hc := digitValue_lt (h c (by simp))
    have hvalue : decimalValue [c] = digitValue c := by simp [decimalValue]
    rw [decimalValue_append, hvalue, List.length_append, List.length_singleton, pow_succ]
    omega

theorem decimalValue_zeros (n : ℕ) : decimalValue (List.replicate n '0') = 0 := by
  induction n with
  | zero => rfl
  | succ n ih =>
    rw [List.replicate_succ', decimalValue_append, ih, zero_mul]
    decide

theorem forall_isDigit_zeros (n : ℕ) : ∀ c ∈ List.replicate n '0', isDigit c := by
  intro c hc
  rw [List.eq_of_mem_replicate hc]
  rfl

/-! ### Parts of a run -/

theorem DigitRun.append (h : DigitRun cs) (hds : ∀ c ∈ ds, isDigit c) : DigitRun (cs ++ ds) :=
  ⟨List.append_ne_nil_of_left_ne_nil h.1 ds, List.forall_mem_append.2 ⟨h.2, hds⟩⟩

theorem DigitRun.append_left (h : DigitRun cs) (hds : ∀ c ∈ ds, isDigit c) : DigitRun (ds ++ cs) :=
  ⟨List.append_ne_nil_of_right_ne_nil ds h.1, List.forall_mem_append.2 ⟨hds, h.2⟩⟩

theorem DigitRun.take (h : DigitRun cs) (hk : 0 < k) : DigitRun (cs.take k) :=
  ⟨mt List.take_eq_nil_iff.1 (not_or.2 ⟨hk.ne', h.1⟩), fun c hc => h.2 c (List.mem_of_mem_take hc)⟩

theorem DigitRun.drop (h : DigitRun cs) (hk : k < cs.length) : DigitRun (cs.drop k) :=
  ⟨mt List.drop_eq_nil_iff.1 hk.not_ge, fun c hc => h.2 c (List.mem_of_mem_drop hc)⟩

/-! ### The digits of a number -/

theorem digitRun_toDigits (n : ℕ) : DigitRun (Nat.toDigits 10 n) := by
  refine ⟨Nat.toDigits_ne_nil, fun c hc => ?_⟩
  have hdigit := Nat.isDigit_of_mem_toDigits (by decide) (by decide) hc
  rw [Char.isDigit, Bool.and_eq_true, decide_eq_true_eq, decide_eq_true_eq] at hdigit
  exact isDigit_iff.2 hdigit

/-- **The digits of a number** are a run whose number it is. -/
theorem decimalValue_toDigits (n : ℕ) : decimalValue (Nat.toDigits 10 n) = n := by
  have hvalue := Nat.ofDigitChars_ten_toDigits (n := n)
  rwa [Nat.ofDigitChars_eq_foldl] at hvalue

theorem length_toString (n : ℕ) : (toString n).length = (Nat.toDigits 10 n).length := by
  rw [Nat.toString_eq_repr, ← String.length_toList, Nat.toList_repr]

end FlowTriad.Text
