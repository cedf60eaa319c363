/-
`Proofs/Text/Casing.lean` -- lower case does not depend on the case of ASCII letters.

Names are compared by folding the letters `A` to `Z` and nothing else. They are converted by
the full Unicode mapping, which does not go character by character: a capital sigma becomes
one of two small ones, by the letters around it, and those may well be the letters `A` to `Z`.

The two agree even so, because all that the mapping asks of a character has the same answer
for an ASCII capital and its small letter: what it becomes, whether it is a sigma, whether it
has case, and whether the search for a letter passes over it. There are only twenty-six of
them, so each question is settled by asking it (`apply_foldAscii`). A text can then be folded
before it is converted (`lower_map_foldAscii`), and spellings of one name have one lower case.
-/
import FlowTriad.Text.Casing
import Mathlib.Data.List.Basic

set_option autoImplicit false

namespace FlowTriad.Text

open Casing

variable {c : Char}

/-! ## 1. One character -/

/-- The `n`-th ASCII capital. -/
def capital (n : Fin 26) : Char :=
  Char.ofNat (65 + n)

theorem exists_eq_capital (h : 'A' ≤ c ∧ c ≤ 'Z') : ∃ n, c = capital n := by
  have hlower : 65 ≤ c.toNat := h.1
  have hupper : c.toNat ≤ 90 := h.2
  refine ⟨⟨c.toNat - 65, by omega⟩, ?_⟩
  show c = Char.ofNat (65 + (c.toNat - 65))
  rw [Nat.add_sub_cancel' hlower, Char.ofNat_toNat]

/-- **What is the same for ASCII capitals and their small letters** is the same for any
character and what it is folded to. -/
theorem apply_foldAscii {α : Type} (f : Char → α)
    (h : ∀ n, f (foldAscii (capital n)) = f (capital n)) (c : Char) : f (foldAscii c) = f c := by
  by_cases hc : 'A' ≤ c ∧ c ≤ 'Z'
  · obtain ⟨n, rfl⟩ := exists_eq_capital hc
    exact h n
  · unfold foldAscii
    rw [if_neg hc]

theorem image_foldAscii (c : Char) :
    image lowerRuns lowerWords (foldAscii c) = image lowerRuns lowerWords c :=
  apply_foldAscii _ (by decide +kernel) c

theorem isSigma_foldAscii (c : Char) : (foldAscii c == 'Σ') = (c == 'Σ') :=
  apply_foldAscii (· == 'Σ') (by decide +kernel) c

theorem within_cased_foldAscii (c : Char) :
    within casedRanges (foldAscii c) = within casedRanges c :=
  apply_foldAscii _ (by decide +kernel) c

theorem within_ignorable_foldAscii (c : Char) :
    within ignorableRanges (foldAscii c) = within ignorableRanges c :=
  apply_foldAscii _ (by decide +kernel) c

/-! ## 2. Texts -/

/-- Folding does not hide a letter with case, and puts none in its place. -/
theorem meetsCased_map_foldAscii (cs : List Char) :
    meetsCased (cs.map foldAscii) = meetsCased cs := by
  have hpassed : within ignorableRanges ∘ foldAscii = within ignorableRanges :=
    funext within_ignorable_foldAscii
  unfold meetsCased
  rw [List.dropWhile_map, hpassed]
  cases cs.dropWhile (within ignorableRanges) with
  | nil => rfl
  | cons c r => exact within_cased_foldAscii c

theorem lowerAfter_cons_of_ne (hc : c ≠ 'Σ') (before r : List Char) :
    lowerAfter before (c :: r) = image lowerRuns lowerWords c ++ lowerAfter (c :: before) r :=
  lowerAfter.eq_3 before c r hc

/-- A sigma is told by what is around it, and folding leaves that as it is. The induction
carries the folded text behind along with the one ahead. -/
theorem lowerAfter_map_foldAscii (before cs : List Char) :
    lowerAfter (before.map foldAscii) (cs.map foldAscii) = lowerAfter before cs := by
  induction cs generalizing before with
  | nil => rfl
  | cons c r ih =>
    have hih := ih (c :: before)
    by_cases hc : c = 'Σ'
    · subst hc
      rw [List.map_cons] at hih ⊢
      show (if meetsCased (before.map foldAscii) && !meetsCased (r.map foldAscii) then 'ς' else 'σ')
        :: lowerAfter (foldAscii 'Σ' :: before.map foldAscii) (r.map foldAscii) = _
      rw [meetsCased_map_foldAscii, meetsCased_map_foldAscii, hih]
      rfl
    · have hfolded : foldAscii c ≠ 'Σ' := by
        have hsame := isSigma_foldAscii c
        simpa [hc] using hsame
      rw [List.map_cons, lowerAfter_cons_of_ne hfolded, lowerAfter_cons_of_ne hc, image_foldAscii]
      exact congrArg _ hih

/-- **Folding before converting** changes nothing. -/
theorem lower_map_foldAscii (cs : List Char) : lower (cs.map foldAscii) = lower cs :=
  lowerAfter_map_foldAscii [] cs

end FlowTriad.Text
