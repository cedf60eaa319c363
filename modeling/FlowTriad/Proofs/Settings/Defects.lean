/-
`Proofs/Settings/Defects.lean` -- which settings are accepted, and what others are refused for.

Settings are looked through once, from the keys to the last variable, and the first thing
that is wrong is reported. What it is to be wrong is said here without the looking through:
settings hold together when nothing is (`WellFormed`), and of all that is wrong the first is
a key, or else that there are no variables, or else what is wrong with the variable at the
least position (`FirstDefect`).

Names are compared with those of the variables before, so what is wrong with a variable is
said of it and of those before it (`Defective`). The search carries these names along, and
that they are the names of those before is the invariant of the induction
(`variableDefect?_eq_some`). A divisor is judged by its value: neither infinities nor what is
no number has one, and both zeros have the same.
-/
import FlowTriad.Proofs.Double.Finite
import FlowTriad.Proofs.Double.Operations
import FlowTriad.Proofs.Items
import FlowTriad.Proofs.Settings

set_option autoImplicit false

namespace FlowTriad.Settings

open Double

variable {s : Settings} {v : Variable} {before vs : List Variable} {seen : List String}
  {d d' : SettingsDefect} {f : Fault} {x : Float}

/-! ## 1. Divisors -/

/-- That a double has a value greater than zero. -/
def Positive (x : Float) : Prop :=
  ∃ q, HasValue x q ∧ 0 < q

/-- **Good divisors** are the positive numbers. -/
theorem goodScale_iff : goodScale x ↔ Positive x := by
  unfold goodScale Positive
  rw [Bool.and_eq_true, isFinite_iff, decide_eq_true_eq]
  constructor
  · rintro ⟨⟨q, hq⟩, hpos⟩
    exact ⟨q, hq, (hasValue_zero.lt_iff hq).1 hpos⟩
  · rintro ⟨q, hq, hpos⟩
    exact ⟨⟨q, hq⟩, (hasValue_zero.lt_iff hq).2 hpos⟩

/-- What is no number, an infinity and both zeros are none. -/
example : [0.0 / 0.0, 1.0 / 0.0, 0.0, -0.0, 0.5].map goodScale =
    [false, false, false, false, true] := by
  decide

/-! ## 2. What is wrong with a variable -/

/-- What is wrong with a variable, seen from those before it. A missing name counts before a
repeated one, and that before a bad divisor. -/
inductive Defective (before : List Variable) (v : Variable) : SettingsDefect → Prop
  | emptyName (hname : v.name = "") : Defective before v .emptyName
  | repeated (hname : v.name ≠ "") (hseen : ∃ u ∈ before, u.name = v.name) :
      Defective before v (.repeated v.name)
  | badScale (hname : v.name ≠ "") (hnew : ∀ u ∈ before, u.name ≠ v.name)
      (hscale : ¬ Positive v.scale) : Defective before v (.badScale v.name v.scale)

/-- At most one thing is. -/
theorem Defective.unique (h : Defective before v d) (h' : Defective before v d') : d = d' := by
  cases h with
  | emptyName hname =>
    cases h' with
    | emptyName => rfl
    | repeated hname' => exact absurd hname hname'
    | badScale hname' => exact absurd hname hname'
  | repeated hname hseen =>
    cases h' with
    | emptyName hname' => exact absurd hname' hname
    | repeated => rfl
    | badScale _ hnew =>
      obtain ⟨u, hu, hsame⟩ := hseen
      exact absurd hsame (hnew u hu)
  | badScale hname hnew _ =>
    cases h' with
    | emptyName hname' => exact absurd hname' hname
    | repeated _ hseen =>
      obtain ⟨u, hu, hsame⟩ := hseen
      exact absurd hsame (hnew u hu)
    | badScale => rfl

/-- The search stops at a variable with the one thing that is wrong with it, and goes on
from any other with its name among those that came before. -/
theorem variableDefect?_cons (hseen : ∀ name, name ∈ seen ↔ ∃ u ∈ before, u.name = name) :
    (∃ d, Defective before v d ∧ variableDefect? seen (v :: vs) = some d) ∨
      (∀ d, ¬ Defective before v d) ∧
        variableDefect? seen (v :: vs) = variableDefect? (v.name :: seen) vs := by
  rw [variableDefect?]
  by_cases hname : v.name = ""
  · left
    refine ⟨_, .emptyName hname, ?_⟩
    rw [if_pos (String.isEmpty_iff.2 hname)]
  · rw [if_neg (String.isEmpty_iff.not.2 hname)]
    by_cases hold : v.name ∈ seen
    · left
      refine ⟨_, .repeated hname ((hseen _).1 hold), ?_⟩
      rw [if_pos hold]
    · rw [if_neg hold]
      have hnew : ∀ u ∈ before, u.name ≠ v.name := by
        intro u hu hsame
        exact hold ((hseen _).2 ⟨u, hu, hsame⟩)
      by_cases hscale : Positive v.scale
      · right
        have hgood : goodScale v.scale := goodScale_iff.2 hscale
        rw [if_neg (by simp [hgood])]
        refine ⟨?_, rfl⟩
        intro d hd
        cases hd with
        | emptyName hname' => exact hname hname'
        | repeated _ hseen' =>
          obtain ⟨u, hu, hsame⟩ := hseen'
          exact hnew u hu hsame
        | badScale _ _ hscale' => exact hscale' hscale
      · left
        have hbad : goodScale v.scale = false := by
          rw [← Bool.not_eq_true, goodScale_iff]
          exact hscale
        refine ⟨_, .badScale hname hnew hscale, ?_⟩
        rw [if_pos (by simp [hbad])]

/-! ## 3. The first of all variables -/

/-- That a defect is the first of some variables: nothing is wrong at any position before
that of the variable that has it. -/
def FirstAmong (before vs : List Variable) (d : SettingsDefect) : Prop :=
  ∃ i v, vs[i]? = some v ∧ Defective (before ++ vs.take i) v d ∧
    ∀ j < i, ∀ u, vs[j]? = some u → ∀ d', ¬ Defective (before ++ vs.take j) u d'

theorem firstAmong_cons_of_defective (h : Defective before v d) :
    FirstAmong before (v :: vs) d' ↔ d = d' := by
  rw [← List.append_nil before] at h
  constructor
  · rintro ⟨i, u, hu, hd', hfirst⟩
    cases i with
    | zero =>
      obtain rfl : v = u := by simpa using hu
      exact h.unique hd'
    | succ i => exact absurd h (hfirst 0 i.succ_pos v rfl d)
  · rintro rfl
    exact ⟨0, v, rfl, h, fun j hj => absurd hj (Nat.not_lt_zero j)⟩

theorem firstAmong_cons_of_sound (h : ∀ d, ¬ Defective before v d) :
    FirstAmong before (v :: vs) d ↔ FirstAmong (before ++ [v]) vs d := by
  have htake (i : ℕ) : before ++ (v :: vs).take (i + 1) = before ++ [v] ++ vs.take i := by
    rw [List.take_succ_cons, List.append_assoc, List.singleton_append]
  -- positions after the first one are those of the rest, one further on
  constructor
  · rintro ⟨i, u, hu, hd, hfirst⟩
    cases i with
    | zero =>
      obtain rfl : v = u := by simpa using hu
      rw [List.take_zero, List.append_nil] at hd
      exact absurd hd (h d)
    | succ i =>
      rw [htake] at hd
      refine ⟨i, u, hu, hd, ?_⟩
      intro j hj w hw d'
      rw [← htake]
      exact hfirst (j + 1) (Nat.succ_lt_succ hj) w hw d'
  · rintro ⟨i, u, hu, hd, hfirst⟩
    rw [← htake] at hd
    refine ⟨i + 1, u, hu, hd, ?_⟩
    intro j hj w hw d'
    cases j with
    | zero =>
      obtain rfl : v = w := by simpa using hw
      rw [List.take_zero, List.append_nil]
      exact h d'
    | succ j =>
      rw [htake]
      exact hfirst j (Nat.lt_of_succ_lt_succ hj) w hw d'

/-- **A search through variables** finds what is wrong at the least position. The names that
it has seen are those of the variables before. -/
theorem variableDefect?_eq_some (hseen : ∀ name, name ∈ seen ↔ ∃ u ∈ before, u.name = name) :
    variableDefect? seen vs = some d ↔ FirstAmong before vs d := by
  induction vs generalizing seen before with
  | nil =>
    rw [variableDefect?]
    constructor
    · intro h
      cases h
    · rintro ⟨i, v, hv, -⟩
      cases hv
  | cons v vs ih =>
    rcases variableDefect?_cons hseen with ⟨d', hd', heq⟩ | ⟨hsound, heq⟩
    · rw [heq, Option.some_inj, firstAmong_cons_of_defective hd']
    · rw [heq, firstAmong_cons_of_sound hsound]
      apply ih
      intro name
      simp only [List.mem_cons, hseen, List.mem_append, List.not_mem_nil, or_false]
      grind

/-! ## 4. Settings -/

/-- That settings hold together. -/
structure WellFormed (s : Settings) : Prop where
  lifecycleState : s.lifecycleState ≠ ""
  kernelKey : s.kernelKey ≠ ""
  probeKey : s.probeKey ≠ ""
  metricsKey : s.metricsKey ≠ ""
  segmentSizeKey : s.segmentSizeKey ≠ ""
  compared : s.compared ≠ []
  names : ∀ v ∈ s.compared, v.name ≠ ""
  distinct : s.compared.Pairwise (·.name ≠ ·.name)
  scales : ∀ v ∈ s.compared, Positive v.scale

/-- The first thing that is wrong with settings. -/
inductive FirstDefect (s : Settings) : SettingsDefect → Prop
  /-- A key is empty and none before it is. -/
  | key (earlier : List (String × String)) (setting : String) (later : List (String × String))
      (hkeys : s.keys = earlier ++ (setting, "") :: later) (hearlier : ∀ k ∈ earlier, k.2 ≠ "") :
      FirstDefect s (.emptyKey setting)
  /-- No key is empty, and there is no variable. -/
  | noVariables (hkeys : ∀ k ∈ s.keys, k.2 ≠ "") (hnone : s.compared = []) :
      FirstDefect s .noVariables
  /-- No key is empty, and something is wrong with a variable. -/
  | compared (hkeys : ∀ k ∈ s.keys, k.2 ≠ "") (d : SettingsDefect)
      (hfirst : FirstAmong [] s.compared d) : FirstDefect s d

variable {earlier later : List (String × String)} {setting : String}

/-- One stage: the keys. -/
theorem defect?_of_key (hkeys : s.keys = earlier ++ (setting, "") :: later)
    (hearlier : ∀ k ∈ earlier, k.2 ≠ "") : s.defect? = some (.emptyKey setting) := by
  have hfind : s.keys.find? (·.2.isEmpty) = some (setting, "") := by
    rw [List.find?_eq_some_iff_append]
    refine ⟨rfl, earlier, later, hkeys, ?_⟩
    intro k hk
    simpa using hearlier k hk
  unfold defect?
  rw [hfind]

/-- Two more, if no key is empty: whether there are variables, and the search through them. -/
theorem defect?_of_keys (hkeys : ∀ k ∈ s.keys, k.2 ≠ "") :
    s.defect? = if s.compared = [] then some .noVariables else variableDefect? [] s.compared := by
  have hfind : s.keys.find? (·.2.isEmpty) = none := by
    rw [List.find?_eq_none]
    intro k hk
    simpa using hkeys k hk
  unfold defect?
  rw [hfind]
  simp only [List.isEmpty_iff]

/-- If one is empty, there is a first. -/
theorem exists_first_key (h : ¬ ∀ k ∈ s.keys, k.2 ≠ "") : ∃ earlier setting later,
    s.keys = earlier ++ (setting, "") :: later ∧ ∀ k ∈ earlier, k.2 ≠ "" := by
  push Not at h
  obtain ⟨earlier, ⟨setting, value⟩, later, hkeys, hearlier, rfl⟩ := exists_split_first h
  exact ⟨earlier, setting, later, hkeys, hearlier⟩

/-- Settings that hold together pass all stages. -/
theorem wellFormed_iff :
    s.WellFormed ↔
      (∀ k ∈ s.keys, k.2 ≠ "") ∧ s.compared ≠ [] ∧ variableDefect? [] s.compared = none := by
  have hkeys : (∀ k ∈ s.keys, k.2 ≠ "") ↔ s.lifecycleState ≠ "" ∧ s.kernelKey ≠ "" ∧
      s.probeKey ≠ "" ∧ s.metricsKey ≠ "" ∧ s.segmentSizeKey ≠ "" := by
    simp [keys]
  rw [hkeys, variableDefect?_eq_none, List.Nodup, List.pairwise_map]
  constructor
  · intro h
    refine ⟨⟨h.lifecycleState, h.kernelKey, h.probeKey, h.metricsKey, h.segmentSizeKey⟩,
      h.compared, ?_, h.distinct⟩
    intro v hv
    refine ⟨?_, List.not_mem_nil, goodScale_iff.2 (h.scales v hv)⟩
    simpa using h.names v hv
  · rintro ⟨⟨hlifecycle, hkernel, hprobe, hmetrics, hsegment⟩, hsome, hvariables, hdistinct⟩
    refine ⟨hlifecycle, hkernel, hprobe, hmetrics, hsegment, hsome, ?_, hdistinct, ?_⟩
    · intro v hv
      simpa using (hvariables v hv).1
    · intro v hv
      exact goodScale_iff.1 (hvariables v hv).2.2

theorem defect?_eq_none : s.defect? = none ↔ s.WellFormed := by
  rw [wellFormed_iff]
  by_cases hkeys : ∀ k ∈ s.keys, k.2 ≠ ""
  · rw [defect?_of_keys hkeys]
    by_cases hnone : s.compared = []
    · rw [if_pos hnone]
      simp [hnone]
    · rw [if_neg hnone]
      exact ⟨fun h => ⟨hkeys, hnone, h⟩, fun h => h.2.2⟩
  · obtain ⟨earlier, setting, later, hsplit, hearlier⟩ := exists_first_key hkeys
    rw [defect?_of_key hsplit hearlier]
    constructor
    · intro h
      cases h
    · rintro ⟨h, -⟩
      exact absurd h hkeys

theorem defect?_eq_some : s.defect? = some d ↔ s.FirstDefect d := by
  have hvariables : variableDefect? [] s.compared = some d ↔ FirstAmong [] s.compared d :=
    variableDefect?_eq_some (by simp)
  constructor
  · intro h
    by_cases hkeys : ∀ k ∈ s.keys, k.2 ≠ ""
    · rw [defect?_of_keys hkeys] at h
      split_ifs at h with hnone
      · obtain rfl := Option.some.inj h
        exact .noVariables hkeys hnone
      · exact .compared hkeys d (hvariables.1 h)
    · obtain ⟨earlier, setting, later, hsplit, hearlier⟩ := exists_first_key hkeys
      rw [defect?_of_key hsplit hearlier] at h
      obtain rfl := Option.some.inj h
      exact .key earlier setting later hsplit hearlier
  · intro h
    cases h with
    | key earlier setting later hsplit hearlier => exact defect?_of_key hsplit hearlier
    | noVariables hkeys hnone => rw [defect?_of_keys hkeys, if_pos hnone]
    | compared hkeys _ hfirst =>
      have hsome : s.compared ≠ [] := by
        intro hnone
        obtain ⟨i, v, hv, -⟩ := hfirst
        rw [hnone] at hv
        cases hv
      rw [defect?_of_keys hkeys, if_neg hsome]
      exact hvariables.2 hfirst

/-- Of two variables that something is wrong with the first counts, and of the two things that
are wrong with it the repeated name. -/
example :
    check { compared := [⟨"a", "", "", 1.0, .identity, .identity, none, none, none⟩,
      ⟨"a", "", "", 0.0, .identity, .identity, none, none, none⟩,
      ⟨"", "", "", 1.0, .identity, .identity, none, none, none⟩] } =
        .error (.settings (.repeated "a")) := by
  decide

end FlowTriad.Settings
