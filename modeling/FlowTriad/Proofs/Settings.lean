/-
`Proofs/Settings.lean` -- what is known of settings that have been accepted.

A list of variables is looked through once, with the names that came before. It has no
defect when every name is a new one, so accepted settings name each variable once
(`names_nodup_of_loadSettings`); the usual settings do as well.
-/
import FlowTriad.Proofs.Outcome
import FlowTriad.Session

set_option autoImplicit false

namespace FlowTriad

namespace Settings

/-- **Variables have no defect** when each has a name that is not empty and none of those
before, and a good divisor. -/
theorem variableDefect?_eq_none {seen : List String} {vs : List Variable} :
    variableDefect? seen vs = none ↔
      (∀ v ∈ vs, v.name.isEmpty = false ∧ v.name ∉ seen ∧ goodScale v.scale) ∧
        (vs.map (·.name)).Nodup := by
  induction vs generalizing seen with
  | nil => simp [variableDefect?]
  | cons v vs ih =>
    rw [variableDefect?, List.forall_mem_cons, List.map_cons, List.nodup_cons]
    by_cases hempty : v.name.isEmpty
    · rw [if_pos hempty]
      simp [hempty]
    · rw [if_neg hempty]
      by_cases hseen : v.name ∈ seen
      · rw [if_pos hseen]
        simp [hseen]
      · rw [if_neg hseen]
        by_cases hscale : goodScale v.scale
        · have hname : v.name.isEmpty = false := by simpa using hempty
          rw [if_neg (by simp [hscale]), ih]
          simp only [hname, hseen, hscale, not_false_eq_true, true_and, List.mem_cons, not_or,
            List.mem_map, not_exists, not_and]
          -- the name is none of those after it if none of those after it is the name
          constructor
          · rintro ⟨hrest, hnodup⟩
            refine ⟨fun u hu => ?_, fun u hu => (hrest u hu).2.1.1, hnodup⟩
            obtain ⟨hname, ⟨-, hunseen⟩, hgood⟩ := hrest u hu
            exact ⟨hname, hunseen, hgood⟩
          · rintro ⟨hrest, hnew, hnodup⟩
            refine ⟨fun u hu => ?_, hnodup⟩
            obtain ⟨hname, hunseen, hgood⟩ := hrest u hu
            exact ⟨hname, ⟨hnew u hu, hunseen⟩, hgood⟩
        · rw [if_pos (by simpa using hscale)]
          simp [hscale]

theorem names_nodup_of_check {s : Settings} (h : s.check = .ok ()) :
    (s.compared.map (·.name)).Nodup := by
  have hdefect : s.defect? = none := by
    unfold check at h
    cases hd : s.defect? with
    | none => rfl
    | some d => simp [hd] at h
  unfold defect? at hdefect
  split at hdefect
  · cases hdefect
  · by_cases hnone : s.compared.isEmpty
    · rw [List.isEmpty_iff.1 hnone]
      exact List.nodup_nil
    · rw [if_neg hnone] at hdefect
      exact (variableDefect?_eq_none.1 hdefect).2

theorem load_eq_ok {text : String} {s : Settings} :
    load text = .ok s ↔ read text = .ok s ∧ s.check = .ok () := by
  unfold load
  rw [bind_eq_ok]
  constructor
  · rintro ⟨s', hread, hs⟩
    obtain ⟨⟨⟩, hcheck, hs⟩ := bind_eq_ok.1 hs
    cases hs
    exact ⟨hread, hcheck⟩
  · rintro ⟨hread, hcheck⟩
    exact ⟨s, hread, bind_eq_ok.2 ⟨(), hcheck, rfl⟩⟩

end Settings

/-- **A run compares each variable once.** -/
theorem names_nodup_of_loadSettings {fs : Files} {path : Option String} {s : Settings}
    (h : loadSettings fs path = .ok s) : (s.compared.map (·.name)).Nodup := by
  cases path with
  | none =>
    rw [← Except.ok.inj h]
    decide
  | some path =>
    obtain ⟨text, -, hload⟩ := bind_eq_ok.1 h
    exact Settings.names_nodup_of_check (Settings.load_eq_ok.1 hload).2

end FlowTriad
