/-
`Proofs/Session/Spelling.lean` -- one file under two spellings of its path.

A path can be spelled in several ways, and `Path.same` knows them to be one. A run asks
it whether to read the probe's capture at all. It does not ask it a second time: that
two captures are one is recognised later by their names, which are the paths as
spelled. So a file whose path is spelled differently for the two sources is read once
and then compared with itself under two names, that is strictly.

`respelled_agrees_iff` says what that costs: such a run agrees with the one whose paths
are spelled alike if every kept line carries both sides, and is refused otherwise.
-/
import FlowTriad.Proofs.Comparison.Sharing
import FlowTriad.Session

set_option autoImplicit false

namespace FlowTriad

variable {fs : Files} {s : Settings}

/-- Captures in one file are read as one text under the names that it was given. -/
theorem readCaptures_same {kernel probe generator : String} (h : Path.same probe kernel)
    {c : Captures} :
    readCaptures fs ⟨kernel, probe, generator⟩ = .ok c ↔
      ∃ text report, fs.require kernel = .ok text ∧ fs.require generator = .ok report ∧
        c = ⟨⟨kernel, text⟩, ⟨probe, text⟩, ⟨generator, report⟩⟩ := by
  unfold readCaptures
  rw [bind_eq_ok]
  constructor
  · rintro ⟨text, htext, hc⟩
    rw [if_pos h] at hc
    obtain ⟨text', htext', hc⟩ := bind_eq_ok.1 hc
    obtain ⟨report, hreport, hc⟩ := bind_eq_ok.1 hc
    cases htext'
    exact ⟨text, report, htext, hreport, (Except.ok.inj hc).symm⟩
  · rintro ⟨text, report, htext, hreport, rfl⟩
    refine ⟨text, htext, ?_⟩
    rw [if_pos h]
    exact bind_eq_ok.2 ⟨text, rfl, bind_eq_ok.2 ⟨report, hreport, rfl⟩⟩

/-- A comparison of captures in one file is one of its text under the names it was given. -/
theorem compareFiles_same {kernel probe generator : String} (h : Path.same probe kernel)
    {r : Comparison} :
    compareFiles fs s ⟨kernel, probe, generator⟩ = .ok r ↔
      ∃ text report, fs.require kernel = .ok text ∧ fs.require generator = .ok report ∧
        reconcile s ⟨⟨kernel, text⟩, ⟨probe, text⟩, ⟨generator, report⟩⟩ = .ok r := by
  unfold compareFiles
  rw [bind_eq_ok]
  constructor
  · rintro ⟨c, hc, hr⟩
    obtain ⟨text, report, htext, hreport, rfl⟩ := (readCaptures_same h).1 hc
    exact ⟨text, report, htext, hreport, hr⟩
  · rintro ⟨text, report, htext, hreport, hr⟩
    exact ⟨_, (readCaptures_same h).2 ⟨text, report, htext, hreport, rfl⟩, hr⟩

/-- A path is the same as itself. -/
theorem Path.same_self (p : String) : Path.same p p := by
  unfold Path.same
  rw [beq_iff_eq]

/-- Whether every kept line of a file carries both sides. -/
def EveryKeptIn (fs : Files) (s : Settings) (path : String) : Prop :=
  ∀ text, fs.require path = .ok text → EveryKept s text (CarriesBoth s)

/-- **A file under two spellings** is compared as under one, if the spellings are equal
or every kept line carries both sides, and is refused otherwise. -/
theorem compareFiles_respelled_iff {kernel probe generator : String} (h : Path.same probe kernel)
    {r : Comparison} :
    compareFiles fs s ⟨kernel, probe, generator⟩ = .ok r ↔
      compareFiles fs s ⟨kernel, kernel, generator⟩ = .ok r ∧
        (probe = kernel ∨ EveryKeptIn fs s kernel) := by
  by_cases hspelled : probe = kernel
  · rw [hspelled]
    simp
  · -- two spellings are two names of one text
    rw [compareFiles_same h, compareFiles_same (Path.same_self kernel)]
    constructor
    · rintro ⟨text, report, htext, hreport, hr⟩
      obtain ⟨hr, hboth⟩ := (reconcile_two_names_iff kernel hspelled).1 hr
      refine ⟨⟨text, report, htext, hreport, hr⟩, .inr fun text' htext' => ?_⟩
      cases htext.symm.trans htext'
      exact hboth
    · rintro ⟨⟨text, report, htext, hreport, hr⟩, hboth⟩
      have hboth := hboth.resolve_left hspelled text htext
      exact ⟨text, report, htext, hreport, (reconcile_two_names_iff kernel hspelled).2 ⟨hr, hboth⟩⟩

/-- **When a spelling does not matter.** Two runs over one file, of which one has its path
spelled in two ways and the other in one, agree unless the second succeeds and some
kept line does not carry both sides: then the first is refused. Whatever the first
finds, the second finds too. -/
theorem respelled_agrees_iff (fs : Files) (s : Settings) (kernel probe generator : String)
    (h : Path.same probe kernel) :
    (∀ r, compareFiles fs s ⟨kernel, probe, generator⟩ = .ok r ↔
      compareFiles fs s ⟨kernel, kernel, generator⟩ = .ok r ∧
        (probe = kernel ∨ EveryKeptIn fs s kernel)) ∧
    ((compareFiles fs s ⟨kernel, probe, generator⟩).toOption =
        (compareFiles fs s ⟨kernel, kernel, generator⟩).toOption ↔
      ((compareFiles fs s ⟨kernel, kernel, generator⟩).isOk →
        probe = kernel ∨ EveryKeptIn fs s kernel)) :=
  have hiff := fun r => compareFiles_respelled_iff (r := r) h
  ⟨hiff, toOption_eq_iff hiff⟩

/-! ## A small file -/

/-- A directory with a capture of two kept lines, one for each source, and a report. -/
def oneLineEach : Files :=
  ⟨[(⟨.working 0, ["d".toList]⟩, .directory),
    (⟨.working 0, ["f".toList, "d".toList]⟩,
      .file (.text (recordCarrying ["netlink"] ++ "\n" ++ recordCarrying ["skOps"]))),
    (⟨.working 0, ["g".toList]⟩, .file (.text oneInterval))]⟩

/-- One line for each source is a capture that both can share, but not if its path is
spelled in two ways. -/
theorem respelled_agrees_iff_fails :
    Path.same "d//f" "d/f" ∧ (compareFiles oneLineEach {} ⟨"d/f", "d/f", "g"⟩).isOk ∧
      ¬ (compareFiles oneLineEach {} ⟨"d/f", "d//f", "g"⟩).isOk := by
  have hsame : Path.same "d//f" "d/f" := by decide +kernel
  refine ⟨hsame, by decide +kernel, fun hok => ?_⟩
  -- a run that succeeded would have found both sides on the first line
  obtain ⟨r, hr⟩ := exists_eq_ok hok
  obtain ⟨-, hboth⟩ := ((respelled_agrees_iff oneLineEach {} "d/f" "d//f" "g" hsame).1 r).1 hr
  have hkept := hboth.resolve_left (by decide)
    (recordCarrying ["netlink"] ++ "\n" ++ recordCarrying ["skOps"]) (by decide +kernel)
    (recordCarrying ["netlink"]).toList (by decide +kernel)
  have hlacks : lacks {} "skOps" (recordCarrying ["netlink"]).toList = true := by decide +kernel
  unfold lacks at hlacks
  split at hlacks
  · next r' hr' =>
    rw [(hkept r' hr').2] at hlacks
    cases hlacks
  · cases hlacks

end FlowTriad
