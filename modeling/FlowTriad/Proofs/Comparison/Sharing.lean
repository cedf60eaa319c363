/-
`Proofs/Comparison/Sharing.lean` -- comparing one file with itself under two names.

Two names for one text make a comparison read it strictly for each source; one name
makes it read the text as a shared capture. Where the strict way succeeds the shared
way does too, and to the same outcome: no stage after the reading knows the names but
to report a fault (`reconcile_two_names_iff`). `shared_agrees_with_strict` collects
what the two ways have in common, from the reading of a text to the whole comparison.
-/
import FlowTriad.Proofs.Capture.Sharing
import FlowTriad.Proofs.Comparison.Stages

set_option autoImplicit false

namespace FlowTriad

variable {s : Settings}

/-- Under one name, a text is read as a shared capture. -/
theorem readLineCaptures_one_name {origin text text' : String} {c : LineCaptures} :
    readLineCaptures s ⟨origin, text⟩ ⟨origin, text'⟩ = .ok c ↔
      readSharedCapture s origin text = .ok ⟨c.kernel, c.probe, c.kernelCount⟩ ∧
        c.probeCount = c.kernelCount := by
  unfold readLineCaptures
  rw [if_pos rfl, bind_eq_ok]
  constructor
  · rintro ⟨shared, h, hc⟩
    cases hc
    exact ⟨h, rfl⟩
  · rintro ⟨h, hcount⟩
    refine ⟨_, h, ?_⟩
    cases c
    cases hcount
    rfl

/-- Under two names, each text is read for its own source. -/
theorem readLineCaptures_two_names {kernel probe : NamedText} {c : LineCaptures}
    (h : probe.origin ≠ kernel.origin) :
    readLineCaptures s kernel probe = .ok c ↔
      readCapture s .kernelSocket kernel.origin kernel.text = .ok (c.kernel, c.kernelCount) ∧
        readCapture s .inKernelProbe probe.origin probe.text = .ok (c.probe, c.probeCount) := by
  unfold readLineCaptures
  rw [if_neg h, bind_eq_ok]
  constructor
  · rintro ⟨⟨k, kcount⟩, hk, hc⟩
    obtain ⟨⟨p, pcount⟩, hp, hc⟩ := bind_eq_ok.1 hc
    cases hc
    exact ⟨hk, hp⟩
  · rintro ⟨hk, hp⟩
    exact ⟨_, hk, bind_eq_ok.2 ⟨_, hp, rfl⟩⟩

/-- **One text under two names** is compared as under one, if every kept line carries
both sides, and is refused otherwise. -/
theorem reconcile_two_names_iff {text origin₁ origin₂ : String} {generator : NamedText}
    {r : Comparison} (origin : String) (h : origin₂ ≠ origin₁) :
    reconcile s ⟨⟨origin₁, text⟩, ⟨origin₂, text⟩, generator⟩ = .ok r ↔
      reconcile s ⟨⟨origin, text⟩, ⟨origin, text⟩, generator⟩ = .ok r ∧
        EveryKept s text (CarriesBoth s) := by
  have hlines (c : LineCaptures) :
      readLineCaptures s ⟨origin₁, text⟩ ⟨origin₂, text⟩ = .ok c ↔
        readLineCaptures s ⟨origin, text⟩ ⟨origin, text⟩ = .ok c ∧
          EveryKept s text (CarriesBoth s) := by
    rw [readLineCaptures_two_names h, readLineCaptures_one_name]
    exact strict_iff_shared
  -- after the reading, names show in faults only
  rw [reconcile_eq_ok, reconcile_eq_ok]
  constructor
  · rintro ⟨lines, report, k, p, g, set, hread, hreport, hk, hp, hrest⟩
    obtain ⟨hread, hboth⟩ := (hlines lines).1 hread
    exact ⟨⟨lines, report, k, p, g, set, hread, hreport, TimedSeries.ofRecords_origin origin hk,
      TimedSeries.ofRecords_origin origin hp, hrest⟩, hboth⟩
  · rintro ⟨⟨lines, report, k, p, g, set, hread, hreport, hk, hp, hrest⟩, hboth⟩
    exact ⟨lines, report, k, p, g, set, (hlines lines).2 ⟨hread, hboth⟩, hreport,
      TimedSeries.ofRecords_origin origin₁ hk, TimedSeries.ofRecords_origin origin₂ hp, hrest⟩

/-- **The shared reader and the strict readers agree** on every text.

* What both strict readers find, the shared one finds, with the same count.
* What the shared one finds for a source, the strict reader of that source finds in
  every text that is the same but for the lines of the other source, which are empty
  there; and there are such texts.
* A comparison of the text under two names that succeeds has the same outcome under
  one. -/
theorem shared_agrees_with_strict (s : Settings) (text : String) :
    (∀ origin kernel probe count count',
      readCapture s .kernelSocket origin text = .ok (kernel, count) →
      readCapture s .inKernelProbe origin text = .ok (probe, count') →
        readSharedCapture s origin text = .ok ⟨kernel, probe, count⟩ ∧ count' = count) ∧
    (∀ origin c, readSharedCapture s origin text = .ok c →
      ((∃ text', Emptied s s.kernelKey text text') ∧
        ∀ text', Emptied s s.kernelKey text text' →
          ∃ count, readCapture s .kernelSocket origin text' = .ok (c.kernel, count)) ∧
      ((∃ text', Emptied s s.probeKey text text') ∧
        ∀ text', Emptied s s.probeKey text text' →
          ∃ count, readCapture s .inKernelProbe origin text' = .ok (c.probe, count))) ∧
    (∀ origin origin₁ origin₂ generator r, origin₁ ≠ origin₂ →
      reconcile s ⟨⟨origin₁, text⟩, ⟨origin₂, text⟩, generator⟩ = .ok r →
        reconcile s ⟨⟨origin, text⟩, ⟨origin, text⟩, generator⟩ = .ok r) := by
  refine ⟨?_, ?_, ?_⟩
  · intro origin kernel probe count count' hk hp
    exact (strict_iff_shared.1 ⟨hk, hp⟩).1
  · -- both sides come from the same kept records
    intro origin c h
    obtain ⟨rs, hrs, -, hk, hp⟩ := readSharedCapture_eq_ok.1 h
    refine ⟨⟨exists_emptied s s.kernelKey text, fun text' htext => ?_⟩,
      ⟨exists_emptied s s.probeKey text, fun text' htext => ?_⟩⟩
    · exact readCapture_emptied rfl hrs hk htext
    · exact readCapture_emptied rfl hrs hp htext
  · intro origin origin₁ origin₂ generator r hne h
    exact ((reconcile_two_names_iff origin hne.symm).1 h).1

/-! ## A small capture -/

/-- A record that is kept in the usual settings and carries measurements without numbers
under some keys. -/
def recordCarrying (keys : List String) : String :=
  "\x7b\"flow-lifecycle\":\x7b\"state\":\"ongoing\",\"current-time\":\"2024-11-02T16:07:02.5Z\"\x7d" ++
    String.join (keys.map fun k => ",\"" ++ k ++ "\":\x7b\"tcpInfo\":\x7b\x7d\x7d") ++ "\x7d"

/-- A report of one interval. -/
def oneInterval : String :=
  "\x7b\"start\":\x7b\"timestamp\":\x7b\"time\":\"Sat, 02 Nov 2024 16:07:01 GMT\"\x7d\x7d," ++
    "\"intervals\":[\x7b\"streams\":[\x7b\"seconds\":1\x7d]\x7d]\x7d"

/-- The ways to read agree on a record that carries both sides, and on two that carry one
side each. -/
theorem shared_agrees_with_strict_records :
    (∃ kernel probe count count',
      readCapture {} .kernelSocket "f" (recordCarrying ["netlink", "skOps"]) =
        .ok (kernel, count) ∧
      readCapture {} .inKernelProbe "f" (recordCarrying ["netlink", "skOps"]) =
        .ok (probe, count') ∧
      readSharedCapture {} "f" (recordCarrying ["netlink", "skOps"]) =
        .ok ⟨kernel, probe, count⟩) ∧
    (∃ c count, readSharedCapture {} "f"
        (recordCarrying ["netlink"] ++ "\n" ++ recordCarrying ["skOps"]) = .ok c ∧
      readCapture {} .kernelSocket "f" (recordCarrying ["netlink"] ++ "\n\n") =
        .ok (c.kernel, count)) ∧
    (∃ r, "f" ≠ "h" ∧
      reconcile {} ⟨⟨"f", recordCarrying ["netlink", "skOps"]⟩,
        ⟨"h", recordCarrying ["netlink", "skOps"]⟩, ⟨"g", oneInterval⟩⟩ = .ok r ∧
      reconcile {} ⟨⟨"f", recordCarrying ["netlink", "skOps"]⟩,
        ⟨"f", recordCarrying ["netlink", "skOps"]⟩, ⟨"g", oneInterval⟩⟩ = .ok r) := by
  refine ⟨?_, ?_, ?_⟩
  · obtain ⟨⟨k, kcount⟩, hk⟩ := exists_eq_ok (x := readCapture {} .kernelSocket "f"
      (recordCarrying ["netlink", "skOps"])) (by decide +kernel)
    obtain ⟨⟨p, pcount⟩, hp⟩ := exists_eq_ok (x := readCapture {} .inKernelProbe "f"
      (recordCarrying ["netlink", "skOps"])) (by decide +kernel)
    exact ⟨k, p, kcount, pcount, hk, hp, ((shared_agrees_with_strict {} _).1 _ _ _ _ _ hk hp).1⟩
  · obtain ⟨c, hc⟩ := exists_eq_ok (x := readSharedCapture {} "f"
      (recordCarrying ["netlink"] ++ "\n" ++ recordCarrying ["skOps"])) (by decide +kernel)
    obtain ⟨count, h⟩ := ((shared_agrees_with_strict {} _).2.1 _ c hc).1.2
      (recordCarrying ["netlink"] ++ "\n\n") (by unfold Emptied; decide +kernel)
    exact ⟨c, count, hc, h⟩
  · obtain ⟨r, hr⟩ := exists_eq_ok (x := reconcile {}
      ⟨⟨"f", recordCarrying ["netlink", "skOps"]⟩, ⟨"h", recordCarrying ["netlink", "skOps"]⟩,
        ⟨"g", oneInterval⟩⟩) (by decide +kernel)
    have hne : "f" ≠ "h" := by decide
    exact ⟨r, hne, hr, (shared_agrees_with_strict {} _).2.2 _ _ _ _ _ hne hr⟩

end FlowTriad
