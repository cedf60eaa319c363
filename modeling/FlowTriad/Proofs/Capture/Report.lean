/-
`Proofs/Capture/Report.lean` -- a report, item by item.

The intervals of a report are the items of one array of its document, each read for
itself: where reading succeeds there are as many as the array has items, and the one at
a position is read from the item there (`readIntervals_eq_ok`, `readReport_eq_ok`).
-/
import FlowTriad.Capture.Report
import FlowTriad.Proofs.Outcome

set_option autoImplicit false

namespace FlowTriad

variable {s : Settings} {origin text : String}

namespace Report

/-- That an interval is read from an item, for the stream of some number. The item comes
with its position. -/
def ReadFrom (stream : ℕ) (x : Json × ℕ) (i : Interval) : Prop :=
  readInterval stream x.2 x.1 = .ok i

/-- **All intervals** can be read when each of them can. -/
theorem readIntervals_eq_ok {stream first : ℕ} {js : List Json} {is : List Interval} :
    readIntervals origin stream first js = .ok is ↔
      List.Forall₂ (ReadFrom stream) (js.zipIdx first) is := by
  induction js generalizing first is with
  | nil =>
    rw [readIntervals, List.zipIdx_nil, List.forall₂_nil_left_iff]
    exact ⟨fun h => (Except.ok.inj h).symm, fun h => h ▸ rfl⟩
  | cons j js ih =>
    rw [readIntervals, bind_eq_ok, List.zipIdx_cons, List.forall₂_cons_left_iff]
    constructor
    · rintro ⟨i, hi, h⟩
      obtain ⟨rest, hrest, h⟩ := bind_eq_ok.1 h
      exact ⟨i, rest, located_eq_ok.1 hi, ih.1 hrest, (Except.ok.inj h).symm⟩
    · rintro ⟨i, rest, hi, hrest, rfl⟩
      exact ⟨i, located_eq_ok.2 hi, bind_eq_ok.2 ⟨rest, ih.2 hrest, rfl⟩⟩

/-- The defects of the intervals are located in the report. -/
theorem readIntervals_eq_error {stream first : ℕ} {js : List Json} {f : Fault}
    (h : readIntervals origin stream first js = .error f) : ∃ place d, f = .input origin place d := by
  induction js generalizing first with
  | nil => cases h
  | cons j js ih =>
    rw [readIntervals, bind_eq_error] at h
    obtain h | ⟨i, -, h⟩ := h
    · obtain ⟨d, -, rfl⟩ := located_eq_error.1 h
      exact ⟨_, d, rfl⟩
    · obtain h | ⟨rest, -, h⟩ := bind_eq_error.1 h
      · exact ih h
      · cases h

theorem arrayMember_eq_ok {ms : Json.Members} {name : String} {js : List Json} :
    arrayMember ms name = .ok js ↔ ms.get? name = some (.array js) := by
  unfold arrayMember
  cases hget : ms.get? name with
  | none => simp
  | some v => cases v <;> simp [Json.items?]

/-- The items that intervals are read from are those of one array of the document. -/
theorem array_of_readHeader {document : Json} {time : String} {items : List Json}
    (h : readHeader document = .ok (time, items)) :
    ∃ members : Json.Members,
      document = .object members ∧ members.get? "intervals" = some (.array items) := by
  obtain ⟨members, hmembers, h⟩ := bind_eq_ok.1 h
  obtain ⟨start, -, h⟩ := bind_eq_ok.1 h
  obtain ⟨timestamp, -, h⟩ := bind_eq_ok.1 h
  obtain ⟨time', -, h⟩ := bind_eq_ok.1 h
  obtain ⟨items', hitems, h⟩ := bind_eq_ok.1 h
  cases h
  refine ⟨members, ?_, arrayMember_eq_ok.1 hitems⟩
  cases document with
  | object ms =>
    cases hmembers
    rfl
  | null | bool | number | string | array => cases hmembers

end Report

/-- **A report can be read** when its document has what a report has, and every item of
its array is an interval. -/
theorem readReport_eq_ok {r : Report} :
    readReport s origin text = .ok r ↔
      ∃ document items, Json.read text.toList = .ok document ∧
        Report.readHeader document = .ok (r.startTime, items) ∧
        List.Forall₂ (Report.ReadFrom s.generatorStream) items.zipIdx r.intervals := by
  unfold readReport
  cases hread : Json.read text.toList with
  | error line => simp
  | ok document =>
    show Report.ofDocument s origin document = .ok r ↔ _
    unfold Report.ofDocument
    rw [bind_eq_ok]
    constructor
    · rintro ⟨⟨time, items⟩, hheader, h⟩
      obtain ⟨intervals, hintervals, h⟩ := bind_eq_ok.1 h
      cases h
      exact ⟨document, items, rfl, located_eq_ok.1 hheader,
        Report.readIntervals_eq_ok.1 hintervals⟩
    · rintro ⟨document', items, hdocument, hheader, hintervals⟩
      cases hdocument
      refine ⟨_, located_eq_ok.2 hheader, bind_eq_ok.2 ⟨r.intervals, ?_, rfl⟩⟩
      exact Report.readIntervals_eq_ok.2 hintervals

/-- What is wrong with a report is located in it. -/
theorem readReport_eq_error {f : Fault} (h : readReport s origin text = .error f) :
    ∃ place d, f = .input origin place d := by
  unfold readReport at h
  cases hread : Json.read text.toList with
  | error line =>
    simp only [hread] at h
    cases h
    exact ⟨_, _, rfl⟩
  | ok document =>
    simp only [hread] at h
    unfold Report.ofDocument at h
    obtain h | ⟨⟨time, items⟩, -, h⟩ := bind_eq_error.1 h
    · obtain ⟨d, -, rfl⟩ := located_eq_error.1 h
      exact ⟨_, d, rfl⟩
    · obtain h | ⟨intervals, -, h⟩ := bind_eq_error.1 h
      · exact Report.readIntervals_eq_error h
      · cases h

end FlowTriad
