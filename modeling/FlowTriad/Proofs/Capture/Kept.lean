/-
`Proofs/Capture/Kept.lean` -- the kept lines of a text.

Which lines of a text are kept, and with which numbers, can be said of the text alone:
they are the lines that are sorted so, each numbered by its place among all lines. The
readers find them with a count that runs along and a number that is passed on, and stop
at the first offending line. Where they find none, they have found all kept lines, none
twice, and every other line that is not blank has been counted as discarded
(`keptRecords_of_keptLines`).
-/
import FlowTriad.Proofs.Capture.Sharing

set_option autoImplicit false

namespace FlowTriad

variable {α : Type} {s : Settings} {origin text : String}

/-! ## 1. Kept lines and their numbers -/

/-- The kept records of a list of lines, of which `first` is the number of the first. -/
def keptFrom (s : Settings) (first : ℕ) (ls : List (List Char)) : List (ℕ × KeptRecord) :=
  (ls.zipIdx first).filterMap fun (l, n) =>
    match classify s l with
    | .ok (.kept r) => some (n, r)
    | _ => none

/-- The kept records of a text with the numbers of their lines, counted from 1. -/
def keptRecords (s : Settings) (text : String) : List (ℕ × KeptRecord) :=
  keptFrom s 1 (Text.lines text.toList)

/-- A kept record is that of the line whose number it has. -/
theorem mem_keptRecords {n : ℕ} {r : KeptRecord} (h : (n, r) ∈ keptRecords s text) :
    0 < n ∧ ∃ l, (Text.lines text.toList)[n - 1]? = some l ∧ classify s l = .ok (.kept r) := by
  obtain ⟨⟨l, m⟩, hmem, hkept⟩ := List.mem_filterMap.1 h
  obtain ⟨hle, hget⟩ := List.mk_mem_zipIdx_iff_le_and_getElem?_sub.1 hmem
  have hclass : classify s l = .ok (.kept r) ∧ m = n := by
    simp only at hkept
    split at hkept
    · next r' hr' =>
      cases hkept
      exact ⟨hr', rfl⟩
    · cases hkept
  obtain ⟨hclass, rfl⟩ := hclass
  exact ⟨hle, l, hget, hclass⟩

/-- What the first pass over some lines keeps, if no line is offending, and how many it
has counted. -/
theorem keptFrom_of_readLines {first : ℕ} {ls : List (List Char)} {rs : List (ℕ × KeptRecord)}
    {count : LineCount} (h : readLines origin (classify s) first ls = .ok (rs, count)) :
    rs = keptFrom s first ls ∧ rs.length + count.discarded = count.lines := by
  -- a line adds to the records and to the lines, or to the discarded and to the lines, or to none
  induction ls generalizing first rs count with
  | nil =>
    cases h
    exact ⟨rfl, rfl⟩
  | cons l ls ih =>
    obtain ⟨c, ⟨rs', count'⟩, hc, hr, hout⟩ := readLines_cons_eq_ok.1 h
    obtain ⟨hkept, hcount⟩ := ih hr
    unfold keptFrom at hkept ⊢
    rw [List.zipIdx_cons, List.filterMap_cons, ← hkept]
    simp only [hc]
    cases c with
    | blank =>
      cases hout
      exact ⟨rfl, hcount⟩
    | discarded =>
      cases hout
      exact ⟨rfl, by rw [← hcount, Nat.add_assoc]⟩
    | kept r =>
      cases hout
      refine ⟨rfl, ?_⟩
      show rs'.length + 1 + count'.discarded = count'.lines + 1
      omega

/-- **The first pass over a text** keeps its kept records, and has counted every line that
it did not keep as discarded, blank ones aside. -/
theorem keptRecords_of_keptLines {rs : List (ℕ × KeptRecord)} {count : LineCount}
    (h : keptLines s origin text = .ok (rs, count)) :
    rs = keptRecords s text ∧ rs.length + count.discarded = count.lines :=
  keptFrom_of_readLines h

/-- **A capture of one source** has a measurement for each kept record of its text. -/
theorem readCapture_measured {source : Source} {key : String} {records : List LineRecord}
    {count : LineCount} (hkey : s.captureKey? source = some key)
    (h : readCapture s source origin text = .ok (records, count)) :
    List.Forall₂ (Measured s key) (keptRecords s text) records ∧
      (keptRecords s text).length + count.discarded = count.lines := by
  obtain ⟨rs, hrs, hmeasured⟩ := (readCapture_eq_ok hkey).1 h
  obtain ⟨rfl, hcount⟩ := keptRecords_of_keptLines hrs
  exact ⟨hmeasured, hcount⟩

/-- **A shared capture** has a measurement for each side of each kept record of its text,
and each kept record has a side. -/
theorem readSharedCapture_measured {c : SharedCapture}
    (h : readSharedCapture s origin text = .ok c) :
    (∀ x ∈ keptRecords s text, x.2.carries s.kernelKey ∨ x.2.carries s.probeKey) ∧
      List.Forall₂ (Measured s s.kernelKey) (carrying s.kernelKey (keptRecords s text)) c.kernel ∧
      List.Forall₂ (Measured s s.probeKey) (carrying s.probeKey (keptRecords s text)) c.probe ∧
      (keptRecords s text).length + c.count.discarded = c.count.lines := by
  obtain ⟨rs, hrs, hsides, hkernel, hprobe⟩ := readSharedCapture_eq_ok.1 h
  obtain ⟨rfl, hcount⟩ := keptRecords_of_keptLines hrs
  exact ⟨hsides, hkernel, hprobe, hcount⟩

/-! ## 2. Offending lines -/

/-- The fault of a capture is located in one of its lines. -/
theorem readLines_eq_error {read : List Char → Except Defect (LineContent α)} {first : ℕ}
    {ls : List (List Char)} {f : Fault} (h : readLines origin read first ls = .error f) :
    ∃ n d, f = .input origin (.line n) d := by
  induction ls generalizing first with
  | nil => cases h
  | cons l ls ih =>
    rw [readLines, bind_eq_error] at h
    obtain h | ⟨c, -, h⟩ := h
    · obtain ⟨d, -, rfl⟩ := located_eq_error.1 h
      exact ⟨first, d, rfl⟩
    · obtain h | ⟨r, -, h⟩ := bind_eq_error.1 h
      · exact ih h
      · cases c <;> cases h

theorem readCapture_eq_error {source : Source} {key : String} {f : Fault}
    (hkey : s.captureKey? source = some key) (h : readCapture s source origin text = .error f) :
    ∃ n d, f = .input origin (.line n) d := by
  unfold readCapture at h
  rw [hkey] at h
  obtain h | ⟨out, -, h⟩ := bind_eq_error.1 h
  · exact readLines_eq_error h
  · cases h

theorem readSharedCapture_eq_error {f : Fault} (h : readSharedCapture s origin text = .error f) :
    ∃ n d, f = .input origin (.line n) d := by
  unfold readSharedCapture at h
  obtain h | ⟨out, -, h⟩ := bind_eq_error.1 h
  · exact readLines_eq_error h
  · cases h

end FlowTriad
