/-
`Proofs/Capture/Sharing.lean` -- one file for two sources, and one file for each.

A capture that both line-delimited sources share is read in its own way: a kept record
is asked what it carries, and only then for measurements. A capture of one source is
read strictly: every kept record is asked for that source's measurements. The two ways
share the first pass over the lines (`keptLines`), so they can differ only in which
kept records they extract from.

`readSharedCapture_eq_ok` says which those are: for each source, the ones that carry
something under its key. Everything else here follows from it. Where every record
carries both, the shared way is both strict ways at once (`strict_iff_shared`); and in
general it is, for each source, the strict way on the text with the other source's
lines emptied (`readCapture_emptied`).
-/
import FlowTriad.Comparison
import FlowTriad.Proofs.Capture.Contents
import FlowTriad.Proofs.Text

set_option autoImplicit false

namespace FlowTriad

variable {s : Settings} {origin : String}

/-! ## 1. What a kept record carries -/

/-- Whether a record has a member under a key, and one that is not null. -/
def KeptRecord.carries (r : KeptRecord) (key : String) : Bool :=
  (r.members.present? key).isSome

/-- Measurements are found only under a key where something is carried. -/
theorem carries_of_measurements {key : String} {r : KeptRecord} {fields : NumericFields}
    (h : measurements s key r = .ok fields) : r.carries key := by
  obtain ⟨capture, hcapture, -⟩ := bind_eq_ok.1 h
  unfold Json.Members.object at hcapture
  unfold KeptRecord.carries
  cases hp : r.members.present? key with
  | none =>
    rw [hp] at hcapture
    cases hcapture
  | some v => rfl

/-- What a record gives for one side of a shared capture. -/
def carriedMeasurements (s : Settings) (key : String) (r : KeptRecord) :
    Except Defect (Option NumericFields) :=
  if r.carries key then (measurements s key r).map some else .ok none

theorem carriedMeasurements_eq_ok {key : String} {r : KeptRecord} {o : Option NumericFields} :
    carriedMeasurements s key r = .ok o ↔
      (∃ fields, measurements s key r = .ok fields ∧ o = some fields) ∨
        r.carries key = false ∧ o = none := by
  unfold carriedMeasurements
  by_cases hc : r.carries key
  · rw [if_pos hc, map_eq_ok]
    constructor
    · rintro ⟨fields, hf, rfl⟩
      exact .inl ⟨fields, hf, rfl⟩
    · rintro (⟨fields, hf, rfl⟩ | ⟨hn, -⟩)
      · exact ⟨fields, hf, rfl⟩
      · rw [hc] at hn
        cases hn
  · rw [if_neg hc]
    constructor
    · intro h
      exact .inr ⟨Bool.eq_false_iff.2 hc, (Except.ok.inj h).symm⟩
    · rintro (⟨fields, hf, rfl⟩ | ⟨-, rfl⟩)
      · exact absurd (carries_of_measurements hf) hc
      · rfl

/-- A record of a shared capture is read when it carries one side at least, and each
side can be read. -/
theorem sharedMeasurements_eq_ok {r : KeptRecord} {x : SharedRecord} :
    sharedMeasurements s r = .ok x ↔
      (r.carries s.kernelKey ∨ r.carries s.probeKey) ∧ x.stamp = r.stamp ∧
        carriedMeasurements s s.kernelKey r = .ok x.kernel ∧
        carriedMeasurements s s.probeKey r = .ok x.probe := by
  unfold sharedMeasurements
  by_cases h : (r.members.present? s.kernelKey).isNone && (r.members.present? s.probeKey).isNone
  · rw [if_pos h]
    constructor
    · intro h'
      cases h'
    · rintro ⟨hc, -⟩
      simp [KeptRecord.carries] at h hc
      simp [h] at hc
  · rw [if_neg h]
    -- past the test, a side is there, and what follows only reads it
    have hc : r.carries s.kernelKey ∨ r.carries s.probeKey := by
      unfold KeptRecord.carries
      cases hk : r.members.present? s.kernelKey <;> cases hp : r.members.present? s.probeKey <;>
        simp_all
    constructor
    · intro h'
      obtain ⟨k, hk, h'⟩ := bind_eq_ok.1 h'
      obtain ⟨p, hp, h'⟩ := bind_eq_ok.1 h'
      cases h'
      exact ⟨hc, rfl, hk, hp⟩
    · rintro ⟨-, hstamp, hk, hp⟩
      refine bind_eq_ok.2 ⟨x.kernel, hk, bind_eq_ok.2 ⟨x.probe, hp, ?_⟩⟩
      rw [← hstamp]
      rfl

/-! ## 2. A shared capture in two passes -/

/-- The records of a list that carry something under a key. -/
def carrying (key : String) (rs : List (Nat × KeptRecord)) : List (Nat × KeptRecord) :=
  rs.filter (·.2.carries key)

/-- Whether every record of a list carries something under a key. -/
def AllCarry (key : String) (rs : List (Nat × KeptRecord)) : Prop :=
  ∀ x ∈ rs, x.2.carries key

theorem carrying_eq_self {key : String} {rs : List (Nat × KeptRecord)} (h : AllCarry key rs) :
    carrying key rs = rs :=
  List.filter_eq_self.2 h

/-- The measurement of one record for one side, if it has one. -/
def entry (n : Nat) (stamp : String) (o : Option NumericFields) : List LineRecord :=
  (o.map fun fields => ⟨n, stamp, fields⟩).toList

/-- The measurements of the records that carry a side are those of the first record,
if it carries it, and those of the others. -/
theorem forall₂_carrying_cons {key : String} {x : Nat × KeptRecord} {rs : List (Nat × KeptRecord)}
    {records : List LineRecord} :
    List.Forall₂ (Measured s key) (carrying key (x :: rs)) records ↔
      ∃ o rest, carriedMeasurements s key x.2 = .ok o ∧
        List.Forall₂ (Measured s key) (carrying key rs) rest ∧
        records = entry x.1 x.2.stamp o ++ rest := by
  unfold carrying
  rw [List.filter_cons]
  by_cases hc : x.2.carries key
  · rw [if_pos hc, List.forall₂_cons_left_iff]
    constructor
    · rintro ⟨⟨n, stamp, fields⟩, rest, ⟨hn, hstamp, hf⟩, h, rfl⟩
      cases hn
      cases hstamp
      exact ⟨some fields, rest, carriedMeasurements_eq_ok.2 (.inl ⟨fields, hf, rfl⟩), h, rfl⟩
    · rintro ⟨o, rest, ho, h, rfl⟩
      rcases carriedMeasurements_eq_ok.1 ho with ⟨fields, hf, rfl⟩ | ⟨hn, -⟩
      · exact ⟨_, rest, ⟨rfl, rfl, hf⟩, h, rfl⟩
      · rw [hc] at hn
        cases hn
  · rw [if_neg hc]
    have hn : x.2.carries key = false := Bool.eq_false_iff.2 hc
    constructor
    · intro h
      exact ⟨none, records, carriedMeasurements_eq_ok.2 (.inr ⟨hn, rfl⟩), h, rfl⟩
    · rintro ⟨o, rest, ho, h, rfl⟩
      rcases carriedMeasurements_eq_ok.1 ho with ⟨fields, hf, -⟩ | ⟨-, rfl⟩
      · exact absurd (carries_of_measurements hf) hc
      · exact h

/-- The measurements of one side of a shared capture. -/
def sideOf (side : SharedRecord → Option NumericFields) (out : List (Nat × SharedRecord)) :
    List LineRecord :=
  out.filterMap fun y => (side y.2).map fun fields => ⟨y.1, y.2.stamp, fields⟩

theorem sideOf_cons {side : SharedRecord → Option NumericFields} {y : Nat × SharedRecord}
    {out : List (Nat × SharedRecord)} :
    sideOf side (y :: out) = entry y.1 y.2.stamp (side y.2) ++ sideOf side out := by
  unfold sideOf entry
  rw [List.filterMap_cons]
  cases side y.2 <;> rfl

/-- **Two sides make a shared capture**, and a shared capture has two sides: its records
can be read together when each carries a side and the measurements of each side can be
taken from the records that carry it. -/
theorem exists_shared_iff {rs : List (Nat × KeptRecord)} {kernel probe : List LineRecord} :
    (∃ out, List.Forall₂ (ExtractedAt (sharedMeasurements s)) rs out ∧
        kernel = sideOf (·.kernel) out ∧ probe = sideOf (·.probe) out) ↔
      (∀ x ∈ rs, x.2.carries s.kernelKey ∨ x.2.carries s.probeKey) ∧
        List.Forall₂ (Measured s s.kernelKey) (carrying s.kernelKey rs) kernel ∧
        List.Forall₂ (Measured s s.probeKey) (carrying s.probeKey rs) probe := by
  -- over the kept records, with both lists of measurements free: a record adds one entry to
  -- either of them, to both, or would be refused
  induction rs generalizing kernel probe with
  | nil => simp [carrying, sideOf]
  | cons x rs ih =>
    rw [List.forall_mem_cons, forall₂_carrying_cons, forall₂_carrying_cons]
    constructor
    · rintro ⟨out, hout, rfl, rfl⟩
      obtain ⟨⟨n, y⟩, out', ⟨hn, hy⟩, hout', rfl⟩ := List.forall₂_cons_left_iff.1 hout
      obtain ⟨hc, hstamp, hk, hp⟩ := sharedMeasurements_eq_ok.1 hy
      obtain ⟨hcs, hks, hps⟩ := ih.1 ⟨out', hout', rfl, rfl⟩
      cases hn
      rw [sideOf_cons, sideOf_cons, hstamp]
      exact ⟨⟨hc, hcs⟩, ⟨_, _, hk, hks, rfl⟩, ⟨_, _, hp, hps, rfl⟩⟩
    · rintro ⟨⟨hc, hcs⟩, ⟨k, ks, hk, hks, rfl⟩, ⟨p, ps, hp, hps, rfl⟩⟩
      obtain ⟨out, hout, rfl, rfl⟩ := ih.2 ⟨hcs, hks, hps⟩
      have hy : sharedMeasurements s x.2 = .ok ⟨x.2.stamp, k, p⟩ :=
        sharedMeasurements_eq_ok.2 ⟨hc, rfl, hk, hp⟩
      refine ⟨(x.1, ⟨x.2.stamp, k, p⟩) :: out, .cons ⟨rfl, hy⟩ hout, ?_, ?_⟩ <;> rw [sideOf_cons]

/-- **A shared capture in two passes**: every kept record carries a side, and each side
has the measurements of the records that carry it. -/
theorem readSharedCapture_eq_ok {text : String} {c : SharedCapture} :
    readSharedCapture s origin text = .ok c ↔
      ∃ rs, keptLines s origin text = .ok (rs, c.count) ∧
        (∀ x ∈ rs, x.2.carries s.kernelKey ∨ x.2.carries s.probeKey) ∧
        List.Forall₂ (Measured s s.kernelKey) (carrying s.kernelKey rs) c.kernel ∧
        List.Forall₂ (Measured s s.probeKey) (carrying s.probeKey rs) c.probe := by
  unfold readSharedCapture
  constructor
  · intro h
    obtain ⟨⟨out, count⟩, hout, h⟩ := bind_eq_ok.1 h
    cases h
    obtain ⟨rs, hrs, hx⟩ := readLines_eq_ok.1 hout
    exact ⟨rs, hrs, exists_shared_iff.1 ⟨out, hx, rfl, rfl⟩⟩
  · rintro ⟨rs, hrs, h⟩
    obtain ⟨out, hx, hk, hp⟩ := exists_shared_iff.2 h
    refine bind_eq_ok.2 ⟨(out, c.count), readLines_eq_ok.2 ⟨rs, hrs, hx⟩, ?_⟩
    cases c
    cases hk
    cases hp
    rfl

/-! ## 3. Strict and shared

The strict readers ask more of a text than the shared one, and where it has what they
ask for they find the same. -/

/-- Whether every kept line of a text has a record with a property. -/
def EveryKept (s : Settings) (text : String) (p : KeptRecord → Prop) : Prop :=
  ∀ l ∈ Text.lines text.toList, ∀ r, classify s l = .ok (.kept r) → p r

theorem forall_readLines_iff {first : Nat} {ls : List (List Char)} {rs : List (Nat × KeptRecord)}
    {count : LineCount} {p : KeptRecord → Prop}
    (h : readLines origin (classify s) first ls = .ok (rs, count)) :
    (∀ x ∈ rs, p x.2) ↔ ∀ l ∈ ls, ∀ r, classify s l = .ok (.kept r) → p r := by
  induction ls generalizing first rs count with
  | nil =>
    cases h
    simp
  | cons l ls ih =>
    obtain ⟨c, ⟨rs', count'⟩, hc, hr, hout⟩ := readLines_cons_eq_ok.1 h
    rw [List.forall_mem_cons, ← ih hr, hc]
    cases c <;> cases hout <;> simp

theorem forall_keptLines_iff {text : String} {rs : List (Nat × KeptRecord)} {count : LineCount}
    {p : KeptRecord → Prop} (h : keptLines s origin text = .ok (rs, count)) :
    (∀ x ∈ rs, p x.2) ↔ EveryKept s text p :=
  forall_readLines_iff h

/-- The first pass finds the same under any name of the capture. -/
theorem keptLines_unique {origin' text : String} {a b : List (Nat × KeptRecord) × LineCount}
    (ha : keptLines s origin text = .ok a) (hb : keptLines s origin' text = .ok b) : a = b :=
  Except.ok.inj ((readLines_origin origin' ha).symm.trans hb)

/-- A record that carries both sides of a shared capture. -/
def CarriesBoth (s : Settings) (r : KeptRecord) : Prop :=
  r.carries s.kernelKey ∧ r.carries s.probeKey

theorem allCarry_of_measured {key : String} {rs : List (Nat × KeptRecord)}
    {records : List LineRecord} (h : List.Forall₂ (Measured s key) rs records) :
    AllCarry key rs := by
  induction h with
  | nil => exact List.forall_mem_nil _
  | cons hx _ ih => exact List.forall_mem_cons.2 ⟨carries_of_measurements hx.2.2, ih⟩

/-- **Both strict readers succeed** exactly when the shared one does and every kept line
carries both sides. The records and the counts are the same. -/
theorem strict_iff_shared {text origin₁ origin₂ : String} {kernel probe : List LineRecord}
    {count₁ count₂ : LineCount} :
    (readCapture s .kernelSocket origin₁ text = .ok (kernel, count₁) ∧
        readCapture s .inKernelProbe origin₂ text = .ok (probe, count₂)) ↔
      (readSharedCapture s origin text = .ok ⟨kernel, probe, count₁⟩ ∧ count₂ = count₁) ∧
        EveryKept s text (CarriesBoth s) := by
  have hkernel : s.captureKey? .kernelSocket = some s.kernelKey := rfl
  have hprobe : s.captureKey? .inKernelProbe = some s.probeKey := rfl
  rw [readCapture_eq_ok hkernel, readCapture_eq_ok hprobe, readSharedCapture_eq_ok]
  constructor
  · rintro ⟨⟨rs, hrs, hk⟩, ⟨rs', hrs', hp⟩⟩
    -- the two strict readers have kept the same records
    cases keptLines_unique hrs hrs'
    have hck : AllCarry s.kernelKey rs := allCarry_of_measured hk
    have hcp : AllCarry s.probeKey rs := allCarry_of_measured hp
    refine ⟨⟨⟨rs, readLines_origin origin hrs, fun x hx => .inl (hck x hx), ?_, ?_⟩, rfl⟩, ?_⟩
    · rw [carrying_eq_self hck]
      exact hk
    · rw [carrying_eq_self hcp]
      exact hp
    · exact (forall_keptLines_iff hrs).1 fun x hx => ⟨hck x hx, hcp x hx⟩
  · -- where all records carry both sides, no record is passed over for either
    rintro ⟨⟨⟨rs, hrs, -, hk, hp⟩, rfl⟩, hboth⟩
    have hc := (forall_keptLines_iff hrs).2 hboth
    rw [carrying_eq_self fun x hx => (hc x hx).1] at hk
    rw [carrying_eq_self fun x hx => (hc x hx).2] at hp
    exact ⟨⟨rs, readLines_origin origin₁ hrs, hk⟩, ⟨rs, readLines_origin origin₂ hrs, hp⟩⟩

/-! ## 4. One side of a shared capture

For one source, a kept line that does not carry it might as well be empty. -/

/-- Whether a line is kept and carries nothing under a key. -/
def lacks (s : Settings) (key : String) (line : List Char) : Bool :=
  match classify s line with
  | .ok (.kept r) => !r.carries key
  | _ => false

/-- The lines with those emptied that are kept and carry nothing under a key. -/
def emptiedLines (s : Settings) (key : String) (ls : List (List Char)) : List (List Char) :=
  ls.map fun l => if lacks s key l then [] else l

/-- Whether a text is another one with the lines emptied that carry nothing under a key.
No line is lost. -/
def Emptied (s : Settings) (key text text' : String) : Prop :=
  Text.lines text'.toList = emptiedLines s key (Text.lines text.toList)

theorem exists_emptied (s : Settings) (key text : String) : ∃ text', Emptied s key text text' := by
  refine ⟨String.ofList (Text.ofLines (emptiedLines s key (Text.lines text.toList))), ?_⟩
  unfold Emptied
  rw [String.toList_ofList]
  refine Text.lines_ofLines fun l hl => ?_
  obtain ⟨l', hl', rfl⟩ := List.mem_map.1 hl
  by_cases hlacks : lacks s key l'
  · rw [if_pos hlacks]
    exact List.not_mem_nil
  · rw [if_neg hlacks]
    exact Text.not_mem_of_mem_lines hl'

/-- The first pass over the emptied lines keeps the records that carry something. Their
numbers stay, since an emptied line is blank and still a line. -/
theorem readLines_emptied (key : String) {first : Nat} {ls : List (List Char)}
    {rs : List (Nat × KeptRecord)} {count : LineCount}
    (h : readLines origin (classify s) first ls = .ok (rs, count)) :
    ∃ count', readLines origin (classify s) first (emptiedLines s key ls) =
      .ok (carrying key rs, count') := by
  induction ls generalizing first rs count with
  | nil =>
    cases h
    exact ⟨_, rfl⟩
  | cons l ls ih =>
    obtain ⟨c, ⟨rs', count'⟩, hc, hr, hout⟩ := readLines_cons_eq_ok.1 h
    obtain ⟨count'', hr'⟩ := ih hr
    unfold emptiedLines
    rw [List.map_cons]
    have hread (l' : List Char) (c' : LineContent KeptRecord) (hc' : classify s l' = .ok c') :
        readLines origin (classify s) first (l' :: emptiedLines s key ls) =
          .ok (c'.enter first (carrying key rs', count'')) :=
      readLines_cons_eq_ok.2 ⟨c', _, hc', hr', rfl⟩
    -- only a kept line can be emptied, and it is when its record is filtered out
    cases c with
    | blank | discarded =>
      cases hout
      rw [if_neg (by simp [lacks, hc])]
      exact ⟨_, hread l _ hc⟩
    | kept r =>
      cases hout
      unfold carrying
      rw [List.filter_cons]
      by_cases hcarries : r.carries key
      · rw [if_neg (by simp [lacks, hc, hcarries]), if_pos hcarries]
        exact ⟨_, hread l _ hc⟩
      · rw [if_pos (by simp [lacks, hc, hcarries]), if_neg hcarries]
        exact ⟨_, hread [] _ classify_nil⟩

/-- **One side of a shared capture** is what the strict reader of its source finds in the
text with the other lines emptied. -/
theorem readCapture_emptied {source : Source} {key text text' : String}
    (hkey : s.captureKey? source = some key) {rs : List (Nat × KeptRecord)} {count : LineCount}
    {records : List LineRecord} (hrs : keptLines s origin text = .ok (rs, count))
    (hrecords : List.Forall₂ (Measured s key) (carrying key rs) records)
    (htext : Emptied s key text text') :
    ∃ count', readCapture s source origin text' = .ok (records, count') := by
  obtain ⟨count', h⟩ := readLines_emptied key hrs
  rw [← htext] at h
  exact ⟨count', (readCapture_eq_ok hkey).2 ⟨_, h, hrecords⟩⟩

end FlowTriad
