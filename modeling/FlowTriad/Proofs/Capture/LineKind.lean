/-
`Proofs/Capture/LineKind.lean` -- what a line is to a capture, and what is read of it.

Which lines a capture of one source may have can be said by looking at them through paths:
a line is blank, or a document whose state is another one than is asked for, or a document
whose state is the one asked for and that has a timestamp and measurements; every other
line is offending (`kindOf`). Nothing of this depends on the order in which a reader looks.

The reader stops asking as soon as the state is another one. What it makes of a line is told
by the kind nonetheless, and it makes nothing of an offending one (`readLine_eq_ok_iff`).
-/
import FlowTriad.Proofs.Capture.Contents
import FlowTriad.Proofs.Json.Requirement

set_option autoImplicit false

namespace FlowTriad

open Json (Part Members)

variable {s : Settings} {key : String} {line : List Char} {j : Json}

/-! ## 1. Kinds of lines -/

/-- What a line is to a capture. -/
inductive LineKind where
  | blank
  | discarded
  /-- Kept, with its timestamp and the members of its measurements. -/
  | kept (stamp : String) (metrics : Members)
  | offending

namespace LineKind

def isBlank : LineKind → Bool
  | blank => true
  | _ => false

def isDiscarded : LineKind → Bool
  | discarded => true
  | _ => false

def isKept : LineKind → Bool
  | kept _ _ => true
  | _ => false

instance (k : LineKind) : Decidable (k = offending) :=
  match k with
  | offending => isTrue rfl
  | blank | discarded | kept _ _ => isFalse LineKind.noConfusion

end LineKind

/-- The paths to the state of a record, to its timestamp, and to the measurements of a
capture. -/
def statePath : List Part := [.member "flow-lifecycle", .member "state"]

@[inherit_doc statePath]
def stampPath : List Part := [.member "flow-lifecycle", .member "current-time"]

@[inherit_doc statePath]
def metricsPath (s : Settings) (key : String) : List Part := [.member key, .member s.metricsKey]

/-- The kind of a line that is a document. Of one with another state than is asked for
nothing else matters. -/
def recordKind (s : Settings) (key : String) (j : Json) : LineKind :=
  match j.at? statePath with
  | some (.string state) =>
      if state ≠ s.lifecycleState then .discarded
      else
        match j.at? stampPath, j.at? (metricsPath s key) with
        | some (.string stamp), some (.object metrics) => .kept stamp metrics
        | _, _ => .offending
  | _ => .offending

/-- **The kind of a line**, for a capture whose measurements are under a key. -/
def kindOf (s : Settings) (key : String) (line : List Char) : LineKind :=
  if line.all Text.isBlank then .blank
  else
    match Json.read line with
    | .error _ => .offending
    | .ok j => recordKind s key j

theorem recordKind_ne_blank : recordKind s key j ≠ .blank := by
  unfold recordKind
  split
  · split
    · exact LineKind.noConfusion
    · split <;> exact LineKind.noConfusion
  · exact LineKind.noConfusion

theorem recordKind_eq_discarded :
    recordKind s key j = .discarded ↔
      ∃ state, j.at? statePath = some (.string state) ∧ state ≠ s.lifecycleState := by
  unfold recordKind
  split
  · next state hstate =>
    rw [hstate]
    by_cases hother : state ≠ s.lifecycleState
    · rw [if_pos hother]
      exact ⟨fun _ => ⟨state, rfl, hother⟩, fun _ => rfl⟩
    · rw [if_neg hother]
      constructor
      · intro h
        split at h <;> cases h
      · rintro ⟨state', heq, hother'⟩
        cases heq
        exact absurd hother' hother
  · next hnone =>
    constructor
    · intro h
      cases h
    · rintro ⟨state, hstate, -⟩
      exact absurd hstate (hnone state)

theorem recordKind_eq_kept {stamp : String} {metrics : Members} :
    recordKind s key j = .kept stamp metrics ↔
      j.at? statePath = some (.string s.lifecycleState) ∧
        j.at? stampPath = some (.string stamp) ∧
        j.at? (metricsPath s key) = some (.object metrics) := by
  unfold recordKind
  constructor
  · intro h
    split at h
    · next state hstate =>
      by_cases hother : state ≠ s.lifecycleState
      · rw [if_pos hother] at h
        cases h
      · rw [if_neg hother] at h
        rw [hstate, not_not.1 hother]
        split at h
        · next hstamp hmetrics =>
          cases h
          exact ⟨rfl, hstamp, hmetrics⟩
        · cases h
    · cases h
  · rintro ⟨hstate, hstamp, hmetrics⟩
    simp only [hstate, hstamp, hmetrics, ne_eq, not_true_eq_false, if_false]

theorem allBlank_iff : line.all Text.isBlank ↔ Text.AllBlank line :=
  List.all_eq_true

/-- A line that is a document is not blank. -/
theorem kindOf_of_document (hj : Json.read line = .ok j) :
    kindOf s key line = recordKind s key j := by
  unfold kindOf
  rw [if_neg fun hblank => Json.read_ne_ok_of_allBlank (allBlank_iff.1 hblank) j hj, hj]

theorem kindOf_eq_blank : kindOf s key line = .blank ↔ Text.AllBlank line := by
  rw [← allBlank_iff]
  unfold kindOf
  by_cases hblank : line.all Text.isBlank
  · rw [if_pos hblank]
    exact ⟨fun _ => hblank, fun _ => rfl⟩
  · rw [if_neg hblank]
    refine ⟨fun h => ?_, fun h => absurd h hblank⟩
    cases hj : Json.read line with
    | error n => simp [hj] at h
    | ok j => exact absurd (by simpa only [hj] using h) recordKind_ne_blank

/-- A line that is neither blank nor offending is a document. -/
theorem document_of_kindOf {k : LineKind} (h : kindOf s key line = k) (hblank : k ≠ .blank)
    (hoffending : k ≠ .offending) : ∃ j, Json.read line = .ok j ∧ recordKind s key j = k := by
  cases hj : Json.read line with
  | ok j => exact ⟨j, rfl, kindOf_of_document hj ▸ h⟩
  | error n =>
    unfold kindOf at h
    rw [hj] at h
    split at h
    · exact absurd h.symm hblank
    · exact absurd h.symm hoffending

/-- **A discarded line** is an object whose lifecycle is an object with another state.
Nothing else is required of it. -/
theorem kindOf_eq_discarded :
    kindOf s key line = .discarded ↔
      ∃ j state, Json.read line = .ok j ∧ j.at? statePath = some (.string state) ∧
        state ≠ s.lifecycleState := by
  constructor
  · intro h
    obtain ⟨j, hj, hkind⟩ := document_of_kindOf h LineKind.noConfusion LineKind.noConfusion
    obtain ⟨state, hstate⟩ := recordKind_eq_discarded.1 hkind
    exact ⟨j, state, hj, hstate⟩
  · rintro ⟨j, state, hj, hstate⟩
    rw [kindOf_of_document hj]
    exact recordKind_eq_discarded.2 ⟨state, hstate⟩

/-- **A kept line** has the state asked for, a timestamp, and the measurements of its
capture. -/
theorem kindOf_eq_kept {stamp : String} {metrics : Members} :
    kindOf s key line = .kept stamp metrics ↔
      ∃ j, Json.read line = .ok j ∧ j.at? statePath = some (.string s.lifecycleState) ∧
        j.at? stampPath = some (.string stamp) ∧
        j.at? (metricsPath s key) = some (.object metrics) := by
  constructor
  · intro h
    obtain ⟨j, hj, hkind⟩ := document_of_kindOf h LineKind.noConfusion LineKind.noConfusion
    exact ⟨j, hj, recordKind_eq_kept.1 hkind⟩
  · rintro ⟨j, hj, h⟩
    rw [kindOf_of_document hj]
    exact recordKind_eq_kept.2 h

/-! ## 2. What is read of a line -/

/-- What is extracted from a kept record of a capture of one source. -/
def recordContent (s : Settings) (key : String) (r : KeptRecord) :
    Except Defect (String × NumericFields) :=
  (measurements s key r).map (r.stamp, ·)

/-- What becomes of a record once its state is known. -/
def afterState (s : Settings) (ms lifecycle : Members) (state : String) :
    Except Defect (Option KeptRecord) := do
  if state ≠ s.lifecycleState then return none
  let stamp ← lifecycle.string "current-time" "flow-lifecycle.current-time"
  return some ⟨stamp, ms⟩

theorem readRecord_eq (hj : Json.read line = .ok j) :
    readRecord s line = (do
      let ms ← j.asObject "record"
      let lifecycle ← ms.object "flow-lifecycle" "flow-lifecycle"
      let state ← lifecycle.string "state" "flow-lifecycle.state"
      afterState s ms lifecycle state) := by
  unfold readRecord
  rw [hj]
  rfl

theorem afterState_eq_ok {ms lifecycle : Members} {state : String} {o : Option KeptRecord} :
    afterState s ms lifecycle state = .ok o ↔
      (state ≠ s.lifecycleState ∧ o = none) ∨
        state = s.lifecycleState ∧ ∃ stamp,
          lifecycle.get? "current-time" = some (.string stamp) ∧ o = some ⟨stamp, ms⟩ := by
  unfold afterState
  by_cases hstate : state = s.lifecycleState
  · rw [if_neg (not_not.2 hstate), bind_eq_ok]
    simp only [Json.string_eq_ok, hstate, ne_eq, not_true_eq_false, false_and, true_and, false_or]
    constructor
    · rintro ⟨stamp, hstamp, h⟩
      exact ⟨stamp, hstamp, (Except.ok.inj h).symm⟩
    · rintro ⟨stamp, hstamp, rfl⟩
      exact ⟨stamp, hstamp, rfl⟩
  · rw [if_pos hstate]
    simp only [hstate, ne_eq, not_false_eq_true, true_and, false_and, or_false]
    exact ⟨fun h => (Except.ok.inj h).symm, fun h => h ▸ rfl⟩

theorem readRecord_eq_ok (hj : Json.read line = .ok j) {o : Option KeptRecord} :
    readRecord s line = .ok o ↔
      ∃ (ms lifecycle : Members) (state : String), j = .object ms ∧
        ms.get? "flow-lifecycle" = some (.object lifecycle) ∧
        lifecycle.get? "state" = some (.string state) ∧
        afterState s ms lifecycle state = .ok o := by
  rw [readRecord_eq hj]
  simp only [bind_eq_ok, Json.asObject_eq_ok, Json.object_eq_ok, Json.string_eq_ok]
  constructor
  · rintro ⟨ms, rfl, lifecycle, hlifecycle, state, hstate, h⟩
    exact ⟨ms, lifecycle, state, rfl, hlifecycle, hstate, h⟩
  · rintro ⟨ms, lifecycle, state, rfl, hlifecycle, hstate, h⟩
    exact ⟨ms, rfl, lifecycle, hlifecycle, state, hstate, h⟩

theorem measurements_eq_ok {r : KeptRecord} {fields : NumericFields} :
    measurements s key r = .ok fields ↔
      ∃ capture metrics : Members, r.members.get? key = some (.object capture) ∧
        capture.get? s.metricsKey = some (.object metrics) ∧
        fields = NumericFields.ofMembers metrics := by
  unfold measurements
  simp only [bind_eq_ok, Json.object_eq_ok]
  constructor
  · rintro ⟨capture, hcapture, metrics, hmetrics, h⟩
    exact ⟨capture, metrics, hcapture, hmetrics, (Except.ok.inj h).symm⟩
  · rintro ⟨capture, metrics, hcapture, hmetrics, rfl⟩
    exact ⟨capture, hcapture, metrics, hmetrics, rfl⟩

/-- A record is passed over when its line is discarded. -/
theorem readRecord_eq_none (hj : Json.read line = .ok j) :
    readRecord s line = .ok none ↔ recordKind s key j = .discarded := by
  rw [readRecord_eq_ok hj, recordKind_eq_discarded]
  simp only [statePath, Json.at?_pair, afterState_eq_ok, and_true]
  constructor
  · rintro ⟨ms, lifecycle, state, rfl, hlifecycle, hstate, hother | ⟨-, stamp, -, h⟩⟩
    · exact ⟨state, ⟨ms, lifecycle, rfl, hlifecycle, hstate⟩, hother⟩
    · cases h
  · rintro ⟨state, ⟨ms, lifecycle, rfl, hlifecycle, hstate⟩, hother⟩
    exact ⟨ms, lifecycle, state, rfl, hlifecycle, hstate, .inl hother⟩

/-- A record has content when its line is kept. -/
theorem readRecord_eq_some (hj : Json.read line = .ok j) {stamp : String} {fields : NumericFields} :
    (∃ r, readRecord s line = .ok (some r) ∧ recordContent s key r = .ok (stamp, fields)) ↔
      ∃ metrics, recordKind s key j = .kept stamp metrics ∧
        fields = NumericFields.ofMembers metrics := by
  simp only [readRecord_eq_ok hj, recordKind_eq_kept, recordContent, map_eq_ok, measurements_eq_ok,
    afterState_eq_ok, statePath, stampPath, metricsPath, Json.at?_pair]
  constructor
  · rintro ⟨r, ⟨ms, lifecycle, state, rfl, hlifecycle, hstate, ⟨-, h⟩ | ⟨rfl, stamp, hstamp, h⟩⟩,
      fields', ⟨capture, metrics, hcapture, hmetrics, rfl⟩, heq⟩
    · cases h
    · cases h
      cases heq
      exact ⟨metrics, ⟨⟨ms, lifecycle, rfl, hlifecycle, hstate⟩,
        ⟨ms, lifecycle, rfl, hlifecycle, hstamp⟩, ms, capture, rfl, hcapture, hmetrics⟩, rfl⟩
  · rintro ⟨metrics, ⟨⟨ms, lifecycle, rfl, hlifecycle, hstate⟩,
      ⟨ms₁, lifecycle₁, h₁, hlifecycle₁, hstamp⟩, ms₂, capture, h₂, hcapture, hmetrics⟩, rfl⟩
    -- the three paths begin in one object, and the first two go on in one
    cases h₁
    cases h₂
    cases hlifecycle.symm.trans hlifecycle₁
    exact ⟨⟨stamp, ms⟩, ⟨ms, lifecycle, s.lifecycleState, rfl, hlifecycle, hstate,
      .inr ⟨rfl, stamp, hstamp, rfl⟩⟩, _, ⟨capture, metrics, hcapture, hmetrics, rfl⟩, rfl⟩

/-- What becomes of a line once its record has been read. -/
def afterRecord (s : Settings) (key : String) :
    Option KeptRecord → Except Defect (LineContent (String × NumericFields))
  | none => .ok .discarded
  | some r => (recordContent s key r).map .kept

theorem readLine_of_document (hj : Json.read line = .ok j) :
    readLine s (recordContent s key) line = readRecord s line >>= afterRecord s key := by
  unfold readLine
  rw [if_neg fun hblank => Json.read_ne_ok_of_allBlank (allBlank_iff.1 hblank) j hj]
  rcases readRecord s line with d | _ | r <;> rfl

theorem readRecord_of_no_document {n : ℕ} (hj : Json.read line = .error n) :
    readRecord s line = .error .notJson := by
  unfold readRecord
  rw [hj]
  rfl

/-- What is read of a line of a kind. -/
def LineKind.content? : LineKind → Option (LineContent (String × NumericFields))
  | .blank => some .blank
  | .discarded => some .discarded
  | .kept stamp metrics => some (.kept (stamp, NumericFields.ofMembers metrics))
  | .offending => none

/-- **A line is read** as its kind says, and not at all if it is offending. -/
theorem readLine_eq_ok_iff {c : LineContent (String × NumericFields)} :
    readLine s (recordContent s key) line = .ok c ↔ (kindOf s key line).content? = some c := by
  cases hj : Json.read line with
  | error n =>
    unfold readLine kindOf
    rw [readRecord_of_no_document hj, hj]
    by_cases hblank : line.all Text.isBlank
    · rw [if_pos hblank, if_pos hblank]
      simp [LineKind.content?]
    · rw [if_neg hblank, if_neg hblank]
      simp [LineKind.content?]
  | ok j =>
    rw [kindOf_of_document hj, readLine_of_document hj, bind_eq_ok]
    constructor
    · rintro ⟨o, ho, h⟩
      cases o with
      | none =>
        cases h
        rw [(readRecord_eq_none hj).1 ho]
        rfl
      | some r =>
        obtain ⟨⟨stamp, fields⟩, hcontent, rfl⟩ := map_eq_ok.1 h
        obtain ⟨metrics, hkind, rfl⟩ := (readRecord_eq_some hj).1 ⟨r, ho, hcontent⟩
        rw [hkind]
        rfl
    · intro h
      cases hkind : recordKind s key j with
      | blank => exact absurd hkind recordKind_ne_blank
      | discarded =>
        rw [hkind] at h
        cases h
        exact ⟨none, (readRecord_eq_none hj).2 hkind, rfl⟩
      | kept stamp metrics =>
        rw [hkind] at h
        cases h
        obtain ⟨r, hsome, hcontent⟩ := (readRecord_eq_some hj).2 ⟨metrics, hkind, rfl⟩
        exact ⟨some r, hsome, map_eq_ok.2 ⟨_, hcontent, rfl⟩⟩
      | offending =>
        rw [hkind] at h
        cases h

end FlowTriad
