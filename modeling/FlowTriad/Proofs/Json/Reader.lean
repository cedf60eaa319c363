/-
`Proofs/Json/Reader.lean` -- the members of a document are in order.

A JSON value may list its members in any order and name one twice; a document that was
read from a text may not, since the reader puts every member at its name's place and
keeps the last of one name. That is an invariant of the reading machine: what is open on
its stack is in order, so what it closes is (`step_ordered`, `ordered_of_read`).

So the number fields of an object of a document are exactly its members that are numbers
(`get?_ofMembers`): no two of one name compete.

The last section says that white space alone is no document, not even where it is white
space that the format does not know.
-/
import FlowTriad.Capture.Record
import FlowTriad.Json.Reader
import FlowTriad.Proofs.Keyed
import FlowTriad.Proofs.Text

set_option autoImplicit false

namespace FlowTriad

/-! ## 1. Number fields -/

/-- **The number fields of an object** in order are its members that are numbers. -/
theorem NumericFields.get?_ofMembers {ms : Json.Members} (h : Entries.Sorted ms) (name : String) :
    (NumericFields.ofMembers ms).get? name = (ms.get? name).bind Json.float? := by
  have hsorted : Entries.Sorted (ms.filterMap fun e => e.2.float?.map (e.1, ·)) := by
    refine List.Pairwise.filterMap _ (fun a b hab x hx y hy => ?_) h
    obtain ⟨x', -, rfl⟩ := Option.map_eq_some_iff.1 hx
    obtain ⟨y', -, rfl⟩ := Option.map_eq_some_iff.1 hy
    exact hab
  unfold NumericFields.ofMembers Keyed.get?
  rw [Keyed.entries_ofList hsorted]
  exact Entries.lookup_filterMap Json.float? h name

namespace Json

/-! ## 2. The reader keeps the order -/

/-- Whether every object in a value lists its members in the order of their names, each
name once. -/
inductive Ordered : Json → Prop
  | null : Ordered .null
  | bool (b : Bool) : Ordered (.bool b)
  | number (n : Number) : Ordered (.number n)
  | string (s : String) : Ordered (.string s)
  | array {items : List Json} (h : ∀ j ∈ items, Ordered j) : Ordered (.array items)
  | object {ms : Members} (hsorted : Entries.Sorted ms) (h : ∀ e ∈ ms, Ordered e.2) :
      Ordered (.object ms)

/-- An open array or object with nothing out of order so far. -/
def Frame.Ordered : Frame → Prop
  | .array items => ∀ j ∈ items, j.Ordered
  | .object ms _ => Entries.Sorted ms ∧ ∀ e ∈ ms, e.2.Ordered

/-- A mode that holds a value holds one in order. -/
def Mode.Ordered : Mode → Prop
  | .word _ meaning => meaning.Ordered
  | .finished document => document.Ordered
  | _ => True

/-- A state of the machine with nothing out of order. -/
structure State.Ordered (s : State) : Prop where
  stack : ∀ f ∈ s.stack, f.Ordered
  mode : s.mode.Ordered

/-- An outcome that leads to such a state, if to any. -/
def Outcome.Ordered : Outcome → Prop
  | .next s => s.Ordered
  | .refused | .tooLate => True

theorem deliver_ordered {v : Json} {fs : List Frame} (hv : v.Ordered) (hfs : ∀ f ∈ fs, f.Ordered) :
    (deliver v fs).Ordered := by
  cases fs with
  | nil => exact ⟨hfs, hv⟩
  | cons f fs =>
    obtain ⟨hf, hrest⟩ := List.forall_mem_cons.1 hfs
    cases f with
    | array items =>
      exact ⟨List.forall_mem_cons.2 ⟨List.forall_mem_cons.2 ⟨hv, hf⟩, hrest⟩, trivial⟩
    | object ms name =>
      refine ⟨List.forall_mem_cons.2 ⟨⟨Entries.sorted_insert name v hf.1, fun e he => ?_⟩, hrest⟩,
        trivial⟩
      rcases Entries.mem_insert he with rfl | he
      · exact hv
      · exact hf.2 e he

theorem enter_ordered {f : Frame} {m : Mode} {fs : List Frame} (hf : f.Ordered) (hm : m.Ordered)
    (hfs : ∀ f ∈ fs, f.Ordered) : (enter f m fs).Ordered := by
  unfold enter
  split
  · exact ⟨List.forall_mem_cons.2 ⟨hf, hfs⟩, hm⟩
  · trivial

theorem beginValue_ordered {fs : List Frame} (hfs : ∀ f ∈ fs, f.Ordered) (c : Char) :
    (beginValue fs c).Ordered := by
  unfold beginValue
  split
  · exact enter_ordered (List.forall_mem_nil _) trivial hfs
  · exact enter_ordered ⟨List.Pairwise.nil, List.forall_mem_nil _⟩ trivial hfs
  · exact ⟨hfs, trivial⟩
  · exact ⟨hfs, .null⟩
  · exact ⟨hfs, .bool true⟩
  · exact ⟨hfs, .bool false⟩
  · exact ⟨hfs, trivial⟩
  · split
    · exact ⟨hfs, trivial⟩
    · trivial

theorem afterItem_ordered {fs : List Frame} (hfs : ∀ f ∈ fs, f.Ordered) (c : Char) :
    (afterItem fs c).Ordered := by
  unfold afterItem
  split
  · exact ⟨hfs, trivial⟩
  · obtain ⟨hitems, hrest⟩ := List.forall_mem_cons.1 hfs
    exact deliver_ordered (.array fun j hj => hitems j (List.mem_reverse.1 hj)) hrest
  · exact ⟨hfs, trivial⟩
  · obtain ⟨hms, hrest⟩ := List.forall_mem_cons.1 hfs
    exact deliver_ordered (.object hms.1 hms.2) hrest
  · trivial

theorem endString_ordered {fs : List Frame} (hfs : ∀ f ∈ fs, f.Ordered) (role : Role)
    (read : List Char) : (endString fs role read).Ordered := by
  unfold endString
  split
  · obtain ⟨hms, hrest⟩ := List.forall_mem_cons.1 hfs
    exact ⟨List.forall_mem_cons.2 ⟨hms, hrest⟩, trivial⟩
  · exact deliver_ordered (.string _) hfs

theorem betweenTokens_ordered {s : State} (hs : s.Ordered) (c : Char) :
    (betweenTokens s c).Ordered := by
  unfold betweenTokens
  split
  · exact hs
  · split
    · exact beginValue_ordered hs.stack c
    · split
      · exact afterItem_ordered hs.stack c
      · exact beginValue_ordered hs.stack c
    · split
      · exact ⟨hs.stack, trivial⟩
      · split
        · exact afterItem_ordered hs.stack c
        · trivial
    · split
      · exact ⟨hs.stack, trivial⟩
      · trivial
    · split
      · exact ⟨hs.stack, trivial⟩
      · trivial
    · exact afterItem_ordered hs.stack c
    · trivial

theorem closeCode_ordered {role : Role} {read : List Char} {high : Option Nat} {n : Nat} {m : Mode}
    (h : closeCode role read high n = some m) : m.Ordered := by
  unfold closeCode at h
  split at h
  · split at h
    · cases h
      trivial
    · split at h
      · cases h
      · cases h
        trivial
  · split at h
    · cases h
      trivial
    · cases h

/-- Inside a string, what is to come next is more of the string. -/
theorem inString_ordered {role : Role} {read : List Char} {escape : Escape} {c : Char} {m : Mode}
    (h : inString role read escape c = some m) : m.Ordered := by
  cases escape with
  | none =>
    simp only [inString] at h
    split at h
    · cases h
      trivial
    · split at h
      · cases h
      · cases h
        trivial
  | backslash =>
    simp only [inString] at h
    split at h
    · cases h
      trivial
    · obtain ⟨e, -, rfl⟩ := Option.map_eq_some_iff.1 h
      trivial
  | code high bytes value spoilt =>
    -- whether the last of the four is a digit decides what is read, not where it leads
    simp only [inString] at h
    split at h
    · cases h
      trivial
    · split at h <;> split at h
      all_goals first | cases h | exact closeCode_ordered h
  | pairBackslash high | pairLetter high =>
    simp only [inString] at h
    split at h
    · cases h
      trivial
    · cases h

/-- **One character** leaves the order as it is. -/
theorem step_ordered {s : State} (hs : s.Ordered) (c : Char) : (step s c).Ordered := by
  obtain ⟨fs, m⟩ := s
  cases m with
  | string role read escape =>
    unfold step
    simp only
    split
    · exact endString_ordered hs.stack role read
    · cases hm : inString role read escape c with
      | none => trivial
      | some m => exact ⟨hs.stack, inString_ordered hm⟩
  | numeral n =>
    unfold step
    simp only
    split
    · exact ⟨hs.stack, trivial⟩
    · split
      · split
        · exact betweenTokens_ordered (deliver_ordered (.number _) hs.stack) c
        · trivial
      · trivial
  | word rest meaning =>
    unfold step
    simp only
    split
    · trivial
    · split
      · exact deliver_ordered hs.mode hs.stack
      · trivial
    · split
      · exact ⟨hs.stack, hs.mode⟩
      · trivial
  | value | firstItem | firstName | name | colon | separator | finished =>
    exact betweenTokens_ordered hs c

/-- **A whole text** leaves it too. -/
theorem run_ordered {s t : State} {cs : List Char} (hs : s.Ordered) (h : run s cs = .ok t) :
    t.Ordered := by
  induction cs generalizing s with
  | nil =>
    cases h
    exact hs
  | cons c cs ih =>
    have hstep := step_ordered hs c
    unfold run at h
    cases hc : step s c with
    | next u =>
      rw [hc] at h hstep
      exact ih hstep h
    | refused | tooLate =>
      rw [hc] at h
      cases h

theorem read_eq_ok {text : List Char} {j : Json} :
    read text = .ok j ↔ ∃ s, run ⟨[], .value⟩ text = .ok s ∧ s.document? = some j := by
  unfold read
  cases run ⟨[], .value⟩ text with
  | error rest => simp
  | ok s => cases hd : s.document? <;> simp [hd]

/-- **A document is in order**: no object in it names a member twice. -/
theorem ordered_of_read {text : List Char} {j : Json} (h : read text = .ok j) : j.Ordered := by
  obtain ⟨s, hrun, hdocument⟩ := read_eq_ok.1 h
  have hstart : State.Ordered ⟨[], .value⟩ := ⟨List.forall_mem_nil _, trivial⟩
  have hm : s.mode.Ordered := (run_ordered hstart hrun).mode
  unfold State.document? at hdocument
  split at hdocument
  · next hmode =>
    cases hdocument
    rw [hmode] at hm
    exact hm
  · obtain ⟨n, -, rfl⟩ := Option.map_eq_some_iff.1 hdocument
    exact .number n
  · cases hdocument

/-! ## 3. White space is no document -/

/-- No value begins with white space. -/
theorem beginValue_of_isBlank {c : Char} (h : Text.isBlank c) (fs : List Frame) :
    beginValue fs c = .refused := by
  have hdigit : Text.isDigit c = false := by
    rw [← Bool.not_eq_true]
    intro hd
    rw [Text.isBlank_of_isDigit hd] at h
    cases h
  have hne (d : Char) (hd : Text.isBlank d = false) : c ≠ d := by
    rintro rfl
    rw [h] at hd
    cases hd
  have hnone : PartialNumeral.take? ⟨.sign, false, [], [], false, []⟩ c = none := by
    simp [PartialNumeral.take?, hdigit]
  unfold beginValue
  split
  case h_8 => rw [hnone]
  all_goals exact absurd rfl (hne _ (by decide))

/-- Before a document, white space is skipped or refused. -/
theorem run_of_allBlank {cs : List Char} (h : Text.AllBlank cs) {s : State}
    (hrun : run ⟨[], .value⟩ cs = .ok s) : s = ⟨[], .value⟩ := by
  induction cs with
  | nil =>
    cases hrun
    rfl
  | cons c cs ih =>
    obtain ⟨hc, hcs⟩ := List.forall_mem_cons.1 h
    unfold run at hrun
    have hstep : step ⟨[], .value⟩ c = if isSpace c then .next ⟨[], .value⟩ else .refused := by
      show betweenTokens ⟨[], .value⟩ c = _
      unfold betweenTokens
      rw [beginValue_of_isBlank hc]
    rw [hstep] at hrun
    by_cases hspace : isSpace c
    · rw [if_pos hspace] at hrun
      exact ih hcs hrun
    · rw [if_neg hspace] at hrun
      cases hrun

/-- **White space alone** is no document. -/
theorem read_ne_ok_of_allBlank {cs : List Char} (h : Text.AllBlank cs) (j : Json) :
    read cs ≠ .ok j := by
  intro hread
  obtain ⟨s, hrun, hdocument⟩ := read_eq_ok.1 hread
  rw [run_of_allBlank h hrun] at hdocument
  cases hdocument

end Json

end FlowTriad
