/-
`Proofs/Capture/Format.lean` -- the format of a line-delimited capture.

The order in which a reader looks matters to an offending line, because it may be offending
for several reasons. The requirements of a record are a list, and a line is refused for the
first that it fails (`Blamed`). The reader does not know in advance that a line is
offending. It stops asking as soon as the state is another one; so for a document with the
state asked for all requirements count, and for any other those that come before the state
is known (`search_of_state`, `search_of_no_state`).

`capture_format` puts the lines together: a capture without an offending line is read, and
what is read is told by the kinds of its lines; another one is refused for its first
offending line.
-/
import FlowTriad.Proofs.Capture.Kept
import FlowTriad.Proofs.Capture.LineKind
import FlowTriad.Proofs.Items

set_option autoImplicit false

namespace FlowTriad

open Json (Members)
open Requirement (objectAt stringAt whole FirstFailing)

variable {s : Settings} {key origin text : String} {line : List Char} {j : Json}

/-! ## 1. What an offending line is refused for -/

/-- What is required of a record until its state is known. -/
def stateRequirements : List Requirement :=
  [whole "record", objectAt ["flow-lifecycle"], stringAt ["flow-lifecycle", "state"]]

/-- **The requirements of a record**, in the order in which they are made. -/
def recordRequirements (s : Settings) (key : String) : List Requirement :=
  stateRequirements ++
    [stringAt ["flow-lifecycle", "current-time"], objectAt [key], objectAt [key, s.metricsKey]]

theorem proper_recordRequirements : ∀ r ∈ recordRequirements s key, r.Proper := by
  simp [recordRequirements, stateRequirements, Requirement.proper_whole,
    Requirement.proper_objectAt, Requirement.proper_stringAt]

/-- What is wrong with an offending line: it is no document, or a document that fails the
requirements of a record, for the first of which it is blamed. -/
inductive Blamed (s : Settings) (key : String) (line : List Char) : Defect → Prop
  | notJson {n : ℕ} (h : Json.read line = .error n) : Blamed s key line .notJson
  | requirement {j : Json} {r : Requirement} (hj : Json.read line = .ok j)
      (hr : FirstFailing (recordRequirements s key) j r) : Blamed s key line (r.blame j)

/-- That what a line is blamed for is something absent or null. -/
def LacksFirst (s : Settings) (key : String) (line : List Char) : Prop :=
  ∃ j r, Json.read line = .ok j ∧ FirstFailing (recordRequirements s key) j r ∧ r.found? j = none

variable {ms lifecycle : Members}

/-- The requirements up to the state are made of every record; which others are is left
open here. -/
theorem search_readRecord (hj : Json.read line = .ok j) {later : List Requirement}
    (h : ∀ (ms lifecycle : Members) (state : String), j = .object ms →
      ms.get? "flow-lifecycle" = some (.object lifecycle) →
      lifecycle.get? "state" = some (.string state) →
      refusal? (afterState s ms lifecycle state) = later.findSome? (·.defect? j)) :
    refusal? (readRecord s line) = (stateRequirements ++ later).findSome? (·.defect? j) := by
  have hlist : stateRequirements ++ later = [whole "record"] ++ ([objectAt ["flow-lifecycle"]] ++
      ([stringAt ["flow-lifecycle", "state"]] ++ later)) := rfl
  rw [readRecord_eq hj, hlist]
  refine refusal?_bind (Requirement.search_whole "record" j) fun ms hms => ?_
  obtain rfl := Json.asObject_eq_ok.1 hms
  refine refusal?_bind (Requirement.search_object [] rfl rfl) fun lifecycle hl => ?_
  have hat : (Json.object ms).at? [.member "flow-lifecycle"] = some (.object lifecycle) :=
    Json.at?_of_object (p := []) rfl hl
  refine refusal?_bind (Requirement.search_string ["flow-lifecycle"] hat rfl)
    fun state hstate => ?_
  exact h ms lifecycle state rfl (Json.object_eq_ok.1 hl) (Json.string_eq_ok.1 hstate)

theorem search_measurements (s : Settings) (key stamp : String) (ms : Members) :
    refusal? (measurements s key ⟨stamp, ms⟩) =
      [objectAt [key], objectAt [key, s.metricsKey]].findSome? (·.defect? (.object ms)) := by
  unfold measurements
  refine refusal?_bind (Requirement.search_object [] rfl rfl) fun capture hcapture => ?_
  have hat : (Json.object ms).at? [.member key] = some (.object capture) :=
    Json.at?_of_object (p := []) rfl hcapture
  refine refusal?_bind (Requirement.search_object [key] hat rfl) fun _ _ => ?_
  exact List.findSome?_nil.symm

/-- A document has one state. -/
theorem state_unique {state state' : String} (hstate : j.at? statePath = some (.string state'))
    (hms : j = .object ms) (hl : ms.get? "flow-lifecycle" = some (.object lifecycle))
    (hfound : lifecycle.get? "state" = some (.string state)) : state = state' := by
  have hat := hstate.symm.trans (Json.at?_pair.2 ⟨ms, lifecycle, hms, hl, hfound⟩)
  cases hat
  rfl

/-- **A record in the state asked for** is searched for all requirements. -/
theorem search_of_state (hj : Json.read line = .ok j)
    (hstate : j.at? statePath = some (.string s.lifecycleState)) :
    refusal? (readLine s (recordContent s key) line) =
      (recordRequirements s key).findSome? (·.defect? j) := by
  have hrecord : refusal? (readRecord s line) =
      (stateRequirements ++ [stringAt ["flow-lifecycle", "current-time"]]).findSome?
        (·.defect? j) := by
    refine search_readRecord hj fun ms lifecycle state hms hl hfound => ?_
    have hat : j.at? [.member "flow-lifecycle"] = some (.object lifecycle) := by
      rw [hms, Json.at?_singleton]
      exact hl
    unfold afterState
    rw [if_neg (not_not.2 (state_unique hstate hms hl hfound))]
    refine refusal?_bind (Requirement.search_string ["flow-lifecycle"] hat rfl) fun _ _ => ?_
    exact List.findSome?_nil.symm
  have hlist : recordRequirements s key =
      (stateRequirements ++ [stringAt ["flow-lifecycle", "current-time"]]) ++
        [objectAt [key], objectAt [key, s.metricsKey]] := rfl
  rw [readLine_of_document hj, hlist]
  refine refusal?_bind hrecord fun o ho => ?_
  obtain ⟨ms, lifecycle, state, hms, hl, hfound, h⟩ := (readRecord_eq_ok hj).1 ho
  obtain ⟨hother, -⟩ | ⟨-, stamp, -, rfl⟩ := afterState_eq_ok.1 h
  · exact absurd (state_unique hstate hms hl hfound) hother
  · rw [hms, ← search_measurements s key stamp ms]
    unfold afterRecord recordContent
    rw [refusal?_map, refusal?_map]

/-- **Any other document** is searched for those up to the state, and passed over if it
meets them. -/
theorem search_of_no_state (hj : Json.read line = .ok j)
    (hstate : j.at? statePath ≠ some (.string s.lifecycleState)) :
    refusal? (readLine s (recordContent s key) line) =
      stateRequirements.findSome? (·.defect? j) := by
  have hother (ms lifecycle : Members) (state : String) (hms : j = .object ms)
      (hl : ms.get? "flow-lifecycle" = some (.object lifecycle))
      (hfound : lifecycle.get? "state" = some (.string state)) : state ≠ s.lifecycleState := by
    rintro rfl
    exact hstate (Json.at?_pair.2 ⟨ms, lifecycle, hms, hl, hfound⟩)
  have hrecord : refusal? (readRecord s line) =
      List.findSome? (fun r : Requirement => r.defect? j) (stateRequirements ++ []) := by
    refine search_readRecord hj fun ms lifecycle state hms hl hfound => ?_
    unfold afterState
    rw [if_pos (hother ms lifecycle state hms hl hfound), List.findSome?_nil]
    rfl
  have hrest (o : Option KeptRecord) (ho : readRecord s line = .ok o) :
      refusal? (afterRecord s key o) = ([] : List Requirement).findSome? (·.defect? j) := by
    obtain ⟨ms, lifecycle, state, hms, hl, hfound, h⟩ := (readRecord_eq_ok hj).1 ho
    obtain ⟨-, rfl⟩ | ⟨heq, -⟩ := afterState_eq_ok.1 h
    · rfl
    · exact absurd heq (hother ms lifecycle state hms hl hfound)
  have hline := refusal?_bind hrecord hrest
  rwa [← readLine_of_document hj, List.append_nil, List.append_nil] at hline

/-- What a document that is offending is refused for is found in the list of all
requirements, whichever of them have been asked. -/
theorem findSome?_of_refusal (hj : Json.read line = .ok j) {d : Defect}
    (h : readLine s (recordContent s key) line = .error d) :
    (recordRequirements s key).findSome? (·.defect? j) = some d := by
  have hd := refusal?_eq_some.2 h
  by_cases hstate : j.at? statePath = some (.string s.lifecycleState)
  · rwa [search_of_state hj hstate] at hd
  · rw [search_of_no_state hj hstate] at hd
    rw [recordRequirements, List.findSome?_append, hd, Option.some_or]

theorem blamed_of_refusal {d : Defect} (h : readLine s (recordContent s key) line = .error d) :
    Blamed s key line d := by
  cases hj : Json.read line with
  | error n =>
    have hd : d = .notJson := by
      unfold readLine at h
      rw [readRecord_of_no_document hj] at h
      split at h
      · cases h
      · cases h
        rfl
    rw [hd]
    exact .notJson hj
  | ok j =>
    obtain ⟨r, hr, rfl⟩ :=
      Requirement.findSome?_defect?_eq_some.1 (findSome?_of_refusal hj h)
    exact .requirement hj hr

/-- **A line is refused** if it is offending, and for what it is blamed for. -/
theorem exists_refusal_of_offending (h : kindOf s key line = .offending) :
    ∃ d, readLine s (recordContent s key) line = .error d ∧ Blamed s key line d := by
  cases hread : readLine s (recordContent s key) line with
  | error d => exact ⟨d, rfl, blamed_of_refusal hread⟩
  | ok c =>
    have hc := readLine_eq_ok_iff.1 hread
    rw [h] at hc
    cases hc

/-- **What is missing** is missing because it is absent or null; whatever else is wrong is
malformed. -/
theorem missing_iff_of_blamed {d : Defect} (h : Blamed s key line d) :
    (∃ path, d = .missing path) ↔ LacksFirst s key line := by
  cases h with
  | notJson hj =>
    constructor
    · rintro ⟨path, h⟩
      cases h
    · rintro ⟨j, r, hj', -, -⟩
      cases hj.symm.trans hj'
  | @requirement j r hj hr =>
    rw [Requirement.Proper.missing_iff (proper_recordRequirements r hr.mem)]
    constructor
    · intro hfound
      exact ⟨j, r, hj, hr, hfound⟩
    · rintro ⟨j', r', hj', hr', hfound⟩
      cases hj.symm.trans hj'
      rwa [hr.unique hr']

/-! ## 2. All lines -/

/-- The kept lines of a list with their numbers, of which `first` is that of the first
line. -/
def keptNumbered (s : Settings) (key : String) (first : ℕ) (ls : List (List Char)) :
    List (List Char × ℕ) :=
  (ls.zipIdx first).filter fun x => (kindOf s key x.1).isKept

/-- That a content was read from a kept line, and has its number. -/
def ContentOf (s : Settings) (key : String) (x : List Char × ℕ) (y : ℕ × String × NumericFields) :
    Prop :=
  y.1 = x.2 ∧ ∃ metrics, kindOf s key x.1 = .kept y.2.1 metrics ∧
    y.2.2 = NumericFields.ofMembers metrics

/-- **Lines without an offending one** are all read, one content from each kept line, and
counted by their kinds. -/
theorem readLines_of_kinds {ls : List (List Char)} (h : ∀ l ∈ ls, kindOf s key l ≠ .offending)
    (first : ℕ) :
    ∃ out count, readLines origin (readLine s (recordContent s key)) first ls = .ok (out, count) ∧
      List.Forall₂ (ContentOf s key) (keptNumbered s key first ls) out ∧
      count.lines = ls.countP (fun l => !(kindOf s key l).isBlank) ∧
      count.discarded = ls.countP fun l => (kindOf s key l).isDiscarded := by
  induction ls generalizing first with
  | nil => exact ⟨[], ⟨0, 0⟩, rfl, .nil, rfl, rfl⟩
  | cons l ls ih =>
    obtain ⟨hl, hls⟩ := List.forall_mem_cons.1 h
    obtain ⟨out, count, hread, hout, hlines, hdiscarded⟩ := ih hls (first + 1)
    have hcons (c : LineContent (String × NumericFields))
        (hc : (kindOf s key l).content? = some c) :=
      readLines_cons_eq_ok.2 ⟨c, (out, count), readLine_eq_ok_iff.2 hc, hread, rfl⟩
    unfold keptNumbered at hout ⊢
    rw [List.zipIdx_cons, List.filter_cons, List.countP_cons, List.countP_cons, ← hlines,
      ← hdiscarded]
    -- what is new is the first line: nothing, a discarded line, or a record
    cases hkind : kindOf s key l with
    | offending => exact absurd hkind hl
    | blank =>
      rw [hkind] at hcons
      exact ⟨out, count, hcons _ rfl, hout, rfl, rfl⟩
    | discarded =>
      rw [hkind] at hcons
      exact ⟨out, ⟨count.lines + 1, count.discarded + 1⟩, hcons _ rfl, hout, rfl, rfl⟩
    | kept stamp metrics =>
      rw [hkind] at hcons
      exact ⟨(first, stamp, NumericFields.ofMembers metrics) :: out,
        ⟨count.lines + 1, count.discarded⟩, hcons _ rfl, .cons ⟨rfl, metrics, hkind, rfl⟩ hout,
        rfl, rfl⟩

/-- **The first line that is refused** is what all lines are refused for. -/
theorem readLines_of_first {α : Type} {read : List Char → Except Defect (LineContent α)}
    {earlier later : List (List Char)} {d : Defect} (first : ℕ)
    (hearlier : ∀ l ∈ earlier, ∃ c, read l = .ok c) (hline : read line = .error d) :
    readLines origin read first (earlier ++ line :: later) =
      .error (.input origin (.line (first + earlier.length)) d) := by
  induction earlier generalizing first with
  | nil =>
    rw [List.nil_append, readLines, hline]
    rfl
  | cons l earlier ih =>
    obtain ⟨⟨c, hc⟩, hrest⟩ := List.forall_mem_cons.1 hearlier
    rw [List.cons_append, readLines, hc, ih (first + 1) hrest, List.length_cons,
      Nat.add_assoc first 1, Nat.add_comm 1]
    rfl

/-! ## 3. The capture of a source -/

theorem readCapture_eq {source : Source} (hkey : s.captureKey? source = some key) :
    readCapture s source origin text =
      (readLines origin (readLine s (recordContent s key)) 1 (Text.lines text.toList)).map
        fun (out, count) => (out.map fun (n, stamp, fields) => ⟨n, stamp, fields⟩, count) := by
  unfold readCapture
  rw [hkey]
  show (readLines origin (readLine s (recordContent s key)) 1 _ >>= _) = _
  cases readLines origin (readLine s (recordContent s key)) 1 (Text.lines text.toList) <;> rfl

/-- That a record is the one of a kept line: it has the line's number, its timestamp as it
is written, and the numbers among the members of its measurements, all of them and nothing
else. -/
structure RecordOf (s : Settings) (key : String) (x : List Char × ℕ) (r : LineRecord) : Prop where
  line : r.line = x.2
  content : ∃ metrics, kindOf s key x.1 = .kept r.stamp metrics ∧
    ∀ name, r.fields.get? name = (metrics.get? name).bind Json.float?

/-- The number fields of a kept line are the numbers among its measurements. -/
theorem get?_of_kept {stamp : String} {metrics : Members}
    (h : kindOf s key line = .kept stamp metrics) (name : String) :
    (NumericFields.ofMembers metrics).get? name = (metrics.get? name).bind Json.float? := by
  obtain ⟨j, hj, -, -, hmetrics⟩ := kindOf_eq_kept.1 h
  cases (Json.ordered_of_read hj).at? hmetrics with
  | object hsorted => exact NumericFields.get?_ofMembers hsorted name

/-- What is read of lines of which none is offending. -/
structure ReadAs (s : Settings) (key : String) (ls : List (List Char)) (rs : List LineRecord)
    (count : LineCount) : Prop where
  /-- There is one record for each kept line, in the order of the lines. -/
  records : List.Forall₂ (RecordOf s key) (keptNumbered s key 1 ls) rs
  increasing : rs.Pairwise fun a b => a.line < b.line
  lines : count.lines = ls.countP fun l => !(kindOf s key l).isBlank
  discarded : count.discarded = ls.countP fun l => (kindOf s key l).isDiscarded
  total : rs.length + count.discarded = count.lines

/-- What lines are refused for: the first offending one, with its number among all lines. -/
def RefusedFor (s : Settings) (key origin : String) (ls : List (List Char)) (f : Fault) : Prop :=
  ∃ earlier line later d, ls = earlier ++ line :: later ∧
    (∀ l ∈ earlier, kindOf s key l ≠ .offending) ∧ kindOf s key line = .offending ∧
    Blamed s key line d ∧ f = .input origin (.line (earlier.length + 1)) d

/-- The numbers of lines increase. -/
theorem increasing_keptNumbered (s : Settings) (key : String) (first : ℕ) (ls : List (List Char)) :
    ((keptNumbered s key first ls).map (·.2)).Pairwise (· < ·) := by
  have hsublist : ((keptNumbered s key first ls).map (·.2)).Sublist ((ls.zipIdx first).map (·.2)) :=
    List.Sublist.map _ List.filter_sublist
  refine List.Pairwise.sublist hsublist ?_
  rw [List.zipIdx_map_snd]
  exact List.pairwise_lt_range'

/-- **A capture without an offending line** is read. -/
theorem readCapture_of_kinds {source : Source} (hkey : s.captureKey? source = some key)
    (h : ∀ l ∈ Text.lines text.toList, kindOf s key l ≠ .offending) :
    ∃ records count, readCapture s source origin text = .ok (records, count) ∧
      ReadAs s key (Text.lines text.toList) records count := by
  obtain ⟨out, count, hread, hout, hlines, hdiscarded⟩ := readLines_of_kinds h 1
  have hcapture : readCapture s source origin text = _ := readCapture_eq hkey
  rw [hread] at hcapture
  refine ⟨_, count, hcapture, ?_⟩
  have hrecords : List.Forall₂ (RecordOf s key) (keptNumbered s key 1 (Text.lines text.toList))
      (out.map fun (n, stamp, fields) => ⟨n, stamp, fields⟩) := by
    refine List.forall₂_map_right_iff.2 (hout.imp ?_)
    rintro x ⟨n, stamp, fields⟩ ⟨hn, metrics, hkind, rfl⟩
    exact ⟨hn, metrics, hkind, get?_of_kept hkind⟩
  refine ⟨hrecords, ?_, hlines, hdiscarded, ?_⟩
  · have hnumbers : List.Forall₂ (fun x r => x = r)
        ((keptNumbered s key 1 (Text.lines text.toList)).map (·.2))
        ((out.map fun (n, stamp, fields) => (⟨n, stamp, fields⟩ : LineRecord)).map (·.line)) :=
      List.forall₂_map_left_iff.2 (List.forall₂_map_right_iff.2 (hrecords.imp fun _ _ hr =>
        hr.line.symm))
    rw [List.forall₂_eq_eq_eq] at hnumbers
    have hincreasing := increasing_keptNumbered s key 1 (Text.lines text.toList)
    rw [hnumbers] at hincreasing
    exact List.pairwise_map.1 hincreasing
  · obtain ⟨hmeasured, htotal⟩ := readCapture_measured hkey hcapture
    rw [← hmeasured.length_eq, htotal]

/-- **A capture with an offending line** is refused for the first. -/
theorem readCapture_of_offending {source : Source} (hkey : s.captureKey? source = some key)
    (h : ∃ l ∈ Text.lines text.toList, kindOf s key l = .offending) :
    ∃ f, readCapture s source origin text = .error f ∧
      RefusedFor s key origin (Text.lines text.toList) f := by
  obtain ⟨earlier, line, later, hsplit, hearlier, hline⟩ := exists_split_first h
  obtain ⟨d, hrefused, hblamed⟩ := exists_refusal_of_offending hline
  have hread : ∀ l ∈ earlier, ∃ c, readLine s (recordContent s key) l = .ok c := by
    intro l hl
    cases hkind : (kindOf s key l).content? with
    | some c => exact ⟨c, readLine_eq_ok_iff.2 hkind⟩
    | none =>
      refine absurd ?_ (hearlier l hl)
      cases hk : kindOf s key l <;> simp [hk, LineKind.content?] at hkind ⊢
  refine ⟨.input origin (.line (1 + earlier.length)) d, ?_, earlier, line, later, d, hsplit,
    hearlier, hline, hblamed, by rw [Nat.add_comm]⟩
  rw [readCapture_eq hkey, hsplit, readLines_of_first 1 hread hrefused]
  rfl

/-- **The format of a capture.** A capture of one source is read when it has no offending
line, and its records and counts are told by the kinds of its lines.

* With an offending line it is refused, for the first one, by its number among all lines.
* A line is blamed for the first requirement of a record that it fails, and is said to miss
  something just when what is required there is absent or null. -/
theorem capture_format {source : Source} (hkey : s.captureKey? source = some key)
    (origin text : String) :
    ((∀ l ∈ Text.lines text.toList, kindOf s key l ≠ .offending) →
      ∃ records count, readCapture s source origin text = .ok (records, count) ∧
        ReadAs s key (Text.lines text.toList) records count) ∧
    ((∃ l ∈ Text.lines text.toList, kindOf s key l = .offending) →
      ∃ f, readCapture s source origin text = .error f ∧
        RefusedFor s key origin (Text.lines text.toList) f) ∧
    ∀ line d, Blamed s key line d → ((∃ path, d = .missing path) ↔ LacksFirst s key line) :=
  ⟨readCapture_of_kinds hkey, readCapture_of_offending hkey, fun _ _ => missing_iff_of_blamed⟩

/-- A record with a state and something under the kernel's key. -/
def recordInState (state capture : String) : String :=
  "\x7b\"flow-lifecycle\":\x7b\"state\":\"" ++ state ++
    "\",\"current-time\":\"soon\"\x7d,\"netlink\":" ++ capture ++ "\x7d"

/-- A blank line, a discarded one without measurements, and a kept one. -/
def mixedCapture : String :=
  "\t\n" ++ recordInState "start" "null" ++ "\n" ++
    recordInState "ongoing" "\x7b\"tcpInfo\":\x7b\"rtt\":5,\"opts\":[]\x7d\x7d" ++ "\n"

/-- The capture is read; with one more line, whose measurements are null, it is refused. -/
theorem capture_format_mixed :
    ({} : Settings).captureKey? .kernelSocket = some "netlink" ∧
    (∃ records count, readCapture {} .kernelSocket "f" mixedCapture = .ok (records, count) ∧
      ReadAs {} "netlink" (Text.lines mixedCapture.toList) records count) ∧
    ∃ f, readCapture {} .kernelSocket "f" (mixedCapture ++ recordInState "ongoing" "null") =
        .error f ∧
      RefusedFor {} "netlink" "f"
        (Text.lines (mixedCapture ++ recordInState "ongoing" "null").toList) f := by
  have hkey : ({} : Settings).captureKey? .kernelSocket = some "netlink" := rfl
  have hread : ∀ l ∈ Text.lines mixedCapture.toList, kindOf {} "netlink" l ≠ .offending := by
    decide +kernel
  have hrefused : ∃ l ∈ Text.lines (mixedCapture ++ recordInState "ongoing" "null").toList,
      kindOf {} "netlink" l = .offending := by
    decide +kernel
  exact ⟨hkey, (capture_format hkey "f" _).1 hread, (capture_format hkey "f" _).2.1 hrefused⟩

end FlowTriad
