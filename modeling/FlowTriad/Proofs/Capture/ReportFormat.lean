/-
`Proofs/Capture/ReportFormat.lean` -- the format of a report, and what of it is looked at.

A document is a report when it has the time at which it began, an array of intervals, and
in each interval the stream that the settings select, with a duration (`IsReport`). What is
read are the time and, one for one, the durations and the numbers of the selected streams
(`ReportOf`). Null is treated in two ways: on the way to the time it is as good as nothing,
in the place of an array, a stream or a duration it is something of the wrong form. The two
lists of requirements say which is which, and a document is refused for the first that it
fails, those of its header before those of its intervals (`RefusedReport`).

Two documents may differ in all that is not looked at (`SameSelected`). They are then the
same to the reader, whether they are reports or not.
-/
import FlowTriad.Proofs.Capture.Report
import FlowTriad.Proofs.Items
import FlowTriad.Proofs.Json.Requirement

set_option autoImplicit false

namespace FlowTriad

open Json (Part Members)
open Requirement (arrayAt objectAt stringAt whole FirstFailing)

namespace Report

variable {s : Settings} {origin text : String} {document j : Json} {stream : ℕ}

/-! ## 1. What a report must have -/

/-- The path to the time at which a report began. -/
def timePath : List Part := [.member "start", .member "timestamp", .member "time"]

/-- The path from an interval to a stream. -/
def streamPath (stream : ℕ) : List Part := [.member "streams", .item stream]

/-- The stream in the words of a message. -/
def streamName (stream : ℕ) : String :=
  "streams[" ++ toString stream ++ "]"

/-- That an interval has a stream of the number. -/
def streamAt (stream : ℕ) : Requirement :=
  ⟨streamPath stream, .object, false, .missing (streamName stream),
    .notObject (streamName stream)⟩

/-- That a stream has a duration. -/
def durationAt (stream : ℕ) : Requirement :=
  ⟨streamPath stream ++ [.member "seconds"], .number, false,
    .missing (streamName stream ++ ".seconds"), .notNumber "seconds"⟩

/-- **The requirements of a document**, before its intervals are looked into. -/
def headerRequirements : List Requirement :=
  [whole "report", objectAt ["start"], objectAt ["start", "timestamp"],
    stringAt ["start", "timestamp", "time"], arrayAt "intervals"]

/-- **The requirements of an interval**. -/
def intervalRequirements (stream : ℕ) : List Requirement :=
  [whole "interval", arrayAt "streams", streamAt stream, durationAt stream]

/-- Whether a value is an interval: its stream has a duration. -/
def IsInterval (stream : ℕ) (j : Json) : Prop :=
  ∃ n, j.at? (streamPath stream ++ [.member "seconds"]) = some (.number n)

/-- Whether a document is a report. -/
def IsReport (stream : ℕ) (document : Json) : Prop :=
  (∃ time, document.at? timePath = some (.string time)) ∧
    ∃ items, document.at? [.member "intervals"] = some (.array items) ∧
      ∀ j ∈ items, IsInterval stream j

/-! ## 2. The header -/

theorem readHeader_eq_ok {time : String} {items : List Json} :
    readHeader document = .ok (time, items) ↔
      document.at? timePath = some (.string time) ∧
        document.at? [.member "intervals"] = some (.array items) := by
  unfold readHeader
  simp only [bind_eq_ok, Json.asObject_eq_ok, Json.object_eq_ok, Json.string_eq_ok,
    arrayMember_eq_ok, timePath, Json.at?, Option.bind_eq_some_iff, Json.part?_member_eq_some]
  constructor
  · rintro ⟨ms, rfl, start, hstart, timestamp, htimestamp, time', htime, items', hitems, h⟩
    cases h
    exact ⟨⟨_, ⟨ms, rfl, hstart⟩, _, ⟨start, rfl, htimestamp⟩, _, ⟨timestamp, rfl, htime⟩, rfl⟩,
      _, ⟨ms, rfl, hitems⟩, rfl⟩
  · rintro ⟨⟨_, ⟨ms, rfl, hstart⟩, _, ⟨start, rfl, htimestamp⟩, _, ⟨timestamp, rfl, htime⟩, ht⟩,
      _, ⟨ms', hms, hitems⟩, hi⟩
    cases ht
    cases hms
    cases hi
    exact ⟨ms, rfl, start, hstart, timestamp, htimestamp, time, htime, items, hitems, rfl⟩

theorem search_readHeader (document : Json) :
    refusal? (readHeader document) = headerRequirements.findSome? (·.defect? document) := by
  have hlist : headerRequirements = [whole "report"] ++ ([objectAt ["start"]] ++
      ([objectAt ["start", "timestamp"]] ++ ([stringAt ["start", "timestamp", "time"]] ++
        ([arrayAt "intervals"] ++ [])))) := rfl
  unfold readHeader
  rw [hlist]
  refine refusal?_bind (Requirement.search_whole "report" document) fun ms hms => ?_
  obtain rfl := Json.asObject_eq_ok.1 hms
  refine refusal?_bind (Requirement.search_object [] rfl rfl) fun start hstart => ?_
  have hat : (Json.object ms).at? [.member "start"] = some (.object start) :=
    Json.at?_of_object (p := []) rfl hstart
  refine refusal?_bind (Requirement.search_object ["start"] hat rfl) fun timestamp htimestamp => ?_
  have hat' := Json.at?_of_object hat htimestamp
  refine refusal?_bind (Requirement.search_string ["start", "timestamp"] hat' rfl) fun time _ => ?_
  refine refusal?_bind (Requirement.search_array "intervals" ms) fun items _ => ?_
  exact List.findSome?_nil.symm

/-! ## 3. One interval -/

/-- The step of the reader that selects the stream. -/
def selectStream (stream : ℕ) (streams : List Json) : Except Defect Members :=
  match streams[stream]? with
  | some v => v.asObject (streamName stream)
  | none => .error (.missing (streamName stream))

/-- The step of the reader that looks for the duration. -/
def durationOf (stream : ℕ) (selected : Members) : Except Defect Float :=
  match selected.get? "seconds" with
  | none => .error (.missing (streamName stream ++ ".seconds"))
  | some v =>
      match v.float? with
      | some x => .ok x
      | none => .error (.notNumber "seconds")

theorem readInterval_eq (index : ℕ) :
    readInterval stream index j = (do
      let interval ← j.asObject "interval"
      let streams ← arrayMember interval "streams"
      let selected ← selectStream stream streams
      let seconds ← durationOf stream selected
      return ⟨index, seconds, NumericFields.ofMembers selected⟩) := by
  unfold readInterval selectStream durationOf
  refine bind_congr fun interval => bind_congr fun streams => ?_
  cases streams[stream]? with
  | none => rfl
  | some v =>
    refine bind_congr fun selected => ?_
    dsimp only
    cases selected.get? "seconds" with
    | none => rfl
    | some w => cases w <;> rfl

theorem selectStream_eq_ok {streams : List Json} {selected : Members} :
    selectStream stream streams = .ok selected ↔ streams[stream]? = some (.object selected) := by
  unfold selectStream
  cases streams[stream]? with
  | none => simp
  | some v => rw [Json.asObject_eq_ok, Option.some.injEq]

theorem durationOf_eq_ok {selected : Members} {x : Float} :
    durationOf stream selected = .ok x ↔
      ∃ n, selected.get? "seconds" = some (.number n) ∧ n.toFloat = x := by
  unfold durationOf
  cases selected.get? "seconds" with
  | none => simp
  | some v => cases v <;> simp [Json.float?]

theorem at?_streamPath {selected : Json} :
    j.at? (streamPath stream) = some selected ↔
      ∃ (ms : Members) (streams : List Json), j = .object ms ∧
        ms.get? "streams" = some (.array streams) ∧ streams[stream]? = some selected := by
  rw [streamPath, Json.at?, Option.bind_eq_some_iff]
  simp only [Json.at?_singleton, Json.part?_member_eq_some, Json.part?_item_eq_some]
  constructor
  · rintro ⟨u, ⟨ms, rfl, ha⟩, streams, rfl, hb⟩
    exact ⟨ms, streams, rfl, ha, hb⟩
  · rintro ⟨ms, streams, rfl, ha, hb⟩
    exact ⟨_, ⟨ms, rfl, ha⟩, streams, rfl, hb⟩

/-- **An interval is read** from the selected stream. -/
theorem readInterval_eq_ok {index : ℕ} {i : Interval} :
    readInterval stream index j = .ok i ↔
      ∃ (selected : Members) (n : Json.Number),
        j.at? (streamPath stream) = some (.object selected) ∧
        selected.get? "seconds" = some (.number n) ∧
        i = ⟨index, n.toFloat, NumericFields.ofMembers selected⟩ := by
  rw [readInterval_eq]
  simp only [bind_eq_ok, Json.asObject_eq_ok, arrayMember_eq_ok, selectStream_eq_ok,
    durationOf_eq_ok, at?_streamPath]
  constructor
  · rintro ⟨ms, rfl, streams, hstreams, selected, hselected, _, ⟨n, hn, rfl⟩, h⟩
    exact ⟨selected, n, ⟨ms, streams, rfl, hstreams, hselected⟩, hn, (Except.ok.inj h).symm⟩
  · rintro ⟨selected, n, ⟨ms, streams, rfl, hstreams, hselected⟩, hn, rfl⟩
    exact ⟨ms, rfl, streams, hstreams, selected, hselected, _, ⟨n, hn, rfl⟩, rfl⟩

theorem search_selectStream {ms : Members} {streams : List Json}
    (hstreams : ms.get? "streams" = some (.array streams)) :
    refusal? (selectStream stream streams) =
      [streamAt stream].findSome? (·.defect? (.object ms)) := by
  have hfound : (streamAt stream).found? (.object ms) = streams[stream]? := by
    rw [Requirement.found?_eq rfl]
    show ((ms.get? "streams").bind _) = _
    rw [hstreams, Option.bind_some]
    exact Json.at?_singleton _ _
  rw [List.findSome?_singleton, Requirement.defect?, hfound]
  unfold selectStream
  cases streams[stream]? with
  | none => rfl
  | some v => cases v <;> rfl

theorem search_durationOf {ms selected : Members}
    (hselected : (Json.object ms).at? (streamPath stream) = some (.object selected)) :
    refusal? (durationOf stream selected) =
      [durationAt stream].findSome? (·.defect? (.object ms)) := by
  have hfound : (durationAt stream).found? (.object ms) = selected.get? "seconds" := by
    rw [Requirement.found?_eq rfl]
    exact Json.at?_member hselected "seconds"
  rw [List.findSome?_singleton, Requirement.defect?, hfound]
  unfold durationOf
  cases selected.get? "seconds" with
  | none => rfl
  | some v => cases v <;> rfl

theorem search_readInterval (index : ℕ) :
    refusal? (readInterval stream index j) =
      (intervalRequirements stream).findSome? (·.defect? j) := by
  have hlist : intervalRequirements stream = [whole "interval"] ++ ([arrayAt "streams"] ++
      ([streamAt stream] ++ ([durationAt stream] ++ []))) := rfl
  rw [readInterval_eq, hlist]
  refine refusal?_bind (Requirement.search_whole "interval" j) fun ms hms => ?_
  obtain rfl := Json.asObject_eq_ok.1 hms
  refine refusal?_bind (Requirement.search_array "streams" ms) fun streams hstreams => ?_
  have hstreams := arrayMember_eq_ok.1 hstreams
  refine refusal?_bind (search_selectStream hstreams) fun selected hselected => ?_
  have hat := at?_streamPath.2 ⟨ms, streams, rfl, hstreams, selectStream_eq_ok.1 hselected⟩
  refine refusal?_bind (search_durationOf hat) fun seconds _ => ?_
  exact List.findSome?_nil.symm

/-- What is an interval can be read at any position, and nothing else can. -/
theorem exists_readInterval_iff (index : ℕ) :
    (∃ i, readInterval stream index j = .ok i) ↔ IsInterval stream j := by
  unfold IsInterval
  simp only [readInterval_eq_ok]
  constructor
  · rintro ⟨i, selected, n, hselected, hn, -⟩
    exact ⟨n, (Json.at?_member hselected "seconds").trans hn⟩
  · rintro ⟨n, hn⟩
    rw [Json.at?_append, Option.bind_eq_some_iff] at hn
    obtain ⟨v, hv, hn⟩ := hn
    rw [Json.at?_singleton, Json.part?_member_eq_some] at hn
    obtain ⟨selected, rfl, hn⟩ := hn
    exact ⟨_, selected, n, hv, hn, rfl⟩

/-- What is no interval is refused for the first requirement that it fails. -/
theorem readInterval_eq_error {index : ℕ} {d : Defect} :
    readInterval stream index j = .error d ↔
      ∃ r, FirstFailing (intervalRequirements stream) j r ∧ r.blame j = d := by
  rw [← refusal?_eq_some, search_readInterval, Requirement.findSome?_defect?_eq_some]

/-! ## 4. All intervals -/

/-- **The first value that is no interval** is what all are refused for. -/
theorem readIntervals_eq_error_iff {first : ℕ} {js : List Json} {f : Fault} :
    readIntervals origin stream first js = .error f ↔
      ∃ earlier j later d, js = earlier ++ j :: later ∧ (∀ i ∈ earlier, IsInterval stream i) ∧
        readInterval stream (first + earlier.length) j = .error d ∧
        f = .input origin (.interval (first + earlier.length)) d := by
  induction js generalizing first with
  | nil =>
    constructor
    · intro h
      cases h
    · rintro ⟨earlier, j, later, d, h, -⟩
      cases earlier <;> cases h
  | cons j js ih =>
    rw [readIntervals, bind_eq_error]
    -- the position of the first item moves along with the list
    have hindex (earlier : List Json) :
        first + (j :: earlier).length = first + 1 + earlier.length := by
      rw [List.length_cons]
      omega
    constructor
    · rintro (h | ⟨i, hi, h⟩)
      · obtain ⟨d, hd, hf⟩ := located_eq_error.1 h
        exact ⟨[], j, js, d, rfl, List.forall_mem_nil _, hd, hf⟩
      · obtain h | ⟨rest, -, h⟩ := bind_eq_error.1 h
        · obtain ⟨earlier, k, later, d, rfl, hearlier, hd, hf⟩ := ih.1 h
          have hj := (exists_readInterval_iff first).1 ⟨i, located_eq_ok.1 hi⟩
          rw [← hindex] at hd hf
          exact ⟨j :: earlier, k, later, d, rfl, List.forall_mem_cons.2 ⟨hj, hearlier⟩, hd, hf⟩
        · cases h
    · rintro ⟨earlier, k, later, d, hsplit, hearlier, hd, hf⟩
      cases earlier with
      | nil =>
        cases hsplit
        exact .inl (located_eq_error.2 ⟨d, hd, hf⟩)
      | cons j' earlier =>
        cases hsplit
        obtain ⟨hj, hearlier⟩ := List.forall_mem_cons.1 hearlier
        obtain ⟨i, hi⟩ := (exists_readInterval_iff first).2 hj
        rw [hindex] at hd hf
        have hrest := ih.2 ⟨earlier, k, later, d, rfl, hearlier, hd, hf⟩
        exact .inr ⟨i, located_eq_ok.2 hi, bind_eq_error.2 (.inl hrest)⟩

/-! ## 5. The report -/

/-- That an interval is the one of an item of the array, with its position. Of the item only
the selected stream counts, with its duration and with all members that are numbers, of
which the duration is one. -/
structure IntervalOf (stream : ℕ) (x : Json × ℕ) (i : Interval) : Prop where
  index : i.index = x.2
  content : ∃ (selected : Members) (n : Json.Number),
    x.1.at? (streamPath stream) = some (.object selected) ∧
      selected.get? "seconds" = some (.number n) ∧ i.seconds = n.toFloat ∧
      ∀ name, i.fields.get? name = (selected.get? name).bind Json.float?
  duration : i.fields.get? "seconds" = some i.seconds

/-- What is read of a report. -/
structure ReportOf (stream : ℕ) (document : Json) (r : Report) : Prop where
  startTime : document.at? timePath = some (.string r.startTime)
  intervals : ∃ items, document.at? [.member "intervals"] = some (.array items) ∧
    List.Forall₂ (IntervalOf stream) items.zipIdx r.intervals

/-- What a document is refused for: the first requirement of its header that it fails, or
else, with its position, the first item of its array that is no interval, and of that the
first requirement. -/
inductive RefusedReport (stream : ℕ) (origin : String) (document : Json) : Fault → Prop
  | header {r : Requirement} (hr : FirstFailing headerRequirements document r) :
      RefusedReport stream origin document (.input origin .document (r.blame document))
  | interval {earlier later : List Json} {j : Json} {r : Requirement}
      (hheader : ∀ q ∈ headerRequirements, q.Met document)
      (hitems : document.at? [.member "intervals"] = some (.array (earlier ++ j :: later)))
      (hearlier : ∀ i ∈ earlier, IsInterval stream i)
      (hr : FirstFailing (intervalRequirements stream) j r) :
      RefusedReport stream origin document
        (.input origin (.interval earlier.length) (r.blame j))

theorem intervalOf_of_readFrom {x : Json × ℕ} {i : Interval} (hx : x.1.Ordered)
    (h : ReadFrom stream x i) : IntervalOf stream x i := by
  obtain ⟨selected, n, hselected, hn, rfl⟩ := readInterval_eq_ok.1 h
  have hfields (name : String) : (NumericFields.ofMembers selected).get? name =
      (selected.get? name).bind Json.float? := by
    cases hx.at? hselected with
    | object hsorted => exact NumericFields.get?_ofMembers hsorted name
  refine ⟨rfl, ⟨selected, n, hselected, hn, rfl, hfields⟩, ?_⟩
  show (NumericFields.ofMembers selected).get? "seconds" = _
  rw [hfields, hn]
  rfl

theorem readReport_of_document (hread : Json.read text.toList = .ok document) :
    readReport s origin text = ofDocument s origin document := by
  unfold readReport
  rw [hread]

theorem reportOf_of_readReport (hread : Json.read text.toList = .ok document) {r : Report}
    (h : readReport s origin text = .ok r) : ReportOf s.generatorStream document r := by
  obtain ⟨document', items, hread', hheader, hitems⟩ := readReport_eq_ok.1 h
  cases hread.symm.trans hread'
  obtain ⟨htime, harray⟩ := readHeader_eq_ok.1 hheader
  have hordered : ∀ j ∈ items, j.Ordered := by
    cases (Json.ordered_of_read hread).at? harray with
    | array h => exact h
  have hboth : List.Forall₂ (fun x i => x.1.Ordered ∧ ReadFrom s.generatorStream x i)
      items.zipIdx r.intervals :=
    (List.forall₂_and_left _ _).2 ⟨fun x hx => hordered _ (List.fst_mem_of_mem_zipIdx hx), hitems⟩
  exact ⟨htime, items, harray, hboth.imp fun _ _ h => intervalOf_of_readFrom h.1 h.2⟩

/-- **Acceptance**: what is a report can be read, and nothing else can. -/
theorem exists_readReport_iff (hread : Json.read text.toList = .ok document) :
    (∃ r, readReport s origin text = .ok r) ↔ IsReport s.generatorStream document := by
  have hintervals (items : List Json) :
      (∃ is, List.Forall₂ (ReadFrom s.generatorStream) items.zipIdx is) ↔
        ∀ j ∈ items, IsInterval s.generatorStream j := by
    rw [exists_forall₂_iff]
    constructor
    · intro h j hj
      obtain ⟨i, hi⟩ := List.mem_iff_getElem?.1 hj
      exact (exists_readInterval_iff i).1 (h (j, i) (List.mem_zipIdx_iff_getElem?.2 hi))
    · intro h x hx
      exact (exists_readInterval_iff x.2).2 (h x.1 (List.fst_mem_of_mem_zipIdx hx))
  unfold IsReport
  simp only [readReport_eq_ok, hread, readHeader_eq_ok, ← hintervals]
  constructor
  · rintro ⟨r, _, items, hdocument, ⟨htime, harray⟩, h⟩
    cases hdocument
    exact ⟨⟨_, htime⟩, items, harray, r.intervals, h⟩
  · rintro ⟨⟨time, htime⟩, items, harray, is, h⟩
    exact ⟨⟨time, is⟩, document, items, rfl, ⟨htime, harray⟩, h⟩

/-- **Refusal**: the header comes first, then the intervals in their order. -/
theorem readReport_eq_error_iff (hread : Json.read text.toList = .ok document) {f : Fault} :
    readReport s origin text = .error f ↔ RefusedReport s.generatorStream origin document f := by
  have hheader (d : Defect) : readHeader document = .error d ↔
      ∃ r, FirstFailing headerRequirements document r ∧ r.blame document = d := by
    rw [← refusal?_eq_some, search_readHeader, Requirement.findSome?_defect?_eq_some]
  have hmet : (∃ out, readHeader document = .ok out) ↔
      ∀ q ∈ headerRequirements, q.Met document := by
    rw [← refusal?_eq_none, search_readHeader, Requirement.findSome?_defect?_eq_none]
  rw [readReport_of_document hread, ofDocument, bind_eq_error]
  constructor
  · rintro (h | ⟨⟨time, items⟩, hout, h⟩)
    · obtain ⟨d, hd, rfl⟩ := located_eq_error.1 h
      obtain ⟨r, hr, rfl⟩ := (hheader d).1 hd
      exact .header hr
    · have hout := located_eq_ok.1 hout
      obtain h | ⟨is, -, h⟩ := bind_eq_error.1 h
      · obtain ⟨earlier, j, later, d, rfl, hearlier, hd, rfl⟩ := readIntervals_eq_error_iff.1 h
        rw [Nat.zero_add] at hd ⊢
        obtain ⟨r, hr, rfl⟩ := readInterval_eq_error.1 hd
        exact .interval (hmet.1 ⟨_, hout⟩) (readHeader_eq_ok.1 hout).2 hearlier hr
      · cases h
  · rintro (⟨hr⟩ | ⟨hheader', hitems, hearlier, hr⟩)
    · exact .inl (located_eq_error.2 ⟨_, (hheader _).2 ⟨_, hr, rfl⟩, rfl⟩)
    · obtain ⟨⟨time, items⟩, hout⟩ := hmet.2 hheader'
      cases hitems.symm.trans (readHeader_eq_ok.1 hout).2
      refine .inr ⟨_, located_eq_ok.2 hout, bind_eq_error.2 (.inl ?_)⟩
      refine readIntervals_eq_error_iff.2 ⟨_, _, _, _, rfl, hearlier,
        readInterval_eq_error.2 ⟨_, hr, rfl⟩, ?_⟩
      rw [Nat.zero_add]

/-! ## 6. What is not looked at -/

/-- That two members are arrays in some relation to each other, or else are the same or both
absent. -/
inductive SameArray (related : List Json → List Json → Prop) : Option Json → Option Json → Prop
  | same (o : Option Json) : SameArray related o o
  | array {items items' : List Json} (h : related items items') :
      SameArray related (some (.array items)) (some (.array items'))

/-- That two intervals agree on the selected stream, whatever other streams and other
members they have. -/
inductive SameInterval (stream : ℕ) : Json → Json → Prop
  | same (j : Json) : SameInterval stream j j
  | object {ms ms' : Members}
      (h : SameArray (fun streams streams' => streams'[stream]? = streams[stream]?)
        (ms.get? "streams") (ms'.get? "streams")) :
      SameInterval stream (.object ms) (.object ms')

/-- That two documents do, interval by interval, whatever other members they have. -/
inductive SameSelected (stream : ℕ) : Json → Json → Prop
  | same (j : Json) : SameSelected stream j j
  | object {ms ms' : Members} (hstart : ms'.get? "start" = ms.get? "start")
      (hintervals : SameArray (List.Forall₂ (SameInterval stream))
        (ms.get? "intervals") (ms'.get? "intervals")) :
      SameSelected stream (.object ms) (.object ms')

/-- Two such members are read alike, or are two arrays in the relation. -/
theorem arrayMember_of_same {related : List Json → List Json → Prop} {ms ms' : Members}
    {name : String} (h : SameArray related (ms.get? name) (ms'.get? name)) :
    arrayMember ms' name = arrayMember ms name ∨ ∃ items items', related items items' ∧
      arrayMember ms name = .ok items ∧ arrayMember ms' name = .ok items' := by
  unfold arrayMember
  generalize ms.get? name = o at h ⊢
  generalize ms'.get? name = o' at h ⊢
  cases h with
  | same => exact .inl rfl
  | array h => exact .inr ⟨_, _, h, rfl, rfl⟩

theorem readInterval_eq_of_same {j' : Json} (h : SameInterval stream j j') (index : ℕ) :
    readInterval stream index j' = readInterval stream index j := by
  cases h with
  | same => rfl
  | @object ms ms' h =>
    rw [readInterval_eq, readInterval_eq]
    show (arrayMember ms' "streams" >>= fun streams => selectStream stream streams >>= _) =
      (arrayMember ms "streams" >>= fun streams => selectStream stream streams >>= _)
    obtain heq | ⟨streams, streams', hselected, hread, hread'⟩ := arrayMember_of_same h
    · rw [heq]
    · rw [hread, hread']
      show (selectStream stream streams' >>= _) = (selectStream stream streams >>= _)
      unfold selectStream
      rw [hselected]

theorem readIntervals_eq_of_same {items items' : List Json}
    (h : List.Forall₂ (SameInterval stream) items items') (first : ℕ) :
    readIntervals origin stream first items' = readIntervals origin stream first items := by
  induction h generalizing first with
  | nil => rfl
  | cons hj _ ih =>
    rw [readIntervals, readIntervals, readInterval_eq_of_same hj]
    exact bind_congr fun i => by rw [ih]

/-- The steps of the reader that look for the time. -/
def timeOf (ms : Members) : Except Defect String := do
  let start ← ms.object "start" "start"
  let timestamp ← start.object "timestamp" "start.timestamp"
  timestamp.string "time" "start.timestamp.time"

theorem readHeader_object {ms : Members} :
    readHeader (.object ms) = (do
      let time ← timeOf ms
      let items ← arrayMember ms "intervals"
      return (time, items)) := by
  simp only [timeOf, bind_assoc]
  rfl

theorem timeOf_congr {ms ms' : Members} (h : ms'.get? "start" = ms.get? "start") :
    timeOf ms' = timeOf ms := by
  unfold timeOf Members.object Members.present?
  rw [h]

/-- **What is not selected does not matter**: documents that agree on the selected streams
are read alike, or refused alike. -/
theorem ofDocument_eq_of_same {document' : Json}
    (h : SameSelected s.generatorStream document document') :
    ofDocument s origin document' = ofDocument s origin document := by
  cases h with
  | same => rfl
  | @object ms ms' hstart hintervals =>
    unfold ofDocument
    rw [readHeader_object, readHeader_object, timeOf_congr hstart]
    cases timeOf ms with
    | error d => rfl
    | ok time =>
      -- all that can differ now are the items, and how they are read is settled
      obtain heq | ⟨items, items', hitems, hread, hread'⟩ := arrayMember_of_same hintervals
      · rw [heq]
      · rw [hread, hread']
        show (readIntervals origin s.generatorStream 0 items' >>= _) =
          (readIntervals origin s.generatorStream 0 items >>= _)
        rw [readIntervals_eq_of_same hitems]

/-! ## 7. The format -/

/-- **The format of a report.** A document is read just when it is a report, and what is
read are its time and, one for one, the durations and numbers of the selected streams.

* Otherwise it is refused, for the first requirement of its header that it fails, or else
  for the first item of its array that is no interval, by its position.
* A document that differs only in what is not selected is read alike, or refused alike. -/
theorem report_format (hread : Json.read text.toList = .ok document) (s : Settings)
    (origin : String) :
    ((∃ r, readReport s origin text = .ok r) ↔ IsReport s.generatorStream document) ∧
    (∀ r, readReport s origin text = .ok r → ReportOf s.generatorStream document r) ∧
    (∀ f, readReport s origin text = .error f ↔
      RefusedReport s.generatorStream origin document f) ∧
    ∀ (text' : String) (document' : Json), Json.read text'.toList = .ok document' →
      SameSelected s.generatorStream document document' →
      readReport s origin text' = readReport s origin text := by
  refine ⟨exists_readReport_iff hread, fun _ => reportOf_of_readReport hread,
    fun _ => readReport_eq_error_iff hread, fun text' document' hread' hsame => ?_⟩
  rw [readReport_of_document hread, readReport_of_document hread', ofDocument_eq_of_same hsame]

/-- A report of one interval with some streams, and with other members after it. -/
def reportWith (streams others : String) : String :=
  "\x7b\"start\":\x7b\"timestamp\":\x7b\"time\":\"soon\"\x7d\x7d," ++
    "\"intervals\":[\x7b\"streams\":[" ++ streams ++ "]\x7d]" ++ others ++ "\x7d"

/-- The document of such a report. -/
def documentWith (streams : List Json) (others : Members) : Json :=
  .object ([("intervals", .array [.object [("streams", .array streams)]])] ++ others ++
    [("start", .object [("timestamp", .object [("time", .string "soon")])])])

/-- A stream with a duration is read, with another stream and another member of the document
in the same way; one whose duration is null is refused. -/
theorem report_format_one_interval :
    Json.read (reportWith "\x7b\"seconds\":1\x7d" "").toList =
      .ok (documentWith [.object [("seconds", .number (.integer 1))]] []) ∧
    (∃ r, readReport {} "g" (reportWith "\x7b\"seconds\":1\x7d" "") = .ok r ∧
      ReportOf 0 (documentWith [.object [("seconds", .number (.integer 1))]] []) r) ∧
    readReport {} "g" (reportWith "\x7b\"seconds\":1\x7d,2" ",\"other\":null") =
      readReport {} "g" (reportWith "\x7b\"seconds\":1\x7d" "") ∧
    readReport {} "g" (reportWith "\x7b\"seconds\":null\x7d" "") =
      .error (.input "g" (.interval 0) (.notNumber "seconds")) ∧
    RefusedReport 0 "g" (documentWith [.object [("seconds", .null)]] [])
      (.input "g" (.interval 0) (.notNumber "seconds")) := by
  have hread : Json.read (reportWith "\x7b\"seconds\":1\x7d" "").toList =
      .ok (documentWith [.object [("seconds", .number (.integer 1))]] []) := by
    decide +kernel
  have hmore : Json.read (reportWith "\x7b\"seconds\":1\x7d,2" ",\"other\":null").toList =
      .ok (documentWith [.object [("seconds", .number (.integer 1))], .number (.integer 2)]
        [("other", .null)]) := by
    decide +kernel
  have hnull : Json.read (reportWith "\x7b\"seconds\":null\x7d" "").toList =
      .ok (documentWith [.object [("seconds", .null)]] []) := by
    decide +kernel
  have hrefused : readReport {} "g" (reportWith "\x7b\"seconds\":null\x7d" "") =
      .error (.input "g" (.interval 0) (.notNumber "seconds")) := by
    decide +kernel
  obtain ⟨haccepted, hcontent, -, hsame⟩ := report_format hread {} "g"
  obtain ⟨r, hr⟩ := haccepted.2
    ⟨⟨_, rfl⟩, _, rfl, List.forall_mem_singleton.2 ⟨.integer 1, rfl⟩⟩
  refine ⟨hread, ⟨r, hr, hcontent r hr⟩, hsame _ _ hmore ?_, hrefused,
    ((report_format hnull {} "g").2.2.1 _).1 hrefused⟩
  exact .object rfl (.array (.cons (.object (.array rfl)) .nil))

end Report

end FlowTriad
