/-
`Proofs/Variable/NameTable.lean` -- one table of names laid over another.

Names that differ only in the case of ASCII letters are spellings of one name. A table
tells its entries apart by spelling, so it can hold several for one name, and then it matters
which of them counts. Two answers are given. Looking a name up finds the first of its
spellings in byte order. Laying a table over another goes through the upper one in byte order,
and every entry that is laid down removes all other spellings of its name, those that were
laid down before it included; what stays is the last one.

So of every name the result holds one entry if the upper table has any, the last of them, and
the lower table's entries if it has none (`spellings_merge`). That is all there is to know of
merging: a table is determined by its spellings (`ext_spellings`), and every law is the same
law for the few entries of one name.

* Looking up in the result finds the upper table's last spelling, which need not be the one
  that the upper table finds for itself (`resolve_layered`).
* Laying tables over each other is associative, keeps what is not named again, never brings in
  a second spelling, and changes nothing when it is done twice (`merge_laws`).
-/
import FlowTriad.Proofs.Keyed
import FlowTriad.Proofs.Outcome
import FlowTriad.Settings.Loading

set_option autoImplicit false

namespace FlowTriad

open Text

/-! ## 1. Spellings of one name -/

namespace Text

theorem sameIgnoringCase_iff {a b : String} :
    sameIgnoringCase a b ↔ a.toList.map foldAscii = b.toList.map foldAscii := by
  simp only [sameIgnoringCase, beq_iff_eq]

@[simp] theorem sameIgnoringCase_self (a : String) : sameIgnoringCase a a := by
  simp only [sameIgnoringCase, beq_self_eq_true]

theorem sameIgnoringCase_comm (a b : String) : sameIgnoringCase a b = sameIgnoringCase b a := by
  simp only [sameIgnoringCase, Bool.beq_comm]

/-- Spellings of one name are alike to every name. -/
theorem sameIgnoringCase_congr {a b : String} (h : sameIgnoringCase a b) (c : String) :
    sameIgnoringCase c a = sameIgnoringCase c b := by
  simp only [sameIgnoringCase, sameIgnoringCase_iff.1 h]

end Text

namespace NameTable

variable {s t u v : NameTable} {name : String}

/-! ## 2. The spellings in a table -/

/-- The entries for a name in all its spellings, in byte order. -/
def spellings (t : NameTable) (name : String) : List (String × String) :=
  t.overrides.entries.filter fun e => sameIgnoringCase e.1 name

theorem mem_spellings {e : String × String} :
    e ∈ t.spellings name ↔ e ∈ t.overrides.entries ∧ sameIgnoringCase e.1 name :=
  List.mem_filter

/-- An entry is among the spellings of its own name. -/
theorem mem_spellings_self {e : String × String} :
    e ∈ t.spellings e.1 ↔ e ∈ t.overrides.entries := by
  rw [mem_spellings]
  simp

theorem spellings_eq_nil :
    t.spellings name = [] ↔ ∀ e ∈ t.overrides.entries, sameIgnoringCase e.1 name = false := by
  unfold spellings
  rw [List.filter_eq_nil_iff]
  simp only [Bool.not_eq_true]

/-- Looking a name up finds the first of its spellings. -/
theorem find?_eq_head? (t : NameTable) (name : String) :
    t.find? name = (t.spellings name).head? :=
  List.head?_filter.symm

/-- **A table is determined by its spellings.** -/
theorem ext_spellings (h : ∀ name, t.spellings name = u.spellings name) : t = u := by
  have hentries : t.overrides = u.overrides := by
    apply Keyed.ext_mem
    intro e
    rw [← mem_spellings_self, ← mem_spellings_self, h]
  cases t
  cases u
  exact congrArg NameTable.mk hentries

/-- An entry that is laid down is the only spelling of its name, and leaves other names alone. -/
theorem spellings_override (t : NameTable) (d : String × String) (name : String) :
    (t.override d).spellings name =
      if sameIgnoringCase d.1 name then [d] else t.spellings name := by
  show (Entries.insert d.1 d.2 (t.overrides.entries.filter _)).filter _ = _
  by_cases hd : sameIgnoringCase d.1 name
  · rw [if_pos hd]
    apply Entries.filter_insert_of_selected (sameIgnoringCase · name) hd
    intro e he
    -- what was kept is no spelling of the new name, and so none of the one asked for
    have hkept := (List.mem_filter.1 he).2
    rw [← sameIgnoringCase_congr hd]
    simpa using hkept
  · rw [if_neg hd,
      Entries.filter_insert_of_not (sameIgnoringCase · name) (by simpa using hd),
      List.filter_filter]
    apply List.filter_congr
    intro e _
    -- a spelling of the name asked for is none of the new one, so it is kept
    by_cases he : sameIgnoringCase e.1 name
    · have hother : sameIgnoringCase e.1 d.1 = false := by
        rw [sameIgnoringCase_comm, sameIgnoringCase_congr he]
        simpa using hd
      simp [he, hother]
    · simp [he]

/-! ## 3. One table over another -/

/-- Of the entries for one name, what is left when some are laid over others. -/
def layered (lower upper : List (String × String)) : List (String × String) :=
  match upper.getLast? with
  | some e => [e]
  | none => lower

@[simp] theorem layered_nil (lower : List (String × String)) : layered lower [] = lower := rfl

/-- Something laid over others leaves its last entry alone. -/
theorem layered_append_singleton (lower upper : List (String × String)) (e : String × String) :
    layered lower (upper ++ [e]) = [e] := by
  simp [layered]

theorem layered_singleton (lower : List (String × String)) (e : String × String) :
    layered lower [e] = [e] := rfl

theorem layered_assoc (x y z : List (String × String)) :
    layered (layered x y) z = layered x (layered y z) := by
  rcases List.eq_nil_or_concat z with rfl | ⟨z, e, rfl⟩
  · rfl
  · rw [List.concat_eq_append, layered_append_singleton, layered_append_singleton,
      layered_singleton]

/-- What was laid down stays when it is laid down again, unless the lower table has several
spellings that nothing covers. -/
theorem layered_layered {x : List (String × String)} (h : x.length ≤ 1)
    (y : List (String × String)) : layered x (layered x y) = layered x y := by
  rcases List.eq_nil_or_concat y with rfl | ⟨y, e, rfl⟩
  · match x, h with
    | [], _ => rfl
    | [e], _ => rfl
  · rw [List.concat_eq_append, layered_append_singleton, layered_singleton]

/-- **What a merged table holds** of a name: the upper table's last spelling, or else the
lower table's spellings. -/
theorem spellings_merge (t u : NameTable) (name : String) :
    (t.merge u).spellings name = layered (t.spellings name) (u.spellings name) := by
  -- nothing in this asks for the order of what is laid down, so it is any list
  have hfold (l : List (String × String)) : (l.foldl override t).spellings name =
      layered (t.spellings name) (l.filter fun e => sameIgnoringCase e.1 name) := by
    induction l using List.reverseRecOn with
    | nil => rfl
    | append_singleton l d ih =>
      rw [List.foldl_append, List.foldl_cons, List.foldl_nil, spellings_override,
        List.filter_append]
      by_cases hd : sameIgnoringCase d.1 name
      · rw [if_pos hd, List.filter_cons_of_pos (by simpa using hd), List.filter_nil,
          layered_append_singleton]
      · rw [if_neg hd, ih, List.filter_cons_of_neg (by simpa using hd), List.filter_nil,
          List.append_nil]
  exact hfold u.overrides.entries

/-! ## 4. What is found in a merged table -/

/-- **Looking up** in a table that is laid over another.

* Where the upper table has spellings of the name, it finds the first of them for itself, and
  the merged table finds the last.
* So they find the same if the upper table has no more than one spelling of each name.
* Where it has none, the merged table finds what the lower one finds. -/
theorem resolve_layered (t u : NameTable) (name : String) :
    ((∃ e ∈ u.overrides.entries, sameIgnoringCase e.1 name) →
      ∃ first last, (u.spellings name).head? = some first ∧
        (u.spellings name).getLast? = some last ∧
        u.resolve name = first.2 ∧ (t.merge u).resolve name = last.2 ∧
        ((u.spellings name).length = 1 → (t.merge u).resolve name = u.resolve name)) ∧
    ((¬ ∃ e ∈ u.overrides.entries, sameIgnoringCase e.1 name) →
      (t.merge u).resolve name = t.resolve name) := by
  constructor
  · rintro ⟨e, he, hsame⟩
    have hne : u.spellings name ≠ [] := List.ne_nil_of_mem (mem_spellings.2 ⟨he, hsame⟩)
    have hfirst := List.head?_eq_some_head hne
    have hlast := List.getLast?_eq_some_getLast hne
    -- in the merged table, the upper table's last spelling is the only one
    have hmerged : (t.merge u).spellings name = [(u.spellings name).getLast hne] := by
      rw [spellings_merge, layered, hlast]
    have hupper : u.resolve name = ((u.spellings name).head hne).2 := by
      rw [resolve, find?_eq_head?, hfirst]
    have hboth : (t.merge u).resolve name = ((u.spellings name).getLast hne).2 := by
      rw [resolve, find?_eq_head?, hmerged, List.head?_cons]
    refine ⟨_, _, hfirst, hlast, hupper, hboth, ?_⟩
    intro hone
    obtain ⟨d, hd⟩ := List.length_eq_one_iff.1 hone
    rw [hboth, hupper]
    simp only [hd, List.getLast_singleton, List.head_cons]
  · intro hnone
    have hnil : u.spellings name = [] := by
      rw [spellings_eq_nil]
      intro e he
      rw [← Bool.not_eq_true]
      exact fun hsame => hnone ⟨e, he, hsame⟩
    rw [resolve, resolve, find?_eq_head?, find?_eq_head?, spellings_merge, hnil, layered_nil]

/-- A table with two spellings of one name, of which the capital one is the first. -/
def twoSpellings : NameTable :=
  ofList [("RTT", "capital"), ("rtt", "small")]

/-- Of two spellings, the table itself finds the first and the merged table the last. Of one
spelling, and of none, it is as one would expect. -/
theorem resolve_layered_third_spelling :
    (∃ e ∈ twoSpellings.overrides.entries, sameIgnoringCase e.1 "Rtt") ∧
    twoSpellings.resolve "Rtt" = "capital" ∧
    (standard.merge twoSpellings).resolve "Rtt" = "small" ∧
    (standard.spellings "sndCwnd").length = 1 ∧
    (twoSpellings.merge standard).resolve "sndCwnd" = standard.resolve "sndCwnd" ∧
    (¬ ∃ e ∈ twoSpellings.overrides.entries, sameIgnoringCase e.1 "sndCwnd") ∧
    (standard.merge twoSpellings).resolve "sndCwnd" = standard.resolve "sndCwnd" := by
  have hsome : ∃ e ∈ twoSpellings.overrides.entries, sameIgnoringCase e.1 "Rtt" := by
    decide +kernel
  have husual : ∃ e ∈ standard.overrides.entries, sameIgnoringCase e.1 "sndCwnd" := by
    decide +kernel
  have hone : (standard.spellings "sndCwnd").length = 1 := by
    decide +kernel
  have hnone : ¬ ∃ e ∈ twoSpellings.overrides.entries, sameIgnoringCase e.1 "sndCwnd" := by
    decide +kernel
  have hspellings : twoSpellings.spellings "Rtt" = [("RTT", "capital"), ("rtt", "small")] := by
    decide +kernel
  obtain ⟨first, last, hfirst, hlast, hupper, hmerged, -⟩ :=
    (resolve_layered standard twoSpellings "Rtt").1 hsome
  rw [hspellings] at hfirst hlast
  cases hfirst
  cases hlast
  obtain ⟨_, _, -, -, -, -, hlaw⟩ := (resolve_layered twoSpellings standard "sndCwnd").1 husual
  exact ⟨hsome, hupper, hmerged, hone, hlaw hone, hnone,
    (resolve_layered standard twoSpellings "sndCwnd").2 hnone⟩

/-- **A name can be found differently** in a table and in what it is laid over: it is not so that
a merged table finds what the upper one finds. -/
theorem not_resolve_upper :
    ¬ ∀ (t u : NameTable) (name : String),
      (∃ e ∈ u.overrides.entries, sameIgnoringCase e.1 name) →
        (t.merge u).resolve name = u.resolve name := by
  intro h
  have hfound := h standard twoSpellings "rtt" (by decide +kernel)
  revert hfound
  decide +kernel

/-! ## 5. Laws of merging -/

/-- Whether no two entries of a table are spellings of one name. -/
def OneSpelling (t : NameTable) : Prop :=
  t.overrides.entries.Pairwise fun d e => ¬ sameIgnoringCase d.1 e.1

/-- That is to say that of each name there is one entry at most. -/
theorem oneSpelling_iff : t.OneSpelling ↔ ∀ name, (t.spellings name).length ≤ 1 := by
  unfold OneSpelling spellings
  constructor
  · intro h name
    have hpair := h.sublist (List.filter_sublist (p := fun e => sameIgnoringCase e.1 name))
    have hsame : ∀ e ∈ t.overrides.entries.filter (fun e => sameIgnoringCase e.1 name),
        sameIgnoringCase e.1 name := by
      intro e he
      simpa using (List.mem_filter.1 he).2
    generalize t.overrides.entries.filter (fun e => sameIgnoringCase e.1 name) = l at hpair hsame
    -- two spellings of the name would be spellings of each other
    match l, hpair, hsame with
    | [], _, _ => simp
    | [e], _, _ => simp
    | d :: e :: r, hpair, hsame =>
      have hd := hsame d (by simp)
      have he := hsame e (by simp)
      have hde : sameIgnoringCase d.1 e.1 := by
        rw [sameIgnoringCase_congr he]
        exact hd
      exact absurd hde ((List.pairwise_cons.1 hpair).1 e (by simp))
  · intro h
    generalize t.overrides.entries = l at h
    induction l with
    | nil => exact List.Pairwise.nil
    | cons e r ih =>
      rw [List.pairwise_cons]
      constructor
      · intro d hd hsame
        -- the name of `d` would have `e` and `d` for spellings
        have hname := h d.1
        rw [List.filter_cons_of_pos (by simpa using hsame), List.length_cons] at hname
        have hin : d ∈ r.filter fun e => sameIgnoringCase e.1 d.1 :=
          List.mem_filter.2 ⟨hd, by simp⟩
        have hpos := List.length_pos_of_mem hin
        omega
      · apply ih
        intro name
        refine le_trans (List.Sublist.length_le ?_) (h name)
        exact (List.sublist_cons_self e r).filter _

theorem merge_assoc (t u v : NameTable) : (t.merge u).merge v = t.merge (u.merge v) := by
  apply ext_spellings
  intro name
  rw [spellings_merge, spellings_merge, spellings_merge, spellings_merge, layered_assoc]

/-- An entry whose name is not named again is still there. -/
theorem mem_merge_of_not_named {e : String × String} (he : e ∈ t.overrides.entries)
    (h : ∀ d ∈ u.overrides.entries, sameIgnoringCase d.1 e.1 = false) :
    e ∈ (t.merge u).overrides.entries := by
  rw [← mem_spellings_self, spellings_merge, spellings_eq_nil.2 h, layered_nil, mem_spellings_self]
  exact he

/-- An entry of a merged table comes from one of the two. -/
theorem mem_or_mem_of_mem_merge {e : String × String}
    (he : e ∈ (t.merge u).overrides.entries) :
    e ∈ t.overrides.entries ∨ e ∈ u.overrides.entries := by
  rw [← mem_spellings_self, spellings_merge, layered] at he
  split at he
  · next d hlast =>
    obtain rfl := List.mem_singleton.1 he
    exact .inr (mem_spellings.1 (List.mem_of_getLast? hlast)).1
  · exact .inl (mem_spellings.1 he).1

/-- The lower table decides whether there are several spellings of one name. -/
theorem OneSpelling.merge (h : t.OneSpelling) (u : NameTable) : (t.merge u).OneSpelling := by
  rw [oneSpelling_iff] at h ⊢
  intro name
  rw [spellings_merge, layered]
  split
  · simp
  · exact h name

theorem OneSpelling.merge_merge (h : t.OneSpelling) (u : NameTable) :
    t.merge (t.merge u) = t.merge u := by
  apply ext_spellings
  intro name
  rw [spellings_merge, spellings_merge, layered_layered (oneSpelling_iff.1 h name)]

theorem oneSpelling_standard : standard.OneSpelling := by
  unfold OneSpelling
  decide +kernel

end NameTable

/-! ## 6. Tables of settings -/

namespace Settings

open NameTable

/-- The table that a document has for the generator's names, as pairs; a document without it
has none. -/
def namesOf? (document : Toml.Entries) : Option (List (String × String)) :=
  (document.lookup "name_overrides").bind Toml.texts?

/-- **The names of settings** that are read are the usual ones, or a document's laid over
them. -/
theorem names_of_ofToml? {document : Toml.Entries} {s : Settings}
    (h : ofToml? document = some s) :
    (document.lookup "name_overrides" = none ∧ s.names = standard) ∨
      ∃ pairs, namesOf? document = some pairs ∧ s.names = standard.merge (ofList pairs) := by
  unfold ofToml? at h
  simp only [Option.bind_eq_bind, Option.bind_eq_some_iff, Option.pure_def, Option.some.injEq] at h
  obtain ⟨_, -, _, -, _, -, _, -, _, -, _, -, names, hnames, _, -, rfl⟩ := h
  unfold namesOf?
  cases hlookup : document.lookup "name_overrides" with
  | none =>
    rw [hlookup] at hnames
    exact .inl ⟨rfl, (Option.some.inj hnames).symm⟩
  | some v =>
    rw [hlookup] at hnames
    obtain ⟨pairs, hpairs, hmerged⟩ := Option.map_eq_some_iff.1 hnames
    exact .inr ⟨pairs, hpairs, hmerged.symm⟩

theorem read_eq_ok {text : String} {s : Settings} :
    read text = .ok s ↔ ∃ document, Toml.read text = some document ∧ ofToml? document = some s := by
  unfold read
  cases hread : Toml.read text with
  | none => simp
  | some document =>
    simp only [Option.bind_some, Option.some.injEq, exists_eq_left']
    cases ofToml? document <;> simp

/-- The names of settings that are read lie over the usual ones. -/
theorem exists_names_of_read {text : String} {s : Settings} (h : read text = .ok s) :
    ∃ u, s.names = standard.merge u := by
  obtain ⟨document, -, hs⟩ := read_eq_ok.1 h
  rcases names_of_ofToml? hs with ⟨-, hnames⟩ | ⟨pairs, -, hnames⟩
  · -- nothing laid over a table leaves it as it is
    exact ⟨ofList [], hnames⟩
  · exact ⟨_, hnames⟩

end Settings

namespace NameTable

/-- A table is what its own entries make. -/
theorem ofList_entries (t : NameTable) : ofList t.overrides.entries = t := by
  unfold ofList
  rw [Keyed.ext (Keyed.entries_ofList t.overrides.sorted)]

/-- **Laws of laying tables over each other.**

* It does not matter which two of three are taken together first.
* Entries that are not named again stay, and no others come in than those of the two tables.
* Where the lower table has one spelling of each name, so has the result, whatever is laid over
  it; and laying the result over the same table again does not change it.
* So settings that are read have one spelling of each name, and a document with that same
  table in it is read with the same names. -/
theorem merge_laws (t u v : NameTable) :
    (t.merge u).merge v = t.merge (u.merge v) ∧
    (∀ e ∈ t.overrides.entries, (∀ d ∈ u.overrides.entries, ¬ sameIgnoringCase d.1 e.1) →
      e ∈ (t.merge u).overrides.entries) ∧
    (∀ e ∈ (t.merge u).overrides.entries,
      e ∈ t.overrides.entries ∨ e ∈ u.overrides.entries) ∧
    (t.OneSpelling → (t.merge u).OneSpelling ∧ t.merge (t.merge u) = t.merge u) ∧
    ∀ text s, Settings.read text = .ok s → s.names.OneSpelling ∧
      standard.merge s.names = s.names ∧
      ∀ text' document s', Toml.read text' = some document →
        Settings.namesOf? document = some s.names.overrides.entries →
        Settings.read text' = .ok s' → s'.names = s.names := by
  refine ⟨merge_assoc t u v, ?_, ?_, ?_, ?_⟩
  · intro e he hnone
    apply mem_merge_of_not_named he
    intro d hd
    simpa using hnone d hd
  · intro e he
    exact mem_or_mem_of_mem_merge he
  · intro hone
    exact ⟨hone.merge u, hone.merge_merge u⟩
  · intro text s hs
    obtain ⟨w, hw⟩ := Settings.exists_names_of_read hs
    have hagain : standard.merge s.names = s.names := by
      rw [hw, oneSpelling_standard.merge_merge]
    refine ⟨hw ▸ oneSpelling_standard.merge w, hagain, ?_⟩
    intro text' document s' hdocument hown hs'
    obtain ⟨document', hdocument', hread⟩ := Settings.read_eq_ok.1 hs'
    obtain rfl : document = document' := Option.some.inj (hdocument.symm.trans hdocument')
    rcases Settings.names_of_ofToml? hread with ⟨hmissing, -⟩ | ⟨pairs, hpairs, hnames⟩
    · rw [Settings.namesOf?, hmissing] at hown
      cases hown
    · rw [hown] at hpairs
      obtain rfl := Option.some.inj hpairs
      rw [hnames, ofList_entries, hagain]

/-- A configuration that spells one name in two ways, and one that has the table which comes of
it for its own. -/
def spellingTwice : String :=
  "[name_overrides]\nRTT = \"capital\"\nrtt = \"small\"\n"

@[inherit_doc spellingTwice]
def spellingOnce : String :=
  "[name_overrides]\nbytessent = \"bytes\"\nrtt = \"small\"\nsndcwnd = \"snd_cwnd\"\n"

theorem merge_laws_two_spellings :
    (("sndcwnd", "snd_cwnd") ∈ standard.overrides.entries ∧
      ("sndcwnd", "snd_cwnd") ∈ (standard.merge twoSpellings).overrides.entries) ∧
    ("rtt", "small") ∈ (standard.merge twoSpellings).overrides.entries ∧
    standard.OneSpelling ∧ ¬ twoSpellings.OneSpelling ∧
    (standard.merge twoSpellings).OneSpelling ∧
    ∃ s s', Settings.read spellingTwice = .ok s ∧ Settings.read spellingOnce = .ok s' ∧
      s.names = standard.merge twoSpellings ∧ s'.names = s.names := by
  obtain ⟨-, hkept, hfrom, hone, hread⟩ :=
    merge_laws standard twoSpellings (ofList [("Rtt", "third")])
  have hin : ("rtt", "small") ∈ (standard.merge twoSpellings).overrides.entries := by
    decide +kernel
  have husual : ("sndcwnd", "snd_cwnd") ∈ standard.overrides.entries := by
    decide +kernel
  have htwo : ¬ twoSpellings.OneSpelling := by
    unfold OneSpelling
    decide +kernel
  obtain ⟨s, hs⟩ := exists_eq_ok (x := Settings.read spellingTwice) (by decide +kernel)
  obtain ⟨s', hs'⟩ := exists_eq_ok (x := Settings.read spellingOnce) (by decide +kernel)
  have hnames : (Settings.read spellingTwice).toOption.map (·.names) =
      some (standard.merge twoSpellings) := by
    decide +kernel
  have hown : (Toml.read spellingOnce).bind Settings.namesOf? =
      some (standard.merge twoSpellings).overrides.entries := by
    decide +kernel
  rw [hs] at hnames
  have hnames : s.names = standard.merge twoSpellings := Option.some.inj hnames
  obtain ⟨document, hdocument, hpairs⟩ := Option.bind_eq_some_iff.1 hown
  rw [← hnames] at hpairs
  refine ⟨⟨husual, hkept _ husual (by decide +kernel)⟩, ?_, oneSpelling_standard, htwo,
    (hone oneSpelling_standard).1, s, s', hs, hs', hnames,
    (hread _ _ hs).2.2 _ _ _ hdocument hpairs hs'⟩
  -- the small spelling comes from the upper table, as the lower one does not have it
  rcases hfrom _ hin with hlower | hupper
  · exact absurd hlower (by decide +kernel)
  · exact hin

end NameTable

end FlowTriad
