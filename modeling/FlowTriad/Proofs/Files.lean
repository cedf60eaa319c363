/-
`Proofs/Files.lean` -- what writing changes, and what it leaves.

A path leads from directory to directory, so where it leads is decided by which places are
directories. Writing a file makes and removes none (`SameDirectories`). Where several files
are written one after the other, each path therefore leads where it led before the first,
and the state at the end can be said of the state at the beginning: a place that paths lead
to holds what was last written there, and every other place what it held (`Written`).

Making directories, in turn, changes nothing that was there (`DirectoriesAdded`).
-/
import FlowTriad.Files
import FlowTriad.Proofs.Outcome

set_option autoImplicit false

namespace FlowTriad.Files

variable {fs fs' mid made : Files} {l m : Location} {path : String} {content : FileContent}
  {ps : List (List Char)}

/-! ## 1. One entry -/

/-- What is not under a key is found as if the key were not there. -/
theorem lookup_filter_ne (es : List (Location × Entry)) (l m : Location) :
    (es.filter (·.1 != l)).lookup m = if m = l then none else es.lookup m := by
  induction es with
  | nil => simp
  | cons e es ih =>
    obtain ⟨k, entry⟩ := e
    by_cases hkey : k = l
    · -- what is left out could only have been found under the key
      rw [List.filter_cons_of_neg (by simpa using hkey), ih, List.lookup_cons]
      by_cases hm : m = l
      · rw [if_pos hm, if_pos hm]
      · have hne : (m == k) = false := by simpa [hkey] using hm
        rw [if_neg hm, if_neg hm, hne]
    · rw [List.filter_cons_of_pos (by simpa using hkey), List.lookup_cons, List.lookup_cons, ih]
      by_cases hm : m = l
      · have hne : (m == k) = false := by simpa [hm] using Ne.symm hkey
        rw [if_pos hm, if_pos hm, hne]
      · rw [if_neg hm, if_neg hm]

/-- The root and the directories above the working directory cannot be put away. -/
theorem entry?_put (fs : Files) (l : Location) (e : Entry) (m : Location) :
    Files.entry? (fs.put l e) m =
      if m.names.isEmpty then some .directory else if m = l then some e else fs.entry? m := by
  unfold entry? put
  by_cases hnames : m.names.isEmpty
  · rw [if_pos hnames, if_pos hnames]
  · rw [if_neg hnames, if_neg hnames, if_neg hnames, List.lookup_append, lookup_filter_ne]
    by_cases hm : m = l
    · simp [hm]
    · have hne : (m == l) = false := by simpa using hm
      rw [if_neg hm, if_neg hm, List.lookup_cons, hne]
      exact Option.or_none

theorem names_of_entry?_ne (h : fs.entry? l ≠ some .directory) : ¬ l.names.isEmpty := by
  intro hnames
  exact h (if_pos hnames)

/-- Where there is no directory, what is put there is all that changes. -/
theorem entry?_put_of_ne (h : fs.entry? l ≠ some .directory) (e : Entry) (m : Location) :
    Files.entry? (fs.put l e) m = if m = l then some e else fs.entry? m := by
  rw [entry?_put]
  by_cases hm : m = l
  · subst hm
    rw [if_neg (names_of_entry?_ne h)]
  · rw [if_neg hm]
    by_cases hnames : m.names.isEmpty
    · rw [if_pos hnames]
      exact (if_pos hnames).symm
    · rw [if_neg hnames]

/-! ## 2. Where paths lead -/

/-- Where one piece of a path leads from a directory. -/
def step (l : Location) (piece : List Char) : Except FileFault Location :=
  if Path.isIdle piece then .ok l
  else if maxNameLength < Text.byteLength piece then .error .tooLong
  else if piece = ['.', '.'] then .ok l.parent
  else .ok (l.child piece)

theorem walk_cons_eq_ok {piece : List Char} {pieces : List (List Char)} :
    fs.walk l (piece :: pieces) = .ok m ↔
      fs.entry? l = some .directory ∧ ∃ n, step l piece = .ok n ∧ fs.walk n pieces = .ok m := by
  rw [walk]
  cases hentry : fs.entry? l with
  | none => simp
  | some e =>
    cases e with
    | file content => simp
    | directory =>
      unfold step
      simp only [true_and]
      split_ifs with hidle hlong hparent <;> simp

/-- A path is walked to its end from where its beginning leads. -/
theorem walk_append_eq_ok {pieces more : List (List Char)} :
    fs.walk l (pieces ++ more) = .ok m ↔
      ∃ n, fs.walk l pieces = .ok n ∧ fs.walk n more = .ok m := by
  induction pieces generalizing l with
  | nil => simp [walk]
  | cons piece pieces ih =>
    rw [List.cons_append]
    simp only [walk_cons_eq_ok, ih]
    constructor
    · rintro ⟨hdirectory, n, hstep, k, hk, hm⟩
      exact ⟨k, ⟨hdirectory, n, hstep, hk⟩, hm⟩
    · rintro ⟨k, ⟨hdirectory, n, hstep, hk⟩, hm⟩
      exact ⟨hdirectory, n, hstep, k, hk, hm⟩

/-- The directory that pieces of a path lead to from a place. -/
def enter (fs : Files) (l : Location) (ps : List (List Char)) : Except FileFault Location :=
  fs.walk l (ps ++ [['.']])

theorem enter_eq_ok :
    fs.enter l ps = .ok m ↔ fs.walk l ps = .ok m ∧ fs.entry? m = some .directory := by
  unfold enter
  rw [walk_append_eq_ok]
  constructor
  · rintro ⟨n, hwalk, hdot⟩
    obtain ⟨hdirectory, k, hstep, hend⟩ := walk_cons_eq_ok.1 hdot
    obtain rfl : n = k := Except.ok.inj hstep
    obtain rfl : n = m := Except.ok.inj hend
    exact ⟨hwalk, hdirectory⟩
  · rintro ⟨hwalk, hdirectory⟩
    exact ⟨m, hwalk, walk_cons_eq_ok.2 ⟨hdirectory, m, rfl, rfl⟩⟩

/-- That two states have the same directories. -/
def SameDirectories (fs fs' : Files) : Prop :=
  ∀ l, fs'.entry? l = some .directory ↔ fs.entry? l = some .directory

/-- **Directories decide where a path leads.** -/
theorem SameDirectories.walk_eq_ok (h : SameDirectories fs fs') {pieces : List (List Char)} :
    fs'.walk l pieces = .ok m ↔ fs.walk l pieces = .ok m := by
  induction pieces generalizing l with
  | nil => rw [walk, walk]
  | cons piece pieces ih => simp only [walk_cons_eq_ok, h l, ih]

theorem locate_eq_ok :
    fs.locate path = .ok l ↔
      checkPath path = .ok () ∧ fs.walk (start path).1 (start path).2 = .ok l := by
  unfold locate
  rw [bind_eq_ok]
  constructor
  · rintro ⟨⟨⟩, hcheck, hwalk⟩
    exact ⟨hcheck, hwalk⟩
  · rintro ⟨hcheck, hwalk⟩
    exact ⟨(), hcheck, hwalk⟩

theorem SameDirectories.locate_eq_ok (h : SameDirectories fs fs') :
    fs'.locate path = .ok l ↔ fs.locate path = .ok l := by
  rw [Files.locate_eq_ok, Files.locate_eq_ok, h.walk_eq_ok]

/-! ## 3. Writing files -/

/-- What was last written to a place, where paths lead as they do in a state. -/
def lastAt? (fs : Files) (outputs : List (String × FileContent)) (l : Location) :
    Option FileContent :=
  (outputs.reverse.find? fun output => fs.locate output.1 = .ok l).map (·.2)

/-- That one state is another in which files have been written one after the other: each to
a place that is no directory, and nothing has changed but what the places hold. -/
structure Written (fs : Files) (outputs : List (String × FileContent)) (fs' : Files) : Prop where
  places : ∀ output ∈ outputs, ∃ l, fs.locate output.1 = .ok l ∧ fs.entry? l ≠ some .directory
  entries : ∀ l, fs'.entry? l = ((lastAt? fs outputs l).map .file).or (fs.entry? l)

/-- Nothing is last written to a directory. -/
theorem Written.lastAt?_eq_none {outputs : List (String × FileContent)}
    (h : Written fs outputs fs') (hl : fs.entry? l = some .directory) :
    lastAt? fs outputs l = none := by
  unfold lastAt?
  rw [Option.map_eq_none_iff, List.find?_eq_none]
  intro output houtput hlocate
  obtain ⟨m, hm, hne⟩ := h.places output (List.mem_reverse.1 houtput)
  obtain rfl : m = l := by simpa [hm] using hlocate
  exact hne hl

theorem Written.sameDirectories {outputs : List (String × FileContent)}
    (h : Written fs outputs fs') : SameDirectories fs fs' := by
  intro l
  rw [h.entries l]
  constructor
  · intro hl
    cases hlast : lastAt? fs outputs l with
    | none => rwa [hlast] at hl
    | some content =>
      rw [hlast] at hl
      cases hl
  · intro hl
    rw [h.lastAt?_eq_none hl]
    exact hl

theorem Written.nil (fs : Files) : Written fs [] fs :=
  ⟨List.forall_mem_nil _, fun _ => rfl⟩

/-- **Files are written one after the other.** -/
theorem Written.append {outputs more : List (String × FileContent)}
    (h : Written fs outputs mid) (hmore : Written mid more fs') :
    Written fs (outputs ++ more) fs' := by
  have hsame := h.sameDirectories
  constructor
  · intro output houtput
    rcases List.mem_append.1 houtput with hmem | hmem
    · exact h.places output hmem
    · obtain ⟨l, hl, hne⟩ := hmore.places output hmem
      exact ⟨l, hsame.locate_eq_ok.1 hl, (hsame l).not.1 hne⟩
  · intro l
    -- paths lead in the state between as they did before, so one search goes over both lists
    have hlast : lastAt? fs (outputs ++ more) l =
        (lastAt? mid more l).or (lastAt? fs outputs l) := by
      unfold lastAt?
      simp only [hsame.locate_eq_ok, List.reverse_append, List.find?_append, Option.map_or]
    rw [hmore.entries l, h.entries l, hlast, Option.map_or, Option.or_assoc]

theorem write_eq_ok :
    fs.write path content = .ok fs' ↔
      ∃ l, fs.locate path = .ok l ∧ fs.entry? l ≠ some .directory ∧
        fs' = fs.put l (.file content) := by
  unfold write
  rw [bind_eq_ok]
  refine exists_congr fun l => and_congr_right fun _ => ?_
  by_cases hl : fs.entry? l = some .directory
  · simp [hl]
  · simp [hl, eq_comm]

/-- A file that is written is all that changes. -/
theorem written_of_write (h : fs.write path content = .ok fs') :
    Written fs [(path, content)] fs' := by
  obtain ⟨l, hl, hne, rfl⟩ := write_eq_ok.1 h
  constructor
  · intro output houtput
    obtain rfl := List.mem_singleton.1 houtput
    exact ⟨l, hl, hne⟩
  · intro m
    rw [entry?_put_of_ne hne]
    unfold lastAt?
    by_cases hm : m = l
    · simp [hm, hl]
    · simp [hl, hm, Ne.symm hm]

/-! ## 4. Making directories -/

/-- That one state is another in which directories have been made where there was nothing. -/
def DirectoriesAdded (fs fs' : Files) : Prop :=
  ∀ l, fs'.entry? l = fs.entry? l ∨ fs.entry? l = none ∧ fs'.entry? l = some .directory

theorem DirectoriesAdded.refl (fs : Files) : DirectoriesAdded fs fs :=
  fun _ => .inl rfl

theorem DirectoriesAdded.trans (h : DirectoriesAdded fs mid) (h' : DirectoriesAdded mid fs') :
    DirectoriesAdded fs fs' := by
  intro l
  obtain hl | ⟨hnone, hl⟩ := h l
  · obtain hl' | ⟨hnone', hl'⟩ := h' l
    · exact .inl (hl'.trans hl)
    · exact .inr ⟨hl.symm.trans hnone', hl'⟩
  · obtain hl' | ⟨hnone', hl'⟩ := h' l
    · exact .inr ⟨hnone, hl'.trans hl⟩
    · exact .inr ⟨hnone, hl'⟩

theorem directoriesAdded_put (h : fs.entry? l = none) :
    DirectoriesAdded fs (fs.put l .directory) := by
  intro m
  rw [entry?_put_of_ne (by simp [h])]
  by_cases hm : m = l
  · rw [if_pos hm, hm]
    exact .inr ⟨h, rfl⟩
  · rw [if_neg hm]
    exact .inl rfl

/-- **What making a directory does.** It puts one where nothing was, under the last name of the
path, and everything before that name was a directory. -/
theorem exists_of_makeDirectory (h : fs.makeDirectory path = .ok made) :
    ∃ before name slashes holder, checkPath path = .ok () ∧
      (start path).2 = before ++ name :: slashes ∧ (∀ p ∈ slashes, p = []) ∧
      fs.enter (start path).1 before = .ok holder ∧ step holder name = .ok (holder.child name) ∧
      fs.entry? (holder.child name) = none ∧ made = fs.put (holder.child name) .directory := by
  unfold makeDirectory at h
  obtain ⟨⟨⟩, hcheck, h⟩ := bind_eq_ok.1 h
  simp only at h
  split at h
  · cases h
  · next name before hpieces =>
    obtain ⟨holder, hholder, h⟩ := bind_eq_ok.1 h
    split_ifs at h with hidle hlong hthere
    rw [Bool.or_eq_true, not_or, beq_iff_eq] at hidle
    have hsplit := List.takeWhile_append_dropWhile (p := List.isEmpty) (l := (start path).2.reverse)
    rw [hpieces] at hsplit
    refine ⟨before.reverse, name, ((start path).2.reverse.takeWhile List.isEmpty).reverse, holder,
      hcheck, ?_, ?_, hholder, ?_, by simpa using hthere, (Except.ok.inj h).symm⟩
    · exact (List.reverse_eq_iff.1 hsplit.symm).trans (by simp)
    · intro p hp
      exact List.isEmpty_iff.1 (List.all_eq_true.1 List.all_takeWhile p (List.mem_reverse.1 hp))
    · unfold step
      rw [if_neg hidle.1, if_neg hlong, if_neg hidle.2]

theorem directoriesAdded_of_makeDirectory (h : fs.makeDirectory path = .ok made) :
    DirectoriesAdded fs made := by
  obtain ⟨_, _, _, _, -, -, -, -, -, hnone, rfl⟩ := exists_of_makeDirectory h
  exact directoriesAdded_put hnone

/-- **Making directories one after the other**: what holds of making one, and of doing nothing,
and can be composed, holds of making all of them, also if that fails on the way. -/
theorem makeAll_induction {R : Files → Files → Prop} (hrefl : ∀ fs, R fs fs)
    (htrans : ∀ fs mid fs', R fs mid → R mid fs' → R fs fs') {paths : List String}
    (hmake : ∀ path ∈ paths, ∀ fs made, fs.makeDirectory path = .ok made → R fs made)
    (fs : Files) : R fs (fs.makeAll paths).1 := by
  induction paths generalizing fs with
  | nil => exact hrefl fs
  | cons path above ih =>
    have hfirst := hmake path List.mem_cons_self
    have habove := ih (fun q hq => hmake q (List.mem_cons_of_mem path hq)) fs
    rw [makeAll]
    split
    · next made hmade => exact hfirst fs made hmade
    · -- the directories above are made first, and are left if that fails
      split
      · next made e heq => rwa [heq] at habove
      · next made heq =>
        rw [heq] at habove
        split
        · next made' hmade => exact htrans _ _ _ habove (hfirst made made' hmade)
        · exact habove
    · exact hrefl fs

/-- **Making directories** changes nothing else, also if it fails on the way. -/
theorem directoriesAdded_makeAll (fs : Files) (paths : List String) :
    DirectoriesAdded fs (fs.makeAll paths).1 :=
  makeAll_induction .refl (fun _ _ _ => .trans)
    (fun _ _ _ _ => directoriesAdded_of_makeDirectory) fs

theorem directoriesAdded_makeDirectories (fs : Files) (path : String) :
    DirectoriesAdded fs (fs.makeDirectories path).1 :=
  directoriesAdded_makeAll fs _

end FlowTriad.Files
