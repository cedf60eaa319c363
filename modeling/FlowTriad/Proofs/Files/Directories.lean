/-
`Proofs/Files/Directories.lean` -- what is there after directories have been made.

A directory is made under a name in another one, and those above it are made first if need
be. Where that succeeds, the path that was asked for leads to a directory
(`isDirectory_of_makeDirectories`), whether it was made or was there before. Nothing is made
anywhere deeper than the path has moves (`entry?_makeDirectories_of_lt`): what is asked for
is not exceeded.
-/
import FlowTriad.Proofs.Path
import FlowTriad.Proofs.Path.Parents

set_option autoImplicit false

namespace FlowTriad.Files

open FlowTriad.Path (moves moves_cons_of_idle moves_cons_of_not_idle)

variable {fs made later : Files} {l m : Location} {path : String}
  {p : List Char} {ps : List (List Char)}

/-! ## 1. Entering directories -/

/-- An idle piece asks for a directory, and so does whatever follows it. -/
theorem enter_cons_of_idle (h : Path.isIdle p) : fs.enter l (p :: ps) = fs.enter l ps := by
  obtain ⟨q, qs, hq⟩ := List.exists_cons_of_ne_nil
    (List.append_ne_nil_of_right_ne_nil ps (List.cons_ne_nil ['.'] []))
  unfold enter
  rw [List.cons_append, hq]
  cases hentry : fs.entry? l with
  | none => simp only [walk, hentry]
  | some e =>
    cases e with
    | file content => simp only [walk, hentry]
    | directory =>
      rw [walk.eq_2 fs l p]
      simp only [hentry, if_pos h]

/-- **Moves** decide which directory is entered. -/
theorem enter_moves (fs : Files) (l : Location) (ps : List (List Char)) :
    fs.enter l (moves ps) = fs.enter l ps := by
  induction ps generalizing l with
  | nil => rfl
  | cons p ps ih =>
    by_cases hidle : Path.isIdle p
    · rw [moves_cons_of_idle hidle, ih, enter_cons_of_idle hidle]
    · rw [moves_cons_of_not_idle hidle]
      show fs.walk l (p :: (moves ps ++ [['.']])) = fs.walk l (p :: (ps ++ [['.']]))
      have hrest (n : Location) :
          fs.walk n (moves ps ++ [['.']]) = fs.walk n (ps ++ [['.']]) := ih n
      rw [walk, walk]
      simp only [hrest]

/-- The directory that the last piece of a path is looked for in. -/
def holder (fs : Files) (path : String) : Except FileFault Location :=
  fs.enter (start path).1 (start path).2.dropLast

/-- Directories that are added leave open what could be entered. -/
theorem DirectoriesAdded.walk_eq_ok (h : DirectoriesAdded fs later)
    (hwalk : fs.walk l ps = .ok m) : later.walk l ps = .ok m := by
  induction ps generalizing l with
  | nil => exact hwalk
  | cons p ps ih =>
    obtain ⟨hdirectory, n, hstep, hrest⟩ := walk_cons_eq_ok.1 hwalk
    refine walk_cons_eq_ok.2 ⟨?_, n, hstep, ih hrest⟩
    rcases h l with heq | ⟨-, hadded⟩
    · rw [heq, hdirectory]
    · exact hadded

/-! ## 2. The depth of places -/

/-- **One step** leads down by the move that it is, and no further. It may fall short of that
only on the way back. -/
theorem length_names_of_step (h : step l p = .ok m) :
    m.names.length ≤ l.names.length + (moves [p]).length ∧
      (p ≠ ['.', '.'] → m.names.length = l.names.length + (moves [p]).length) := by
  unfold step at h
  split_ifs at h with hidle hlong hparent
  · rw [moves_cons_of_idle hidle, Except.ok.inj h]
    exact ⟨Nat.le_refl _, fun _ => rfl⟩
  · -- above the working directory, a way back leaves the depth as it is
    refine ⟨?_, absurd hparent⟩
    rw [← Except.ok.inj h]
    unfold Location.parent
    split
    · next hnames =>
      rw [hnames, List.length_cons]
      exact Nat.le_trans (Nat.le_succ _) (Nat.le_add_right _ _)
    · exact Nat.le_add_right _ _
    · exact Nat.zero_le _
  · rw [moves_cons_of_not_idle hidle, ← Except.ok.inj h]
    exact ⟨Nat.le_refl _, fun _ => rfl⟩

theorem length_moves_cons (p : List Char) (ps : List (List Char)) :
    (moves (p :: ps)).length = (moves [p]).length + (moves ps).length := by
  rw [← List.length_append, ← Path.moves_append, List.singleton_append]

/-- A path leads no deeper than it has moves. -/
theorem length_names_le (h : fs.walk l ps = .ok m) :
    m.names.length ≤ l.names.length + (moves ps).length := by
  induction ps generalizing l with
  | nil =>
    obtain rfl : l = m := Except.ok.inj h
    exact Nat.le_add_right _ _
  | cons p ps ih =>
    obtain ⟨-, n, hstep, hrest⟩ := walk_cons_eq_ok.1 h
    calc m.names.length ≤ n.names.length + (moves ps).length := ih hrest
      _ ≤ l.names.length + (moves [p]).length + (moves ps).length :=
        Nat.add_le_add_right (length_names_of_step hstep).1 _
      _ = l.names.length + (moves (p :: ps)).length := by rw [length_moves_cons p ps, Nat.add_assoc]

/-- Without a way back, each move leads one level down. -/
theorem length_names_eq (h : fs.walk l ps = .ok m) (hback : ['.', '.'] ∉ ps) :
    m.names.length = l.names.length + (moves ps).length := by
  induction ps generalizing l with
  | nil =>
    obtain rfl : l = m := Except.ok.inj h
    rfl
  | cons p ps ih =>
    obtain ⟨-, n, hstep, hrest⟩ := walk_cons_eq_ok.1 h
    obtain ⟨hp, hps⟩ := not_or.1 (mt List.mem_cons.2 hback)
    rw [ih hrest hps, (length_names_of_step hstep).2 (Ne.symm hp), length_moves_cons p ps,
      Nat.add_assoc]

/-! ## 3. One directory -/

/-- Slashes at the end of a path do not lead away from a directory. -/
theorem walk_slashes (h : ∀ p ∈ ps, p = []) (hdirectory : fs.entry? l = some .directory) :
    fs.walk l ps = .ok l := by
  induction ps with
  | nil => rfl
  | cons p ps ih =>
    have hp : Path.isIdle p := by
      rw [h p List.mem_cons_self]
      rfl
    refine walk_cons_eq_ok.2 ⟨hdirectory, l, ?_, ih fun q hq => h q (List.mem_cons_of_mem p hq)⟩
    unfold step
    rw [if_pos hp]

theorem isDirectory_iff :
    fs.isDirectory path ↔ ∃ l, fs.locate path = .ok l ∧ fs.entry? l = some .directory := by
  unfold isDirectory
  cases fs.locate path with
  | error e => simp
  | ok l => simp

/-- **Making a directory** makes the path lead to one. -/
theorem isDirectory_of_makeDirectory (h : fs.makeDirectory path = .ok made) :
    made.isDirectory path := by
  obtain ⟨before, name, slashes, holder, hcheck, hpieces, hslashes, hholder, hstep, hnone, rfl⟩ :=
    exists_of_makeDirectory h
  have hadded := directoriesAdded_put hnone
  have hmade : Files.entry? (fs.put (holder.child name) .directory) (holder.child name) =
      some .directory := by
    rw [entry?_put_of_ne (by simp [hnone]), if_pos rfl]
  rcases enter_eq_ok.1 (hadded.walk_eq_ok hholder) with ⟨hwalk, hdirectory⟩
  refine isDirectory_iff.2 ⟨holder.child name, locate_eq_ok.2 ⟨hcheck, ?_⟩, hmade⟩
  rw [hpieces, walk_append_eq_ok]
  exact ⟨holder, hwalk, walk_cons_eq_ok.2 ⟨hdirectory, _, hstep, walk_slashes hslashes hmade⟩⟩

/-- It makes nothing deeper than the path has moves. -/
theorem entry?_makeDirectory_of_lt (h : fs.makeDirectory path = .ok made)
    (hm : (moves (Path.pieces path.toList)).length < m.names.length) :
    made.entry? m = fs.entry? m := by
  -- what is made is one level below the directory that holds it, and its name is a move
  obtain ⟨before, name, slashes, holder, -, hpieces, -, hholder, hstep, hnone, rfl⟩ :=
    exists_of_makeDirectory h
  have hdepth := length_names_le (enter_eq_ok.1 hholder).1
  have hname : ¬ Path.isIdle name := by
    intro hidle
    unfold step at hstep
    rw [if_pos hidle] at hstep
    have hnames := congrArg (·.names.length) (Except.ok.inj hstep)
    simp [Location.child] at hnames
  have hmoves := moves_start path
  rw [hpieces, Path.moves_append, moves_cons_of_not_idle hname] at hmoves
  rw [entry?_put_of_ne (by simp [hnone]), if_neg]
  rintro rfl
  rw [← hmoves, List.length_append, List.length_cons] at hm
  rw [names_start, List.length_nil] at hdepth
  simp only [Location.child, List.length_cons] at hm
  omega

/-! ## 4. A directory and those above it -/

/-- **Making all directories** of a path, if it succeeds, leaves one where the path leads. -/
theorem isDirectory_of_makeDirectories (h : fs.makeDirectories path = (made, none)) :
    made.isDirectory path := by
  unfold makeDirectories at h
  rw [makeAll] at h
  split at h
  · next first hfirst =>
    obtain ⟨rfl, -⟩ := Prod.mk.inj h
    exact isDirectory_of_makeDirectory hfirst
  · split at h
    · cases h
    · next above heq =>
      split at h
      · next last hlast =>
        obtain ⟨rfl, -⟩ := Prod.mk.inj h
        exact isDirectory_of_makeDirectory hlast
      · -- it cannot be made because it is there already
        split_ifs at h with hthere
        · obtain ⟨rfl, -⟩ := Prod.mk.inj h
          exact hthere
        · cases (Prod.mk.inj h).2
  · split_ifs at h with hthere
    · obtain ⟨rfl, -⟩ := Prod.mk.inj h
      exact hthere
    · cases (Prod.mk.inj h).2

/-- **Nothing is made** deeper than the path has moves. -/
theorem entry?_makeDirectories_of_lt
    (hm : (moves (Path.pieces path.toList)).length < m.names.length) :
    Files.entry? (fs.makeDirectories path).1 m = fs.entry? m := by
  refine makeAll_induction (R := fun fs fs' => fs'.entry? m = fs.entry? m) (fun _ => rfl)
    (fun _ _ _ h h' => h'.trans h) ?_ fs
  intro q hq fs made hmade
  refine entry?_makeDirectory_of_lt hmade (Nat.lt_of_le_of_lt ?_ hm)
  rcases List.mem_cons.1 hq with rfl | habove
  · exact Nat.le_refl _
  · exact (Path.moves_of_mem_parents (List.mem_filter.1 habove).1).length_le

end FlowTriad.Files
