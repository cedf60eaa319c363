/-
`Proofs/Session/OutputDirectory.lean` -- the directory that the outputs go into.

A run makes one directory for its outputs. It finds it from the stem alone, by components;
where an output lies is decided by the text of its path, which is the stem followed by a
name. So there are two ways to say which directory an output is in, and they have to agree
for a chart or a table not to fail for want of a directory.

They agree for every stem but those whose last piece is a single dot. There the name is put
after the dot, so that `a/.` leads to files in `a`, while to the components the dot is
nothing and `a` the beginning of a name: the directory that is made is the one above `a`.
-/
import FlowTriad.Proofs.Files.Directories
import FlowTriad.Session

set_option autoImplicit false

namespace FlowTriad

open FlowTriad.Path (pieces moves outputDirectory?)

namespace Files

variable {fs made later : Files} {l m : Location} {stem more path dir : String}
  {ps : List (List Char)} {content : FileContent} {e : FileFault}

/-! ## 1. Where the last piece is looked for -/

/-- What follows the stem, if it has no slash, does not say which directory it is. -/
theorem holder_append (fs : Files) (stem : String) (h : '/' ∉ more.toList) :
    fs.holder (stem ++ more) = fs.holder stem := by
  obtain ⟨anchor, front, last, hstart⟩ := start_append stem
  have hstem := hstart "" List.not_mem_nil
  rw [String.append_empty] at hstem
  unfold holder
  rw [hstart more h, hstem]
  simp only [List.dropLast_concat]

/-- **The directory that is made** is that of the outputs, unless the stem ends in a dot. -/
theorem enter_outputDirectory (hdot : (pieces stem.toList).getLast? ≠ some ['.'])
    (h : outputDirectory? stem = some dir) (fs : Files) :
    fs.enter (start dir).1 (start dir).2 = fs.holder stem := by
  rcases Path.prefix_of_outputDirectory h with ⟨hbegins, hne⟩
  unfold holder
  rw [← enter_moves, ← enter_moves fs _ (start stem).2.dropLast, moves_start, moves_dropLast_start,
    start_fst_of_prefix hbegins hne,
    Path.moves_of_outputDirectory hdot h]

/-- A path without a slash is looked for where it starts, which is always there. -/
theorem exists_holder_of_no_slash (fs : Files) (h : '/' ∉ path.toList) :
    ∃ l, fs.holder path = .ok l := by
  refine ⟨(start path).1, ?_⟩
  unfold holder
  rw [← enter_moves, moves_dropLast_start, Path.pieces_of_no_slash h]
  refine enter_eq_ok.2 ⟨rfl, if_pos ?_⟩
  rw [names_start]
  rfl

theorem exists_enter_of_isDirectory (h : fs.isDirectory path) :
    ∃ l, fs.enter (start path).1 (start path).2 = .ok l := by
  obtain ⟨l, hlocate, hdirectory⟩ := isDirectory_iff.1 h
  exact ⟨l, enter_eq_ok.2 ⟨(locate_eq_ok.1 hlocate).2, hdirectory⟩⟩

/-! ## 2. Writing into a directory that exists -/

theorem walk_append_of_ok {more : List (List Char)} (h : fs.walk l ps = .ok m) :
    fs.walk l (ps ++ more) = fs.walk m more := by
  induction ps generalizing l with
  | nil =>
    obtain rfl : l = m := Except.ok.inj h
    rfl
  | cons p ps ih =>
    obtain ⟨hdirectory, n, hstep, hrest⟩ := walk_cons_eq_ok.1 h
    rw [← ih hrest, List.cons_append, walk]
    unfold step at hstep
    simp only [hdirectory]
    split_ifs at hstep ⊢
    all_goals rw [Except.ok.inj hstep]

/-- **What can go wrong** when a file is written whose directory exists: its path cannot be
one or is too long, or there is a directory in its place. -/
theorem write_eq_error_of_holder (hholder : fs.holder path = .ok l) (hne : path ≠ "")
    (h : fs.write path content = .error e) :
    e = .unexpectedEnd ∨ e = .tooLong ∨ e = .isDirectory := by
  unfold write at h
  rcases bind_eq_error.1 h with hlocate | ⟨m, -, hwrite⟩
  · unfold locate at hlocate
    rcases bind_eq_error.1 hlocate with hcheck | ⟨⟨⟩, -, hwalk⟩
    · unfold checkPath at hcheck
      rw [if_neg (by simpa using hne)] at hcheck
      split_ifs at hcheck
      · exact .inl (Except.error.inj hcheck).symm
      · exact .inr (.inl (Except.error.inj hcheck).symm)
    · -- only the last piece is left to be walked, from a directory
      rcases enter_eq_ok.1 hholder with ⟨hfront, hdirectory⟩
      simp only at hwalk
      cases hlast : (start path).2.getLast? with
      | none =>
        rw [List.getLast?_eq_none_iff.1 hlast] at hwalk
        cases hwalk
      | some last =>
        rw [← List.dropLast_append_getLast? last hlast, walk_append_of_ok hfront, walk] at hwalk
        simp only [hdirectory, walk] at hwalk
        split_ifs at hwalk
        exact .inr (.inl (Except.error.inj hwalk).symm)
  · split_ifs at hwrite
    exact .inr (.inr (Except.error.inj hwrite).symm)

end Files

/-! ## 3. Making the directory -/

variable {o : Options} {fs made : Files} {dir : String}

theorem makeDirectories_of_makeOutputDirectory
    (hmade : makeOutputDirectory o fs = (made, none)) (hdir : outputDirectory? o.stem = some dir) :
    fs.makeDirectories dir = (made, none) := by
  unfold makeOutputDirectory at hmade
  rw [hdir] at hmade
  obtain ⟨hfst, hsnd⟩ := Prod.mk.inj hmade
  exact Prod.ext hfst (Option.map_eq_none_iff.1 hsnd)

/-- **Made**: unless the stem ends in a dot, the directory of the outputs is there. -/
theorem exists_holder_of_made (hmade : makeOutputDirectory o fs = (made, none))
    (hdot : (pieces o.stem.toList).getLast? ≠ some ['.']) : ∃ l, made.holder o.stem = .ok l := by
  cases hdir : outputDirectory? o.stem with
  | none => exact Files.exists_holder_of_no_slash made ((Path.outputDirectory?_eq_none hdot).1 hdir)
  | some dir =>
    have hthere := Files.isDirectory_of_makeDirectories
      (makeDirectories_of_makeOutputDirectory hmade hdir)
    rw [← Files.enter_outputDirectory hdot hdir]
    exact Files.exists_enter_of_isDirectory hthere

/-- **Not made**: if the stem ends in a dot, the directory of the outputs is deeper than
anything that is made. -/
theorem entry?_holder_of_dot (hmade : makeOutputDirectory o fs = (made, none))
    (hdot : (pieces o.stem.toList).getLast? = some ['.'])
    (hback : ['.', '.'] ∉ pieces o.stem.toList) {l : Location}
    (hholder : made.holder o.stem = .ok l) : fs.entry? l = some .directory := by
  rcases Files.enter_eq_ok.1 hholder with ⟨hwalk, hdirectory⟩
  cases hdir : outputDirectory? o.stem with
  | none =>
    unfold makeOutputDirectory at hmade
    rw [hdir] at hmade
    rw [(Prod.mk.inj hmade).1]
    exact hdirectory
  | some dir =>
    obtain ⟨move, hmoves⟩ := Path.moves_of_outputDirectory_of_dot hdot hdir
    have hnoback : ['.', '.'] ∉ (Files.start o.stem).2.dropLast := by
      intro hmem
      have hstart := (List.dropLast_prefix _).subset hmem
      rcases Files.start_snd_cases o.stem with heq | heq
      · exact hback (heq ▸ hstart)
      · exact hback (heq ▸ List.mem_cons_of_mem _ hstart)
    have hdepth := Files.length_names_eq hwalk hnoback
    rw [Files.moves_dropLast_start, hmoves, Files.names_start, List.length_nil,
      List.length_append, List.length_singleton] at hdepth
    have hkept : Files.entry? (fs.makeDirectories dir).1 l = fs.entry? l :=
      Files.entry?_makeDirectories_of_lt (by omega)
    rw [makeDirectories_of_makeOutputDirectory hmade hdir] at hkept
    rw [← hkept]
    exact hdirectory

/-! ## 4. Where the outputs go -/

/-- The paths of the outputs of a name go on from the stem, without a slash if the name has
none. -/
theorem exists_eq_append {stem name path : String} (hname : '/' ∉ name.toList)
    (hpath : path = Path.chartPath stem name ∨ path = Path.tablePath stem name) :
    ∃ more : String, path = stem ++ more ∧ '/' ∉ more.toList ∧ more ≠ "" := by
  have hextension (extension : String) (hslash : '/' ∉ extension.toList)
      (hne : extension ≠ "") : '/' ∉ (name ++ extension).toList ∧ name ++ extension ≠ "" := by
    rw [String.toList_append, List.mem_append, not_or]
    exact ⟨⟨hname, hslash⟩, fun hempty => hne (String.append_eq_empty_iff.1 hempty).2⟩
  rcases hpath with rfl | rfl
  · exact ⟨name ++ ".svg", String.append_assoc, hextension ".svg" (by decide) (by decide)⟩
  · exact ⟨name ++ ".csv", String.append_assoc, hextension ".csv" (by decide) (by decide)⟩

/-- **The directory of the outputs.** Let a run have made its output directory without a
failure, and take the path of the chart or of the table of any name without a slash.

* If the stem does not end in a piece that is a single dot, a directory is made or found for
  every stem with a slash; it is, in any state, the one that the last piece of the path is
  looked for in; and from then on, while only files are written, this directory exists, so
  that writing fails for the path itself or for what is in its place, and never for want of a
  directory.
* If the stem ends in such a piece, and has no way back in it, the directory of the outputs is
  not made: if it exists afterwards, it did before. -/
theorem output_directory_made {o : Options} {fs made : Files}
    (hmade : makeOutputDirectory o fs = (made, none)) {name path : String}
    (hname : '/' ∉ name.toList)
    (hpath : path = Path.chartPath o.stem name ∨ path = Path.tablePath o.stem name) :
    ((pieces o.stem.toList).getLast? ≠ some ['.'] →
      (outputDirectory? o.stem = none ↔ '/' ∉ o.stem.toList) ∧
      (∀ dir, outputDirectory? o.stem = some dir →
        ∀ gs : Files, gs.enter (Files.start dir).1 (Files.start dir).2 = gs.holder path) ∧
      ∀ later, Files.SameDirectories made later →
        (∃ l, later.holder path = .ok l) ∧
        ∀ content e, later.write path content = .error e →
          e = .unexpectedEnd ∨ e = .tooLong ∨ e = .isDirectory) ∧
    ((pieces o.stem.toList).getLast? = some ['.'] → ['.', '.'] ∉ pieces o.stem.toList →
      ∀ l, made.holder path = .ok l → fs.entry? l = some .directory) := by
  obtain ⟨more, hmore, hslash, hmorene⟩ := exists_eq_append hname hpath
  have hne : path ≠ "" := by
    rw [hmore]
    exact fun hempty => hmorene (String.append_eq_empty_iff.1 hempty).2
  have hholder (gs : Files) : gs.holder path = gs.holder o.stem := by
    rw [hmore, Files.holder_append gs o.stem hslash]
  refine ⟨fun hdot => ⟨Path.outputDirectory?_eq_none hdot, ?_, ?_⟩, ?_⟩
  · intro dir hdir gs
    rw [hholder, Files.enter_outputDirectory hdot hdir]
  · intro later hlater
    obtain ⟨l, hl⟩ := exists_holder_of_made hmade hdot
    have hthere : later.holder path = .ok l := by
      rw [hholder]
      exact hlater.walk_eq_ok.2 hl
    exact ⟨⟨l, hthere⟩, fun content e => Files.write_eq_error_of_holder hthere hne⟩
  · intro hdot hback l hl
    rw [hholder] at hl
    exact entry?_holder_of_dot hmade hdot hback hl

/-- With the usual stem the directory `plots` is made, and charts can be written into it. With
`a/.` nothing is made, and there is no directory for the charts. -/
theorem output_directory_made_usual :
    let plots : Files := ⟨[(⟨.working 0, ["plots".toList]⟩, .directory)]⟩
    makeOutputDirectory {} ⟨[]⟩ = (plots, none) ∧ '/' ∉ "rtt".toList ∧
      (∃ l, plots.holder "plots/def-rtt.svg" = .ok l) ∧
      makeOutputDirectory { stem := "a/." } ⟨[]⟩ = (⟨[]⟩, none) ∧
      (∀ l, Files.holder ⟨[]⟩ "a/.rtt.svg" = .ok l → Files.entry? ⟨[]⟩ l = some .directory) ∧
      ∀ content, Files.write ⟨[]⟩ "a/.rtt.svg" content = .error .notFound := by
  intro plots
  have husual : makeOutputDirectory {} ⟨[]⟩ = (plots, none) := by decide
  have hdot : makeOutputDirectory { stem := "a/." } ⟨[]⟩ = (⟨[]⟩, none) := by decide
  have hname : '/' ∉ "rtt".toList := by decide
  refine ⟨husual, hname, ?_, hdot, ?_, fun content => by rfl⟩
  · exact (((output_directory_made husual hname (.inl rfl)).1 (by decide)).2.2 plots
      fun _ => Iff.rfl).1
  · exact (output_directory_made hdot hname (.inl rfl)).2 (by decide) (by decide)

end FlowTriad
