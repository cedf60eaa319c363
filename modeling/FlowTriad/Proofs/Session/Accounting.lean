/-
`Proofs/Session/Accounting.lean` -- what a run that succeeds says of its variables.

A variable is resolved or passed over, and a resolved one is delivered, or the run would
have failed. So the list of variables splits into the two lists of the summary, each in the
order of the settings (`Interleaving`), and as the settings name each variable once, so does
the summary.

The files of the run are those that the summary names. Their paths are made of the stem, a
name and an extension, and names without a slash make paths that lead to different places:
the place tells the text after the stem (`Files.names_of_locate`), and the text tells name
and extension, which all have one length.
-/
import FlowTriad.Proofs.Path
import FlowTriad.Proofs.Session.Failing
import FlowTriad.Proofs.Settings
import FlowTriad.Proofs.Variable.Specification
import Mathlib.Data.List.ProdSigma
import Mathlib.Data.List.Nodup

set_option autoImplicit false

namespace FlowTriad

open Files (Written)

variable {o : Options} {s : Settings} {set : SeriesSet} {fs fs' : Files} {v : Variable}

/-! ## 1. Resolved or passed over -/

/-- That a list consists of the items of two others, of each in its order. -/
inductive Interleaving {α : Type} : List α → List α → List α → Prop
  | nil : Interleaving [] [] []
  | left {x : α} {xs ys zs : List α} (h : Interleaving xs ys zs) :
      Interleaving (x :: xs) ys (x :: zs)
  | right {y : α} {xs ys zs : List α} (h : Interleaving xs ys zs) :
      Interleaving xs (y :: ys) (y :: zs)

/-- No item is lost or doubled. -/
theorem Interleaving.perm {α : Type} {xs ys zs : List α} (h : Interleaving xs ys zs) :
    (xs ++ ys).Perm zs := by
  induction h with
  | nil => exact .nil
  | left h ih => exact ih.cons _
  | right h ih => exact List.perm_middle.trans (ih.cons _)

theorem name_of_resolve_error {u : Unresolved} (h : resolve s set v = .error u) :
    u.name = v.name := by
  unfold resolve at h
  rw [map_eq_error, mapM_eq_error] at h
  obtain ⟨-, series, -, -, hseries, -⟩ := h
  exact (Series.resolve_eq_error.1 hseries).1

/-- **Every variable is resolved or passed over**, in its place in the order. -/
theorem interleaving_resolveAll (s : Settings) (set : SeriesSet) (vs : List Variable) :
    Interleaving ((resolveAll s set vs).resolved.map (·.description.name))
      ((resolveAll s set vs).skipped.map (·.name)) (vs.map (·.name)) := by
  induction vs with
  | nil => exact .nil
  | cons v vs ih =>
    unfold resolveAll at ih ⊢
    rw [List.map_cons, List.map_cons]
    cases hv : resolve s set v with
    | ok r =>
      rw [← (resolve_eq_ok.1 hv).1]
      exact ih.left
    | error u =>
      rw [← name_of_resolve_error hv]
      exact ih.right

/-! ## 2. Paths -/

/-- The paths that the summary gives for a variable. -/
def Rendered.paths (r : Rendered) : List String :=
  r.chart :: r.table.toList

/-- What the paths of a run's files end with. -/
def extensions (o : Options) : List String :=
  ".svg" :: if o.tables then [".csv"] else []

theorem paths_renderedOf (o : Options) (v : ResolvedVariable) :
    (renderedOf o v).paths =
      (extensions o).map fun e => o.stem ++ ((renderedOf o v).name ++ e) := by
  unfold renderedOf Rendered.paths extensions Path.chartPath Path.tablePath
  cases o.tables <;> simp [String.append_assoc]

/-- The files that are written are those that the summary names. -/
theorem map_fst_outputs (o : Options) (v : ResolvedVariable) :
    (outputs o v).map (·.1) = (renderedOf o v).paths := by
  unfold outputs chartOutput tableOutput renderedOf Rendered.paths
  cases o.tables <;> rfl

theorem extension_cases {e : String} (h : e ∈ extensions o) : e = ".svg" ∨ e = ".csv" := by
  unfold extensions at h
  cases htables : o.tables with
  | false => exact .inl (by simpa [htables] using h)
  | true => simpa [htables] using h

theorem length_extension {e : String} (h : e ∈ extensions o) : e.toList.length = 4 := by
  rcases extension_cases h with rfl | rfl <;> rfl

theorem nodup_extensions (o : Options) : (extensions o).Nodup := by
  unfold extensions
  cases o.tables <;> decide

/-- A name and an extension can be told from their text, as all extensions have one
length. -/
theorem eq_of_append_extension {n n' e e' : String} (he : e ∈ extensions o)
    (he' : e' ∈ extensions o) (h : n ++ e = n' ++ e') : n = n' ∧ e = e' := by
  have hlength : e.toList.length = e'.toList.length := by
    rw [length_extension he, length_extension he']
  have hlist := congrArg String.toList h
  rw [String.toList_append, String.toList_append] at hlist
  obtain ⟨hname, hextension⟩ := List.append_inj' hlist hlength
  exact ⟨String.toList_injective hname, String.toList_injective hextension⟩

/-- That two paths do not lead to one place. -/
def Files.Apart (fs : Files) (p q : String) : Prop :=
  ∀ l, fs.locate p = .ok l → fs.locate q ≠ .ok l

/-- Names without a slash make paths that lead to different places. -/
theorem paths_apart (o : Options) (fs : Files) {names : List String} (hnames : names.Nodup)
    (hslash : ∀ n ∈ names, '/' ∉ n.toList) :
    (names.flatMap fun n => (extensions o).map fun e => o.stem ++ (n ++ e)).Pairwise fs.Apart := by
  have hproduct : names.flatMap (fun n => (extensions o).map fun e => o.stem ++ (n ++ e)) =
      (names ×ˢ extensions o).map fun x => o.stem ++ (x.1 ++ x.2) := by
    show _ = (List.product names (extensions o)).map _
    unfold List.product
    rw [List.map_flatMap]
    simp only [List.map_map]
    rfl
  obtain ⟨last, hlast⟩ := Files.names_of_locate o.stem
  rw [hproduct, List.pairwise_map]
  refine (hnames.product (nodup_extensions o)).imp_of_mem ?_
  rintro ⟨n, e⟩ ⟨n', e'⟩ hmem hmem' hne l hl hl'
  obtain ⟨hn, he⟩ := List.pair_mem_product.1 hmem
  obtain ⟨hn', he'⟩ := List.pair_mem_product.1 hmem'
  -- both texts end the name of the place, so they are one text
  have hname {n e : String} (hn : n ∈ names) (he : e ∈ extensions o)
      (hl : fs.locate (o.stem ++ (n ++ e)) = .ok l) :
      l.names.head? = some (last ++ (n ++ e).toList) := by
    refine hlast fs (n ++ e) l ?_ ?_ hl
    · rw [String.toList_append, List.mem_append, not_or]
      refine ⟨hslash n hn, ?_⟩
      rcases extension_cases he with rfl | rfl <;> decide
    · rw [String.toList_append, List.length_append, length_extension he]
      omega
  have heq := (hname hn he hl).symm.trans (hname hn' he' hl')
  rw [Option.some.injEq, List.append_cancel_left_eq] at heq
  obtain ⟨rfl, rfl⟩ := eq_of_append_extension he he' (String.toList_injective heq)
  exact hne rfl

/-- **Variables without a slash in their names have files of their own.** -/
theorem rendered_paths_apart (o : Options) (fs : Files) {vs : List ResolvedVariable}
    (hnames : ((vs.map (renderedOf o)).map (·.name)).Nodup) :
    (((vs.map (renderedOf o)).filter fun r => '/' ∉ r.name.toList).flatMap
      Rendered.paths).Pairwise fs.Apart := by
  have hpaths : ((vs.map (renderedOf o)).filter fun r => '/' ∉ r.name.toList).flatMap
      Rendered.paths =
        (((vs.map (renderedOf o)).filter fun r => '/' ∉ r.name.toList).map (·.name)).flatMap
          fun n => (extensions o).map fun e => o.stem ++ (n ++ e) := by
    rw [List.flatMap_map]
    refine List.flatMap_congr fun r hr => ?_
    obtain ⟨v, -, rfl⟩ := List.mem_map.1 (List.mem_of_mem_filter hr)
    exact paths_renderedOf o v
  rw [hpaths]
  refine paths_apart o fs (hnames.sublist (List.filter_sublist.map _)) fun n hn => ?_
  obtain ⟨r, hr, rfl⟩ := List.mem_map.1 hn
  simpa using List.of_mem_filter hr

/-! ## 3. Succeeding -/

/-- The summary of a run that has delivered all that its comparison has resolved. -/
def summaryOf (o : Options) (c : Comparison) : Summary :=
  { Summary.of c with rendered := c.resolution.resolved.map (renderedOf o) }

theorem status_failed_ne_zero (fs : Files) (f : Failure) : (Outcome.failed fs f).status ≠ 0 := by
  unfold Outcome.failed Failure.status
  simp only
  split
  · split <;> decide
  · decide

/-- A run that ends with status 0 has come through all its stages. -/
theorem runWith_of_status_zero (hzero : (runWith o fs).status = 0) :
    ∃ s c made, loadSettings fs o.settingsPath = .ok s ∧ compareFiles fs s o.captures = .ok c ∧
      fs.DirectoriesAdded made ∧
      Written made (c.resolution.resolved.flatMap (outputs o)) (runWith o fs).files ∧
      (runWith o fs).output = (summaryOf o c).printed o.format := by
  have hadded := directoriesAdded_makeOutputDirectory o fs
  cases hload : loadSettings fs o.settingsPath with
  | error e =>
    rw [runWith_of_unloaded hload] at hzero
    exact absurd hzero (status_failed_ne_zero _ _)
  | ok s =>
    cases hcompare : compareFiles fs s o.captures with
    | error e =>
      rw [runWith_of_refused hload hcompare] at hzero
      exact absurd hzero (status_failed_ne_zero _ _)
    | ok c =>
      refine ⟨s, c, (makeOutputDirectory o fs).1, rfl, hcompare, hadded, ?_⟩
      unfold Options.captures at hcompare
      unfold runWith at hzero ⊢
      simp only [hload, hcompare] at hzero ⊢
      cases hmade : makeOutputDirectory o fs with
      | mk made failed? =>
        rw [hmade] at hzero
        cases failed? with
        | some f => exact absurd hzero (status_failed_ne_zero _ f)
        | none =>
          cases hdeliver : deliverAll o made (Summary.of c) c.resolution.resolved with
          | mk written result =>
            simp only [hdeliver] at hzero ⊢
            cases result with
            | error f => exact absurd hzero (status_failed_ne_zero _ f)
            | ok summary =>
              obtain ⟨hwritten, rfl⟩ := deliverAll_eq_ok hdeliver
              exact ⟨hwritten, rfl⟩

theorem resolution_of_compareFiles {p : CapturePaths} {c : Comparison}
    (h : compareFiles fs s p = .ok c) : c.resolution = resolveAll s c.set s.compared := by
  obtain ⟨captures, -, hreconcile⟩ := bind_eq_ok.1 h
  obtain ⟨-, -, -, -, -, set, -, -, -, -, -, -, rfl⟩ := reconcile_eq_ok.1 hreconcile
  rfl

/-- That a summary accounts for the variables of the settings and for the files between two
states. -/
structure Accounts (o : Options) (s : Settings) (summary : Summary) (fs fs' : Files) : Prop where
  /-- The configured names are the rendered and the skipped ones, each in their order. -/
  order : Interleaving (summary.rendered.map (·.name)) (summary.skipped.map (·.name))
    (s.compared.map (·.name))
  /-- No name is in both or in one of them twice. -/
  once : (summary.rendered.map (·.name) ++ summary.skipped.map (·.name)).Nodup
  /-- A rendered variable has the path of its chart, and that of its table if tables were
  asked for. -/
  paths : ∀ r ∈ summary.rendered, r.chart = o.stem ++ r.name ++ ".svg" ∧
    r.table = if o.tables then some (o.stem ++ r.name ++ ".csv") else none
  /-- When the directories for them have been made, the files of these paths are written and
  no others; and no two paths of names without a slash lead to one place. -/
  files : ∃ made outputs, fs.DirectoriesAdded made ∧ Written made outputs fs' ∧
    outputs.map (·.1) = summary.rendered.flatMap Rendered.paths ∧
    ((summary.rendered.filter fun r => '/' ∉ r.name.toList).flatMap Rendered.paths).Pairwise
      made.Apart

/-- **A run that succeeds accounts for every variable once.** The summary that it prints
does, and the files that it writes are those that the summary names. -/
theorem successful_run_accounts {args : List String} {o : Options}
    (hargs : Invocation.ofArguments args = .ok (.run o)) {fs : Files}
    (hzero : (run args fs).status = 0) :
    ∃ s c, loadSettings fs o.settingsPath = .ok s ∧ compareFiles fs s o.captures = .ok c ∧
      (run args fs).output = (summaryOf o c).printed o.format ∧
      Accounts o s (summaryOf o c) fs (run args fs).files := by
  rw [run_of_arguments hargs] at hzero ⊢
  obtain ⟨s, c, made, hload, hcompare, hadded, hwritten, houtput⟩ := runWith_of_status_zero hzero
  refine ⟨s, c, hload, hcompare, houtput, ?_⟩
  -- what is resolved is delivered, so it is what the summary has as rendered
  have horder := interleaving_resolveAll s c.set s.compared
  rw [← resolution_of_compareFiles hcompare] at horder
  have hrendered : (summaryOf o c).rendered.map (·.name) =
      c.resolution.resolved.map (·.description.name) := by
    unfold summaryOf
    rw [List.map_map]
    rfl
  rw [← hrendered] at horder
  have honce := horder.perm.nodup_iff.2 (names_nodup_of_loadSettings hload)
  refine ⟨horder, honce, ?_, made, _, hadded, hwritten, ?_, ?_⟩
  · intro r hr
    obtain ⟨v, -, rfl⟩ := List.mem_map.1 hr
    exact ⟨rfl, rfl⟩
  · unfold summaryOf
    rw [List.map_flatMap, List.flatMap_map]
    exact List.flatMap_congr fun v _ => map_fst_outputs o v
  · exact rendered_paths_apart o made (List.nodup_append.1 honce).1

/-- A run over captures with two variables in common, which writes both their charts and
passes over the other three of the usual ones. -/
theorem successful_run_accounts_two_variables :
    let args := ["--firefly-path", "f", "--iperf3-path", "g", "--prefix", "p-"]
    let o : Options := { kernelPath := "f", generatorPath := "g", stem := "p-" }
    ∃ c, compareFiles ⟨twoVariables⟩ {} o.captures = .ok c ∧
      Accounts o {} (summaryOf o c) ⟨twoVariables⟩ (run args ⟨twoVariables⟩).files := by
  intro args o
  have hargs : Invocation.ofArguments args = .ok (.run o) := by decide +kernel
  have hzero : (run args ⟨twoVariables⟩).status = 0 := by decide +kernel
  obtain ⟨s, c, hload, hcompare, -, haccounts⟩ := successful_run_accounts hargs hzero
  cases hload
  exact ⟨c, hcompare, haccounts⟩

end FlowTriad
