/-
`Proofs/Path.lean` -- where the files of one stem lie.

A stem is put before a name without a word between, so it says which directory a file lies
in and how its name begins. If what follows the stem has no slash, it goes to the end of
the stem's last piece (`pieces_append`): all such files lie in one directory, and where two
of them lead differs where the texts after the stem do (`names_of_locate`).
-/
import FlowTriad.Proofs.Files
import FlowTriad.Proofs.Path.Pieces

set_option autoImplicit false

namespace FlowTriad.Files

open FlowTriad.Path (moves pieces)

variable {path dir : String}

/-! ## 1. Where paths start -/

/-- Paths start at the root or in the working directory. -/
theorem start_fst (path : String) :
    (start path).1 = if path.toList.head? = some '/' then ⟨.root, []⟩ else ⟨.working 0, []⟩ := by
  unfold start
  split
  · next r hr =>
    rw [hr]
    rfl
  · next hslash =>
    rw [if_neg]
    intro hhead
    obtain ⟨r, hr⟩ := List.head?_eq_some_iff.1 hhead
    exact hslash r hr

theorem names_start (path : String) : (start path).1.names = [] := by
  rw [start_fst]
  split <;> rfl

/-- They start in the same place if one begins the other. -/
theorem start_fst_of_prefix (h : dir.toList <+: path.toList) (hne : dir ≠ "") :
    (start dir).1 = (start path).1 := by
  have hdir : dir.toList ≠ [] := fun hnil => hne (String.toList_eq_nil_iff.1 hnil)
  obtain ⟨rest, hrest⟩ := h
  rw [start_fst, start_fst, ← hrest, List.head?_append_of_ne_nil _ hdir]

/-- The pieces to walk are those of the path, but for the empty one before the root's slash. -/
theorem start_snd_cases (path : String) :
    (start path).2 = pieces path.toList ∨ pieces path.toList = [] :: (start path).2 := by
  unfold start
  split
  · next r hr =>
    rw [hr]
    exact .inr rfl
  · exact .inl rfl

/-- So they have the moves of the path, ... -/
theorem moves_start (path : String) : moves (start path).2 = moves (pieces path.toList) := by
  rcases start_snd_cases path with heq | heq
  · rw [heq]
  · rw [heq]
    rfl

/-- ... and also without the last one. -/
theorem moves_dropLast_start (path : String) :
    moves (start path).2.dropLast = moves (pieces path.toList).dropLast := by
  rcases start_snd_cases path with heq | heq
  · rw [heq]
  · rw [heq]
    cases (start path).2 with
    | nil => rfl
    | cons p ps => rfl

/-! ## 2. The files of one stem -/

/-- **The path of a file** goes on from the last piece of the stem, and only the stem says where
it starts. -/
theorem start_append (stem : String) :
    ∃ anchor front last, ∀ more : String, '/' ∉ more.toList →
      start (stem ++ more) = (anchor, front ++ [last ++ more.toList]) := by
  cases hstem : stem.toList with
  | nil =>
    refine ⟨⟨.working 0, []⟩, [], [], fun more hmore => ?_⟩
    unfold start
    rw [String.toList_append, hstem, List.nil_append]
    split
    · next r hr =>
      rw [hr] at hmore
      exact absurd List.mem_cons_self hmore
    · rw [Path.pieces_of_no_slash hmore]
      rfl
  | cons c cs =>
    by_cases hc : c = '/'
    · obtain ⟨front, last, h⟩ := Path.pieces_append cs
      refine ⟨⟨.root, []⟩, front, last, fun more hmore => ?_⟩
      unfold start
      rw [String.toList_append, hstem, hc, List.cons_append]
      simp only [h _ hmore]
    · obtain ⟨front, last, h⟩ := Path.pieces_append (c :: cs)
      refine ⟨⟨.working 0, []⟩, front, last, fun more hmore => ?_⟩
      unfold start
      rw [String.toList_append, hstem, ← h _ hmore]
      split
      · next r hr =>
        rw [List.cons_append] at hr
        exact absurd (List.cons.inj hr).1 hc
      · rfl

/-- A piece of three characters or more leads into a directory. -/
theorem step_of_long {l m : Location} {piece : List Char} (hlong : 2 < piece.length)
    (h : step l piece = .ok m) : m = l.child piece := by
  have hidle : ¬ Path.isIdle piece := by
    unfold Path.isIdle
    simp only [Bool.or_eq_true, beq_iff_eq]
    rintro (rfl | rfl)
    · cases hlong
    · simp at hlong
  have hparent : piece ≠ ['.', '.'] := by
    rintro rfl
    simp at hlong
  unfold step at h
  rw [if_neg hidle] at h
  split_ifs at h
  exact (Except.ok.inj h).symm

/-- **Where the files of a stem lie.** What follows the stem, if it has no slash and is not
short, ends the name of the place that the path leads to. -/
theorem names_of_locate (stem : String) :
    ∃ last, ∀ (fs : Files) (more : String) (l : Location), '/' ∉ more.toList →
      2 < more.toList.length → fs.locate (stem ++ more) = .ok l →
      l.names.head? = some (last ++ more.toList) := by
  obtain ⟨anchor, front, last, hstart⟩ := start_append stem
  refine ⟨last, fun fs more l hmore hlong hl => ?_⟩
  obtain ⟨-, hwalk⟩ := locate_eq_ok.1 hl
  -- the last piece is walked after all others, and leads to a name
  rw [hstart more hmore, walk_append_eq_ok] at hwalk
  obtain ⟨holder, -, hlast⟩ := hwalk
  obtain ⟨-, m, hm, hend⟩ := walk_cons_eq_ok.1 hlast
  have hchild := step_of_long (by rw [List.length_append]; omega) hm
  rw [walk, Except.ok.injEq] at hend
  rw [← hend, hchild]
  rfl

end FlowTriad.Files
