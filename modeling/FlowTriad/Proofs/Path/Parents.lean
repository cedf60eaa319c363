/-
`Proofs/Path/Parents.lean` -- the directories above a path.

There are two views of a path. The system walks its pieces between the slashes; the
directories above it are found by its components, and are given as texts again. The two
agree on the pieces that lead somewhere, its moves: a path leads where its moves do, and a
directory above it has the first of them (`moves_of_mem_parents`).

The nearest directory above has all moves but one (`moves_of_parent`). It is the directory
that the last piece is looked for in if the last move is the last piece, and this is where
the views part: in `a/.` the last piece is the dot, which is no move.
-/
import FlowTriad.Proofs.Path.Pieces

set_option autoImplicit false

namespace FlowTriad.Path

variable {cs ds anchor rest : List Char} {ps qs : List (List Char)} {path dir : String}

/-! ## 1. Anchors -/

/-- The texts that stand apart at the beginning of a path. What follows a dot is nothing or
begins with a slash; and where nothing stands apart, the path begins with a move, if it is
not empty. -/
theorem splitAnchor_cases (cs : List Char) :
    (∃ r, cs = '/' :: r ∧ splitAnchor cs = (['/'], r)) ∨
      (cs = ['.'] ∧ splitAnchor cs = (['.'], [])) ∨
      (∃ r, cs = '.' :: '/' :: r ∧ splitAnchor cs = (['.'], '/' :: r)) ∨
      (splitAnchor cs = ([], cs) ∧ ∀ p ps, pieces cs = p :: ps → isIdle p → cs = []) := by
  unfold splitAnchor
  split
  · next r => exact .inl ⟨r, rfl, rfl⟩
  · exact .inr (.inl ⟨rfl, rfl⟩)
  · next r => exact .inr (.inr (.inl ⟨r, rfl, rfl⟩))
  · next hslash hdot hdotSlash =>
    refine .inr (.inr (.inr ⟨rfl, ?_⟩))
    intro p ps hpieces hidle
    have htext := joined_pieces cs
    rw [hpieces] at htext
    -- a first piece that is idle would leave a text of one of the other forms
    have hforms : p = [] ∨ p = ['.'] := by
      unfold isIdle at hidle
      simpa using hidle
    by_cases hps : ps = []
    · rw [hps] at htext
      rcases hforms with rfl | rfl
      · exact htext.symm
      · exact absurd htext.symm hdot
    · rw [joined_cons p hps] at htext
      rcases hforms with rfl | rfl
      · exact absurd htext.symm (hslash _)
      · exact absurd htext.symm (hdotSlash _)

/-- Without a slash, only a single dot stands apart. -/
theorem splitAnchor_of_no_slash (h : '/' ∉ cs) (hdot : cs ≠ ['.']) : splitAnchor cs = ([], cs) := by
  rcases splitAnchor_cases cs with ⟨r, rfl, -⟩ | ⟨hcs, -⟩ | ⟨r, rfl, -⟩ | ⟨hsplit, -⟩
  · exact absurd List.mem_cons_self h
  · exact absurd hcs hdot
  · exact absurd (List.mem_cons_of_mem _ List.mem_cons_self) h
  · exact hsplit

theorem append_splitAnchor (cs : List Char) : (splitAnchor cs).1 ++ (splitAnchor cs).2 = cs := by
  rcases splitAnchor_cases cs with ⟨r, rfl, h⟩ | ⟨rfl, h⟩ | ⟨r, rfl, h⟩ | ⟨h, -⟩
  all_goals
    rw [h]
    rfl

/-- **What stands apart is no move**, whether it is cut off or stays before some of the
pieces that follow. -/
theorem moves_anchor_append (h : ps <+: pieces (splitAnchor cs).2) :
    moves (pieces ((splitAnchor cs).1 ++ joined ps)) = moves ps := by
  have hslash : ∀ p ∈ ps, '/' ∉ p := fun p hp => not_mem_of_mem_pieces (h.subset hp)
  have hjoined := moves_pieces_joined hslash
  rcases splitAnchor_cases cs with ⟨r, rfl, hsplit⟩ | ⟨rfl, hsplit⟩ | ⟨r, rfl, hsplit⟩ | ⟨hsplit, -⟩
  · rw [hsplit]
    exact hjoined
  · rw [hsplit] at h ⊢
    cases ps with
    | nil => rfl
    | cons p ps =>
      obtain ⟨rfl, hps⟩ := List.cons_prefix_cons.1 h
      rw [List.prefix_nil.1 hps]
      rfl
  · rw [hsplit] at h ⊢
    cases ps with
    | nil => rfl
    | cons p ps =>
      -- the first piece after the dot is the empty one before the slash
      obtain rfl : p = [] := (List.cons_prefix_cons.1 h).1
      by_cases hps : ps = []
      · rw [hps]
        rfl
      · rw [joined_cons _ hps]
        show moves (pieces (['.'] ++ '/' :: joined ps)) = _
        rw [pieces_append_slash, moves_append,
          moves_pieces_joined fun q hq => hslash q (List.mem_cons_of_mem _ hq)]
        rfl
  · rw [hsplit]
    exact hjoined

theorem moves_splitAnchor (cs : List Char) :
    moves (pieces (splitAnchor cs).2) = moves (pieces cs) := by
  have h : moves (pieces ((splitAnchor cs).1 ++ joined (pieces (splitAnchor cs).2))) =
      moves (pieces (splitAnchor cs).2) := moves_anchor_append List.prefix_rfl
  rw [joined_pieces, append_splitAnchor] at h
  exact h.symm

/-! ## 2. The directories above -/

/-- A directory above some pieces is the text of the first of them. -/
theorem exists_of_mem_above (h : dir ∈ above anchor ps) :
    ∃ first, first <+: ps.reverse ∧ dir.toList = anchor ++ joined first := by
  induction ps with
  | nil => cases h
  | cons p ps ih =>
    have hback {first : List (List Char)} (hfirst : first <+: ps.reverse) :
        first <+: (p :: ps).reverse := by
      rw [List.reverse_cons]
      exact hfirst.trans (List.prefix_append _ _)
    rw [above] at h
    split at h
    · obtain ⟨first, hfirst, htext⟩ := ih h
      exact ⟨first, hback hfirst, htext⟩
    · rcases List.mem_cons.1 h with rfl | hmem
      · refine ⟨(ps.dropWhile isIdle).reverse, hback ?_, String.toList_ofList⟩
        exact List.reverse_prefix.2 (List.dropWhile_suffix isIdle)
      · obtain ⟨first, hfirst, htext⟩ := ih hmem
        exact ⟨first, hback hfirst, htext⟩

/-- The nearest one leaves out the last move and what is idle around it. -/
theorem exists_of_head_above (h : (above anchor ps).head? = some dir) :
    ∃ first move, first <+: ps.reverse ∧ dir.toList = anchor ++ joined first ∧
      moves ps.reverse = moves first ++ [move] := by
  induction ps with
  | nil => cases h
  | cons p ps ih =>
    rw [above] at h
    rw [List.reverse_cons, moves_append]
    -- idle pieces at the end are passed over; the first move that is met is the one left out
    split at h
    · next hidle =>
      obtain ⟨first, move, hfirst, htext, hmoves⟩ := ih h
      refine ⟨first, move, hfirst.trans (List.prefix_append _ _), htext, ?_⟩
      rw [hmoves, moves_cons_of_idle hidle]
      exact List.append_nil _
    · next hidle =>
      rw [← Option.some.inj h]
      refine ⟨(ps.dropWhile isIdle).reverse, p, ?_, String.toList_ofList, ?_⟩
      · exact (List.reverse_prefix.2 (List.dropWhile_suffix isIdle)).trans (List.prefix_append _ _)
      · rw [moves_dropWhile, moves_cons_of_not_idle hidle]
        rfl

theorem parents_eq_above (path : String) :
    parents path =
      above (splitAnchor path.toList).1 (pieces (splitAnchor path.toList).2).reverse :=
  rfl

/-- The directories above a path begin its text. -/
theorem prefix_of_mem_parents (h : dir ∈ parents path) : dir.toList <+: path.toList := by
  rw [parents_eq_above] at h
  obtain ⟨first, hfirst, htext⟩ := exists_of_mem_above h
  rw [List.reverse_reverse] at hfirst
  have hjoined := joined_prefix hfirst
  rw [joined_pieces] at hjoined
  have hwhole := (List.prefix_append_right_inj (splitAnchor path.toList).1).2 hjoined
  rw [append_splitAnchor] at hwhole
  rw [htext]
  exact hwhole

/-- **A directory above** has the first moves of a path. -/
theorem moves_of_mem_parents (h : dir ∈ parents path) :
    moves (pieces dir.toList) <+: moves (pieces path.toList) := by
  rw [parents_eq_above] at h
  obtain ⟨first, hfirst, htext⟩ := exists_of_mem_above h
  rw [List.reverse_reverse] at hfirst
  rw [htext, moves_anchor_append hfirst, ← moves_splitAnchor path.toList]
  exact hfirst.filter _

/-- **The nearest** has all but one. -/
theorem moves_of_parent (h : (parents path).head? = some dir) :
    ∃ move, moves (pieces path.toList) = moves (pieces dir.toList) ++ [move] := by
  rw [parents_eq_above] at h
  obtain ⟨first, move, hfirst, htext, hmoves⟩ := exists_of_head_above h
  rw [List.reverse_reverse] at hfirst hmoves
  refine ⟨move, ?_⟩
  rw [htext, moves_anchor_append hfirst, ← moves_splitAnchor path.toList, hmoves]

/-- There is none only above a path without a move. -/
theorem moves_of_above_eq_nil (h : above anchor ps = []) : moves ps.reverse = [] := by
  induction ps with
  | nil => rfl
  | cons p ps ih =>
    rw [above] at h
    split at h
    · next hidle =>
      rw [List.reverse_cons, moves_append, ih h, moves_cons_of_idle hidle]
      rfl
    · cases h

theorem moves_of_parents_eq_nil (h : parents path = []) : moves (pieces path.toList) = [] := by
  rw [parents_eq_above] at h
  have hmoves := moves_of_above_eq_nil h
  rw [List.reverse_reverse] at hmoves
  rw [← moves_splitAnchor, hmoves]

/-! ## 3. The directory of the outputs -/

variable {stem : String}

theorem outputDirectory?_eq_some :
    outputDirectory? stem = some dir ↔
      stem.toList.getLast? = some '/' ∧ stem = dir ∨
        stem.toList.getLast? ≠ some '/' ∧ (parents stem).head? = some dir ∧ dir ≠ "" := by
  unfold outputDirectory?
  by_cases hslash : stem.toList.getLast? = some '/'
  · rw [if_pos hslash, Option.some.injEq]
    simp [hslash]
  · rw [if_neg hslash, Option.filter_eq_some_iff]
    simp [hslash]

/-- The directory begins the text of the stem. -/
theorem prefix_of_outputDirectory (h : outputDirectory? stem = some dir) :
    dir.toList <+: stem.toList ∧ dir ≠ "" := by
  rcases outputDirectory?_eq_some.1 h with ⟨hslash, rfl⟩ | ⟨-, hparent, hne⟩
  · refine ⟨List.prefix_rfl, ?_⟩
    rintro rfl
    cases hslash
  · exact ⟨prefix_of_mem_parents (List.mem_of_head? hparent), hne⟩

/-- A path that ends neither in a slash nor in a single dot ends in a move. -/
theorem exists_last_move (hne : cs ≠ []) (hslash : cs.getLast? ≠ some '/')
    (hdot : (pieces cs).getLast? ≠ some ['.']) :
    ∃ front last, pieces cs = front ++ [last] ∧ ¬ isIdle last := by
  obtain ⟨front, last, h⟩ := pieces_append cs
  have hpieces := h [] List.not_mem_nil
  rw [List.append_nil, List.append_nil] at hpieces
  refine ⟨front, last, hpieces, ?_⟩
  rw [hpieces, List.getLast?_concat] at hdot
  have hlast : last ≠ [] := by
    rintro rfl
    have htext := joined_pieces cs
    rw [hpieces] at htext
    by_cases hfront : front = []
    · rw [hfront] at htext
      exact hne htext.symm
    · rw [joined_append hfront (List.cons_ne_nil _ _)] at htext
      rw [← htext] at hslash
      exact hslash List.getLast?_concat
  unfold isIdle
  simpa [hlast] using hdot

/-- **The directory that is made** is the one that the last piece is looked for in, as long as
that piece is no dot. -/
theorem moves_of_outputDirectory (hdot : (pieces stem.toList).getLast? ≠ some ['.'])
    (h : outputDirectory? stem = some dir) :
    moves (pieces dir.toList) = moves (pieces stem.toList).dropLast := by
  rcases outputDirectory?_eq_some.1 h with ⟨hslash, rfl⟩ | ⟨hslash, hparent, -⟩
  · -- after a slash the last piece is empty, and the stem is the directory
    obtain ⟨ds, hds⟩ := List.getLast?_eq_some_iff.1 hslash
    rw [hds, pieces_append_slash, moves_append]
    show _ = moves (pieces ds ++ [[]]).dropLast
    rw [List.dropLast_concat]
    exact List.append_nil _
  · obtain ⟨move, hmoves⟩ := moves_of_parent hparent
    have hne : stem.toList ≠ [] := by
      intro hnil
      rw [hnil] at hmoves
      exact List.append_ne_nil_of_right_ne_nil _ (List.cons_ne_nil _ _) hmoves.symm
    obtain ⟨front, last, hpieces, hlast⟩ := exists_last_move hne hslash hdot
    rw [hpieces, moves_append, moves_cons_of_not_idle hlast] at hmoves
    rw [hpieces, List.dropLast_concat]
    exact (List.append_inj' hmoves rfl).1.symm

/-- If it is one, it is no move, and what is made is one level above: to the directory that the
last piece is looked for in, there is one more move. -/
theorem moves_of_outputDirectory_of_dot (hdot : (pieces stem.toList).getLast? = some ['.'])
    (h : outputDirectory? stem = some dir) :
    ∃ move, moves (pieces stem.toList).dropLast = moves (pieces dir.toList) ++ [move] := by
  obtain ⟨front, hfront⟩ := List.getLast?_eq_some_iff.1 hdot
  have hmoves : moves (pieces stem.toList).dropLast = moves (pieces stem.toList) := by
    rw [hfront, List.dropLast_concat, moves_append]
    exact (List.append_nil _).symm
  rcases outputDirectory?_eq_some.1 h with ⟨hslash, -⟩ | ⟨-, hparent, -⟩
  · obtain ⟨ds, hds⟩ := List.getLast?_eq_some_iff.1 hslash
    rw [hds, pieces_append_slash] at hdot
    simp [pieces] at hdot
  · rw [hmoves]
    exact moves_of_parent hparent

/-- Where the nearest directory above is the working directory, and the path does not name
it, the path is a single piece. -/
theorem not_mem_of_parent_eq_empty {front : List (List Char)} {last : List Char}
    (hpieces : pieces path.toList = front ++ [last]) (hlast : ¬ isIdle last)
    (h : (parents path).head? = some "") : '/' ∉ path.toList := by
  obtain ⟨move, hmoves⟩ := moves_of_parent h
  rw [hpieces, moves_append, moves_cons_of_not_idle hlast] at hmoves
  have hidle : ∀ p ∈ front, isIdle p := moves_eq_nil.1 (List.append_inj' hmoves rfl).1
  rw [parents_eq_above] at h
  obtain ⟨first, -, -, htext, -⟩ := exists_of_head_above h
  have hanchor : (splitAnchor path.toList).1 = [] := (List.append_eq_nil_iff.1 htext.symm).1
  rcases splitAnchor_cases path.toList with ⟨r, -, hs⟩ | ⟨-, hs⟩ | ⟨r, -, hs⟩ | ⟨-, hbegins⟩
  · rw [hs] at hanchor
    cases hanchor
  · rw [hs] at hanchor
    cases hanchor
  · rw [hs] at hanchor
    cases hanchor
  · cases front with
    | nil =>
      have hmem : last ∈ pieces path.toList := by
        rw [hpieces]
        exact List.mem_cons_self
      have htext := joined_pieces path.toList
      rw [hpieces] at htext
      rw [← htext]
      exact not_mem_of_mem_pieces hmem
    | cons p ps =>
      rw [hbegins p _ hpieces (hidle p List.mem_cons_self)]
      exact List.not_mem_nil

theorem outputDirectory?_of_no_slash (h : '/' ∉ stem.toList) (hdot : stem.toList ≠ ['.']) :
    outputDirectory? stem = none := by
  have hslash : stem.toList.getLast? ≠ some '/' := fun hlast => h (List.mem_of_getLast? hlast)
  unfold outputDirectory?
  rw [if_neg hslash, parents_eq_above, splitAnchor_of_no_slash h hdot, pieces_of_no_slash h]
  show Option.filter _ (above [] [stem.toList]).head? = none
  rw [above]
  split <;> rfl

/-- **There is none to be made** only for a stem without a slash, under the same condition. -/
theorem outputDirectory?_eq_none (hdot : (pieces stem.toList).getLast? ≠ some ['.']) :
    outputDirectory? stem = none ↔ '/' ∉ stem.toList := by
  constructor
  · intro hnone hmem
    unfold outputDirectory? at hnone
    split at hnone
    · cases hnone
    next hslash =>
    obtain ⟨front, last, hpieces, hlast⟩ := exists_last_move (List.ne_nil_of_mem hmem) hslash hdot
    cases hparent : (parents stem).head? with
    | none =>
      -- no directory is above, but there is a move
      have hmoves := moves_of_parents_eq_nil (List.head?_eq_none_iff.1 hparent)
      rw [hpieces, moves_append, moves_cons_of_not_idle hlast] at hmoves
      exact List.append_ne_nil_of_right_ne_nil _ (List.cons_ne_nil _ _) hmoves
    | some dir =>
      rw [hparent] at hnone
      obtain rfl : dir = "" := by simpa [Option.filter_some] using hnone
      exact not_mem_of_parent_eq_empty hpieces hlast hparent hmem
  · intro hmem
    refine outputDirectory?_of_no_slash hmem ?_
    intro hcs
    rw [hcs] at hdot
    exact hdot rfl

end FlowTriad.Path
