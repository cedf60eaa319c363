/-
`Proofs/Path/Pieces.lean` -- the pieces of a path.

A path is cut at its slashes, and put together again from the pieces; neither loses anything
(`joined_pieces`, `pieces_joined`). A slash between two texts ends a piece, and without one
the text behind continues the last piece of the text before (`pieces_append_slash`,
`pieces_append`).

Of the pieces, those that lead somewhere are the moves of a path. All others are empty or a
single dot.
-/
import FlowTriad.Path

set_option autoImplicit false

namespace FlowTriad.Path

variable {cs ds : List Char} {ps qs : List (List Char)}

/-! ## 1. Texts and pieces -/

/-- The pieces of a text that goes on from the last one of the rest. -/
theorem pieces_cons_of_ne {c : Char} (hc : c ≠ '/') {cs : List Char} {p : List Char}
    {ps : List (List Char)} (h : pieces cs = p :: ps) : pieces (c :: cs) = (c :: p) :: ps := by
  rw [pieces.eq_3 c cs (fun hslash => hc hslash), h]

theorem pieces_of_no_slash {cs : List Char} (h : '/' ∉ cs) : pieces cs = [cs] := by
  induction cs with
  | nil => rfl
  | cons c cs ih =>
    rw [List.mem_cons, not_or] at h
    exact pieces_cons_of_ne (Ne.symm h.1) (ih h.2)

/-- **What has no slash** goes to the last piece. -/
theorem pieces_append (cs : List Char) :
    ∃ front last, ∀ more, '/' ∉ more → pieces (cs ++ more) = front ++ [last ++ more] := by
  induction cs with
  | nil => exact ⟨[], [], fun more hmore => pieces_of_no_slash hmore⟩
  | cons c cs ih =>
    obtain ⟨front, last, h⟩ := ih
    by_cases hc : c = '/'
    · -- a slash puts an empty piece in front, and leaves the last one
      refine ⟨[] :: front, last, fun more hmore => ?_⟩
      rw [hc, List.cons_append, pieces, h more hmore]
      rfl
    · cases front with
      | nil => exact ⟨[], c :: last, fun more hmore => pieces_cons_of_ne hc (h more hmore)⟩
      | cons p front =>
        exact ⟨(c :: p) :: front, last, fun more hmore => pieces_cons_of_ne hc (h more hmore)⟩

theorem pieces_ne_nil (cs : List Char) : pieces cs ≠ [] := by
  obtain ⟨front, last, h⟩ := pieces_append cs
  have hpieces := h [] (List.not_mem_nil)
  rw [List.append_nil] at hpieces
  rw [hpieces]
  exact List.append_ne_nil_of_right_ne_nil _ (List.cons_ne_nil _ _)

/-- A slash ends a piece. -/
theorem pieces_append_slash (cs ds : List Char) :
    pieces (cs ++ '/' :: ds) = pieces cs ++ pieces ds := by
  induction cs with
  | nil => rfl
  | cons c cs ih =>
    by_cases hc : c = '/'
    · rw [hc, List.cons_append, pieces, pieces, ih]
      rfl
    · obtain ⟨p, ps, hp⟩ := List.exists_cons_of_ne_nil (pieces_ne_nil cs)
      rw [hp] at ih
      rw [pieces_cons_of_ne hc hp]
      exact pieces_cons_of_ne hc ih

theorem joined_cons (p : List Char) (h : ps ≠ []) : joined (p :: ps) = p ++ '/' :: joined ps := by
  cases ps with
  | nil => exact absurd rfl h
  | cons q qs => rfl

theorem joined_append (hps : ps ≠ []) (hqs : qs ≠ []) :
    joined (ps ++ qs) = joined ps ++ '/' :: joined qs := by
  induction ps with
  | nil => exact absurd rfl hps
  | cons p ps ih =>
    rw [List.cons_append, joined_cons p (List.append_ne_nil_of_right_ne_nil ps hqs)]
    by_cases hnil : ps = []
    · rw [hnil]
      rfl
    · rw [ih hnil, joined_cons p hnil, List.append_assoc]
      rfl

/-- A text is its pieces with slashes between them. -/
theorem joined_pieces (cs : List Char) : joined (pieces cs) = cs := by
  induction cs with
  | nil => rfl
  | cons c cs ih =>
    by_cases hc : c = '/'
    · rw [hc, pieces, joined_cons _ (pieces_ne_nil cs), ih]
      rfl
    · obtain ⟨p, ps, hp⟩ := List.exists_cons_of_ne_nil (pieces_ne_nil cs)
      rw [hp] at ih
      rw [pieces_cons_of_ne hc hp]
      cases ps with
      | nil => exact congrArg (c :: ·) ih
      | cons q qs => exact congrArg (c :: ·) ih

theorem not_mem_of_mem_pieces {p : List Char} (h : p ∈ pieces cs) : '/' ∉ p := by
  induction cs generalizing p with
  | nil =>
    obtain rfl := List.mem_singleton.1 h
    exact List.not_mem_nil
  | cons c cs ih =>
    by_cases hc : c = '/'
    · rw [hc, pieces] at h
      rcases List.mem_cons.1 h with rfl | hmem
      · exact List.not_mem_nil
      · exact ih hmem
    · obtain ⟨q, qs, hq⟩ := List.exists_cons_of_ne_nil (pieces_ne_nil cs)
      rw [pieces_cons_of_ne hc hq] at h
      rw [hq] at ih
      rcases List.mem_cons.1 h with rfl | hmem
      · rw [List.mem_cons, not_or]
        exact ⟨Ne.symm hc, ih List.mem_cons_self⟩
      · exact ih (List.mem_cons_of_mem q hmem)

/-- Pieces are found again in their text. -/
theorem pieces_joined (hps : ps ≠ []) (h : ∀ p ∈ ps, '/' ∉ p) : pieces (joined ps) = ps := by
  induction ps with
  | nil => exact absurd rfl hps
  | cons p ps ih =>
    have hp := pieces_of_no_slash (h p List.mem_cons_self)
    by_cases hnil : ps = []
    · rw [hnil]
      exact hp
    · rw [joined_cons p hnil, pieces_append_slash, hp,
        ih hnil fun q hq => h q (List.mem_cons_of_mem p hq)]
      rfl

/-- A text begins as its first pieces do. -/
theorem joined_prefix (h : ps <+: qs) : joined ps <+: joined qs := by
  obtain ⟨more, rfl⟩ := h
  by_cases hps : ps = []
  · rw [hps]
    exact List.nil_prefix
  · by_cases hmore : more = []
    · simp only [hmore, List.append_nil, List.prefix_rfl]
    · rw [joined_append hps hmore]
      exact List.prefix_append _ _

/-! ## 2. Moves -/

/-- The pieces that lead somewhere. -/
def moves (ps : List (List Char)) : List (List Char) :=
  ps.filter (!isIdle ·)

theorem moves_append (ps qs : List (List Char)) : moves (ps ++ qs) = moves ps ++ moves qs :=
  List.filter_append ..

theorem moves_cons_of_idle {p : List Char} (h : isIdle p) : moves (p :: ps) = moves ps :=
  List.filter_cons_of_neg (by simp [h])

theorem moves_cons_of_not_idle {p : List Char} (h : ¬ isIdle p) :
    moves (p :: ps) = p :: moves ps :=
  List.filter_cons_of_pos (by simpa using h)

theorem moves_eq_nil : moves ps = [] ↔ ∀ p ∈ ps, isIdle p := by
  unfold moves
  rw [List.filter_eq_nil_iff]
  simp

theorem moves_dropWhile (ps : List (List Char)) :
    moves (ps.dropWhile isIdle).reverse = moves ps.reverse := by
  have hsplit : ps.reverse = (ps.dropWhile isIdle).reverse ++ (ps.takeWhile isIdle).reverse := by
    rw [← List.reverse_append, List.takeWhile_append_dropWhile]
  have hidle : moves (ps.takeWhile isIdle).reverse = [] := by
    rw [moves_eq_nil]
    intro p hp
    exact List.all_eq_true.1 List.all_takeWhile p (List.mem_reverse.1 hp)
  rw [hsplit, moves_append, hidle, List.append_nil]

/-- The text of no pieces has an empty one, which is no move. -/
theorem moves_pieces_joined (h : ∀ p ∈ ps, '/' ∉ p) : moves (pieces (joined ps)) = moves ps := by
  by_cases hps : ps = []
  · rw [hps]
    rfl
  · rw [pieces_joined hps h]

end FlowTriad.Path
