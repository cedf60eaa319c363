/-
`Proofs/Output/Table.lean` -- the exported points are read back.

The export is one text, and a program that reads it has nothing but line feeds and commas to go
by. It takes the text apart at the one and every line at the other (`cells`), finds the rows of
a source by their first cell, and reads the values from the third. For that to be the points
that were exported, no field may hold a comma or a line feed: labels do not, and numbers are
written with few characters (`isNumberChar`). The value must also be the same double, which is
what the shortest decimal is for (`Decimal.read?_plain`).

A series without points leaves no trace, and series of one source cannot be told apart. What is
read is the points of all of them, one series after the other.
-/
import FlowTriad.Output.Csv
import FlowTriad.Proofs.Decimal.Layout

set_option autoImplicit false

namespace FlowTriad.Csv

variable {s t : Source} {p : Point}

/-! ## 1. A reader -/

/-- A table taken apart: the cells of its lines. -/
def cells (cs : List Char) : List (List (List Char)) :=
  (cs.splitOn '\n').map (·.splitOn ',')

/-- Whether a row is of a source. -/
def hasLabel (s : Source) (r : List (List Char)) : Bool :=
  r[0]? == some s.label.toList

/-- The rows of a source. -/
def rowsOf (s : Source) (table : List (List (List Char))) : List (List (List Char)) :=
  table.filter (hasLabel s)

/-- The value in a row. -/
def readValue (r : List (List Char)) : Option Float :=
  r[2]?.bind Decimal.read?

/-! ## 2. Rows -/

/-- The names of the columns. -/
def columns : List (List Char) :=
  ["source".toList, "time_s".toList, "value".toList]

/-- The three fields of a point: the label of its source, the time with six decimals, and the
value. -/
def fields (s : Source) (p : Point) : List (List Char) :=
  [s.label.toList, (Decimal.fixed 6 p.1).toList, (Decimal.plain p.2).toList]

/-- The fields as they stand in a line. -/
def line (fs : List (List Char)) : List Char :=
  [','].intercalate fs

/-- Whether a field can stand in a line as it is. -/
def IsPlain (f : List Char) : Prop :=
  ',' ∉ f ∧ '\n' ∉ f

theorem isPlain_label (s : Source) : IsPlain s.label.toList := by
  cases s <;> exact ⟨by decide, by decide⟩

theorem isPlain_of_isNumberChar {f : List Char} (h : ∀ c ∈ f, Decimal.isNumberChar c) :
    IsPlain f :=
  ⟨fun hc => absurd (h _ hc) (by decide), fun hc => absurd (h _ hc) (by decide)⟩

theorem isPlain_of_mem_fields {f : List Char} (h : f ∈ fields s p) : IsPlain f := by
  simp only [fields, List.mem_cons, List.not_mem_nil, or_false] at h
  obtain rfl | rfl | rfl := h
  · exact isPlain_label s
  · exact isPlain_of_isNumberChar (Decimal.isNumberChar_fixed (by decide) p.1)
  · exact isPlain_of_isNumberChar (Decimal.isNumberChar_plain p.2)

theorem isPlain_of_mem_columns {f : List Char} (h : f ∈ columns) : IsPlain f := by
  simp only [columns, List.mem_cons, List.not_mem_nil, or_false] at h
  obtain rfl | rfl | rfl := h <;> exact ⟨by decide, by decide⟩

/-- The row of a point is a line of its fields. -/
theorem toList_row (s : Source) (p : Point) : (row s p).toList = line (fields s p) ++ ['\n'] := by
  have hlabel : encodeField s.label.toList = s.label.toList := by
    cases s <;> rfl
  unfold row line fields
  rw [hlabel]
  simp [timePlaces, List.intercalate, List.intersperse]

/-- The rows of a variable: one for each point of each series, in order. -/
def table (v : ResolvedVariable) : List (List (List Char)) :=
  v.series.flatMap fun t => t.points.map (fields t.source)

/-- The text is made of its lines, each of them ended. -/
theorem toList_text (v : ResolvedVariable) :
    (text v).toList = ((columns :: table v).map line).flatMap (· ++ ['\n']) := by
  have hheader : (header ++ "\n").toList = line columns ++ ['\n'] := rfl
  have hrows (t : PointSeries) :
      (rows t).toList = ((t.points.map (fields t.source)).map line).flatMap (· ++ ['\n']) := by
    unfold rows
    rw [String.toList_join, List.flatMap_map, List.map_map, List.flatMap_map]
    exact List.flatMap_congr fun p _ => toList_row t.source p
  unfold text table
  rw [String.toList_append, hheader, String.toList_join, List.flatMap_map, List.map_cons,
    List.flatMap_cons, List.map_flatMap, List.flatMap_assoc]
  exact congrArg _ (List.flatMap_congr fun t _ => hrows t)

/-! ## 3. Lines -/

/-- Ended lines are found again, and nothing behind the last one. -/
theorem splitOn_lines {ls : List (List Char)} (h : ∀ l ∈ ls, '\n' ∉ l) :
    (ls.flatMap (· ++ ['\n'])).splitOn '\n' = ls ++ [[]] := by
  induction ls with
  | nil => rfl
  | cons l ls ih =>
    obtain ⟨hl, hls⟩ := List.forall_mem_cons.1 h
    rw [List.flatMap_cons, List.append_assoc, List.singleton_append,
      List.splitOn_append_cons_self_of_not_mem hl, ih hls, List.cons_append]

/-- A line holds nothing but its fields and commas. -/
theorem not_mem_line {fs : List (List Char)} (h : ∀ f ∈ fs, IsPlain f) : '\n' ∉ line fs := by
  induction fs with
  | nil => exact List.not_mem_nil
  | cons f fs ih =>
    obtain ⟨hf, hfs⟩ := List.forall_mem_cons.1 h
    cases fs with
    | nil =>
      unfold line
      rw [List.intercalate_singleton]
      exact hf.2
    | cons g fs =>
      have hrest := ih hfs
      unfold line at hrest ⊢
      rw [List.intercalate_cons_cons]
      simp [hf.2, hrest]

/-- Lines of plain fields are taken apart into them. -/
theorem cells_lines {rows : List (List (List Char))} (hne : ∀ r ∈ rows, r ≠ [])
    (h : ∀ r ∈ rows, ∀ f ∈ r, IsPlain f) :
    cells ((rows.map line).flatMap (· ++ ['\n'])) = rows ++ [[[]]] := by
  have hlines : ∀ l ∈ rows.map line, '\n' ∉ l := by
    rw [List.forall_mem_map]
    exact fun r hr => not_mem_line (h r hr)
  have hcells : ∀ r ∈ rows, ((·.splitOn ',') ∘ line) r = r :=
    fun r hr => List.splitOn_intercalate ',' (fun f hf => (h r hr f hf).1) (hne r hr)
  unfold cells
  rw [splitOn_lines hlines, List.map_append, List.map_map, List.map_congr_left hcells, List.map_id']
  rfl

/-! ## 4. The table -/

theorem cells_toList_text (v : ResolvedVariable) :
    cells (text v).toList = columns :: table v ++ [[[]]] := by
  have hrow : ∀ r ∈ columns :: table v, r ≠ [] ∧ ∀ f ∈ r, IsPlain f := by
    refine List.forall_mem_cons.2 ⟨⟨List.cons_ne_nil _ _, fun f => isPlain_of_mem_columns⟩, ?_⟩
    intro r hr
    obtain ⟨t, -, hr⟩ := List.mem_flatMap.1 hr
    obtain ⟨p, -, rfl⟩ := List.mem_map.1 hr
    exact ⟨List.cons_ne_nil _ _, fun f => isPlain_of_mem_fields⟩
  rw [toList_text]
  exact cells_lines (fun r hr => (hrow r hr).1) fun r hr => (hrow r hr).2

/-- A row has the label of its own source and of no other. -/
theorem hasLabel_fields (s t : Source) (p : Point) : hasLabel s (fields t p) = decide (t = s) := by
  show (some t.label.toList == some s.label.toList) = _
  cases s <;> cases t <;> rfl

/-- **The rows of a source** are the points of its series. -/
theorem rowsOf_table (s : Source) (v : ResolvedVariable) :
    rowsOf s (table v) = ((v.series.filter (·.source = s)).flatMap (·.points)).map (fields s) := by
  unfold rowsOf table
  induction v.series with
  | nil => rfl
  | cons t ts ih =>
    rw [List.flatMap_cons, List.filter_append, ih, List.filter_map]
    have hlabel (p : Point) : (hasLabel s ∘ fields t.source) p = decide (t.source = s) :=
      hasLabel_fields s t.source p
    by_cases hs : t.source = s
    · have hall : ∀ p ∈ t.points, (hasLabel s ∘ fields t.source) p :=
        fun p _ => (hlabel p).trans (decide_eq_true hs)
      rw [List.filter_eq_self.2 hall, List.filter_cons_of_pos (by simpa using hs),
        List.flatMap_cons, List.map_append, hs]
    · have hnone : ∀ p ∈ t.points, ¬ (hasLabel s ∘ fields t.source) p :=
        fun p _ h => hs (of_decide_eq_true ((hlabel p).symm.trans h))
      rw [List.filter_eq_nil_iff.2 hnone, List.filter_cons_of_neg (by simpa using hs)]
      rfl

/-- The first line and what follows the last one belong to no source. -/
theorem rowsOf_between (s : Source) (rows : List (List (List Char))) :
    rowsOf s (columns :: rows ++ [[[]]]) = rowsOf s rows := by
  have hcolumns : ¬ hasLabel s columns := by
    cases s <;> decide
  have hlast : ¬ hasLabel s [[]] := by
    cases s <;> decide
  unfold rowsOf
  rw [List.cons_append, List.filter_cons_of_neg hcolumns, List.filter_append,
    List.filter_cons_of_neg hlast, List.filter_nil, List.append_nil]

/-- **The export is read back without loss.** Taken apart, it is the names of the columns, one
row of three fields for each point, and nothing behind the last line feed. Whatever the order
of the series, and whether a source has several of them or none, the rows of a source are its
points in order; and from each of them its value is read, also one that is no number. -/
theorem cells_text (v : ResolvedVariable) :
    cells (text v).toList = columns :: table v ++ [[[]]] ∧
      ∀ s : Source,
        let rows := rowsOf s (cells (text v).toList)
        let points := (v.series.filter (·.source = s)).flatMap (·.points)
        rows = points.map (fields s) ∧ rows.map readValue = points.map fun p => some p.2 := by
  have hcells := cells_toList_text v
  refine ⟨hcells, fun s => ?_⟩
  -- the whole table is searched, with the first line and what is behind the last one
  have hrows : rowsOf s (cells (text v).toList) =
      ((v.series.filter (·.source = s)).flatMap (·.points)).map (fields s) := by
    rw [hcells, rowsOf_between, rowsOf_table]
  refine ⟨hrows, ?_⟩
  rw [hrows, List.map_map]
  exact List.map_congr_left fun p _ => Decimal.read?_plain p.2

end FlowTriad.Csv
