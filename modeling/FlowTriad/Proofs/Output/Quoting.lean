/-
`Proofs/Output/Quoting.lean` -- fields of a table are read back.

A field stands in a row as it is or between quotes, with its own quotes doubled. A reader
tells the two apart by the first character, and takes a quoted field up to the first quote
that is not doubled, any other up to the next comma or line feed.

Two things could go wrong, and neither does. A doubled quote could be taken for the last one:
but quotes are read in pairs from the left, and in pairs they were written, so what is left
over is the last one (`unquote_doubled`), whatever quotes the field begins or ends with. And
a field without quotes could be read too far: but it is written so only if it holds nothing
that ends a field, and begins with no quote for the same reason (`readField_encodeField`).
-/
import FlowTriad.Output.Csv

set_option autoImplicit false

namespace FlowTriad.Csv

variable {f rest : List Char} {c : Char}

/-! ## 1. A reader -/

/-- Reads on behind the first quote of a field: what the field holds, and what stands behind
its last quote. Two quotes stand for one, and one alone is the last. -/
def unquote : List Char → Option (List Char × List Char)
  | [] => none
  | '"' :: '"' :: r => (unquote r).map fun (f, rest) => ('"' :: f, rest)
  | '"' :: r => some ([], r)
  | c :: r => (unquote r).map fun (f, rest) => (c :: f, rest)

/-- Whether a character stands behind a field, and not in it. -/
def endsField (c : Char) : Bool :=
  c == ',' || c == '\n'

/-- Reads a field, and what stands behind it. -/
def readField : List Char → Option (List Char × List Char)
  | '"' :: r => unquote r
  | cs => some (cs.takeWhile (!endsField ·), cs.dropWhile (!endsField ·))

/-- Reads a field that is not the last of its row, with the comma behind it. -/
def readCell (cs : List Char) : Option (List Char × List Char) :=
  match readField cs with
  | some (f, ',' :: rest) => some (f, rest)
  | _ => none

/-! ## 2. Quoted fields -/

/-- A field with its quotes doubled. -/
def doubled (field : List Char) : List Char :=
  field.flatMap fun c => if c = '"' then ['"', '"'] else [c]

theorem encodeField_of_needsQuotes (h : needsQuotes f) :
    encodeField f = '"' :: doubled f ++ ['"'] :=
  if_pos h

theorem doubled_cons_quote (f : List Char) : doubled ('"' :: f) = '"' :: '"' :: doubled f :=
  rfl

theorem doubled_cons_of_ne (hc : c ≠ '"') (f : List Char) : doubled (c :: f) = c :: doubled f := by
  unfold doubled
  rw [List.flatMap_cons, if_neg hc]
  rfl

/-- A quote alone is the last one. -/
theorem unquote_last (h : rest.head? ≠ some '"') : unquote ('"' :: rest) = some ([], rest) := by
  cases rest with
  | nil => rfl
  | cons c r =>
    have hc : c ≠ '"' := by
      rintro rfl
      exact h rfl
    exact unquote.eq_3 (c :: r) fun r' heq => hc (List.cons.inj heq).1

theorem unquote_cons_of_ne (hc : c ≠ '"') (cs : List Char) :
    unquote (c :: cs) = (unquote cs).map fun (f, rest) => (c :: f, rest) :=
  unquote.eq_4 c cs (fun _ hquote _ => hc hquote) hc

/-- **The last quote** of a quoted field is found, by reading the doubled ones in pairs. -/
theorem unquote_doubled (h : rest.head? ≠ some '"') (f : List Char) :
    unquote (doubled f ++ '"' :: rest) = some (f, rest) := by
  induction f with
  | nil => exact unquote_last h
  | cons c f ih =>
    by_cases hc : c = '"'
    · rw [hc, doubled_cons_quote, List.cons_append, List.cons_append, unquote, ih]
      rfl
    · rw [doubled_cons_of_ne hc, List.cons_append, unquote_cons_of_ne hc, ih]
      rfl

/-! ## 3. All fields -/

/-- A field that is not quoted holds nothing that ends a field, and no quote. -/
theorem plain_of_not_needsQuotes (h : ¬ needsQuotes f) : ∀ c ∈ f, c ≠ '"' ∧ endsField c = false := by
  intro c hc
  simp only [needsQuotes, List.any_eq_true, not_exists, not_and] at h
  have hplain := h c hc
  simp only [Bool.or_eq_true, not_or, beq_iff_eq] at hplain
  simp [endsField, hplain]

theorem readField_of_head (h : f.head? ≠ some '"') :
    readField f = some (f.takeWhile (!endsField ·), f.dropWhile (!endsField ·)) :=
  readField.eq_2 f fun _ heq => h (heq ▸ rfl)

/-- **A field is read back** from in front of anything that ends a field. -/
theorem readField_encodeField (hc : endsField c) (f rest : List Char) :
    readField (encodeField f ++ c :: rest) = some (f, c :: rest) := by
  have hquote : c ≠ '"' := by
    rintro rfl
    exact absurd hc (by decide)
  by_cases hneeds : needsQuotes f
  · rw [encodeField_of_needsQuotes hneeds, List.append_assoc]
    exact unquote_doubled (by simpa using hquote) f
  · have hplain := plain_of_not_needsQuotes hneeds
    have hhead : (f ++ c :: rest).head? ≠ some '"' := by
      cases f with
      | nil => simpa using hquote
      | cons d f => simpa using (hplain d List.mem_cons_self).1
    have hinside : ∀ d ∈ f, (!endsField d) = true := by
      intro d hd
      rw [(hplain d hd).2]
      rfl
    unfold encodeField
    rw [if_neg hneeds, readField_of_head hhead, List.takeWhile_append_of_pos hinside,
      List.dropWhile_append_of_pos hinside]
    simp [hc]

/-- **Quoting is undone by reading.** Whatever a field holds and whatever follows it, reading
gives back the field and leaves what stands behind the comma. -/
theorem readCell_encodeField (f rest : List Char) :
    readCell (encodeField f ++ ',' :: rest) = some (f, rest) := by
  unfold readCell
  rw [readField_encodeField (by decide)]
  rfl

/-- A field of a quote, a comma and two quotes, before a field that is quoted as well. -/
example : readCell "\"\"\",\"\"\"\"\",\",\"".toList = some ("\",\"\"".toList, "\",\"".toList) := by
  decide

end FlowTriad.Csv
