import PayloadModels.Text

/-!
# The lines of joined texts

Lines follow the joins of a text: the lines of texts joined by line feeds are the lines of each of
them, one after another (`lines_unlines`). No line has a line feed in it (`not_mem_of_mem_lines`),
and a text without one is its own only line.
-/

namespace PayloadModels.Text

/-- A text has a line, if only an empty one. -/
theorem lines_ne_nil (text : String) : lines text ≠ [] := by
  simp [lines]

/-- A line feed between two texts keeps their lines apart. -/
theorem lines_append_newline (a b : String) : lines (a ++ "\n" ++ b) = lines a ++ lines b := by
  have hsplit := List.splitOn_append_cons_self a.toList b.toList (a := '\n')
  rw [lines, lines, lines, ← List.map_append, ← hsplit]
  simp

/-- The lines of joined texts are the lines of each of them. -/
theorem lines_unlines {texts : List String} (h : texts ≠ []) :
    lines (unlines texts) = texts.flatMap lines := by
  induction texts with
  | nil => exact absurd rfl h
  | cons text texts ih =>
    cases texts with
    | nil => simp [unlines]
    | cons next texts =>
      rw [unlines, String.intercalate_cons_cons, lines_append_newline, ← unlines, ih (by simp),
        List.flatMap_cons (x := text)]

/-- A text without line feeds is its own only line. -/
theorem lines_eq_singleton {text : String} (h : '\n' ∉ text.toList) : lines text = [text] := by
  rw [lines, List.splitOn_eq_singleton h]
  simp

/-- Texts on one line each are their own lines. -/
theorem flatMap_lines_eq_self {texts : List String} (h : ∀ text ∈ texts, '\n' ∉ text.toList) :
    texts.flatMap lines = texts := by
  induction texts with
  | nil => rfl
  | cons text texts ih =>
    obtain ⟨htext, htexts⟩ := List.forall_mem_cons.1 h
    rw [List.flatMap_cons, lines_eq_singleton htext, ih htexts]
    rfl

/-- Lines that were joined are the lines of what they were joined to. -/
theorem lines_unlines_of_not_mem {texts : List String} (hne : texts ≠ [])
    (h : ∀ text ∈ texts, '\n' ∉ text.toList) : lines (unlines texts) = texts := by
  rw [lines_unlines hne, flatMap_lines_eq_self h]

/-- What stands before any separator belongs to the first piece. -/
theorem splitOn_append_of_not_mem {sep : Char} {cs rest : List Char} (h : sep ∉ cs) :
    (cs ++ rest).splitOn sep = (rest.splitOn sep).modifyHead (cs ++ ·) := by
  induction cs with
  | nil =>
    show rest.splitOn sep = (rest.splitOn sep).modifyHead id
    rw [List.modifyHead_id, id]
  | cons c cs ih =>
    rw [List.mem_cons, not_or] at h
    have hc : (c == sep) = false := beq_false_of_ne (Ne.symm h.1)
    rw [List.cons_append, List.splitOn_cons_eq_if_modifyHead, hc, ih h.2]
    simp [Function.comp_def]

/-- A text without line feeds goes into the first line of what follows it. -/
theorem lines_append_of_not_mem {text : String} (h : '\n' ∉ text.toList) (rest : String) :
    lines (text ++ rest) = (lines rest).modifyHead (text ++ ·) := by
  obtain ⟨first, others, hsplit⟩ :=
    List.exists_cons_of_ne_nil (List.splitOn_ne_nil '\n' rest.toList)
  rw [lines, lines, String.toList_append, splitOn_append_of_not_mem h, hsplit]
  simp

/-- What lies between separators has no separator in it. -/
theorem not_mem_of_mem_splitOn {sep : Char} {cs piece : List Char} (h : piece ∈ cs.splitOn sep) :
    sep ∉ piece := by
  induction cs generalizing piece with
  | nil =>
    rw [List.splitOn_nil, List.mem_singleton] at h
    simp [h]
  | cons c cs ih =>
    rw [List.splitOn_cons_eq_if_modifyHead] at h
    split at h
    · rcases List.mem_cons.1 h with rfl | h
      · simp
      · exact ih h
    · next hc =>
      obtain ⟨first, rest, hsplit⟩ := List.exists_cons_of_ne_nil (List.splitOn_ne_nil sep cs)
      rw [hsplit, List.modifyHead_cons] at h
      rcases List.mem_cons.1 h with rfl | h
      · have hfirst : sep ∉ first := ih (by simp [hsplit])
        have hne : c ≠ sep := by simpa using hc
        simp [hne.symm, hfirst]
      · exact ih (by simp [hsplit, h])

/-- No line has a line feed in it. -/
theorem not_mem_of_mem_lines {text line : String} (h : line ∈ lines text) :
    '\n' ∉ line.toList := by
  obtain ⟨cs, hcs, rfl⟩ := List.mem_map.1 h
  rw [String.toList_ofList]
  exact not_mem_of_mem_splitOn hcs

/-- A line is its own only line. -/
theorem lines_of_mem_lines {text line : String} (h : line ∈ lines text) : lines line = [line] :=
  lines_eq_singleton (not_mem_of_mem_lines h)

/-- Joining texts brings in no character that neither they nor the separator have. -/
theorem not_mem_intercalate {c : Char} {sep : String} {texts : List String}
    (hsep : c ∉ sep.toList) (h : ∀ text ∈ texts, c ∉ text.toList) :
    c ∉ (sep.intercalate texts).toList := by
  induction texts with
  | nil => simp
  | cons text texts ih =>
    obtain ⟨htext, htexts⟩ := List.forall_mem_cons.1 h
    cases texts with
    | nil => simpa using htext
    | cons next texts =>
      rw [String.intercalate_cons_cons, String.toList_append, String.toList_append,
        List.mem_append, List.mem_append, not_or, not_or]
      exact ⟨⟨htext, hsep⟩, ih htexts⟩

/-- Every text stands in what it is joined into. -/
theorem infix_intercalate {sep text : String} {texts : List String} (h : text ∈ texts) :
    text.toList <:+: (sep.intercalate texts).toList := by
  induction texts with
  | nil => cases h
  | cons first texts ih =>
    cases texts with
    | nil =>
      rw [List.mem_singleton.1 h]
      simp
    | cons next texts =>
      rw [String.intercalate_cons_cons, String.toList_append, String.toList_append]
      rcases List.mem_cons.1 h with rfl | h
      · rw [List.append_assoc]
        exact List.infix_append_left
      · exact List.infix_append_of_infix_right (ih h)

/-- Every line stands in its text. -/
theorem infix_of_mem_lines {text line : String} (h : line ∈ lines text) :
    line.toList <:+: text.toList := by
  have hinfix : line.toList <:+: ("\n".intercalate (lines text)).toList := infix_intercalate h
  rwa [← unlines, unlines_lines] at hinfix

end PayloadModels.Text
