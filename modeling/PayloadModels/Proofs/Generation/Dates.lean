import Mathlib.Data.List.Forall2
import PayloadModels.Proofs.Generation.HandEdits

/-!
# Files that differ in dates only

Two files count as the same when they differ, line by line, in nothing but the dates of a header
(`hasUpdates_eq_false_iff`). That is an equivalence, and a file is the same as the one that is
rendered on another day, as long as the date does not share its line with a line break
(`alike_fileOf_on`).
-/

namespace PayloadModels

/-- Two lines are equal, or both carry a date. -/
def LineAlike (a b : String) : Prop := a = b ∨ isDated a ∧ isDated b

/-- A line is no update of another when they are alike. -/
theorem lineUpdated_eq_false_iff {a b : String} : lineUpdated a b = false ↔ LineAlike a b := by
  rw [lineUpdated, LineAlike]
  by_cases h : a = b <;> simp [h]

/-- A line is alike to itself. -/
theorem LineAlike.refl (line : String) : LineAlike line line := .inl rfl

/-- Lines are alike either way. -/
theorem LineAlike.symm {a b : String} (h : LineAlike a b) : LineAlike b a :=
  h.imp Eq.symm And.symm

/-- Lines that are alike to one line are alike to each other. -/
theorem LineAlike.trans {a b c : String} (hab : LineAlike a b) (hbc : LineAlike b c) :
    LineAlike a c := by
  rcases hab with rfl | hab
  · exact hbc
  · rcases hbc with rfl | hbc
    · exact .inr hab
    · exact .inr ⟨hab.1, hbc.2⟩

/-- Two texts have the same lines, up to dates. -/
def Alike (a b : String) : Prop := List.Forall₂ LineAlike (Text.lines a) (Text.lines b)

/-- A text is alike to itself. -/
theorem Alike.refl (text : String) : Alike text text := List.forall₂_same.2 fun line _ => .refl line

/-- Texts are alike to themselves, one by one. -/
theorem forall₂_alike_refl (texts : List String) : List.Forall₂ Alike texts texts :=
  List.forall₂_same.2 fun text _ => .refl text

/-- Texts that are alike to one text are alike to each other. -/
theorem Alike.trans {a b c : String} (hab : Alike a b) (hbc : Alike b c) : Alike a c := by
  unfold Alike at *
  generalize Text.lines a = as, Text.lines b = bs, Text.lines c = cs at hab hbc
  induction hab generalizing cs with
  | nil => exact hbc
  | cons hline _ ih =>
    cases hbc with
    | cons hnext hrest => exact .cons (hline.trans hnext) (ih _ hrest)

/-- A file has no updates when its lines are the same, up to dates. -/
theorem hasUpdates_eq_false_iff {old new : String} :
    hasUpdates old new = false ↔ Alike old new := by
  simp only [hasUpdates, Alike, List.forall₂_iff_zip, Bool.or_eq_false_iff, decide_eq_false_iff_not,
    not_not, List.any_eq_false, Prod.forall, Bool.not_eq_true, lineUpdated_eq_false_iff]

/-- Joining alike texts gives alike texts. -/
theorem alike_unlines {texts others : List String} (h : List.Forall₂ Alike texts others) :
    Alike (Text.unlines texts) (Text.unlines others) := by
  cases h with
  | nil => exact .refl _
  | cons hfirst hrest =>
    rw [Alike, Text.lines_unlines (by simp), Text.lines_unlines (by simp)]
    exact List.rel_flatMap (.cons hfirst hrest) fun _ _ h => h

/-! ## The lines that carry dates -/

/-- A comment that begins as dates do is dated, whatever follows. -/
theorem isDated_append {mark : String} (h : mark ∈ ["Created by ", "Created on ", "Copyright ©"])
    (rest : String) : isDated ("//  " ++ mark ++ rest) := by
  rw [isDated, String.toList_append, String.toList_append]
  simp only [List.mem_cons, List.not_mem_nil, or_false] at h
  rcases h with rfl | rfl | rfl <;> rfl

/-- Texts that begin with dates are alike when they go on alike. -/
theorem alike_append {a b : String} (ha : '\n' ∉ a.toList) (hb : '\n' ∉ b.toList)
    (hdated : ∀ rest, isDated (a ++ rest) ∧ isDated (b ++ rest)) (rest : String) :
    Alike (a ++ rest) (b ++ rest) := by
  rw [Alike, Text.lines_append_of_not_mem ha, Text.lines_append_of_not_mem hb]
  obtain ⟨first, others, hlines⟩ := List.exists_cons_of_ne_nil (Text.lines_ne_nil rest)
  rw [hlines]
  exact .cons (.inr (hdated first)) (List.forall₂_same.2 fun line _ => .refl line)

/-- A date in short form stands on one line. -/
theorem not_mem_short (date : Date) : '\n' ∉ date.short.toList := fun h =>
  absurd (isDigit_or_of_mem_short h) (by decide)

/-- A year stands on one line. -/
theorem not_mem_yearText (date : Date) : '\n' ∉ date.yearText.toList := fun h =>
  absurd (isDigit_or_of_mem_yearText h) (by decide)

/-- The author's name, if there is one, stands on one line. -/
def Imprint.HasPlainAuthor (imprint : Imprint) : Prop :=
  ∀ author, imprint.author = some author → '\n' ∉ author.toList

/-- The imprint on another day. -/
def Imprint.on (imprint : Imprint) (date : Date) : Imprint := { imprint with date := date }

/-- The line that tells when a file was created is dated. -/
theorem isDated_creation (imprint : Imprint) : isDated (imprint.creation "//") := by
  unfold Imprint.creation
  split
  · next author _ =>
    have hsplit : "//" ++ "  Created by " ++ author ++ " on " ++ imprint.date.short ++ "."
        = "//  " ++ "Created by " ++ (author ++ " on " ++ imprint.date.short ++ ".") := by
      apply String.toList_inj.1
      simp
    rw [hsplit]
    exact isDated_append (by simp) _
  · have hsplit : "//" ++ "  Created on " ++ imprint.date.short ++ "."
        = "//  " ++ "Created on " ++ (imprint.date.short ++ ".") := by
      apply String.toList_inj.1
      simp
    rw [hsplit]
    exact isDated_append (by simp) _

/-- The line that tells when a file was created is one line if the author's name is. -/
theorem not_mem_creation {imprint : Imprint} (h : imprint.HasPlainAuthor) :
    '\n' ∉ (imprint.creation "//").toList := by
  unfold Imprint.creation
  split
  · next author hauthor => simp [h author hauthor, not_mem_short]
  · simp [not_mem_short]

/-- On another day, the line of the creation is alike. -/
theorem alike_creation {imprint : Imprint} (h : imprint.HasPlainAuthor) (date : Date) :
    Alike (imprint.creation "//") ((imprint.on date).creation "//") := by
  have hon : (imprint.on date).HasPlainAuthor := h
  rw [Alike, Text.lines_eq_singleton (not_mem_creation h),
    Text.lines_eq_singleton (not_mem_creation hon)]
  exact .cons (.inr ⟨isDated_creation imprint, isDated_creation (imprint.on date)⟩) .nil

/-- The line of the copyright is dated. -/
theorem isDated_copyright (year rest : String) :
    isDated ("//" ++ "  Copyright © " ++ year ++ rest) := by
  have hsplit : "//" ++ "  Copyright © " ++ year ++ rest
      = "//  " ++ "Copyright ©" ++ (" " ++ year ++ rest) := by
    apply String.toList_inj.1
    simp
  rw [hsplit]
  exact isDated_append (by simp) _

/-- The year does not share its line with what a company's name may go on to. -/
theorem alike_copyright (imprint : Imprint) (date : Date) :
    List.Forall₂ Alike (imprint.copyright "//") ((imprint.on date).copyright "//") := by
  have hplain : ∀ date : Date, '\n' ∉ ("//" ++ "  Copyright © " ++ date.yearText).toList := by
    intro date
    simp [not_mem_yearText]
  simp only [Imprint.copyright, Imprint.on]
  split
  · next company _ =>
    refine .cons ?_ .nil
    have hrest : ∀ date : Date, "//" ++ "  Copyright © " ++ date.yearText ++ " " ++ company
        ++ ". All rights reserved." = "//" ++ "  Copyright © " ++ date.yearText
          ++ (" " ++ company ++ ". All rights reserved.") := by
      intro date
      simp only [String.append_assoc]
    rw [hrest, hrest]
    exact alike_append (hplain _) (hplain _)
      (fun rest => ⟨isDated_copyright _ rest, isDated_copyright _ rest⟩) _
  · exact .nil

/-- The header of another day is alike. -/
theorem alike_header {imprint : Imprint} (h : imprint.HasPlainAuthor) (date : Date)
    (fileName : String) (target : Target) :
    Alike (imprint.header fileName target.lineComment)
      ((imprint.on date).header fileName target.lineComment) := by
  have hcomment : target.lineComment = "//" := by cases target <;> rfl
  rw [hcomment]
  refine alike_unlines (List.rel_append (List.rel_append ?_ (alike_copyright imprint date)) ?_)
  · exact .cons (.refl _) <| .cons (.refl _) <| .cons (.refl _) <| .cons (.refl _) <|
      .cons (alike_creation h date) .nil
  · exact forall₂_alike_refl _

/-- The edition on another day. -/
def Edition.on (edition : Edition) (date : Date) : Edition :=
  { edition with imprint := edition.imprint.on date }

/-- The file of another day is the same, up to dates. -/
theorem alike_fileOf_on {edition : Edition} (h : edition.imprint.HasPlainAuthor) (date : Date)
    (target : Target) (edits : List HandEdit) :
    Alike (target.fileOf edition edits) (target.fileOf (edition.on date) edits) := by
  have hheader := alike_header h date (target.fileName edition.model) target
  have hday : target.above (edition.on date)
      = [(edition.imprint.on date).header (target.fileName edition.model) target.lineComment]
        ++ (target.imports edition.model (distinctNames edition.properties) edition.imprint).toList
        ++ [target.opening edition.model] := by
    cases target <;> rfl
  have habove : List.Forall₂ Alike (target.above edition) (target.above (edition.on date)) := by
    rw [hday, Target.above]
    exact List.rel_append (List.rel_append (.cons hheader .nil) (forall₂_alike_refl _))
      (forall₂_alike_refl _)
  rw [Target.fileOf_eq, Target.fileOf_eq]
  exact alike_unlines (List.rel_append (List.rel_append habove (forall₂_alike_refl _))
    (forall₂_alike_refl _))

end PayloadModels
