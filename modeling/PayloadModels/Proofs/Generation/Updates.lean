import PayloadModels.Proofs.Generation.Beginnings

/-!
# What runs do not see

A run compares the lines of files, and two lines that carry dates count as the same. Below its
header a file has no line that counts as one with a date (`Target.isDated_of_mem_content`): behind
blanks and comment signs, none of the texts that its lines begin with (`Target.leads`) goes on with
the character that dated lines begin with.
-/

namespace PayloadModels

/-- What is passed over at the beginning of a line when a date is looked for in it. -/
def isMargin (c : Char) : Bool := c = '/' || c = '#' || Unicode.isBlank c

/-- What a line without a date begins with: behind the margin there is something other than
a `C`. -/
def IsLead (lead : String) : Prop := (lead.toList.dropWhile isMargin).head?.any (· ≠ 'C')

instance (lead : String) : Decidable (IsLead lead) := inferInstanceAs (Decidable (_ = _))

/-- A line carries no date when its beginning tells. -/
theorem isDated_of_isPrefix {lead line : String} (hlead : IsLead lead)
    (hbegins : lead.toList <+: line.toList) : isDated line = false := by
  obtain ⟨rest, hrest⟩ := hbegins
  cases hdrop : lead.toList.dropWhile isMargin with
  | nil => simp [IsLead, hdrop] at hlead
  | cons c cs =>
    have hne : c ≠ 'C' := by simpa [IsLead, hdrop] using hlead
    have hc : ('C' == c) = false := beq_false_of_ne hne.symm
    have htext : line.toList.dropWhile isMargin = c :: cs ++ rest := by
      simp [← hrest, List.dropWhile_append, hdrop]
    show (Text.startsWith _ (line.toList.dropWhile isMargin)
      || Text.startsWith _ (line.toList.dropWhile isMargin)
      || Text.startsWith _ (line.toList.dropWhile isMargin)) = false
    rw [htext]
    simp [Text.startsWith, List.isPrefixOf, hc]

namespace Target

/-- No line below the header begins as dates do. -/
theorem isLead_of_mem_leads {target : Target} {lead : String}
    (h : lead ∈ target.importLeads ++ target.leads) : IsLead lead := by
  revert lead
  cases target <;> decide

/-- Below the header, no line carries a date. -/
theorem isDated_of_mem_content {target : Target} {edition : Edition} (h : edition.IsPlain)
    {text : String} (htext : text ∈ target.content edition) {line : String}
    (hline : line ∈ Text.lines text) : isDated line = false := by
  rcases ledBy_of_mem_content h htext line hline with rfl | ⟨lead, hlead, hbegins⟩
  · decide
  · exact isDated_of_isPrefix (isLead_of_mem_leads hlead) hbegins

end Target

/-!
## Updates that are seen

A run that reports a file as the same leaves it alone, so what it would have written must not
matter. Where names and texts of the header stand on one line each, what goes unseen is known
(`Target.hasUpdates_fileOf_eq_false_iff`): the new file differs from the old one in its header only,
in the lines of the author, of the company, and of a project whose name reads as a date. When these
are the same, it differs in dates only (`Target.eq_of_not_hasUpdates`). An author is no date, but
another author is not seen (`Target.not_eq_of_not_hasUpdates`).
-/

/-- Lines without dates are alike only to themselves. -/
theorem eq_of_forall₂_lineAlike {lines others : List String}
    (h : List.Forall₂ LineAlike lines others) (hundated : ∀ line ∈ lines, isDated line = false) :
    lines = others := by
  induction h with
  | nil => rfl
  | cons hline _ ih =>
    obtain ⟨hfirst, hrest⟩ := List.forall_mem_cons.1 hundated
    rcases hline with rfl | ⟨hdated, -⟩
    · rw [ih hrest]
    · rw [hfirst] at hdated
      cases hdated

/-! ## The lines of a header -/

namespace Imprint

variable {imprint other : Imprint} {fileName : String}

/-- The lines of a header below the copyright. -/
def headerEnd : List String := ["//", "", "/*", "    " ++ generatedMark, "*/", ""]

/-- The lines of a header whose texts stand on one line each. -/
theorem lines_header (h : imprint.IsPlain) (hfile : '\n' ∉ fileName.toList) (target : Target) :
    Text.lines (imprint.header fileName target.lineComment)
      = "//" :: ("//  " ++ fileName) :: ("//  " ++ imprint.project) :: "//"
        :: imprint.creation "//" :: (imprint.copyright "//" ++ headerEnd) := by
  have hcomment : target.lineComment = "//" := by cases target <;> rfl
  have hauthor : imprint.HasPlainAuthor := h.author
  have hcopyright : ∀ line ∈ imprint.copyright "//", '\n' ∉ line.toList := by
    unfold copyright
    split
    · next company hcompany =>
      simp [not_mem_yearText, h.company company hcompany]
    · simp
  rw [header, hcomment, Text.lines_unlines (by simp)]
  refine (Text.flatMap_lines_eq_self ?_).trans ?_
  · simp only [List.forall_mem_append, List.forall_mem_cons]
    refine ⟨⟨⟨by decide, by simp [hfile], by simp [h.project], by decide, not_mem_creation hauthor,
      by simp⟩, hcopyright⟩, by decide, by decide, by decide, by decide, by decide, by decide, ?_⟩
    simp
  · simp [headerEnd]

/-- The lines of a header are comments. -/
theorem ledBy_header (h : imprint.IsPlain) (hfile : '\n' ∉ fileName.toList) (target : Target) :
    LedBy ["//", "/*", "    " ++ generatedMark, "*/"]
      (imprint.header fileName target.lineComment) := by
  have hcreation : "//".toList <+: (imprint.creation "//").toList := by
    unfold creation
    split <;> simp
  have hcopyright : ∀ line ∈ imprint.copyright "//", "//".toList <+: line.toList := by
    unfold copyright
    split <;> simp
  have hend : ∀ line ∈ headerEnd, line = "" ∨
      ∃ lead ∈ ["//", "/*", "    " ++ generatedMark, "*/"], lead.toList <+: line.toList := by decide
  rw [LedBy, lines_header h hfile target]
  simp only [List.forall_mem_cons, List.forall_mem_append]
  refine ⟨.inr ?_, .inr ?_, .inr ?_, .inr ?_, .inr ⟨"//", by simp, hcreation⟩,
    fun line hline => .inr ⟨"//", by simp, hcopyright line hline⟩, hend⟩
  all_goals exact ⟨"//", by simp, by simp⟩

/-- A comment without text is no copyright. -/
theorem not_lineAlike_copyright (text : String) :
    ¬ LineAlike "//" ("//" ++ ("  Copyright © " ++ text)) := by
  rintro (heq | ⟨hdated, -⟩)
  · have hchars := congrArg String.toList heq
    simp at hchars
  · revert hdated
    decide

/-- Two headers with what follows them are alike when the projects are, when both have a copyright
or none of them has, and when what follows is alike; the names of authors and companies stand on
lines that count as dated. -/
theorem forall₂_lineAlike_header_iff {rest others : List String} :
    List.Forall₂ LineAlike
        ("//" :: ("//  " ++ fileName) :: ("//  " ++ imprint.project) :: "//"
          :: imprint.creation "//" :: (imprint.copyright "//" ++ headerEnd ++ rest))
        ("//" :: ("//  " ++ fileName) :: ("//  " ++ other.project) :: "//"
          :: other.creation "//" :: (other.copyright "//" ++ headerEnd ++ others))
      ↔ LineAlike ("//  " ++ imprint.project) ("//  " ++ other.project) ∧
        imprint.company.isSome = other.company.isSome ∧ List.Forall₂ LineAlike rest others := by
  have hcreation : LineAlike (imprint.creation "//") (other.creation "//") :=
    .inr ⟨isDated_creation imprint, isDated_creation other⟩
  have hcopyright : ∀ year text year' text' : String,
      LineAlike ("//" ++ "  Copyright © " ++ year ++ text)
        ("//" ++ "  Copyright © " ++ year' ++ text') :=
    fun _ _ _ _ => .inr ⟨isDated_copyright _ _, isDated_copyright _ _⟩
  have hend : List.Forall₂ LineAlike (headerEnd ++ rest) (headerEnd ++ others)
      ↔ List.Forall₂ LineAlike rest others := by
    simp [headerEnd, LineAlike.refl]
  simp only [List.forall₂_cons, LineAlike.refl, hcreation, true_and]
  refine and_congr_right fun _ => ?_
  cases hcompany : imprint.company with
  | none =>
    cases hother : other.company with
    | none => simp [copyright, hcompany, hother, hend]
    | some company =>
      simp only [copyright, hcompany, hother, headerEnd, List.nil_append, List.cons_append,
        List.forall₂_cons, String.append_assoc, not_lineAlike_copyright]
      simp
  | some company =>
    cases hother : other.company with
    | none =>
      have hno : ∀ text : String, ¬ LineAlike ("//" ++ ("  Copyright © " ++ text)) "//" :=
        fun text h => not_lineAlike_copyright text h.symm
      simp only [copyright, hcompany, hother, headerEnd, List.nil_append, List.cons_append,
        List.forall₂_cons, String.append_assoc, hno]
      simp
    | some other =>
      simp only [copyright, hcompany, hother, List.cons_append, List.nil_append,
        List.forall₂_cons, hend]
      simp only [String.append_assoc] at hcopyright ⊢
      simp [hcopyright]

end Imprint

/-! ## Files -/

/-- The edition with another header, save for the package. -/
def Edition.under (edition : Edition) (imprint : Imprint) : Edition :=
  { edition with imprint := { imprint with package := edition.imprint.package } }

namespace Target

variable {target : Target} {old new : Edition}

/-- A file without hand edits is its header and its content. -/
theorem fileOf_eq_content (target : Target) (edition : Edition) :
    target.fileOf edition [] = Text.unlines
      (edition.imprint.header (target.fileName edition.model) target.lineComment
        :: target.content edition) := by
  simp only [fileOf_eq, above, content, List.append_assoc, List.cons_append, List.nil_append]

/-- The lines of a file are those of its header and of its content. -/
theorem lines_fileOf (target : Target) (edition : Edition) :
    Text.lines (target.fileOf edition [])
      = Text.lines (edition.imprint.header (target.fileName edition.model) target.lineComment)
        ++ (target.content edition).flatMap Text.lines := by
  rw [fileOf_eq_content, Text.lines_unlines (List.cons_ne_nil _ _), List.flatMap_cons]

/-- A file name stands on one line if the model's name does. -/
theorem not_mem_fileName (target : Target) {model : String} (h : '\n' ∉ model.toList) :
    '\n' ∉ (target.fileName model).toList := by
  cases target with
  | rust =>
    have hsnake : '\n' ∉ (Naming.snake model).toList :=
      (Naming.isNameText_snake model).not_mem_newline
    simp [fileName, hsnake]
  | _ => simp [fileName, extension, h]

/-- What stands below the header does not depend on the header. -/
theorem content_under (target : Target) (edition : Edition) (imprint : Imprint) :
    target.content (edition.under imprint) = target.content edition := by
  cases target <;> rfl

/-- A run reports no update when the lines of the projects are alike, both headers have a copyright
or none of them has, and what stands below the headers is equal. -/
theorem hasUpdates_fileOf_eq_false_iff (hmodel : new.model = old.model) (hold : old.IsPlain)
    (hnew : new.IsPlain) : hasUpdates (target.fileOf old []) (target.fileOf new []) = false
      ↔ LineAlike ("//  " ++ old.imprint.project) ("//  " ++ new.imprint.project) ∧
        old.imprint.company.isSome = new.imprint.company.isSome ∧
        (target.content old).flatMap Text.lines = (target.content new).flatMap Text.lines := by
  have hfile := target.not_mem_fileName hold.model
  rw [hasUpdates_eq_false_iff, Alike, lines_fileOf, lines_fileOf, hmodel,
    Imprint.lines_header hold.imprint hfile, Imprint.lines_header hnew.imprint hfile]
  simp only [List.cons_append, Imprint.forall₂_lineAlike_header_iff]
  refine and_congr_right fun _ => and_congr_right fun _ => ⟨fun hcontent => ?_, fun hcontent => ?_⟩
  · refine eq_of_forall₂_lineAlike hcontent fun line hline => ?_
    obtain ⟨text, htext, hline⟩ := List.mem_flatMap.1 hline
    exact isDated_of_mem_content hold htext hline
  · rw [hcontent]
    exact List.forall₂_same.2 fun line _ => .refl line

/-- A run that reports no update would have written the old file but for the header: with the date,
the author, the company and the project of the old file, the new one is equal to it. When the author
and the company are the same, and so is the project if its line reads as one with a date, the old
file is the new one on another day. -/
theorem eq_of_not_hasUpdates (target : Target) (hmodel : new.model = old.model)
    (hold : old.IsPlain) (hnew : new.IsPlain)
    (h : hasUpdates (target.fileOf old []) (target.fileOf new []) = false) :
    target.fileOf (new.under old.imprint) [] = target.fileOf old [] ∧
      (new.imprint.author = old.imprint.author → new.imprint.company = old.imprint.company →
        (isDated ("//  " ++ old.imprint.project) → new.imprint.project = old.imprint.project) →
          target.fileOf (new.on old.imprint.date) [] = target.fileOf old []) := by
  obtain ⟨hproject, -, hcontent⟩ := (hasUpdates_fileOf_eq_false_iff hmodel hold hnew).1 h
  have hunder : target.fileOf (new.under old.imprint) [] = target.fileOf old [] := by
    have hheader : (new.under old.imprint).imprint.header
        (target.fileName (new.under old.imprint).model) target.lineComment
          = old.imprint.header (target.fileName old.model) target.lineComment := by
      rw [← hmodel]
      rfl
    rw [← Text.unlines_lines (target.fileOf (new.under old.imprint) []), lines_fileOf, hheader,
      content_under, ← hcontent, ← lines_fileOf, Text.unlines_lines]
  refine ⟨hunder, fun hauthor hcompany hdated => ?_⟩
  have hproject : new.imprint.project = old.imprint.project := by
    rcases hproject with heq | ⟨hold, -⟩
    · exact (String.append_right_inj _).1 heq.symm
    · exact hdated hold
  have hon : new.on old.imprint.date = new.under old.imprint := by
    rw [Edition.on, Imprint.on, Edition.under, ← hauthor, ← hcompany, ← hproject]
  rw [hon, hunder]

/-- The same model on another day, in another package, of which a Swift file says nothing: the new
file on the first day is the old one. -/
theorem eq_of_not_hasUpdates_rating :
    let properties : List Property := [⟨"average", "average", .double, false⟩]
    let old : Edition :=
      ⟨"Rating", properties, ⟨"Shop", some "Ada", some "Acme", none, ⟨2018, 1, 4⟩⟩⟩
    let new : Edition :=
      ⟨"Rating", properties, ⟨"Shop", some "Ada", some "Acme", some "shop", ⟨2026, 10, 19⟩⟩⟩
    old.IsPlain ∧ new.IsPlain ∧ hasUpdates (swift.fileOf old []) (swift.fileOf new []) = false ∧
      swift.fileOf (new.on old.imprint.date) [] = swift.fileOf old [] := by
  intro properties old new
  have hmodel : new.model = old.model := rfl
  have hold : old.IsPlain := by decide
  have hnew : new.IsPlain := by decide
  have hsame : hasUpdates (swift.fileOf old []) (swift.fileOf new []) = false :=
    (hasUpdates_fileOf_eq_false_iff hmodel hold hnew).2 ⟨.inl rfl, rfl, rfl⟩
  obtain ⟨-, hdate⟩ := eq_of_not_hasUpdates swift hmodel hold hnew hsame
  exact ⟨hold, hnew, hsame, hdate rfl rfl fun _ => rfl⟩

/-- The line of the author counts as one that carries a date, so another author on the same day is
no update, although the file on disk keeps the author it had. -/
theorem not_eq_of_not_hasUpdates :
    ¬ ∀ (target : Target) (old new : Edition), new.model = old.model → old.IsPlain → new.IsPlain →
      hasUpdates (target.fileOf old []) (target.fileOf new []) = false →
        target.fileOf (new.on old.imprint.date) [] = target.fileOf old [] := by
  intro h
  let properties : List Property := [⟨"average", "average", .double, false⟩]
  let old : Edition := ⟨"Rating", properties, ⟨"Shop", some "Ada", none, none, ⟨2018, 1, 4⟩⟩⟩
  let new : Edition := ⟨"Rating", properties, ⟨"Shop", some "Grace", none, none, ⟨2018, 1, 4⟩⟩⟩
  have hmodel : new.model = old.model := rfl
  have hold : old.IsPlain := by decide
  have hnew : new.IsPlain := by decide
  have hsame : hasUpdates (swift.fileOf old []) (swift.fileOf new []) = false :=
    (hasUpdates_fileOf_eq_false_iff hmodel hold hnew).2 ⟨.inl rfl, rfl, rfl⟩
  have hlines := congrArg Text.lines (h swift old new hmodel hold hnew hsame)
  have hfile := swift.not_mem_fileName hold.model
  have hnewModel : (new.on old.imprint.date).model = old.model := rfl
  have hnewImprint : (new.on old.imprint.date).imprint = new.imprint := rfl
  rw [lines_fileOf, lines_fileOf, hnewModel, hnewImprint,
    Imprint.lines_header hnew.imprint hfile swift, Imprint.lines_header hold.imprint hfile swift]
    at hlines
  simp only [List.cons_append, List.cons.injEq, true_and] at hlines
  obtain ⟨-, hcreation, -⟩ := hlines
  revert hcreation
  decide

end Target

end PayloadModels
