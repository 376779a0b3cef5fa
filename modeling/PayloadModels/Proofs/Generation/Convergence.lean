import PayloadModels.Proofs.Generation.Dates

/-!
# A second run changes nothing

A run reads the file that is there, renders from its hand edits, and writes only if more than a date
has changed. The file that it leaves, written or not, is a file on which the next run with the same
model has nothing to do, on whichever day (`revise_again`): rendering from the hand edits of a
rendered file gives that file again, and a file that was left alone is rendered from what it was
rendered from before.
-/

namespace PayloadModels

/-- The text of the file when a run is over, which writes only what changes. -/
def Revision.textAfter (revision : Revision) (previous : Option String) : String :=
  match previous with
  | none => revision.contents
  | some old => if revision.status.isChanged then revision.contents else old

namespace Target

variable {target : Target} {edition : Edition}

/-- A run renders from the hand edits of the file that is there. -/
theorem contents_revise (target : Target) (previous : Option String) (edition : Edition) :
    (target.revise previous edition).contents
      = target.fileOf edition (previous.elim [] (HandEdit.ofText target)) := rfl

/-- A file that is there is updated when what was rendered differs from it in more than dates. -/
theorem status_revise_some (target : Target) (old : String) (edition : Edition) :
    (target.revise (some old) edition).status
      = if hasUpdates old (target.revise (some old) edition).contents then .updated
        else .unchanged := rfl

/-- A file that is rendered the same again, up to dates, is left alone. -/
theorem revise_of_alike {old : String} (h : Alike old (target.revise (some old) edition).contents) :
    (target.revise (some old) edition).status = .unchanged ∧
      (target.revise (some old) edition).textAfter (some old) = old := by
  have hstatus : (target.revise (some old) edition).status = .unchanged := by
    rw [status_revise_some, hasUpdates_eq_false_iff.2 h]
    rfl
  refine ⟨hstatus, ?_⟩
  rw [Revision.textAfter, hstatus]
  rfl

/-- A run leaves the file that it has rendered, or the one that was there if that is the same up to
dates. -/
theorem textAfter_revise (target : Target) (previous : Option String) (edition : Edition) :
    (target.revise previous edition).textAfter previous
        = (target.revise previous edition).contents ∨
      ∃ old, previous = some old ∧ (target.revise previous edition).textAfter previous = old ∧
        Alike old (target.revise previous edition).contents := by
  cases previous with
  | none => exact .inl rfl
  | some old =>
    cases hupdates : hasUpdates old (target.revise (some old) edition).contents with
    | true =>
      left
      rw [Revision.textAfter, status_revise_some, hupdates]
      rfl
    | false =>
      have halike := hasUpdates_eq_false_iff.1 hupdates
      exact .inr ⟨old, rfl, (revise_of_alike halike).2, halike⟩

/-- The hand edits of a file, if there is one, are lines of it. -/
theorem isLine_of_mem_elim {previous : Option String} :
    ∀ edit ∈ previous.elim [] (HandEdit.ofText target), edit.IsLine target := by
  cases previous with
  | none => simp
  | some old => exact fun edit => HandEdit.isLine_of_mem_ofText

/-- The hand edits of what a run leaves give the file that the run has rendered. -/
theorem fileOf_ofText_textAfter (h : edition.IsUnmarked) (previous : Option String) (date : Date) :
    target.fileOf (edition.on date)
        (HandEdit.ofText target ((target.revise previous edition).textAfter previous))
      = target.fileOf (edition.on date) (previous.elim [] (HandEdit.ofText target)) := by
  rcases textAfter_revise target previous edition with hwritten | ⟨old, rfl, hkept, -⟩
  · rw [hwritten, contents_revise]
    exact fileOf_ofText_fileOf h isLine_of_mem_elim rfl
  · rw [hkept]
    rfl

/-- Once a run is over, another run with the same model, on any day, leaves the file as it is. -/
theorem revise_again (target : Target) (previous : Option String) (edition : Edition)
    (h : edition.IsUnmarked) (hauthor : edition.imprint.HasPlainAuthor) (date : Date) :
    let text := (target.revise previous edition).textAfter previous
    let again := target.revise (some text) (edition.on date)
    again.status = .unchanged ∧ again.textAfter (some text) = text := by
  refine revise_of_alike ?_
  have hdate := alike_fileOf_on hauthor date target (previous.elim [] (HandEdit.ofText target))
  rw [contents_revise, Option.elim_some, fileOf_ofText_textAfter h]
  rcases textAfter_revise target previous edition with hwritten | ⟨old, -, hkept, halike⟩
  · rw [hwritten]
    exact hdate
  · rw [hkept]
    exact halike.trans hdate

/-- A file with a hand edit, rewritten one day and read again on another. -/
theorem revise_again_rating :
    let old := "struct Rating: Codable \x7b\n    let average: Decimal // modelsync:custom\n\x7d"
    let edition : Edition := ⟨"Rating", [⟨"average", "average", .double, false⟩],
      ⟨"Shop", some "Ada", none, none, ⟨2018, 1, 4⟩⟩⟩
    let text := (swift.revise (some old) edition).textAfter (some old)
    edition.IsUnmarked ∧ edition.imprint.HasPlainAuthor ∧
      (swift.revise (some text) (edition.on ⟨2019, 6, 1⟩)).status = .unchanged := by
  intro old edition text
  have h : edition.IsUnmarked := by decide
  have hauthor : edition.imprint.HasPlainAuthor := by
    simp [edition, Imprint.HasPlainAuthor]
  exact ⟨h, hauthor, (revise_again swift (some old) edition h hauthor ⟨2019, 6, 1⟩).1⟩

end Target

end PayloadModels
