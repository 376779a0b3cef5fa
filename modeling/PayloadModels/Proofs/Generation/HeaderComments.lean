import PayloadModels.Config.Basic
import PayloadModels.Proofs.Generation.Beginnings

/-!
# The comment at the top of a file

Above the mark of generated files, a header has one line of comment for each text that it shows: the
name of the file, the project, the author and the company (`Imprint.shownTexts`). These texts are
written as they are. As long as each of them stands on one line, the header is a comment, but a
line feed in one of them ends its comment, and what follows is a line of the file
(`Imprint.header_isComment_iff`). A configuration that is valid may have such texts
(`Imprint.not_header_isComment`).
-/

namespace PayloadModels

/-- Whether a text stays in the comment that its first line stands in: each later line is empty or
begins a comment of its own. -/
def StaysComment (comment text : String) : Prop :=
  ∀ line ∈ (Text.lines text).tail, line = "" ∨ comment.toList <+: line.toList

instance (comment text : String) : Decidable (StaysComment comment text) :=
  List.decidableBAll (fun line => line = "" ∨ comment.toList <+: line.toList) (Text.lines text).tail

/-- A text on one line stays in its comment. -/
theorem staysComment_of_not_mem (comment : String) {text : String} (h : '\n' ∉ text.toList) :
    StaysComment comment text := by
  intro line hline
  rw [Text.lines_eq_singleton h] at hline
  exact absurd hline List.not_mem_nil

/-- What follows a comment on one line stays in it exactly when all of it is a comment. -/
theorem ledBy_append_iff {comment front text : String} (hcomment : '\n' ∉ comment.toList)
    (hfront : '\n' ∉ front.toList) :
    LedBy [comment] (comment ++ front ++ text) ↔ StaysComment comment text := by
  have hlead : '\n' ∉ (comment ++ front).toList := by simp [hcomment, hfront]
  obtain ⟨first, rest, hlines⟩ := List.exists_cons_of_ne_nil (Text.lines_ne_nil text)
  have hfirst : comment.toList <+: (comment ++ front ++ first).toList := by simp
  simp only [LedBy, StaysComment, Text.lines_append_of_not_mem hlead, hlines, List.modifyHead_cons,
    List.forall_mem_cons, List.tail_cons, List.mem_singleton, exists_eq_left]
  exact and_iff_right (.inr hfirst)

namespace Imprint

variable {imprint : Imprint} {fileName comment : String}

/-- The texts that a header shows, with what stands behind them on their lines. -/
def shownTexts (imprint : Imprint) (fileName : String) : List String :=
  [fileName, imprint.project]
    ++ (imprint.author.map (· ++ " on " ++ imprint.date.short ++ ".")).toList
    ++ (imprint.company.map (· ++ ". All rights reserved.")).toList

/-- The lines of the comment that holds the mark of generated files. -/
def markBlock : List String := ["/*", "    " ++ generatedMark, "*/", ""]

/-- The lines of a header above the mark, if each text in them stands on one line. -/
def remarks (imprint : Imprint) (fileName comment : String) : List String :=
  [comment, comment ++ "  " ++ fileName, comment ++ "  " ++ imprint.project, comment,
      imprint.creation comment]
    ++ imprint.copyright comment ++ [comment, ""]

/-- The lines of a header are those of its remarks and of the block with the mark. -/
theorem lines_header_eq_flatMap (imprint : Imprint) (fileName comment : String) :
    Text.lines (imprint.header fileName comment)
      = (imprint.remarks fileName comment).flatMap Text.lines ++ markBlock := by
  have hheader : imprint.header fileName comment
      = Text.unlines (imprint.remarks fileName comment ++ markBlock) := by
    simp [header, remarks, markBlock]
  have hmark : markBlock.flatMap Text.lines = markBlock :=
    Text.flatMap_lines_eq_self (by decide)
  rw [hheader, Text.lines_unlines (by simp [remarks]), List.flatMap_append, hmark]

/-- The line of the creation stays a comment exactly when the author's name does. -/
theorem ledBy_creation_iff (hcomment : '\n' ∉ comment.toList) :
    LedBy [comment] (imprint.creation comment)
      ↔ ∀ text ∈ (imprint.author.map (· ++ " on " ++ imprint.date.short ++ ".")).toList,
        StaysComment comment text := by
  have hdate := not_mem_short imprint.date
  cases hauthor : imprint.author with
  | none =>
    have htext : imprint.creation comment
        = comment ++ "  Created on " ++ (imprint.date.short ++ ".") := by
      rw [creation, hauthor]
      simp only [String.append_assoc]
    have hstays : StaysComment comment (imprint.date.short ++ ".") :=
      staysComment_of_not_mem comment (by simpa using hdate)
    rw [htext, ledBy_append_iff hcomment (by decide)]
    exact iff_of_true hstays (by simp)
  | some author =>
    have htext : imprint.creation comment
        = comment ++ "  Created by " ++ (author ++ " on " ++ imprint.date.short ++ ".") := by
      rw [creation, hauthor]
      simp only [String.append_assoc]
    rw [htext, ledBy_append_iff hcomment (by decide)]
    simp

/-- The line of the copyright stays a comment exactly when the company's name does. -/
theorem ledBy_copyright_iff (hcomment : '\n' ∉ comment.toList) :
    (∀ text ∈ imprint.copyright comment, LedBy [comment] text)
      ↔ ∀ text ∈ (imprint.company.map (· ++ ". All rights reserved.")).toList,
        StaysComment comment text := by
  cases hcompany : imprint.company with
  | none => simp [copyright, hcompany]
  | some company =>
    have hyear := not_mem_yearText imprint.date
    have htext : imprint.copyright comment
        = [comment ++ ("  Copyright © " ++ imprint.date.yearText ++ " ")
          ++ (company ++ ". All rights reserved.")] := by
      rw [copyright, hcompany]
      simp only [String.append_assoc]
    rw [htext, List.forall_mem_singleton, ledBy_append_iff hcomment (by simpa using hyear)]
    simp

/-- The remarks of a header stay comments exactly when the texts that they show do. -/
theorem ledBy_remarks_iff (hcomment : '\n' ∉ comment.toList) :
    (∀ text ∈ imprint.remarks fileName comment, LedBy [comment] text)
      ↔ ∀ text ∈ imprint.shownTexts fileName, StaysComment comment text := by
  have hbare : LedBy [comment] comment :=
    ledBy_of_isPrefix List.mem_cons_self List.prefix_rfl hcomment
  have hempty : LedBy [comment] "" := fun line hline => .inl (by simpa [Text.lines] using hline)
  have hgap : '\n' ∉ "  ".toList := by decide
  simp only [remarks, shownTexts, List.forall_mem_append, List.forall_mem_cons,
    ledBy_append_iff hcomment hgap, ledBy_creation_iff hcomment, ledBy_copyright_iff hcomment,
    hbare, hempty, List.not_mem_nil, false_imp_iff, implies_true, true_and, and_true, and_assoc]

/-- Texts on one line each stay in their comments. -/
theorem staysComment_of_mem_shownTexts {text : String}
    (h : ∀ text ∈ [fileName, imprint.project] ++ imprint.author.toList ++ imprint.company.toList,
      '\n' ∉ text.toList) (htext : text ∈ imprint.shownTexts fileName) :
    StaysComment comment text := by
  have hdate := not_mem_short imprint.date
  simp only [List.forall_mem_append, Option.mem_toList] at h
  obtain ⟨⟨hplain, hauthor⟩, hcompany⟩ := h
  apply staysComment_of_not_mem
  simp only [shownTexts, List.mem_append, Option.mem_toList, Option.map_eq_some_iff] at htext
  rcases htext with (htext | ⟨author, hmem, rfl⟩) | ⟨company, hmem, rfl⟩
  · exact hplain text htext
  · simpa [hdate] using hauthor author hmem
  · simpa using hcompany company hmem

/-- The lines of a header above the mark are comments, or empty, exactly when each text that the
header shows stays in its comment. So they are when each of these texts stands on one line. -/
theorem header_isComment_iff (imprint : Imprint) (fileName : String) {comment : String}
    (hcomment : '\n' ∉ comment.toList) :
    ∃ top : List String, Text.lines (imprint.header fileName comment) = top ++ markBlock ∧
      ((∀ line ∈ top, line = "" ∨ comment.toList <+: line.toList)
        ↔ ∀ text ∈ imprint.shownTexts fileName, StaysComment comment text) ∧
      ((∀ text ∈ [fileName, imprint.project] ++ imprint.author.toList ++ imprint.company.toList,
          '\n' ∉ text.toList) →
        ∀ line ∈ top, line = "" ∨ comment.toList <+: line.toList) := by
  have hiff : (∀ line ∈ (imprint.remarks fileName comment).flatMap Text.lines,
      line = "" ∨ comment.toList <+: line.toList)
        ↔ ∀ text ∈ imprint.shownTexts fileName, StaysComment comment text := by
    rw [← ledBy_remarks_iff hcomment]
    simp only [LedBy, List.forall_mem_flatMap, List.mem_singleton, exists_eq_left]
  refine ⟨_, lines_header_eq_flatMap imprint fileName comment, hiff, fun h => hiff.2 ?_⟩
  intro text htext
  exact staysComment_of_mem_shownTexts h htext

/-- A project's text that goes on in a comment of its own, and one that goes on without. -/
theorem header_isComment_iff_shop :
    let plain : Imprint := ⟨"Shop\n// and more", some "Ada", none, none, ⟨2018, 1, 4⟩⟩
    let broken : Imprint := { plain with project := "Shop\nimport Darwin" }
    '\n' ∉ "//".toList ∧
    (∃ top : List String, Text.lines (plain.header "Rating.swift" "//") = top ++ markBlock ∧
      ∀ line ∈ top, line = "" ∨ "//".toList <+: line.toList) ∧
    ∃ top : List String, Text.lines (broken.header "Rating.swift" "//") = top ++ markBlock ∧
      ¬ ∀ line ∈ top, line = "" ∨ "//".toList <+: line.toList := by
  intro plain broken
  have hcomment : '\n' ∉ "//".toList := by decide
  obtain ⟨top, htop, hiff, -⟩ := header_isComment_iff plain "Rating.swift" hcomment
  obtain ⟨other, hother, hbroken, -⟩ := header_isComment_iff broken "Rating.swift" hcomment
  refine ⟨hcomment, ⟨top, htop, hiff.2 (by decide)⟩, other, hother, ?_⟩
  intro hall
  have hproject : ¬ StaysComment "//" broken.project := by decide
  exact hproject (hbroken.1 hall broken.project (by simp [shownTexts]))

/-- The texts of a valid configuration become lines of code. -/
theorem not_header_isComment :
    ¬ ∀ (config : Config) (date : Date) (fileName comment : String), config.validate = .ok () →
      ∀ top : List String, Text.lines ((config.imprint date).header fileName comment)
          = top ++ markBlock →
        ∀ line ∈ top, line = "" ∨ comment.toList <+: line.toList := by
  intro hall
  let config : Config :=
    ⟨some "Shop\nimport Darwin", none, none, .swift, none, Config.defaultOutput,
      [⟨"Rating", ["rating.json"]⟩], ⟨"/shop"⟩⟩
  have hlines : Text.lines ((config.imprint ⟨2018, 1, 4⟩).header "Rating.swift" "//")
      = ["//", "//  Rating.swift", "//  Shop", "import Darwin", "//",
          "//  Created on 01/04/18.", "//", ""] ++ markBlock := by
    decide +kernel
  have hcode := hall config ⟨2018, 1, 4⟩ "Rating.swift" "//" rfl _ hlines "import Darwin"
    (by decide)
  exact absurd hcode (by decide)

end Imprint

end PayloadModels
