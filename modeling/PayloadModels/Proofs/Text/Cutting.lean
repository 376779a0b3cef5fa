import Mathlib.Data.List.Infix
import Mathlib.Data.List.TakeWhile
import PayloadModels.Text

/-!
# Cutting what was joined

Texts that were joined at a mark are cut apart there again, when the first of them does not have the
character that the mark begins with. Trimming takes off what was joined if it is blank, and stops at
the first character that is not.
-/

namespace PayloadModels.Text

@[simp] theorem after?_append (mark : String) (rest : List Char) :
    after? mark (mark.toList ++ rest) = some rest :=
  List.isPrefixOf?_eq_some_iff_append_eq.2 rfl

/-- A text that goes on behind a mark begins with the mark. -/
theorem prefix_of_after? {mark : String} {cs rest : List Char} (h : after? mark cs = some rest) :
    mark.toList <+: cs := ⟨rest, List.isPrefixOf?_eq_some_iff_append_eq.1 h⟩

/-- A text that does not begin with a mark has nothing after it. -/
theorem after?_eq_none {mark : String} {cs : List Char} (h : ¬ mark.toList <+: cs) :
    after? mark cs = none :=
  Option.eq_none_iff_forall_ne_some.2 fun _ hrest => h (prefix_of_after? hrest)

/-- What a text begins with tells that it does not begin with a mark, when neither of them begins
with the other. -/
theorem after?_eq_none_of_isPrefix {mark lead : String} {cs : List Char}
    (h : ¬ mark.toList <+: lead.toList ∧ ¬ lead.toList <+: mark.toList)
    (hlead : lead.toList <+: cs) : after? mark cs = none :=
  after?_eq_none fun hmark => (List.prefix_or_prefix_of_prefix hmark hlead).elim h.1 h.2

/-- Where the mark does not stand here, the text is cut further on. -/
theorem cutAt_cons {c : Char} {mark cs : List Char} (h : ¬ mark <+: c :: cs) :
    cutAt mark (c :: cs) = (cutAt mark cs).map fun (front, rest) => (c :: front, rest) := by
  have hnone : mark.isPrefixOf? (c :: cs) = none :=
    Option.eq_none_iff_forall_ne_some.2 fun rest hrest =>
      h ⟨rest, List.isPrefixOf?_eq_some_iff_append_eq.1 hrest⟩
  rw [cutAt, hnone]

/-- A text is cut where a mark stands when the text before it does not have a character that begins
to tell the mark. -/
theorem cutAt_append_of_not_mem {c : Char} {front before : List Char} (hfront : c ∉ front)
    (hbefore : c ∉ before) (behind rest : List Char) :
    cutAt (before ++ c :: behind) (front ++ (before ++ c :: behind ++ rest))
      = some (front, rest) := by
  induction front with
  | nil =>
    obtain ⟨d, mark, hmark⟩ : ∃ d mark, before ++ c :: behind = d :: mark :=
      List.exists_cons_of_ne_nil (by simp)
    have hrest : (d :: mark).isPrefixOf? (d :: (mark ++ rest)) = some rest :=
      List.isPrefixOf?_eq_some_iff_append_eq.2 rfl
    rw [hmark, List.nil_append, List.cons_append, cutAt, hrest]
  | cons d front ih =>
    have hnot : ¬ before ++ c :: behind
        <+: d :: (front ++ (before ++ c :: behind ++ rest)) := by
      intro hbegins
      -- The first `c` of the text comes too late for the mark to stand this early.
      have hshort : before ++ [c] <+: d :: front ++ before := by
        have hstart : before ++ [c] <+: d :: (front ++ (before ++ c :: behind ++ rest)) :=
          List.IsPrefix.trans ⟨behind, by simp⟩ hbegins
        refine List.prefix_of_prefix_length_le hstart ⟨c :: behind ++ rest, by simp⟩ ?_
        simp only [List.length_append, List.length_cons, List.length_nil]
        omega
      have hmem := hshort.subset (List.mem_append_right before (List.mem_singleton_self c))
      exact (List.mem_append.1 hmem).elim hfront hbefore
    rw [List.cons_append, cutAt_cons hnot, ih (List.not_mem_of_not_mem_cons hfront)]
    rfl

/-- A text is cut at a mark whose first character does not occur before it. -/
theorem cutAt_append {c : Char} {front : List Char} (h : c ∉ front) (mark rest : List Char) :
    cutAt (c :: mark) (front ++ c :: (mark ++ rest)) = some (front, rest) :=
  cutAt_append_of_not_mem h List.not_mem_nil mark rest

/-- A text with a mark begins with what stands before the mark and all of the mark but its last
character. -/
theorem dropLast_isPrefix_append (mark front rest : List Char) :
    front ++ mark.dropLast <+: front ++ (mark ++ rest) :=
  (List.prefix_append_right_inj front).2
    ((List.dropLast_prefix mark).trans (List.prefix_append mark rest))

/-- Where a mark begins a text, it stands nowhere before the beginning. -/
theorem append_eq_append_iff_of_not_infix {mark front behind rest : List Char} (hmark : mark ≠ []) :
    mark ++ behind = front ++ (mark ++ rest) ∧ ¬ mark <:+: front ++ mark.dropLast
      ↔ front = [] ∧ rest = behind := by
  have hlength := List.length_pos_iff.2 hmark
  constructor
  · rintro ⟨heq, hfirst⟩
    cases front with
    | nil => exact ⟨rfl, (List.append_cancel_left heq).symm⟩
    | cons d front =>
      -- The mark stands at the beginning, and so before it is supposed to.
      have hstart : mark <+: d :: front ++ mark.dropLast := by
        refine List.prefix_of_prefix_length_le (heq ▸ List.prefix_append mark behind)
          (dropLast_isPrefix_append mark (d :: front) rest) ?_
        rw [List.length_append, List.length_cons, List.length_dropLast]
        omega
      exact absurd hstart.isInfix hfirst
  · rintro ⟨rfl, rfl⟩
    refine ⟨rfl, fun hinfix => absurd hinfix.length_le ?_⟩
    rw [List.nil_append, List.length_dropLast]
    omega

/-- A text is cut where a mark stands for the first time. -/
theorem cutAt_eq_some_iff {mark cs front rest : List Char} (hmark : mark ≠ []) :
    cutAt mark cs = some (front, rest)
      ↔ cs = front ++ (mark ++ rest) ∧ ¬ mark <:+: front ++ mark.dropLast := by
  induction cs generalizing front with
  | nil =>
    have hempty : mark.isEmpty = false := by simpa using hmark
    simp [cutAt, hempty, hmark]
  | cons c cs ih =>
    by_cases hbegins : mark <+: c :: cs
    · obtain ⟨behind, hbehind⟩ := hbegins
      rw [cutAt, List.isPrefixOf?_eq_some_iff_append_eq.2 hbehind, ← hbehind, Option.some_inj,
        Prod.mk.injEq, append_eq_append_iff_of_not_infix hmark]
      exact and_congr eq_comm eq_comm
    · rw [cutAt_cons hbegins, Option.map_eq_some_iff]
      constructor
      · rintro ⟨⟨before, behind⟩, hcut, heq⟩
        cases heq
        obtain ⟨rfl, hfirst⟩ := ih.1 hcut
        refine ⟨rfl, fun hinfix => ?_⟩
        rcases List.infix_cons_iff.1 hinfix with hstart | hlater
        · exact hbegins (hstart.trans (dropLast_isPrefix_append mark (c :: before) rest))
        · exact hfirst hlater
      · rintro ⟨heq, hfirst⟩
        cases front with
        | nil => exact absurd ⟨rest, heq.symm⟩ hbegins
        | cons d front =>
          rw [List.cons_append, List.cons.injEq] at heq
          obtain ⟨rfl, rfl⟩ := heq
          exact ⟨(front, rest), ih.2 ⟨rfl, fun hinfix => hfirst (List.infix_cons hinfix)⟩, rfl⟩

/-- A text that holds a mark is cut, and nothing that follows the mark is lost, wherever the text is
cut. -/
theorem exists_cutAt_append {mark : List Char} (hmark : mark ≠ []) (front rest : List Char) :
    ∃ before after, cutAt mark (front ++ (mark ++ rest)) = some (before, after)
      ∧ rest <:+ after := by
  induction front with
  | nil =>
    obtain ⟨c, cs, rfl⟩ := List.exists_cons_of_ne_nil hmark
    have hrest : (c :: cs).isPrefixOf? (c :: (cs ++ rest)) = some rest :=
      List.isPrefixOf?_eq_some_iff_append_eq.2 rfl
    refine ⟨[], rest, ?_, List.suffix_refl rest⟩
    rw [List.nil_append, List.cons_append, cutAt, hrest]
  | cons d front ih =>
    obtain ⟨before, after, hcut, hafter⟩ := ih
    rw [List.cons_append, cutAt]
    split
    · next early hearly =>
      -- The mark stands before the one that is known, and so before what follows that one.
      rw [List.isPrefixOf?_eq_some_iff_append_eq] at hearly
      refine ⟨[], early, rfl, ?_⟩
      have hknown : rest <:+ d :: (front ++ (mark ++ rest)) :=
        ⟨d :: (front ++ mark), by simp⟩
      have hlength := congrArg List.length hearly
      simp only [List.length_append, List.length_cons] at hlength
      exact List.suffix_of_suffix_length_le hknown ⟨mark, hearly⟩ (by omega)
    · rw [hcut]
      exact ⟨d :: before, after, rfl, hafter⟩

/-- A beginning of a text that lacks a character ends before that character. -/
theorem prefix_of_prefix_append_cons {c : Char} {front text rest : List Char} (h : c ∉ front)
    (hbegins : front <+: text ++ c :: rest) : front <+: text := by
  rcases List.prefix_or_prefix_of_prefix hbegins (List.prefix_append text _) with hin | ⟨more, rfl⟩
  · exact hin
  · cases more with
    | nil => rw [List.append_nil]
    | cons d more =>
      rw [List.prefix_append_right_inj, List.cons_prefix_cons] at hbegins
      exact absurd (hbegins.1 ▸ by simp) h

/-- A text is not cut at a mark when it lacks a character of the mark. -/
theorem cutAt_eq_none {c : Char} {mark cs : List Char} (hmark : c ∈ mark) (h : c ∉ cs) :
    cutAt mark cs = none := by
  induction cs with
  | nil =>
    have hne : mark.isEmpty = false := by
      cases mark with
      | nil => cases hmark
      | cons => rfl
    rw [cutAt, hne]
    rfl
  | cons d cs ih =>
    rw [cutAt_cons fun hbegins => h (hbegins.subset hmark), ih (List.not_mem_of_not_mem_cons h)]
    rfl

/-! ## Trimming -/

open Unicode

/-- Nothing is dropped where no character is to be. -/
theorem dropWhile_eq_self {p : Char → Bool} {cs : List Char} (h : ∀ c ∈ cs, p c = false) :
    cs.dropWhile p = cs := by
  cases cs with
  | nil => rfl
  | cons c cs => rw [List.dropWhile_cons, h c List.mem_cons_self, if_neg Bool.false_ne_true]

/-- Nothing is dropped from the end where no character is to be. -/
theorem dropEndWhile_eq_self {p : Char → Bool} {cs : List Char} (h : ∀ c ∈ cs, p c = false) :
    dropEndWhile p cs = cs := by
  rw [dropEndWhile, dropWhile_eq_self fun c hc => h c (List.mem_reverse.1 hc), List.reverse_reverse]

/-- What is left when the end is dropped is the beginning. -/
theorem dropEndWhile_prefix (p : Char → Bool) (cs : List Char) : dropEndWhile p cs <+: cs := by
  have hsuffix : cs.reverse.dropWhile p <:+ cs.reverse := List.dropWhile_suffix p
  rw [dropEndWhile, ← List.reverse_suffix, List.reverse_reverse]
  exact hsuffix

/-- A text that is not blank tells where the blanks at its beginning end. -/
theorem trimStart_append {front : List Char} (h : trimStart front ≠ []) (rest : List Char) :
    trimStart (front ++ rest) = trimStart front ++ rest := by
  have happend : trimStart (front ++ rest) = if (trimStart front).isEmpty then trimStart rest
      else trimStart front ++ rest := List.dropWhile_append
  rw [happend, if_neg (mt List.isEmpty_iff.1 h)]

/-- What stands behind a mark is found behind the blanks before it, too. -/
theorem after?_trimStart_append {lead mark : String} (h : trimStart lead.toList = mark.toList)
    (hmark : mark.toList ≠ []) (rest : List Char) :
    after? mark (trimStart (lead.toList ++ rest)) = some rest := by
  rw [trimStart_append (h ▸ hmark), h, after?_append]

/-- Nothing before a character that is not blank is at the end of a text. -/
theorem trimEnd_append_cons {c : Char} (h : isBlank c = false) (front rest : List Char) :
    trimEnd (front ++ c :: rest) = front ++ c :: trimEnd rest := by
  have hreverse : (front ++ c :: rest).reverse = rest.reverse ++ c :: front.reverse := by simp
  have hfront : (c :: front.reverse).dropWhile isBlank = c :: front.reverse := by
    rw [List.dropWhile_cons, h, if_neg Bool.false_ne_true]
  rw [trimEnd, trimEnd, dropEndWhile, dropEndWhile, hreverse, List.dropWhile_append, hfront]
  split
  · next hrest => simp [List.isEmpty_iff.1 hrest]
  · simp

/-- Blanks behind a text without any are trimmed off. -/
theorem trim_append {text blanks : List Char} (htext : ∀ c ∈ text, isBlank c = false)
    (hblanks : ∀ c ∈ blanks, isBlank c) : trim (text ++ blanks) = text := by
  have hend : ∀ text : List Char, (∀ c ∈ text, isBlank c = false) →
      trimEnd (text ++ blanks) = text := by
    intro text htext
    rw [trimEnd, dropEndWhile, List.reverse_append, List.dropWhile_append_of_pos (by simpa using
      hblanks), ← dropEndWhile, dropEndWhile_eq_self htext]
  cases text with
  | nil =>
    have hnil : trimStart blanks = [] := List.dropWhile_eq_nil_iff.2 hblanks
    rw [List.nil_append, trim, hnil]
    rfl
  | cons c cs =>
    have hstart : trimStart (c :: cs ++ blanks) = c :: cs ++ blanks := by
      rw [List.cons_append, trimStart, List.dropWhile_cons, htext c List.mem_cons_self,
        if_neg Bool.false_ne_true]
    rw [trim, hstart, hend _ htext]

/-- Trimming keeps every character that is not blank. -/
theorem mem_trim {c : Char} {cs : List Char} (hc : c ∈ cs) (hblank : isBlank c = false) :
    c ∈ trim cs := by
  have hdrop : ∀ cs : List Char, c ∈ cs → c ∈ cs.dropWhile isBlank := by
    intro cs hc
    rw [← List.takeWhile_append_dropWhile (p := isBlank) (l := cs)] at hc
    refine (List.mem_append.1 hc).resolve_left fun hfront => ?_
    rw [List.mem_takeWhile_imp hfront] at hblank
    cases hblank
  have hstart : c ∈ trimStart cs := hdrop cs hc
  have hend := hdrop (trimStart cs).reverse (List.mem_reverse.2 hstart)
  exact List.mem_reverse.2 hend

/-- Trimming leaves characters in their order. -/
theorem trim_sublist (cs : List Char) : (trim cs).Sublist cs := by
  have hend : trim cs <+: trimStart cs := dropEndWhile_prefix isBlank (trimStart cs)
  exact hend.sublist.trans (List.dropWhile_suffix isBlank).sublist

end PayloadModels.Text
