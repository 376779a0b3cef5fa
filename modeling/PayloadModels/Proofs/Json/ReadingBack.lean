import Mathlib
import PayloadModels.Proofs.Json.FloatTexts

/-!
# Reading objects back

A key whose characters stand for themselves is read back from its quotes (`readKeyColon_quote`),
and so the members of an object are read back from their texts when their values are
(`readsMembers_memberTexts`). The value that is read back need not be the value that was written:
numbers that are not finite are written as `null`.
-/

namespace PayloadModels.Json

variable {mode : Mode} {cs rest : List Char} {c : Char} {key : String} {depth : Nat}
  {written read : Json} {members found : Members}

/-! ## Plain keys -/

/-- The character stands for itself in a string. -/
structure IsPlain (c : Char) : Prop where
  ne_quote : c ≠ '"'
  ne_backslash : c ≠ '\\'
  not_control : ¬ c.toNat < 0x20

instance : DecidablePred IsPlain := fun c =>
  decidable_of_iff (c ≠ '"' ∧ c ≠ '\\' ∧ ¬ c.toNat < 0x20)
    ⟨fun h => ⟨h.1, h.2.1, h.2.2⟩, fun h => ⟨h.ne_quote, h.ne_backslash, h.not_control⟩⟩

/-- A plain character is not escaped. -/
theorem escapeChar_of_isPlain (h : IsPlain c) : escapeChar c = [c] := by
  unfold escapeChar
  split
  case h_8 => exact if_neg h.not_control
  case h_1 => exact absurd rfl h.ne_quote
  case h_2 => exact absurd rfl h.ne_backslash
  all_goals exact absurd (by decide) h.not_control

/-- Plain characters are read back before the closing quote. -/
theorem readString_plain (mode : Mode) (rest : List Char) (h : ∀ c ∈ cs, IsPlain c) :
    readString mode (cs ++ '"' :: rest) = .ok (cs, rest) := by
  induction cs with
  | nil => rw [List.nil_append, readString]
  | cons c cs ih =>
    obtain ⟨hc, hcs⟩ := List.forall_mem_cons.1 h
    rw [List.cons_append, readString_cons hc.ne_quote hc.ne_backslash, if_neg hc.not_control,
      ih hcs]
    rfl

/-- A key of plain characters is written between its quotes. -/
theorem toList_quote_plain (h : ∀ c ∈ key.toList, IsPlain c) :
    (quote key).toList = '"' :: key.toList ++ ['"'] := by
  have hescape : key.toList.flatMap escapeChar = key.toList := by
    rw [List.flatMap_congr fun c hc => escapeChar_of_isPlain (h c hc), List.flatMap_singleton']
  rw [quote, String.toList_append, String.toList_append, hescape, String.ofList_toList]
  rfl

/-- A key of plain characters is read back with its colon. -/
theorem readKeyColon_quote (mode : Mode) (rest : List Char) (h : ∀ c ∈ key.toList, IsPlain c) :
    readKeyColon mode ((quote key).toList ++ ':' :: rest) = .ok (key, rest) := by
  have htext : (quote key).toList ++ ':' :: rest = '"' :: (key.toList ++ '"' :: ':' :: rest) := by
    rw [toList_quote_plain h]
    simp
  rw [htext, readKeyColon, readKey, readString_plain mode _ h]
  simp only [bind, Except.bind, pure, Except.pure, String.ofList_toList]
  rfl

/-! ## Values -/

/-- The text of a value is read as a value wherever a member or an item may end behind it. -/
def ReadsBack (written read : Json) : Prop :=
  ∀ (depth : Nat) (c : Char) (rest : List Char), EndsNumber c →
    readValue (.build depth) (written.text.toList ++ c :: rest) = .ok (read, c :: rest)

/-- An integer of 64 bits is read back. -/
theorem readsBack_int {n : Int} (h : isInt64 n) :
    ReadsBack (.num (.int n)) (.num (.int n)) := by
  intro depth c rest hc
  have htext : (Json.num (.int n)).text.toList = (intNumeral n).signedText := toList_toString_int n
  rw [htext]
  exact readValue_signedText (wellFormed_intNumeral n) hc (value_intNumeral h)

/-- What is not finite is written as `null`. -/
theorem readsBack_not_finite {x : Binary64} (h : x.isFinite = false) :
    ReadsBack (.num (.float x)) .null := by
  intro depth c rest _
  have htext : (Json.num (.float x)).text.toList = 'n' :: 'u' :: 'l' :: 'l' :: [] := by
    rw [text, Number.text, h, if_neg Bool.false_ne_true]
    rfl
  rw [htext, List.cons_append, readValue_cons_eq_readScalar (by decide) (by decide) (by decide)]
  rfl

/-- A finite number is read back as its numeral scaled. -/
theorem exists_readsBack_float {x : Binary64} (h : x.isFinite) : ∃ scaled,
    scaleByTen? (.ofNat (floatNumeral x).significand) (floatNumeral x).power = some scaled ∧
      ReadsBack (.num (.float x))
        (.num (.float (if x.isNegative then scaled.neg else scaled))) := by
  obtain ⟨scaled, hscaled⟩ := Option.isSome_iff_exists.1 (isSome_scaleByTen?_floatNumeral h)
  refine ⟨scaled, hscaled, fun depth c rest hc => ?_⟩
  have htext : (Json.num (.float x)).text = floatText x := by
    rw [text, Number.text, h, if_pos rfl]
  rw [htext]
  exact readValue_floatText h hscaled hc

/-! ## Members -/

/-- A member with a plain key is read as one with the same key and the value that is read back. -/
structure ReadsMemberBack (written read : String × Json) : Prop where
  plain : ∀ c ∈ written.1.toList, IsPlain c
  key_eq : read.1 = written.1
  value : ReadsBack written.2 read.2

/-- The texts of members with plain keys are read as members whose values are those that are read
back. -/
theorem readsMembers_memberTexts (depth : Nat) (rest : List Char) (hne : members ≠ [])
    (h : List.Forall₂ ReadsMemberBack members found) :
    ReadsMembers depth ((",".intercalate (memberTexts members)).toList ++ '\x7d' :: rest) found
      rest := by
  induction h with
  | nil => exact absurd rfl hne
  | @cons member back members found hmember hmembers ih =>
    obtain ⟨_, value⟩ := member
    obtain ⟨key, value'⟩ := back
    obtain ⟨hplain, rfl, hvalue⟩ := hmember
    cases hmembers with
    | nil =>
      have htext : (",".intercalate (memberTexts [(key, value)])).toList ++ '\x7d' :: rest
          = (quote key).toList ++ ':' :: (value.text.toList ++ '\x7d' :: rest) := by
        simp [memberTexts, String.toList_append]
      rw [htext]
      exact .last (readKeyColon_quote _ _ hplain) (hvalue _ _ _ endsNumber_brace)
        (skipGap_cons (by decide))
    | cons hnext hrest =>
      have hothers := ih (List.cons_ne_nil _ _)
      rw [memberTexts, String.intercalate_cons_of_ne_nil (by simp [memberTexts])]
      generalize ",".intercalate (memberTexts _) = others at hothers ⊢
      have htext : (quote key ++ ":" ++ value.text ++ "," ++ others).toList ++ '\x7d' :: rest
          = (quote key).toList ++ ':' :: (value.text.toList ++ ',' ::
            (others.toList ++ '\x7d' :: rest)) := by
        simp [String.toList_append]
      obtain ⟨tail, htail⟩ := hothers.exists_eq_quote_cons
      rw [htext]
      refine .more (readKeyColon_quote _ _ hplain) (hvalue _ _ _ endsNumber_comma)
        (skipGap_cons (by decide)) ?_
      rw [htail, skipGap_cons (by decide), ← htail]
      exact hothers

/-- The text of an object with plain keys is read as an object whose values are those that are read
back. -/
theorem writesObject_text (hne : members ≠ [])
    (h : List.Forall₂ ReadsMemberBack members found) :
    WritesObject (Json.obj members).text found := by
  have htext : (Json.obj members).text.toList
      = '\x7b' :: ((",".intercalate (memberTexts members)).toList ++ ['\x7d']) := by
    rw [text, String.toList_append, String.toList_append]
    rfl
  have hmembers := readsMembers_memberTexts 1 [] hne h
  obtain ⟨tail, htail⟩ := hmembers.exists_eq_quote_cons
  refine ⟨[], ?_, rfl⟩
  have hopen : skipGap (Json.obj members).text.toList = '\x7b' ::
      ((",".intercalate (memberTexts members)).toList ++ ['\x7d']) := by
    rw [htext]
    exact skipGap_cons (by decide)
  refine .members hopen ?_
  rw [htail, skipGap_cons (by decide), ← htail]
  exact hmembers

end PayloadModels.Json
