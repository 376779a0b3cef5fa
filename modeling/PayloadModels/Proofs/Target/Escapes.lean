import PayloadModels.Target.PropertyText

/-!
# Keys between quotes

No key breaks out of its literal (`Literal.encloses_escape`). What ends a literal is found by a
scanner that knows nothing of keys (`Literal.afterLiteral?`): it passes over the character behind
each backslash and stops at the next quote. So everything hangs on which backslashes are themselves
behind one. The reader of literals (`Literal.read?`) goes along the text in the same steps, and
where it reads a key to its end, the scanner stops there, the escapes stand for the key, and nothing
else between the quotes has a meaning (`Literal.exists_of_read?`).
-/

namespace PayloadModels.Literal

/-!
## Reading literals

A reader of double-quoted literals as the targets have them (`Literal.read?`): a backslash gives the
next character another meaning, and neither a quote nor the end of a line may stand for itself. What
is read from an escaped key is the key (`read?_escape`); where a dollar sign has a meaning, that
asks for its escape, too (`read?_dollarsEscaped`).
-/

/-- The character that a backslash and a character stand for; `dollars` says whether a dollar sign
has a meaning between quotes. -/
def unescape? (dollars : Bool) : Char → Option Char
  | '"' => some '"'
  | '\\' => some '\\'
  | 'n' => some '\n'
  | 'r' => some '\r'
  | 't' => some '\t'
  | '$' => if dollars then some '$' else none
  | _ => none

/-- Whether a character that is no quote and no backslash stands for itself. -/
def isBare (dollars : Bool) (c : Char) : Bool := !(c = '\n' || c = '\r' || dollars && c = '$')

/-- Reads a literal behind its first quote: what it says, and what follows its last quote. -/
def read? (dollars : Bool) : List Char → Option (List Char × List Char)
  | [] => none
  | '"' :: rest => some ([], rest)
  | ['\\'] => none
  | '\\' :: c :: rest =>
    (unescape? dollars c).bind fun c => (read? dollars rest).map fun (cs, rest) => (c :: cs, rest)
  | c :: rest =>
    if isBare dollars c then (read? dollars rest).map fun (cs, rest) => (c :: cs, rest) else none

/-- A text that is written character by character is read when each character is. -/
theorem read?_flatMap {dollars : Bool} {write : Char → List Char}
    (h : ∀ c rest, read? dollars (write c ++ rest)
      = (read? dollars rest).map fun (cs, rest) => (c :: cs, rest)) (cs rest : List Char) :
    read? dollars (cs.flatMap write ++ '"' :: rest) = some (cs, rest) := by
  induction cs with
  | nil => rfl
  | cons c cs ih => rw [List.flatMap_cons, List.append_assoc, h, ih]; rfl

/-- A character that stands for itself is read. -/
theorem read?_cons {dollars : Bool} {c : Char} (hquote : c ≠ '"') (hbackslash : c ≠ '\\')
    (hbare : isBare dollars c) (rest : List Char) :
    read? dollars (c :: rest) = (read? dollars rest).map fun (cs, rest) => (c :: cs, rest) := by
  rw [read?, if_pos hbare]
  all_goals simp_all

/-- An escaped character is read back. -/
theorem read?_escapeChar (c : Char) (rest : List Char) :
    read? false (escapeChar c ++ rest)
      = (read? false rest).map fun (cs, rest) => (c :: cs, rest) := by
  unfold escapeChar
  split
  case h_6 hquote hbackslash hfeed hreturn htab =>
    exact read?_cons hquote hbackslash (by simpa [isBare] using ⟨hfeed, hreturn⟩) rest
  all_goals rfl

/-- What is read from an escaped key is the key. -/
theorem read?_escape (key : String) (rest : List Char) :
    read? false ((escape key).toList ++ '"' :: rest) = some (key.toList, rest) := by
  rw [escape, String.toList_ofList, read?_flatMap read?_escapeChar]

/-- An escaped character is read back where dollar signs have a meaning and are escaped, too. -/
theorem read?_dollarEscapedChar (c : Char) (rest : List Char) :
    read? true ((escapeChar c).flatMap (fun c => if c = '$' then ['\\', '$'] else [c]) ++ rest)
      = (read? true rest).map fun (cs, rest) => (c :: cs, rest) := by
  unfold escapeChar
  split
  case h_6 hquote hbackslash hfeed hreturn htab =>
    by_cases hdollar : c = '$'
    · subst hdollar
      rfl
    · simp only [List.flatMap_singleton, if_neg hdollar]
      exact read?_cons hquote hbackslash (by simpa [isBare, hdollar] using ⟨hfeed, hreturn⟩) rest
  all_goals rfl

/-- Where dollar signs have a meaning, what is read from a key with those escaped is the key. -/
theorem read?_dollarsEscaped (key : String) (rest : List Char) :
    read? true ((dollarsEscaped (escape key)).toList ++ '"' :: rest) = some (key.toList, rest) := by
  rw [dollarsEscaped, escape, String.toList_ofList, String.toList_ofList, List.flatMap_assoc,
    read?_flatMap read?_dollarEscapedChar]

/-! ## Scanning -/

/-- What follows the quote that ends a literal, behind its first quote. The character behind a
backslash is passed over, whatever it is. -/
def afterQuote? : List Char → Option (List Char)
  | [] => none
  | '"' :: rest => some rest
  | ['\\'] => none
  | '\\' :: _ :: rest => afterQuote? rest
  | _ :: rest => afterQuote? rest

/-- What follows the literal that a text begins with. -/
def afterLiteral? : List Char → Option (List Char)
  | '"' :: rest => afterQuote? rest
  | _ => none

/-- What the text between the quotes of a literal stands for, if each backslash begins an escape;
`dollars` says whether a dollar sign has one. -/
def decode? (dollars : Bool) : List Char → Option (List Char)
  | [] => some []
  | ['\\'] => none
  | '\\' :: c :: rest => (unescape? dollars c).bind fun c => (decode? dollars rest).map (c :: ·)
  | c :: rest => (decode? dollars rest).map (c :: ·)

/-- The characters of a text that belong to no escape. -/
def unescaped : List Char → List Char
  | [] => []
  | ['\\'] => []
  | '\\' :: _ :: rest => unescaped rest
  | c :: rest => c :: unescaped rest

/-- A character that is neither quote nor backslash is passed over. -/
theorem afterQuote?_cons {c : Char} (hquote : c ≠ '"') (hbackslash : c ≠ '\\') (rest : List Char) :
    afterQuote? (c :: rest) = afterQuote? rest := by
  rw [afterQuote?]
  all_goals simp_all

/-- A character that is no backslash stands for itself. -/
theorem decode?_cons {c : Char} (hbackslash : c ≠ '\\') (dollars : Bool) (rest : List Char) :
    decode? dollars (c :: rest) = (decode? dollars rest).map (c :: ·) := by
  rw [decode?]
  all_goals simp_all

/-- A character that is no backslash belongs to no escape. -/
theorem unescaped_cons {c : Char} (hbackslash : c ≠ '\\') (rest : List Char) :
    unescaped (c :: rest) = c :: unescaped rest := by
  rw [unescaped]
  all_goals simp_all

/-- Whether a character has no meaning between quotes. -/
def IsInert (dollars : Bool) (c : Char) : Prop := c ≠ '"' ∧ (dollars → c ≠ '$')

/-- A literal is read up to where the scanner stops; its escapes stand for what is read, and the
characters that belong to no escape have no meaning. -/
theorem exists_of_read? {dollars : Bool} {cs key rest : List Char}
    (h : read? dollars cs = some (key, rest)) :
    ∃ text, cs = text ++ '"' :: rest ∧ afterQuote? cs = some rest ∧
      decode? dollars text = some key ∧ ∀ c ∈ unescaped text, IsInert dollars c := by
  fun_induction read? dollars cs generalizing key with
  | case1 => cases h
  | case2 back =>
    cases h
    exact ⟨[], rfl, rfl, rfl, by simp [unescaped]⟩
  | case3 => cases h
  | case4 c back ih =>
    obtain ⟨meant, hmeant, h⟩ := Option.bind_eq_some_iff.1 h
    obtain ⟨⟨key, rest⟩, hread, heq⟩ := Option.map_eq_some_iff.1 h
    cases heq
    obtain ⟨text, rfl, hafter, hdecode, hinert⟩ := ih hread
    exact ⟨'\\' :: c :: text, rfl, hafter, by simp [decode?, hmeant, hdecode], hinert⟩
  | case5 c back hquote hlast hbackslash hbare ih =>
    obtain ⟨⟨key, rest⟩, hread, heq⟩ := Option.map_eq_some_iff.1 h
    cases heq
    obtain ⟨text, rfl, hafter, hdecode, hinert⟩ := ih hread
    have hc : c ≠ '\\' := by
      rintro rfl
      cases text with
      | nil => exact hbackslash '"' rest rfl rfl
      | cons d text => exact hbackslash d (text ++ '"' :: rest) rfl rfl
    refine ⟨c :: text, rfl, (afterQuote?_cons hquote hc _).trans hafter,
      by rw [decode?_cons hc, hdecode]; rfl, ?_⟩
    rw [unescaped_cons hc]
    refine List.forall_mem_cons.2 ⟨⟨hquote, fun hdollars hdollar => ?_⟩, hinert⟩
    simp [isBare, hdollars, hdollar] at hbare
  | case6 => cases h

/-! ## Enclosing a key -/

/-- A control character that has an escape of its own. -/
def IsControl (c : Char) : Prop := c = '\n' ∨ c = '\r' ∨ c = '\t'

instance (c : Char) : Decidable (IsControl c) := inferInstanceAs (Decidable (_ ∨ _))

/-- Whether a text between double quotes holds a key: it has no control characters, its literal ends
behind it and nowhere else, its escapes stand for the key, and what belongs to no escape has no
meaning. -/
structure Encloses (dollars : Bool) (key text : String) : Prop where
  clear : ∀ c ∈ text.toList, ¬ IsControl c
  closes : ∀ rest, afterLiteral? (("\"" ++ text ++ "\"").toList ++ rest) = some rest
  decodes : decode? dollars text.toList = some key.toList
  inert : ∀ c ∈ unescaped text.toList, IsInert dollars c

/-- A text encloses the key that is read from its literal. -/
theorem encloses_of_read? {dollars : Bool} {key text : String}
    (hclear : ∀ c ∈ text.toList, ¬ IsControl c)
    (h : ∀ rest, read? dollars (text.toList ++ '"' :: rest) = some (key.toList, rest)) :
    Encloses dollars key text := by
  obtain ⟨front, heq, -, hdecode, hinert⟩ := exists_of_read? (h [])
  obtain rfl := List.append_cancel_right heq
  refine ⟨hclear, fun rest => ?_, hdecode, hinert⟩
  obtain ⟨-, -, hafter, -⟩ := exists_of_read? (h rest)
  simpa [afterLiteral?] using hafter

/-- Different keys are enclosed by different texts. -/
theorem injective_of_encloses {dollars : Bool} {write : String → String}
    (h : ∀ key, Encloses dollars key (write key)) : Function.Injective write := by
  intro a b hab
  have hkeys : some a.toList = some b.toList := by
    rw [← (h a).decodes, ← (h b).decodes, hab]
  exact String.toList_inj.1 (Option.some.inj hkeys)

/-- Escaping leaves no control character that has an escape. -/
theorem not_isControl_of_mem_escapeChar {c d : Char} (h : d ∈ escapeChar c) : ¬ IsControl d := by
  unfold escapeChar at h
  split at h
  case h_6 hfeed hreturn htab =>
    rw [List.mem_singleton.1 h]
    rintro (hd | hd | hd)
    · exact hfeed hd
    · exact hreturn hd
    · exact htab hd
  all_goals
    simp only [List.mem_cons, List.not_mem_nil, or_false] at h
    rcases h with rfl | rfl <;> decide

/-- An escaped key has no control character that has an escape. -/
theorem not_isControl_of_mem_escape (key : String) :
    ∀ c ∈ (escape key).toList, ¬ IsControl c := by
  intro c hc
  rw [escape, String.toList_ofList] at hc
  obtain ⟨of, -, hc⟩ := List.mem_flatMap.1 hc
  exact not_isControl_of_mem_escapeChar hc

/-- Escaping dollar signs adds backslashes and nothing else. -/
theorem forall_mem_dollarsEscaped {p : Char → Prop} (hbackslash : p '\\') {text : String}
    (htext : ∀ c ∈ text.toList, p c) : ∀ c ∈ (dollarsEscaped text).toList, p c := by
  intro c hc
  rw [dollarsEscaped, String.toList_ofList] at hc
  obtain ⟨of, hof, hc⟩ := List.mem_flatMap.1 hc
  split at hc
  · next hdollar =>
    simp only [List.mem_cons, List.not_mem_nil, or_false] at hc
    rcases hc with rfl | rfl
    · exact hbackslash
    · exact hdollar ▸ htext of hof
  · rw [List.mem_singleton.1 hc]
    exact htext of hof

/-- Between double quotes an escaped key holds the key, whatever the key is, and so it does with the
dollar signs escaped where these have a meaning; no two keys are escaped alike. -/
theorem encloses_escape :
    (∀ key, Encloses false key (escape key)) ∧
      (∀ key, Encloses true key (dollarsEscaped (escape key)) ∧
        '$' ∉ unescaped (dollarsEscaped (escape key)).toList) ∧
      Function.Injective escape ∧ Function.Injective fun key => dollarsEscaped (escape key) := by
  have hplain : ∀ key, Encloses false key (escape key) := fun key =>
    encloses_of_read? (not_isControl_of_mem_escape key) (read?_escape key)
  have hdollars : ∀ key, Encloses true key (dollarsEscaped (escape key)) := fun key =>
    encloses_of_read? (forall_mem_dollarsEscaped (by decide) (not_isControl_of_mem_escape key))
      (read?_dollarsEscaped key)
  exact ⟨hplain, fun key => ⟨hdollars key, fun hmem => ((hdollars key).inert _ hmem).2 rfl rfl⟩,
    injective_of_encloses hplain, injective_of_encloses hdollars⟩

end PayloadModels.Literal
