import PayloadModels.Proofs.Naming.Words
import PayloadModels.Proofs.Target.Declarations

/-!
# Reading Kotlin parameters back

A line declares in Kotlin what stands behind the first `val ` in it, wherever that is. A parameter
has the keyword before its name, but the annotation that tells its payload key stands before both,
and a key such as `interval unit` holds the keyword, too. Then the rest of the annotation is read as
the name, and a line that was edited by hand is not found again. With every other key, the property
is read back, whatever its type is and whatever follows (`Target.declared?_kotlinParameter_iff`).
-/

namespace PayloadModels

open Naming Unicode

namespace Literal

/-- Keys are escaped character by character. -/
theorem escape_append (a b : String) : escape (a ++ b) = escape a ++ escape b := by
  rw [escape, String.toList_append, List.flatMap_append, String.ofList_append]
  rfl

/-- Dollar signs are escaped one by one. -/
theorem dollarsEscaped_append (a b : String) :
    dollarsEscaped (a ++ b) = dollarsEscaped a ++ dollarsEscaped b := by
  rw [dollarsEscaped, String.toList_append, List.flatMap_append, String.ofList_append]
  rfl

/-- Where every other character is written behind a backslash, a beginning without any backslash is
written as it is. -/
theorem prefix_of_prefix_flatMap {write : Char → List Char}
    (h : ∀ c, write c = [c] ∨ (write c).head? = some '\\') {cs text : List Char}
    (hbegins : cs <+: text.flatMap write) (hbackslash : '\\' ∉ cs) : cs <+: text := by
  induction text generalizing cs with
  | nil => exact hbegins
  | cons c text ih =>
    cases cs with
    | nil => exact List.nil_prefix
    | cons d cs =>
      rw [List.flatMap_cons] at hbegins
      rcases h c with hc | hc
      · rw [hc, List.singleton_append, List.cons_prefix_cons] at hbegins
        obtain ⟨rfl, hrest⟩ := hbegins
        exact List.cons_prefix_cons.2 ⟨rfl, ih hrest (List.not_mem_of_not_mem_cons hbackslash)⟩
      · obtain ⟨rest, hrest⟩ := List.head?_eq_some_iff.1 hc
        rw [hrest, List.cons_append, List.cons_prefix_cons] at hbegins
        exact absurd (hbegins.1 ▸ List.mem_cons_self) hbackslash

/-- What an escaped key begins with, other than a backslash, the key begins with. -/
theorem prefix_of_prefix_escape {cs : List Char} {text : String}
    (h : cs <+: (escape text).toList) (hbackslash : '\\' ∉ cs) : cs <+: text.toList := by
  rw [escape, String.toList_ofList] at h
  refine prefix_of_prefix_flatMap (fun c => ?_) h hbackslash
  unfold escapeChar
  split
  case h_6 => exact .inl rfl
  all_goals exact .inr rfl

/-- What a text begins with once its dollar signs are escaped, other than a backslash, it begins
with. -/
theorem prefix_of_prefix_dollarsEscaped {cs : List Char} {text : String}
    (h : cs <+: (dollarsEscaped text).toList) (hbackslash : '\\' ∉ cs) : cs <+: text.toList := by
  rw [dollarsEscaped, String.toList_ofList] at h
  refine prefix_of_prefix_flatMap (fun c => ?_) h hbackslash
  split
  · exact .inr rfl
  · exact .inl rfl

end Literal

namespace Target

variable {property : Property}

/-- The keyword that a Kotlin parameter is found by. -/
def kotlinKeyword : List Char := "val ".toList

/-- A key as it stands between quotes in Kotlin. -/
def kotlinEscape (key : String) : String := Literal.dollarsEscaped (Literal.escape key)

/-- Keys are escaped for Kotlin character by character. -/
theorem kotlinEscape_append (a b : String) :
    kotlinEscape (a ++ b) = kotlinEscape a ++ kotlinEscape b := by
  rw [kotlinEscape, Literal.escape_append, Literal.dollarsEscaped_append]
  rfl

/-- What stands before the keyword of a Kotlin parameter. -/
def kotlinLead (property : Property) : String :=
  if isRenamed property then
    "    @SerializedName(" ++ "\"" ++ (kotlinEscape property.key ++ "\"" ++ ") ")
  else "    "

/-- A Kotlin parameter is its lead, the keyword, its name and a colon, with the type behind. -/
theorem exists_kotlinParameter_eq (property : Property) : ∃ declared : String,
    kotlinParameter property
      = kotlinLead property ++ "val " ++ (property.name ++ ":" ++ declared) := by
  unfold kotlinParameter kotlinLead kotlinEscape
  dsimp only
  generalize (if property.isOptional then kotlinType property.type ++ "? = null"
    else kotlinType property.type) = declared
  refine ⟨" " ++ declared ++ ",", String.toList_inj.1 ?_⟩
  split <;> simp

/-- A key holds the keyword between quotes as it does without them. -/
theorem keyword_infix_kotlinEscape_iff {key : String} :
    kotlinKeyword <:+: (kotlinEscape key).toList ↔ kotlinKeyword <:+: key.toList :=
  (infix_dollarsEscaped_iff (by decide) (by decide)).trans
    (infix_escape_iff (by decide) (by decide))

/-- A quote is a fence for the keyword. -/
theorem isFence_quote : Text.IsFence kotlinKeyword "\"".toList := by decide

/-- A key that need not be told has no blank in it, and so not the keyword. -/
theorem not_keyword_infix_of_not_isRenamed
    (hname : property.name = kotlin.propertyName property.key)
    (h : isRenamed property = false) : ¬ kotlinKeyword <:+: property.key.toList := by
  have hbare : bareName property.name = property.key := by simpa [isRenamed] using h
  rw [hname] at hbare
  have hcamel : lowerCamel property.key = property.key :=
    (bareName_backquoted kotlinReserved (isNameText_lowerCamel property.key)).symm.trans hbare
  intro hinfix
  have hblank : ' ' ∈ property.key.toList := hinfix.subset (by decide)
  rw [← hcamel] at hblank
  exact absurd (isNameText_lowerCamel property.key ' ' hblank) (by decide)

/-- The keyword stands before its place when it stands in the key. -/
theorem keyword_infix_kotlinLead_iff (hname : property.name = kotlin.propertyName property.key) :
    kotlinKeyword <:+: (kotlinLead property).toList ++ kotlinKeyword.dropLast
      ↔ kotlinKeyword <:+: property.key.toList := by
  unfold kotlinLead
  by_cases hrenamed : isRenamed property
  · have hchars : ("    @SerializedName(" ++ "\"" ++ (kotlinEscape property.key ++ "\""
        ++ ") ")).toList ++ kotlinKeyword.dropLast = "    @SerializedName(".toList ++ "\"".toList
          ++ ((kotlinEscape property.key).toList ++ "\"".toList ++ ") val".toList) := by
      simp [kotlinKeyword]
    have hopen : ¬ kotlinKeyword <:+: "    @SerializedName(".toList := by decide
    have hclose : ¬ kotlinKeyword <:+: ") val".toList := by decide
    rw [if_pos hrenamed, hchars, isFence_quote.infix_append_append_iff,
      isFence_quote.infix_append_append_iff, keyword_infix_kotlinEscape_iff,
      or_iff_right hopen, or_iff_left hclose]
  · rw [if_neg hrenamed]
    exact iff_of_false (by decide)
      (not_keyword_infix_of_not_isRenamed hname (Bool.eq_false_iff.2 hrenamed))

/-- In Kotlin, a line declares what stands behind the first keyword, up to the colon. -/
theorem declared?_kotlin_of_cutAt {line : String} {front rest : List Char}
    (h : Text.cutAt kotlinKeyword line.toList = some (front, rest)) :
    kotlin.declared? line = nameBefore? ':' rest := by
  have hcut : Text.cutAt "val ".toList line.toList = some (front, rest) := h
  rw [declared?]
  simp only [hcut]
  rfl

/-- A line that goes on as a parameter does up to its colon. -/
def kotlinLine (property : Property) (declared : String) : String :=
  kotlinLead property ++ "val " ++ (property.name ++ ":" ++ declared)

/-- The name is read back behind a key that does not hold the keyword. -/
theorem declared?_kotlinLine (hname : property.name = kotlin.propertyName property.key)
    (hkey : ¬ kotlinKeyword <:+: property.key.toList) (declared : String) :
    kotlin.declared? (kotlinLine property declared) = some property.name := by
  have hchars : (kotlinLine property declared).toList = (kotlinLead property).toList
      ++ (kotlinKeyword ++ (property.name.toList ++ [] ++ ':' :: declared.toList)) := by
    simp [kotlinLine, kotlinKeyword]
  have hfirst : ¬ kotlinKeyword <:+: (kotlinLead property).toList ++ kotlinKeyword.dropLast :=
    fun hlead => hkey ((keyword_infix_kotlinLead_iff hname).1 hlead)
  have hcut := (Text.cutAt_eq_some_iff (by decide)).2 ⟨hchars, hfirst⟩
  have hcolon : ':' ∉ property.name.toList ++ [] := by
    rw [List.append_nil, hname]
    exact not_mem_propertyName (by decide) kotlin property.key
  have hblank : ∀ c ∈ property.name.toList, isBlank c = false := by
    rw [hname]
    exact fun _ => isBlank_of_mem_propertyName
  rw [declared?_kotlin_of_cutAt hcut]
  exact nameBefore?_append hcolon hblank (by simp) _

/-! ## Keys that hold the keyword -/

/-- A property's name in Kotlin has all the letters of its key. -/
theorem letters_le_letters_propertyName (key : String) :
    letters key ≤ letters (kotlin.propertyName key) := by
  have hcamel := letters_le_letters_lowerCamel key
  show letters key ≤ letters (backquoted kotlinReserved (lowerCamel key))
  unfold backquoted
  split
  · rw [letters_append, letters_append]
    omega
  · exact hcamel

/-- The name of a property is no part of what follows the keyword in its key: it has more letters
than that. -/
theorem ofList_trim_ne_propertyName {key front back : String} (hkey : key = front ++ "val " ++ back)
    {piece : List Char} (hpiece : piece <+: back.toList) :
    String.ofList (Text.trim piece) ≠ kotlin.propertyName key := by
  intro heq
  have hname := letters_le_letters_propertyName key
  have hletters : letters (String.ofList (Text.trim piece)) ≤ letters back := by
    rw [letters, letters, String.toList_ofList]
    exact ((Text.trim_sublist piece).trans hpiece.sublist).countP_le
  have hkeyword : letters "val " = 3 := rfl
  rw [hkey, letters_append, letters_append, hkeyword, ← hkey, ← heq] at hname
  omega

/-- A key is cut where the keyword stands for the first time. -/
theorem exists_keyword_split {key : String} (h : kotlinKeyword <:+: key.toList) :
    ∃ front back : String, key = front ++ "val " ++ back
      ∧ ¬ kotlinKeyword <:+: (front ++ "val").toList := by
  have hcut : (Text.cutAt kotlinKeyword key.toList).isSome := Text.contains_iff.2 h
  obtain ⟨⟨front, back⟩, hcut⟩ := Option.isSome_iff_exists.1 hcut
  obtain ⟨hsplit, hfirst⟩ := (Text.cutAt_eq_some_iff (by decide)).1 hcut
  refine ⟨String.ofList front, String.ofList back, String.toList_inj.1 ?_, ?_⟩
  · rw [hsplit]
    simp [kotlinKeyword]
  · rw [String.toList_append, String.toList_ofList]
    exact hfirst

/-- A line is cut in its key where the key is. -/
theorem cutAt_kotlinLine (hrenamed : isRenamed property = true) {front back : String}
    (hkey : property.key = front ++ "val " ++ back)
    (hfirst : ¬ kotlinKeyword <:+: (front ++ "val").toList) (declared : String) :
    Text.cutAt kotlinKeyword (kotlinLine property declared).toList
      = some (("    @SerializedName(" ++ "\"" ++ kotlinEscape front).toList,
        (kotlinEscape back).toList
          ++ '"' :: (") val " ++ (property.name ++ ":" ++ declared)).toList) := by
  have hlead : kotlinLead property = "    @SerializedName(" ++ "\""
      ++ (kotlinEscape property.key ++ "\"" ++ ") ") := if_pos hrenamed
  have hkeyword : kotlinEscape "val " = "val " := by decide
  refine (Text.cutAt_eq_some_iff (by decide)).2 ⟨?_, ?_⟩
  · rw [kotlinLine, hlead, hkey, kotlinEscape_append, kotlinEscape_append, hkeyword]
    simp [kotlinKeyword]
  · have hchars : ("    @SerializedName(" ++ "\"" ++ kotlinEscape front).toList
        ++ kotlinKeyword.dropLast = "    @SerializedName(".toList ++ "\"".toList
          ++ (kotlinEscape (front ++ "val")).toList := by
      have hdropped : kotlinEscape "val" = String.ofList kotlinKeyword.dropLast := by decide
      rw [kotlinEscape_append, hdropped]
      simp
    have hopen : ¬ kotlinKeyword <:+: "    @SerializedName(".toList := by decide
    rw [hchars, isFence_quote.infix_append_append_iff, keyword_infix_kotlinEscape_iff,
      or_iff_right hopen]
    exact hfirst

/-- Behind a key that holds the keyword, another name is read than the property's. -/
theorem declared?_kotlinLine_ne (hname : property.name = kotlin.propertyName property.key)
    (hkey : kotlinKeyword <:+: property.key.toList) (declared : String) :
    kotlin.declared? (kotlinLine property declared) ≠ some property.name := by
  have hrenamed : isRenamed property = true := by
    by_contra hnot
    exact not_keyword_infix_of_not_isRenamed hname (Bool.eq_false_iff.2 hnot) hkey
  obtain ⟨front, back, hsplit, hfirst⟩ := exists_keyword_split hkey
  rw [declared?_kotlin_of_cutAt (cutAt_kotlinLine hrenamed hsplit hfirst declared), nameBefore?]
  intro hread
  obtain ⟨⟨piece, behind⟩, hpiece, htrim⟩ := Option.map_eq_some_iff.1 hread
  have htrim : String.ofList (Text.trim piece) = property.name := htrim
  -- A character of the piece that is not blank is one of the name.
  have hnot : ∀ c, isBlank c = false → ¬ (IsNameChar c ∨ c = '\x60' ∨ c = '#') → c ∉ piece := by
    intro c hblank hforeign hmem
    have hmem : c ∈ property.name.toList := by
      rw [← htrim, String.toList_ofList]
      exact Text.mem_trim hmem hblank
    rw [hname] at hmem
    exact not_mem_propertyName hforeign kotlin property.key hmem
  obtain ⟨hline, -⟩ := (Text.cutAt_eq_some_iff (List.cons_ne_nil ':' [])).1 hpiece
  have hescaped : piece <+: (kotlinEscape back).toList :=
    Text.prefix_of_prefix_append_cons (hnot '"' (by decide) (by decide)) ⟨_, hline.symm⟩
  have hbackslash : '\\' ∉ piece := hnot '\\' (by decide) (by decide)
  have hback : piece <+: back.toList := Literal.prefix_of_prefix_escape
    (Literal.prefix_of_prefix_dollarsEscaped hescaped hbackslash) hbackslash
  exact ofList_trim_ne_propertyName hsplit hback (htrim.trans hname)

/-! ## All keys -/

/-- The line of a Kotlin parameter declares it unless its key holds the keyword. -/
theorem declared?_kotlinLine_iff (hname : property.name = kotlin.propertyName property.key)
    (declared : String) : kotlin.declared? (kotlinLine property declared) = some property.name
      ↔ ¬ kotlinKeyword <:+: property.key.toList := by
  constructor
  · intro hdeclared hkey
    exact declared?_kotlinLine_ne hname hkey declared hdeclared
  · intro hkey
    exact declared?_kotlinLine hname hkey declared

/-- The line of a Kotlin parameter is read as declaring its property, whatever follows it, exactly
when the property's key does not hold the keyword `val `. So it is when the line was edited behind
the name and tagged: then, and only then, it is a hand edit of its property. -/
theorem declared?_kotlinParameter_iff (key : String) (type : PropertyType) (isOptional : Bool) :
    let property : Property := ⟨key, kotlin.propertyName key, type, isOptional⟩
    (∀ rest, kotlin.declared? (kotlin.propertyText property ++ rest) = some property.name
      ↔ ¬ kotlinKeyword <:+: key.toList) ∧
    ∀ edited, let line := kotlinLine property (edited ++ " // " ++ handEditMark)
      HandEdit.ofLine? kotlin line = some ⟨line, property.name⟩
        ↔ ¬ kotlinKeyword <:+: key.toList := by
  intro property
  have hname : property.name = kotlin.propertyName property.key := rfl
  constructor
  · intro rest
    obtain ⟨declared, htext⟩ := exists_kotlinParameter_eq property
    have hline : kotlin.propertyText property ++ rest = kotlinLine property (declared ++ rest) := by
      show kotlinParameter property ++ rest = _
      rw [htext, kotlinLine]
      simp only [String.append_assoc]
    rw [hline]
    exact declared?_kotlinLine_iff hname (declared ++ rest)
  · intro edited line
    have htagged : HandEdit.isTagged kotlin line := by
      refine Text.contains_iff.2 (List.IsSuffix.isInfix ⟨(kotlinLead property ++ "val "
        ++ (property.name ++ ":" ++ edited ++ " ")).toList, ?_⟩)
      simp [line, kotlinLine, lineComment]
    rw [HandEdit.ofLine?_eq_some, and_iff_right htagged, and_iff_left rfl]
    exact declared?_kotlinLine_iff hname (edited ++ " // " ++ handEditMark)

/-- Where the key of a Kotlin parameter holds the keyword, its line does not declare it. -/
theorem declared?_propertyText_kotlin_ne {key : String} (hkey : kotlinKeyword <:+: key.toList)
    (type : PropertyType) (isOptional : Bool) :
    kotlin.declared? (kotlin.propertyText ⟨key, kotlin.propertyName key, type, isOptional⟩)
      ≠ some (kotlin.propertyName key) := by
  obtain ⟨declared, htext⟩ :=
    exists_kotlinParameter_eq ⟨key, kotlin.propertyName key, type, isOptional⟩
  show kotlin.declared? (kotlinParameter _) ≠ _
  rw [htext]
  exact declared?_kotlinLine_ne rfl hkey declared

/-- The line of the key `interval unit` is read as declaring `unit") val intervalUnit`. -/
theorem not_declared?_kotlinParameter :
    ¬ ∀ (key : String) (type : PropertyType) (isOptional : Bool),
      let property : Property := ⟨key, kotlin.propertyName key, type, isOptional⟩
      kotlin.declared? (kotlin.propertyText property) = some property.name := by
  intro hall
  have hkey : kotlinKeyword <:+: "interval unit".toList := by decide
  exact declared?_propertyText_kotlin_ne hkey .int false (hall "interval unit" .int false)

end Target

end PayloadModels
