import Mathlib
import PayloadModels.Proofs.Json.Written
import PayloadModels.Proofs.Samples.Loading
import PayloadModels.Proofs.Schema.Fields
import PayloadModels.Proofs.Schema.ModelIndex

/-!
# Walking a payload and loading it

A payload gets into a set in two ways. A value can be walked, which passes over what is no object.
A file is loaded, which refuses the whole payload for that, and its objects are observed one by one.
Where the file is accepted the two agree, whatever the set holds already and whatever is observed
next (`load_agrees_with_walk`). A refused file is told why (`objects_eq_error_iff`): an array that
is not empty is refused for its first item that is no object.
-/

namespace PayloadModels

open Json

namespace Payload

/-- A value that is a payload: an object, or an array of one object or more and nothing else. -/
def IsPayload (value : Json) : Prop :=
  (∃ members, value = .obj members) ∨
    ∃ items, value = .arr items ∧ items ≠ [] ∧ ∀ item ∈ items, ∃ members, item = .obj members

/-- Why a value is refused. An array with an item that is no object is refused for the first one,
which only objects stand before. -/
inductive Refused : Json → Fault → Prop where
  | empty : Refused (.arr []) .noObjects
  | item (front : List Members) {item : Json} (back : List Json) :
    (∀ members, item ≠ .obj members) →
      Refused (.arr (front.map .obj ++ item :: back)) (.itemNotObject front.length)
  | root {value : Json} : (∀ members, value ≠ .obj members) → (∀ items, value ≠ .arr items) →
    Refused value .rootNotObject

/-- Items come from objects when each of them is one. -/
theorem exists_map_obj_iff {items : List Json} :
    (∃ found : List Members, items = found.map .obj) ↔
      ∀ item ∈ items, ∃ members, item = .obj members := by
  induction items with
  | nil => exact ⟨fun _ => by simp, fun _ => ⟨[], rfl⟩⟩
  | cons item items ih =>
    rw [List.forall_mem_cons, ← ih]
    constructor
    · rintro ⟨found, hfound⟩
      cases found with
      | nil => cases hfound
      | cons members found =>
        cases hfound
        exact ⟨⟨members, rfl⟩, found, rfl⟩
    · rintro ⟨⟨members, rfl⟩, found, rfl⟩
      exact ⟨members :: found, rfl⟩

/-- The values that hold objects are the payloads. -/
theorem exists_holds_iff {value : Json} : (∃ found, Holds value found) ↔ IsPayload value := by
  constructor
  · rintro ⟨found, hholds⟩
    cases hholds with
    | object members => exact .inl ⟨members, rfl⟩
    | array hne =>
      exact .inr ⟨found.map .obj, rfl, by simpa using hne, exists_map_obj_iff.1 ⟨found, rfl⟩⟩
  · rintro (⟨members, rfl⟩ | ⟨items, rfl, hne, hobjects⟩)
    · exact ⟨[members], .object members⟩
    · obtain ⟨found, rfl⟩ := exists_map_obj_iff.2 hobjects
      exact ⟨found, .array (by simpa using hne)⟩

/-- The items of an array are refused for the first one that is no object. -/
theorem itemObjects_eq_error_iff {index : Nat} {items : List Json} {fault : Fault} :
    itemObjects index items = .error fault ↔
      ∃ (front : List Members) (item : Json) (back : List Json),
        items = front.map .obj ++ item :: back ∧ (∀ members, item ≠ .obj members) ∧
          fault = .itemNotObject (index + front.length) := by
  induction items generalizing index with
  | nil => simp [itemObjects]
  | cons item items ih =>
    constructor
    · intro h
      cases item with
      | obj members =>
        rw [itemObjects, map_eq_error_iff, ih] at h
        obtain ⟨front, other, back, rfl, hother, rfl⟩ := h
        refine ⟨members :: front, other, back, rfl, hother, ?_⟩
        rw [List.length_cons, Nat.add_right_comm, Nat.add_assoc]
      | _ =>
        cases h
        exact ⟨[], _, items, rfl, by simp, rfl⟩
    · rintro ⟨front, other, back, heq, hother, rfl⟩
      cases front with
      | nil =>
        cases heq
        cases item with
        | obj members => exact absurd rfl (hother members)
        | _ => rfl
      | cons members front =>
        cases heq
        rw [itemObjects, map_eq_error_iff, ih]
        refine ⟨front, other, back, rfl, hother, ?_⟩
        rw [List.length_cons, Nat.add_right_comm, Nat.add_assoc]

/-- A value is refused for the reason that it has. -/
theorem objects_eq_error_iff {value : Json} {fault : Fault} :
    objects value = .error fault ↔ Refused value fault := by
  constructor
  · intro h
    unfold objects at h
    split at h
    · cases h
    · cases h
      exact .empty
    · obtain ⟨front, item, back, rfl, hitem, rfl⟩ := itemObjects_eq_error_iff.1 h
      rw [Nat.zero_add]
      exact .item front back hitem
    · next hobj _ harr =>
      cases h
      exact .root hobj harr
  · intro h
    cases h with
    | empty => rfl
    | @item front item back hitem =>
      have hitems : itemObjects 0 (front.map .obj ++ item :: back)
          = .error (.itemNotObject (0 + front.length)) :=
        itemObjects_eq_error_iff.2 ⟨front, item, back, rfl, hitem, rfl⟩
      rw [Nat.zero_add] at hitems
      rw [← hitems]
      cases front <;> rfl
    | root hobj harr =>
      cases value with
      | obj members => exact absurd rfl (hobj members)
      | arr items => exact absurd rfl (harr items)
      | _ => rfl

section
variable {disk : Disk} {path : Path} {text : String} {value : Json}
  (hread : disk.read? path = some text) (hparse : Json.parse text = .ok value)
include hread hparse

/-- Loading a file that holds a value takes the objects of the value. -/
theorem load_eq : load disk path
    = (objects value).mapError fun fault => .payloadInvalid path.text fault.describe := by
  rw [load, hread]
  simp only [hparse]
  rfl

/-- A file is loaded as the objects that its value holds. -/
theorem load_eq_ok_iff_holds {found : List Members} :
    load disk path = .ok found ↔ Holds value found := by
  rw [load_eq hread hparse, mapError_eq_ok_iff, objects_eq_ok_iff]

/-- A file is refused for the reason that its value is. -/
theorem load_eq_error_iff {error : Error} : load disk path = .error error ↔
    ∃ fault, Refused value fault ∧ error = .payloadInvalid path.text fault.describe := by
  rw [load_eq hread hparse, mapError_eq_error_iff]
  exact exists_congr fun fault => and_congr objects_eq_error_iff eq_comm

end

end Payload

namespace ModelSet

/-- Walking an array that begins with an object observes the object and walks the rest. -/
theorem walk_arr_cons_obj (set : ModelSet) (name : String) (members : Members) (items : List Json) :
    set.walk name (.arr (.obj members :: items)) =
      let (next, added) := (set.observe name members).walk name (.arr items)
      (next, added + 1) := rfl

/-- Walking a payload observes its objects one by one and counts them. -/
theorem walk_of_holds {value : Json} {found : List Members} (h : Payload.Holds value found)
    (set : ModelSet) (name : String) :
    set.walk name value = (set.observeAll name found, found.length) := by
  cases h with
  | object members => rfl
  | array hne =>
    clear hne
    induction found generalizing set with
    | nil => rfl
    | cons members found ih =>
      rw [List.map_cons, walk_arr_cons_obj, ih]
      rfl

/-- A file that holds a value is loaded if and only if the value is a payload. Observing the loaded
objects then gives the set that walking the value gives, and walking counts them, before whatever
files come next. An array with an item that is no object is refused with the index of the first. -/
theorem load_agrees_with_walk {disk : Disk} {path : Path} {text : String} {value : Json}
    (hread : disk.read? path = some text) (hparse : Json.parse text = .ok value) :
    ((∃ found, Payload.load disk path = .ok found) ↔ Payload.IsPayload value) ∧
      (∀ found, Payload.load disk path = .ok found → ∀ (set : ModelSet) (name : String),
        set.walk name value = (set.observeAll name found, found.length) ∧
          ∀ files, set.observeFiles disk name (path :: files)
            = (set.walk name value).1.observeFiles disk name files) ∧
      ∀ items, value = .arr items → (∃ item ∈ items, ∀ members, item ≠ .obj members) →
        ∃ (front : List Members) (item : Json) (back : List Json),
          items = front.map .obj ++ item :: back ∧ (∀ members, item ≠ .obj members) ∧
            Payload.load disk path = .error (.payloadInvalid path.text
              ("element " ++ toString front.length ++ " is not an object")) := by
  refine ⟨?_, fun found hload set name => ?_, ?_⟩
  · rw [← Payload.exists_holds_iff]
    exact exists_congr fun found => Payload.load_eq_ok_iff_holds hread hparse
  · have hwalk := walk_of_holds ((Payload.load_eq_ok_iff_holds hread hparse).1 hload) set name
    refine ⟨hwalk, fun files => ?_⟩
    rw [observeFiles, hload, hwalk]
    rfl
  · rintro items rfl ⟨other, hother, hnone⟩
    cases hload : Payload.load disk path with
    | ok found =>
      have hpayload := Payload.exists_holds_iff.1
        ⟨found, (Payload.load_eq_ok_iff_holds hread hparse).1 hload⟩
      rcases hpayload with ⟨members, hobject⟩ | ⟨items, harray, -, hobjects⟩
      · cases hobject
      · cases harray
        obtain ⟨members, hobject⟩ := hobjects other hother
        exact absurd hobject (hnone members)
    | error error =>
      obtain ⟨fault, hrefused, rfl⟩ := (Payload.load_eq_error_iff hread hparse).1 hload
      cases hrefused with
      | empty => cases hother
      | item front back hitem => exact ⟨front, _, back, rfl, hitem, rfl⟩
      | root hobj harr => exact absurd rfl (harr items)

/-- The text of two reviews, of which the first has an author. -/
def reviewsText : String := "[\x7b\"stars\":4,\"by\":\x7b\"id\":7\x7d\x7d,\x7b\"stars\":null\x7d]"

/-- The value that the text of two reviews writes. -/
theorem parse_reviewsText : Json.parse reviewsText = .ok (.arr
    [.obj [("stars", .num (.int 4)), ("by", .obj [("id", .num (.int 7))])],
      .obj [("stars", .null)]]) := by
  have hstars : readValue (.build 2)
      ('4' :: ",\"by\":\x7b\"id\":7\x7d\x7d,\x7b\"stars\":null\x7d]".toList)
      = .ok (.num (.int 4), ",\"by\":\x7b\"id\":7\x7d\x7d,\x7b\"stars\":null\x7d]".toList) :=
    (readValue_cons_eq_readScalar rfl (by decide) (by decide)).trans (by cbv)
  have hid : readValue (.build 3) ('7' :: "\x7d\x7d,\x7b\"stars\":null\x7d]".toList)
      = .ok (.num (.int 7), "\x7d\x7d,\x7b\"stars\":null\x7d]".toList) :=
    (readValue_cons_eq_readScalar rfl (by decide) (by decide)).trans (by cbv)
  have hnull : readValue (.build 2) "null\x7d]".toList = .ok (.null, "\x7d]".toList) :=
    (readValue_cons_eq_readScalar rfl (by decide) (by decide)).trans (by cbv)
  have hby : readValue (.build 2) ('\x7b' :: "\"id\":7\x7d\x7d,\x7b\"stars\":null\x7d]".toList)
      = .ok (.obj [("id", .num (.int 7))], "\x7d,\x7b\"stars\":null\x7d]".toList) :=
    (readValue_object_iff rfl).2
      ⟨by decide, _, .members rfl (.last (by cbv) hid (by cbv)), rfl⟩
  have hfirst : readValue (.build 1)
      ('\x7b' :: "\"stars\":4,\"by\":\x7b\"id\":7\x7d\x7d,\x7b\"stars\":null\x7d]".toList)
      = .ok (.obj [("stars", .num (.int 4)), ("by", .obj [("id", .num (.int 7))])],
        ",\x7b\"stars\":null\x7d]".toList) :=
    (readValue_object_iff rfl).2 ⟨by decide, _,
      .members rfl (.more (by cbv) hstars (by cbv) (.last (by cbv) hby (by cbv))), rfl⟩
  have hsecond : readValue (.build 1) ('\x7b' :: "\"stars\":null\x7d]".toList)
      = .ok (.obj [("stars", .null)], "]".toList) :=
    (readValue_object_iff rfl).2
      ⟨by decide, _, .members rfl (.last (by cbv) hnull (by cbv)), rfl⟩
  exact readWhole?_eq_ok_iff.2 ⟨[], (readValue_list_iff rfl).2
    ⟨by decide, .inr ⟨_, .more hfirst (by cbv) (.last hsecond (by cbv)), rfl⟩⟩, rfl⟩

/-- The text of a null between two reviews. -/
def mixedText : String := "[\x7b\"stars\":4\x7d,null,\x7b\"stars\":5\x7d]"

/-- The value that the text with a null writes. -/
theorem parse_mixedText : Json.parse mixedText = .ok (.arr
    [.obj [("stars", .num (.int 4))], .null, .obj [("stars", .num (.int 5))]]) := by
  have hfour : readValue (.build 2) ('4' :: "\x7d,null,\x7b\"stars\":5\x7d]".toList)
      = .ok (.num (.int 4), "\x7d,null,\x7b\"stars\":5\x7d]".toList) :=
    (readValue_cons_eq_readScalar rfl (by decide) (by decide)).trans (by cbv)
  have hfive : readValue (.build 2) ('5' :: "\x7d]".toList)
      = .ok (.num (.int 5), "\x7d]".toList) :=
    (readValue_cons_eq_readScalar rfl (by decide) (by decide)).trans (by cbv)
  have hfirst : readValue (.build 1)
      ('\x7b' :: "\"stars\":4\x7d,null,\x7b\"stars\":5\x7d]".toList)
      = .ok (.obj [("stars", .num (.int 4))], ",null,\x7b\"stars\":5\x7d]".toList) :=
    (readValue_object_iff rfl).2
      ⟨by decide, _, .members rfl (.last (by cbv) hfour (by cbv)), rfl⟩
  have hnull : readValue (.build 1) ('n' :: "ull,\x7b\"stars\":5\x7d]".toList)
      = .ok (.null, ",\x7b\"stars\":5\x7d]".toList) :=
    (readValue_cons_eq_readScalar rfl (by decide) (by decide)).trans (by cbv)
  have hlast : readValue (.build 1) ('\x7b' :: "\"stars\":5\x7d]".toList)
      = .ok (.obj [("stars", .num (.int 5))], "]".toList) :=
    (readValue_object_iff rfl).2
      ⟨by decide, _, .members rfl (.last (by cbv) hfive (by cbv)), rfl⟩
  exact readWhole?_eq_ok_iff.2 ⟨[], (readValue_list_iff rfl).2 ⟨by decide,
    .inr ⟨_, .more hfirst (by cbv) (.more hnull (by cbv) (.last hlast (by cbv))), rfl⟩⟩, rfl⟩

/-- A disk with two reviews in one file, and with a null between two reviews in another. -/
def mixedDisk : Disk :=
  ((Disk.startingAt []).put ["many.json"] (.text reviewsText)).put ["mixed.json"]
    (.text mixedText)

/-- The reviews are loaded as they are walked: the set observes both, and the author inside the
first. The file with a null is refused for that item. -/
theorem load_agrees_with_walk_mixed :
    let reviews : List Json :=
      [.obj [("stars", .num (.int 4)), ("by", .obj [("id", .num (.int 7))])],
        .obj [("stars", .null)]]
    mixedDisk.read? ⟨"/many.json"⟩ = some reviewsText ∧
      Json.parse reviewsText = .ok (.arr reviews) ∧
      mixedDisk.read? ⟨"/mixed.json"⟩ = some mixedText ∧
      Json.parse mixedText = .ok (.arr
        [.obj [("stars", .num (.int 4))], .null, .obj [("stars", .num (.int 5))]]) ∧
      (∃ found, Payload.load mixedDisk ⟨"/many.json"⟩ = .ok found ∧
        (∀ set : ModelSet,
          set.walk "Review" (.arr reviews) = (set.observeAll "Review" found, found.length)) ∧
        ((∅ : ModelSet).observeAll "Review" found).get? "By"
          = some (ObservedModel.record ∅ [("id", .num (.int 7))]) ∧
        (((∅ : ModelSet).observeAll "Review" found).get? "Review").map (·.iterations) = some 2) ∧
      Payload.load mixedDisk ⟨"/mixed.json"⟩
        = .error (.payloadInvalid "/mixed.json" "element 1 is not an object") := by
  intro reviews
  have hmany : mixedDisk.read? ⟨"/many.json"⟩ = some reviewsText := by decide
  have hmixed : mixedDisk.read? ⟨"/mixed.json"⟩ = some mixedText := by decide
  refine ⟨hmany, parse_reviewsText, hmixed, parse_mixedText, ?_, ?_⟩
  · obtain ⟨haccepts, hagrees, -⟩ := load_agrees_with_walk hmany parse_reviewsText
    obtain ⟨found, hfound⟩ := haccepts.2 (.inr ⟨_, rfl, by simp, by simp⟩)
    have hwalk := fun set => (hagrees found hfound set "Review").1
    have hobserved : (∅ : ModelSet).observeAll "Review" found
        = ofSightings [.payload "Review" (.arr reviews)] := (congrArg Prod.fst (hwalk ∅)).symm
    have hby : objectsOf "By" [.payload "Review" (.arr reviews)] = [[("id", .num (.int 7))]] := by
      rfl
    have hreview : (objectsOf "Review" [.payload "Review" (.arr reviews)]).length = 2 := by rfl
    refine ⟨found, hfound, hwalk, ?_, ?_⟩
    · rw [hobserved, get?_ofSightings, hby]
      rfl
    · have hne := List.ne_nil_of_length_pos (hreview ▸ Nat.two_pos)
      rw [hobserved, get?_ofSightings, if_neg hne, Option.map_some,
        ObservedModel.iterations_foldl_record, hreview]
      rfl
  · obtain ⟨-, -, hrefuses⟩ := load_agrees_with_walk hmixed parse_mixedText
    obtain ⟨front, item, back, hitems, hitem, hload⟩ :=
      hrefuses _ rfl ⟨.null, by simp, by simp⟩
    have hone : toString 1 = "1" := by decide
    cases front with
    | nil =>
      cases hitems
      exact absurd rfl (hitem [("stars", .num (.int 4))])
    | cons first front =>
      have hrest := (List.cons.inj hitems).2
      cases front with
      | nil =>
        rw [List.length_singleton, hone] at hload
        exact hload
      | cons second front => cases hrest

end ModelSet

end PayloadModels
