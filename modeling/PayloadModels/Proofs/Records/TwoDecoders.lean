import Mathlib
import PayloadModels.Proofs.Records.Reading

/-!
# Two decoders of one record

A record is decoded from text as it is from the object that the text writes
(`decodeText_iff_decode`), where the key of no field is written twice. An object keeps the last
value of a repeated key, so the two see the same members only up to those of no field
(`known_setAll`); and a text that repeats the key of a field is refused, while its object is not
(`not_decodeText_iff_decode`).
-/

namespace PayloadModels.MatrixOptions

open Json

variable {cs rest tail : List Char} {key : String} {members written : Members} {draft : Draft}
  {options : MatrixOptions}

/-! ## Repeated fields -/

/-- The fields whose keys are written. -/
def writtenFields (written : Members) : List Field :=
  written.filterMap fun member => Field.ofKey? member.1

/-- The first member adds the field of its key, if there is one. -/
theorem writtenFields_cons (key : String) (json : Json) (written : Members) :
    writtenFields ((key, json) :: written)
      = (Field.ofKey? key).toList ++ writtenFields written := by
  rw [writtenFields, List.filterMap_cons]
  cases Field.ofKey? key <;> rfl

/-- A record is read from members none of which writes a field that was written before. -/
theorem foldlM_draft_iff : (∃ last, written.foldlM Draft.decodeMember draft = .ok last ∧
      last.options = options) ↔
    ((writtenFields written).Nodup ∧ ∀ field ∈ writtenFields written, field ∉ draft.seen) ∧
      written.foldlM decodeMember draft.options = .ok options := by
  induction written generalizing draft with
  | nil => simp [writtenFields, pure, Except.pure]
  | cons member written ih =>
    obtain ⟨key, json⟩ := member
    rw [List.foldlM_cons, List.foldlM_cons, Draft.decodeMember, decodeMember, writtenFields_cons]
    dsimp only
    cases Field.ofKey? key with
    | none => exact ih
    | some field =>
      dsimp only
      by_cases hseen : field ∈ draft.seen
      · rw [if_pos hseen]
        constructor
        · rintro ⟨_, h, -⟩
          cases h
        · rintro ⟨⟨-, hnew⟩, -⟩
          exact absurd hseen (hnew field List.mem_cons_self)
      · rw [if_neg hseen]
        cases field.kind.decodeField json with
        | error cause =>
          constructor
          · rintro ⟨_, h, -⟩
            cases h
          · rintro ⟨-, h⟩
            cases h
        | ok value =>
          refine ih.trans (and_congr_left' ?_)
          simp only [Option.toList_some, List.singleton_append, List.nodup_cons, List.mem_cons]
          grind

/-- The members whose keys are those of fields. -/
def known (members : Members) : Members :=
  members.filter fun member => (Field.ofKey? member.1).isSome

/-- Members of no field do not change what is decoded. -/
theorem foldlM_known (members : Members) (start : MatrixOptions) :
    (known members).foldlM decodeMember start = members.foldlM decodeMember start := by
  induction members generalizing start with
  | nil => rfl
  | cons member members ih =>
    rw [known, List.filter_cons]
    split
    · rw [List.foldlM_cons, List.foldlM_cons]
      exact congrArg _ (funext ih)
    · next hunknown =>
      have hnone : Field.ofKey? member.1 = none := by simpa using hunknown
      rw [List.foldlM_cons, decodeMember, hnone]
      exact ih start

/-- Leaving out the members of no field leaves the written fields. -/
theorem writtenFields_known (members : Members) :
    writtenFields (known members) = writtenFields members := by
  rw [writtenFields, writtenFields, known, List.filterMap_filter]
  refine List.filterMap_congr fun member _ => ?_
  cases Field.ofKey? member.1 <;> rfl

/-- A member of no field changes no known member. -/
theorem known_set (h : Field.ofKey? key = none) (json : Json) (members : Members) :
    known (members.set key json) = known members := by
  induction members with
  | nil => simp [Members.set, known, h]
  | cons member members ih =>
    obtain ⟨other, value⟩ := member
    rw [Members.set]
    split
    · next heq =>
      subst heq
      simp [known, h]
    · rw [known, List.filter_cons, known, List.filter_cons]
      exact ite_congr rfl (fun _ => congrArg _ ih) fun _ => ih

/-- Where no field is written twice, putting members together keeps the known ones. -/
theorem known_setAll (hnodup : (writtenFields written).Nodup)
    (hnew : ∀ field ∈ writtenFields written, field ∉ writtenFields members) :
    known (members.setAll written) = known members ++ known written := by
  induction written generalizing members with
  | nil => exact (List.append_nil _).symm
  | cons member written ih =>
    obtain ⟨key, json⟩ := member
    show known (Members.setAll (members.set key json) written) = _
    rw [writtenFields_cons] at hnodup hnew
    cases hfield : Field.ofKey? key with
    | none =>
      rw [hfield] at hnodup hnew
      have hsame : writtenFields (members.set key json) = writtenFields members := by
        rw [← writtenFields_known, known_set hfield, writtenFields_known]
      rw [ih hnodup (hsame ▸ hnew), known_set hfield]
      simp [known, hfield]
    | some field =>
      rw [hfield] at hnodup hnew
      obtain ⟨hfirst, hrest⟩ := List.nodup_cons.1 hnodup
      have habsent : key ∉ members.map (·.1) := by
        intro hkey
        obtain ⟨⟨_, value⟩, hmember, rfl⟩ := List.mem_map.1 hkey
        exact hnew field List.mem_cons_self (List.mem_filterMap.2 ⟨_, hmember, hfield⟩)
      have hothers : ∀ other ∈ writtenFields written,
          other ∉ writtenFields (members ++ [(key, json)]) := by
        intro other hother
        have hbefore := hnew other (List.mem_cons_of_mem _ hother)
        simp only [writtenFields, List.filterMap_append, List.mem_append, not_or]
        refine ⟨hbefore, ?_⟩
        rintro hlast
        obtain rfl : other = field := by simpa [hfield, eq_comm] using hlast
        exact hfirst hother
      rw [Members.set_of_not_mem habsent, ih hrest hothers]
      simp [known, hfield]

/-! ## Two decoders -/

/-- A record is read from an object where no field is written twice and each member is decoded. -/
theorem read_eq_ok_iff (h : ReadsObject 0 cs written rest) :
    read cs = .ok (options, tail) ↔ ((writtenFields written).Nodup ∧
      written.foldlM decodeMember default = .ok options) ∧ rest = tail := by
  cases h with
  | empty hopen hclose =>
    rw [read, hopen]
    simp only [readObject, hclose]
    simp [writtenFields, pure, Except.pure]
  | members hopen hmembers =>
    rw [read, hopen]
    simp only [readObject]
    split
    · next hclose => exact absurd hclose hmembers.ne_objectEnd
    · next hclose => exact absurd hclose hmembers.ne_nil
    · rw [Draft.readMembersFrom_eq_ok_iff hmembers, foldlM_draft_iff]
      simp [Draft.empty]

/-- Where no field is written twice, the object that is written is decoded as its members are, one
after another. -/
theorem ofMembers_ofWritten (hnodup : (writtenFields written).Nodup) :
    ofMembers (Members.ofWritten written) = written.foldlM decodeMember default := by
  have hknown : known (Members.ofWritten written) = known written :=
    known_setAll hnodup fun field _ => List.not_mem_nil
  rw [ofMembers, ← foldlM_known, hknown, foldlM_known]

/-- A text is decoded as its members are, one by one, if it repeats no field. -/
theorem decodeText_eq_ok_iff {text : String} (h : WritesObject text written) :
    decodeText text = .ok options ↔ (writtenFields written).Nodup ∧
      written.foldlM decodeMember default = .ok options := by
  obtain ⟨rest, hreads, hend⟩ := h
  rw [decodeText, mapError_eq_ok_iff, MatrixOptions.parse, readWhole?_eq_ok_iff]
  simp only [read_eq_ok_iff hreads]
  constructor
  · rintro ⟨_, ⟨hdecoded, rfl⟩, -⟩
    exact hdecoded
  · intro hdecoded
    exact ⟨rest, ⟨hdecoded, rfl⟩, hend⟩

/-- A text that is an object is decoded where the object is, and to the same record, save when the
key of a field is written more than once: then the text is refused. -/
theorem decodeText_iff_decode (text : String) (members : Members)
    (h : Json.parse text = .ok (.obj members)) :
    (∃ written, WritesObject text written) ∧
      ∀ written, WritesObject text written → members = Members.ofWritten written ∧
        ∀ options, decodeText text = .ok options ↔
          (writtenFields written).Nodup ∧ decode members = .ok options := by
  obtain ⟨written, hwritten, -⟩ := parse_eq_ok_obj_iff.1 h
  refine ⟨⟨written, hwritten⟩, fun written hwritten => ?_⟩
  have hmembers : members = Members.ofWritten written := by
    have hparse := parse_eq_ok_obj_iff.2 ⟨written, hwritten, rfl⟩
    rw [h] at hparse
    exact Json.obj.inj (Except.ok.inj hparse)
  refine ⟨hmembers, fun options => ?_⟩
  rw [decodeText_eq_ok_iff hwritten, decode, mapError_eq_ok_iff, hmembers]
  refine and_congr_right fun hnodup => ?_
  rw [ofMembers_ofWritten hnodup]

/-- The text of an object with a key of a field, and a key of no field that is written twice. -/
def repeatedColor : String := "\x7b\"productId\":7,\"color\":1,\"color\":2\x7d"

/-- The members that the text with a repeated key of no field writes. -/
theorem writesObject_repeatedColor : WritesObject repeatedColor
    [("productId", .num (.int 7)), ("color", .num (.int 1)), ("color", .num (.int 2))] := by
  have hid : Json.readValue (.build 1) ('7' :: ",\"color\":1,\"color\":2\x7d".toList)
      = .ok (.num (.int 7), ",\"color\":1,\"color\":2\x7d".toList) :=
    (readValue_cons_eq_readScalar rfl (by decide) (by decide)).trans (by cbv)
  have hcolor : Json.readValue (.build 1) ('1' :: ",\"color\":2\x7d".toList)
      = .ok (.num (.int 1), ",\"color\":2\x7d".toList) :=
    (readValue_cons_eq_readScalar rfl (by decide) (by decide)).trans (by cbv)
  have hagain : Json.readValue (.build 1) ('2' :: "\x7d".toList)
      = .ok (.num (.int 2), "\x7d".toList) :=
    (readValue_cons_eq_readScalar rfl (by decide) (by decide)).trans (by cbv)
  refine ⟨[], .members (by cbv) ?_, by cbv⟩
  exact .more (by cbv) hid (by cbv)
    (.more (by cbv) hcolor (by cbv) (.last (by cbv) hagain (by cbv)))

/-- A key of no field may repeat: the text is decoded as its object is. -/
theorem decodeText_iff_decode_repeatedColor :
    Json.parse repeatedColor
        = .ok (.obj [("productId", .num (.int 7)), ("color", .num (.int 2))]) ∧
      decodeText repeatedColor = .ok (default.set .productId (7 : Int64)) := by
  have hwritten := writesObject_repeatedColor
  have hparse : Json.parse repeatedColor
      = .ok (.obj [("productId", .num (.int 7)), ("color", .num (.int 2))]) :=
    parse_eq_ok_obj_iff.2 ⟨_, hwritten, rfl⟩
  obtain ⟨-, hiff⟩ := decodeText_iff_decode repeatedColor _ hparse
  exact ⟨hparse, ((hiff _ hwritten).2 _).2 ⟨by decide, rfl⟩⟩

/-- The text of an object with a key of a field that is written twice. -/
def repeatedProductId : String := "\x7b\"productId\":1,\"productId\":2\x7d"

/-- The members that the text with a repeated key of a field writes. -/
theorem writesObject_repeatedProductId : WritesObject repeatedProductId
    [("productId", .num (.int 1)), ("productId", .num (.int 2))] := by
  have hfirst : Json.readValue (.build 1) ('1' :: ",\"productId\":2\x7d".toList)
      = .ok (.num (.int 1), ",\"productId\":2\x7d".toList) :=
    (readValue_cons_eq_readScalar rfl (by decide) (by decide)).trans (by cbv)
  have hsecond : Json.readValue (.build 1) ('2' :: "\x7d".toList)
      = .ok (.num (.int 2), "\x7d".toList) :=
    (readValue_cons_eq_readScalar rfl (by decide) (by decide)).trans (by cbv)
  exact ⟨[], .members (by cbv) (.more (by cbv) hfirst (by cbv) (.last (by cbv) hsecond (by cbv))),
    by cbv⟩

/-- A text that repeats the key of a field is refused where its object is decoded. -/
theorem not_decodeText_iff_decode : ¬ ∀ (text : String) (members : Members),
    Json.parse text = .ok (.obj members) →
      ∀ options, decodeText text = .ok options ↔ decode members = .ok options := by
  intro h
  have hwritten := writesObject_repeatedProductId
  have hparse : Json.parse repeatedProductId = .ok (.obj [("productId", .num (.int 2))]) :=
    parse_eq_ok_obj_iff.2 ⟨_, hwritten, rfl⟩
  have hdecode : decode [("productId", .num (.int 2))]
      = .ok (default.set .productId (2 : Int64)) := rfl
  have htext := (h _ _ hparse _).2 hdecode
  obtain ⟨hnodup, -⟩ := (decodeText_eq_ok_iff hwritten).1 htext
  exact absurd hnodup (by decide)

end PayloadModels.MatrixOptions
