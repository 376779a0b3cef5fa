import PayloadModels.Json.Reader
import PayloadModels.Proofs.Json.Objects

/-!
# Objects with distinct keys

Members are kept in a list, which could hold a key twice; an object never does. `DistinctKeys` says
so of a value and of everything inside it. It holds of every value that a text writes
(`distinctKeys_of_parse`), since the reader puts a repeated key in the place of the first.
-/

namespace PayloadModels.Json

/-- No object of the value has a key twice. -/
inductive DistinctKeys : Json → Prop where
  | null : DistinctKeys .null
  | bool (value : Bool) : DistinctKeys (.bool value)
  | num (value : Number) : DistinctKeys (.num value)
  | str (value : String) : DistinctKeys (.str value)
  | arr {items : List Json} : (∀ item ∈ items, DistinctKeys item) → DistinctKeys (.arr items)
  | obj {members : Members} : (members.map (·.1)).Nodup →
      (∀ member ∈ members, DistinctKeys member.2) → DistinctKeys (.obj members)

attribute [simp] DistinctKeys.null DistinctKeys.bool DistinctKeys.num DistinctKeys.str

@[simp] theorem distinctKeys_arr_iff {items : List Json} :
    (Json.arr items).DistinctKeys ↔ ∀ item ∈ items, item.DistinctKeys := by
  refine ⟨fun h => ?_, .arr⟩
  cases h with
  | arr hitems => exact hitems

/-- An object has distinct keys when its own are and those of its values are. -/
@[simp] theorem distinctKeys_obj_iff {members : Members} :
    (Json.obj members).DistinctKeys
      ↔ (members.map (·.1)).Nodup ∧ ∀ member ∈ members, member.2.DistinctKeys := by
  refine ⟨fun h => ?_, fun h => .obj h.1 h.2⟩
  cases h with
  | obj hnodup hmembers => exact ⟨hnodup, hmembers⟩

/-- The empty object has distinct keys. -/
theorem distinctKeys_obj_nil : (Json.obj []).DistinctKeys := .obj .nil (List.forall_mem_nil _)

/-- Every object of a value whose keys are distinct has distinct keys. -/
theorem DistinctKeys.nodup {value : Json} {node : ObjectNode} (h : value.DistinctKeys)
    (hnode : node ∈ value.objects) : (node.members.map (·.1)).Nodup := by
  induction h generalizing node with
  | null | bool | num | str => cases hnode
  | arr _ ih =>
    obtain ⟨i, item, hitem, inner, hinner, rfl⟩ := mem_objectsOfItems.1 hnode
    have hinner := ih item (List.mem_of_getElem? hitem) hinner
    exact hinner
  | obj hnodup _ ih =>
    rcases List.mem_cons.1 hnode with rfl | hnode
    · exact hnodup
    · obtain ⟨member, hmember, inner, hinner, rfl⟩ := mem_objectsOfMembers.1 hnode
      have hinner := ih member hmember hinner
      exact hinner

/-! ## Reading -/

/-- Setting a key brings in no other member. -/
theorem mem_set {key : String} {value : Json} {member : String × Json} {members : Members}
    (h : member ∈ members.set key value) : member = (key, value) ∨ member ∈ members := by
  induction members with
  | nil => simpa [Members.set] using h
  | cons head members ih =>
    rw [Members.set] at h
    split at h
    · next heq =>
      rcases List.mem_cons.1 h with rfl | h
      · rw [heq]; exact .inl rfl
      · exact .inr (List.mem_cons_of_mem _ h)
    · rcases List.mem_cons.1 h with rfl | h
      · exact .inr (by simp)
      · exact (ih h).imp_right (List.mem_cons_of_mem _)

/-- Setting a key leaves the keys as they are, or adds the key at the end. -/
theorem keys_set (key : String) (value : Json) (members : Members) :
    (members.set key value).map (·.1) = if key ∈ members.map (·.1) then members.map (·.1)
      else members.map (·.1) ++ [key] := by
  induction members with
  | nil => rfl
  | cons head members ih =>
    rw [Members.set]
    split
    · next heq => simp [heq]
    · next heq =>
      rw [List.map_cons, ih]
      by_cases hmem : key ∈ members.map (·.1) <;> simp_all [Ne.symm heq]

/-- Setting a key keeps keys distinct. -/
theorem nodup_keys_set {key : String} {value : Json} {members : Members}
    (h : (members.map (·.1)).Nodup) : ((members.set key value).map (·.1)).Nodup := by
  rw [keys_set]
  split
  · exact h
  · next hnew =>
    rw [List.nodup_append]
    refine ⟨h, List.pairwise_singleton _ key, fun a ha b hb => ?_⟩
    rw [List.mem_singleton.1 hb]
    exact ne_of_mem_of_not_mem ha hnew

/-- Setting a key of an object to a value keeps keys distinct. -/
theorem DistinctKeys.set {key : String} {value : Json} {members : Members}
    (hvalue : value.DistinctKeys) (h : (Json.obj members).DistinctKeys) :
    (Json.obj (members.set key value)).DistinctKeys := by
  cases h with
  | obj hnodup hmembers =>
    refine .obj (nodup_keys_set hnodup) fun member hmember => ?_
    rcases mem_set hmember with rfl | hmember
    · exact hvalue
    · exact hmembers member hmember

/-- A scalar has no members. -/
theorem distinctKeys_of_readScalar {mode : Mode} {cs rest : List Char} {value : Json}
    (h : readScalar mode cs = .ok (value, rest)) : value.DistinctKeys := by
  unfold readScalar at h
  split at h
  · cases h
  · obtain ⟨_, -, h⟩ := exists_of_bind_eq_ok h; cases h; exact .null
  · obtain ⟨_, -, h⟩ := exists_of_bind_eq_ok h; cases h; exact .bool true
  · obtain ⟨_, -, h⟩ := exists_of_bind_eq_ok h; cases h; exact .bool false
  · obtain ⟨⟨s, _⟩, -, h⟩ := exists_of_bind_eq_ok h; cases h; exact .str _
  · obtain ⟨⟨n, _⟩, -, h⟩ := exists_of_bind_eq_ok h; cases h; exact .num n
  · split at h
    · obtain ⟨⟨n, _⟩, -, h⟩ := exists_of_bind_eq_ok h; cases h; exact .num n
    · cases h

/-- What an open container holds so far has distinct keys. -/
def Frame.DistinctKeys : Frame → Prop
  | .list items => ∀ item ∈ items, item.DistinctKeys
  | .object members _ => (Json.obj members).DistinctKeys

/-- A value that waits for its place has distinct keys. -/
def Task.DistinctKeys : Task → Prop
  | .value => True
  | .place placed => placed.DistinctKeys

/-- Every step of reading keeps the keys of all that has been read distinct. -/
theorem distinctKeys_of_readFrom {mode : Mode} {frames : List Frame} {task : Task}
    {cs rest : List Char} {value : Json} (hframes : ∀ frame ∈ frames, frame.DistinctKeys)
    (htask : task.DistinctKeys) (h : readFrom mode frames task cs = .ok (value, rest)) :
    value.DistinctKeys := by
  fun_induction readFrom mode frames task cs
  case case2 ih => exact ih hframes (DistinctKeys.arr (List.forall_mem_nil _)) h
  case case4 ih =>
    exact ih (List.forall_mem_cons.2 ⟨List.forall_mem_nil _, hframes⟩) trivial h
  case case6 ih => exact ih hframes distinctKeys_obj_nil h
  case case9 ih => exact ih (List.forall_mem_cons.2 ⟨distinctKeys_obj_nil, hframes⟩) trivial h
  case case11 hscalar _ _ ih => exact ih hframes (distinctKeys_of_readScalar hscalar) h
  case case12 => cases h; exact htask
  case case14 ih =>
    obtain ⟨hitems, houter⟩ := List.forall_mem_cons.1 hframes
    exact ih (List.forall_mem_cons.2 ⟨List.forall_mem_cons.2 ⟨htask, hitems⟩, houter⟩) trivial h
  case case15 ih =>
    obtain ⟨hitems, houter⟩ := List.forall_mem_cons.1 hframes
    refine ih houter (DistinctKeys.arr fun item hitem => ?_) h
    rcases List.mem_cons.1 (List.mem_reverse.1 hitem) with rfl | hitem
    · exact htask
    · exact hitems item hitem
  case case20 ih =>
    obtain ⟨hmembers, houter⟩ := List.forall_mem_cons.1 hframes
    exact ih (List.forall_mem_cons.2 ⟨DistinctKeys.set htask hmembers, houter⟩) trivial h
  case case21 ih =>
    obtain ⟨hmembers, houter⟩ := List.forall_mem_cons.1 hframes
    exact ih houter (DistinctKeys.set htask hmembers) h
  all_goals cases h

/-- A text that is read as a whole is read. -/
theorem exists_of_readWhole?_eq_ok {α : Type} {read : List Char → Except Stop (α × List Char)}
    {text : String} {result : α} (h : readWhole? read text = .ok result) :
    ∃ rest, read text.toList = .ok (result, rest) := by
  unfold readWhole? at h
  cases hread : read text.toList with
  | error stop => rw [hread] at h; cases h
  | ok outcome =>
    obtain ⟨found, rest⟩ := outcome
    simp only [hread, bind, Except.bind] at h
    split at h
    · cases h; exact ⟨rest, rfl⟩
    · cases h

/-- Every value that a text writes has distinct keys. -/
theorem distinctKeys_of_parse {text : String} {value : Json} (h : parse text = .ok value) :
    value.DistinctKeys := by
  obtain ⟨rest, hread⟩ := exists_of_readWhole?_eq_ok h
  have hframes : ∀ frame ∈ ([] : List Frame), frame.DistinctKeys := by simp
  have htask : Task.value.DistinctKeys := trivial
  exact distinctKeys_of_readFrom hframes htask hread

end PayloadModels.Json
