import Mathlib.Data.List.Nodup
import Mathlib.Data.Prod.Lex
import Mathlib.Data.String.Basic
import PayloadModels.Proofs.Generation.HandEdits
import PayloadModels.Proofs.Repetitions
import PayloadModels.Proofs.Target.PropertyNames

/-!
# The order of properties

A file does not tell in which order its properties were given, as long as their names are different
(`Target.render_eq_of_perm`): what a target writes of all of them together is sorted, by an order
that tells any two of them apart (`mergeSort_eq_of_perm`), or depends on whether there is one of
some kind.
-/

namespace PayloadModels

namespace Target

variable {target : Target} {model : String} {properties others : List Property}

/-- Pairs of a sort key and a text are compared first by the one and then by the other. -/
theorem textOrder_iff (a b : String × String) : textOrder a b = true ↔ toLex a ≤ toLex b := by
  rw [Prod.Lex.toLex_le_toLex]
  simp [textOrder]

/-- The texts of properties are sorted by all that they are sorted with. -/
theorem body_eq_of_perm (h : properties.Perm others) (edits : List HandEdit) :
    target.body properties edits = target.body others edits := by
  rw [body, body,
    mergeSort_eq_of_perm toLex textOrder_iff (fun a _ b _ hkey => toLex_inj.1 hkey) (h.map _)]

/-- The mentioned models do not depend on the order of the properties. -/
theorem mentionedModels_eq_of_perm (h : properties.Perm others) :
    mentionedModels model properties = mentionedModels model others := by
  have hnames := (h.filterMap fun property => property.type.modelName?).filter (· ≠ model)
  rw [mentionedModels, mentionedModels,
    mergeSort_eq_of_perm id (by simp) (fun a _ b _ hkey => hkey) hnames]

/-- The imports do not depend on the order of the properties. -/
theorem imports_eq_of_perm (h : properties.Perm others) (imprint : Imprint) :
    target.imports model properties imprint = target.imports model others imprint := by
  have hmentioned : mentionedModels model properties = mentionedModels model others :=
    mentionedModels_eq_of_perm h
  cases target with
  | swift => rfl
  | kotlin => rw [imports, imports, kotlinImports, kotlinImports, h.any_eq]
  | objcSource | objcHeader | rust => rw [imports, imports, hmentioned]

/-- The cases of a mapping are sorted by the names of properties, which are different. -/
theorem keyMapping_eq_of_perm (hnames : (properties.map (·.name)).Nodup)
    (h : properties.Perm others) : target.keyMapping properties = target.keyMapping others := by
  cases target with
  | swift =>
    have hsorted : properties.mergeSort (fun a b => decide (a.name ≤ b.name))
        = others.mergeSort fun a b => decide (a.name ≤ b.name) :=
      mergeSort_eq_of_perm Property.name (by simp)
        (fun _ ha _ hb => List.inj_on_of_nodup_map hnames ha hb) h
    rw [keyMapping, keyMapping, h.any_eq, hsorted]
  | _ => rfl

/-- Properties of different names are rendered the same in whichever order they are given. -/
theorem render_eq_of_perm (target : Target) (model : String) (edits : List HandEdit)
    (imprint : Imprint) (hnames : (properties.map (·.name)).Nodup) (h : properties.Perm others) :
    target.render model properties edits imprint = target.render model others edits imprint := by
  have hothers : (others.map (·.name)).Nodup := (h.map Property.name).nodup_iff.1 hnames
  rw [render, render, distinctNames_eq_self hnames, distinctNames_eq_self hothers]
  rw [imports_eq_of_perm h, body_eq_of_perm h, keyMapping_eq_of_perm hnames h]

/-- Two properties that mention models and one that is renamed and edited, in two orders. -/
theorem render_eq_of_perm_product :
    let price : Property := ⟨"price", "price", .object "Price", false⟩
    let images : Property := ⟨"images", "images", .array (.object "Images"), true⟩
    let number : Property := ⟨"item_number", "itemNumber", .string, false⟩
    let edits : List HandEdit :=
      [⟨"    let itemNumber: ItemNumber // modelsync:custom", "itemNumber"⟩]
    let imprint : Imprint := ⟨"Shop", some "Ada", none, none, ⟨2018, 1, 4⟩⟩
    ([price, images, number].map (·.name)).Nodup ∧
      [price, images, number].Perm [number, price, images] ∧
      swift.render "Product" [price, images, number] edits imprint
        = swift.render "Product" [number, price, images] edits imprint := by
  intro price images number edits imprint
  have hnames : ([price, images, number].map (·.name)).Nodup := by decide
  have hperm : [price, images, number].Perm [number, price, images] := by decide
  exact ⟨hnames, hperm, render_eq_of_perm swift "Product" edits imprint hnames hperm⟩

end Target

/-!
## Where a property stands in its file

The texts of a file's properties are those of an arrangement of the properties, which is sorted by
all that decides where a text stands (`Target.body_eq_map_arranged`). Types and hand edits are a
part of that, but they never get to decide anything: in every target but the Objective-C header,
the names of two properties do (`Target.rank_le_of_sortKey_le`), so that the keys of a file stand in
an order of their own (`Target.map_key_arranged`). No change of types, optionality or hand edits
moves a property (`Target.arranged_keys_eq`).
-/

open Naming

/-- Of two texts that end where a character stands first, the lower one stays below the other,
whatever follows. -/
theorem append_cons_lt_append_cons {c : Char} {xs ys : List Char} (hx : c ∉ xs) (hy : c ∉ ys)
    (h : xs ++ [c] < ys ++ [c]) (s t : List Char) : xs ++ c :: s < ys ++ c :: t := by
  induction xs generalizing ys with
  | nil =>
    cases ys with
    | nil => exact absurd h (List.lt_irrefl [c])
    | cons y ys =>
      rcases List.cons_lt_cons_iff.1 h with hlt | ⟨rfl, -⟩
      · exact List.cons_lt_cons_iff.2 (.inl hlt)
      · exact absurd List.mem_cons_self hy
  | cons x xs ih =>
    cases ys with
    | nil =>
      rcases List.cons_lt_cons_iff.1 h with hlt | ⟨rfl, -⟩
      · exact List.cons_lt_cons_iff.2 (.inl hlt)
      · exact absurd List.mem_cons_self hx
    | cons y ys =>
      rcases List.cons_lt_cons_iff.1 h with hlt | ⟨rfl, hrest⟩
      · exact List.cons_lt_cons_iff.2 (.inl hlt)
      · have hx : c ∉ xs := List.not_mem_of_not_mem_cons hx
        have hy : c ∉ ys := List.not_mem_of_not_mem_cons hy
        exact List.cons_lt_cons_iff.2 (.inr ⟨rfl, ih hx hy hrest⟩)

namespace Target

variable {target : Target} {properties others : List Property} {edits : List HandEdit}

/-- The properties in the order in which their texts are written. -/
def arranged (target : Target) (properties : List Property) (edits : List HandEdit) :
    List Property :=
  properties.mergeSort fun a b => textOrder (target.sortKey a, target.keptText edits a)
    (target.sortKey b, target.keptText edits b)

/-- Arranging properties loses none and adds none. -/
theorem arranged_perm (target : Target) (properties : List Property) (edits : List HandEdit) :
    (target.arranged properties edits).Perm properties := List.mergeSort_perm _ _

/-- The texts of a file's properties are those of the arranged properties, one by one. -/
theorem body_eq_map_arranged (target : Target) (properties : List Property)
    (edits : List HandEdit) : target.body properties edits
      = (target.arranged properties edits).map (target.keptText edits) := by
  have hpairs : (target.arranged properties edits).map
        (fun p => (target.sortKey p, target.keptText edits p))
      = (properties.map fun p => (target.sortKey p, target.keptText edits p)).mergeSort textOrder :=
    List.map_mergeSort fun _ _ _ _ => rfl
  rw [body, ← hpairs, List.map_map]
  rfl

/-- What decides where the property of a name stands. In Swift, where whole declarations are
compared, that is the name with the colon behind it: `id2` stands before `id`. -/
def rank (target : Target) (name : String) : String :=
  match target with
  | swift => name ++ ":"
  | kotlin | rust => bareName name
  | objcSource | objcHeader => name

/-- The order in which keys stand in a file. -/
def keyOrder (target : Target) (keys : List String) : List String :=
  keys.mergeSort fun a b =>
    target.rank (target.propertyName a) ≤ target.rank (target.propertyName b)

/-- Properties with one rank have one name. -/
theorem propertyName_eq_of_rank_eq {a b : String}
    (h : target.rank (target.propertyName a) = target.rank (target.propertyName b)) :
    target.propertyName a = target.propertyName b := by
  cases target with
  | swift => exact (String.append_left_inj ":").1 h
  | kotlin =>
    have hbare : lowerCamel a = lowerCamel b := by
      have hname : ∀ key, kotlin.rank (kotlin.propertyName key) = lowerCamel key := fun key =>
        bareName_backquoted kotlinReserved (isNameText_lowerCamel key)
      rwa [hname, hname] at h
    rw [propertyName, propertyName, hbare]
  | rust =>
    have hbare : bareName (rust.propertyName a) = bareName (rust.propertyName b) := h
    rw [eq_bareName_rust a, eq_bareName_rust b, hbare]
  | objcSource | objcHeader => exact h

/-- Of two sort keys, that of the property with the lower rank is the lower one, whatever the types
of the properties are. -/
theorem rank_le_of_sortKey_le (htarget : target ≠ .objcHeader) {a b : Property}
    (ha : a.name = target.propertyName a.key) (hb : b.name = target.propertyName b.key)
    (h : target.sortKey a ≤ target.sortKey b) : target.rank a.name ≤ target.rank b.name := by
  cases target with
  | swift =>
    have hcolon : ∀ key, ':' ∉ (swift.propertyName key).toList :=
      not_mem_propertyName (by decide) swift
    have htext : ∀ property : Property, ∃ rest : List Char, (swift.sortKey property).toList
        = "    let ".toList ++ (property.name.toList ++ ':' :: rest) := by
      intro property
      refine ⟨(" " ++ swiftType property.type
        ++ if property.isOptional then "?" else "").toList, ?_⟩
      simp [sortKey, propertyText]
    obtain ⟨s, hs⟩ := htext a
    obtain ⟨t, ht⟩ := htext b
    refine le_of_not_gt fun hlt => absurd h (not_le.2 ?_)
    have hchars : ∀ name, (swift.rank name).toList = name.toList ++ [':'] := fun name =>
      String.toList_append
    rw [String.lt_iff_toList_lt, hchars, hchars] at hlt
    rw [String.lt_iff_toList_lt, hs, ht]
    exact List.append_left_lt
      (append_cons_lt_append_cons (hb ▸ hcolon b.key) (ha ▸ hcolon a.key) hlt t s)
  | kotlin | rust | objcSource => exact h
  | objcHeader => exact absurd rfl htarget

/-- Arranged properties are sorted by their sort keys. -/
theorem pairwise_sortKey_arranged (target : Target) (properties : List Property)
    (edits : List HandEdit) :
    (target.arranged properties edits).Pairwise fun a b => target.sortKey a ≤ target.sortKey b := by
  have hsorted := pairwise_mergeSort_of_key
    (fun p => toLex (target.sortKey p, target.keptText edits p)) (fun _ _ => textOrder_iff _ _)
    properties
  exact hsorted.imp (Prod.Lex.monotone_fst _ _)

/-- The keys of a file stand in an order of their own, which their names tell. -/
theorem map_key_arranged (htarget : target ≠ .objcHeader)
    (hnamed : ∀ property ∈ properties, property.name = target.propertyName property.key)
    (hnames : (properties.map (·.name)).Nodup) (edits : List HandEdit) :
    (target.arranged properties edits).map (·.key) = target.keyOrder (properties.map (·.key)) := by
  have hperm := target.arranged_perm properties edits
  have hkeys : (target.keyOrder (properties.map (·.key))).Perm (properties.map (·.key)) :=
    List.mergeSort_perm _ _
  have harranged : ((target.arranged properties edits).map (·.key)).Pairwise fun a b =>
      target.rank (target.propertyName a) ≤ target.rank (target.propertyName b) := by
    rw [List.pairwise_map]
    refine (target.pairwise_sortKey_arranged properties edits).imp_of_mem fun {a b} ha hb hle => ?_
    have ha := hnamed a (hperm.mem_iff.1 ha)
    have hb := hnamed b (hperm.mem_iff.1 hb)
    rw [← ha, ← hb]
    exact rank_le_of_sortKey_le htarget ha hb hle
  have hordered : (target.keyOrder (properties.map (·.key))).Pairwise fun a b =>
      target.rank (target.propertyName a) ≤ target.rank (target.propertyName b) :=
    pairwise_mergeSort_of_key (fun key => target.rank (target.propertyName key)) (by simp) _
  refine ((hperm.map _).trans hkeys.symm).eq_of_pairwise (fun a b ha hb hab hba => ?_)
    harranged hordered
  -- Two keys of one rank have one name, and so they are the key of one property.
  obtain ⟨p, hp, rfl⟩ := List.mem_map.1 ((hperm.map _).mem_iff.1 ha)
  obtain ⟨q, hq, rfl⟩ := List.mem_map.1 (hkeys.mem_iff.1 hb)
  have hname : p.name = q.name := by
    rw [hnamed p hp, hnamed q hq]
    exact propertyName_eq_of_rank_eq (le_antisymm hab hba)
  rw [List.inj_on_of_nodup_map hnames hp hq hname]

/-- Keys that are given in another order stand in the same order when their names differ. -/
theorem keyOrder_eq_of_perm {keys others : List String}
    (hnames : (keys.map target.propertyName).Nodup) (h : keys.Perm others) :
    target.keyOrder keys = target.keyOrder others :=
  mergeSort_eq_of_perm (fun key => target.rank (target.propertyName key)) (by simp)
    (fun _ ha _ hb hrank =>
      List.inj_on_of_nodup_map hnames ha hb (propertyName_eq_of_rank_eq hrank)) h

/-- The names of properties that are named by their keys are known from the keys. -/
theorem map_name_eq
    (hnamed : ∀ property ∈ properties, property.name = target.propertyName property.key) :
    properties.map (·.name) = (properties.map (·.key)).map target.propertyName := by
  rw [List.map_map]
  exact List.map_congr_left hnamed

/-- A file is what is above its properties, the texts of the arranged properties, and what is below.
-/
theorem fileOf_eq_arranged {edition : Edition} (hnames : (edition.properties.map (·.name)).Nodup)
    (edits : List HandEdit) : target.fileOf edition edits = Text.unlines (target.above edition
      ++ (target.arranged edition.properties edits).map (target.keptText edits)
      ++ target.below edition) := by
  rw [fileOf_eq, distinctNames_eq_self hnames, body_eq_map_arranged]

/-- Two editions whose properties have the same keys, under different names, have them in the same
order in their files, whatever the types of the properties are, which of them are optional, and
which were edited by hand. -/
theorem arranged_keys_eq (htarget : target ≠ .objcHeader) {edition other : Edition}
    (hnamed : ∀ property ∈ edition.properties ++ other.properties,
      property.name = target.propertyName property.key)
    (hnames : (edition.properties.map (·.name)).Nodup)
    (hkeys : (edition.properties.map (·.key)).Perm (other.properties.map (·.key)))
    (edits otherEdits : List HandEdit) :
    let first := target.arranged edition.properties edits
    let second := target.arranged other.properties otherEdits
    (first.Perm edition.properties ∧ target.fileOf edition edits = Text.unlines
      (target.above edition ++ first.map (target.keptText edits) ++ target.below edition)) ∧
    (second.Perm other.properties ∧ target.fileOf other otherEdits = Text.unlines
      (target.above other ++ second.map (target.keptText otherEdits) ++ target.below other)) ∧
    first.map (·.key) = second.map (·.key) ∧ first.map (·.name) = second.map (·.name) := by
  intro first second
  obtain ⟨hedition, hother⟩ := List.forall_mem_append.1 hnamed
  have hdistinct : ((edition.properties.map (·.key)).map target.propertyName).Nodup :=
    map_name_eq hedition ▸ hnames
  have hotherNames : (other.properties.map (·.name)).Nodup := by
    rw [map_name_eq hother]
    exact (hkeys.map _).nodup_iff.1 hdistinct
  have horder : first.map (·.key) = second.map (·.key) := by
    rw [map_key_arranged htarget hedition hnames, map_key_arranged htarget hother hotherNames]
    exact keyOrder_eq_of_perm hdistinct hkeys
  have hfirst : first.Perm edition.properties := arranged_perm _ _ _
  have hsecond : second.Perm other.properties := arranged_perm _ _ _
  refine ⟨⟨hfirst, fileOf_eq_arranged hnames edits⟩,
    ⟨hsecond, fileOf_eq_arranged hotherNames otherEdits⟩, horder, ?_⟩
  rw [map_name_eq fun property hproperty => hedition property (hfirst.mem_iff.1 hproperty),
    map_name_eq fun property hproperty => hother property (hsecond.mem_iff.1 hproperty), horder]

/-- An identifier beside longer names and a reserved word, whose types have changed, in a file of
which one line was edited. -/
theorem arranged_keys_eq_order :
    let property := fun key type isOptional =>
      (⟨key, swift.propertyName key, type, isOptional⟩ : Property)
    let imprint : Imprint := ⟨"Shop", none, none, none, ⟨2018, 1, 4⟩⟩
    let edition : Edition := ⟨"Order", [property "id" .int false, property "id2" .bool true,
      property "idle" .string false, property "in" (.array .double) true], imprint⟩
    let other : Edition := ⟨"Order", [property "in" .unknown true, property "idle" .double true,
      property "id2" (.object "Code") false, property "id" .string true], imprint⟩
    let edits : List HandEdit := [⟨"    let idle: Idle // modelsync:custom", "idle"⟩]
    (∀ property ∈ edition.properties ++ other.properties,
      property.name = swift.propertyName property.key) ∧
    (edition.properties.map (·.name)).Nodup ∧
    (edition.properties.map (·.key)).Perm (other.properties.map (·.key)) ∧
    (swift.arranged edition.properties []).map (·.key)
      = (swift.arranged other.properties edits).map (·.key) ∧
    (swift.arranged edition.properties []).map (·.name)
      = (swift.arranged other.properties edits).map (·.name) := by
  intro property imprint edition other edits
  have hnamed : ∀ property ∈ edition.properties ++ other.properties,
      property.name = swift.propertyName property.key := by
    simp [edition, other, property]
  have hnames : (edition.properties.map (·.name)).Nodup := by decide
  have hkeys : (edition.properties.map (·.key)).Perm (other.properties.map (·.key)) := by decide
  obtain ⟨-, -, hsame⟩ := arranged_keys_eq (by decide) hnamed hnames hkeys [] edits
  exact ⟨hnamed, hnames, hkeys, hsame⟩

end Target

end PayloadModels
