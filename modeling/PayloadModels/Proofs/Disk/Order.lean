import PayloadModels.Proofs.Disk.Writing
import PayloadModels.Proofs.Repetitions

/-!
# Paths in order and once each

Paths are told apart by their parts, and the order of paths is the order of their parts, which is
total (`Path.Part` has `Std.TransOrd` and `Std.LawfulEqOrd`). So a list of paths that was sorted,
and in which the repetitions were left out, depends on nothing but the parts of the paths in it
(`Path.map_parts_distinct_congr`). When paths with the same parts lead somewhere, they lead to the
same place (`Disk.locate?_eq_some`), and what one of them reads, so does the other
(`Disk.read?_eq_some_of_same`).
-/

namespace PayloadModels

open Std

namespace Path

/-! ## The order of parts -/

namespace Part

/-- The place of a part among the kinds of parts. -/
def rank : Part → Nat
  | root => 0
  | here => 1
  | up => 2
  | name _ => 3

/-- The text of a name; a part that is no name has an empty one. -/
def label : Part → String
  | name text => text
  | _ => ""

/-- Parts are compared by their kinds first, and names by their texts. -/
theorem compare_eq :
    (compare : Part → Part → Ordering) = compareLex (compareOn rank) (compareOn label) := by
  funext part other
  cases part with
  | name text =>
    cases other with
    | name other =>
      show (compare text other).then .eq = (compare 3 3).then (compare text other)
      cases compare text other <;> rfl
    | _ => rfl
  | _ => cases other <;> rfl

instance : TransOrd Part := by
  rw [TransOrd, compare_eq]
  infer_instance

instance : LawfulEqOrd Part where
  compare_self {part} := by
    rw [compare_eq]
    exact ReflCmp.compare_self
  eq_of_compare {part other} h := by
    rw [compare_eq, compareLex, Ordering.then_eq_eq] at h
    obtain ⟨hrank, hlabel⟩ := h
    have hrank : part.rank = other.rank := LawfulEqOrd.eq_of_compare hrank
    have hlabel : part.label = other.label := LawfulEqOrd.eq_of_compare hlabel
    cases part with
    | name text =>
      cases other with
      | name other => exact congrArg name hlabel
      | _ => cases hrank
    | _ => cases other <;> first | rfl | cases hrank

end Part

/-! ## Paths once each -/

/-- The paths in order, one for each list of parts. -/
def distinct (paths : List Path) : List Path := (sort paths).eraseRepsBy same

variable {paths others : List Path} {path : Path}

/-- Paths are the same when their parts are equal. -/
theorem same_eq_beq (path other : Path) : path.same other = (path.parts == other.parts) := by
  rw [same, Bool.eq_iff_iff, decide_eq_true_iff, beq_iff_eq]

/-- Dropping the same paths side by side drops equal lists of parts. -/
theorem map_parts_eraseRepsBy (paths : List Path) :
    (paths.eraseRepsBy same).map parts = (paths.map parts).eraseReps := by
  have hloop : ∀ (path : Path) (paths acc : List Path),
      (List.eraseRepsBy.loop same path paths acc).map parts
        = List.eraseRepsBy.loop (· == ·) path.parts (paths.map parts) (acc.map parts) := by
    intro path paths
    induction paths generalizing path with
    | nil => simp [List.eraseRepsBy.loop]
    | cons next paths ih =>
      intro acc
      rw [List.map_cons, List.eraseRepsBy.loop, List.eraseRepsBy.loop, same_eq_beq]
      cases path.parts == next.parts
      · exact ih next (path :: acc)
      · exact ih path acc
  cases paths with
  | nil => rfl
  | cons path paths => exact hloop path paths []

/-- Dropping the same paths brings no path in. -/
theorem eraseRepsBy_subset (paths : List Path) : paths.eraseRepsBy same ⊆ paths := by
  have hloop : ∀ (path : Path) (paths acc : List Path),
      List.eraseRepsBy.loop same path paths acc ⊆ acc ++ path :: paths := by
    intro path paths
    induction paths generalizing path with
    | nil => simp [List.eraseRepsBy.loop]
    | cons next paths ih =>
      intro acc
      rw [List.eraseRepsBy.loop]
      split
      · refine List.Subset.trans (ih path acc) fun found hfound => ?_
        simp only [List.mem_append, List.mem_cons] at hfound ⊢
        tauto
      · refine List.Subset.trans (ih next (path :: acc)) fun found hfound => ?_
        simp only [List.mem_append, List.mem_cons] at hfound ⊢
        tauto
  cases paths with
  | nil => exact List.Subset.refl []
  | cons path paths => exact hloop path paths []

/-- Only paths that were listed are kept. -/
theorem mem_of_mem_distinct (h : path ∈ distinct paths) : path ∈ paths :=
  List.mem_mergeSort.1 (eraseRepsBy_subset _ h)

/-- The parts of the paths that are kept are those of all the paths. -/
theorem mem_map_parts_distinct {parts : List Part} :
    parts ∈ (distinct paths).map Path.parts ↔ parts ∈ paths.map Path.parts := by
  rw [distinct, map_parts_eraseRepsBy, mem_eraseReps, sort]
  simp [List.mem_mergeSort]

/-- The parts of the paths that are kept are in strict order. -/
theorem pairwise_map_parts_distinct (paths : List Path) :
    ((distinct paths).map parts).Pairwise (fun parts other => (compare parts other).isLE) ∧
      ((distinct paths).map parts).Nodup := by
  rw [distinct, map_parts_eraseRepsBy]
  refine nodup_eraseReps (fun a b hab hba => ?_) ?_
  · exact LawfulEqOrd.eq_of_compare (OrientedCmp.isLE_antisymm hab hba)
  · rw [List.pairwise_map]
    refine List.pairwise_mergeSort (fun a b c => TransCmp.isLE_trans) (fun a b => ?_) paths
    have hswap : compare a.parts b.parts = (compare b.parts a.parts).swap := OrientedCmp.eq_swap
    show ((compare a.parts b.parts).isLE || (compare b.parts a.parts).isLE) = true
    rw [hswap]
    cases compare b.parts a.parts <;> rfl

/-- No two of the paths that are kept are the same. -/
theorem pairwise_distinct (paths : List Path) :
    (distinct paths).Pairwise fun path other => ¬ path.same other := by
  have hnodup := (pairwise_map_parts_distinct paths).2
  rw [List.Nodup, List.pairwise_map] at hnodup
  exact hnodup.imp fun hne => by simpa [same] using hne

/-- Which paths are kept, up to how they are spelled, is told by the parts of the paths alone. -/
theorem map_parts_distinct_congr
    (h : ∀ parts, parts ∈ paths.map Path.parts ↔ parts ∈ others.map Path.parts) :
    (distinct paths).map parts = (distinct others).map parts := by
  obtain ⟨hpaths, hnodup⟩ := pairwise_map_parts_distinct paths
  obtain ⟨hothers, hnodup'⟩ := pairwise_map_parts_distinct others
  have hperm : ((distinct paths).map parts).Perm ((distinct others).map parts) := by
    rw [List.perm_ext_iff_of_nodup hnodup hnodup']
    intro found
    rw [mem_map_parts_distinct, mem_map_parts_distinct, h]
  refine List.Perm.eq_of_pairwise (fun a b _ _ hab hba => ?_) hpaths hothers hperm
  exact LawfulEqOrd.eq_of_compare (OrientedCmp.isLE_antisymm hab hba)

end Path

/-! ## Where paths lead -/

namespace Disk

open PayloadModels.Path

variable {disk : Disk} {location target : Location} {path other : Path}

/-- Where a part leads from a location when everything on the way is there. -/
def along (disk : Disk) (location : Location) : Part → Location
  | .root => []
  | .here => disk.here
  | .up => location.dropLast
  | .name text => location ++ [text]

/-- Where pieces lead is told by the parts that they are. -/
theorem follow?_eq_some {pieces : List String} (h : disk.follow? location pieces = some target) :
    target = (pieces.filterMap Part.ofPiece?).foldl disk.along location := by
  induction pieces generalizing location with
  | nil =>
    cases h
    rfl
  | cons piece pieces ih =>
    rw [follow?] at h
    split at h
    · obtain ⟨next, hnext, hrest⟩ := Option.bind_eq_some_iff.1 h
      rw [ih hrest]
      cases hpart : Part.ofPiece? piece with
      | none =>
        rw [List.filterMap_cons_none hpart]
        simp only [step?, hpart, Option.some.injEq] at hnext
        rw [hnext]
      | some part =>
        rw [List.filterMap_cons_some hpart, List.foldl_cons]
        rcases ofPiece?_eq_some hpart with rfl | rfl
        · simp only [step?, hpart, Option.some.injEq] at hnext
          rw [along, hnext]
        · simp only [step?, hpart, Option.ite_none_right_eq_some, Option.some.injEq] at hnext
          rw [along, hnext.2]
    · cases h

/-- A path that leads somewhere leads where its parts do. -/
theorem locate?_eq_some (h : disk.locate? path = some target) :
    target = path.parts.foldl disk.along disk.here := by
  rw [locate?] at h
  split at h
  · cases h
  · rw [follow?_eq_some h, parts, List.foldl_append, start, start?]
    split
    · rfl
    · split <;> rfl

/-- A path that reads a text leads somewhere. -/
theorem exists_locate?_of_read? {text : String} (h : disk.read? path = some text) :
    ∃ location, disk.locate? path = some location := by
  rw [read?] at h
  split at h
  · next found hfound =>
    obtain ⟨location, hlocation, -⟩ := Option.bind_eq_some_iff.1 hfound
    exact ⟨location, hlocation⟩
  · cases h

/-- Paths with the same parts lead to the same, where both lead anywhere. -/
theorem find?_eq_of_same (hsame : path.same other) (h : disk.locate? path = some location)
    (h' : disk.locate? other = some target) : disk.find? path = disk.find? other := by
  have hparts : path.parts = other.parts := by simpa [same] using hsame
  have hlocation : location = target := by
    rw [locate?_eq_some h, locate?_eq_some h', hparts]
  rw [find?, find?, h, h', hlocation]

/-- A text is read by every path with the same parts that leads anywhere. -/
theorem read?_eq_some_of_same (hsame : path.same other) {text : String}
    (h : disk.read? path = some text) (h' : disk.locate? other = some target) :
    disk.read? other = some text := by
  obtain ⟨location, hlocation⟩ := exists_locate?_of_read? h
  rwa [read?, ← find?_eq_of_same hsame hlocation h', ← read?]

end Disk

end PayloadModels
