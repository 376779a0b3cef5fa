import PayloadModels.Proofs.Disk.Paths
import Std.Data.TreeMap.Lemmas

/-!
# Writing into a directory

Parts of a path lead through directories to a location (`Disk.LeadsTo`); void pieces do not matter
to that (`leadsTo_iff_follow?`). When a path leads to a directory, a write to a name in it puts an
entry there and touches nothing else (`HasDirectoryAt.write_join`), the name can be looked up
afterwards (`HasDirectoryAt.find?_join`), and the path leads to the directory as before.
-/

namespace PayloadModels.Disk

open PayloadModels.Path

/-- Parts of a path lead from a directory through directories to another one. -/
inductive LeadsTo (disk : Disk) : Location → List Part → Location → Prop where
  | here {location : Location} :
    disk.hasDirectory location → LeadsTo disk location [] location
  | up {location target : Location} {parts : List Part} :
    disk.hasDirectory location → LeadsTo disk location.dropLast parts target →
      LeadsTo disk location (.up :: parts) target
  | name {location target : Location} {text : String} {parts : List Part} :
    disk.hasDirectory location → isName text → LeadsTo disk (location ++ [text]) parts target →
      LeadsTo disk location (.name text :: parts) target

section
variable {disk other : Disk} {location target : Location} {parts : List Part}
  {pieces : List String} {piece : String}

/-- Parts that lead through directories begin at one. -/
theorem LeadsTo.hasDirectory_start (h : disk.LeadsTo location parts target) :
    disk.hasDirectory location := by
  cases h <;> assumption

/-- More directories do not lead a path astray. -/
theorem LeadsTo.mono (h : disk.LeadsTo location parts target)
    (hmono : ∀ location, disk.hasDirectory location → other.hasDirectory location) :
    other.LeadsTo location parts target := by
  induction h with
  | here hdirectory => exact .here (hmono _ hdirectory)
  | up hdirectory _ ih => exact .up (hmono _ hdirectory) ih
  | name hdirectory hname _ ih => exact .name (hmono _ hdirectory) hname ih

/-- In the middle of a path, a piece is a step up or a name. -/
theorem ofPiece?_eq_some {part : Part} (h : Part.ofPiece? piece = some part) :
    part = .up ∨ part = .name piece := by
  unfold Part.ofPiece? at h
  split at h
  · cases h
  · cases h
  · cases h
    exact .inl rfl
  · cases h
    exact .inr rfl

/-- Pieces are followed to a directory when the parts that they stand for lead there. -/
theorem leadsTo_iff_follow? :
    disk.LeadsTo location (pieces.filterMap Part.ofPiece?) target
      ↔ disk.follow? location pieces = some target ∧ disk.hasDirectory target := by
  induction pieces generalizing location with
  | nil =>
    rw [List.filterMap_nil, follow?, Option.some.injEq]
    constructor
    · intro h
      cases h with
      | here hdirectory => exact ⟨rfl, hdirectory⟩
    · rintro ⟨rfl, hdirectory⟩
      exact .here hdirectory
  | cons piece pieces ih =>
    rw [follow?]
    by_cases hdirectory : disk.hasDirectory location
    · rw [if_pos hdirectory]
      cases hpart : Part.ofPiece? piece with
      | none =>
        rw [List.filterMap_cons_none hpart, ih]
        simp [step?, hpart]
      | some part =>
        rw [List.filterMap_cons_some hpart]
        rcases ofPiece?_eq_some hpart with rfl | rfl
        · simp only [step?, hpart, Option.bind_some, ← ih]
          refine ⟨fun h => ?_, .up hdirectory⟩
          cases h with
          | up _ h => exact h
        · by_cases hname : isName piece
          · simp only [step?, hpart, hname, if_true, Option.bind_some, ← ih]
            refine ⟨fun h => ?_, .name hdirectory hname⟩
            cases h with
            | name _ _ h => exact h
          · simp only [step?, hpart, hname]
            refine ⟨fun h => ?_, by simp⟩
            cases h with
            | name _ h _ => exact absurd h hname
    · rw [if_neg hdirectory]
      exact ⟨fun h => absurd h.hasDirectory_start hdirectory, by simp⟩

/-- Pieces are followed one after another. -/
theorem follow?_append (disk : Disk) (location : Location) (front back : List String) :
    disk.follow? location (front ++ back)
      = (disk.follow? location front).bind (disk.follow? · back) := by
  induction front generalizing location with
  | nil => rfl
  | cons piece front ih =>
    rw [List.cons_append, follow?, follow?]
    split
    · rw [Option.bind_assoc]
      exact Option.bind_congr fun next _ => ih next
    · rfl

/-- No directory has to be made on a way that leads through directories. -/
theorem LeadsTo.makeWay (h : disk.LeadsTo location (pieces.filterMap Part.ofPiece?) target) :
    disk.makeWay location pieces = (disk, some target) := by
  induction pieces generalizing location with
  | nil =>
    obtain ⟨hfollow, hdirectory⟩ := leadsTo_iff_follow?.1 h
    cases hfollow
    rw [Disk.makeWay, if_pos hdirectory]
  | cons piece pieces ih =>
    obtain ⟨hfollow, hdirectory⟩ := leadsTo_iff_follow?.1 h
    have hstart := h.hasDirectory_start
    rw [follow?, if_pos hstart, Option.bind_eq_some_iff] at hfollow
    obtain ⟨next, hnext, hfollow⟩ := hfollow
    have hrest := leadsTo_iff_follow?.2 ⟨hfollow, hdirectory⟩
    have hthere : disk.entry? next = some .directory := by
      simpa [hasDirectory] using hrest.hasDirectory_start
    rw [Disk.makeWay, if_pos hstart, hnext]
    simp only [hthere, Option.isNone_some, Bool.false_eq_true, if_false]
    exact ih hrest

end

/-! ## Entries -/

section
variable {disk : Disk} {location target : Location} {entry : Entry}

/-- The root is a directory, as paths see it. -/
theorem hasDirectory_nil (disk : Disk) : disk.hasDirectory [] := by
  simp [hasDirectory, entry?]

/-- What is no directory is not the root. -/
theorem ne_nil_of_not_hasDirectory (h : disk.hasDirectory target = false) : target ≠ [] := by
  rintro rfl
  rw [hasDirectory_nil] at h
  cases h

/-- The root is a directory. -/
theorem entry?_nil (disk : Disk) : disk.entry? [] = some .directory := rfl

/-- Below the root, what is at a location is what is listed there. -/
theorem entry?_of_ne_nil (h : location ≠ []) : disk.entry? location = disk.entries[location]? :=
  if_neg h

/-- An entry is seen where it was put, and nowhere else. -/
theorem entry?_put (h : target ≠ []) :
    entry? (disk.put target entry) location
      = if location = target then some entry else disk.entry? location := by
  simp only [put, entry?]
  split
  · next hnil => rw [if_neg (hnil ▸ h.symm)]
  · rw [Std.TreeMap.getElem?_insert]
    by_cases heq : location = target
    · simp [heq]
    · have hcompare : compare target location ≠ .eq := fun hcompare =>
        heq (Std.LawfulEqOrd.eq_of_compare hcompare).symm
      rw [if_neg heq, if_neg hcompare]

/-- A file that stands where no directory is leaves all directories where they are. -/
theorem hasDirectory_put_text {text : String} (h : disk.hasDirectory target = false) :
    (disk.put target (.text text)).hasDirectory location = disk.hasDirectory location := by
  rw [hasDirectory, entry?_put (ne_nil_of_not_hasDirectory h)]
  split
  · next heq => simp [heq, h]
  · rfl

end

/-! ## Names in a directory -/

/-- A path leads to a directory. The empty path leads to the one that relative paths begin at. -/
def HasDirectoryAt (disk : Disk) (path : Path) (location : Location) : Prop :=
  disk.LeadsTo (disk.start path) path.named location

namespace HasDirectoryAt

variable {disk : Disk} {directory : Path} {location target : Location} {name text : String}

/-- A text that is put where no directory is leaves the ways to directories as they are. -/
theorem put_text (h : disk.HasDirectoryAt directory location)
    (hfree : disk.hasDirectory target = false) :
    (disk.put target (.text text)).HasDirectoryAt directory location :=
  LeadsTo.mono h fun _ hdirectory => by rwa [hasDirectory_put_text hfree]

/-- The path along a name leads to the name in the directory. -/
theorem locate?_join (h : disk.HasDirectoryAt directory location) (hname : IsPlainName name) :
    disk.locate? (directory.join ⟨name⟩)
      = if isName name then some (location ++ [name]) else none := by
  obtain ⟨front, hjoin, hfront⟩ := exists_pieces_join_eq_append directory hname
  have hstart : disk.start (directory.join ⟨name⟩) = disk.start directory := by
    rw [start, start, isAbsolute_join directory hname.not_mem]
  rw [HasDirectoryAt, ← hfront, leadsTo_iff_follow?] at h
  rw [locate?, isEmpty_text_of_pieces hjoin hname, hstart, hjoin, follow?_append, h.1]
  simp [follow?, h.2, step?, hname.ofPiece?]

/-- What a name finds in a directory is what is there under it, if a file may have the name. -/
theorem find?_join (h : disk.HasDirectoryAt directory location) (hname : IsPlainName name) :
    disk.find? (directory.join ⟨name⟩)
      = if isName name then disk.entry? (location ++ [name]) else none := by
  rw [find?, locate?_join h hname]
  split <;> rfl

/-- A write to a name puts the entry there, unless the name is too long for a file or is that of a
directory. -/
theorem write_join (h : disk.HasDirectoryAt directory location) (hname : IsPlainName name)
    (entry : Entry) : disk.write (directory.join ⟨name⟩) entry
      = if isName name ∧ disk.hasDirectory (location ++ [name]) = false then
          (disk.put (location ++ [name]) entry, true)
        else (disk, false) := by
  obtain ⟨front, hjoin, hfront⟩ := exists_pieces_join_eq_append directory hname
  obtain ⟨habsolute, hnamed⟩ := named_directoryOf_join directory hname
  have hway : disk.makeDirectory (directoryOf (directory.join ⟨name⟩)) = (disk, some location) := by
    rw [makeDirectory, start, habsolute]
    refine LeadsTo.makeWay ?_
    rw [← named, hnamed]
    exact h
  have hlast : lastName? (directory.join ⟨name⟩) = if isName name then some name else none := by
    simp [lastName?, hjoin, hname.ofPiece?]
  unfold write
  rw [hway, hlast]
  by_cases hshort : isName name
  · cases hfree : disk.hasDirectory (location ++ [name]) <;> simp [hshort, hfree]
  · simp [hshort]

end HasDirectoryAt

end PayloadModels.Disk
