import PayloadModels.Proofs.Disk.Writing

/-!
# Trees of files

A disk is a tree (`Disk.IsTree`) when what it holds lies in directories, under names that paths can
lead to. A write makes the directories on its way and nothing else (`makeWay_spec`), and then it is
a write into a directory that is there (`write_join_of_makeDirectory`). A file that is removed takes
no directory away, so every path leads where it led (`locate?_erase`). Both leave a tree
(`IsTree.write`, `IsTree.erase`).
-/

namespace PayloadModels.Disk

open PayloadModels.Path

/-! ## More directories -/

/-- A disk with everything that another one has, and maybe more directories. -/
structure AddsDirectories (disk larger : Disk) : Prop where
  here_eq : larger.here = disk.here
  entry?_eq : ∀ location, larger.entry? location = disk.entry? location ∨
    disk.entry? location = none ∧ larger.entry? location = some .directory

/-- A directory that is put where nothing was is one more. -/
theorem addsDirectories_put {disk : Disk} {target : Location} (h : disk.entry? target = none) :
    disk.AddsDirectories (disk.put target .directory) := by
  have hne : target ≠ [] := by
    rintro rfl
    rw [entry?_nil] at h
    cases h
  refine ⟨rfl, fun location => ?_⟩
  rw [entry?_put hne]
  split
  · next heq => exact .inr ⟨heq ▸ h, rfl⟩
  · exact .inl rfl

namespace AddsDirectories

variable {disk larger largest : Disk} {location : Location} {entry : Entry}

/-- A disk has all that it has. -/
theorem refl (disk : Disk) : disk.AddsDirectories disk := ⟨rfl, fun _ => .inl rfl⟩

/-- Adding directories twice is adding directories. -/
theorem trans (h : disk.AddsDirectories larger) (h' : larger.AddsDirectories largest) :
    disk.AddsDirectories largest := by
  refine ⟨h'.here_eq.trans h.here_eq, fun location => ?_⟩
  rcases h'.entry?_eq location with heq | ⟨hnone, hdirectory⟩
  · rw [heq]
    exact h.entry?_eq location
  · rcases h.entry?_eq location with heq | ⟨-, hthere⟩
    · exact .inr ⟨heq ▸ hnone, hdirectory⟩
    · rw [hthere] at hnone
      cases hnone

/-- A directory stays one. -/
theorem hasDirectory (h : disk.AddsDirectories larger) (hdirectory : disk.hasDirectory location) :
    larger.hasDirectory location := by
  rcases h.entry?_eq location with heq | ⟨-, hthere⟩
  · rwa [Disk.hasDirectory, heq]
  · simp [Disk.hasDirectory, hthere]

/-- The files are the same. -/
theorem entry?_eq_some_iff (h : disk.AddsDirectories larger) (hfile : entry.isFile) :
    larger.entry? location = some entry ↔ disk.entry? location = some entry := by
  rcases h.entry?_eq location with heq | ⟨hnone, hthere⟩
  · rw [heq]
  · rw [hnone, hthere]
    refine iff_of_false ?_ (by simp)
    rintro ⟨⟩
    cases hfile

/-- Paths begin where they did. -/
theorem start_eq (h : disk.AddsDirectories larger) (path : Path) :
    larger.start path = disk.start path := by
  rw [start, start, h.here_eq]

end AddsDirectories

/-! ## Making the way -/

section
variable {disk after : Disk} {location next target : Location} {piece : String}
  {pieces others : List String}

/-- A step to a directory goes before the parts that lead on from there. -/
theorem LeadsTo.cons_piece (hdirectory : disk.hasDirectory location)
    (hnext : step? location piece = some next)
    (h : disk.LeadsTo next (pieces.filterMap Part.ofPiece?) target) :
    disk.LeadsTo location ((piece :: pieces).filterMap Part.ofPiece?) target := by
  rw [leadsTo_iff_follow?] at h ⊢
  rw [follow?, if_pos hdirectory, hnext]
  exact h

/-- The way is there once it was made, and nothing has changed but for directories. -/
theorem makeWay_spec (h : disk.makeWay location pieces = (after, some target)) :
    disk.AddsDirectories after ∧
      after.LeadsTo location (pieces.filterMap Part.ofPiece?) target := by
  induction pieces generalizing disk location with
  | nil =>
    rw [makeWay] at h
    split at h
    · next hdirectory =>
      cases h
      exact ⟨.refl _, .here hdirectory⟩
    · cases h
  | cons piece pieces ih =>
    rw [makeWay] at h
    split at h
    · next hdirectory =>
      split at h
      · cases h
      · next next hnext =>
        split at h
        · next hnone =>
          obtain ⟨hafter, hleads⟩ := ih h
          have hafter := (addsDirectories_put (Option.isNone_iff_eq_none.1 hnone)).trans hafter
          exact ⟨hafter, .cons_piece (hafter.hasDirectory hdirectory) hnext hleads⟩
        · obtain ⟨hafter, hleads⟩ := ih h
          exact ⟨hafter, .cons_piece (hafter.hasDirectory hdirectory) hnext hleads⟩
    · cases h

/-- No way is made from where no directory is. -/
theorem makeWay_of_not_hasDirectory (h : ¬ disk.hasDirectory location) :
    disk.makeWay location pieces = (disk, none) := by
  cases pieces <;> rw [makeWay, if_neg h]

/-- A void piece does not matter. -/
theorem makeWay_cons_void (hvoid : isVoid piece) :
    disk.makeWay location (piece :: pieces) = disk.makeWay location pieces := by
  by_cases hdirectory : disk.hasDirectory location
  · have hentry : disk.entry? location = some .directory := by
      simpa [hasDirectory] using hdirectory
    simp [makeWay, hdirectory, step?, isVoid_iff.1 hvoid, hentry]
  · rw [makeWay_of_not_hasDirectory hdirectory, makeWay_of_not_hasDirectory hdirectory]

/-- Pieces that lead nowhere make no difference to the way. -/
theorem makeWay_filter (disk : Disk) (location : Location) (pieces : List String) :
    disk.makeWay location (pieces.filter (!isVoid ·)) = disk.makeWay location pieces := by
  induction pieces generalizing disk location with
  | nil => rfl
  | cons piece pieces ih =>
    by_cases hvoid : isVoid piece
    · rw [List.filter_cons_of_neg (by simp [hvoid]), makeWay_cons_void hvoid, ih]
    · rw [List.filter_cons_of_pos (by simp [hvoid]), makeWay, makeWay]
      simp only [ih]

/-- How a part is written in the middle of a path. -/
def pieceOf : Part → String
  | .root => ""
  | .here => "."
  | .up => ".."
  | .name text => text

/-- A part is written as the piece that it was read from. -/
theorem pieceOf_eq {part : Part} (h : Part.ofPiece? piece = some part) : pieceOf part = piece := by
  unfold Part.ofPiece? at h
  split at h <;> cases h <;> rfl

/-- The pieces that lead somewhere are those that the parts are written as. -/
theorem filter_not_isVoid (pieces : List String) :
    pieces.filter (!isVoid ·) = (pieces.filterMap Part.ofPiece?).map pieceOf := by
  induction pieces with
  | nil => rfl
  | cons piece pieces ih =>
    cases hpart : Part.ofPiece? piece with
    | none =>
      rw [List.filter_cons_of_neg (by simp [isVoid_iff.2 hpart]), ih,
        List.filterMap_cons_none hpart]
    | some part =>
      rw [List.filter_cons_of_pos (by simp [isVoid, hpart]), ih, List.filterMap_cons_some hpart,
        List.map_cons, pieceOf_eq hpart]

/-- A write into a directory makes the way to it. -/
theorem makeDirectory_directoryOf_join (disk : Disk) (directory : Path) {name : String}
    (hname : IsPlainName name) :
    disk.makeDirectory (directoryOf (directory.join ⟨name⟩)) = disk.makeDirectory directory := by
  obtain ⟨habsolute, hnamed⟩ := named_directoryOf_join directory hname
  have hfilter : (directoryOf (directory.join ⟨name⟩)).pieces.filter (!isVoid ·)
      = directory.pieces.filter (!isVoid ·) := by
    rw [filter_not_isVoid, filter_not_isVoid, ← named, ← named, hnamed]
  rw [makeDirectory, makeDirectory, start, start, habsolute, ← makeWay_filter, hfilter,
    makeWay_filter]

/-- What making a directory leaves. -/
theorem makeDirectory_spec {directory : Path}
    (h : disk.makeDirectory directory = (after, some target)) :
    disk.AddsDirectories after ∧ after.HasDirectoryAt directory target := by
  obtain ⟨hafter, hleads⟩ := makeWay_spec h
  rw [← hafter.start_eq] at hleads
  exact ⟨hafter, hleads⟩

/-- Where a directory is there, nothing is made. -/
theorem makeDirectory_of_hasDirectoryAt {directory : Path}
    (h : disk.HasDirectoryAt directory target) :
    disk.makeDirectory directory = (disk, some target) :=
  LeadsTo.makeWay h

/-- A write into a directory that can be made is a write into the directory that was made. -/
theorem write_join_of_makeDirectory {directory : Path} {name : String} (hname : IsPlainName name)
    (hmade : disk.makeDirectory directory = (after, some target)) (entry : Entry) :
    disk.write (directory.join ⟨name⟩) entry = after.write (directory.join ⟨name⟩) entry := by
  obtain ⟨-, hthere⟩ := makeDirectory_spec hmade
  unfold write
  rw [makeDirectory_directoryOf_join disk directory hname, hmade,
    makeDirectory_directoryOf_join after directory hname, makeDirectory_of_hasDirectoryAt hthere]

/-- Nothing is written where the directory could not be made. -/
theorem write_join_of_makeDirectory_eq_none {directory : Path} {name : String}
    (hname : IsPlainName name) (hmade : disk.makeDirectory directory = (after, none))
    (entry : Entry) : disk.write (directory.join ⟨name⟩) entry = (after, false) := by
  unfold write
  rw [makeDirectory_directoryOf_join disk directory hname, hmade]

end

/-! ## Trees -/

/-- Parts that lead through directories end at one. -/
theorem LeadsTo.hasDirectory_target {disk : Disk} {location target : Location} {parts : List Part}
    (h : disk.LeadsTo location parts target) : disk.hasDirectory target := by
  induction h with
  | here hdirectory => exact hdirectory
  | up _ _ ih | name _ _ _ ih => exact ih

/-- The last name of a path is one that a file may have. -/
theorem of_lastName? {path : Path} {name : String} (h : lastName? path = some name) :
    IsPlainName name ∧ isName name := by
  rw [lastName?] at h
  split at h
  · next text hlast =>
    obtain ⟨piece, hpiece, hpart⟩ := Option.bind_eq_some_iff.1 hlast
    obtain ⟨hshort, rfl⟩ := Option.ite_none_right_eq_some.1 h |>.imp_right Option.some.inj
    rcases ofPiece?_eq_some hpart with hname | hname
    · cases hname
    · cases hname
      exact ⟨⟨not_mem_of_mem_pieces (List.mem_of_getLast? hpiece), hpart⟩, hshort⟩
  · cases h

/-- What is on the disk lies in directories, under names that paths can lead to. -/
structure IsTree (disk : Disk) : Prop where
  hasDirectory : ∀ {location name}, disk.entry? (location ++ [name]) ≠ none →
    disk.hasDirectory location
  isPlainName : ∀ {location name}, disk.entry? (location ++ [name]) ≠ none → IsPlainName name
  isName : ∀ {location name}, disk.entry? (location ++ [name]) ≠ none → isName name

/-- A disk without files is a tree. -/
theorem isTree_startingAt_nil : (startingAt []).IsTree := by
  constructor <;> simp [startingAt, way, entry?]

namespace IsTree

variable {disk after : Disk} {location next target : Location} {name piece : String}
  {pieces : List String} {entry : Entry} {path : Path}

/-- What a directory lies in is a directory, and the root lies in itself. -/
theorem hasDirectory_dropLast (h : disk.IsTree) (hdirectory : disk.hasDirectory location) :
    disk.hasDirectory location.dropLast := by
  rcases List.eq_nil_or_concat location with rfl | ⟨front, name, rfl⟩
  · exact hdirectory
  · rw [List.concat_eq_append] at hdirectory ⊢
    rw [List.dropLast_concat]
    have hthere : disk.entry? (front ++ [name]) ≠ none := by
      intro hnone
      simp [Disk.hasDirectory, hnone] at hdirectory
    exact h.hasDirectory hthere

/-- A new entry may be put into a directory, under a name that no directory has. -/
theorem put (h : disk.IsTree) (hdirectory : disk.hasDirectory location) (hname : IsPlainName name)
    (hshort : Disk.isName name)
    (hfree : entry = .directory ∨ disk.hasDirectory (location ++ [name]) = false) :
    (disk.put (location ++ [name]) entry).IsTree := by
  have hput : ∀ other, Disk.entry? (disk.put (location ++ [name]) entry) other
      = if other = location ++ [name] then some entry else disk.entry? other :=
    fun other => entry?_put (by simp)
  have hkept : ∀ other, disk.hasDirectory other →
      (disk.put (location ++ [name]) entry).hasDirectory other := by
    intro other hother
    rw [Disk.hasDirectory, hput]
    split
    · next heq =>
      rcases hfree with rfl | hfree
      · simp
      · rw [← heq, hother] at hfree
        cases hfree
    · exact hother
  have hold : ∀ {other text},
      Disk.entry? (disk.put (location ++ [name]) entry) (other ++ [text]) ≠ none →
      other = location ∧ text = name ∨ disk.entry? (other ++ [text]) ≠ none := by
    intro other text hthere
    rw [hput] at hthere
    split at hthere
    · next heq =>
      obtain ⟨hlocation, hname⟩ := List.append_inj' heq rfl
      exact .inl ⟨hlocation, List.singleton_inj.1 hname⟩
    · exact .inr hthere
  constructor
  · intro other text hthere
    rcases hold hthere with ⟨rfl, -⟩ | hthere
    · exact hkept other hdirectory
    · exact hkept other (h.hasDirectory hthere)
  · intro other text hthere
    rcases hold hthere with ⟨-, rfl⟩ | hthere
    · exact hname
    · exact h.isPlainName hthere
  · intro other text hthere
    rcases hold hthere with ⟨-, rfl⟩ | hthere
    · exact hshort
    · exact h.isName hthere

/-- A piece of a path goes to a place where something is, or to a name in the directory. -/
theorem entry?_ne_none_or_of_step? (h : disk.IsTree) (hdirectory : disk.hasDirectory location)
    (hslash : '/' ∉ piece.toList) (hnext : step? location piece = some next) :
    disk.entry? next ≠ none
      ∨ IsPlainName piece ∧ Disk.isName piece ∧ next = location ++ [piece] := by
  have hthere : ∀ {other}, disk.hasDirectory other → disk.entry? other ≠ none := by
    intro other hother
    have : disk.entry? other = some .directory := by simpa [Disk.hasDirectory] using hother
    simp [this]
  rw [step?] at hnext
  cases hpart : Part.ofPiece? piece with
  | none =>
    simp only [hpart, Option.some.injEq] at hnext
    exact .inl (hnext ▸ hthere hdirectory)
  | some part =>
    rcases ofPiece?_eq_some hpart with rfl | rfl
    · simp only [hpart, Option.some.injEq] at hnext
      exact .inl (hnext ▸ hthere (h.hasDirectory_dropLast hdirectory))
    · simp only [hpart, Option.ite_none_right_eq_some, Option.some.injEq] at hnext
      exact .inr ⟨⟨hslash, hpart⟩, hnext.1, hnext.2.symm⟩

/-- Making a way through missing directories leaves a tree. -/
theorem makeWay (h : disk.IsTree) (hpieces : ∀ piece ∈ pieces, '/' ∉ piece.toList) :
    (disk.makeWay location pieces).1.IsTree := by
  induction pieces generalizing disk location with
  | nil => exact h
  | cons piece pieces ih =>
    obtain ⟨hslash, hpieces⟩ := List.forall_mem_cons.1 hpieces
    rw [Disk.makeWay]
    split
    · next hdirectory =>
      split
      · exact h
      · next next hnext =>
        split
        · next hnone =>
          rcases h.entry?_ne_none_or_of_step? hdirectory hslash hnext with hthere | hnew
          · exact absurd (Option.isNone_iff_eq_none.1 hnone) hthere
          · obtain ⟨hname, hshort, rfl⟩ := hnew
            exact ih (h.put hdirectory hname hshort (.inl rfl)) hpieces
        · exact ih h hpieces
    · exact h

/-- Writing leaves a tree, also when it fails. -/
theorem write (h : disk.IsTree) : (disk.write path entry).1.IsTree := by
  have hmade : (disk.makeDirectory (directoryOf path)).1.IsTree :=
    h.makeWay fun _ => not_mem_of_mem_pieces
  unfold Disk.write
  cases hway : disk.makeDirectory (directoryOf path) with
  | mk after target? =>
    rw [hway] at hmade
    cases target? with
    | none => exact hmade
    | some directory =>
      simp only
      cases hlast : lastName? path with
      | none => exact hmade
      | some name =>
        simp only
        split
        · exact hmade
        · next hfree =>
          obtain ⟨hname, hshort⟩ := of_lastName? hlast
          refine hmade.put ?_ hname hshort (.inr (Bool.eq_false_iff.2 hfree))
          exact LeadsTo.hasDirectory_target (makeDirectory_spec hway).2

end IsTree

/-! ## Removing -/

section
variable {disk after : Disk} {location target : Location} {path : Path} {entry : Entry}

/-- What a path removes is the file that it leads to. -/
theorem remove?_eq_some_iff : disk.remove? path = some after ↔
    ∃ location entry, disk.locate? path = some location ∧ disk.entry? location = some entry ∧
      entry.isFile ∧ disk.erase location = after := by
  rw [remove?, Option.bind_eq_some_iff]
  refine exists_congr fun location => ?_
  cases hentry : disk.entry? location with
  | none => simp
  | some entry => simp

/-- An entry is gone from where it was erased, and from nowhere else. -/
theorem entry?_erase (h : target ≠ []) : Disk.entry? (disk.erase target) location
    = if location = target then none else disk.entry? location := by
  simp only [erase, entry?]
  split
  · next hnil => rw [if_neg (hnil ▸ h.symm)]
  · rw [Std.TreeMap.getElem?_erase]
    by_cases heq : location = target
    · simp [heq]
    · have hcompare : compare target location ≠ .eq := fun hcompare =>
        heq (Std.LawfulEqOrd.eq_of_compare hcompare).symm
      rw [if_neg heq, if_neg hcompare]

/-- A file is no directory. -/
theorem not_hasDirectory_of_isFile (h : disk.entry? target = some entry) (hfile : entry.isFile) :
    disk.hasDirectory target = false := by
  rw [hasDirectory, h]
  cases entry with
  | directory => cases hfile
  | text | binary => rfl

/-- A file that is removed leaves all directories where they are. -/
theorem hasDirectory_erase (h : disk.hasDirectory target = false) :
    (disk.erase target).hasDirectory location = disk.hasDirectory location := by
  rw [hasDirectory, entry?_erase (ne_nil_of_not_hasDirectory h)]
  split
  · next heq => simp [heq, h]
  · rfl

/-- Erasing what is no directory changes no way. -/
theorem locate?_erase (h : disk.hasDirectory target = false) (path : Path) :
    (disk.erase target).locate? path = disk.locate? path := by
  have hfollow : ∀ pieces location,
      (disk.erase target).follow? location pieces = disk.follow? location pieces := by
    intro pieces
    induction pieces with
    | nil => exact fun _ => rfl
    | cons piece pieces ih =>
      intro location
      simp only [follow?, hasDirectory_erase h, ih]
  rw [locate?, locate?, hfollow]
  rfl

/-- Erasing a file leaves a tree. -/
theorem IsTree.erase (h : disk.IsTree) (hfile : disk.hasDirectory target = false) :
    (disk.erase target).IsTree := by
  have hold : ∀ {location name}, Disk.entry? (disk.erase target) (location ++ [name]) ≠ none →
      disk.entry? (location ++ [name]) ≠ none := by
    intro location name hthere
    rw [entry?_erase (ne_nil_of_not_hasDirectory hfile)] at hthere
    split at hthere
    · exact absurd rfl hthere
    · exact hthere
  refine ⟨fun hthere => ?_, fun hthere => h.isPlainName (hold hthere),
    fun hthere => h.isName (hold hthere)⟩
  rw [hasDirectory_erase hfile]
  exact h.hasDirectory (hold hthere)

end

end PayloadModels.Disk
