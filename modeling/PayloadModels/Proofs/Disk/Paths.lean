import PayloadModels.Disk.Basic
import PayloadModels.Proofs.Text.Lines

/-!
# Paths to what lies in a directory

The path from a directory along a name has the parts of the directory and the name behind them
(`parts_join`), however the directory is spelled: with slashes at its end, with dots in it, or as
the empty path. Two such paths are the same when the names are (`same_join_iff`), and a write to
such a path looks the name up in the directory (`named_directoryOf_join`).
-/

namespace PayloadModels

open PayloadModels.Path

namespace Path

/-! ## Pieces -/

/-- A path has a piece, if only an empty one. -/
theorem pieces_ne_nil (path : Path) : path.pieces ≠ [] := by
  simp [pieces, List.splitOn_ne_nil]

/-- No slash is left in a piece. -/
theorem not_mem_of_mem_pieces {path : Path} {piece : String} (h : piece ∈ path.pieces) :
    '/' ∉ piece.toList := by
  obtain ⟨cs, hcs, rfl⟩ := List.mem_map.1 h
  rw [String.toList_ofList]
  exact Text.not_mem_of_mem_splitOn hcs

/-- A text without a slash is one piece. -/
theorem pieces_of_not_mem {piece : String} (h : '/' ∉ piece.toList) :
    (⟨piece⟩ : Path).pieces = [piece] := by
  rw [pieces, List.splitOn_eq_singleton h]
  simp

/-- A slash between two texts keeps their pieces apart. -/
theorem pieces_append_slash (a b : String) :
    (⟨a ++ "/" ++ b⟩ : Path).pieces = (⟨a⟩ : Path).pieces ++ (⟨b⟩ : Path).pieces := by
  have hsplit := List.splitOn_append_cons_self a.toList b.toList (a := '/')
  rw [pieces, pieces, pieces, ← List.map_append, ← hsplit]
  simp

/-- Pieces that were joined by slashes are the pieces of the path. -/
theorem pieces_intercalate {pieces : List String} (hne : pieces ≠ [])
    (h : ∀ piece ∈ pieces, '/' ∉ piece.toList) :
    (⟨"/".intercalate pieces⟩ : Path).pieces = pieces := by
  induction pieces with
  | nil => exact absurd rfl hne
  | cons piece pieces ih =>
    obtain ⟨hpiece, hpieces⟩ := List.forall_mem_cons.1 h
    cases pieces with
    | nil =>
      rw [String.intercalate_singleton]
      exact pieces_of_not_mem hpiece
    | cons next pieces =>
      rw [String.intercalate_cons_cons, pieces_append_slash, pieces_of_not_mem hpiece,
        ih (by simp) hpieces]
      rfl

/-- A path is absolute when an empty piece comes before another one. -/
theorem isAbsolute_iff_pieces {path : Path} :
    path.isAbsolute ↔ path.pieces.head? = some "" ∧ path.pieces.length ≠ 1 := by
  obtain ⟨text⟩ := path
  rw [isAbsolute, pieces]
  cases htext : text.toList with
  | nil => simp
  | cons c cs =>
    obtain ⟨first, rest, hsplit⟩ := List.exists_cons_of_ne_nil (List.splitOn_ne_nil '/' cs)
    rw [List.splitOn_cons_eq_if_modifyHead, hsplit]
    by_cases hc : c = '/'
    · simp [hc]
    · simp [hc]

/-! ## Names -/

/-- A piece of a path that is a name. -/
structure IsPlainName (piece : String) : Prop where
  not_mem : '/' ∉ piece.toList
  ofPiece? : Part.ofPiece? piece = some (.name piece)

/-- A piece that is neither empty nor a step to here or up is a name. -/
theorem ofPiece?_eq_name {piece : String} (h : piece ∉ ["", ".", ".."]) :
    Part.ofPiece? piece = some (.name piece) := by
  unfold Part.ofPiece?
  split
  · exact absurd h (by decide)
  · exact absurd h (by decide)
  · exact absurd h (by decide)
  · rfl

/-- A name is no step to where one is. -/
theorem IsPlainName.ne_dot {piece : String} (h : IsPlainName piece) : piece ≠ "." := by
  rintro rfl
  cases h.ofPiece?

/-- The parts of a path behind the one that it begins at. -/
def named (path : Path) : List Part := path.pieces.filterMap Part.ofPiece?

variable {name other : String}

/-- A path without a slash is relative. -/
theorem isAbsolute_of_not_mem (h : '/' ∉ name.toList) : (⟨name⟩ : Path).isAbsolute = false := by
  rw [isAbsolute, decide_eq_false_iff_not]
  exact fun hhead => h (List.mem_of_mem_head? hhead)

/-- Going along a name puts it behind the pieces of the directory, in the place of the empty piece
that the directory may end with. -/
theorem exists_pieces_join (directory : Path) (h : '/' ∉ name.toList) :
    ∃ front, (directory.pieces = front ∨ directory.pieces = front ++ [""]) ∧
      (directory.join ⟨name⟩).pieces = front ++ [name] := by
  obtain ⟨text⟩ := directory
  rw [join, isAbsolute_of_not_mem h, Bool.false_or]
  split
  · next hempty =>
    have hempty : text = "" := String.isEmpty_iff.1 hempty
    exact ⟨[], .inr (by rw [hempty]; rfl), pieces_of_not_mem h⟩
  · split
    · next hslash =>
      obtain ⟨front, hfront⟩ := List.getLast?_eq_some_iff.1 hslash
      have htext : text = String.ofList front ++ "/" ++ "" := by
        apply String.toList_inj.1
        rw [hfront]
        simp
      refine ⟨(⟨String.ofList front⟩ : Path).pieces, .inr ?_, ?_⟩
      · rw [htext, pieces_append_slash]
        rfl
      · rw [htext, String.append_empty, pieces_append_slash, pieces_of_not_mem h]
    · exact ⟨_, .inl rfl, by rw [pieces_append_slash, pieces_of_not_mem h]⟩

/-- Where a path begins does not change when a name is joined to it. -/
theorem isAbsolute_join (directory : Path) (h : '/' ∉ name.toList) :
    (directory.join ⟨name⟩).isAbsolute = directory.isAbsolute := by
  obtain ⟨text⟩ := directory
  rw [join, isAbsolute_of_not_mem h, Bool.false_or]
  split
  · next hempty =>
    have hempty : text = "" := String.isEmpty_iff.1 hempty
    rw [isAbsolute_of_not_mem h, hempty]
    rfl
  · next hnonempty =>
    have hne : text.toList ≠ [] := by simpa using hnonempty
    obtain ⟨c, cs, htext⟩ := List.exists_cons_of_ne_nil hne
    split <;> simp [isAbsolute, htext]

/-- The pieces before the name stand for the same parts as those of the directory. -/
theorem exists_pieces_join_eq_append (directory : Path) (h : IsPlainName name) :
    ∃ front, (directory.join ⟨name⟩).pieces = front ++ [name] ∧
      front.filterMap Part.ofPiece? = directory.named := by
  obtain ⟨front, hdirectory, hjoin⟩ := exists_pieces_join directory h.not_mem
  have hvoid : Part.ofPiece? "" = none := rfl
  refine ⟨front, hjoin, ?_⟩
  rcases hdirectory with hdirectory | hdirectory <;> simp [named, hdirectory, hvoid]

/-- Joining a name adds it as the last part. -/
theorem named_join (directory : Path) (h : IsPlainName name) :
    (directory.join ⟨name⟩).named = directory.named ++ [.name name] := by
  obtain ⟨front, hjoin, hfront⟩ := exists_pieces_join_eq_append directory h
  rw [named, hjoin, List.filterMap_append, hfront, List.filterMap_cons_some h.ofPiece?,
    List.filterMap_nil]

/-- The path along a name has the parts of the directory and then the name. -/
theorem parts_join (directory : Path) (h : IsPlainName name) :
    (directory.join ⟨name⟩).parts = directory.parts ++ [.name name] := by
  have hstart : (directory.join ⟨name⟩).start? = directory.start? := by
    obtain ⟨front, hdirectory, hjoin⟩ := exists_pieces_join directory h.not_mem
    rw [start?, start?, isAbsolute_join directory h.not_mem, hjoin]
    cases front with
    | nil =>
      rcases hdirectory with hdirectory | hdirectory
      · exact absurd hdirectory (pieces_ne_nil directory)
      · simp [hdirectory, h.ne_dot]
    | cons first front => rcases hdirectory with hdirectory | hdirectory <;> simp [hdirectory]
  rw [parts, parts, hstart, List.append_assoc]
  exact congrArg _ (named_join directory h)

/-- The file name of a path with a name joined to it is that name. -/
theorem fileName?_join (directory : Path) (h : IsPlainName name) :
    (directory.join ⟨name⟩).fileName? = some name := by
  rw [fileName?, parts_join directory h, List.getLast?_concat]

/-- A path that ends in a name is not empty. -/
theorem isEmpty_text_of_pieces {path : Path} {front : List String}
    (h : path.pieces = front ++ [name]) (hname : IsPlainName name) : path.text.isEmpty = false := by
  rw [Bool.eq_false_iff, Ne, String.isEmpty_iff]
  intro hempty
  have hpieces : path.pieces = [""] := by
    rw [pieces, hempty]
    rfl
  have hlast : name = "" := by simpa [h] using congrArg List.getLast? hpieces
  cases hlast ▸ hname.ofPiece?

/-- In one directory, two names lead to the same path when they are one name. -/
theorem same_join_iff (directory : Path) (hname : IsPlainName name) (hother : IsPlainName other) :
    (directory.join ⟨name⟩).same (directory.join ⟨other⟩) ↔ name = other := by
  rw [same, parts_join directory hname, parts_join directory hother]
  simp

end Path

/-! ## The directory of a path -/

namespace Disk

variable {path directory : Path} {front : List String} {name : String}

/-- The pieces that lead nowhere are those that are no part. -/
theorem isVoid_iff {piece : String} : isVoid piece ↔ Part.ofPiece? piece = none := by
  rw [isVoid, Option.isNone_iff_eq_none]

/-- Pieces at the front that lead nowhere do not count among the parts. -/
theorem filterMap_dropWhile_isVoid (pieces : List String) :
    (pieces.dropWhile isVoid).filterMap Part.ofPiece? = pieces.filterMap Part.ofPiece? := by
  induction pieces with
  | nil => rfl
  | cons piece pieces ih =>
    by_cases hvoid : isVoid piece
    · rw [List.dropWhile_cons_of_pos hvoid, ih, List.filterMap_cons_none (isVoid_iff.1 hvoid)]
    · rw [List.dropWhile_cons_of_neg hvoid]

/-- Once those at the front are dropped, the first piece leads somewhere. -/
theorem not_isVoid_of_dropWhile {pieces rest : List String} {piece : String}
    (h : pieces.dropWhile isVoid = piece :: rest) : ¬ isVoid piece := by
  have hhead := List.head_dropWhile_not isVoid (l := pieces) (by simp [h])
  simpa [h] using hhead

/-- The pieces of the directory of a path, when there are some. -/
theorem pieces_intercalate_kept (h : path.pieces = front ++ [name]) {last : String}
    {rest : List String} (hkept : front.reverse.dropWhile isVoid = last :: rest) :
    (⟨"/".intercalate (last :: rest).reverse⟩ : Path).pieces = (last :: rest).reverse := by
  refine pieces_intercalate (by simp) fun piece hpiece => ?_
  rw [List.mem_reverse, ← hkept] at hpiece
  have hmem := List.mem_reverse.1 ((List.dropWhile_sublist _).mem hpiece)
  have hpiece : piece ∈ path.pieces := by simp [h, hmem]
  exact not_mem_of_mem_pieces hpiece

/-- The pieces of the directory of a path are those before its name without the void ones at their
end; when there are none, the directory is the one that the path begins at. -/
theorem directoryOf_eq (h : path.pieces = front ++ [name]) (hname : IsPlainName name) :
    directoryOf path = match front.reverse.dropWhile isVoid with
      | [] => if path.isAbsolute then ⟨"/"⟩ else ⟨"."⟩
      | kept => ⟨"/".intercalate kept.reverse⟩ := by
  have hparts : path.parts
      = path.start?.toList ++ front.filterMap Part.ofPiece? ++ [.name name] := by
    simp [parts, h, hname.ofPiece?]
  have hlast : path.parts.getLast? = some (.name name) := by simp [hparts]
  have hreverse : path.pieces.reverse.dropWhile isVoid = name :: front.reverse := by
    have hvoid : ¬ isVoid name := by simp [isVoid, hname.ofPiece?]
    rw [h, List.reverse_append, List.reverse_singleton, List.singleton_append,
      List.dropWhile_cons_of_neg hvoid]
  rw [directoryOf, parent?, hlast]
  simp only [hreverse, List.drop_one, List.tail_cons]
  cases hkept : front.reverse.dropWhile isVoid with
  | nil =>
    have hnone : front.filterMap Part.ofPiece? = [] := by
      have hdrop := filterMap_dropWhile_isVoid front.reverse
      rw [hkept, List.filterMap_reverse] at hdrop
      exact List.reverse_eq_nil_iff.1 hdrop.symm
    rw [hparts, hnone, List.append_nil, List.dropLast_concat]
    by_cases habsolute : path.isAbsolute
    · simp [start?, habsolute]
    · by_cases hhere : path.pieces.head? = some "." <;> simp [start?, habsolute, hhere]
  | cons last rest =>
    have hne : "/".intercalate (last :: rest).reverse ≠ "" := by
      intro hempty
      have hpieces := pieces_intercalate_kept h hkept
      have hlast : (last :: rest).reverse = [""] := by
        rw [← hpieces, hempty]
        rfl
      have hlast : last = "" := by simpa using congrArg List.getLast? hlast
      exact not_isVoid_of_dropWhile hkept (by rw [hlast]; rfl)
    simp only [List.isEmpty_cons, Bool.false_eq_true, if_false]
    split
    · next heq => exact absurd (congrArg Path.text (Option.some.inj heq)) hne
    · next heq => cases heq
    · next heq => exact (Option.some.inj heq).symm

/-- A write to a path that ends with a name looks that name up where the pieces before it lead. -/
theorem named_directoryOf (h : path.pieces = front ++ [name]) (hname : IsPlainName name) :
    (directoryOf path).isAbsolute = path.isAbsolute ∧
      (directoryOf path).named = front.filterMap Part.ofPiece? := by
  rw [directoryOf_eq h hname]
  have hnamed := filterMap_dropWhile_isVoid front.reverse
  cases hkept : front.reverse.dropWhile isVoid with
  | nil =>
    rw [hkept, List.filterMap_nil, List.filterMap_reverse, eq_comm,
      List.reverse_eq_nil_iff] at hnamed
    rw [hnamed]
    by_cases habsolute : path.isAbsolute
    · rw [if_pos habsolute, habsolute]
      exact ⟨rfl, rfl⟩
    · rw [if_neg habsolute, Bool.eq_false_iff.2 habsolute]
      exact ⟨rfl, rfl⟩
  | cons last rest =>
    have hpieces := pieces_intercalate_kept h hkept
    rw [hkept, List.filterMap_reverse] at hnamed
    show (⟨"/".intercalate (last :: rest).reverse⟩ : Path).isAbsolute = _
      ∧ (⟨"/".intercalate (last :: rest).reverse⟩ : Path).named = _
    refine ⟨?_, ?_⟩
    · -- Both begin with the same piece; a single piece that is kept is not the empty one.
      obtain ⟨void, hsplit⟩ : ∃ void, front = (last :: rest).reverse ++ void := by
        refine ⟨(front.reverse.takeWhile isVoid).reverse, ?_⟩
        rw [← hkept, ← List.reverse_append, List.takeWhile_append_dropWhile, List.reverse_reverse]
      have hlast : last ≠ "" := by
        rintro rfl
        exact not_isVoid_of_dropWhile hkept rfl
      rw [Bool.eq_iff_iff, isAbsolute_iff_pieces, isAbsolute_iff_pieces, hpieces, h, hsplit]
      cases rest with
      | nil => simp [hlast]
      | cons next rest =>
        refine and_congr (by simp) (iff_of_true (by simp) ?_)
        rw [List.length_append, List.length_append, List.length_reverse, List.length_cons]
        simp
    · rw [named, hpieces, List.filterMap_reverse, hnamed, List.reverse_reverse]

/-- The directory of a path with a name joined to it has the parts of the path. -/
theorem named_directoryOf_join (directory : Path) (hname : IsPlainName name) :
    (directoryOf (directory.join ⟨name⟩)).isAbsolute = directory.isAbsolute ∧
      (directoryOf (directory.join ⟨name⟩)).named = directory.named := by
  obtain ⟨front, hjoin, hfront⟩ := exists_pieces_join_eq_append directory hname
  obtain ⟨habsolute, hnamed⟩ := named_directoryOf hjoin hname
  exact ⟨habsolute.trans (isAbsolute_join directory hname.not_mem), hnamed.trans hfront⟩

end Disk

end PayloadModels
