import SlidePress.Proofs.FilePlaces
import SlidePress.Proofs.PathNames

/-! The places of paths. Paths with the same steps have the same place, whatever their writing, and a
name that a file can have is a path to a place in the working folder. -/

namespace SlidePress

namespace FileTree

theorem splitLast_eq_some_iff {path : Path} {front : List (List Char)} {last : List Char} :
    splitLast path = some (front, last, false) ↔
      Text.pieces '/' path.text.toList = front ++ [last] ∧ last ≠ [] := by
  rw [splitLast]
  have nonempty : Text.pieces '/' path.text.toList ≠ [] := by
    rw [Text.pieces_eq_splitOn]
    exact List.splitOn_ne_nil _ _
  obtain ⟨first, piece, same⟩ := (List.eq_nil_or_concat' _).resolve_left nonempty
  rw [same]
  cases piece with
  | nil =>
    refine iff_of_false (fun found => ?_) fun ⟨parts, visible⟩ => ?_
    · simp only [List.getLast?_append, List.getLast?_singleton] at found
      split at found
      · cases found
      · cases found
    · exact visible (List.singleton_inj.mp (List.append_inj' parts rfl).2).symm
  | cons char piece =>
    have closed : ((first ++ [char :: piece]).getLast? == some []) = false := by
      simp [List.getLast?_append]
    simp only [List.reverse_append, List.reverse_singleton, List.singleton_append, List.dropWhile_cons,
      List.isEmpty_cons, Bool.false_eq_true, if_false, List.reverse_reverse, closed]
    constructor
    · intro found
      cases found
      exact ⟨rfl, List.cons_ne_nil char piece⟩
    · rintro ⟨parts, -⟩
      obtain ⟨rfl, lasts⟩ := List.append_inj' parts rfl
      rw [List.singleton_inj.mp lasts]

private theorem folder_of_walk_concat {tree : FileTree} {place target : Location} {pieces : List (List Char)}
    {last : List Char} (reached : tree.walk place (pieces ++ [last]) = .ok target) :
    tree.find? place = some .folder := by
  cases pieces with
  | nil => exact folder_of_walk reached
  | cons piece pieces => exact folder_of_walk reached

/-- Idle pieces on the way to a folder make no difference. -/
theorem walk_filter (tree : FileTree) (place folder : Location) (pieces : List (List Char)) :
    tree.walk place (pieces.filter (!Path.isIdle ·) ++ [[]]) = .ok folder ↔
      tree.walk place (pieces ++ [[]]) = .ok folder := by
  induction pieces generalizing place with
  | nil => rfl
  | cons piece pieces ih =>
    cases idle : Path.isIdle piece with
    | true =>
      rw [List.filter_cons_of_neg (by simp [idle]), ih]
      constructor
      · intro reached
        rw [List.cons_append, walk, folder_of_walk_concat reached]
        simpa only [idle, if_true] using reached
      · intro reached
        have found := folder_of_walk_concat reached
        rw [List.cons_append, walk, found] at reached
        simpa only [idle, if_true] using reached
    | false =>
      rw [List.filter_cons_of_pos (by simp [idle]), List.cons_append, List.cons_append, walk, walk]
      simp only [idle, Bool.false_eq_true, if_false]
      split
      · split
        · exact ih place.dropLast
        · split
          · rfl
          · split
            · exact ih _
            · rfl
      · rfl
      · rfl

/-- A path that leads to something leads to the place that something new under it would get. -/
theorem newPlace_of_locate {tree : FileTree} {path : Path} {front : List (List Char)} {last : List Char}
    {place : Location} (parts : Text.pieces '/' path.text.toList = front ++ [last])
    (step : Path.IsName last) (located : tree.locate path = .ok place) :
    tree.newPlace path = .ok (some (place, false)) := by
  obtain ⟨usable, walked⟩ := locate_eq_ok_iff.mp located
  rw [parts, walk_append] at walked
  cases way : tree.walk (tree.base path) front with
  | error fault =>
    rw [way] at walked
    cases walked
  | ok folder =>
    rw [way] at walked
    have reached : tree.walk folder [last] = .ok place := walked
    have found := folder_of_walk reached
    rw [walk, found] at reached
    simp only [step.active, step.notUp, Bool.false_eq_true, if_false] at reached
    split at reached
    · cases reached
    next short =>
      split at reached
      · obtain rfl := Except.ok.inj reached
        exact newPlace_eq_some_iff.mpr ⟨usable, front, last, folder,
          splitLast_eq_some_iff.mpr ⟨parts, step.ne_nil⟩, way, found, step.not_dots,
          Nat.le_of_not_lt short, rfl⟩
      · cases reached

theorem active_of_splitLast {path : Path} {front : List (List Char)} {last : List Char} {slash : Bool}
    (parts : splitLast path = some (front, last, slash)) (named : ¬ (last = ['.'] ∨ last = ['.', '.'])) :
    path.active = front.filter (!Path.isIdle ·) ++ [last] := by
  rw [splitLast] at parts
  split at parts
  · cases parts
  next piece before found =>
    cases parts
    have visible := List.head?_dropWhile_not List.isEmpty (Text.pieces '/' path.text.toList).reverse
    rw [found, List.head?_cons] at visible
    have busy : Path.isIdle last = false :=
      Path.isIdle_eq_false_iff.mpr ⟨List.isEmpty_eq_false_iff.mp visible, (not_or.mp named).1⟩
    have whole : (Text.pieces '/' path.text.toList).rdropWhile List.isEmpty = before.reverse ++ [last] := by
      rw [List.rdropWhile, found, List.reverse_cons]
    have idle (piece : List Char) (empty : piece.isEmpty = true) : Path.isIdle piece = true := by
      rw [Path.isIdle, empty, Bool.true_or]
    rw [Path.active, ← Path.filter_rdropWhile idle, whole, List.filter_append,
      List.filter_cons_of_pos (by simp [busy]), List.filter_nil]

/-- The place of something new is known from the steps of its path. -/
theorem place_of_steps {tree : FileTree} {first second : Path} {place other : Location}
    (same : first.steps = second.steps) (found : tree.newPlace first = .ok (some (place, false)))
    (found' : tree.newPlace second = .ok (some (other, false))) : place = other := by
  obtain ⟨-, front, last, folder, parts, walked, isFolder, named, -, rfl⟩ :=
    newPlace_eq_some_iff.mp found
  obtain ⟨-, front', last', folder', parts', walked', isFolder', named', -, rfl⟩ :=
    newPlace_eq_some_iff.mp found'
  have lists : front.filter (!Path.isIdle ·) ++ [last] = front'.filter (!Path.isIdle ·) ++ [last'] := by
    rw [← active_of_splitLast parts named, ← active_of_splitLast parts' named', Path.active_eq_filterMap,
      same, ← Path.active_eq_filterMap]
  obtain ⟨fronts, lasts⟩ := List.append_inj' lists rfl
  have bases : tree.base first = tree.base second := by
    have starts : first.isAbsolute = second.isAbsolute := by
      rw [Bool.eq_iff_iff, Path.isAbsolute_iff_steps, Path.isAbsolute_iff_steps, same]
    rw [base, base, starts]
  -- steps say nothing of idle pieces, so the two walks are compared without them
  have reached := (walk_filter _ _ _ _).mpr (walk_concat_nil.mpr ⟨walked, isFolder⟩)
  have reached' := (walk_filter _ _ _ _).mpr (walk_concat_nil.mpr ⟨walked', isFolder'⟩)
  rw [bases, fronts, reached'] at reached
  rw [List.singleton_inj.mp lasts, Except.ok.inj reached]

/-! ### Files in the root folder -/

/-- A name that a file can have. -/
structure IsFileName (name : String) : Prop where
  step : Path.IsName name.toList
  noNul : name.toList.contains '\x00' = false
  short : name.utf8ByteSize ≤ longestName

instance (name : String) : Decidable (IsFileName name) :=
  decidable_of_iff (Path.IsName name.toList ∧ name.toList.contains '\x00' = false ∧
    name.utf8ByteSize ≤ longestName)
    ⟨fun ⟨step, noNul, short⟩ => ⟨step, noNul, short⟩,
      fun ⟨step, noNul, short⟩ => ⟨step, noNul, short⟩⟩

theorem IsFileName.isUsable {name : String} (valid : IsFileName name) : IsUsable ⟨name⟩ where
  nonempty := List.isEmpty_eq_false_iff.mpr valid.step.ne_nil
  noNul := valid.noNul
  taken := isTaken_of_short (Nat.le_trans valid.short (by decide))

section

variable {tree : FileTree} {name : String} (valid : IsFileName name) (root : tree.here = [])

include valid root

private theorem base_name : tree.base ⟨name⟩ = [] := by
  rw [base, if_neg (Path.not_isAbsolute valid.step.uncut), root]

theorem newPlace_name : tree.newPlace ⟨name⟩ = .ok (some ([name], false)) := by
  have parts : Text.pieces '/' name.toList = [] ++ [name.toList] := by
    rw [Text.pieces_eq_splitOn, List.splitOn_eq_singleton valid.step.uncut, List.nil_append]
  refine newPlace_eq_some_iff.mpr ⟨valid.isUsable, [], name.toList, [],
    splitLast_eq_some_iff.mpr ⟨parts, valid.step.ne_nil⟩, ?_, rfl, valid.step.not_dots, ?_, ?_⟩
  · rw [base_name valid root, walk]
  · rw [String.ofList_toList]
    exact valid.short
  · rw [String.ofList_toList, List.nil_append]

theorem locate_name {entry : Entry} (there : tree.find? [name] = some entry) :
    tree.locate ⟨name⟩ = .ok [name] := by
  have folder : tree.find? [] = some .folder := rfl
  refine locate_eq_ok_iff.mpr ⟨valid.isUsable, ?_⟩
  rw [Text.pieces_eq_splitOn, List.splitOn_eq_singleton valid.step.uncut, base_name valid root, walk,
    folder]
  simp only [valid.step.active, valid.step.notUp, Bool.false_eq_true, if_false, String.ofList_toList,
    Nat.not_lt.mpr valid.short, List.nil_append, there, Option.isSome_some, if_true, walk]

theorem read_name {content : Content} {runnable : Bool}
    (there : tree.find? [name] = some (.file content runnable)) : tree.read ⟨name⟩ = .ok content := by
  simp only [read, locate_name valid root there, there]

theorem write_name (free : tree.find? [name] = none ∨ ∃ old, tree.find? [name] = some (.file old false))
    (content : Content) : tree.write ⟨name⟩ content = .ok (tree.put [name] (.file content false)) := by
  rw [write, newPlace_name valid root]
  rcases free with free | ⟨old, free⟩
  · simp only [free]
  · simp only [free]

end

end FileTree

end SlidePress
