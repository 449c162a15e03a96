import SlidePress.Proofs.PathParents
import SlidePress.Proofs.PathPlaces

/-! Paths to folders. On the way to a folder idle pieces and slashes at the end do not count, and whatever a
path leads to is in the folder that its parent leads to. -/

namespace SlidePress.FileTree

variable {tree : FileTree} {path parent : Path} {place : Location}

/-- Whether all that is in a tree is in a folder. -/
def IsSound (tree : FileTree) : Prop :=
  ∀ folder name entry, tree.find? (folder ++ [name]) = some entry → tree.find? folder = some .folder

/-- Something is at every place on the way to something. -/
theorem IsSound.exists_above (sound : tree.IsSound) {front back : Location} {entry : Entry}
    (found : tree.find? (front ++ back) = some entry) : ∃ above, tree.find? front = some above := by
  induction back using List.reverseRecOn generalizing entry with
  | nil =>
    rw [List.append_nil] at found
    exact ⟨entry, found⟩
  | append_singleton back name ih =>
    rw [← List.append_assoc] at found
    exact ih (sound _ name entry found)

/-! ### Paths to folders -/

theorem isFolder_iff : tree.isFolder path = true ↔
    ∃ place, tree.locate path = .ok place ∧ tree.find? place = some .folder := by
  rw [isFolder, entry?]
  cases tree.locate path with
  | error fault => simp
  | ok place =>
    simp only [Except.ok.injEq, exists_eq_left']
    cases tree.find? place with
    | none => simp
    | some entry => cases entry <;> simp

/-- Only the pieces that are not idle matter on the way to a folder. -/
theorem locate_folder_iff : tree.locate path = .ok place ∧ tree.find? place = some .folder ↔
    IsUsable path ∧ tree.walk (tree.base path) (path.active ++ [[]]) = .ok place := by
  rw [locate_eq_ok_iff, and_assoc, ← walk_concat_nil, Path.active, walk_filter]

private theorem IsUsable.of_prefix (usable : IsUsable path) (front : parent.text.toList <+: path.text.toList)
    (written : parent.text ≠ "") : IsUsable parent where
  nonempty := by
    rw [List.isEmpty_eq_false_iff]
    exact fun empty => written (String.toList_eq_nil_iff.mp empty)
  noNul := by
    have clean := usable.noNul
    rw [List.contains_eq_mem, decide_eq_false_iff_not] at clean ⊢
    exact fun inside => clean (front.subset inside)
  taken := by
    have short := usable.taken
    rw [isTaken, String.contains_char_eq, ← List.contains_eq_mem, usable.noNul, Bool.false_or,
      decide_eq_true_iff] at short
    obtain ⟨back, whole⟩ := front
    have size : path.text = parent.text ++ String.ofList back := by
      rw [← String.toList_inj, String.toList_append, String.toList_ofList, whole]
    rw [size, String.utf8ByteSize_append] at short
    exact isTaken_of_short (by omega)

theorem base_eq_of_start (front : parent.text.toList <+: path.text.toList) (written : parent.text ≠ "") :
    tree.base parent = tree.base path := by
  rw [base, base, Path.isAbsolute_of_prefix front written]

/-- What a path leads to is in the folder that its parent leads to. -/
theorem isFolder_parent (located : tree.locate path = .ok place) (found : path.parent? = some parent)
    (written : parent.text ≠ "") : tree.isFolder parent = true := by
  obtain ⟨usable, walked⟩ := locate_eq_ok_iff.mp located
  obtain ⟨last, parts⟩ := Path.active_parent found written
  obtain ⟨front, back, whole, above, named⟩ := List.filter_eq_append_iff.mp parts
  obtain ⟨idle, behind, rest, still, -, -⟩ := List.filter_eq_cons_iff.mp named
  -- the walk comes to the last piece that is not idle, and it starts from a folder there
  rw [whole, rest, ← List.append_assoc, walk_append] at walked
  cases way : tree.walk (tree.base path) (front ++ idle) with
  | error fault =>
    rw [way] at walked
    cases walked
  | ok folder =>
    rw [way] at walked
    have reached := walk_concat_nil.mpr ⟨way, folder_of_walk walked⟩
    have pieces : (front ++ idle).filter (!Path.isIdle ·) = parent.active := by
      rw [List.filter_append, above, List.filter_eq_nil_iff.mpr still, List.append_nil]
    rw [← walk_filter, pieces, ← base_eq_of_start (Path.text_prefix found) written] at reached
    have upper := usable.of_prefix (Path.text_prefix found) written
    exact isFolder_iff.mpr ⟨folder, locate_folder_iff.mpr ⟨upper, reached⟩⟩

/-! ### Names of places -/

private theorem getLast?_of_walk {start : Location} {pieces : List (List Char)} {last : List Char}
    (reached : tree.walk start pieces = .ok place)
    (final : (pieces.filter (!Path.isIdle ·)).getLast? = some last) (notUp : last ≠ ['.', '.']) :
    place.getLast? = some (String.ofList last) := by
  induction pieces using List.reverseRecOn generalizing place with
  | nil => cases final
  | append_singleton pieces piece ih =>
    rw [walk_append] at reached
    cases way : tree.walk start pieces with
    | error fault =>
      rw [way] at reached
      cases reached
    | ok folder =>
      rw [way] at reached
      have step : tree.walk folder [piece] = .ok place := reached
      rw [walk, folder_of_walk step] at step
      rw [List.filter_append] at final
      cases idle : Path.isIdle piece with
      | true =>
        simp only [idle, if_true, walk, Except.ok.injEq] at step
        rw [List.filter_cons_of_neg (by simp [idle]), List.filter_nil, List.append_nil] at final
        exact ih (step ▸ way) final
      | false =>
        rw [List.filter_cons_of_pos (by simp [idle]), List.filter_nil, List.getLast?_concat,
          Option.some.injEq] at final
        subst final
        simp only [idle, notUp, Bool.false_eq_true, if_false] at step
        split at step
        · cases step
        · split at step
          · rw [← Except.ok.inj step, List.getLast?_concat]
          · cases step

/-- What a path with a name leads to has that name. -/
theorem getLast?_of_locate {name : String} (named : path.name? = some name)
    (located : tree.locate path = .ok place) : place.getLast? = some name := by
  obtain ⟨-, walked⟩ := locate_eq_ok_iff.mp located
  have last := getLast?_of_walk walked (Path.getLast?_active_of_name? named) (Path.isName_of_name? named).notUp
  rwa [String.ofList_toList] at last

/-! ### Places of something new -/

private theorem walk_last {folder : Location} {last : List Char} (inside : tree.find? folder = some .folder)
    (visible : last ≠ []) (named : ¬ (last = ['.'] ∨ last = ['.', '.']))
    (short : (String.ofList last).utf8ByteSize ≤ longestName)
    (there : (tree.find? (folder ++ [String.ofList last])).isSome = true) :
    tree.walk folder [last] = .ok (folder ++ [String.ofList last]) := by
  have busy : Path.isIdle last = false := Path.isIdle_eq_false_iff.mpr ⟨visible, (not_or.mp named).1⟩
  rw [walk, inside]
  simp only [busy, (not_or.mp named).2, Nat.not_lt.mpr short, there, Bool.false_eq_true, if_false, if_true,
    walk]

/-- Nothing but slashes follows the last piece of a path. -/
theorem pieces_of_splitLast {front : List (List Char)} {last : List Char} {slash : Bool}
    (parts : splitLast path = some (front, last, slash)) :
    last ≠ [] ∧ ∃ back, Text.pieces '/' path.text.toList = front ++ last :: back := by
  rw [splitLast] at parts
  split at parts
  · cases parts
  next piece before found =>
    cases parts
    have visible := List.head?_dropWhile_not List.isEmpty (Text.pieces '/' path.text.toList).reverse
    obtain ⟨back, whole⟩ := List.rdropWhile_prefix List.isEmpty (Text.pieces '/' path.text.toList)
    rw [found, List.head?_cons] at visible
    rw [List.rdropWhile, found, List.reverse_cons, List.append_assoc, List.singleton_append] at whole
    exact ⟨List.isEmpty_eq_false_iff.mp visible, back, whole.symm⟩

/-- A folder at the place of something new is what the path to that leads to. -/
theorem locate_newFolder {slash : Bool} (named : tree.newPlace path = .ok (some (place, slash)))
    (there : tree.find? place = some .folder) : tree.locate path = .ok place := by
  obtain ⟨usable, front, last, folder, parts, walked, inside, notDots, short, rfl⟩ :=
    newPlace_eq_some_iff.mp named
  have reached := (walk_filter _ _ _ _).mpr (walk_concat_nil.mpr ⟨walked, inside⟩)
  have step := walk_last inside (pieces_of_splitLast parts).1 notDots short (by rw [there]; rfl)
  refine (locate_folder_iff.mpr ⟨usable, walk_concat_nil.mpr ⟨?_, there⟩⟩).1
  rw [active_of_splitLast parts notDots, walk_append, (walk_concat_nil.mp reached).1]
  exact step

/-- Without a slash at the end of the path, it leads to whatever is at the place of something new. -/
theorem locate_newFile (named : tree.newPlace path = .ok (some (place, false)))
    (there : (tree.find? place).isSome = true) : tree.locate path = .ok place := by
  obtain ⟨usable, front, last, folder, parts, walked, inside, notDots, short, rfl⟩ :=
    newPlace_eq_some_iff.mp named
  refine locate_eq_ok_iff.mpr ⟨usable, ?_⟩
  rw [(splitLast_eq_some_iff.mp parts).1, walk_append, walked]
  exact walk_last inside (pieces_of_splitLast parts).1 notDots short there

end SlidePress.FileTree
