import SlidePress.File.Change

/-! Where paths lead to in a tree, and what stays when a file is written. Folders are all that the
way to a place consists of, so trees with the same folders have the same places, whatever is in
their files. -/

namespace SlidePress.FileTree

variable {tree older middle newer : FileTree}

private theorem lookup_filter_ne (entries : List (Location × Entry)) {place other : Location}
    (apart : other ≠ place) :
    (entries.filter (·.1 ≠ place)).lookup other = entries.lookup other := by
  induction entries with
  | nil => rfl
  | cons entry entries ih =>
    by_cases same : entry.1 = place
    · have skipped : (other == entry.1) = false := beq_false_of_ne (same ▸ apart)
      rw [List.filter_cons_of_neg (by simp [same]), ih, List.lookup_cons, skipped]
    · rw [List.filter_cons_of_pos (by simp [same]), List.lookup_cons, List.lookup_cons, ih]

theorem find?_put (tree : FileTree) {place : Location} (nonempty : place ≠ []) (entry : Entry)
    (other : Location) :
    (tree.put place entry).find? other = if other = place then some entry else tree.find? other := by
  by_cases same : other = place
  · rw [if_pos same, same, find?, if_neg nonempty, put, List.lookup_cons_self]
  · rw [if_neg same, find?, find?, put, List.lookup_cons, beq_false_of_ne same, lookup_filter_ne _ same]

/-! ### Walks -/

theorem walk_append (tree : FileTree) (place : Location) (first second : List (List Char)) :
    tree.walk place (first ++ second) = (tree.walk place first).bind (tree.walk · second) := by
  induction first generalizing place with
  | nil => rfl
  | cons piece first ih =>
    rw [List.cons_append, walk, walk]
    split
    · split
      · exact ih place
      · split
        · exact ih place.dropLast
        · dsimp only
          split
          · rfl
          · split
            · exact ih _
            · rfl
    · rfl
    · rfl

/-- A step starts from a folder. -/
theorem folder_of_walk {place target : Location} {piece : List Char} {pieces : List (List Char)}
    (reached : tree.walk place (piece :: pieces) = .ok target) : tree.find? place = some .folder := by
  rw [walk] at reached
  split at reached
  next found => exact found
  next => cases reached
  next => cases reached

/-- Walks pass folders only, so a walk leads to the same place in a tree that has its folders and
something at its end. -/
theorem walk_of_folders (folders : ∀ place, older.find? place = some .folder → newer.find? place = some .folder)
    {place target : Location} {pieces : List (List Char)} (reached : older.walk place pieces = .ok target)
    (kept : (older.find? target).isSome = true → (newer.find? target).isSome = true) :
    newer.walk place pieces = .ok target := by
  induction pieces generalizing place with
  | nil => exact reached
  | cons piece pieces ih =>
    have found := folder_of_walk reached
    rw [walk, found] at reached
    rw [walk, folders place found]
    simp only at reached ⊢
    split
    next idle =>
      rw [if_pos idle] at reached
      exact ih reached
    next busy =>
      rw [if_neg busy] at reached
      split
      next up =>
        rw [if_pos up] at reached
        exact ih reached
      next named =>
        rw [if_neg named] at reached
        split at reached
        · cases reached
        next short =>
          rw [if_neg short]
          split at reached
          next there =>
            -- what lies on the way is a folder, so `kept` is needed for the last piece alone
            have stays : (newer.find? (place ++ [String.ofList piece])).isSome = true := by
              cases pieces with
              | nil =>
                obtain rfl := Except.ok.inj reached
                exact kept there
              | cons next pieces => rw [folders _ (folder_of_walk reached)]; rfl
            rw [if_pos stays]
            exact ih reached
          next => cases reached

/-- With an empty piece at its end, a walk leads to a folder. -/
theorem walk_concat_nil {place folder : Location} {pieces : List (List Char)} :
    tree.walk place (pieces ++ [[]]) = .ok folder ↔
      tree.walk place pieces = .ok folder ∧ tree.find? folder = some .folder := by
  rw [walk_append]
  cases tree.walk place pieces with
  | error fault => simp [Except.bind]
  | ok last =>
    simp only [Except.bind, Except.ok.injEq]
    constructor
    · intro reached
      have found := folder_of_walk reached
      rw [walk, found] at reached
      obtain rfl := Except.ok.inj reached
      exact ⟨rfl, found⟩
    · rintro ⟨rfl, found⟩
      rw [walk, found]
      rfl

/-! ### Paths -/

/-- Whether the system takes a path as it is written, whatever it leads to. -/
structure IsUsable (path : Path) : Prop where
  nonempty : path.text.toList.isEmpty = false
  noNul : path.text.toList.contains '\x00' = false
  taken : isTaken path = true

theorem isTaken_of_short {path : Path} (short : path.text.utf8ByteSize ≤ longestPath) :
    isTaken path = true := by
  rw [isTaken, decide_eq_true short, Bool.or_true]

theorem locate_of_short (tree : FileTree) {path : Path} (short : path.text.utf8ByteSize ≤ longestPath) :
    tree.locate path = tree.resolve path := by
  rw [locate, isTaken_of_short short, if_pos rfl]

theorem locate_eq_ok_iff {path : Path} {place : Location} :
    tree.locate path = .ok place ↔
      IsUsable path ∧ tree.walk (tree.base path) (Text.pieces '/' path.text.toList) = .ok place := by
  rw [locate, resolve]
  constructor
  · intro located
    split at located
    next taken =>
      split at located
      · cases located
      next nonempty =>
        split at located
        · cases located
        next noNul => exact ⟨⟨eq_false_of_ne_true nonempty,
            eq_false_of_ne_true noNul, taken⟩, located⟩
    next => cases located
  · rintro ⟨⟨nonempty, noNul, taken⟩, reached⟩
    simp only [nonempty, noNul, taken, if_true, Bool.false_eq_true, if_false]
    exact reached

theorem entry?_eq_some_iff {path : Path} {entry : Entry} : tree.entry? path = some entry ↔
    ∃ place, tree.locate path = .ok place ∧ tree.find? place = some entry := by
  rw [FileTree.entry?]
  cases tree.locate path with
  | ok place => simp
  | error fault => simp

/-- Something new gets a place in the folder that all but the last piece of its path lead to. -/
theorem newPlace_eq_some_iff {path : Path} {place : Location} {slash : Bool} :
    tree.newPlace path = .ok (some (place, slash)) ↔
      IsUsable path ∧ ∃ front last folder, splitLast path = some (front, last, slash) ∧
        tree.walk (tree.base path) front = .ok folder ∧ tree.find? folder = some .folder ∧
        ¬ (last = ['.'] ∨ last = ['.', '.']) ∧ (String.ofList last).utf8ByteSize ≤ longestName ∧
        place = folder ++ [String.ofList last] := by
  rw [newPlace]
  constructor
  · intro found
    split at found
    · cases found
    next nonempty =>
      split at found
      · cases found
      next noNul =>
        split at found
        · cases found
        next taken =>
          refine ⟨⟨eq_false_of_ne_true nonempty, eq_false_of_ne_true noNul,
            by simpa using taken⟩, ?_⟩
          split at found
          · cases found
          next front last slash parts =>
            split at found
            · cases found
            next folder reached =>
              obtain ⟨walked, isFolder⟩ := walk_concat_nil.mp reached
              split at found
              · cases found
              next named =>
                split at found
                · cases found
                next short =>
                  cases found
                  exact ⟨front, last, folder, parts, walked, isFolder, named, Nat.le_of_not_lt short, rfl⟩
  · rintro ⟨⟨nonempty, noNul, taken⟩, front, last, folder, parts, walked, isFolder, named, short, rfl⟩
    have reached := walk_concat_nil.mpr ⟨walked, isFolder⟩
    simp only [nonempty, noNul, taken, parts, reached, named, Nat.not_lt.mpr short, Bool.not_true,
      Bool.false_eq_true, if_false]

theorem newPlace_ne_nil {path : Path} {place : Location} {slash : Bool}
    (found : tree.newPlace path = .ok (some (place, slash))) : place ≠ [] := by
  obtain ⟨-, front, last, folder, -, -, -, -, -, rfl⟩ := newPlace_eq_some_iff.mp found
  exact List.append_ne_nil_of_right_ne_nil folder (List.cons_ne_nil _ [])

/-! ### Trees with the same folders -/

structure SameFolders (older newer : FileTree) : Prop where
  here : newer.here = older.here
  folders : ∀ place, newer.find? place = some .folder ↔ older.find? place = some .folder

namespace SameFolders

theorem refl (tree : FileTree) : tree.SameFolders tree := ⟨rfl, fun _ => .rfl⟩

theorem symm (same : older.SameFolders newer) : newer.SameFolders older :=
  ⟨same.here.symm, fun place => (same.folders place).symm⟩

theorem trans (first : older.SameFolders middle) (second : middle.SameFolders newer) :
    older.SameFolders newer :=
  ⟨second.here.trans first.here, fun place => (second.folders place).trans (first.folders place)⟩

theorem base_eq (same : older.SameFolders newer) (path : Path) : newer.base path = older.base path := by
  rw [base, base, same.here]

/-- A walk leads to the same place if what is there at its end is the same. -/
theorem walk (same : older.SameFolders newer) {place target : Location} {pieces : List (List Char)}
    (reached : older.walk place pieces = .ok target) (kept : newer.find? target = older.find? target) :
    newer.walk place pieces = .ok target :=
  walk_of_folders (fun place => (same.folders place).mpr) reached fun there => kept ▸ there

theorem newPlace (same : older.SameFolders newer) {path : Path} {place : Location × Bool}
    (found : older.newPlace path = .ok (some place)) : newer.newPlace path = .ok (some place) := by
  obtain ⟨usable, front, last, folder, parts, walked, isFolder, kept⟩ := newPlace_eq_some_iff.mp found
  have stays : newer.find? folder = some .folder := (same.folders folder).mpr isFolder
  refine newPlace_eq_some_iff.mpr ⟨usable, front, last, folder, parts, ?_, stays, kept⟩
  rw [same.base_eq]
  exact same.walk walked (stays.trans isFolder.symm)

/-- A path leads to what it has led to if that is still there. -/
theorem entry_eq (same : older.SameFolders newer) {path : Path} {place : Location}
    (located : older.locate path = .ok place) (kept : newer.find? place = older.find? place) :
    newer.entry? path = older.entry? path := by
  obtain ⟨usable, walked⟩ := locate_eq_ok_iff.mp located
  rw [← same.base_eq] at walked
  have stays : newer.locate path = .ok place := locate_eq_ok_iff.mpr ⟨usable, same.walk walked kept⟩
  unfold entry?
  rw [located, stays]
  exact kept

end SameFolders

/-! ### Writing -/

/-- Whether a tree differs from an older one in nothing but files that the given paths are those of. -/
structure WritesOnly (older newer : FileTree) (paths : List Path) : Prop
    extends SameFolders older newer where
  elsewhere : ∀ place, (∀ path ∈ paths, older.newPlace path ≠ .ok (some (place, false))) →
    newer.find? place = older.find? place

namespace WritesOnly

variable {paths others : List Path}

theorem refl (tree : FileTree) (paths : List Path) : tree.WritesOnly tree paths where
  toSameFolders := .refl tree
  elsewhere := fun _ _ => rfl

theorem trans (first : older.WritesOnly middle paths) (second : middle.WritesOnly newer others) :
    older.WritesOnly newer (paths ++ others) where
  toSameFolders := first.toSameFolders.trans second.toSameFolders
  elsewhere := by
    intro place apart
    rw [List.forall_mem_append] at apart
    -- the first changes have moved no place, so the places of the later ones are those in `older`
    have stays : newer.find? place = middle.find? place := second.elsewhere place fun path inside found =>
      apart.2 path inside (first.toSameFolders.symm.newPlace found)
    rw [stays, first.elsewhere place apart.1]

/-- What a path leads to stays if none of the paths is that of its place. -/
theorem entry_eq (writes : older.WritesOnly newer paths) {path : Path} {place : Location}
    (located : older.locate path = .ok place)
    (apart : ∀ other ∈ paths, older.newPlace other ≠ .ok (some (place, false))) :
    newer.entry? path = older.entry? path :=
  writes.toSameFolders.entry_eq located (writes.elsewhere place apart)

/-- What a path leads to stays if none of the paths is that of a place that it leads to before or after; this
goes also for a path that has led to nothing. -/
theorem entry_eq_of_places (writes : older.WritesOnly newer paths) {path : Path}
    (apart : ∀ place, older.locate path = .ok place ∨ newer.locate path = .ok place →
      ∀ other ∈ paths, older.newPlace other ≠ .ok (some (place, false))) :
    newer.entry? path = older.entry? path := by
  cases before : older.locate path with
  | ok place => exact writes.entry_eq before (apart place (.inl before))
  | error fault =>
    cases after : newer.locate path with
    | ok place =>
      have kept := writes.elsewhere place (apart place (.inr after))
      exact (writes.toSameFolders.symm.entry_eq after kept.symm).symm
    | error fault' =>
      unfold entry?
      rw [before, after]

end WritesOnly

private theorem writesOnly_put {path : Path} {place : Location} {content : Content} {runnable : Bool}
    (found : tree.newPlace path = .ok (some (place, false))) (free : tree.find? place ≠ some .folder) :
    tree.WritesOnly (tree.put place (.file content runnable)) [path] where
  here := rfl
  folders := by
    intro other
    rw [find?_put tree (newPlace_ne_nil found)]
    split
    next same => simp [same, free]
    next => rfl
  elsewhere := by
    intro other apart
    rw [find?_put tree (newPlace_ne_nil found), if_neg]
    rintro rfl
    exact apart path List.mem_cons_self found

theorem writesOnly_write {path : Path} {content : Content}
    (written : tree.write path content = .ok newer) :
    tree.WritesOnly newer [path] := by
  rw [write] at written
  split at written
  · cases written
  · cases written
  · cases written
  next place found =>
    split at written
    · cases written
    · obtain rfl := Except.ok.inj written
      exact .refl tree [path]
    next old runnable there =>
      obtain rfl := Except.ok.inj written
      exact writesOnly_put found (by simp [there])
    next nothing =>
      obtain rfl := Except.ok.inj written
      exact writesOnly_put found (by simp [nothing])

end SlidePress.FileTree
