import SlidePress.File.Check
import SlidePress.Proofs.FolderPaths

/-! The folders that are made for a file. Nothing that is there changes on the way, and every new folder is
one that the path of the file names further up. A path leads nowhere as long as the folders for it could
not all be made; and only a path that climbs leads to something new just because they were. -/

namespace SlidePress.FileTree

variable {tree older middle newer : FileTree} {path parent : Path} {place : Location}

theorem makeFolder_eq_ok_iff : tree.makeFolder path = .ok newer ↔
    ∃ place slash, tree.newPlace path = .ok (some (place, slash)) ∧ tree.find? place = none ∧
      newer = tree.put place .folder := by
  rw [makeFolder]
  constructor
  · intro made
    split at made
    · cases made
    · cases made
    next place slash named =>
      split at made
      · cases made
      next free => exact ⟨place, slash, named, free, (Except.ok.inj made).symm⟩
  · rintro ⟨place, slash, named, free, rfl⟩
    simp only [named, free]

/-- What is there already is told apart from a path on which something is missing. -/
theorem makeFolder_of_isFolder (there : tree.isFolder path = true) :
    tree.makeFolder path = .error .alreadyThere := by
  obtain ⟨place, located, folder⟩ := isFolder_iff.mp there
  obtain ⟨usable, walked⟩ := locate_eq_ok_iff.mp located
  have nonempty := usable.nonempty
  have noNul := usable.noNul
  have taken := usable.taken
  rw [makeFolder, newPlace]
  simp only [nonempty, noNul, taken, Bool.false_eq_true, if_false, Bool.not_true]
  cases parts : splitLast path with
  | none => rfl
  | some split =>
    obtain ⟨front, last, slash⟩ := split
    obtain ⟨visible, back, whole⟩ := pieces_of_splitLast parts
    rw [whole, walk_append] at walked
    cases way : tree.walk (tree.base path) front with
    | error fault =>
      rw [way] at walked
      cases walked
    | ok folder =>
      rw [way] at walked
      have inside := folder_of_walk walked
      simp only [walk_concat_nil.mpr ⟨way, inside⟩]
      by_cases dots : last = ['.'] ∨ last = ['.', '.']
      · rw [if_pos dots]
      · have busy : Path.isIdle last = false := Path.isIdle_eq_false_iff.mpr ⟨visible, (not_or.mp dots).1⟩
        have passed : tree.walk folder (last :: back) = .ok place := walked
        rw [walk, inside] at passed
        simp only [busy, (not_or.mp dots).2, Bool.false_eq_true, if_false] at passed
        split at passed
        · cases passed
        next short =>
          split at passed
          next there =>
            obtain ⟨entry, found⟩ := Option.isSome_iff_exists.mp there
            simp only [if_neg dots, if_neg short, found]
          next => cases passed

/-! ### Trees with more folders -/

/-- Whether a tree differs from an older one in new folders only, and named paths lead to them. -/
structure MakesFolders (older newer : FileTree) (named : Path → Prop) : Prop where
  here : newer.here = older.here
  kept : ∀ place entry, older.find? place = some entry → newer.find? place = some entry
  made : ∀ place entry, older.find? place = none → newer.find? place = some entry →
    entry = .folder ∧ ∃ path, named path ∧ newer.locate path = .ok place
  sound : older.IsSound → newer.IsSound

namespace MakesFolders

variable {named others : Path → Prop}

theorem refl (tree : FileTree) (named : Path → Prop) : tree.MakesFolders tree named where
  here := rfl
  kept := fun _ _ found => found
  made := fun _ _ free found => by
    rw [free] at found
    cases found
  sound := id

theorem base_eq (makes : older.MakesFolders newer named) (path : Path) : newer.base path = older.base path := by
  rw [base, base, makes.here]

theorem walk (makes : older.MakesFolders newer named) {target : Location} {pieces : List (List Char)}
    (reached : older.walk place pieces = .ok target) : newer.walk place pieces = .ok target := by
  refine walk_of_folders (fun place => makes.kept place .folder) reached fun there => ?_
  obtain ⟨entry, found⟩ := Option.isSome_iff_exists.mp there
  rw [makes.kept _ _ found]
  rfl

/-- A path leads to where it has led. -/
theorem locate (makes : older.MakesFolders newer named) (located : older.locate path = .ok place) :
    newer.locate path = .ok place := by
  obtain ⟨usable, walked⟩ := locate_eq_ok_iff.mp located
  rw [← makes.base_eq] at walked
  exact locate_eq_ok_iff.mpr ⟨usable, makes.walk walked⟩

theorem entry? (makes : older.MakesFolders newer named) {entry : Entry}
    (found : older.entry? path = some entry) : newer.entry? path = some entry := by
  obtain ⟨place, located, there⟩ := entry?_eq_some_iff.mp found
  exact entry?_eq_some_iff.mpr ⟨place, makes.locate located, makes.kept place entry there⟩

theorem mono (makes : older.MakesFolders newer named) (more : ∀ path, named path → others path) :
    older.MakesFolders newer others where
  here := makes.here
  kept := makes.kept
  made := by
    intro place entry free found
    obtain ⟨folder, path, inside, located⟩ := makes.made place entry free found
    exact ⟨folder, path, more path inside, located⟩
  sound := makes.sound

theorem trans (first : older.MakesFolders middle named) (second : middle.MakesFolders newer named) :
    older.MakesFolders newer named where
  here := second.here.trans first.here
  kept := fun place entry found => second.kept place entry (first.kept place entry found)
  made := by
    intro place entry free found
    cases between : middle.find? place with
    | none => exact second.made place entry between found
    | some old =>
      obtain ⟨rfl, path, inside, located⟩ := first.made place old free between
      rw [second.kept place .folder between] at found
      exact ⟨(Option.some.inj found).symm, path, inside, second.locate located⟩
  sound := second.sound ∘ first.sound

end MakesFolders

/-- What is put at a free place changes nothing. -/
theorem find?_put_of_free (nonempty : place ≠ []) (free : tree.find? place = none) (new : Entry)
    {other : Location} {entry : Entry} (found : tree.find? other = some entry) :
    (tree.put place new).find? other = some entry := by
  rw [find?_put tree nonempty, if_neg, found]
  rintro rfl
  rw [free] at found
  cases found

private theorem makesFolders_makeFolder (made : tree.makeFolder path = .ok newer) :
    tree.MakesFolders newer (· = path) := by
  obtain ⟨place, slash, named, free, rfl⟩ := makeFolder_eq_ok_iff.mp made
  have nonempty := newPlace_ne_nil named
  have kept (other : Location) (entry : Entry) (found : tree.find? other = some entry) :
      (tree.put place .folder).find? other = some entry := find?_put_of_free nonempty free .folder found
  have there : (tree.put place .folder).find? place = some .folder := by
    rw [find?_put tree nonempty, if_pos rfl]
  obtain ⟨usable, front, last, folder, parts, walked, inside, rest⟩ := newPlace_eq_some_iff.mp named
  -- the folder around the new one has been there before, so the path leads there still
  have moved : (tree.put place .folder).newPlace path = .ok (some (place, slash)) := by
    refine newPlace_eq_some_iff.mpr ⟨usable, front, last, folder, parts, ?_, kept _ _ inside, rest⟩
    refine walk_of_folders (fun place => kept place .folder) walked fun _ => ?_
    rw [kept _ _ inside]
    rfl
  constructor
  · rfl
  · exact kept
  · intro other entry was found
    rw [find?_put tree nonempty] at found
    split at found
    next same =>
      subst same
      exact ⟨(Option.some.inj found).symm, path, rfl, locate_newFolder moved there⟩
    next =>
      rw [was] at found
      cases found
  · intro sound upper name entry found
    rw [find?_put tree nonempty] at found
    split at found
    next same =>
      obtain ⟨-, -, rfl⟩ := rest
      obtain ⟨rfl, -⟩ := List.append_inj' same rfl
      exact kept _ _ inside
    next => exact kept _ _ (sound upper name entry found)

/-- A folder is made together with folders that its path names further up. -/
theorem makesFolders_makeFolders (tree : FileTree) (path : Path) (depth : Nat) :
    tree.MakesFolders (tree.makeFolders path depth).1
      (Relation.ReflTransGen Path.IsParent · path) := by
  induction depth generalizing path with
  | zero => exact .refl tree _
  | succ depth ih =>
    have own {older newer : FileTree} (made : older.makeFolder path = .ok newer) :
        older.MakesFolders newer (Relation.ReflTransGen Path.IsParent · path) :=
      (makesFolders_makeFolder made).mono fun upper same => same ▸ .refl
    rw [makeFolders]
    split
    · exact .refl tree _
    · split
      next made => exact own made
      next missing =>
        split
        · exact .refl tree _
        next parent found =>
          have above : tree.MakesFolders (tree.makeFolders parent depth).1
              (Relation.ReflTransGen Path.IsParent · path) :=
            (ih parent).mono fun upper further => further.tail found
          split
          next failed =>
            rw [failed] at above
            exact above
          next reached =>
            rw [reached] at above
            split
            next made => exact above.trans (own made)
            next => exact above
      next => exact .refl tree _

/-- If folders could not be made, the path leads to none. -/
theorem isFolder_of_makeFolders {depth : Nat} {fault : Fault} (enough : path.text.length < depth)
    (failed : tree.makeFolders path depth = (newer, some fault)) : newer.isFolder path = false := by
  induction depth generalizing path newer fault with
  | zero => omega
  | succ depth ih =>
    rw [makeFolders] at failed
    split at failed
    · cases failed
    next written =>
      split at failed
      · cases failed
      next missing =>
        have absent : ¬ tree.isFolder path = true := by
          intro there
          rw [makeFolder_of_isFolder there] at missing
          cases missing
        split at failed
        · cases failed
          exact eq_false_of_ne_true absent
        next parent found =>
          split at failed
          next stopped =>
            cases failed
            have shorter := Path.length_parent found
            have nonempty : parent.text ≠ "" := by
              intro empty
              cases depth with
              | zero => omega
              | succ depth =>
                rw [makeFolders, if_pos (by rw [empty]; rfl)] at stopped
                cases stopped
            have upper := ih (by omega) stopped
            refine eq_false_of_ne_true fun there => ?_
            obtain ⟨place, located, -⟩ := isFolder_iff.mp there
            rw [isFolder_parent located found nonempty] at upper
            cases upper
          next reached =>
            split at failed
            · cases failed
            · split at failed
              · cases failed
              next gone =>
                cases failed
                exact eq_false_of_ne_true gone
      next other =>
        split at failed
        · cases failed
        next gone =>
          cases failed
          exact eq_false_of_ne_true gone

/-! ### Folders for a file -/

theorem makesFolders_ensureParent (tree : FileTree) (path : Path) :
    tree.MakesFolders (tree.ensureParent path).1 (·.IsAbove path) := by
  rw [ensureParent]
  split
  next parent found =>
    split
    · exact .refl tree _
    · rw [ensureFolder]
      split
      · exact (makesFolders_makeFolders tree parent _).mono fun upper further => .tail' further found
      · split
        · exact .refl tree _
        · exact .refl tree _
  next => exact .refl tree _

/-- If the folders for a file could not be made, its path leads nowhere. -/
theorem entry?_of_ensureParent {failure : Failure} (failed : tree.ensureParent path = (newer, some failure)) :
    newer.entry? path = none := by
  rw [ensureParent] at failed
  split at failed
  next parent found =>
    split at failed
    · cases failed
    next written =>
      have nonempty : parent.text ≠ "" := by simpa using written
      have absent : newer.isFolder parent = false := by
        rw [ensureFolder] at failed
        split at failed
        · cases stopped : tree.makePath parent with
          | mk made fault? =>
            rw [stopped] at failed
            cases fault? with
            | none => cases failed
            | some fault =>
              cases failed
              exact isFolder_of_makeFolders (Nat.lt_succ_self _) stopped
        · split at failed
          next gone =>
            cases failed
            simpa using gone
          next => cases failed
      rw [FileTree.entry?]
      split
      next place located =>
        rw [isFolder_parent located found nonempty] at absent
        cases absent
      next => rfl
  next => cases failed

/-! ### Paths that do not climb -/

/-- Without steps up, a walk puts the names of its pieces behind the place where it begins. -/
theorem place_of_walk {target : Location} {pieces : List (List Char)} (down : ['.', '.'] ∉ pieces)
    (reached : tree.walk place pieces = .ok target) :
    target = place ++ (pieces.filter (!Path.isIdle ·)).map String.ofList := by
  induction pieces generalizing place with
  | nil => simpa [walk, eq_comm] using reached
  | cons piece pieces ih =>
    have found := folder_of_walk reached
    rw [List.mem_cons, not_or] at down
    rw [walk, found] at reached
    simp only [Ne.symm down.1, if_false] at reached
    split at reached
    next idle =>
      rw [List.filter_cons_of_neg (by simp [idle])]
      exact ih down.2 reached
    next busy =>
      rw [List.filter_cons_of_pos (by simp [busy]), List.map_cons]
      split at reached
      · cases reached
      · split at reached
        · rw [ih down.2 reached, List.append_assoc, List.singleton_append]
        · cases reached

/-- A place that has been there before is reached as before, unless the path climbs. -/
theorem MakesFolders.walk_back {named : Path → Prop} (makes : older.MakesFolders newer named)
    (sound : older.IsSound) {target : Location} {pieces : List (List Char)} {entry : Entry}
    (down : ['.', '.'] ∉ pieces) (reached : newer.walk place pieces = .ok target)
    (there : older.find? target = some entry) : older.walk place pieces = .ok target := by
  induction pieces generalizing place with
  | nil => exact reached
  | cons piece pieces ih =>
    have found := folder_of_walk reached
    obtain ⟨above, before⟩ := sound.exists_above (place_of_walk down reached ▸ there)
    obtain rfl : above = .folder := Option.some.inj ((makes.kept _ _ before).symm.trans found)
    rw [List.mem_cons, not_or] at down
    rw [FileTree.walk, found] at reached
    rw [FileTree.walk, before]
    simp only [Ne.symm down.1, if_false] at reached ⊢
    split
    next idle =>
      rw [if_pos idle] at reached
      exact ih down.2 reached
    next busy =>
      rw [if_neg busy] at reached
      split
      next long =>
        rw [if_pos long] at reached
        cases reached
      next short =>
        rw [if_neg short] at reached
        split at reached
        next =>
          obtain ⟨next, passed⟩ := sound.exists_above (place_of_walk down.2 reached ▸ there)
          rw [passed, Option.isSome_some, if_pos rfl]
          exact ih down.2 reached
        next => cases reached

/-- What is above a path that does not climb leads to a place further up. -/
theorem length_place_of_above {upper : Path} {target : Location} (above : upper.IsAbove path)
    (down : ¬ path.Climbs) (led : tree.locate upper = .ok target) (located : tree.locate path = .ok place) :
    target.length < place.length := by
  obtain ⟨usable, high⟩ := locate_eq_ok_iff.mp led
  obtain ⟨-, low⟩ := locate_eq_ok_iff.mp located
  have written : upper.text ≠ "" := by
    intro empty
    have nonempty := usable.nonempty
    rw [empty] at nonempty
    cases nonempty
  have upperDown : ¬ upper.Climbs := fun climbs => down (above.climbs written climbs)
  rw [Path.climbs_iff_mem_pieces] at down upperDown
  obtain ⟨pieces, some, parts⟩ := above.active written
  have count : path.active.length = upper.active.length + pieces.length := by
    rw [parts, List.length_append]
  have more : 0 < pieces.length := List.length_pos_iff.mpr some
  rw [place_of_walk upperDown high, place_of_walk down low, base_eq_of_start above.text_prefix written,
    List.length_append, List.length_append, List.length_map, List.length_map, ← Path.active, ← Path.active]
  omega

/-- A path that does not climb leads to nothing new when folders above it have been made. -/
theorem MakesFolders.entry?_eq (makes : older.MakesFolders newer (·.IsAbove path)) (sound : older.IsSound)
    (down : ¬ path.Climbs) : newer.entry? path = older.entry? path := by
  cases was : older.entry? path with
  | some entry => exact makes.entry? was
  | none =>
    rw [FileTree.entry?] at was ⊢
    split
    next place located =>
      cases now : newer.find? place with
      | none => rfl
      | some entry =>
        exfalso
        cases before : older.find? place with
        | some old =>
          obtain ⟨usable, walked⟩ := locate_eq_ok_iff.mp located
          have back := makes.walk_back sound (down ∘ Path.climbs_iff_mem_pieces.mpr) walked before
          rw [makes.base_eq] at back
          rw [locate_eq_ok_iff.mpr ⟨usable, back⟩] at was
          simp only [before] at was
          cases was
        | none =>
          obtain ⟨-, upper, above, led⟩ := makes.made place entry before now
          exact absurd (length_place_of_above above down led located) (Nat.lt_irrefl _)
    next => rfl

end SlidePress.FileTree
