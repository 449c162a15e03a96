import Mathlib.Data.List.Nodup
import Mathlib.Data.String.Basic
import SlidePress.Glob.Search
import SlidePress.Proofs.FolderPaths

/-! What is in a folder, and the paths that lead to it when a piece is put behind the path of the folder. -/

namespace SlidePress

namespace FileTree

/-- Whether a tree is one of real files: each has a place of its own, a valid name, and a folder around it. -/
structure IsGenuine (tree : FileTree) : Prop where
  distinct : (tree.entries.map Prod.fst).Nodup
  named : ∀ entry ∈ tree.entries, ∀ name ∈ entry.1, IsFileName name
  sound : tree.IsSound

def IsRegular (tree : FileTree) (place : Location) : Prop :=
  ∃ content runnable, tree.find? place = some (.file content runnable)

variable {tree : FileTree} {place : Location} {name : String}

theorem IsRegular.isSome (regular : tree.IsRegular place) : (tree.find? place).isSome = true := by
  obtain ⟨content, runnable, found⟩ := regular
  rw [found]
  rfl

private theorem isSome_find?_concat_iff :
    (tree.find? (place ++ [name])).isSome = true ↔ place ++ [name] ∈ tree.entries.map Prod.fst := by
  rw [find?, if_neg (List.append_ne_nil_of_right_ne_nil place (List.cons_ne_nil name [])),
    List.lookup_isSome_iff, List.mem_map]
  simp [@eq_comm _ (place ++ [name])]

theorem mem_children_iff :
    name ∈ tree.children place ↔ (tree.find? (place ++ [name])).isSome = true := by
  rw [isSome_find?_concat_iff, List.mem_map, children, List.mem_filterMap]
  refine exists_congr fun entry => and_congr_right fun _ => ?_
  show (if entry.1.dropLast = place then entry.1.getLast? else none) = some name ↔ _
  rw [Option.ite_none_right_eq_some, List.getLast?_eq_some_iff]
  constructor
  · rintro ⟨inside, front, whole⟩
    rw [whole, List.dropLast_concat] at inside
    rw [whole, inside]
  · intro whole
    rw [whole, List.dropLast_concat]
    exact ⟨rfl, place, rfl⟩

theorem nodup_children (genuine : tree.IsGenuine) (place : Location) : (tree.children place).Nodup := by
  have names : tree.children place = (tree.entries.map Prod.fst).filterMap fun found =>
      if found.dropLast = place then found.getLast? else none := by
    rw [List.filterMap_map]
    rfl
  rw [names]
  refine List.Nodup.filterMap (fun first second name own own' => ?_) genuine.distinct
  simp only [Option.mem_def, Option.ite_none_right_eq_some] at own own'
  obtain ⟨front, rfl⟩ := List.getLast?_eq_some_iff.mp own.2
  obtain ⟨front', rfl⟩ := List.getLast?_eq_some_iff.mp own'.2
  rw [List.dropLast_concat] at own own'
  rw [own.1, own'.1]

theorem IsGenuine.isFileName (genuine : tree.IsGenuine)
    (there : (tree.find? (place ++ [name])).isSome = true) : IsFileName name := by
  obtain ⟨entry, inside, whole⟩ := List.mem_map.mp (isSome_find?_concat_iff.mp there)
  exact genuine.named entry inside name (whole ▸ List.mem_append_right place List.mem_cons_self)

theorem isGenuine_of_entries (distinct : (tree.entries.map Prod.fst).Nodup)
    (named : ∀ entry ∈ tree.entries, ∀ name ∈ entry.1, IsFileName name)
    (around : ∀ entry ∈ tree.entries, tree.find? entry.1.dropLast = some .folder) : tree.IsGenuine where
  distinct := distinct
  named := named
  sound := by
    intro folder name own found
    obtain ⟨entry, inside, whole⟩ := List.mem_map.mp (isSome_find?_concat_iff.mp (by rw [found]; rfl))
    have upper := around entry inside
    rwa [whole, List.dropLast_concat] at upper

/-- The folder around a folder is one. -/
theorem IsSound.dropLast (sound : tree.IsSound) (there : tree.find? place = some .folder) :
    tree.find? place.dropLast = some .folder := by
  rcases List.eq_nil_or_concat' place with rfl | ⟨front, name, rfl⟩
  · exact there
  · rw [List.dropLast_concat]
    exact sound front name _ there

theorem isFile_iff {path : Path} : tree.isFile path = true ↔
    ∃ place, tree.locate path = .ok place ∧ tree.IsRegular place := by
  rw [isFile, entry?]
  cases tree.locate path with
  | error fault => simp
  | ok place =>
    simp only [Except.ok.injEq, exists_eq_left', IsRegular]
    cases tree.find? place with
    | none => simp
    | some entry => cases entry <;> simp

structure Leads (tree : FileTree) (path : Path) (place : Location) : Prop where
  located : tree.locate path = .ok place
  folder : tree.find? place = some .folder

/-- What one piece leads to from a folder. -/
theorem walk_singleton_iff (there : tree.find? place = some .folder) {piece : List Char} {target : Location} :
    tree.walk place [piece] = .ok target ↔
      if Path.isIdle piece then target = place
      else if piece = ['.', '.'] then target = place.dropLast
      else (String.ofList piece).utf8ByteSize ≤ longestName ∧
        (tree.find? (place ++ [String.ofList piece])).isSome = true ∧ target = place ++ [String.ofList piece] := by
  rw [walk, there]
  simp only [walk]
  split
  · rw [Except.ok.injEq, eq_comm]
  · split
    · rw [Except.ok.injEq, eq_comm]
    · split
      next long => simp [Nat.not_le.mpr long]
      next short =>
        split
        next found => simp [Nat.le_of_not_lt short, found, eq_comm]
        next missing => simp [missing]

end FileTree

namespace Glob

open FileTree

variable {tree : FileTree} {path : Path} {place target : Location} {piece : List Char}

/-! ### Paths of what is in a folder -/

def lead (folder : Path) : List Char := if folder.steps = [.here] then [] else folder.opened

theorem text_inside (path : Path) (uncut : '/' ∉ piece) :
    (inside path piece).text.toList = lead path ++ piece := by
  rw [inside, lead]
  split
  · exact String.toList_ofList
  · rw [Path.toList_join (by rwa [String.toList_ofList]), String.toList_ofList]

theorem steps_eq_here_iff : path.steps = [.here] ↔ path.frontSteps = [.here] ∧ path.active = [] := by
  constructor
  · intro here
    have nothing : path.active = [] := by
      rw [Path.active_eq_filterMap, here]
      rfl
    rw [Path.steps_eq, nothing] at here
    exact ⟨by rwa [List.map_nil, List.append_nil] at here, nothing⟩
  · rintro ⟨front, nothing⟩
    rw [Path.steps_eq, front, nothing]
    rfl

theorem active_join_piece (uncut : '/' ∉ piece) (path : Path) :
    (path.join ⟨String.ofList piece⟩).active = path.active ++ [piece].filter (!Path.isIdle ·) := by
  obtain ⟨front, parts, same⟩ := Path.pieces_join (by rwa [String.toList_ofList]) path
  rw [Path.active, parts, List.filter_append, same, String.toList_ofList]

theorem locate_join_iff (leads : tree.Leads path place) (uncut : '/' ∉ piece) :
    tree.locate (path.join ⟨String.ofList piece⟩) = .ok target ↔
      IsUsable (path.join ⟨String.ofList piece⟩) ∧ tree.walk place [piece] = .ok target := by
  have uncut' : '/' ∉ (String.ofList piece).toList := by rwa [String.toList_ofList]
  obtain ⟨usable, walked⟩ := locate_folder_iff.mp ⟨leads.located, leads.folder⟩
  have written : path.text ≠ "" := by
    have nonempty := usable.nonempty
    rintro empty
    rw [empty] at nonempty
    cases nonempty
  have begins : path.text.toList <+: (path.join ⟨String.ofList piece⟩).text.toList := by
    rw [Path.toList_join uncut']
    rcases path.opened_cases with ⟨empty, -⟩ | ⟨front, opened, ⟨text, -⟩ | text⟩
    · exact absurd (String.toList_eq_nil_iff.mp empty) written
    · rw [opened, text, List.append_assoc]
      exact List.prefix_append ..
    · rw [opened, text]
      exact List.prefix_append ..
  obtain ⟨front, parts, same⟩ := Path.pieces_join uncut' path
  rw [← same, walk_filter] at walked
  rw [locate_eq_ok_iff, parts, String.toList_ofList, ← base_eq_of_start begins written, walk_append,
    (walk_concat_nil.mp walked).1]
  rfl

theorem locate_inside_iff (leads : tree.Leads path place) (uncut : '/' ∉ piece) :
    tree.locate (inside path piece) = .ok target ↔
      IsUsable (inside path piece) ∧ tree.walk place [piece] = .ok target := by
  by_cases here : path.steps = [.here]
  · -- the path leads to the folder where paths without a slash in front begin
    have home : place = tree.here := by
      obtain ⟨-, walked⟩ := locate_folder_iff.mp ⟨leads.located, leads.folder⟩
      have relative : ¬ path.isAbsolute = true := by
        rw [Path.isAbsolute_iff_steps, here]
        nofun
      rw [(steps_eq_here_iff.mp here).2, base, if_neg relative] at walked
      exact (Except.ok.inj (walk_concat_nil.mp walked).1).symm
    have uncut' : '/' ∉ (String.ofList piece).toList := by rwa [String.toList_ofList]
    rw [inside, if_pos here, locate_eq_ok_iff, base, if_neg (Path.not_isAbsolute uncut'),
      Text.pieces_eq_splitOn, List.splitOn_eq_singleton uncut', String.toList_ofList, home]
  · rw [inside, if_neg here]
    exact locate_join_iff leads uncut

theorem text_ne_of_leads (leads : tree.Leads path place) : path.text ≠ "" := by
  obtain ⟨usable, -⟩ := locate_eq_ok_iff.mp leads.located
  have nonempty := usable.nonempty
  rintro empty
  rw [empty] at nonempty
  cases nonempty

/-- Whether a text could be that of a path that the system takes. -/
structure IsClean (text : List Char) : Prop where
  noNul : '\x00' ∉ text
  short : String.utf8Len text ≤ longestPath

theorem IsClean.sublist {text whole : List Char} (clean : IsClean whole) (inside : text.Sublist whole) :
    IsClean text where
  noNul := fun found => clean.noNul (inside.subset found)
  short := Nat.le_trans (String.utf8Len_le_of_sublist inside) clean.short

private theorem utf8ByteSize_eq (text : String) : text.utf8ByteSize = String.utf8Len text.toList := by
  rw [← String.utf8ByteSize_ofList, String.ofList_toList]

theorem isUsable_iff : IsUsable path ↔ path.text ≠ "" ∧ IsClean path.text.toList := by
  have empty : path.text.toList.isEmpty = false ↔ path.text ≠ "" := by
    rw [List.isEmpty_eq_false_iff, Ne, String.toList_eq_nil_iff]
  have nul : path.text.toList.contains '\x00' = false ↔ '\x00' ∉ path.text.toList := by
    rw [List.contains_eq_mem, decide_eq_false_iff_not]
  constructor
  · rintro ⟨nonempty, noNul, taken⟩
    rw [isTaken, String.contains_char_eq, ← List.contains_eq_mem, noNul, Bool.false_or, decide_eq_true_iff,
      utf8ByteSize_eq] at taken
    exact ⟨empty.mp nonempty, nul.mp noNul, taken⟩
  · rintro ⟨nonempty, noNul, short⟩
    rw [← utf8ByteSize_eq] at short
    exact ⟨empty.mpr nonempty, nul.mpr noNul, isTaken_of_short short⟩

/-- The slash that may have to be put behind a path is all that is new. -/
theorem lead_sublist (path : Path) : (lead path).Sublist (path.text.toList ++ ['/']) := by
  rw [lead, Path.opened]
  split
  · exact List.nil_sublist _
  · split
    · exact List.sublist_append_left ..
    · exact List.Sublist.refl _

theorem isUsable_inside (written : path.text ≠ "") (uncut : '/' ∉ piece) (clean : IsClean (lead path ++ piece))
    (kept : ¬ (path.steps = [.here] ∧ piece = [])) : IsUsable (inside path piece) := by
  rw [isUsable_iff, Ne, ← String.toList_eq_nil_iff, text_inside path uncut, List.append_eq_nil_iff]
  refine ⟨fun ⟨empty, nothing⟩ => ?_, clean⟩
  rw [lead] at empty
  split at empty
  next here => exact kept ⟨here, nothing⟩
  next =>
    rcases path.opened_cases with ⟨none, -⟩ | ⟨front, opened, -⟩
    · exact written (String.toList_eq_nil_iff.mp none)
    · rw [opened] at empty
      exact List.append_ne_nil_of_right_ne_nil front (List.cons_ne_nil _ _) empty

end Glob

end SlidePress
