import SlidePress.Proofs.FolderContents
import SlidePress.Proofs.GlobPatterns

/-! One step of a search. A piece of the path of a folder leads to what it says, and the names in the folder
are those that the tokens of a piece spell. -/

namespace SlidePress.Glob

open FileTree

variable {tree : FileTree} {path : Path} {place target : Location} {piece : List Char}

/-! ### Following a path -/

theorem map_escaped_ne (piece : List Char) : piece.map escaped ≠ [.anySteps] := by
  intro same
  obtain ⟨char, -, own⟩ := List.mem_map.mp (same ▸ List.mem_singleton_self Token.anySteps)
  rw [escaped] at own
  split at own <;> cases own

private theorem namesIn_eq (leads : tree.Leads path place) : namesIn tree path = tree.children place := by
  have found : folderAt? tree path = some place := by
    rw [folderAt?, if_pos (isFolder_iff.mpr ⟨place, leads.located, leads.folder⟩), leads.located]
    rfl
  rw [namesIn, found]

private theorem matchesText_escaped_iff {other : List Char} :
    matchesText (piece.map escaped) other = true ↔ other = piece :=
  matchesText_iff.trans spells_escaped_iff

private theorem filter_children_escaped (genuine : tree.IsGenuine)
    (there : (tree.find? (place ++ [String.ofList piece])).isSome = true) :
    (tree.children place).filter (fun name => matchesText (piece.map escaped) name.toList) =
      [String.ofList piece] := by
  have same : (fun name : String => matchesText (piece.map escaped) name.toList) = (· == String.ofList piece) := by
    funext name
    rw [Bool.eq_iff_iff, matchesText_escaped_iff, beq_iff_eq, ← String.toList_inj, String.toList_ofList]
  have among : String.ofList piece ∈ tree.children place := mem_children_iff.mpr there
  rw [same, List.filter_beq, List.count_eq_one_of_mem (nodup_children genuine place) among]
  rfl

private theorem specialSteps_escaped (notDot : piece ≠ ['.']) (notUp : piece ≠ ['.', '.']) :
    specialSteps (piece.map escaped) = [] := by
  rw [specialSteps]
  split
  · rw [List.filter_eq_nil_iff]
    intro other inside
    rw [matchesText_escaped_iff]
    simp only [List.mem_cons, List.not_mem_nil, or_false] at inside
    rcases inside with rfl | rfl
    · exact notDot.symm
    · exact notUp.symm
  · rfl

/-- A piece of the path of a folder leads to what it says and to nothing else. -/
theorem step_escaped (genuine : tree.IsGenuine) (leads : tree.Leads path place) (uncut : '/' ∉ piece)
    (located : tree.locate (inside path piece) = .ok target) (there : (tree.find? target).isSome = true) :
    step tree path (piece.map escaped) = [inside path piece] := by
  rw [step]
  cases plain : literal? (piece.map escaped) with
  | some name =>
    obtain rfl : piece = name := (spells_iff_of_literal plain).mp (spells_escaped_iff.mpr rfl)
    have reached : (if isSpecial piece then tree.isFolder path else tree.holds (inside path piece)) = true := by
      split
      · exact isFolder_iff.mpr ⟨place, leads.located, leads.folder⟩
      · rw [holds, entry?, located]
        exact there
    simp only [reached, if_true]
  | none =>
    -- a piece without a literal has a special character in it, so it is the name of something
    have notEmpty : piece ≠ [] := by rintro rfl; cases plain
    have notDot : piece ≠ ['.'] := by rintro rfl; cases plain
    have notUp : piece ≠ ['.', '.'] := by rintro rfl; cases plain
    obtain ⟨-, walked⟩ := (locate_inside_iff leads uncut).mp located
    rw [walk_singleton_iff leads.folder, Path.isIdle_eq_false_iff.mpr ⟨notEmpty, notDot⟩, if_neg Bool.false_ne_true,
      if_neg notUp] at walked
    simp only [namesIn_eq leads, filter_children_escaped genuine walked.2.1, specialSteps_escaped notDot notUp,
      ite_self, List.map_singleton, List.map_nil, List.append_nil, String.toList_ofList]

/-! ### Names in a folder -/

private theorem not_isRegular (there : tree.find? place = some .folder) : ¬ tree.IsRegular place := by
  rintro ⟨content, runnable, found⟩
  rw [there] at found
  cases found

/-- Only a name leads from a folder to a file. -/
theorem name_of_isRegular (genuine : tree.IsGenuine) (there : tree.find? place = some .folder)
    (walked : tree.walk place [piece] = .ok target) (regular : tree.IsRegular target) :
    ¬ (piece = ['.'] ∨ piece = ['.', '.']) ∧ target = place ++ [String.ofList piece] := by
  rw [walk_singleton_iff there] at walked
  split at walked
  next => exact absurd (walked ▸ regular) (not_isRegular there)
  next busy =>
    split at walked
    next => exact absurd (walked ▸ regular) (not_isRegular (genuine.sound.dropLast there))
    next notUp =>
      refine ⟨not_or.mpr ⟨?_, notUp⟩, walked.2.2⟩
      rintro rfl
      exact busy rfl

theorem isFile_inside_iff (genuine : tree.IsGenuine) (leads : tree.Leads path place) (uncut : '/' ∉ piece)
    (nonempty : piece ≠ []) : tree.isFile (inside path piece) = true ↔
      tree.IsRegular (place ++ [String.ofList piece]) ∧ isTaken (inside path piece) = true := by
  rw [isFile_iff]
  constructor
  · rintro ⟨target, located, regular⟩
    obtain ⟨usable, walked⟩ := (locate_inside_iff leads uncut).mp located
    obtain ⟨-, rfl⟩ := name_of_isRegular genuine leads.folder walked regular
    exact ⟨regular, usable.taken⟩
  · rintro ⟨regular, taken⟩
    have there := regular.isSome
    have valid := genuine.isFileName there
    have usable : IsUsable (inside path piece) := by
      refine ⟨?_, ?_, taken⟩
      · rw [List.isEmpty_eq_false_iff, text_inside path uncut]
        exact List.append_ne_nil_of_right_ne_nil _ nonempty
      · have clean := (isUsable_iff.mp (locate_eq_ok_iff.mp leads.located).1).2.noNul
        have noNul := valid.noNul
        rw [String.toList_ofList, List.contains_eq_mem, decide_eq_false_iff_not] at noNul
        rw [List.contains_eq_mem, decide_eq_false_iff_not, text_inside path uncut, List.mem_append, not_or]
        refine ⟨fun found => ?_, noNul⟩
        have among := (lead_sublist path).subset found
        rw [List.mem_append, or_iff_right clean] at among
        exact absurd among (by decide)
    refine ⟨_, (locate_inside_iff leads uncut).mpr ⟨usable, (walk_singleton_iff leads.folder).mpr ?_⟩, regular⟩
    have step := valid.step
    rw [String.toList_ofList] at step
    rw [step.active, if_neg nofun, if_neg step.notUp]
    exact ⟨valid.short, there, rfl⟩

theorem locate_of_isFile (genuine : tree.IsGenuine) (leads : tree.Leads path place) (uncut : '/' ∉ piece)
    (found : tree.isFile (inside path piece) = true) :
    tree.locate (inside path piece) = .ok (place ++ [String.ofList piece]) := by
  obtain ⟨target, located, regular⟩ := isFile_iff.mp found
  obtain ⟨-, walked⟩ := (locate_inside_iff leads uncut).mp located
  rw [located, (name_of_isRegular genuine leads.folder walked regular).2]

/-- Whether a name in a folder is that of a file and is spelled by tokens. -/
structure IsMatch (tree : FileTree) (place : Location) (tokens : List Token) (name : String) : Prop where
  regular : tree.IsRegular (place ++ [name])
  spelled : Spells tokens name.toList

section

variable {tokens : List Token}

theorem IsMatch.isFileName {name : String} (genuine : tree.IsGenuine)
    (matched : IsMatch tree place tokens name) : IsFileName name :=
  genuine.isFileName matched.regular.isSome

/-- Whether names are those in a folder that tokens spell, as far as the system takes their paths. -/
structure AreFound (tree : FileTree) (path : Path) (place : Location) (tokens : List Token)
    (names : List String) : Prop where
  distinct : names.Nodup
  mem_iff : ∀ name, name ∈ names ↔
    IsMatch tree place tokens name ∧ isTaken (inside path name.toList) = true

private theorem filter_step_literal (genuine : tree.IsGenuine) (leads : tree.Leads path place)
    {text : List Char}
    (plain : literal? tokens = some text) (uncut : '/' ∉ text) (visible : text ≠ []) :
    ∃ names, AreFound tree path place tokens names ∧
      (step tree path tokens).filter tree.isFile = names.map (inside path ·.toList) := by
  have exact := isFile_inside_iff genuine leads uncut visible
  have spells (name : String) : Spells tokens name.toList ↔ name = String.ofList text := by
    rw [spells_iff_of_literal plain, ← String.toList_inj, String.toList_ofList]
  rw [step, plain]
  cases found : tree.isFile (inside path text) with
  | true =>
    have reached : (if isSpecial text then tree.isFolder path else tree.holds (inside path text)) = true := by
      split
      · exact isFolder_iff.mpr ⟨place, leads.located, leads.folder⟩
      · obtain ⟨target, located, regular⟩ := isFile_iff.mp found
        rw [holds, entry?, located]
        exact regular.isSome
    obtain ⟨regular, taken⟩ := exact.mp found
    refine ⟨[String.ofList text], ⟨List.nodup_singleton _, fun name => ?_⟩, ?_⟩
    · rw [List.mem_singleton]
      constructor
      · rintro rfl
        rw [String.toList_ofList]
        exact ⟨⟨regular, (spells _).mpr rfl⟩, taken⟩
      · exact fun both => (spells name).mp both.1.spelled
    · simp only [reached, if_true, List.filter_cons, found, List.filter_nil, List.map_singleton,
        String.toList_ofList]
  | false =>
    refine ⟨[], ⟨List.nodup_nil, fun name => ?_⟩, ?_⟩
    · refine iff_of_false List.not_mem_nil ?_
      rintro ⟨⟨regular, spelled⟩, taken⟩
      obtain rfl := (spells name).mp spelled
      rw [String.toList_ofList] at taken
      rw [exact.mpr ⟨regular, taken⟩] at found
      cases found
    · rw [List.map_nil, List.filter_eq_nil_iff]
      intro next inside
      rw [List.mem_singleton.mp (List.mem_ite_nil_right.mp inside).2, found]
      exact Bool.false_ne_true

/-- The folder itself and the one around it are no files. -/
theorem not_isFile_special (genuine : tree.IsGenuine) (leads : tree.Leads path place) {other : Path}
    (inside : other ∈ (specialSteps tokens).map fun step => path.join ⟨String.ofList step⟩) :
    ¬ tree.isFile other = true := by
  obtain ⟨step, among, rfl⟩ := List.mem_map.mp inside
  have dots : step = ['.'] ∨ step = ['.', '.'] := by
    rw [specialSteps] at among
    split at among
    · simpa using List.mem_of_mem_filter among
    · cases among
  have uncut : '/' ∉ step := by
    rcases dots with rfl | rfl <;> decide
  rw [isFile_iff]
  rintro ⟨target, located, regular⟩
  obtain ⟨-, walked⟩ := (locate_join_iff leads uncut).mp located
  exact (name_of_isRegular genuine leads.folder walked regular).1 dots

private theorem filter_step_wild (genuine : tree.IsGenuine) (leads : tree.Leads path place)
    (wild : literal? tokens = none) :
    ∃ names, AreFound tree path place tokens names ∧
      (step tree path tokens).filter tree.isFile = names.map (inside path ·.toList) := by
  refine ⟨(tree.children place).filter fun name =>
    tree.isFile (inside path name.toList) && matchesText tokens name.toList,
    ⟨(nodup_children genuine place).filter _, fun name => ?_⟩, ?_⟩
  · rw [List.mem_filter, mem_children_iff, Bool.and_eq_true, matchesText_iff]
    have exact (there : (tree.find? (place ++ [name])).isSome = true) :=
      isFile_inside_iff genuine leads (genuine.isFileName there).step.uncut
        (genuine.isFileName there).step.ne_nil
    rw [String.ofList_toList] at exact
    constructor
    · rintro ⟨there, found, spelled⟩
      obtain ⟨regular, taken⟩ := (exact there).mp found
      exact ⟨⟨regular, spelled⟩, taken⟩
    · rintro ⟨⟨regular, spelled⟩, taken⟩
      exact ⟨regular.isSome, (exact regular.isSome).mpr ⟨regular, taken⟩, spelled⟩
  · have folder : tree.isFolder path = true := isFolder_iff.mpr ⟨place, leads.located, leads.folder⟩
    have none : ((specialSteps tokens).map fun step => path.join ⟨String.ofList step⟩).filter tree.isFile = [] :=
      List.filter_eq_nil_iff.mpr fun _ => not_isFile_special genuine leads
    rw [step, wild]
    simp only [folder, if_true]
    rw [List.filter_append, none, List.append_nil, List.filter_map, List.filter_filter, namesIn_eq leads]
    rfl

/-- The last piece of a pattern leads to the files in the folder that it spells. -/
theorem filter_step (genuine : tree.IsGenuine) (leads : tree.Leads path place)
    (chars : .char '/' ∉ tokens) (nonempty : tokens ≠ []) :
    ∃ names, AreFound tree path place tokens names ∧
      (step tree path tokens).filter tree.isFile = names.map (inside path ·.toList) := by
  cases plain : literal? tokens with
  | none => exact filter_step_wild genuine leads plain
  | some text =>
    have same := literal?_eq_some plain
    refine filter_step_literal genuine leads plain (fun found => chars ?_) fun empty => nonempty ?_
    · rw [same]
      exact List.mem_map_of_mem found
    · rw [same, empty]
      rfl

end

end SlidePress.Glob
