import SlidePress.Proofs.FolderSearch

/-! Which drawings are found. They are the files in the folder that the pattern spells, in order and each once,
whatever characters are in the path of the folder; but none of them is found if that path begins with dots and
goes on with an empty piece behind them. -/

namespace SlidePress

namespace Glob

open FileTree

variable {tree : FileTree} {folder : Path} {place : Location} {tokens : List Token}

/-! ### The order of what is found -/

private theorem before_self (step : Step) : step.before step = false := by
  cases step with
  | name text => simp [Step.before]
  | _ => rfl

theorem stepsBefore_append (front : List Step) (first second : List Step) :
    Path.stepsBefore (front ++ first) (front ++ second) = Path.stepsBefore first second := by
  induction front with
  | nil => rfl
  | cons step front ih => simp [Path.stepsBefore, before_self, ih]

/-- Paths of files in one folder stand in the order of their names. -/
theorem stepsBefore_foundPath {name other : String} (valid : IsFileName name) (valid' : IsFileName other) :
    Path.stepsBefore (foundPath folder name).steps (foundPath folder other).steps = decide (name < other) := by
  have own (name : String) (valid : IsFileName name) : (foundPath folder name).steps =
      (if (searched folder).steps = [.here] then [] else (searched folder).steps) ++ [.name name] := by
    rw [foundPath, inside, String.ofList_toList]
    split
    next =>
      have alone : (⟨""⟩ : Path).join ⟨name⟩ = ⟨name⟩ := by
        rw [Path.join, if_neg (Path.not_isAbsolute valid.step.uncut)]
        simp
      rw [← alone]
      exact Path.steps_join valid.step ⟨""⟩
    next => exact Path.steps_join valid.step _
  rw [own name valid, own other valid', stepsBefore_append]
  simp [Path.stepsBefore, Step.before]

private theorem ascending_mergeSort {names : List String} (distinct : names.Nodup) :
    names.mergeSort.Pairwise (· < ·) := by
  have apart : names.mergeSort.Nodup := (List.mergeSort_perm names _).nodup_iff.mpr distinct
  have weak : names.mergeSort.Pairwise fun first second => decide (first ≤ second) = true := by
    refine List.pairwise_mergeSort (fun first second third => ?_) (fun first second => ?_) names
    · simp only [decide_eq_true_iff]
      exact String.le_trans
    · rw [Bool.or_eq_true, decide_eq_true_iff, decide_eq_true_iff]
      exact String.le_total first second
  refine (weak.and apart).imp fun {first second} ⟨upTo, other⟩ => ?_
  refine Classical.byContradiction fun late => other ?_
  exact String.le_antisymm (of_decide_eq_true upTo) (String.not_lt.mp late)

end Glob

namespace Conversion

open FileTree Glob

variable {tree : FileTree} {folder : Path} {place : Location} {pattern : String} {tokens : List Token}

private theorem findDrawings_eq (genuine : tree.IsGenuine) (located : tree.locate folder = .ok place)
    (there : tree.find? place = some .folder) (uncut : '/' ∉ pattern.toList)
    (single : ¬ ['*', '*'] <:+: pattern.toList) (valid : Glob.parse pattern.toList = .ok tokens) :
    ∃ names : List String, names.Pairwise (· < ·) ∧
      (∀ name, name ∈ names ↔
        IsMatch tree place tokens name ∧ ¬ IsStray folder ∧ isTaken (foundPath folder name) = true) ∧
      (∀ name ∈ names, tree.locate (foundPath folder name) = .ok (place ++ [name])) ∧
      findDrawings tree folder pattern =
        if names = [] then .error (.noFilesFound pattern) else .ok (names.map (foundPath folder)) := by
  obtain ⟨names, distinct, exact, leads, paths⟩ := files_folder genuine located there uncut single valid
  have folderThere : tree.isFolder folder = true := isFolder_iff.mpr ⟨place, located, there⟩
  have holdsFolder : tree.holds folder = true := by
    rw [holds, entry?, located]
    simp only [there, Option.isSome_some]
  have required : tree.requireFolder folder = .ok () := by
    simp only [requireFolder, holdsFolder, folderThere, Bool.not_true, Bool.false_eq_true, if_false]
  have sorted : names.mergeSort.map (foundPath folder) = (names.map (foundPath folder)).mergeSort Path.notAfter := by
    refine List.map_mergeSort fun name inside other inside' => ?_
    have valid := ((exact name).mp inside).1.isFileName genuine
    have valid' := ((exact other).mp inside').1.isFileName genuine
    rw [Path.notAfter, stepsBefore_foundPath valid' valid, Bool.eq_iff_iff, decide_eq_true_iff,
      Bool.not_eq_true', decide_eq_false_iff_not, String.not_lt]
  have same := List.mergeSort_perm names (· ≤ ·)
  refine ⟨names.mergeSort, ascending_mergeSort distinct, fun name => by rw [same.mem_iff, exact],
    fun name inside => leads name (same.mem_iff.mp inside), ?_⟩
  rw [findDrawings, required, paths, sorted]
  cases names with
  | nil => simp
  | cons name names =>
    have several : (name :: names).mergeSort ≠ [] := fun none => List.cons_ne_nil name names (by
      rwa [none, List.nil_perm] at same)
    rw [if_neg several]
    rfl

/-! ### Trees with few drawings -/

private theorem not_isStray (uncut : '/' ∉ folder.text.toList) : ¬ IsStray folder := by
  rintro ⟨count, rest, parts⟩
  rw [Text.pieces_eq_splitOn, List.splitOn_eq_singleton uncut] at parts
  have lengths := congrArg List.length parts
  simp only [List.length_append, List.length_replicate, List.length_cons, List.length_nil] at lengths
  omega

private theorem eq_singleton {names : List String} (ascending : names.Pairwise (· < ·)) {name : String}
    (exact : ∀ other, other ∈ names ↔ other = name) : names = [name] := by
  have distinct : names.Nodup := by
    refine ascending.imp fun {first second} before same => ?_
    rw [same] at before
    exact String.lt_irrefl second before
  refine List.perm_singleton.mp ((List.perm_ext_iff_of_nodup distinct (List.nodup_singleton name)).mpr ?_)
  intro other
  rw [exact, List.mem_singleton]

/-- A folder with brackets in its name, beside one that this name would be a pattern for. -/
def bracketTree : FileTree where
  entries := [(["[ab]"], .folder), (["[ab]", "x.svg"], .file (.bytes .empty) false), (["[ab]", "y.svg"], .folder),
    (["a"], .folder), (["a", "z.svg"], .file (.bytes .empty) false)]

private theorem isGenuine_bracketTree : bracketTree.IsGenuine := by
  refine isGenuine_of_entries (by decide) (by decide +kernel) ?_
  simp only [bracketTree, List.forall_mem_cons, List.not_mem_nil, false_imp_iff, implies_true, and_true]
  exact ⟨rfl, rfl, rfl, rfl, rfl⟩

def svgTokens : List Token := [.anyText, .char '.', .char 's', .char 'v', .char 'g']

private theorem isRegular_bracketTree_iff {name : String} :
    bracketTree.IsRegular (["[ab]"] ++ [name]) ↔ name = "x.svg" := by
  constructor
  · rintro ⟨content, runnable, found⟩
    by_contra other
    by_cases second : name = "y.svg"
    · rw [second] at found
      cases found
    · simp [find?, bracketTree, List.lookup_cons, beq_false_of_ne, other, second] at found
  · rintro rfl
    exact ⟨_, _, rfl⟩

def oneDrawing (name : String) : FileTree where
  entries := [([name], .file (.bytes .empty) false)]

section

variable {name : String} (named : IsFileName name)
include named

private theorem isGenuine_oneDrawing : (oneDrawing name).IsGenuine := by
  refine isGenuine_of_entries (List.nodup_singleton _) ?_ ?_
  · simpa [oneDrawing] using named
  · simp only [oneDrawing, List.mem_singleton, forall_eq]
    rfl

private theorem isMatch_oneDrawing_iff {other : String} :
    IsMatch (oneDrawing name) [] tokens other ↔ other = name ∧ Spells tokens name.toList := by
  constructor
  · rintro ⟨⟨content, runnable, found⟩, spelled⟩
    have same : other = name := by
      by_contra apart
      simp [find?, oneDrawing, List.lookup_cons, beq_false_of_ne, apart] at found
    exact ⟨same, same ▸ spelled⟩
  · rintro ⟨rfl, spelled⟩
    exact ⟨⟨.bytes .empty, false, by simp [find?, oneDrawing]⟩, spelled⟩

variable (uncut : '/' ∉ pattern.toList) (single : ¬ ['*', '*'] <:+: pattern.toList)
  (valid : Glob.parse pattern.toList = .ok tokens)
include uncut single valid

/-- Nothing is found behind a dot with a slash. -/
theorem findDrawings_dotSlash :
    findDrawings (oneDrawing name) ⟨"./"⟩ pattern = .error (.noFilesFound pattern) := by
  have located : (oneDrawing name).locate ⟨"./"⟩ = .ok [] :=
    locate_eq_ok_iff.mpr ⟨⟨by decide, by decide, isTaken_of_short (by decide)⟩, rfl⟩
  have stray : IsStray ⟨"./"⟩ := ⟨0, [], by decide⟩
  obtain ⟨names, -, exact, -, found⟩ :=
    findDrawings_eq (isGenuine_oneDrawing named) located rfl uncut single valid
  have none : names = [] := List.eq_nil_iff_forall_not_mem.mpr fun other inside =>
    ((exact other).mp inside).2.1 stray
  rw [found, none, if_pos rfl]

theorem findDrawings_dot (spelled : Spells tokens name.toList) :
    findDrawings (oneDrawing name) ⟨"."⟩ pattern = .ok [⟨name⟩] := by
  have located : (oneDrawing name).locate ⟨"."⟩ = .ok [] :=
    locate_eq_ok_iff.mpr ⟨⟨by decide, by decide, isTaken_of_short (by decide)⟩, rfl⟩
  obtain ⟨names, ascending, exact, -, found⟩ :=
    findDrawings_eq (isGenuine_oneDrawing named) located rfl uncut single valid
  have path : foundPath ⟨"."⟩ name = ⟨name⟩ := by
    have dot : searched ⟨"."⟩ = ⟨"."⟩ := by decide
    rw [foundPath, dot, inside, if_pos (by decide), String.ofList_toList]
  have alone : names = [name] := by
    refine eq_singleton ascending fun other => ?_
    rw [exact, isMatch_oneDrawing_iff named]
    constructor
    · exact fun both => both.1.1
    · rintro rfl
      refine ⟨⟨rfl, spelled⟩, not_isStray (by decide), ?_⟩
      rw [path]
      exact named.isUsable.taken
  rw [found, alone, if_neg (List.cons_ne_nil _ _), List.map_singleton, path]

end

/-! ### The drawings in a folder -/

/-- Whatever characters are in the path of a folder, the drawings found in it are the files with names that the
pattern spells: each once, in order, and at the place of its name in the folder. The exceptions are a folder
whose path leads the search astray and files with paths that are too long for the system. -/
theorem drawings_found_iff (genuine : tree.IsGenuine) (located : tree.locate folder = .ok place)
    (there : tree.find? place = some .folder) (uncut : '/' ∉ pattern.toList)
    (single : ¬ ['*', '*'] <:+: pattern.toList) (valid : Glob.parse pattern.toList = .ok tokens) :
    ∃ names : List String, names.Pairwise (· < ·) ∧
      (∀ name, name ∈ names ↔
        IsMatch tree place tokens name ∧ ¬ IsStray folder ∧ isTaken (foundPath folder name) = true) ∧
      (names.map (foundPath folder)).Pairwise
        (fun first second => Path.stepsBefore first.steps second.steps = true) ∧
      (∀ name ∈ names, tree.locate (foundPath folder name) = .ok (place ++ [name])) ∧
      findDrawings tree folder pattern =
        if names = [] then .error (.noFilesFound pattern) else .ok (names.map (foundPath folder)) := by
  obtain ⟨names, ascending, exact, leads, found⟩ := findDrawings_eq genuine located there uncut single valid
  refine ⟨names, ascending, exact, ?_, leads, found⟩
  rw [List.pairwise_map]
  refine ascending.imp_of_mem fun {name other} inside inside' before => ?_
  rw [stepsBefore_foundPath (((exact name).mp inside).1.isFileName genuine)
    (((exact other).mp inside').1.isFileName genuine)]
  exact decide_eq_true before

theorem drawings_found_in_bracketed_folder :
    bracketTree.IsGenuine ∧ bracketTree.locate ⟨"[ab]"⟩ = .ok ["[ab]"] ∧
    bracketTree.find? ["[ab]"] = some .folder ∧ '/' ∉ "*.svg".toList ∧ ¬ ['*', '*'] <:+: "*.svg".toList ∧
    Glob.parse "*.svg".toList = .ok svgTokens ∧
    findDrawings bracketTree ⟨"[ab]"⟩ "*.svg" = .ok [⟨"[ab]/x.svg"⟩] := by
  have step : IsFileName "[ab]" := by decide +kernel
  have there : bracketTree.find? ["[ab]"] = some .folder := rfl
  have located : bracketTree.locate ⟨"[ab]"⟩ = .ok ["[ab]"] := locate_name step rfl there
  have valid : Glob.parse "*.svg".toList = .ok svgTokens := rfl
  have uncut : '/' ∉ "*.svg".toList := by decide
  have single : ¬ ['*', '*'] <:+: "*.svg".toList := by decide
  obtain ⟨names, ascending, exact, -, -, found⟩ :=
    drawings_found_iff isGenuine_bracketTree located there uncut single valid
  have path : foundPath ⟨"[ab]"⟩ "x.svg" = ⟨"[ab]/x.svg"⟩ := by decide +kernel
  have alone : names = ["x.svg"] := by
    refine eq_singleton ascending fun name => (exact name).trans ⟨fun both => ?_, ?_⟩
    · exact isRegular_bracketTree_iff.mp both.1.regular
    · rintro rfl
      rw [path]
      exact ⟨⟨isRegular_bracketTree_iff.mpr rfl, matchesText_iff.mp (by decide)⟩, not_isStray (by decide),
        isTaken_of_short (by decide)⟩
  rw [alone, if_neg (List.cons_ne_nil _ _), List.map_singleton, path] at found
  exact ⟨isGenuine_bracketTree, located, there, uncut, single, valid, found⟩

/-- The slash behind the dot hides the drawing that is found without it. -/
theorem slash_hides_drawing :
    (oneDrawing "a.svg").IsGenuine ∧ (oneDrawing "a.svg").locate ⟨"./"⟩ = .ok [] ∧
    (oneDrawing "a.svg").find? [] = some .folder ∧ Glob.parse "*.svg".toList = .ok svgTokens ∧
    IsMatch (oneDrawing "a.svg") [] svgTokens "a.svg" ∧
    findDrawings (oneDrawing "a.svg") ⟨"./"⟩ "*.svg" = .error (.noFilesFound "*.svg") ∧
    findDrawings (oneDrawing "a.svg") ⟨"."⟩ "*.svg" = .ok [⟨"a.svg"⟩] ∧
    ¬ ∀ (tree : FileTree) (folder : Path) (place : Location) (pattern : String) (tokens : List Token),
      tree.IsGenuine → tree.locate folder = .ok place → tree.find? place = some .folder →
      '/' ∉ pattern.toList → ¬ ['*', '*'] <:+: pattern.toList → Glob.parse pattern.toList = .ok tokens →
      ∀ name, IsMatch tree place tokens name → ∃ files, findDrawings tree folder pattern = .ok files ∧
        ∃ file ∈ files, tree.locate file = .ok (place ++ [name]) := by
  have named : IsFileName "a.svg" := by decide +kernel
  have genuine := isGenuine_oneDrawing named
  have located : (oneDrawing "a.svg").locate ⟨"./"⟩ = .ok [] :=
    locate_eq_ok_iff.mpr ⟨⟨by decide, by decide, isTaken_of_short (by decide)⟩, rfl⟩
  have uncut : '/' ∉ "*.svg".toList := by decide
  have single : ¬ ['*', '*'] <:+: "*.svg".toList := by decide
  have valid : Glob.parse "*.svg".toList = .ok svgTokens := rfl
  have spelled : Spells svgTokens "a.svg".toList := matchesText_iff.mp (by decide)
  have hidden := findDrawings_dotSlash named uncut single valid
  have matched : IsMatch (oneDrawing "a.svg") [] svgTokens "a.svg" :=
    (isMatch_oneDrawing_iff named).mpr ⟨rfl, spelled⟩
  refine ⟨genuine, located, rfl, valid, matched, hidden, findDrawings_dot named uncut single valid spelled, ?_⟩
  intro always
  obtain ⟨files, found, -⟩ := always _ _ _ _ _ genuine located rfl uncut single valid _ matched
  rw [hidden] at found
  cases found

end Conversion

end SlidePress
