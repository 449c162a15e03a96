import SlidePress.Conversion.Drawings
import SlidePress.Proofs.SearchSteps

/-! Searching a folder. The pieces of its path lead to the folder one after another, and the names in it are
then matched against the pattern behind them. -/

namespace SlidePress.Glob

open FileTree

/-! ### Following a path -/

section

variable {tree : FileTree} {path : Path} {place target : Location} {piece : List Char}

private theorem steps_inside_eq_here_iff (written : path.text ≠ "") (uncut : '/' ∉ piece) :
    (inside path piece).steps = [.here] ↔ path.steps = [.here] ∧ piece = ['.'] := by
  have uncut' : '/' ∉ (String.ofList piece).toList := by rwa [String.toList_ofList]
  by_cases here : path.steps = [.here]
  · rw [inside, if_pos here, and_iff_right here]
    constructor
    · intro front
      have notHere : ¬ ['.', '/'] <+: piece := fun begins => uncut (begins.subset (by decide))
      have begins := (steps_eq_here_iff.mp front).1
      rw [Path.frontSteps_eq, String.toList_ofList] at begins
      split at begins
      · cases begins
      · split at begins
        next dot => exact dot.resolve_right notHere
        next => cases begins
    · rintro rfl
      decide
  · refine iff_of_false (fun still => here ?_) fun both => here both.1
    rw [inside, if_neg here, steps_eq_here_iff, Path.frontSteps_join_of_written uncut' written,
      active_join_piece uncut, List.append_eq_nil_iff] at still
    exact steps_eq_here_iff.mpr ⟨still.1, still.2.1⟩

theorem expand_cons {tokens : List Token} (other : tokens ≠ [.anySteps]) (path : Path)
    (pieces : List (List Token)) : expand tree false path (tokens :: pieces) =
      (step tree path tokens).flatMap fun next => expand tree false next pieces := by
  rw [expand, if_neg other]
  rfl

/-- Whether pieces have an empty one behind a path of dots. Such a piece is not followed, as nothing is written
in front of a name in the working folder. -/
def IsLost (path : Path) (pieces : List (List Char)) : Prop :=
  path.steps = [.here] ∧ ∃ count rest, pieces = List.replicate count ['.'] ++ [] :: rest

private theorem isLost_inside {pieces : List (List Char)} (written : path.text ≠ "") (uncut : '/' ∉ piece)
    (lost : IsLost (inside path piece) pieces) : IsLost path (piece :: pieces) := by
  obtain ⟨here, count, rest, rfl⟩ := lost
  obtain ⟨still, rfl⟩ := (steps_inside_eq_here_iff written uncut).mp here
  exact ⟨still, count + 1, rest, rfl⟩

/-- What is still to be followed gets no longer on the way. -/
theorem isClean_inside {pieces : List (List Char)} (uncut : '/' ∉ piece) (several : pieces ≠ [])
    (clean : IsClean (lead path ++ Text.joined '/' (piece :: pieces))) :
    IsClean (lead (inside path piece) ++ Text.joined '/' pieces) := by
  have longer := (lead_sublist (inside path piece)).append_right (Text.joined '/' pieces)
  rw [text_inside path uncut] at longer
  rw [Text.joined] at clean
  · exact clean.sublist (by simpa using longer)
  · exact several

private theorem expand_follow (genuine : tree.IsGenuine) {pieces : List (List Char)}
    (uncut : ∀ piece ∈ pieces, '/' ∉ piece) (leads : tree.Leads path place)
    (clean : pieces ≠ [] → IsClean (lead path ++ Text.joined '/' pieces))
    (walked : tree.walk place pieces = .ok target) (there : tree.find? target = some .folder)
    (kept : ¬ IsLost path pieces) (rest : List (List Token)) :
    tree.Leads (pieces.foldl inside path) target ∧
      expand tree false path (pieces.map (·.map escaped) ++ rest) =
        expand tree false (pieces.foldl inside path) rest := by
  induction pieces generalizing path place with
  | nil =>
    obtain rfl := Except.ok.inj walked
    exact ⟨leads, rfl⟩
  | cons piece pieces ih =>
    have written := text_ne_of_leads leads
    have whole := clean (List.cons_ne_nil piece pieces)
    obtain ⟨own, others⟩ := List.forall_mem_cons.mp uncut
    rw [← List.singleton_append, walk_append] at walked
    cases way : tree.walk place [piece] with
    | error fault =>
      rw [way] at walked
      cases walked
    | ok next =>
      rw [way] at walked
      have reached : tree.walk next pieces = .ok target := walked
      have folder : tree.find? next = some .folder := by
        cases pieces with
        | nil => rwa [Except.ok.inj reached]
        | cons other pieces => exact folder_of_walk reached
      have front : Text.joined '/' [piece] <+: Text.joined '/' (piece :: pieces) :=
        Text.joined_prefix (List.prefix_append [piece] pieces)
      have usable := isUsable_inside written own (whole.sublist (front.sublist.append_left _))
        fun ⟨here, nothing⟩ => kept ⟨here, 0, pieces, by rw [nothing]; rfl⟩
      have located := (locate_inside_iff leads own).mpr ⟨usable, way⟩
      obtain ⟨ends, same⟩ := ih others ⟨located, folder⟩ (fun several => isClean_inside own several whole)
        reached fun lost => kept (isLost_inside written own lost)
      refine ⟨ends, ?_⟩
      rw [List.map_cons, List.cons_append, expand_cons (map_escaped_ne piece),
        step_escaped genuine leads own located (by rw [folder]; rfl), List.flatMap_singleton]
      exact same

private theorem expand_lost (leads : tree.Leads ⟨"."⟩ place) (count : Nat) (pieces : List (List Char))
    (rest : List (List Token)) :
    expand tree false ⟨"."⟩ ((List.replicate count ['.'] ++ [] :: pieces).map (·.map escaped) ++ rest) = [] := by
  induction count with
  | zero =>
    have nothing : step tree ⟨"."⟩ [] = [] := by
      have empty : inside ⟨"."⟩ [] = ⟨""⟩ := by decide
      have taken : isTaken ⟨""⟩ = true := isTaken_of_short (by decide)
      have absent : tree.holds ⟨""⟩ = false := by simp [holds, entry?, locate, resolve, taken]
      simp [step, literal?, isSpecial, empty, absent]
    rw [List.replicate_zero, List.nil_append, List.map_cons, List.cons_append,
      expand_cons (map_escaped_ne []), List.map_nil, nothing]
    rfl
  | succ count ih =>
    have still : step tree ⟨"."⟩ (['.'].map escaped) = [⟨"."⟩] := by
      have dot : literal? (['.'].map escaped) = some ['.'] := rfl
      have same : inside ⟨"."⟩ ['.'] = ⟨"."⟩ := by decide
      have folder : tree.isFolder ⟨"."⟩ = true := isFolder_iff.mpr ⟨place, leads.located, leads.folder⟩
      simp only [step, dot, same, folder, isSpecial, beq_self_eq_true, Bool.true_or, if_true]
    rw [List.replicate_succ, List.cons_append, List.map_cons, List.cons_append,
      expand_cons (map_escaped_ne _), still, List.flatMap_singleton]
    exact ih

end

variable {tree : FileTree} {folder : Path} {place : Location} {tokens : List Token}

/-! ### The pieces of a pattern -/

def start (folder : Path) : Path := if folder.isAbsolute then ⟨"/"⟩ else ⟨"."⟩

def folderPieces (folder : Path) : List (List Char) :=
  Text.pieces '/' (if folder.isAbsolute then folder.text.toList.drop 1 else folder.text.toList)

private theorem parsePieces_of_reads {pieces : List (List Char)} {read : List (List Token)}
    (reads : List.Forall₂ ReadsAs pieces read) : parsePieces pieces = .ok read := by
  induction reads with
  | nil => rfl
  | cons own rest ih =>
    rw [parsePieces, parse, own, ih]
    rfl

private theorem reads_escaped (pieces : List (List Char)) :
    List.Forall₂ ReadsAs (pieces.map escape) (pieces.map (·.map escaped)) := by
  rw [List.forall₂_map_left_iff, List.forall₂_map_right_iff, List.forall₂_same]
  exact fun piece _ => readsAs_map_escaped piece

private theorem isAbsolute_iff_head? (written : folder.text ≠ "") (pattern : List Char) :
    (escape folder.text.toList ++ '/' :: pattern).head? = some '/' ↔ folder.isAbsolute = true := by
  have nonempty : folder.text.toList ≠ [] := fun empty => written (String.toList_eq_nil_iff.mp empty)
  rw [Path.isAbsolute_iff, ← head?_escape folder.text.toList]
  cases parts : escape folder.text.toList with
  | nil =>
    rw [escape, List.flatMap_eq_nil_iff] at parts
    obtain ⟨char, rest, text⟩ := List.exists_cons_of_ne_nil nonempty
    have nothing := parts char (text ▸ List.mem_cons_self)
    split at nothing <;> cases nothing
  | cons char rest => rfl

private theorem toList_drawingPattern (folder : Path) (pattern : String) :
    (Conversion.drawingPattern folder pattern).toList = escape folder.text.toList ++ '/' :: pattern.toList := by
  rw [Conversion.drawingPattern, String.toList_append, String.toList_append, String.toList_ofList,
    List.append_assoc]
  rfl

private theorem patternPieces_eq (written : folder.text ≠ "") {pattern : List Char} (uncut : '/' ∉ pattern) :
    patternPieces (escape folder.text.toList ++ '/' :: pattern) =
      (folderPieces folder).map escape ++ if pattern = [] then [] else [pattern] := by
  have cut (front : List Char) : Text.pieces '/' (escape front ++ '/' :: pattern) =
      (Text.pieces '/' front).map escape ++ [pattern] := by
    rw [← pieces_escape, Text.pieces_eq_splitOn, Text.pieces_eq_splitOn, List.splitOn_append_cons_self,
      List.splitOn_eq_singleton uncut]
  have parts : Text.pieces '/' (if (escape folder.text.toList ++ '/' :: pattern).head? = some '/' then
        (escape folder.text.toList ++ '/' :: pattern).drop 1
      else escape folder.text.toList ++ '/' :: pattern) = (folderPieces folder).map escape ++ [pattern] := by
    rw [folderPieces]
    simp only [isAbsolute_iff_head? written]
    split
    next absolute =>
      obtain ⟨rest, text⟩ := List.head?_eq_some_iff.mp (Path.isAbsolute_iff.mp absolute)
      rw [text]
      exact cut rest
    next => exact cut _
  rw [patternPieces, parts]
  by_cases empty : pattern = []
  · simp [empty]
  · simp [empty]

private theorem files_eq (tree : FileTree) (written : folder.text ≠ "") {pattern : String}
    (uncut : '/' ∉ pattern.toList) (read : ReadsAs pattern.toList tokens) :
    files tree (Conversion.drawingPattern folder pattern) =
      .ok (if pattern = "" then [] else
        (expand tree false (start folder) ((folderPieces folder).map (·.map escaped) ++ [tokens])).filter
          tree.isFile) := by
  have whole := readsAs_escape (readsAs_slash read) folder.text.toList
  have last : (escape folder.text.toList ++ '/' :: pattern.toList).getLast? = some '/' ↔ pattern = "" := by
    rw [List.getLast?_append, List.getLast?_cons, ← String.toList_eq_nil_iff]
    cases text : pattern.toList.getLast? with
    | none => simp [List.getLast?_eq_none_iff.mp text]
    | some char =>
      have inside := List.mem_of_getLast? text
      refine iff_of_false (fun slash => ?_) (List.ne_nil_of_mem inside)
      rw [Option.getD_some, Option.some_or] at slash
      exact uncut (Option.some.inj slash ▸ inside)
  rw [files]
  simp only [toList_drawingPattern, patternPieces_eq written uncut, parse, whole none 0, last,
    isAbsolute_iff_head? written, start]
  by_cases empty : pattern = ""
  · have nothing : pattern.toList = [] := by rw [empty]; rfl
    rw [if_pos nothing, List.append_nil, parsePieces_of_reads (reads_escaped _)]
    simp only [empty, if_true]
  · have something : pattern.toList ≠ [] := fun none => empty (String.toList_eq_nil_iff.mp none)
    have reads := List.rel_append (reads_escaped (folderPieces folder)) (.cons read .nil)
    rw [if_neg something, parsePieces_of_reads reads]
    simp only [empty, if_false]

/-! ### The folder -/

def searched (folder : Path) : Path := (folderPieces folder).foldl inside (start folder)

def foundPath (folder : Path) (name : String) : Path := inside (searched folder) name.toList

/-- Whether the path of a folder begins with dots and has an empty piece behind them. -/
def IsStray (folder : Path) : Prop :=
  ∃ count rest, Text.pieces '/' folder.text.toList = List.replicate (count + 1) ['.'] ++ [] :: rest

private theorem joined_pieces (text : List Char) : Text.joined '/' (Text.pieces '/' text) = text := by
  rw [Text.joined_eq_intercalate, Text.pieces_eq_splitOn, List.intercalate_splitOn]

private theorem isLost_start_iff (written : folder.text ≠ "") :
    IsLost (start folder) (folderPieces folder) ↔ IsStray folder := by
  have nonempty : folder.text.toList ≠ [] := fun empty => written (String.toList_eq_nil_iff.mp empty)
  rw [IsLost, IsStray, start, folderPieces]
  by_cases absolute : folder.isAbsolute = true
  · obtain ⟨rest, text⟩ := List.head?_eq_some_iff.mp (Path.isAbsolute_iff.mp absolute)
    rw [if_pos absolute, if_pos absolute, text, Text.pieces, if_pos rfl]
    refine iff_of_false (fun lost => absurd lost.1 (by decide)) ?_
    rintro ⟨count, others, parts⟩
    cases parts
  · rw [if_neg absolute, if_neg absolute, and_iff_right (by decide)]
    constructor
    · rintro ⟨count, rest, parts⟩
      cases count with
      | succ count => exact ⟨count, rest, parts⟩
      | zero =>
        refine absurd (Path.isAbsolute_iff.mpr ?_) absolute
        have whole := joined_pieces folder.text.toList
        rw [parts] at whole
        cases rest with
        | nil => exact absurd whole.symm nonempty
        | cons piece rest =>
          rw [← whole]
          rfl
    · rintro ⟨count, rest, parts⟩
      exact ⟨count + 1, rest, parts⟩

/-- From where the search starts, the pieces of the path of a folder lead to that. -/
theorem leads_start (located : tree.locate folder = .ok place) :
    ∃ home, tree.Leads (start folder) home ∧ tree.walk home (folderPieces folder) = .ok place ∧
      IsClean (lead (start folder) ++ Text.joined '/' (folderPieces folder)) := by
  obtain ⟨usable, walked⟩ := locate_eq_ok_iff.mp located
  have clean := (isUsable_iff.mp usable).2
  rw [start, folderPieces, base] at *
  by_cases absolute : folder.isAbsolute = true
  · obtain ⟨rest, text⟩ := List.head?_eq_some_iff.mp (Path.isAbsolute_iff.mp absolute)
    have opened : lead ⟨"/"⟩ = ['/'] := by decide
    rw [if_pos absolute, text, Text.pieces, if_pos rfl] at walked
    rw [if_pos absolute, if_pos absolute, text, opened, List.drop_one, List.tail_cons, joined_pieces]
    rw [text] at clean
    refine ⟨[], ⟨?_, rfl⟩, walked, clean⟩
    exact locate_eq_ok_iff.mpr ⟨⟨by decide, by decide, isTaken_of_short (by decide)⟩, rfl⟩
  · have opened : lead ⟨"."⟩ = [] := by decide
    rw [if_neg absolute] at walked
    rw [if_neg absolute, if_neg absolute, opened, joined_pieces]
    have home : tree.find? tree.here = some .folder := by
      cases parts : Text.pieces '/' folder.text.toList with
      | nil =>
        rw [Text.pieces_eq_splitOn] at parts
        exact absurd parts (List.splitOn_ne_nil _ _)
      | cons piece pieces =>
        rw [parts] at walked
        exact folder_of_walk walked
    refine ⟨tree.here, ⟨?_, home⟩, walked, clean⟩
    refine locate_eq_ok_iff.mpr ⟨⟨by decide, by decide, isTaken_of_short (by decide)⟩, ?_⟩
    have dot : Text.pieces '/' (⟨"."⟩ : Path).text.toList = [['.']] := by decide
    rw [dot, walk_singleton_iff (by exact home)]
    rfl

private theorem expand_stray (located : tree.locate folder = .ok place)
    (there : tree.find? place = some .folder)
    (stray : IsStray folder) (rest : List (List Token)) :
    expand tree false (start folder) ((folderPieces folder).map (·.map escaped) ++ rest) = [] := by
  obtain ⟨home, leads, -, -⟩ := leads_start located
  obtain ⟨here, count, pieces, parts⟩ := (isLost_start_iff (text_ne_of_leads ⟨located, there⟩)).mpr stray
  have dot : start folder = ⟨"."⟩ := by
    rw [start] at here ⊢
    split
    next absolute =>
      rw [if_pos absolute] at here
      exact absurd here (by decide)
    next => rfl
  rw [dot] at leads ⊢
  rw [parts]
  exact expand_lost leads count pieces rest

/-- What the search comes to: the files in the folder that the pattern spells, or nothing if the path of the
folder leads it astray. -/
theorem expand_folder (genuine : tree.IsGenuine) (located : tree.locate folder = .ok place)
    (there : tree.find? place = some .folder) (chars : .char '/' ∉ tokens) (nonempty : tokens ≠ [])
    (plain : .anySteps ∉ tokens) :
    ∃ names : List String, names.Nodup ∧
      (∀ name, name ∈ names ↔
        IsMatch tree place tokens name ∧ ¬ IsStray folder ∧ isTaken (foundPath folder name) = true) ∧
      (∀ name ∈ names, tree.locate (foundPath folder name) = .ok (place ++ [name])) ∧
      (expand tree false (start folder) ((folderPieces folder).map (·.map escaped) ++ [tokens])).filter
        tree.isFile = names.map (foundPath folder) := by
  obtain ⟨home, leads, walked, clean⟩ := leads_start located
  have written := text_ne_of_leads ⟨located, there⟩
  by_cases stray : IsStray folder
  · rw [expand_stray located there stray]
    exact ⟨[], List.nodup_nil, fun name => iff_of_false List.not_mem_nil fun both => both.2.1 stray, nofun, rfl⟩
  · have uncut : ∀ piece ∈ folderPieces folder, '/' ∉ piece := fun _ => Text.notMem_of_mem_pieces
    obtain ⟨ends, same⟩ := expand_follow genuine uncut leads (fun _ => clean) walked there
      (mt (isLost_start_iff written).mp stray) [tokens]
    obtain ⟨names, found, paths⟩ := filter_step genuine ends chars nonempty
    have other : tokens ≠ [.anySteps] := by
      rintro rfl
      exact plain (List.mem_singleton_self _)
    refine ⟨names, found.distinct, fun name => ?_, fun name inside => ?_, ?_⟩
    · rw [found.mem_iff, and_iff_right stray]
      rfl
    · obtain ⟨matched, taken⟩ := (found.mem_iff name).mp inside
      have valid := matched.isFileName genuine
      have regular := matched.regular
      rw [← @String.ofList_toList name] at regular
      have isFile := (isFile_inside_iff genuine ends valid.step.uncut valid.step.ne_nil).mpr ⟨regular, taken⟩
      have location := locate_of_isFile genuine ends valid.step.uncut isFile
      rwa [String.ofList_toList] at location
    · have last (next : Path) : expand tree false next [] = [next] := by rw [expand]
      rw [same, expand_cons other]
      simp only [last, List.flatMap_singleton']
      exact paths

private theorem ne_nil_of_parse {pattern : List Char} (single : ¬ ['*', '*'] <:+: pattern)
    (valid : parse pattern = .ok tokens) (nonempty : pattern ≠ []) : tokens ≠ [] := by
  obtain ⟨char, rest, rfl⟩ := List.exists_cons_of_ne_nil nonempty
  rcases parseFrom_cons single with ⟨token, skip, -, -, read⟩ | wrong
  · rw [parse, read, map_eq_ok_iff] at valid
    obtain ⟨later, -, rfl⟩ := valid
    exact List.cons_ne_nil token later
  · obtain ⟨error, failed⟩ := wrong none 0
    rw [parse, failed] at valid
    cases valid

theorem files_folder (genuine : tree.IsGenuine) (located : tree.locate folder = .ok place)
    (there : tree.find? place = some .folder) {pattern : String} (uncut : '/' ∉ pattern.toList)
    (single : ¬ ['*', '*'] <:+: pattern.toList) (valid : parse pattern.toList = .ok tokens) :
    ∃ names : List String, names.Nodup ∧
      (∀ name, name ∈ names ↔
        IsMatch tree place tokens name ∧ ¬ IsStray folder ∧ isTaken (foundPath folder name) = true) ∧
      (∀ name ∈ names, tree.locate (foundPath folder name) = .ok (place ++ [name])) ∧
      files tree (Conversion.drawingPattern folder pattern) = .ok (names.map (foundPath folder)) := by
  have written := text_ne_of_leads ⟨located, there⟩
  obtain ⟨plain, chars, -⟩ := parseFrom_single single valid
  rw [files_eq tree written uncut (readsAs_of_parse single valid)]
  by_cases empty : pattern = ""
  · have nothing : tokens = [] := by
      rw [empty] at valid
      exact (Except.ok.inj valid).symm
    refine ⟨[], List.nodup_nil, fun name => iff_of_false List.not_mem_nil fun ⟨matched, _⟩ => ?_, nofun, ?_⟩
    · have spelled := matched.spelled
      rw [nothing, spells_nil_iff] at spelled
      exact (matched.isFileName genuine).step.ne_nil spelled
    · rw [if_pos empty]
      rfl
  · have nonempty := ne_nil_of_parse single valid fun none => empty (String.toList_eq_nil_iff.mp none)
    obtain ⟨names, distinct, exact, leads, paths⟩ :=
      expand_folder genuine located there (mt (chars '/') uncut) nonempty plain
    exact ⟨names, distinct, exact, leads, by rw [if_neg empty, paths]⟩

end SlidePress.Glob
