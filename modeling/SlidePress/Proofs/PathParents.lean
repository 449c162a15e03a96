import Mathlib.Logic.Relation
import SlidePress.Proofs.PathNames

/-! A path and the parents that it names. Taking the parent cuts off the last piece that is not idle together
with what is idle around it, so the parent is written as the front of the path and has all of its pieces
but that one. -/

namespace SlidePress

theorem Text.joined_prefix {glue : Char} {front texts : List (List Char)} (inside : front <+: texts) :
    joined glue front <+: joined glue texts := by
  induction front generalizing texts with
  | nil => exact List.nil_prefix
  | cons text front ih =>
    obtain ⟨others, rfl, rest⟩ : ∃ others, texts = text :: others ∧ front <+: others := by
      cases texts with
      | nil => cases List.prefix_nil.mp inside
      | cons head others =>
        obtain ⟨rfl, rest⟩ := List.cons_prefix_cons.mp inside
        exact ⟨others, rfl, rest⟩
    cases front with
    | nil =>
      cases others with
      | nil => exact List.prefix_rfl
      | cons other others => exact List.prefix_append ..
    | cons next front =>
      cases others with
      | nil => cases List.prefix_nil.mp rest
      | cons other others =>
        show text ++ glue :: joined glue (next :: front) <+: text ++ glue :: joined glue (other :: others)
        exact (List.prefix_append_right_inj _).mpr (List.cons_prefix_cons.mpr ⟨rfl, ih rest⟩)

namespace Path

/-- Whether a path is the parent of another one, as that is written. -/
def IsParent (parent path : Path) : Prop := path.parent? = some parent

def IsAbove : Path → Path → Prop := Relation.TransGen IsParent

variable {path parent upper : Path}

private theorem text_split (path : Path) : path.text.toList = path.split.1.chars ++ path.split.2 := by
  rcases path.split_cases with ⟨rest, text, parts⟩ | ⟨text, parts⟩ | ⟨rest, text, parts⟩ | ⟨-, -, -, parts⟩
  · rw [text, parts]
    rfl
  · rw [text, parts]
    rfl
  · rw [text, parts]
    rfl
  · rw [parts]
    rfl

/-- What follows the dot of a path that begins with one. -/
theorem split_here (path : Path) (here : path.split.1 = .here) :
    path.split.2 = [] ∨ ['/'] <+: path.split.2 := by
  rcases path.split_cases with ⟨rest, text, parts⟩ | ⟨text, parts⟩ | ⟨rest, text, parts⟩ | ⟨-, -, -, parts⟩
  · rw [parts] at here
    cases here
  · rw [parts]
    exact .inl rfl
  · rw [parts]
    exact .inr ⟨rest, rfl⟩
  · rw [parts] at here
    cases here

/-- The start of a path is no piece of it. -/
theorem filter_pieces_start {start : Start} {text : List Char}
    (cut : start = .here → text = [] ∨ ['/'] <+: text) :
    (Text.pieces '/' (start.chars ++ text)).filter (!isIdle ·) =
      (Text.pieces '/' text).filter (!isIdle ·) := by
  cases start with
  | root => rfl
  | anywhere => rfl
  | here =>
    rcases cut rfl with rfl | ⟨rest, rfl⟩
    · rfl
    · rfl

private theorem active_eq_split (path : Path) :
    path.active = (Text.pieces '/' path.split.2).filter (!isIdle ·) := by
  rw [active, text_split, filter_pieces_start path.split_here]

/-- What is idle at the end of a path does not hide the last piece that is not. -/
theorem getLast?_rdropWhile (pieces : List (List Char)) :
    (pieces.rdropWhile isIdle).getLast? = (pieces.filter (!isIdle ·)).getLast? := by
  induction pieces using List.reverseRecOn with
  | nil => rfl
  | append_singleton pieces piece ih =>
    rw [List.rdropWhile_concat, List.filter_append]
    cases idle : isIdle piece with
    | true => simp [idle, ih]
    | false => simp [idle]

private theorem getLast?_active (path : Path) : path.active.getLast? = path.activePieces.getLast? := by
  rw [active_eq_split, ← getLast?_rdropWhile]
  rfl

def upperPieces (path : Path) : List (List Char) := path.activePieces.dropLast.rdropWhile isIdle

/-- A path has a parent if it has a piece that is not idle, or else the dot at its front. -/
theorem parent?_cases (found : path.parent? = some parent) :
    path.active = [] ∧ path.split.1 = .here ∧ parent.text = "" ∨
      path.activePieces ≠ [] ∧
        parent.text.toList = path.split.1.chars ++ Text.joined '/' path.upperPieces := by
  rw [parent?] at found
  dsimp only at found
  split at found
  next none =>
    have nothing : path.activePieces = [] := List.isEmpty_iff.mp none
    split at found
    next here =>
      obtain rfl := Option.some.inj found
      refine .inl ⟨?_, here, rfl⟩
      rw [active_eq_split, ← filter_rdropWhile fun _ => id]
      exact congrArg (List.filter (!isIdle ·)) nothing
    next => cases found
  next some =>
    obtain rfl := Option.some.inj found
    refine .inr ⟨fun nothing => some (List.isEmpty_iff.mpr nothing), ?_⟩
    rw [String.toList_ofList]
    rfl

private theorem upperPieces_prefix (path : Path) : path.upperPieces <+: Text.pieces '/' path.split.2 :=
  ((List.rdropWhile_prefix isIdle _).trans (List.dropLast_prefix _)).trans (List.rdropWhile_prefix isIdle _)

private theorem joined_upperPieces_prefix (path : Path) :
    Text.joined '/' path.upperPieces <+: path.split.2 := by
  have whole : Text.joined '/' (Text.pieces '/' path.split.2) = path.split.2 := by
    rw [Text.joined_eq_intercalate, Text.pieces_eq_splitOn, List.intercalate_splitOn]
  exact whole ▸ Text.joined_prefix path.upperPieces_prefix

/-- A parent is the front of its path. -/
theorem text_prefix (found : path.parent? = some parent) : parent.text.toList <+: path.text.toList := by
  rcases parent?_cases found with ⟨-, -, empty⟩ | ⟨-, text⟩
  · rw [empty]
    exact List.nil_prefix
  · rw [text, text_split path]
    exact (List.prefix_append_right_inj _).mpr path.joined_upperPieces_prefix

private theorem active_eq_upperPieces (found : path.parent? = some parent) (nonempty : path.active ≠ []) :
    parent.active = path.upperPieces.filter (!isIdle ·) := by
  rcases parent?_cases found with ⟨empty, -⟩ | ⟨-, text⟩
  · exact absurd empty nonempty
  have cut : path.split.1 = .here →
      Text.joined '/' path.upperPieces = [] ∨ ['/'] <+: Text.joined '/' path.upperPieces := by
    intro here
    obtain ⟨back, whole⟩ := path.joined_upperPieces_prefix
    rcases path.split_here here with nothing | ⟨rest, slash⟩
    · rw [nothing, List.append_eq_nil_iff] at whole
      exact .inl whole.1
    · rw [← slash] at whole
      cases front : Text.joined '/' path.upperPieces with
      | nil => exact .inl rfl
      | cons char more =>
        rw [front] at whole
        obtain ⟨rfl, -⟩ := List.cons.inj whole
        exact .inr ⟨more, rfl⟩
  rw [active, text, filter_pieces_start cut, Text.joined_eq_intercalate, Text.pieces_eq_splitOn]
  by_cases none : path.upperPieces = []
  · rw [none]
    rfl
  · rw [List.splitOn_intercalate _ (fun piece inside =>
      Text.notMem_of_mem_pieces (path.upperPieces_prefix.subset inside)) none]

/-- The parent of a path has all of its pieces but the last one. -/
theorem active_of_parent (found : path.parent? = some parent) (nonempty : path.active ≠ []) :
    ∃ piece, path.active = parent.active ++ [piece] := by
  have last := path.getLast?_active
  obtain ⟨front, piece, parts⟩ := (List.eq_nil_or_concat' path.activePieces).resolve_left fun nothing => by
    rw [nothing, List.getLast?_nil, List.getLast?_eq_none_iff] at last
    exact nonempty last
  have busy : isIdle piece = false := by
    rw [parts, List.getLast?_concat] at last
    simpa using (List.mem_filter.mp (List.mem_of_getLast? last)).2
  refine ⟨piece, ?_⟩
  calc path.active = path.activePieces.filter (!isIdle ·) := by
        rw [active_eq_split, ← filter_rdropWhile fun _ => id]
        rfl
    _ = front.filter (!isIdle ·) ++ [piece] := by
        rw [parts, List.filter_append, List.filter_cons_of_pos (by simp [busy]), List.filter_nil]
    _ = parent.active ++ [piece] := by
        rw [active_eq_upperPieces found nonempty, upperPieces, parts, List.dropLast_concat,
          filter_rdropWhile fun _ => id]

/-- A parent that is written is not that of a lone dot. -/
theorem active_parent (found : path.parent? = some parent) (written : parent.text ≠ "") :
    ∃ piece, path.active = parent.active ++ [piece] := by
  refine active_of_parent found fun nothing => ?_
  rcases parent?_cases found with ⟨-, -, empty⟩ | ⟨nonempty, -⟩
  · exact written empty
  · rw [← List.getLast?_eq_none_iff, getLast?_active, List.getLast?_eq_none_iff] at nothing
    exact nonempty nothing

theorem length_parent (found : path.parent? = some parent) : parent.text.length < path.text.length := by
  have front := text_prefix found
  refine Nat.lt_of_le_of_ne front.length_le fun same => ?_
  have texts : parent.text = path.text := String.toList_inj.mp (front.eq_of_length same)
  by_cases written : parent.text = ""
  · rcases parent?_cases found with ⟨-, here, -⟩ | ⟨nonempty, -⟩
    · have dot := path.text_split
      rw [here, ← texts, written] at dot
      cases dot
    · refine nonempty ?_
      have nothing := path.text_split
      rw [← texts, written] at nothing
      rw [activePieces, (List.append_eq_nil_iff.mp nothing.symm).2]
      rfl
  · obtain ⟨piece, parts⟩ := active_parent found written
    have lengths := congrArg List.length parts
    rw [active, active, texts, List.length_append, List.length_singleton] at lengths
    omega

theorem isAbsolute_of_prefix (front : parent.text.toList <+: path.text.toList) (written : parent.text ≠ "") :
    parent.isAbsolute = path.isAbsolute := by
  obtain ⟨back, whole⟩ := front
  cases text : parent.text.toList with
  | nil => exact absurd (String.toList_eq_nil_iff.mp text) written
  | cons char more =>
    rw [Bool.eq_iff_iff, isAbsolute_iff, isAbsolute_iff, ← whole, text]
    rfl

/-! ### A path and its name -/

/-- The name of a path is its last step. -/
theorem name?_eq_some_iff {name : String} :
    path.name? = some name ↔ path.steps.getLast? = some (.name name) := by
  rw [name?, ← getLast?_active, steps_eq, List.getLast?_append, List.getLast?_map]
  cases path.active.getLast? with
  | none =>
    refine iff_of_false (by simp) ?_
    rw [frontSteps]
    split <;> simp
  | some piece =>
    simp only [Option.map_some, Option.some_or, Option.some.injEq, stepOf]
    split <;> simp

theorem getLast?_active_of_name? {name : String} (named : path.name? = some name) :
    path.active.getLast? = some name.toList := by
  rw [name?, ← getLast?_active] at named
  split at named
  next piece last =>
    split at named
    · cases named
    · rw [last, ← Option.some.inj named, String.toList_ofList]
  next => cases named

/-- A parent begins where its path does. -/
theorem frontSteps_parent (found : path.parent? = some parent) (nonempty : path.active ≠ []) :
    parent.frontSteps = path.frontSteps := by
  have pieces := active_eq_upperPieces found nonempty
  have front := path.joined_upperPieces_prefix
  rcases parent?_cases found with ⟨empty, -⟩ | ⟨-, text⟩
  · exact absurd empty nonempty
  rw [frontSteps_eq, frontSteps_eq]
  rcases path.split_cases with ⟨rest, whole, parts⟩ | ⟨whole, parts⟩ | ⟨rest, whole, parts⟩ |
    ⟨notRoot, notDot, notHere, parts⟩
  · simp [text, whole, parts, Start.chars]
  · rw [parts, List.prefix_nil] at front
    simp [text, whole, parts, Start.chars, front]
  · rw [parts, List.prefix_cons_iff] at front
    rcases front with nothing | ⟨more, slash, -⟩
    · simp [text, whole, parts, Start.chars, nothing]
    · simp [text, whole, parts, Start.chars, slash, List.cons_prefix_cons]
  · have begins := text_prefix found
    have notRoot' : parent.text.toList.head? ≠ some '/' := by
      intro root
      obtain ⟨back, whole⟩ := begins
      obtain ⟨rest, slash⟩ := List.head?_eq_some_iff.mp root
      rw [← whole, slash] at notRoot
      exact notRoot rfl
    -- a lone dot would be what is left of pieces that are all idle, and of these nothing is left
    have notDot' : parent.text.toList ≠ ['.'] := by
      intro dot
      have idle : path.upperPieces.filter (!isIdle ·) = [] := by
        rw [← pieces, active, dot]
        rfl
      rw [upperPieces, filter_rdropWhile fun _ => id, ← List.getLast?_eq_none_iff, ← getLast?_rdropWhile,
        List.getLast?_eq_none_iff] at idle
      rw [text, parts, upperPieces, idle] at dot
      cases dot
    have notHere' : ¬ ['.', '/'] <+: parent.text.toList := fun here => notHere (here.trans begins)
    simp [notRoot, notDot, notHere, notRoot', notDot', notHere']

/-- A path with a name is its parent and one more step. -/
theorem steps_of_name? {name : String} (named : path.name? = some name)
    (found : path.parent? = some parent) : path.steps = parent.steps ++ [.name name] := by
  have last := name?_eq_some_iff.mp named
  have nonempty : path.active ≠ [] := by
    intro empty
    have piece := getLast?_active_of_name? named
    rw [empty] at piece
    cases piece
  obtain ⟨piece, parts⟩ := active_of_parent found nonempty
  rw [steps_eq, parts, List.map_append, List.map_singleton, ← List.append_assoc, List.getLast?_concat,
    Option.some.injEq] at last
  rw [steps_eq, steps_eq, parts, frontSteps_parent found nonempty, List.map_append, List.map_singleton, last,
    List.append_assoc]

/-! ### All that is above a path -/

theorem IsAbove.text_prefix (above : upper.IsAbove path) : upper.text.toList <+: path.text.toList := by
  induction above with
  | single found => exact Path.text_prefix found
  | tail above found ih => exact ih.trans (Path.text_prefix found)

/-- What is above a path has fewer of its pieces. -/
theorem IsAbove.active (above : upper.IsAbove path) (written : upper.text ≠ "") :
    ∃ pieces, pieces ≠ [] ∧ path.active = upper.active ++ pieces := by
  induction above with
  | single found =>
    obtain ⟨piece, parts⟩ := active_parent found written
    exact ⟨[piece], List.cons_ne_nil _ _, parts⟩
  | @tail middle path above found ih =>
    obtain ⟨pieces, -, parts⟩ := ih
    have more : middle.text ≠ "" := by
      intro empty
      have front := IsAbove.text_prefix above
      rw [empty] at front
      exact written (String.toList_eq_nil_iff.mp (List.prefix_nil.mp front))
    obtain ⟨piece, last⟩ := active_parent found more
    refine ⟨pieces ++ [piece], List.append_ne_nil_of_right_ne_nil _ (List.cons_ne_nil _ _), ?_⟩
    rw [last, parts, List.append_assoc]

/-- Whether a path goes back over one of its own pieces or out of the folder where it begins. -/
def Climbs (path : Path) : Prop := Step.up ∈ path.steps

private theorem climbs_iff : path.Climbs ↔ ['.', '.'] ∈ path.active := by
  have piece (text : List Char) : stepOf text = .up ↔ text = ['.', '.'] := by
    rw [stepOf]
    split
    next up => simp [up]
    next named => simp [named]
  have front : Step.up ∉ path.frontSteps := by
    rw [frontSteps]
    split <;> simp
  rw [Climbs, steps_eq, List.mem_append, or_iff_right front, List.mem_map]
  simp only [piece, exists_eq_right]

theorem climbs_iff_mem_pieces : path.Climbs ↔ ['.', '.'] ∈ Text.pieces '/' path.text.toList := by
  rw [climbs_iff, active, List.mem_filter]
  exact and_iff_left rfl

theorem IsAbove.climbs (above : upper.IsAbove path) (written : upper.text ≠ "") (climbs : upper.Climbs) :
    path.Climbs := by
  obtain ⟨pieces, -, parts⟩ := above.active written
  rw [climbs_iff] at climbs ⊢
  rw [parts]
  exact List.mem_append_left pieces climbs

end Path

end SlidePress
