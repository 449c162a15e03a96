import Mathlib.Data.List.DropRight
import SlidePress.File.Path
import SlidePress.Proofs.TextLines

/-! The steps of a path and the name at its end. A name adds one step to the path in front of it, whatever
the writing of that path. -/

namespace SlidePress

def Step.piece? : Step → Option (List Char)
  | .root | .here => none
  | .up => some ['.', '.']
  | .name text => some text.toList

namespace Path

structure IsName (piece : List Char) : Prop where
  active : isIdle piece = false
  notUp : piece ≠ ['.', '.']
  uncut : '/' ∉ piece

instance (piece : List Char) : Decidable (IsName piece) :=
  decidable_of_iff (isIdle piece = false ∧ piece ≠ ['.', '.'] ∧ '/' ∉ piece)
    ⟨fun ⟨active, notUp, uncut⟩ => ⟨active, notUp, uncut⟩,
      fun ⟨active, notUp, uncut⟩ => ⟨active, notUp, uncut⟩⟩

theorem IsName.ne_nil {piece : List Char} (name : IsName piece) : piece ≠ [] := by
  rintro rfl
  exact absurd name.active (by decide)

theorem IsName.not_dots {piece : List Char} (name : IsName piece) :
    ¬ (piece = ['.'] ∨ piece = ['.', '.']) := by
  rintro (rfl | up)
  · exact absurd name.active (by decide)
  · exact name.notUp up

def active (path : Path) : List (List Char) :=
  (Text.pieces '/' path.text.toList).filter (!isIdle ·)

theorem isIdle_eq_false_iff {piece : List Char} : isIdle piece = false ↔ piece ≠ [] ∧ piece ≠ ['.'] := by
  rw [isIdle, Bool.or_eq_false_iff, List.isEmpty_eq_false_iff, beq_eq_false_iff_ne]

/-- Idle pieces at the end make no difference to those that are not idle. -/
theorem filter_rdropWhile {drops : List Char → Bool} (idle : ∀ piece, drops piece = true → isIdle piece = true)
    (pieces : List (List Char)) :
    (pieces.rdropWhile drops).filter (!isIdle ·) = pieces.filter (!isIdle ·) := by
  induction pieces using List.reverseRecOn with
  | nil => rfl
  | append_singleton pieces piece ih =>
    rw [List.rdropWhile_concat]
    split
    next dropped =>
      rw [ih, List.filter_append, List.filter_cons_of_neg (by simp [idle piece dropped]), List.filter_nil,
        List.append_nil]
    next => rfl

def frontSteps (path : Path) : List Step :=
  match path.split.1 with
  | .root => [.root]
  | .here => [.here]
  | .anywhere => []

/-- What a path begins with, and what is left of it. -/
theorem split_cases (path : Path) :
    (∃ rest, path.text.toList = '/' :: rest ∧ path.split = (.root, rest)) ∨
    (path.text.toList = ['.'] ∧ path.split = (.here, [])) ∨
    (∃ rest, path.text.toList = '.' :: '/' :: rest ∧ path.split = (.here, '/' :: rest)) ∨
    (path.text.toList.head? ≠ some '/' ∧ path.text.toList ≠ ['.'] ∧
      ¬ ['.', '/'] <+: path.text.toList ∧ path.split = (.anywhere, path.text.toList)) := by
  rw [split]
  split
  next rest text => exact .inl ⟨rest, text, rfl⟩
  next text => exact .inr (.inl ⟨text, rfl⟩)
  next rest text => exact .inr (.inr (.inl ⟨rest, text, rfl⟩))
  next notRoot notDot notHere =>
    refine .inr (.inr (.inr ⟨fun root => ?_, notDot, ?_, rfl⟩))
    · obtain ⟨rest, text⟩ := List.head?_eq_some_iff.mp root
      exact notRoot rest text
    · rintro ⟨rest, text⟩
      exact notHere rest text.symm

theorem isAbsolute_iff {path : Path} : path.isAbsolute = true ↔ path.text.toList.head? = some '/' := by
  rw [isAbsolute, decide_eq_true_iff]
  rcases path.split_cases with ⟨rest, text, parts⟩ | ⟨text, parts⟩ | ⟨rest, text, parts⟩ |
    ⟨notRoot, -, -, parts⟩
  · simp [text, parts]
  · simp [text, parts]
  · simp [text, parts]
  · simp [notRoot, parts]

theorem frontSteps_eq (path : Path) : path.frontSteps =
    if path.text.toList.head? = some '/' then [.root]
    else if path.text.toList = ['.'] ∨ ['.', '/'] <+: path.text.toList then [.here]
    else [] := by
  rw [frontSteps]
  rcases path.split_cases with ⟨rest, text, parts⟩ | ⟨text, parts⟩ | ⟨rest, text, parts⟩ |
    ⟨notRoot, notDot, notHere, parts⟩
  · simp [text, parts]
  · simp [text, parts]
  · simp [text, parts, List.cons_prefix_cons]
  · simp [notRoot, notDot, notHere, parts]

theorem steps_eq (path : Path) : path.steps = path.frontSteps ++ path.active.map stepOf := by
  have same : (Text.pieces '/' path.split.2).filter (!isIdle ·) = path.active := by
    rw [active]
    rcases path.split_cases with ⟨rest, text, parts⟩ | ⟨text, parts⟩ | ⟨rest, text, parts⟩ |
      ⟨-, -, -, parts⟩
    · rw [text, parts, Text.pieces, if_pos rfl]
      rfl
    · rw [text, parts]
      rfl
    · rw [text, parts]
      rfl
    · rw [parts]
  rw [steps, same]
  rfl

private theorem piece?_stepOf (piece : List Char) : (stepOf piece).piece? = some piece := by
  rw [stepOf]
  split
  next up => rw [up]; rfl
  next => rw [Step.piece?, String.toList_ofList]

/-- The steps tell of the pieces that are not idle, and of where the path begins. -/
theorem active_eq_filterMap (path : Path) : path.active = path.steps.filterMap Step.piece? := by
  have front : path.frontSteps.filterMap Step.piece? = [] := by
    rw [frontSteps]
    split <;> rfl
  rw [steps_eq, List.filterMap_append, front, List.nil_append, List.filterMap_map]
  simp [piece?_stepOf]

theorem isAbsolute_iff_steps {path : Path} :
    path.isAbsolute = true ↔ path.steps.head? = some .root := by
  have behind : ∀ piece, stepOf piece ≠ .root := by
    intro piece
    rw [stepOf]
    split <;> simp
  rw [isAbsolute, decide_eq_true_iff, steps_eq, frontSteps]
  split
  next root => simp [root]
  next here => simp [here]
  next anywhere =>
    cases path.active with
    | nil => simp [anywhere]
    | cons piece pieces => simp [anywhere, behind]

/-! ### A path and a name behind it -/

/-- The writing of a path that a name can follow. -/
def opened (path : Path) : List Char :=
  if path.text.toList = [] ∨ path.text.toList.getLast? = some '/' then path.text.toList
  else path.text.toList ++ ['/']

theorem opened_cases (path : Path) :
    (path.text.toList = [] ∧ path.opened = []) ∨
      ∃ front, path.opened = front ++ ['/'] ∧
        (path.text.toList = front ∧ front ≠ [] ∨ path.text.toList = front ++ ['/']) := by
  by_cases empty : path.text.toList = []
  · exact .inl ⟨empty, by rw [opened, if_pos (.inl empty), empty]⟩
  · by_cases closed : path.text.toList.getLast? = some '/'
    · obtain ⟨front, same⟩ := List.getLast?_eq_some_iff.mp closed
      exact .inr ⟨front, by rw [opened, if_pos (.inr closed), same], .inr same⟩
    · have either : ¬ (path.text.toList = [] ∨ path.text.toList.getLast? = some '/') := by
        rw [not_or]
        exact ⟨empty, closed⟩
      exact .inr ⟨path.text.toList, by rw [opened, if_neg either], .inl ⟨rfl, empty⟩⟩

section

variable {name : String}

theorem not_isAbsolute (uncut : '/' ∉ name.toList) : ¬ (⟨name⟩ : Path).isAbsolute = true := by
  rw [isAbsolute_iff]
  exact fun front => uncut (List.mem_of_mem_head? front)

theorem toList_join (uncut : '/' ∉ name.toList) (path : Path) :
    (path.join ⟨name⟩).text.toList = path.opened ++ name.toList := by
  rw [join, if_neg (not_isAbsolute uncut), opened]
  by_cases closed : path.text.toList = [] ∨ path.text.toList.getLast? = some '/'
  · rw [if_pos closed, if_pos (by simpa using closed), String.toList_append]
  · rw [if_neg closed, if_neg (by simpa using closed)]
    simp

theorem pieces_join (uncut : '/' ∉ name.toList) (path : Path) :
    ∃ front, Text.pieces '/' (path.join ⟨name⟩).text.toList = front ++ [name.toList] ∧
      front.filter (!isIdle ·) = path.active := by
  rw [toList_join uncut, active]
  simp only [Text.pieces_eq_splitOn]
  have last := List.splitOn_eq_singleton uncut
  rcases path.opened_cases with ⟨empty, nothing⟩ | ⟨front, written, text⟩
  · refine ⟨[], ?_, ?_⟩
    · rw [nothing, List.nil_append, last, List.nil_append]
    · rw [empty]
      rfl
  · refine ⟨front.splitOn '/', ?_, ?_⟩
    · rw [written, List.append_assoc, List.singleton_append, List.splitOn_append_cons_self, last]
    · rcases text with ⟨text, -⟩ | text
      · rw [text]
      · rw [text, List.splitOn_append_cons_self, List.filter_append]
        exact (List.append_nil _).symm

private theorem active_join (step : IsName name.toList) (path : Path) :
    (path.join ⟨name⟩).active = path.active ++ [name.toList] := by
  obtain ⟨front, parts, same⟩ := pieces_join step.uncut path
  rw [active, parts, List.filter_append, same, List.filter_cons_of_pos (by simp [step.active]),
    List.filter_nil]

theorem frontSteps_join_of_written (uncut : '/' ∉ name.toList) {path : Path} (written : path.text ≠ "") :
    (path.join ⟨name⟩).frontSteps = path.frontSteps := by
  rw [frontSteps_eq, frontSteps_eq, toList_join uncut]
  rcases path.opened_cases with ⟨empty, -⟩ | ⟨front, opened, text⟩
  · exact absurd (String.toList_eq_nil_iff.mp empty) written
  · rw [opened]
    rcases text with ⟨text, nonempty⟩ | text
    · rw [text]
      rcases front with _ | ⟨first, _ | ⟨second, front⟩⟩
      · exact absurd rfl nonempty
      · simp [@eq_comm _ '.' first]
      · simp [List.cons_prefix_cons]
    · rw [text]
      rcases front with _ | ⟨first, _ | ⟨second, front⟩⟩
      · simp
      · simp [List.cons_prefix_cons]
      · simp [List.cons_prefix_cons]

private theorem frontSteps_join (step : IsName name.toList) (path : Path) :
    (path.join ⟨name⟩).frontSteps = path.frontSteps := by
  by_cases empty : path.text = ""
  · have notRoot : name.toList.head? ≠ some '/' := fun front => step.uncut (List.mem_of_mem_head? front)
    have notDot : name.toList ≠ ['.'] := fun same => absurd step.active (by rw [same]; decide)
    have notHere : ¬ ['.', '/'] <+: name.toList := fun front => step.uncut (front.subset (by decide))
    rw [frontSteps_eq, frontSteps_eq, toList_join step.uncut]
    simp [opened, empty, notRoot, notDot, notHere]
  · exact frontSteps_join_of_written step.uncut empty

/-- A name adds one step. -/
theorem steps_join (step : IsName name.toList) (path : Path) :
    (path.join ⟨name⟩).steps = path.steps ++ [.name name] := by
  rw [steps_eq, steps_eq, active_join step, frontSteps_join step, List.map_append, List.append_assoc,
    List.map_singleton, stepOf, if_neg step.notUp, String.ofList_toList]

end

/-! ### The name of a path -/

theorem isName_of_name? {path : Path} {name : String} (named : path.name? = some name) :
    IsName name.toList := by
  rw [name?] at named
  split at named
  next piece last =>
    split at named
    · cases named
    next notUp =>
      obtain rfl := Option.some.inj named
      rw [String.toList_ofList]
      have active := List.head?_dropWhile_not isIdle (Text.pieces '/' path.split.2).reverse
      rw [← List.getLast?_reverse, ← activePieces, last] at active
      have inside : piece ∈ (Text.pieces '/' path.split.2).rdropWhile isIdle := List.mem_of_getLast? last
      exact ⟨active, notUp, Text.notMem_of_mem_pieces ((List.rdropWhile_prefix _ _).subset inside)⟩
  next => cases named

/-- A path with a name is its parent and the name. -/
theorem withName_eq_join {path : Path} {name : String} (named : path.name? = some name) :
    ∃ parent, path.parent? = some parent ∧ ∀ other, path.withName other = parent.join ⟨other⟩ := by
  have nonempty : path.activePieces ≠ [] := by
    rintro empty
    rw [name?, empty] at named
    cases named
  obtain ⟨parent, found⟩ : ∃ parent, path.parent? = some parent := by
    rw [parent?]
    simp only [List.isEmpty_iff, nonempty, if_false]
    exact ⟨_, rfl⟩
  refine ⟨parent, found, fun other => ?_⟩
  rw [withName, named, found]

end Path

end SlidePress
