import Mathlib.Logic.Relation
import SlidePress.Host
import SlidePress.Proofs.TextLines

/-! The name of a system in the description of its release is that of the first entry for it. Other lines and
all that stands behind that entry count for nothing, and neither do quotes and white space around the name. -/

namespace SlidePress

private theorem Text.after?_concat {marker : List Char} {char : Char} (foreign : char ∉ marker)
    (text : List Char) :
    after? marker (text ++ [char]) = (after? marker text).map (· ++ [char]) := by
  induction marker generalizing text with
  | nil => rfl
  | cons mark marker ih =>
    rw [List.mem_cons, not_or] at foreign
    cases text with
    | nil => simp [after?, Ne.symm foreign.1]
    | cons first text =>
      by_cases same : mark = first
      · simp [after?, same, ih foreign.2]
      · simp [after?, same]

private theorem Text.trimMatching_quoted (mark : Char) (text : List Char) :
    trimMatching mark (mark :: (text ++ [mark])) = trimMatching mark text := by
  have front : (mark :: (text ++ [mark])).dropWhile (· == mark) = (text ++ [mark]).dropWhile (· == mark) :=
    List.dropWhile_cons_of_pos (by simp)
  rw [trimMatching, front, List.dropWhile_append, trimMatching]
  cases rest : text.dropWhile (· == mark) with
  | nil => simp
  | cons char others => simp

namespace Host

/-- A line of a description with an entry for the name. -/
def IsNameEntry (line : List Char) : Prop := nameKey <+: line

instance : DecidablePred IsNameEntry := fun line => inferInstanceAs (Decidable (nameKey <+: line))

/-- A line that gives a value for the name, bare or in quotes, with any white space around it. -/
inductive Gives (value : List Char) : (line : List Char) → Prop where
  | bare {written : List Char} (strips : Text.Strips written value) : Gives value (nameKey ++ written)
  | quoted {written : List Char} (strips : Text.Strips written ('"' :: (value ++ ['"']))) :
      Gives value (nameKey ++ written)

/-- A change of the lines of a description by which the name stays. -/
inductive IdleEdit : List (List Char) → List (List Char) → Prop where
  | inserted (front back : List (List Char)) {line : List Char} (other : ¬ IsNameEntry line) :
      IdleEdit (front ++ back) (front ++ line :: back)
  | behind {front : List (List Char)} (known : ∃ line ∈ front, IsNameEntry line)
      (back back' : List (List Char)) : IdleEdit (front ++ back) (front ++ back')
  | respelled (front back : List (List Char)) {value line line' : List Char}
      (trimmed : Text.trim value = value) (gives : Gives value line) (gives' : Gives value line') :
      IdleEdit (front ++ line :: back) (front ++ line' :: back)

/-- Descriptions that come from each other by such changes, in any number, made or unmade. -/
def SameName (description other : String) : Prop :=
  Relation.EqvGen IdleEdit (description.toList.splitOn '\n') (other.toList.splitOn '\n')

private theorem after?_withoutReturn (line : List Char) :
    (Text.after? nameKey (Text.withoutReturn line)).map Text.trim =
      (Text.after? nameKey line).map Text.trim := by
  rw [Text.withoutReturn]
  split
  next rest found =>
    have whole : line = rest.reverse ++ ['\r'] := by
      rw [← List.reverse_reverse line, found, List.reverse_cons]
    have idle (value : List Char) : Text.trim (value ++ ['\r']) = Text.trim value :=
      Text.trim_append_blank (by decide)
    rw [whole, Text.after?_concat (by decide), Option.map_map]
    simp [Function.comp_def, idle]
  next => rfl

private theorem releaseName?_lines (text : List Char) :
    releaseName? (Text.lines text) = releaseName? (text.splitOn '\n') := by
  -- A carriage return in front of the line feed is part of the value only until the value is trimmed.
  have values : ((Text.lines text).findSome? (Text.after? nameKey)).map Text.trim =
      ((text.splitOn '\n').findSome? (Text.after? nameKey)).map Text.trim := by
    rw [Text.lines, ← Text.pieces_eq_splitOn]
    generalize Text.pieces '\n' text = all
    induction all using Text.lines.go.induct with
    | case1 => rfl
    | case2 last empty =>
      obtain rfl := List.isEmpty_iff.mp empty
      rfl
    | case3 last something => rw [Text.lines.go, if_neg something]
    | case4 line others several ih =>
      have first := after?_withoutReturn line
      rw [Text.lines.go.eq_3 line others several, List.findSome?_cons, List.findSome?_cons]
      cases entry : Text.after? nameKey line with
      | none =>
        rw [entry, Option.map_none, Option.map_eq_none_iff] at first
        rw [first]
        exact ih
      | some value =>
        rw [entry, Option.map_some, Option.map_eq_some_iff] at first
        obtain ⟨value', found, same⟩ := first
        rw [found, Option.map_some, same, Option.map_some]
  have names := congrArg (Option.map (Text.trimMatching '"')) values
  rw [Option.map_map, Option.map_map] at names
  exact names

private theorem ofRelease?_eq (description : String) : ofRelease? description =
    (releaseName? (description.toList.splitOn '\n')).bind fun name => ofName? (String.ofList name) := by
  rw [ofRelease?, releaseName?_lines]

variable {line : List Char} {lines front : List (List Char)}

private theorem releaseName?_cons_entry (written : List Char) (lines : List (List Char)) :
    releaseName? ((nameKey ++ written) :: lines) = some (Text.trimMatching '"' (Text.trim written)) := by
  rw [releaseName?, List.findSome?_cons, Text.after?_eq_some_iff.mpr rfl]
  rfl

private theorem releaseName?_cons_other (other : ¬ IsNameEntry line) (lines : List (List Char)) :
    releaseName? (line :: lines) = releaseName? lines := by
  have none : Text.after? nameKey line = none := by
    cases entry : Text.after? nameKey line with
    | none => rfl
    | some value => exact absurd ⟨value, (Text.after?_eq_some_iff.mp entry).symm⟩ other
  rw [releaseName?, List.findSome?_cons, none, releaseName?]

theorem releaseName?_append (front back : List (List Char)) :
    releaseName? (front ++ back) = (releaseName? front).or (releaseName? back) := by
  rw [releaseName?, List.findSome?_append, releaseName?, releaseName?]
  cases front.findSome? (Text.after? nameKey) <;> rfl

private theorem releaseName?_of_others (others : ∀ line ∈ lines, ¬ IsNameEntry line) :
    releaseName? lines = none := by
  induction lines with
  | nil => rfl
  | cons line lines ih =>
    rw [List.forall_mem_cons] at others
    rw [releaseName?_cons_other others.1, ih others.2]

private theorem exists_releaseName? (known : ∃ line ∈ lines, IsNameEntry line) :
    ∃ name, releaseName? lines = some name := by
  induction lines with
  | nil => simp at known
  | cons line lines ih =>
    by_cases entry : IsNameEntry line
    · obtain ⟨written, rfl⟩ := entry
      exact ⟨_, releaseName?_cons_entry written lines⟩
    · rw [releaseName?_cons_other entry]
      apply ih
      simpa [entry] using known

private theorem releaseName?_of_gives {value : List Char} (gives : Gives value line)
    (trimmed : Text.trim value = value)
    (lines : List (List Char)) : releaseName? (line :: lines) = some (Text.trimMatching '"' value) := by
  cases gives with
  | bare strips => rw [releaseName?_cons_entry, strips.trim_eq, trimmed]
  | quoted strips =>
    have visible : Text.trim ('"' :: (value ++ ['"'])) = '"' :: (value ++ ['"']) := by
      apply Text.trim_eq_self
      · intro char first
        obtain rfl := Option.some.inj first
        decide
      · intro char last
        rw [← List.cons_append, List.getLast?_concat] at last
        obtain rfl := Option.some.inj last
        decide
    rw [releaseName?_cons_entry, strips.trim_eq, visible, Text.trimMatching_quoted]

theorem IdleEdit.releaseName? {lines lines' : List (List Char)} (edit : IdleEdit lines lines') :
    releaseName? lines = releaseName? lines' := by
  cases edit with
  | inserted front back other =>
    rw [releaseName?_append, releaseName?_append, releaseName?_cons_other other]
  | behind known back back' =>
    obtain ⟨name, found⟩ := exists_releaseName? known
    rw [releaseName?_append, releaseName?_append, found, Option.some_or, Option.some_or]
  | respelled front back trimmed gives gives' =>
    rw [releaseName?_append, releaseName?_append, releaseName?_of_gives gives trimmed,
      releaseName?_of_gives gives' trimmed]

private theorem releaseName?_of_edits {lines lines' : List (List Char)}
    (edits : Relation.EqvGen IdleEdit lines lines') :
    releaseName? lines = releaseName? lines' := by
  induction edits with
  | rel lines lines' edit => exact edit.releaseName?
  | refl lines => rfl
  | symm lines lines' _ ih => exact ih.symm
  | trans lines middle lines' _ _ first second => exact first.trans second

private theorem releaseName?_eq_find? (lines : List (List Char)) :
    releaseName? lines = (lines.find? (IsNameEntry ·)).bind fun line => releaseName? [line] := by
  induction lines with
  | nil => rfl
  | cons line lines ih =>
    by_cases entry : IsNameEntry line
    · rw [List.find?_cons_of_pos (by simpa using entry), Option.bind_some]
      obtain ⟨written, rfl⟩ := entry
      rw [releaseName?_cons_entry, releaseName?_cons_entry]
    · rw [List.find?_cons_of_neg (by simpa using entry), releaseName?_cons_other entry, ih]

/-- A system is known by the first entry for its name alone. Other lines may come and go, all behind that entry
may change, and its value may be written in any way; without an entry the system is not known, and with one it
is that of the name in the entry. -/
theorem known_by_first_entry :
    (∀ description other : String, (description.toList.splitOn '\n').find? (IsNameEntry ·) =
        (other.toList.splitOn '\n').find? (IsNameEntry ·) → ofRelease? description = ofRelease? other) ∧
      (∀ description other, SameName description other → ofRelease? description = ofRelease? other) ∧
      (∀ description, (∀ line ∈ description.toList.splitOn '\n', ¬ IsNameEntry line) →
        ofRelease? description = none) ∧
      ∀ (description : String) front line back value,
        description.toList.splitOn '\n' = front ++ line :: back → (∀ other ∈ front, ¬ IsNameEntry other) →
        Gives value line → Text.trim value = value →
        ofRelease? description = ofName? (String.ofList (Text.trimMatching '"' value)) := by
  refine ⟨?_, ?_, ?_, ?_⟩
  · intro description other same
    rw [ofRelease?_eq, ofRelease?_eq, releaseName?_eq_find?, same, ← releaseName?_eq_find?]
  · intro description other same
    rw [ofRelease?_eq, ofRelease?_eq, releaseName?_of_edits same]
  · intro description others
    rw [ofRelease?_eq, releaseName?_of_others others, Option.bind_none]
  · intro description front line back value split others gives trimmed
    rw [ofRelease?_eq, split, releaseName?_append, releaseName?_of_others others, Option.none_or,
      releaseName?_of_gives gives trimmed, Option.bind_some]

/-- Entries with other keys in front and behind, quotes and white space, and a second entry for the name. -/
theorem known_by_first_entry_in_quotes :
    let description := "NAME=\"A\"\nID=ubuntu\nVERSION_ID=\"22\"\n"
    let other := "ID_LIKE=debian\nID= \"ubuntu\"\r\nID=fedora"
    SameName description other ∧ ofRelease? description = ofRelease? other ∧
      ofRelease? description = some .ubuntu ∧ ofRelease? "ID=ubuntu" = ofRelease? description ∧
      ofRelease? "ID_LIKE=debian\n" = none := by
  intro description other
  let value := "ubuntu".toList
  let bare := nameKey ++ value
  let quoted := nameKey ++ (' ' :: '"' :: (value ++ ['"']) ++ ['\r'])
  have split : description.toList.splitOn '\n' =
      "NAME=\"A\"".toList :: bare :: ["VERSION_ID=\"22\"".toList, []] := by decide +kernel
  have split' : other.toList.splitOn '\n' =
      "ID_LIKE=debian".toList :: quoted :: ["ID=fedora".toList] := by decide +kernel
  have trimmed : Text.trim value = value := by decide +kernel
  have gives : Gives value bare := .bare (.refl value)
  have gives' : Gives value quoted := .quoted ⟨[' '], ['\r'], by decide, by decide, rfl⟩
  have same : SameName description other := by
    rw [SameName, split, split']
    -- First the line in front goes, then all behind the entry changes, then the entry, and a line comes in front.
    apply Relation.EqvGen.trans _ (bare :: ["VERSION_ID=\"22\"".toList, []])
    · exact .symm _ _ (.rel _ _ (.inserted [] _ (by decide +kernel)))
    apply Relation.EqvGen.trans _ (bare :: ["ID=fedora".toList])
    · exact .rel _ _ (@IdleEdit.behind [bare] ⟨bare, List.mem_cons_self, by decide +kernel⟩ _ _)
    apply Relation.EqvGen.trans _ (quoted :: ["ID=fedora".toList])
    · exact .rel _ _ (.respelled [] _ trimmed gives gives')
    · exact .rel _ _ (.inserted [] _ (by decide +kernel))
  obtain ⟨first, edited, missing, named⟩ := known_by_first_entry
  refine ⟨same, edited description other same, ?_, first "ID=ubuntu" description (by decide +kernel),
    missing "ID_LIKE=debian\n" (by decide +kernel)⟩
  have other : ∀ line ∈ ["NAME=\"A\"".toList], ¬ IsNameEntry line := by decide +kernel
  rw [named description _ bare _ value split other gives trimmed]
  decide +kernel

end Host

end SlidePress
