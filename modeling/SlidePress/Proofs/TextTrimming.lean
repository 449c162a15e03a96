import Mathlib.Data.List.DropRight
import SlidePress.Text.Blank
import SlidePress.Text.Search

/-! Trimmed text and marks at its front. A trimmed text never ends in white space, so something is
always left behind a mark that does. -/

namespace SlidePress.Text

theorem after?_eq_some_iff {marker text rest : List Char} :
    after? marker text = some rest ↔ text = marker ++ rest := by
  induction marker generalizing text with
  | nil => simp [after?, eq_comm]
  | cons mark marker ih =>
    cases text with
    | nil => simp [after?]
    | cons char text =>
      by_cases same : mark = char
      · subst same
        simpa [after?] using ih
      · simp [after?, same, Ne.symm same]

theorem startsWith_iff {marker text : List Char} : startsWith marker text = true ↔ marker <+: text := by
  simp only [startsWith, Option.isSome_iff_exists, after?_eq_some_iff]
  exact ⟨fun ⟨rest, same⟩ => ⟨rest, same.symm⟩, fun ⟨rest, same⟩ => ⟨rest, same.symm⟩⟩

theorem endsWith_iff {marker text : List Char} : endsWith marker text = true ↔ marker <:+ text := by
  rw [endsWith, startsWith_iff, List.reverse_prefix]

/-- At most one of two marks of which neither begins the other stands at the front. -/
theorem after?_excludes {first second text rest : List Char} (found : after? first text = some rest)
    (apart : ¬ first <+: second) (apart' : ¬ second <+: first) : after? second text = none := by
  cases other : after? second text with
  | none => rfl
  | some tail =>
    rw [after?_eq_some_iff] at found other
    have front : first <+: text := ⟨rest, found.symm⟩
    have back : second <+: text := ⟨tail, other.symm⟩
    rcases List.prefix_or_prefix_of_prefix front back with inside | inside
    · exact absurd inside apart
    · exact absurd inside apart'

theorem trimRight_eq_rdropWhile (text : List Char) : trimRight text = text.rdropWhile isBlank := rfl

theorem trimRight_append {front back : List Char} (visible : trimRight back ≠ []) :
    trimRight (front ++ back) = front ++ trimRight back := by
  have kept : back.reverse.dropWhile isBlank ≠ [] := by
    intro gone
    exact visible (by rw [trimRight, gone, List.reverse_nil])
  rw [trimRight, List.reverse_append, List.dropWhile_append]
  simp [trimRight, kept]

theorem trimRight_eq_nil_iff {text : List Char} : trimRight text = [] ↔ allBlank text = true := by
  rw [trimRight_eq_rdropWhile, List.rdropWhile_eq_nil_iff, allBlank, List.all_eq_true]

theorem trim_eq_nil_iff {text : List Char} : trim text = [] ↔ allBlank text = true := by
  have split : text = text.takeWhile isBlank ++ text.dropWhile isBlank :=
    List.takeWhile_append_dropWhile.symm
  have front : (text.takeWhile isBlank).all isBlank = true :=
    List.all_takeWhile
  rw [trim, trimRight_eq_nil_iff, trimLeft]
  constructor
  · intro blank
    rw [allBlank, split, List.all_append, front]
    exact blank
  · intro blank
    rw [allBlank, split, List.all_append, Bool.and_eq_true] at blank
    exact blank.2

/-- The last character of a trimmed text can be seen. -/
theorem isBlank_getLast_trim {text : List Char} (something : trim text ≠ []) :
    isBlank ((trim text).getLast something) = false := by
  have visible := List.rdropWhile_last_not isBlank (trimLeft text) something
  exact Bool.eq_false_iff.mpr visible

/-- A mark that ends in white space is never all of a trimmed text. -/
theorem trim_after?_ne_nil {marker text rest : List Char} (found : after? marker (trim text) = some rest)
    (ending : marker ≠ []) (blank : isBlank (marker.getLast ending) = true) : trim rest ≠ [] := by
  intro gone
  rw [after?_eq_some_iff] at found
  have something : trim text ≠ [] := by simp [found, ending]
  have visible := isBlank_getLast_trim something
  simp only [found] at visible
  by_cases nothing : rest = []
  · subst nothing
    simp [blank] at visible
  · rw [List.getLast_append_of_ne_nil _ nothing] at visible
    have hidden : isBlank (rest.getLast nothing) = true :=
      List.all_eq_true.mp (trim_eq_nil_iff.mp gone) _ (List.getLast_mem nothing)
    rw [hidden] at visible
    cases visible

/-- Trimming leaves a visible front as it is. -/
theorem trim_append {front back : List Char} (something : front ≠ [])
    (visible : isBlank (front.head something) = false) (kept : trimRight back ≠ []) :
    trim (front ++ back) = front ++ trimRight back := by
  cases front with
  | nil => exact absurd rfl something
  | cons char front =>
    have first : isBlank char = false := visible
    rw [trim, trimLeft, List.cons_append, List.dropWhile_cons_of_neg (by simp [first]),
      ← List.cons_append, trimRight_append kept]

private theorem trimRight_trimRight (text : List Char) : trimRight (trimRight text) = trimRight text :=
  List.rdropWhile_idempotent isBlank text

theorem trimRight_append_blank {front back : List Char} (blank : allBlank back = true) :
    trimRight (front ++ back) = trimRight front := by
  have hidden : ∀ char ∈ back.reverse, isBlank char = true := by
    simpa [allBlank] using blank
  rw [trimRight, List.reverse_append, List.dropWhile_append_of_pos hidden, trimRight]

/-- A visible end in front keeps all of itself when the white space behind is removed. -/
theorem trimRight_append_visible {front : List Char} (something : front ≠ [])
    (visible : isBlank (front.getLast something) = false) (back : List Char) :
    trimRight (front ++ back) = front ++ trimRight back := by
  by_cases kept : trimRight back = []
  · rw [kept, trimRight_append_blank (trimRight_eq_nil_iff.mp kept), List.append_nil,
      trimRight_eq_rdropWhile, List.rdropWhile_eq_self_iff]
    intro _
    simp [visible]
  · exact trimRight_append kept

/-- White space at the end makes no difference to a trimmed text. -/
theorem trim_trimRight (text : List Char) : trim (trimRight text) = trim text := by
  have front : ∀ char ∈ text.takeWhile isBlank, isBlank char = true := fun _ => List.mem_takeWhile_imp
  have split : text = text.takeWhile isBlank ++ trimLeft text := List.takeWhile_append_dropWhile.symm
  by_cases kept : trimRight (trimLeft text) = []
  · have blank : trimRight text = [] := trimRight_eq_nil_iff.mpr (trim_eq_nil_iff.mp kept)
    rw [blank, trim, trim, kept]
    rfl
  · have whole : trimLeft (trimRight (trimLeft text)) = trimRight (trimLeft text) := by
      obtain ⟨char, more, found⟩ := List.exists_cons_of_ne_nil kept
      obtain ⟨rest, joined⟩ : trimRight (trimLeft text) <+: trimLeft text :=
        List.rdropWhile_prefix isBlank _
      have left : text.dropWhile isBlank = char :: (more ++ rest) := by
        rw [← trimLeft, ← joined, found, List.cons_append]
      have visible := List.head_dropWhile_not isBlank (l := text) (by simp [left])
      simp only [left, List.head_cons] at visible
      rw [found, trimLeft, List.dropWhile_cons_of_neg (by simp [visible])]
    calc trim (trimRight text)
        = trim (text.takeWhile isBlank ++ trimRight (trimLeft text)) := by
          rw [← trimRight_append kept, ← split]
      _ = trimRight (trimLeft (trimRight (trimLeft text))) := by
          rw [trim, trimLeft, List.dropWhile_append_of_pos front, ← trimLeft]
      _ = trim text := by rw [whole, trimRight_trimRight, trim]

theorem trim_append_blank {front back : List Char} (blank : allBlank back = true) :
    trim (front ++ back) = trim front := by
  rw [← trim_trimRight, trimRight_append_blank blank, trim_trimRight]

private theorem trim_trimLeft (text : List Char) : trim (trimLeft text) = trim text := by
  rw [trim, trim, trimLeft, trimLeft, List.dropWhile_idempotent]

theorem length_trim_le (text : List Char) : (trim text).length ≤ text.length :=
  ((List.rdropWhile_prefix isBlank _).sublist.trans (List.dropWhile_sublist isBlank)).length_le

theorem trim_trim (text : List Char) : trim (trim text) = trim text := by
  rw [trim.eq_1 text, trim_trimRight, trim_trimLeft, trim]

/-- A text with visible ends has nothing to trim. -/
theorem trim_eq_self {text : List Char} (first : ∀ char ∈ text.head?, isBlank char = false)
    (last : ∀ char ∈ text.getLast?, isBlank char = false) : trim text = text := by
  have front : trimLeft text = text := by
    cases text with
    | nil => rfl
    | cons char rest =>
      have visible := first char rfl
      exact List.dropWhile_cons_of_neg (by simp [visible])
  rw [trim, front, trimRight_eq_rdropWhile, List.rdropWhile_eq_self_iff]
  intro something
  have visible := last _ (List.getLast?_eq_some_getLast something)
  simp [visible]

end SlidePress.Text
