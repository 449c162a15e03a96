import Mathlib.Data.List.Forall2
import SlidePress.Proofs.TextCharacters

/-! The pieces of a text and its lines. Cutting a text and joining it again are the operations of that kind
on lists, and what a text is cut at is in none of its pieces. As for the lines in which something can be
seen, cutting at line feeds alone or with the carriage return before them, and removing the white space
around the whole text, change such a line at its ends only; none is lost or added, and their order stays. -/

namespace SlidePress.Text

theorem isEmpty_ofList (text : List Char) : (String.ofList text).isEmpty = text.isEmpty := by
  rw [Bool.eq_iff_iff, String.isEmpty_iff, String.ofList_eq_empty_iff, List.isEmpty_iff]

theorem pieces_eq_splitOn (cut : Char) (text : List Char) : pieces cut text = text.splitOn cut := by
  induction text with
  | nil => rfl
  | cons char text ih =>
    rw [pieces, List.splitOn_cons_eq_if_modifyHead]
    by_cases same : char = cut
    · simp [same, ih]
    · cases found : text.splitOn cut with
      | nil => exact absurd found (List.splitOn_ne_nil cut text)
      | cons piece others => simp [same, ih, found]

theorem notMem_of_mem_pieces {cut : Char} {text piece : List Char} (found : piece ∈ pieces cut text) :
    cut ∉ piece := by
  induction text generalizing piece with
  | nil => simp [List.mem_singleton.mp found]
  | cons char text ih =>
    rw [pieces] at found
    split at found
    · rcases List.mem_cons.mp found with rfl | later
      · exact List.not_mem_nil
      · exact ih later
    next other =>
      split at found
      · rw [List.mem_singleton.mp found, List.mem_singleton]
        exact Ne.symm other
      next head others rest =>
        rw [rest] at ih
        rcases List.mem_cons.mp found with rfl | later
        · rw [List.mem_cons, not_or]
          exact ⟨Ne.symm other, ih List.mem_cons_self⟩
        · exact ih (List.mem_cons_of_mem head later)

theorem joined_eq_intercalate (glue : Char) (texts : List (List Char)) :
    joined glue texts = [glue].intercalate texts := by
  induction texts using joined.induct with
  | case1 => rfl
  | case2 text => simp [joined, List.intercalate]
  | case3 text others several ih =>
    cases others with
    | nil => exact absurd rfl several
    | cons other others => simp [joined, ih, List.intercalate, List.intersperse]

/-- The lines of a text that are not blank. -/
def visibleLines (text : List Char) : List (List Char) :=
  (text.splitOn '\n').filter (!allBlank ·)

/-- `part` is `whole` without white space at the two ends, be it all of it or some. -/
def Strips (whole part : List Char) : Prop :=
  ∃ front back, allBlank front = true ∧ allBlank back = true ∧ whole = front ++ part ++ back

namespace Strips
variable {whole middle part : List Char}

theorem refl (text : List Char) : Strips text text := ⟨[], [], rfl, rfl, by simp⟩

instance : Std.Refl Strips := ⟨refl⟩

theorem trans (outer : Strips whole middle) (inner : Strips middle part) : Strips whole part := by
  obtain ⟨front, back, blank, blank', rfl⟩ := outer
  obtain ⟨front', back', blanker, blanker', rfl⟩ := inner
  refine ⟨front ++ front', back' ++ back, ?_, ?_, by simp⟩
  · rw [allBlank, List.all_append, Bool.and_eq_true]
    exact ⟨blank, blanker⟩
  · rw [allBlank, List.all_append, Bool.and_eq_true]
    exact ⟨blanker', blank'⟩

theorem isInfix (strips : Strips whole part) : part <:+: whole := by
  obtain ⟨front, back, -, -, rfl⟩ := strips
  exact ⟨front, back, rfl⟩

theorem allBlank_eq (strips : Strips whole part) : allBlank whole = allBlank part := by
  obtain ⟨front, back, blank, blank', rfl⟩ := strips
  rw [allBlank] at blank blank'
  rw [allBlank, List.all_append, List.all_append, blank, blank', Bool.true_and, Bool.and_true, allBlank]

theorem trim_eq (strips : Strips whole part) : trim whole = trim part := by
  obtain ⟨front, back, blank, blank', rfl⟩ := strips
  rw [trim_append_blank blank', trim, trimLeft, List.dropWhile_append_of_pos (List.all_eq_true.mp blank)]
  rfl

/-- Nothing can be stripped from a text without white space at its ends. -/
theorem eq_of_trimmed (strips : Strips whole part) (trimmed : trim whole = whole) : part = whole := by
  have short := length_trim_le part
  rw [← strips.trim_eq, trimmed] at short
  exact strips.isInfix.eq_of_length (Nat.le_antisymm strips.isInfix.length_le short)

end Strips

private theorem strips_trimLeft (text : List Char) : Strips text (trimLeft text) :=
  ⟨text.takeWhile isBlank, [], List.all_takeWhile, rfl, by simp [trimLeft]⟩

private theorem strips_trimRight (text : List Char) : Strips text (trimRight text) := by
  refine ⟨[], text.rtakeWhile isBlank, rfl, ?_, ?_⟩
  · exact List.all_eq_true.mpr fun _ => List.mem_rtakeWhile_imp
  · rw [List.nil_append, trimRight_eq_rdropWhile, List.rdropWhile_append_rtakeWhile]

theorem strips_trim (text : List Char) : Strips text (trim text) :=
  (strips_trimLeft text).trans (strips_trimRight (trimLeft text))

private theorem strips_withoutReturn (line : List Char) : Strips line (withoutReturn line) := by
  rw [withoutReturn]
  split
  next rest found =>
    have whole : line = rest.reverse ++ ['\r'] := by rw [← List.reverse_reverse line, found, List.reverse_cons]
    exact ⟨[], ['\r'], rfl, by decide, by rw [List.nil_append, whole]⟩
  next => exact .refl line

/-- Texts are read line by line. -/
@[elab_as_elim]
private theorem feeds_induction {motive : List Char → Prop} (text : List Char)
    (last : ∀ line, '\n' ∉ line → motive line)
    (feed : ∀ line rest, '\n' ∉ line → motive rest → motive (line ++ '\n' :: rest)) : motive text := by
  induction size : text.length using Nat.strongRecOn generalizing text with
  | ind size ih =>
    subst size
    by_cases broken : '\n' ∈ text
    · obtain ⟨line, rest, rfl, whole⟩ := List.eq_append_cons_of_mem broken
      have shorter : rest.length < (line ++ '\n' :: rest).length := by
        rw [List.length_append, List.length_cons]
        omega
      exact feed line rest whole (ih rest.length shorter rest rfl)
    · exact last text broken

variable {text line rest : List Char}

private theorem visibleLines_of_unbroken (whole : '\n' ∉ line) :
    visibleLines line = [line].filter (!allBlank ·) := by
  rw [visibleLines, List.splitOn_eq_singleton whole]

private theorem visibleLines_feed (whole : '\n' ∉ line) (rest : List Char) :
    visibleLines (line ++ '\n' :: rest) = (line :: rest.splitOn '\n').filter (!allBlank ·) := by
  rw [visibleLines, List.splitOn_append_cons_self_of_not_mem whole]

private theorem visibleLines_of_allBlank (blank : allBlank text = true) : visibleLines text = [] := by
  rw [visibleLines, List.filter_eq_nil_iff]
  intro line member
  rw [← pieces_eq_splitOn] at member
  have inside : allBlank line = true :=
    List.all_eq_true.mpr fun c known => List.all_eq_true.mp blank c (pieces_subset member known)
  simp [inside]

/-- Lines one below the other, each with its line feed, are the lines of their text. -/
theorem visibleLines_flatMap {lines : List (List Char)} (whole : ∀ line ∈ lines, '\n' ∉ line)
    (visible : ∀ line ∈ lines, allBlank line = false) :
    visibleLines (lines.flatMap (· ++ ['\n'])) = lines := by
  induction lines with
  | nil => rfl
  | cons line lines ih =>
    rw [List.forall_mem_cons] at whole visible
    rw [List.flatMap_cons, List.append_assoc, List.singleton_append, visibleLines_feed whole.1,
      List.filter_cons_of_pos (by simp [visible.1]), ← visibleLines, ih whole.2 visible.2]

/-- A line that is stripped stays among those that can be seen, or stays away from them. -/
theorem Strips.filter_cons {whole part : List Char} (strips : Strips whole part)
    {wholes parts : List (List Char)}
    (others : List.Forall₂ Strips (wholes.filter (!allBlank ·)) (parts.filter (!allBlank ·))) :
    List.Forall₂ Strips ((whole :: wholes).filter (!allBlank ·)) ((part :: parts).filter (!allBlank ·)) := by
  have alike := strips.allBlank_eq
  cases blank : allBlank whole with
  | true => simpa [blank, ← alike] using others
  | false => simpa [blank, ← alike] using ⟨strips, others⟩

/-- A single line that is stripped is still a single line. -/
theorem visibleLines_of_strips {part : List Char} (whole : '\n' ∉ line) (strips : Strips line part) :
    List.Forall₂ Strips (visibleLines line) (visibleLines part) := by
  have cut : '\n' ∉ part := fun inside => whole (strips.isInfix.subset inside)
  rw [visibleLines_of_unbroken whole, visibleLines_of_unbroken cut]
  exact strips.filter_cons .nil

private theorem visibleLines_trimLeft (text : List Char) :
    List.Forall₂ Strips (visibleLines text) (visibleLines (trimLeft text)) := by
  induction text using feeds_induction with
  | last line whole => exact visibleLines_of_strips whole (strips_trimLeft line)
  | feed line rest whole ih =>
    cases blank : allBlank line with
    | true =>
      have gone : trimLeft (line ++ '\n' :: rest) = trimLeft rest := by
        rw [trimLeft, List.dropWhile_append_of_pos (List.all_eq_true.mp blank),
          List.dropWhile_cons_of_pos (by decide), trimLeft]
      rw [gone, visibleLines_feed whole, List.filter_cons_of_neg (by simp [blank])]
      exact ih
    | false =>
      have cut : '\n' ∉ trimLeft line := fun inside => whole (trimLeft_subset line inside)
      have kept : trimLeft line ≠ [] := by
        intro gone
        have seen := (strips_trimLeft line).allBlank_eq
        rw [blank, gone] at seen
        cases seen
      have front : trimLeft (line ++ '\n' :: rest) = trimLeft line ++ '\n' :: rest := by
        rw [trimLeft, List.dropWhile_append, if_neg (by simpa [trimLeft] using kept), trimLeft]
      rw [front, visibleLines_feed whole, visibleLines_feed cut]
      exact (strips_trimLeft line).filter_cons (List.forall₂_refl _)

private theorem visibleLines_trimRight (text : List Char) :
    List.Forall₂ Strips (visibleLines text) (visibleLines (trimRight text)) := by
  induction text using feeds_induction with
  | last line whole => exact visibleLines_of_strips whole (strips_trimRight line)
  | feed line rest whole ih =>
    -- Either all below the line is blank and goes, or the line is not touched.
    cases blank : allBlank rest with
    | true =>
      have below : allBlank ('\n' :: rest) = true := by
        rw [allBlank, List.all_cons, Bool.and_eq_true]
        exact ⟨by decide, blank⟩
      have nothing := visibleLines_of_allBlank blank
      rw [visibleLines] at nothing
      rw [trimRight_append_blank below, visibleLines_feed whole, ← List.singleton_append, List.filter_append,
        nothing, List.append_nil, ← visibleLines_of_unbroken whole]
      exact visibleLines_of_strips whole (strips_trimRight line)
    | false =>
      have kept : trimRight rest ≠ [] := fun gone => by
        rw [trimRight_eq_nil_iff, blank] at gone
        cases gone
      have back : trimRight (line ++ '\n' :: rest) = line ++ '\n' :: trimRight rest := by
        rw [← List.singleton_append, ← List.append_assoc, trimRight_append kept, List.append_assoc,
          List.singleton_append]
      rw [back, visibleLines_feed whole, visibleLines_feed whole]
      exact (Strips.refl line).filter_cons ih

/-- Relations between neighbours make one between the lists at the two ends. -/
theorem forall₂_comp {α β γ : Type} {first : α → β → Prop} {second : β → γ → Prop} {both : α → γ → Prop}
    {as : List α} {bs : List β} {cs : List γ} (left : List.Forall₂ first as bs)
    (right : List.Forall₂ second bs cs) (step : ∀ a b c, first a b → second b c → both a c) :
    List.Forall₂ both as cs := by
  induction left generalizing cs with
  | nil =>
    cases right
    exact .nil
  | cons head _ ih =>
    cases right with
    | cons head' below => exact .cons (step _ _ _ head head') (ih below)

/-- What holds of related lists holds of all of one exactly if it does of all of the other. -/
theorem forall_mem_iff_of_forall₂ {α β : Type} {related : α → β → Prop} {first : α → Prop}
    {second : β → Prop} {as : List α} {bs : List β} (pairs : List.Forall₂ related as bs)
    (alike : ∀ a b, related a b → (first a ↔ second b)) : (∀ a ∈ as, first a) ↔ ∀ b ∈ bs, second b := by
  induction pairs with
  | nil => simp
  | cons head _ ih => rw [List.forall_mem_cons, List.forall_mem_cons, alike _ _ head, ih]

/-- White space around a text is removed from the ends of its lines. -/
theorem visibleLines_trim (text : List Char) :
    List.Forall₂ Strips (visibleLines text) (visibleLines (trim text)) := by
  have left := visibleLines_trimLeft text
  have right := visibleLines_trimRight (trimLeft text)
  rw [← trim] at right
  exact forall₂_comp left right fun _ _ _ => Strips.trans

/-- Lines that end with a carriage return and a line feed are the lines between line feeds without it. -/
theorem visibleLines_lines (text : List Char) :
    List.Forall₂ Strips (visibleLines text) ((lines text).filter (!allBlank ·)) := by
  rw [visibleLines, lines, ← pieces_eq_splitOn]
  generalize pieces '\n' text = all
  induction all using lines.go.induct with
  | case1 => exact .nil
  | case2 last empty =>
    obtain rfl := List.isEmpty_iff.mp empty
    exact .nil
  | case3 last something =>
    rw [lines.go, if_neg something]
    exact List.forall₂_refl _
  | case4 line others several ih =>
    rw [lines.go.eq_3 line others several]
    exact (strips_withoutReturn line).filter_cons ih

theorem map_trim_of_strips {wholes parts : List (List Char)} (strips : List.Forall₂ Strips wholes parts) :
    wholes.map trim = parts.map trim := by
  induction strips with
  | nil => rfl
  | cons first _ ih => rw [List.map_cons, List.map_cons, first.trim_eq, ih]

end SlidePress.Text
