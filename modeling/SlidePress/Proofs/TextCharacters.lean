import SlidePress.Proofs.MarkupCharacters
import SlidePress.Proofs.TextTrimming
import SlidePress.Text.Lines
import SlidePress.Text.Uppercase

/-! Where the characters of a text come from. What is cut out of a text has no others than the text
itself, and the capitals of allowed characters are allowed. -/

namespace SlidePress.Text

open Xml (isAllowed)

theorem trimLeft_subset (text : List Char) : trimLeft text ⊆ text := (List.dropWhile_sublist _).subset

private theorem trimRight_subset (text : List Char) : trimRight text ⊆ text := by
  rw [trimRight_eq_rdropWhile]
  exact (List.rdropWhile_prefix _ _).subset

theorem trim_subset (text : List Char) : trim text ⊆ text :=
  fun _ member => trimLeft_subset text (trimRight_subset _ member)

theorem trimMatching_subset (mark : Char) (text : List Char) : trimMatching mark text ⊆ text := by
  intro c member
  have back := (List.dropWhile_sublist _).subset (List.mem_reverse.mp member)
  exact (List.dropWhile_sublist _).subset (List.mem_reverse.mp back)

theorem after?_subset {marker text rest : List Char} (found : after? marker text = some rest) :
    rest ⊆ text := by
  rw [after?_eq_some_iff.mp found]
  exact List.subset_append_right marker rest

theorem pieces_subset {cut : Char} {text piece : List Char} (member : piece ∈ pieces cut text) :
    piece ⊆ text := by
  induction text generalizing piece with
  | nil =>
    obtain rfl := List.mem_singleton.mp member
    exact List.Subset.refl []
  | cons c text ih =>
    rw [pieces] at member
    split at member
    · obtain rfl | later := List.mem_cons.mp member
      · exact List.nil_subset _
      · exact List.subset_cons_of_subset c (ih later)
    · split at member
      next => simp [List.mem_singleton.mp member]
      next head others found =>
        rw [found] at ih
        obtain rfl | later := List.mem_cons.mp member
        · exact List.cons_subset_cons c (ih List.mem_cons_self)
        · exact List.subset_cons_of_subset c (ih (List.mem_cons_of_mem head later))

private theorem withoutReturn_subset (line : List Char) : withoutReturn line ⊆ line := by
  rw [withoutReturn]
  split
  next rest found =>
    intro c member
    have inside : c ∈ line.reverse := found ▸ List.mem_cons_of_mem '\r' (List.mem_reverse.mp member)
    exact List.mem_reverse.mp inside
  next => exact List.Subset.refl line

private theorem exists_piece_of_mem_go {all : List (List Char)} {line : List Char}
    (member : line ∈ lines.go all) :
    ∃ piece ∈ all, line ⊆ piece := by
  induction all using lines.go.induct with
  | case1 => cases member
  | case2 last empty =>
    rw [lines.go, if_pos empty] at member
    cases member
  | case3 last something =>
    rw [lines.go, if_neg something] at member
    exact ⟨line, member, List.Subset.refl line⟩
  | case4 piece others several ih =>
    rw [lines.go.eq_3 piece others several] at member
    obtain rfl | later := List.mem_cons.mp member
    · exact ⟨piece, List.mem_cons_self, withoutReturn_subset piece⟩
    · obtain ⟨other, known, inside⟩ := ih later
      exact ⟨other, List.mem_cons_of_mem piece known, inside⟩

theorem lines_subset {text line : List Char} (member : line ∈ lines text) : line ⊆ text := by
  obtain ⟨piece, known, inside⟩ := exists_piece_of_mem_go member
  exact List.Subset.trans inside (pieces_subset known)

theorem joined_subset {glue : Char} {texts : List (List Char)} {source : List Char}
    (inside : ∀ text ∈ texts, text ⊆ source) : joined glue texts ⊆ glue :: source := by
  induction texts using joined.induct with
  | case1 => exact List.nil_subset _
  | case2 text => exact List.subset_cons_of_subset glue (inside text List.mem_cons_self)
  | case3 text others several ih =>
    rw [joined.eq_3 glue text others several]
    have first := List.subset_cons_of_subset glue (inside text List.mem_cons_self)
    have later := ih fun other member => inside other (List.mem_cons_of_mem text member)
    exact List.append_subset.mpr ⟨first, List.cons_subset.mpr ⟨List.mem_cons_self, later⟩⟩

private theorem isAllowed_ofNat {code : Nat}
    (range : 0x20 ≤ code ∧ code < 0xD800 ∨ 0xE000 ≤ code ∧ code ≤ 0xFFFD ∨ 0x10000 ≤ code ∧ code < 0x110000) :
    isAllowed (Char.ofNat code) = true := by
  have valid : code.isValidChar := by
    rw [Nat.isValidChar]
    omega
  have known : (Char.ofNat code).toNat = code := by
    rw [Char.ofNat, dif_pos valid]
    rfl
  simp only [isAllowed, known, Bool.or_eq_true, Bool.and_eq_true, decide_eq_true_eq]
  omega

theorem isAllowed_capital {c : Char} (allowed : isAllowed c = true) : (capital c).all isAllowed = true := by
  have long : (longCapitals.all fun item => item.2.all fun code => isAllowed (Char.ofNat code)) = true := by
    decide +kernel
  have runs : (capitalRuns.all fun run =>
      0x20 ≤ run.capital && run.capital + (run.last - run.first) < 0xD800 ||
      0xE000 ≤ run.capital && run.capital + (run.last - run.first) ≤ 0xFFFD ||
      0x10000 ≤ run.capital && run.capital + (run.last - run.first) < 0x110000) = true := by
    decide +kernel
  rw [capital]
  split
  next letters found =>
    have known := Array.all_eq_true_iff_forall_mem.mp long _ (Array.mem_of_find?_eq_some found)
    rw [List.all_map]
    exact known
  next =>
    split
    next run found =>
      have range := Array.all_eq_true_iff_forall_mem.mp runs run (Array.mem_of_find?_eq_some found)
      have inside := Array.find?_some found
      simp only [Bool.and_eq_true, Bool.or_eq_true, decide_eq_true_eq] at range inside
      rw [List.all_cons, List.all_nil, Bool.and_true]
      exact isAllowed_ofNat (by omega)
    next => simpa using allowed

end SlidePress.Text
