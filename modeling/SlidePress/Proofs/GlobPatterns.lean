import Mathlib.Data.List.Forall2
import Mathlib.Data.List.Induction
import SlidePress.Glob.Pattern
import SlidePress.Proofs.TextLines

/-! What patterns stand for. A pattern spells a text if the text can be cut into parts, one for each token; a
text with its special characters in brackets is a pattern for nothing but that text. -/

namespace SlidePress.Glob

def Token.IsWild (token : Token) : Prop := token = .anyText ∨ token = .anySteps

/-- Whether tokens spell a text: one character of it for each of them, or any number for a wild one. -/
inductive Spells : List Token → List Char → Prop where
  | nothing : Spells [] []
  | one {token : Token} {char : Char} {tokens : List Token} {text : List Char}
      (accepted : token.accepts char = true) (rest : Spells tokens text) :
      Spells (token :: tokens) (char :: text)
  | many {token : Token} {tokens : List Token} {text : List Char} (wild : token.IsWild) (own : List Char)
      (rest : Spells tokens text) : Spells (token :: tokens) (own ++ text)

variable {token : Token} {tokens : List Token} {text : List Char}

@[simp] theorem spells_nil_iff : Spells [] text ↔ text = [] := by
  constructor
  · rintro ⟨⟩
    rfl
  · rintro rfl
    exact .nothing

private theorem spells_singleton_iff :
    Spells [token] text ↔ (∃ char, text = [char] ∧ token.accepts char = true) ∨ token.IsWild := by
  constructor
  · intro spelled
    cases spelled with
    | one accepted rest =>
      obtain rfl := spells_nil_iff.mp rest
      exact .inl ⟨_, rfl, accepted⟩
    | many wild own rest => exact .inr wild
  · rintro (⟨char, rfl, accepted⟩ | wild)
    · exact .one accepted .nothing
    · exact text.append_nil ▸ .many wild text .nothing

private theorem spells_append_iff {first second : List Token} : Spells (first ++ second) text ↔
    ∃ front back, text = front ++ back ∧ Spells first front ∧ Spells second back := by
  constructor
  · intro spelled
    induction first generalizing text with
    | nil => exact ⟨[], text, rfl, .nothing, spelled⟩
    | cons token first ih =>
      cases spelled with
      | one accepted rest =>
        obtain ⟨front, back, rfl, early, late⟩ := ih rest
        exact ⟨_ :: front, back, rfl, .one accepted early, late⟩
      | many wild own rest =>
        obtain ⟨front, back, rfl, early, late⟩ := ih rest
        exact ⟨own ++ front, back, (List.append_assoc ..).symm, .many wild own early, late⟩
  · rintro ⟨front, back, rfl, early, late⟩
    induction early with
    | nothing => exact late
    | one accepted rest ih => exact .one accepted ih
    | many wild own rest ih =>
      rw [List.append_assoc]
      exact .many wild own ih

/-! ### Matching -/

structure Marks (tokens : List Token) (text : List Char) (marks : List Bool) : Prop where
  length : marks.length = text.length + 1
  marked : ∀ place ≤ text.length, marks[place]? = some true ↔ Spells tokens (text.take place)

private theorem marks_start (text : List Char) : Marks [] text (true :: text.map fun _ => false) where
  length := by simp
  marked := by
    intro place inside
    cases place with
    | zero => simp
    | succ place =>
      have nonempty := List.ne_nil_of_length_pos (Nat.zero_lt_of_lt inside)
      simp [List.getElem?_replicate, List.take_eq_nil_iff, nonempty]

private theorem foldl_or_eq_true_iff (marks : List Bool) (first : Bool) :
    marks.foldl (· || ·) first = true ↔ true ∈ first :: marks := by
  induction marks generalizing first with
  | nil => simp [eq_comm]
  | cons mark marks ih =>
    rw [List.foldl_cons, ih]
    cases first <;> simp

namespace Marks

variable {marks : List Bool}

private theorem advance_wild (marked : Marks tokens text marks) (wild : token.IsWild) :
    Marks (tokens ++ [token]) text (token.advance text marks) := by
  have moved : token.advance text marks = (marks.drop 1).scanl (· || ·) (marks.head?.getD false) := by
    rcases wild with rfl | rfl <;> rfl
  obtain ⟨first, marks, rfl⟩ := List.exists_cons_of_length_eq_add_one marked.length
  have size : marks.length = text.length := Nat.succ.inj marked.length
  refine ⟨?_, fun place inside => ?_⟩
  · rw [moved, List.length_scanl, List.drop_one, List.tail_cons, size]
  · rw [moved, List.drop_one, List.tail_cons, List.head?_cons, Option.getD_some, List.getElem?_scanl,
      if_pos (size ▸ inside), Option.some.injEq, foldl_or_eq_true_iff, ← List.take_succ_cons,
      spells_append_iff]
    constructor
    · intro before
      obtain ⟨early, found⟩ := List.mem_iff_getElem?.mp before
      rw [List.getElem?_take] at found
      split at found
      next reached =>
        have upTo : early ≤ place := Nat.le_of_lt_succ reached
        refine ⟨text.take early, (text.take place).drop early, ?_,
          (marked.marked early (Nat.le_trans upTo inside)).mp found, spells_singleton_iff.mpr (.inr wild)⟩
        have front : (text.take place).take early = text.take early := by
          rw [List.take_take, Nat.min_eq_left upTo]
        rw [← front, List.take_append_drop]
      next => cases found
    · rintro ⟨front, back, parts, early, -⟩
      have begins : front <+: text.take place := ⟨back, parts.symm⟩
      obtain ⟨begins, upTo⟩ := List.prefix_take_iff.mp begins
      rw [List.prefix_iff_eq_take.mp begins] at early
      refine List.mem_iff_getElem?.mpr ⟨front.length, ?_⟩
      rw [List.getElem?_take, if_pos (Nat.lt_succ_of_le upTo)]
      exact (marked.marked _ begins.length_le).mpr early

private theorem advance_single (marked : Marks tokens text marks) (single : ¬ token.IsWild) :
    Marks (tokens ++ [token]) text (token.advance text marks) := by
  have moved : token.advance text marks =
      false :: List.zipWith (fun start char => start && token.accepts char) marks text := by
    cases token with
    | anyText => exact absurd (.inl rfl) single
    | anySteps => exact absurd (.inr rfl) single
    | _ => rfl
  have length := marked.length
  refine ⟨by rw [moved]; simp [length], fun place inside => ?_⟩
  have last (back : List Char) : Spells [token] back ↔ ∃ char, back = [char] ∧ token.accepts char = true := by
    rw [spells_singleton_iff, or_iff_left single]
  rw [moved, spells_append_iff]
  cases place with
  | zero =>
    refine iff_of_false (by simp) ?_
    rintro ⟨front, back, parts, -, late⟩
    obtain ⟨char, rfl, -⟩ := (last back).mp late
    simp at parts
  | succ place =>
    have own : text[place]? = some text[place] := List.getElem?_eq_getElem inside
    have before := marked.marked place (Nat.le_of_succ_le inside)
    obtain ⟨mark, found⟩ : ∃ mark, marks[place]? = some mark :=
      ⟨_, List.getElem?_eq_getElem (length ▸ Nat.lt_succ_of_lt inside)⟩
    rw [List.getElem?_cons_succ, List.getElem?_zipWith, found, own, ← List.take_append_getElem inside]
    rw [found, Option.some.injEq] at before
    simp only [Option.some.injEq, Bool.and_eq_true, before]
    constructor
    · rintro ⟨early, accepted⟩
      exact ⟨_, _, rfl, early, (last _).mpr ⟨_, rfl, accepted⟩⟩
    · rintro ⟨front, back, parts, early, late⟩
      obtain ⟨char, rfl, accepted⟩ := (last back).mp late
      obtain ⟨rfl, same⟩ := List.append_inj' parts rfl
      exact ⟨early, List.singleton_inj.mp same ▸ accepted⟩

theorem advance (marked : Marks tokens text marks) (token : Token) :
    Marks (tokens ++ [token]) text (token.advance text marks) := by
  by_cases wild : token.IsWild
  · exact marked.advance_wild wild
  · exact marked.advance_single wild

end Marks

private theorem marks_reached (tokens : List Token) (text : List Char) : Marks tokens text
    (reached tokens text) := by
  induction tokens using List.reverseRecOn with
  | nil => exact marks_start text
  | append_singleton tokens token ih =>
    rw [reached, List.foldl_append]
    exact ih.advance token

/-- Matching tells whether tokens spell a text. -/
theorem matchesText_iff : matchesText tokens text = true ↔ Spells tokens text := by
  have marked := marks_reached tokens text
  have last := marked.marked text.length (Nat.le_refl _)
  rw [List.take_length] at last
  rw [← last, matchesText, List.getLast?_eq_getElem?, marked.length, Nat.add_sub_cancel]
  cases (reached tokens text)[text.length]? with
  | none => simp
  | some mark => simp

/-! ### Reading patterns without two stars in a row -/

/-- Whether a pattern is read as the same tokens behind whatever stands in front of it. -/
def ReadsAs (pattern : List Char) (tokens : List Token) : Prop :=
  ∀ before position, parseFrom 0 before position pattern = .ok tokens

private theorem class?_isPlain {rest : List Char} {length : Nat} (found : class? rest = some (token, length)) :
    token ≠ .anySteps ∧ ∀ own, token ≠ .char own := by
  unfold class? at found
  split at found
  · split at found
    · cases found
      exact ⟨nofun, nofun⟩
    · cases found
  · cases found
  · split at found
    · cases found
      exact ⟨nofun, nofun⟩
    · cases found
  · cases found

section

variable {char : Char} {rest : List Char} (single : ¬ ['*', '*'] <:+: char :: rest)
include single

/-- What the first token is does not depend on what stands in front, unless it is made of two stars. -/
theorem parseFrom_cons :
    (∃ token skip, token ≠ .anySteps ∧ (∀ own, token = .char own → own = char) ∧
      ∀ before position, parseFrom 0 before position (char :: rest) =
        (parseFrom skip (some char) (position + 1) rest).map (token :: ·)) ∨
    ∀ before position, ∃ error, parseFrom 0 before position (char :: rest) = .error error := by
  by_cases anyChar : char = '?'
  · exact .inl ⟨.anyChar, 0, nofun, nofun, fun _ _ => by rw [parseFrom, if_pos anyChar]⟩
  by_cases star : char = '*'
  · have alone : rest.takeWhile (· = '*') = [] := by
      cases rest with
      | nil => rfl
      | cons next rest =>
        refine List.takeWhile_cons_of_neg fun again => single ?_
        rw [star, of_decide_eq_true again]
        exact (List.prefix_append ['*', '*'] rest).isInfix
    refine .inl ⟨.anyText, 0, nofun, nofun, fun _ _ => ?_⟩
    rw [parseFrom, if_neg anyChar, if_pos star, alone]
    rfl
  by_cases bracket : char = '['
  · cases found : class? rest with
    | none =>
      refine .inr fun _ position => ⟨⟨position, .bracket⟩, ?_⟩
      simp only [parseFrom, if_neg anyChar, if_neg star, if_pos bracket, found]
    | some taken =>
      obtain ⟨plain, noChar⟩ := class?_isPlain found
      refine .inl ⟨taken.1, taken.2, plain, fun own same => absurd same (noChar own), fun _ _ => ?_⟩
      simp only [parseFrom, if_neg anyChar, if_neg star, if_pos bracket, found]
  · refine .inl ⟨.char char, 0, nofun, fun own same => (Token.char.inj same).symm, fun _ _ => ?_⟩
    rw [parseFrom, if_neg anyChar, if_neg star, if_neg bracket]

private theorem not_infix_tail : ¬ ['*', '*'] <:+: rest := fun inside => single (List.infix_cons inside)

end

theorem map_eq_ok_iff {ε α β : Type} {f : α → β} {result : Except ε α} {value : β} :
    result.map f = .ok value ↔ ∃ own, result = .ok own ∧ f own = value := by
  cases result <;> simp [Except.map]

theorem parseFrom_single {pattern : List Char} (single : ¬ ['*', '*'] <:+: pattern) {skip position : Nat}
    {before : Option Char} (read : parseFrom skip before position pattern = .ok tokens) :
    .anySteps ∉ tokens ∧ (∀ own, .char own ∈ tokens → own ∈ pattern) ∧
      ∀ before' position', parseFrom skip before' position' pattern = .ok tokens := by
  induction pattern generalizing skip before position tokens with
  | nil =>
    rw [parseFrom] at read
    obtain rfl := Except.ok.inj read
    exact ⟨List.not_mem_nil, nofun, fun _ _ => by rw [parseFrom]⟩
  | cons char rest ih =>
    cases skip with
    | succ skip =>
      rw [parseFrom] at read
      obtain ⟨plain, chars, same⟩ := ih (not_infix_tail single) read
      exact ⟨plain, fun own inside => List.mem_cons_of_mem char (chars own inside),
        fun _ _ => by rw [parseFrom, same]⟩
    | zero =>
      rcases parseFrom_cons single with ⟨token, skip, noSteps, noOther, split⟩ | wrong
      · rw [split, map_eq_ok_iff] at read
        obtain ⟨later, read, rfl⟩ := read
        obtain ⟨plain, chars, same⟩ := ih (not_infix_tail single) read
        refine ⟨?_, fun own inside => ?_, fun _ _ => by rw [split, same]; rfl⟩
        · rw [List.mem_cons, not_or]
          exact ⟨noSteps.symm, plain⟩
        · rcases List.mem_cons.mp inside with first | later
          · exact List.mem_cons.mpr (.inl (noOther own first.symm))
          · exact List.mem_cons_of_mem char (chars own later)
      · obtain ⟨error, failed⟩ := wrong before position
        rw [failed] at read
        cases read

theorem readsAs_of_parse {pattern : List Char} (single : ¬ ['*', '*'] <:+: pattern)
    (read : parse pattern = .ok tokens) : ReadsAs pattern tokens :=
  (parseFrom_single single read).2.2

theorem readsAs_slash {rest : List Char} (read : ReadsAs rest tokens) :
    ReadsAs ('/' :: rest) (.char '/' :: tokens) := by
  intro before position
  rw [parseFrom, if_neg (by decide), if_neg (by decide), if_neg (by decide), read]
  rfl

/-! ### Patterns for one text -/

/-- The token that a character is read as once it has been put in brackets where that is needed. -/
def escaped (char : Char) : Token :=
  if char ∈ ['?', '*', '[', ']'] then .within [.single char] else .char char

theorem readsAs_escape {rest : List Char} (read : ReadsAs rest tokens) (text : List Char) :
    ReadsAs (escape text ++ rest) (text.map escaped ++ tokens) := by
  induction text with
  | nil => exact read
  | cons char text ih =>
    intro before position
    rw [escape, List.flatMap_cons, List.append_assoc, List.map_cons, List.cons_append]
    by_cases special : char ∈ ['?', '*', '[', ']']
    · rw [if_pos special, escaped, if_pos special]
      have taken : class? (char :: ']' :: (escape text ++ rest)) = some (.within [.single char], 2) := by
        simp only [List.mem_cons, List.not_mem_nil, or_false] at special
        rcases special with rfl | rfl | rfl | rfl <;> simp [class?, specifiers]
      show parseFrom 0 before position ('[' :: char :: ']' :: (escape text ++ rest)) = _
      rw [parseFrom, if_neg (by decide), if_neg (by decide), if_pos rfl, taken]
      simp only [parseFrom]
      rw [ih]
      rfl
    · rw [if_neg special, escaped, if_neg special]
      simp only [List.mem_cons, List.not_mem_nil, or_false, not_or] at special
      show parseFrom 0 before position (char :: (escape text ++ rest)) = _
      rw [parseFrom, if_neg special.1, if_neg special.2.1, if_neg special.2.2.1, ih]
      rfl

theorem readsAs_map_escaped (text : List Char) : ReadsAs (escape text) (text.map escaped) := by
  have nothing : ReadsAs [] [] := fun _ _ => by rw [parseFrom]
  have read := readsAs_escape nothing text
  rwa [List.append_nil, List.append_nil] at read

def Token.IsFor (token : Token) (char : Char) : Prop :=
  ∀ other, token.accepts other = true ↔ other = char

private theorem isFor_escaped (char : Char) : (escaped char).IsFor char := by
  intro other
  rw [escaped]
  split
  · simp [Token.accepts, isMember, @eq_comm _ char]
  · simp [Token.accepts, @eq_comm _ char]

private theorem spells_iff_of_isFor {chars : List Char} (own : List.Forall₂ Token.IsFor tokens chars) :
    Spells tokens text ↔ text = chars := by
  induction own generalizing text with
  | nil => exact spells_nil_iff
  | @cons token char tokens chars own rest ih =>
    constructor
    · intro spelled
      cases spelled with
      | one accepted later => rw [(own _).mp accepted, ih.mp later]
      | many wild front later =>
        have accepted := (own char).mpr rfl
        rcases wild with rfl | rfl <;> cases accepted
    · rintro rfl
      exact .one ((own char).mpr rfl) (ih.mpr rfl)

/-- A text in which special characters are in brackets is a pattern for that text alone. -/
theorem spells_escaped_iff {chars : List Char} : Spells (chars.map escaped) text ↔ text = chars := by
  refine spells_iff_of_isFor ?_
  rw [List.forall₂_map_left_iff, List.forall₂_same]
  exact fun char _ => isFor_escaped char

theorem literal?_eq_some {chars : List Char} (spelled : literal? tokens = some chars) :
    tokens = chars.map .char := by
  induction tokens generalizing chars with
  | nil =>
    obtain rfl := Option.some.inj spelled
    rfl
  | cons token tokens ih =>
    cases token with
    | char own =>
      obtain ⟨later, found, rfl⟩ := Option.map_eq_some_iff.mp spelled
      rw [ih found, List.map_cons]
    | _ => cases spelled

theorem spells_iff_of_literal {chars : List Char} (spelled : literal? tokens = some chars) :
    Spells tokens text ↔ text = chars := by
  rw [literal?_eq_some spelled]
  refine spells_iff_of_isFor ?_
  rw [List.forall₂_map_left_iff, List.forall₂_same]
  exact fun char _ other => by simp [Token.accepts, @eq_comm _ char]

/-! ### The pieces of a path in brackets -/

private theorem notMem_escape {text : List Char} (uncut : '/' ∉ text) : '/' ∉ escape text := by
  rw [escape, List.mem_flatMap]
  rintro ⟨char, inside, found⟩
  split at found
  next special =>
    simp only [List.mem_cons, List.not_mem_nil, or_false] at found
    rcases found with bracket | same | bracket
    · cases bracket
    · exact uncut (same ▸ inside)
    · cases bracket
  next => exact uncut (List.mem_singleton.mp found ▸ inside)

private theorem escape_joined (parts : List (List Char)) :
    escape (Text.joined '/' parts) = Text.joined '/' (parts.map escape) := by
  induction parts using Text.joined.induct with
  | case1 => rfl
  | case2 part => rfl
  | case3 part others several ih =>
    have several' : others.map escape ≠ [] := fun none => several (List.map_eq_nil_iff.mp none)
    rw [Text.joined, List.map_cons, Text.joined, ← ih, escape, List.flatMap_append]
    · rfl
    · exact several'
    · exact several

/-- Special characters are put in brackets in each piece of a path for itself. -/
theorem pieces_escape (text : List Char) :
    Text.pieces '/' (escape text) = (Text.pieces '/' text).map escape := by
  have whole : Text.joined '/' (Text.pieces '/' text) = text := by
    rw [Text.joined_eq_intercalate, Text.pieces_eq_splitOn, List.intercalate_splitOn]
  have several : (Text.pieces '/' text).map escape ≠ [] := by
    rw [Text.pieces_eq_splitOn, Ne, List.map_eq_nil_iff]
    exact List.splitOn_ne_nil _ _
  have uncut : ∀ part ∈ (Text.pieces '/' text).map escape, '/' ∉ part :=
    List.forall_mem_map.mpr fun _ inside => notMem_escape (Text.notMem_of_mem_pieces inside)
  conv_lhs => rw [← whole, escape_joined, Text.joined_eq_intercalate, Text.pieces_eq_splitOn]
  exact List.splitOn_intercalate '/' uncut several

theorem head?_escape (text : List Char) : (escape text).head? = some '/' ↔ text.head? = some '/' := by
  cases text with
  | nil => rfl
  | cons char text =>
    rw [escape, List.flatMap_cons]
    split
    next special =>
      refine iff_of_false nofun fun same => ?_
      rw [Option.some.inj same] at special
      exact absurd special (by decide)
    next => rfl

end SlidePress.Glob
