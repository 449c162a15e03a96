import SlidePress.Proofs.TextTrimming

/-! Writing a new text for every occurrence of an old one. Two texts that begin with one mark, which is
nowhere else in them, can each be written for the other, and nothing but the difference between the
two gets lost on the way. No old text is left then, and none comes about where pieces of text meet. -/

namespace SlidePress.Text

theorem occursIn_iff {part text : List Char} : occursIn part text = true ↔ part <:+: text := by
  induction text with
  | nil => rw [occursIn, startsWith_iff, List.prefix_nil, List.infix_nil]
  | cons char text ih => rw [occursIn, Bool.or_eq_true, startsWith_iff, ih, List.infix_cons_iff]

section

variable {old new : List Char}

private theorem replaceFrom_eq_drop (old new : List Char) (skip : Nat) (text : List Char) :
    replaceFrom old new skip text = replaceAll old new (text.drop skip) := by
  induction text generalizing skip with
  | nil => cases skip <;> rfl
  | cons char text ih =>
    cases skip with
    | zero => rfl
    | succ skip => exact ih skip

theorem replaceAll_append (nonempty : old ≠ []) (rest : List Char) :
    replaceAll old new (old ++ rest) = new ++ replaceAll old new rest := by
  cases old with
  | nil => exact absurd rfl nonempty
  | cons char old =>
    have front : startsWith (char :: old) (char :: (old ++ rest)) = true :=
      startsWith_iff.mpr (List.prefix_append (char :: old) rest)
    rw [List.cons_append, replaceAll, replaceFrom, if_pos front, replaceFrom_eq_drop, List.length_cons,
      Nat.add_sub_cancel, List.drop_left]

theorem replaceAll_cons {char : Char} {text : List Char} (absent : ¬ old <+: char :: text) :
    replaceAll old new (char :: text) = char :: replaceAll old new text := by
  rw [← startsWith_iff] at absent
  rw [replaceAll, replaceFrom, if_neg absent, replaceAll]

/-- A text is read as an occurrence at its front and the rest, or as a character and the rest. -/
@[elab_as_elim]
theorem replacing_induction (nonempty : old ≠ []) {motive : List Char → Prop} (nil : motive [])
    (occurrence : ∀ rest, motive rest → motive (old ++ rest))
    (other : ∀ char text, ¬ old <+: char :: text → motive text → motive (char :: text))
    (text : List Char) : motive text := by
  match text with
  | [] => exact nil
  | char :: text =>
    by_cases front : old <+: char :: text
    · obtain ⟨rest, same⟩ := front
      have shorter : rest.length < text.length + 1 := by
        have lengths := congrArg List.length same
        rw [List.length_append, List.length_cons] at lengths
        have := List.length_pos_iff.mpr nonempty
        omega
      exact same ▸ occurrence rest (replacing_induction nonempty nil occurrence other rest)
    · exact other char text front (replacing_induction nonempty nil occurrence other text)
termination_by text.length

end

/-! ### Texts with a mark in front -/

section

variable {mark : Char} {old new front part : List Char}

private theorem replaceAll_append_of_notMem (plain : mark ∉ front) (rest : List Char) :
    replaceAll (mark :: old) new (front ++ rest) = front ++ replaceAll (mark :: old) new rest := by
  induction front with
  | nil => rfl
  | cons char front ih =>
    rw [List.mem_cons, not_or] at plain
    have absent : ¬ mark :: old <+: char :: (front ++ rest) := fun same =>
      plain.1 (List.cons_prefix_cons.mp same).1
    rw [List.cons_append, replaceAll_cons absent, ih plain.2, List.cons_append]

/-- What stands in front of the first mark stays. -/
theorem prefix_replaceAll_iff (plain : mark ∉ front) (text : List Char) :
    front <+: replaceAll (mark :: old) (mark :: new) text ↔ front <+: text := by
  induction text generalizing front with
  | nil => rfl
  | cons char text ih =>
    cases front with
    | nil => simp
    | cons first front =>
      rw [List.mem_cons, not_or] at plain
      by_cases occurs : mark :: old <+: char :: text
      · obtain ⟨rest, same⟩ := occurs
        have marked : ¬ first = mark := fun same => plain.1 same.symm
        rw [← same, replaceAll_append (List.cons_ne_nil mark old)]
        simp only [List.cons_append, List.cons_prefix_cons, marked, false_and]
      · rw [replaceAll_cons occurs, List.cons_prefix_cons, List.cons_prefix_cons, ih plain.2]

theorem not_prefix_append (apart : ¬ old <+: new) (apart' : ¬ new <+: old) (rest : List Char) :
    ¬ mark :: old <+: mark :: (new ++ rest) := by
  intro begins
  have front := (List.cons_prefix_cons.mp begins).2
  rcases List.prefix_or_prefix_of_prefix front (List.prefix_append new rest) with short | long
  · exact apart short
  · exact apart' long

/-- What has been written for the old text is read as the new text again, and there is nothing new that
could be read so. -/
theorem replaceAll_replaceAll (plainOld : mark ∉ old) (plainNew : mark ∉ new) (apart : ¬ old <+: new)
    (apart' : ¬ new <+: old) (text : List Char) :
    replaceAll (mark :: new) (mark :: old) (replaceAll (mark :: old) (mark :: new) text) =
      replaceAll (mark :: new) (mark :: old) text := by
  induction text using replacing_induction (List.cons_ne_nil mark old) with
  | nil => rfl
  | occurrence rest ih =>
    have absent : ¬ mark :: new <+: mark :: (old ++ rest) := not_prefix_append apart' apart rest
    rw [replaceAll_append (List.cons_ne_nil mark old), replaceAll_append (List.cons_ne_nil mark new), ih]
    rw [List.cons_append, List.cons_append, replaceAll_cons absent, replaceAll_append_of_notMem plainOld]
  | other char text absent ih =>
    rw [replaceAll_cons absent]
    by_cases occurs : mark :: new <+: char :: text
    · obtain ⟨rest, same⟩ := occurs
      rw [List.cons_append, List.cons.injEq] at same
      obtain ⟨rfl, rfl⟩ := same
      -- the induction hypothesis is about the text from behind the mark on
      rw [replaceAll_append_of_notMem plainNew, replaceAll_append_of_notMem plainNew,
        replaceAll_append_of_notMem plainNew, List.append_cancel_left_eq] at ih
      have nonempty := List.cons_ne_nil mark new
      rw [replaceAll_append_of_notMem plainNew, ← List.cons_append, replaceAll_append nonempty, ih,
        ← replaceAll_append nonempty, List.cons_append]
    · have absent' : ¬ mark :: new <+: char :: replaceAll (mark :: old) (mark :: new) text := by
        rwa [List.cons_prefix_cons, prefix_replaceAll_iff plainNew, ← List.cons_prefix_cons]
      rw [replaceAll_cons absent', ih, replaceAll_cons occurs]

/-- Two texts become the same with the new text for the old one exactly if they do so with the old text
for the new one. -/
theorem replaceAll_eq_replaceAll_iff (plainOld : mark ∉ old) (plainNew : mark ∉ new)
    (apart : ¬ old <+: new) (apart' : ¬ new <+: old) (first second : List Char) :
    replaceAll (mark :: old) (mark :: new) first = replaceAll (mark :: old) (mark :: new) second ↔
      replaceAll (mark :: new) (mark :: old) first = replaceAll (mark :: new) (mark :: old) second := by
  constructor
  · intro same
    rw [← replaceAll_replaceAll plainOld plainNew apart apart' first, same,
      replaceAll_replaceAll plainOld plainNew apart apart']
  · intro same
    rw [← replaceAll_replaceAll plainNew plainOld apart' apart first, same,
      replaceAll_replaceAll plainNew plainOld apart' apart]

/-- A text that begins with a mark does not begin in front of the first one. -/
theorem infix_append_of_notMem (plain : mark ∉ front) {back : List Char} :
    mark :: part <:+: front ++ back ↔ mark :: part <:+: back := by
  induction front with
  | nil => rfl
  | cons char front ih =>
    rw [List.mem_cons, not_or] at plain
    rw [List.cons_append, List.infix_cons_iff, ih plain.2, List.cons_prefix_cons]
    simp [plain.1]

private theorem suffix_append_of_notMem (plain : mark ∉ front) {back : List Char} :
    mark :: part <:+ front ++ back ↔ mark :: part <:+ back := by
  induction front with
  | nil => rfl
  | cons char front ih =>
    rw [List.mem_cons, not_or] at plain
    rw [List.cons_append, List.suffix_cons_iff, ih plain.2, List.cons.injEq]
    simp [plain.1]

private theorem prefix_append_cons_iff (plain : mark ∉ front) {text back : List Char} :
    front <+: text ++ mark :: back ↔ front <+: text := by
  constructor
  · intro begins
    have whole := List.prefix_append text (mark :: back)
    rcases List.prefix_or_prefix_of_prefix begins whole with short | ⟨rest, rfl⟩
    · exact short
    · rw [List.prefix_append_right_inj] at begins
      cases rest with
      | nil => simp
      | cons first rest =>
        obtain rfl := (List.cons_prefix_cons.mp begins).1
        exact absurd (List.mem_append_right text List.mem_cons_self) plain
  · intro begins
    exact begins.trans (List.prefix_append text _)

/-- The new text at the end makes no old text together with what is in front of it. -/
theorem not_infix_append (plainOld : mark ∉ old) (plainNew : mark ∉ new) (apart : ¬ old <+: new)
    {text : List Char} (absent : ¬ mark :: old <:+: text) :
    ¬ mark :: old <:+: text ++ mark :: new := by
  induction text with
  | nil =>
    intro occurs
    rcases List.infix_cons_iff.mp occurs with front | later
    · exact apart (List.cons_prefix_cons.mp front).2
    · exact plainNew (later.subset List.mem_cons_self)
  | cons char text ih =>
    rw [List.infix_cons_iff, not_or] at absent
    rw [List.cons_append, List.infix_cons_iff, not_or]
    refine ⟨?_, ih absent.2⟩
    rw [List.cons_prefix_cons, prefix_append_cons_iff plainOld, ← List.cons_prefix_cons]
    exact absent.1

/-- Nothing of the old text is left, and the new text makes none of it together with what is around. -/
theorem not_infix_replaceAll (plainOld : mark ∉ old) (plainNew : mark ∉ new) (apart : ¬ old <+: new)
    (apart' : ¬ new <+: old) (text : List Char) :
    ¬ mark :: old <:+: replaceAll (mark :: old) (mark :: new) text := by
  induction text using replacing_induction (List.cons_ne_nil mark old) with
  | nil => simp [replaceAll, replaceFrom]
  | occurrence rest ih =>
    rw [replaceAll_append (List.cons_ne_nil mark old), List.cons_append, List.infix_cons_iff, not_or]
    constructor
    · exact not_prefix_append apart apart' _
    · rwa [infix_append_of_notMem plainNew]
  | other char text absent ih =>
    rw [replaceAll_cons absent, List.infix_cons_iff, not_or]
    refine ⟨?_, ih⟩
    rwa [List.cons_prefix_cons, prefix_replaceAll_iff plainOld, ← List.cons_prefix_cons]

private theorem replaceAll_eq_nil_iff {text : List Char} :
    replaceAll (mark :: old) (mark :: new) text = [] ↔ text = [] := by
  induction text using replacing_induction (List.cons_ne_nil mark old) with
  | nil => rfl
  | occurrence rest ih =>
    rw [replaceAll_append (List.cons_ne_nil mark old)]
    exact iff_of_false (List.cons_ne_nil mark _) (List.cons_ne_nil mark _)
  | other char text absent ih => simp [replaceAll_cons absent]

/-- A text without the mark comes out only of itself. -/
theorem replaceAll_eq_iff_of_notMem (plain : mark ∉ front) {text : List Char} :
    replaceAll (mark :: old) (mark :: new) text = front ↔ text = front := by
  constructor
  · intro same
    have begins : front <+: replaceAll (mark :: old) (mark :: new) text := by simp [same]
    obtain ⟨rest, rfl⟩ := (prefix_replaceAll_iff plain text).mp begins
    rw [replaceAll_append_of_notMem plain, List.append_right_eq_self, replaceAll_eq_nil_iff] at same
    rw [same, List.append_nil]
  · rintro rfl
    have alone := @replaceAll_append_of_notMem mark old (mark :: new) text plain []
    rwa [List.append_nil, replaceAll_eq_nil_iff.mpr rfl, List.append_nil] at alone

theorem suffix_replaceAll_iff (plainOld : mark ∉ old) (plainNew : mark ∉ new) (apart : ¬ old <+: new)
    (text : List Char) :
    mark :: new <:+ replaceAll (mark :: old) (mark :: new) text ↔
      mark :: old <:+ text ∨ mark :: new <:+ text := by
  induction text using replacing_induction (List.cons_ne_nil mark old) with
  | nil => simp [replaceAll, replaceFrom]
  | occurrence rest ih =>
    -- the only mark of the new text is its first character, so either it ends the text or `rest` decides
    have other : new ≠ old ++ rest := fun same => apart ⟨rest, same.symm⟩
    rw [replaceAll_append (List.cons_ne_nil mark old), List.cons_append, List.cons_append,
      List.suffix_cons_iff, List.suffix_cons_iff, List.suffix_cons_iff, suffix_append_of_notMem plainNew,
      suffix_append_of_notMem plainOld, suffix_append_of_notMem plainOld, ih]
    simp [replaceAll_eq_nil_iff, other, or_assoc]
  | other char text absent ih =>
    have whole : mark :: old ≠ char :: text := fun same => absent (same ▸ List.prefix_rfl)
    have kept : new = replaceAll (mark :: old) (mark :: new) text ↔ new = text := by
      rw [eq_comm, replaceAll_eq_iff_of_notMem plainNew, eq_comm]
    rw [replaceAll_cons absent, List.suffix_cons_iff, List.suffix_cons_iff, List.suffix_cons_iff, ih,
      List.cons.injEq, kept, ← List.cons.injEq]
    simp only [whole, false_or]
    exact or_left_comm

end

end SlidePress.Text
