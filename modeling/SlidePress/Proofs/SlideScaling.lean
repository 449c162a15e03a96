import Mathlib.Data.List.Forall2
import Mathlib.Data.Option.Basic
import SlidePress.Layout.Markup

/-! Layouts in hundredths of a point. A layout can be scaled exactly if the hundredths of all its sizes and
spaces fit into words of 32 bits, and what it becomes is the same but for these measures, each of which is
a hundred times what it was. -/

namespace SlidePress

theorem mapM_eq_some_iff {α β : Type} {make : α → Option β} {items : List α} {made : List β} :
    items.mapM make = some made ↔ List.Forall₂ (fun item own => make item = some own) items made := by
  induction items generalizing made with
  | nil => simp [eq_comm]
  | cons item items ih =>
    rw [List.mapM_cons, List.forall₂_cons_left_iff]
    simp only [Option.bind_eq_bind, Option.pure_def, Option.bind_eq_some_iff, Option.some.injEq, ih]
    constructor
    · rintro ⟨own, head, others, tail, rfl⟩
      exact ⟨own, others, head, tail, rfl⟩
    · rintro ⟨own, others, head, tail, rfl⟩
      exact ⟨own, head, others, tail, rfl⟩

theorem isSome_mapM_iff {α β : Type} {make : α → Option β} {items : List α} :
    (items.mapM make).isSome = true ↔ ∀ item ∈ items, (make item).isSome = true := by
  induction items with
  | nil => simp
  | cons item items ih =>
    rw [List.forall_mem_cons, ← ih, List.mapM_cons]
    cases make item with
    | none => simp
    | some own => cases items.mapM make <;> simp

/-- What is made of items that are alike one by one is alike one by one, or there is none of either. -/
theorem rel_mapM {α β : Type} {same : α → α → Prop} {alike : β → β → Prop} {make : α → Option β}
    (each : ∀ item other, same item other → Option.Rel alike (make item) (make other)) {items others : List α}
    (related : List.Forall₂ same items others) :
    Option.Rel (List.Forall₂ alike) (items.mapM make) (others.mapM make) := by
  induction related with
  | nil => exact .some .nil
  | cons head _ tail =>
    have first := each _ _ head
    rw [List.mapM_cons, List.mapM_cons]
    revert first tail
    generalize make _ = own, make _ = own', List.mapM make _ = rest, List.mapM make _ = rest'
    intro tail first
    cases first with
    | none => exact .none
    | some first =>
      cases tail with
      | none => exact .none
      | some rest => exact .some (.cons first rest)

theorem rel_map {α β : Type} {same : α → α → Prop} {alike : β → β → Prop} {make change : α → β}
    (each : ∀ item other, same item other → alike (make item) (change other)) {item? other? : Option α}
    (related : Option.Rel same item? other?) : Option.Rel alike (item?.map make) (other?.map change) := by
  cases related with
  | none => exact .none
  | some own => exact .some (each _ _ own)

theorem map_eq_of_rel {α β : Type} {same : α → α → Prop} {read : α → β}
    (each : ∀ item other, same item other → read item = read other) {item? other? : Option α}
    (related : Option.Rel same item? other?) : item?.map read = other?.map read := by
  cases related with
  | none => rfl
  | some own => exact congrArg some (each _ _ own)

theorem hundredths?_eq_some_iff {points scaled : UInt32} :
    hundredths? points = some scaled ↔ scaled.toNat = 100 * points.toNat := by
  rw [hundredths?]
  have bound := scaled.toNat_lt
  split
  next fits =>
    rw [Option.some.injEq, ← UInt32.toNat_inj, UInt32.toNat_ofNat_of_lt' fits, eq_comm]
  next large =>
    have size : UInt32.size = 2 ^ 32 := rfl
    simp only [reduceCtorEq, false_iff]
    omega

private theorem isSome_hundredths?_iff {points : UInt32} :
    (hundredths? points).isSome = true ↔ points.toNat ≤ 42949672 := by
  have size : UInt32.size = 2 ^ 32 := rfl
  rw [hundredths?]
  split
  · rw [Option.isSome_some, eq_self, true_iff]
    omega
  · rw [Option.isSome_none, iff_false_left Bool.false_ne_true]
    omega

theorem mapM_hundredths?_eq_some_iff {space scaled : Option UInt32} :
    space.mapM hundredths? = some scaled ↔ scaled.map (·.toNat) = space.map (100 * ·.toNat) := by
  cases space with
  | none => simp [eq_comm]
  | some points => cases scaled <;> simp [hundredths?_eq_some_iff]

private theorem isSome_mapM_hundredths?_iff {space : Option UInt32} :
    (space.mapM hundredths?).isSome = true ↔ ∀ points ∈ space, points.toNat ≤ 42949672 := by
  cases space with
  | none => simp
  | some points => simp [isSome_hundredths?_iff]

/-- Sizes and spaces of which the hundredths fit into 32 bits. -/
structure Paragraph.Fits (paragraph : Paragraph) : Prop where
  size : paragraph.size.toNat ≤ 42949672
  space : ∀ points ∈ paragraph.spaceBefore, points.toNat ≤ 42949672

def Layout.Fits (layout : Layout) : Prop :=
  ∀ shape ∈ layout.shapes, ∀ paragraph ∈ shape.paragraphs, paragraph.Fits

/-- The same but for the measures, which are a hundred times as large. -/
def Paragraph.Scales (paragraph scaled : Paragraph) : Prop :=
  ∃ size spaceBefore, scaled = { paragraph with size, spaceBefore } ∧
    size.toNat = 100 * paragraph.size.toNat ∧
    spaceBefore.map (·.toNat) = paragraph.spaceBefore.map (100 * ·.toNat)

def Shape.Scales (shape scaled : Shape) : Prop :=
  ∃ paragraphs, List.Forall₂ Paragraph.Scales shape.paragraphs paragraphs ∧
    { shape with paragraphs } = scaled

def Layout.Scales (layout scaled : Layout) : Prop :=
  ∃ shapes, List.Forall₂ Shape.Scales layout.shapes shapes ∧ { layout with shapes } = scaled

theorem Paragraph.scaled?_eq_some_iff {paragraph scaled : Paragraph} :
    paragraph.scaled? = some scaled ↔ paragraph.Scales scaled := by
  rw [scaled?, Scales]
  constructor
  · intro made
    split at made
    next spaceBefore size space own =>
      exact ⟨size, spaceBefore, (Option.some.inj made).symm, hundredths?_eq_some_iff.mp own,
        mapM_hundredths?_eq_some_iff.mp space⟩
    next => cases made
  · rintro ⟨size, spaceBefore, rfl, own, space⟩
    rw [mapM_hundredths?_eq_some_iff.mpr space, hundredths?_eq_some_iff.mpr own]

private theorem Paragraph.isSome_scaled?_iff {paragraph : Paragraph} :
    paragraph.scaled?.isSome = true ↔ paragraph.Fits := by
  have both : paragraph.scaled?.isSome = true ↔
      (hundredths? paragraph.size).isSome = true ∧
        (paragraph.spaceBefore.mapM hundredths?).isSome = true := by
    rw [scaled?]
    cases paragraph.spaceBefore.mapM hundredths? <;> cases hundredths? paragraph.size <;> simp
  rw [both, isSome_hundredths?_iff, isSome_mapM_hundredths?_iff]
  exact ⟨fun fits => ⟨fits.1, fits.2⟩, fun fits => ⟨fits.size, fits.space⟩⟩

theorem Shape.scaled?_eq_some_iff {shape scaled : Shape} :
    shape.scaled? = some scaled ↔ shape.Scales scaled := by
  simp only [scaled?, Option.map_eq_some_iff, mapM_eq_some_iff, Paragraph.scaled?_eq_some_iff, Scales]

/-- What is the same for paragraphs that are scaled is read of the shapes in the same way. -/
theorem Shape.Scales.map_eq {β : Type} {read : Paragraph → β} {shape scaled : Shape}
    (same : ∀ paragraph scaled, Paragraph.Scales paragraph scaled → read paragraph = read scaled)
    (scales : shape.Scales scaled) : shape.paragraphs.map read = scaled.paragraphs.map read := by
  obtain ⟨paragraphs, related, rfl⟩ := scales
  rw [← List.forall₂_eq_eq_eq, List.forall₂_map_left_iff, List.forall₂_map_right_iff]
  exact related.imp same

namespace Layout

variable {layout scaled : Layout}

theorem scaled?_eq_some_iff : layout.scaled? = some scaled ↔ layout.Scales scaled := by
  simp only [scaled?, Option.map_eq_some_iff, mapM_eq_some_iff, Shape.scaled?_eq_some_iff, Scales]

private theorem isSome_scaled?_iff : layout.scaled?.isSome = true ↔ layout.Fits := by
  simp only [scaled?, Option.isSome_map, isSome_mapM_iff, Shape.scaled?, Paragraph.isSome_scaled?_iff, Fits]

theorem toXml?_eq_some_iff {text : String} :
    layout.toXml? = some text ↔ ∃ scaled, layout.Scales scaled ∧ scaled.document = text := by
  simp only [toXml?, Option.map_eq_some_iff, scaled?_eq_some_iff]

theorem isSome_toXml?_iff : layout.toXml?.isSome = true ↔ layout.Fits := by
  rw [toXml?, Option.isSome_map, isSome_scaled?_iff]

theorem Scales.map_eq {β : Type} {read : Shape → β}
    (same : ∀ shape scaled, Shape.Scales shape scaled → read shape = read scaled)
    (scales : layout.Scales scaled) : layout.shapes.map read = scaled.shapes.map read := by
  obtain ⟨shapes, related, rfl⟩ := scales
  rw [← List.forall₂_eq_eq_eq, List.forall₂_map_left_iff, List.forall₂_map_right_iff]
  exact related.imp same

def oneText (text font : String) : Layout where
  background := .white
  shapes := [.textBox ⟨0, 0, 914400, 914400⟩ [{ text, font := some font }]]

theorem fits_oneText (text font : String) : (oneText text font).Fits := by
  intro shape member
  obtain rfl := List.mem_singleton.mp member
  intro paragraph inside
  obtain rfl := List.mem_singleton.mp inside
  have size : (18 : UInt32).toNat ≤ 42949672 := by decide
  exact ⟨size, fun points given => by cases given⟩

/-- One point more than fits. -/
def oversized : Layout where
  background := .white
  shapes := [.textBox ⟨0, 0, 914400, 914400⟩ [{ text := "a", size := 42949673 }]]

theorem toXml?_oversized : oversized.toXml? = none := by
  have large : ¬ oversized.Fits := by
    intro fits
    have bound := (fits _ List.mem_cons_self _ List.mem_cons_self).size
    exact absurd bound (by decide)
  rw [← isSome_toXml?_iff, Option.not_isSome_iff_eq_none] at large
  exact large

/-- The paragraphs of all shapes are scaled one by one. -/
theorem Scales.paragraphs (scales : layout.Scales scaled) :
    List.Forall₂ Paragraph.Scales (layout.shapes.flatMap (·.paragraphs))
      (scaled.shapes.flatMap (·.paragraphs)) := by
  obtain ⟨shapes, related, rfl⟩ := scales
  refine List.rel_flatMap related ?_
  rintro shape _ ⟨paragraphs, own, rfl⟩
  exact own

end Layout

end SlidePress
