import SlidePress.Proofs.Manuscript
import SlidePress.Proofs.TextLines

/-! The passages of a document are the blocks it is read as, and a document whose fences are all
closed has its passages in front of those of whatever is written below. -/

namespace SlidePress.Manuscript

def Unfenced (raws : List Line) : Prop := ∀ raw ∈ raws, Block.isFence raw = false

theorem Unfenced.countP_eq_zero {raws : List Line} (free : Unfenced raws) :
    raws.countP Block.isFence = 0 := by
  rw [List.countP_eq_zero]
  exact fun raw member => by simp [free raw member]

/-- Lines either hold no fence line or have a first one. -/
theorem unfenced_or_split (raws : List Line) :
    Unfenced raws ∨ ∃ code closing rest,
      raws = code ++ closing :: rest ∧ Unfenced code ∧ Block.isFence closing = true := by
  cases found : raws.find? Block.isFence with
  | none =>
    left
    intro raw member
    simpa using List.find?_eq_none.mp found raw member
  | some closing =>
    right
    obtain ⟨closes, code, rest, split, free⟩ := List.find?_eq_some_iff_append.mp found
    exact ⟨code, closing, rest, split, fun raw member => by simpa using free raw member, closes⟩

/-- Lines are read from the top as a line outside all fences, a fence with its end, or a fence
that takes all that is left. -/
@[elab_as_elim]
theorem lines_induction {motive : List Line → Prop} (raws : List Line)
    (nil : motive [])
    (plain : ∀ raw rest, Block.isFence raw = false → motive rest → motive (raw :: rest))
    (unclosed : ∀ opening code, Block.isFence opening = true → Unfenced code →
      motive (opening :: code))
    (fence : ∀ opening code closing rest, Block.isFence opening = true → Unfenced code →
      Block.isFence closing = true → motive rest → motive (opening :: (code ++ closing :: rest))) :
    motive raws := by
  induction size : raws.length using Nat.strongRecOn generalizing raws with
  | ind size ih =>
    subst size
    cases raws with
    | nil => exact nil
    | cons raw rest =>
      cases opens : Block.isFence raw with
      | false => exact plain raw rest opens (ih rest.length (by simp) rest rfl)
      | true =>
        rcases unfenced_or_split rest with free | ⟨code, closing, below, rfl, free, closes⟩
        · exact unclosed raw rest opens free
        · have shorter : below.length < (raw :: (code ++ closing :: below)).length := by
            simp only [List.length_cons, List.length_append]
            omega
          exact fence raw code closing below opens free closes (ih below.length shorter below rfl)

namespace Passage

@[simp] theorem ofLines_nil : ofLines [] = [] := by rw [ofLines]

theorem ofLines_plain {raw : Line} (plain : Block.isFence raw = false) (rest : List Line) :
    ofLines (raw :: rest) = .line raw :: ofLines rest := by
  rw [ofLines, if_neg (by simp [plain])]

private theorem takeWhile_unfenced {code : List Line} (free : Unfenced code) (rest : List Line) :
    (code ++ rest).takeWhile (!Block.isFence ·) = code ++ rest.takeWhile (!Block.isFence ·) :=
  List.takeWhile_append_of_pos fun raw member => by simp [free raw member]

private theorem dropWhile_unfenced {code : List Line} (free : Unfenced code) (rest : List Line) :
    (code ++ rest).dropWhile (!Block.isFence ·) = rest.dropWhile (!Block.isFence ·) :=
  List.dropWhile_append_of_pos fun raw member => by simp [free raw member]

theorem ofLines_fence {opening closing : Line} {code : List Line}
    (opens : Block.isFence opening = true) (free : Unfenced code)
    (closes : Block.isFence closing = true) (rest : List Line) :
    ofLines (opening :: (code ++ closing :: rest)) = .fence ⟨opening, code⟩ :: ofLines rest := by
  rw [ofLines, if_pos opens, takeWhile_unfenced free, dropWhile_unfenced free,
    List.takeWhile_cons_of_neg (by simp [closes]), List.dropWhile_cons_of_neg (by simp [closes]),
    List.append_nil, List.tail_cons]

theorem ofLines_unclosed {opening : Line} {code : List Line}
    (opens : Block.isFence opening = true) (free : Unfenced code) :
    ofLines (opening :: code) = [.fence ⟨opening, code⟩] := by
  have taken := takeWhile_unfenced free []
  have dropped := dropWhile_unfenced free []
  rw [List.append_nil] at taken dropped
  rw [ofLines, if_pos opens, taken, dropped, List.takeWhile_nil, List.dropWhile_nil,
    List.append_nil, List.tail_nil, ofLines_nil]

/-- An even number of fence lines closes every fence that it opens. -/
theorem ofLines_append {front : List Line} (closed : front.countP Block.isFence % 2 = 0)
    (back : List Line) : ofLines (front ++ back) = ofLines front ++ ofLines back := by
  induction front using lines_induction with
  | nil => simp
  | plain raw rest outside ih =>
    rw [List.countP_cons_of_neg (by simp [outside])] at closed
    rw [List.cons_append, ofLines_plain outside, ofLines_plain outside, ih closed, List.cons_append]
  | unclosed opening code opens free =>
    rw [List.countP_cons_of_pos opens, free.countP_eq_zero] at closed
    omega
  | fence opening code closing rest opens free closes ih =>
    rw [List.countP_cons_of_pos opens, List.countP_append, List.countP_cons_of_pos closes,
      free.countP_eq_zero] at closed
    rw [List.cons_append, List.append_assoc, List.cons_append, ofLines_fence opens free closes,
      ofLines_fence opens free closes, ih (by omega), List.cons_append]

def block (atTop : Bool) : Passage → Block
  | line raw => Block.ofLine (Text.trim raw) atTop
  | fence block => .fence block.language block.code

/-- A line has at most one of two marks of which neither begins the other. -/
theorem marked?_excludes {first second text : Line} {passage : Passage}
    (found : passage.marked? first = some text) (apart : ¬ first <+: second)
    (apart' : ¬ second <+: first) : passage.marked? second = none := by
  cases passage with
  | fence block => rfl
  | line raw =>
    obtain ⟨rest, front, -⟩ := Option.map_eq_some_iff.mp found
    rw [marked?, Text.after?_excludes front apart apart', Option.map_none]

/-- A separator has no mark that does not begin it. -/
theorem marked?_of_separates {mark : Line} {passage : Passage} (separates : passage.separates = true)
    (apart : ¬ mark <+: Block.separatorMark) : passage.marked? mark = none := by
  cases passage with
  | fence block => rfl
  | line raw =>
    have same : Text.trim raw = Block.separatorMark := by simpa [Passage.separates] using separates
    rw [marked?, same, Option.map_eq_none_iff, Option.eq_none_iff_forall_ne_some]
    intro rest front
    exact apart ⟨rest, (Text.after?_eq_some_iff.mp front).symm⟩

theorem heading?_of_separates {passage : Passage} (separates : passage.separates = true) :
    passage.heading? = none := marked?_of_separates separates (by decide)

/-- Separators and headings are no title lines. -/
theorem title?_of_bounds {passage : Passage} (bounds : passage.bounds = true) :
    passage.title? = none := by
  rcases Bool.or_eq_true_iff.mp bounds with separates | headed
  · exact marked?_of_separates separates (by decide)
  · obtain ⟨text, found⟩ := Option.isSome_iff_exists.mp headed
    exact marked?_excludes found (by decide) (by decide)

theorem block_of_separates {passage : Passage} (separates : passage.separates = true) (atTop : Bool) :
    passage.block atTop = .separator := by
  cases passage with
  | fence block => cases separates
  | line raw =>
    have same : Text.trim raw = Block.separatorMark := by simpa [Passage.separates] using separates
    rw [block, Block.ofLine, if_pos same]

theorem block_of_line {raw : Line} (plain : (line raw).separates = false) (atTop : Bool) :
    (line raw).block atTop =
      match (line raw).title?, (line raw).heading? with
      | some text, _ => .title text (Text.trim raw) atTop
      | none, some text => .heading text
      | none, none => (line raw).text?.elim .blank .body := by
  have other : Text.trim raw ≠ Block.separatorMark := by simpa [Passage.separates] using plain
  simp only [block, Block.ofLine, if_neg other, title?, heading?, marked?]
  cases Text.after? Block.titleMark (Text.trim raw) with
  | some rest => rfl
  | none =>
    cases Text.after? Block.headingMark (Text.trim raw) with
    | some rest => rfl
    | none =>
      simp only [text?, List.isEmpty_iff, Text.trim_eq_nil_iff, Option.map_none]
      split <;> rfl

theorem block_of_heading {passage : Passage} {text : Line} (found : passage.heading? = some text)
    (atTop : Bool) : passage.block atTop = .heading text := by
  cases passage with
  | fence block => cases found
  | line raw =>
    have untitled : (line raw).title? = none := title?_of_bounds (by simp [bounds, found])
    have plain : (line raw).separates = false := by
      cases separates : (line raw).separates with
      | false => rfl
      | true => rw [heading?_of_separates separates] at found; cases found
    rw [block_of_line plain, untitled, found]

/-- A title line that does not name its slide is text. -/
theorem text?_of_title {raw text : Line} (found : (line raw).title? = some text) :
    (line raw).text? = some (Text.trim raw) := by
  obtain ⟨rest, front, rfl⟩ := Option.map_eq_some_iff.mp found
  rw [Text.after?_eq_some_iff] at front
  have visible : ¬ Text.allBlank raw = true := by
    rw [← Text.trim_eq_nil_iff, front]
    simp [Block.titleMark]
  rw [text?, if_neg visible]

end Passage

/-- The blocks of passages; only the first of them can be the top of a document. -/
def blocks (atTop : Bool) : List Passage → List Block
  | [] => []
  | passage :: rest => passage.block atTop :: blocks false rest

private theorem ofFence_unfenced (language : Line) (seen : List Line) {code : List Line}
    (free : Unfenced code) (rest : List Line) :
    Block.ofFence language seen (code ++ rest) = Block.ofFence language (code.reverse ++ seen) rest := by
  induction code generalizing seen with
  | nil => rfl
  | cons raw code ih =>
    have inside : Block.isFence raw = false := free raw List.mem_cons_self
    have free : Unfenced code := fun raw member => free raw (List.mem_cons_of_mem _ member)
    rw [List.cons_append, Block.ofFence, if_neg (by simp [inside]), ih _ free]
    simp

private theorem ofLines_eq_blocks (atTop : Bool) (raws : List Line) :
    Block.ofLines atTop raws = blocks atTop (Passage.ofLines raws) := by
  induction raws using lines_induction generalizing atTop with
  | nil => rw [Block.ofLines, Passage.ofLines_nil, blocks]
  | plain raw rest outside ih =>
    rw [Passage.ofLines_plain outside, Block.ofLines, if_neg (by simp [outside]), ih]
    rfl
  | unclosed opening code opens free =>
    have read := ofFence_unfenced (Block.fenceLanguage opening) [] free []
    rw [List.append_nil] at read
    rw [Passage.ofLines_unclosed opens free, Block.ofLines, if_pos opens, read, Block.ofFence]
    simp [blocks, Passage.block, Fence.language]
  | fence opening code closing rest opens free closes ih =>
    rw [Passage.ofLines_fence opens free closes, Block.ofLines, if_pos opens,
      ofFence_unfenced _ _ free, Block.ofFence, if_pos closes, ih]
    simp [blocks, Passage.block, Fence.language]

theorem ofDocument_eq_blocks (document : String) :
    Block.ofDocument document = blocks true (passages document) := by
  rw [Block.ofDocument, Text.pieces_eq_splitOn, ofLines_eq_blocks, passages]

end SlidePress.Manuscript
