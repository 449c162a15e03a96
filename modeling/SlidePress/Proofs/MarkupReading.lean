import Mathlib.Data.List.DropRight
import SlidePress.Xml.Tree

/-! Written markup read back. A text of markup is read as what stands between its angle brackets and
the characters outside of them, and a tag by the quotes around its values. What is read of a written
tree are its elements with the values that their attributes have in the tree: whatever texts and
values hold, they are never taken for markup. -/

namespace SlidePress.Xml

/-- What stands between two angle brackets, or a character outside of them. -/
inductive Sign where
  | tag (inside : List Char)
  | char (c : Char)
  deriving DecidableEq, Repr

/-- The signs of a text. Behind an opening bracket there is what has been read since, the last
character first. -/
def signsFrom : Option (List Char) → List Char → List Sign
  | _, [] => []
  | none, c :: text => if c = '<' then signsFrom (some []) text else .char c :: signsFrom none text
  | some inside, c :: text =>
    if c = '>' then .tag inside.reverse :: signsFrom none text
    else signsFrom (some (c :: inside)) text

/-- The text that a written text stands for. -/
def unescape : List Char → List Char
  | '&' :: 'l' :: 't' :: ';' :: rest => '<' :: unescape rest
  | '&' :: 'g' :: 't' :: ';' :: rest => '>' :: unescape rest
  | '&' :: 'a' :: 'm' :: 'p' :: ';' :: rest => '&' :: unescape rest
  | '&' :: 'a' :: 'p' :: 'o' :: 's' :: ';' :: rest => '\'' :: unescape rest
  | '&' :: 'q' :: 'u' :: 'o' :: 't' :: ';' :: rest => '"' :: unescape rest
  | c :: rest => c :: unescape rest
  | [] => []

/-- Names and values between the pieces that the quotes of a tag cut it into. -/
def assignments : List (List Char) → List (List Char × List Char)
  | front :: value :: rest =>
    ((front.rtakeWhile (· ≠ ' ')).dropLast, unescape value) :: assignments rest
  | _ => []

structure StartTag where
  name : List Char
  attributes : List (List Char × List Char)
  deriving DecidableEq, Repr

namespace StartTag

/-- What stands between angle brackets, unless it ends an element or is no part of the tree. -/
def ofInside? (inside : List Char) : Option StartTag :=
  if inside.head?.any fun c => c == '/' || c == '?' then none
  else some ⟨inside.takeWhile fun c => c ≠ ' ' ∧ c ≠ '/', assignments (inside.splitOn '"')⟩

def ofSign? : Sign → Option StartTag
  | .tag inside => ofInside? inside
  | .char _ => none

def value? (tag : StartTag) (name : String) : Option String :=
  (tag.attributes.lookup name.toList).map String.ofList

def value (tag : StartTag) (name : String) : String := (tag.value? name).getD ""

def ofTexts (name : String) (attributes : List (String × String)) : StartTag :=
  ⟨name.toList, attributes.map fun item => (item.1.toList, item.2.toList)⟩

theorem ofTexts_name (name element : String) (attributes : List (String × String)) :
    ((ofTexts name attributes).name == element.toList) = (name == element) := by
  rw [Bool.eq_iff_iff, beq_iff_eq, beq_iff_eq, ofTexts, String.toList_inj]

theorem ofTexts_value? (name key : String) (attributes : List (String × String)) :
    (ofTexts name attributes).value? key = attributes.lookup key := by
  rw [value?, ofTexts]
  induction attributes with
  | nil => rfl
  | cons item attributes ih =>
    have same : (key.toList == item.1.toList) = (key == item.1) := by
      rw [Bool.eq_iff_iff, beq_iff_eq, beq_iff_eq, String.toList_inj]
    rw [List.map_cons, List.lookup_cons, List.lookup_cons, same]
    cases key == item.1 with
    | false => exact ih
    | true => exact congrArg some String.ofList_toList

end StartTag

def startTags (text : List Char) : List StartTag := (signsFrom none text).filterMap StartTag.ofSign?

/-! The same of a tree. -/

def Attribute.read (item : Attribute) : List Char × List Char :=
  (item.name.toList, unescape item.value.chars)

mutual

def Node.startTags : Node → List StartTag
  | .text _ => []
  | .element name attributes children =>
    ⟨name.toList, attributes.map Attribute.read⟩ :: startTagsOf children

def startTagsOf : List Node → List StartTag
  | [] => []
  | node :: nodes => node.startTags ++ startTagsOf nodes

end

/-- The characters that a name cannot have without being taken for something else. -/
def reservedChars : List Char := ['<', '>', '"', ' ', '/', '?']

def isPlainName (name : String) : Bool :=
  !name.toList.isEmpty && name.toList.all (· ∉ reservedChars)

mutual

def Node.isPlain : Node → Bool
  | .text _ => true
  | .element name attributes children =>
    isPlainName name && attributes.all (isPlainName ·.name) && arePlain children

def arePlain : List Node → Bool
  | [] => true
  | node :: nodes => node.isPlain && arePlain nodes

end

private theorem startTagsOf_eq_flatMap (nodes : List Node) :
    startTagsOf nodes = nodes.flatMap Node.startTags := by
  induction nodes with
  | nil => rfl
  | cons node nodes ih => rw [startTagsOf, ih, List.flatMap_cons]

private theorem arePlain_eq_all (nodes : List Node) : arePlain nodes = nodes.all Node.isPlain := by
  induction nodes with
  | nil => rfl
  | cons node nodes ih => rw [arePlain, ih, List.all_cons]

private theorem not_mem_escapeChar (c : Char) : ∀ mark ∈ ['<', '>', '"'], mark ∉ escapeChar c := by
  intro mark special
  simp only [List.mem_cons, List.not_mem_nil, or_false] at special
  rw [escapeChar]
  split_ifs <;> rcases special with rfl | rfl | rfl <;> simp_all [eq_comm]

theorem not_mem_escape (text : List Char) : ∀ mark ∈ ['<', '>', '"'], mark ∉ escape text := by
  intro mark special member
  obtain ⟨c, -, inside⟩ := List.mem_flatMap.mp member
  exact not_mem_escapeChar c mark special inside

private theorem not_mem_chars (value : Value) : ∀ mark ∈ ['<', '>', '"'], mark ∉ value.chars := by
  cases value with
  | text content => exact not_mem_escape content.toList
  | codePoint char =>
    intro mark special member
    simp only [List.mem_cons, List.not_mem_nil, or_false] at special
    have digit : mark ∈ Nat.toDigits 10 char.toNat := by
      rcases special with rfl | rfl | rfl <;> simpa [Value.chars] using member
    have other : mark.isDigit = true := Nat.isDigit_of_mem_toDigits (by decide) (by decide) digit
    rcases special with rfl | rfl | rfl <;> exact absurd other (by decide)

theorem unescape_cons {c : Char} (plain : c ≠ '&') (text : List Char) :
    unescape (c :: text) = c :: unescape text := by
  conv_lhs => unfold unescape
  split <;> simp_all

@[simp] theorem unescape_escape (text : List Char) : unescape (escape text) = text := by
  induction text with
  | nil => rfl
  | cons c text ih =>
    rw [escape, List.flatMap_cons, ← escape, escapeChar]
    split_ifs with lt gt amp apos quot
    · rw [lt]
      exact congrArg ('<' :: ·) ih
    · rw [gt]
      exact congrArg ('>' :: ·) ih
    · rw [amp]
      exact congrArg ('&' :: ·) ih
    · rw [apos]
      exact congrArg ('\'' :: ·) ih
    · rw [quot]
      exact congrArg ('"' :: ·) ih
    · rw [List.singleton_append, unescape_cons amp, ih]

private theorem startTags_text {front : List Char} (free : '<' ∉ front) (rest : List Char) :
    startTags (front ++ rest) = startTags rest := by
  induction front with
  | nil => rfl
  | cons c front ih =>
    rw [List.mem_cons, not_or] at free
    rw [List.cons_append, startTags, signsFrom, if_neg (Ne.symm free.1), List.filterMap_cons]
    exact ih free.2

theorem signsFrom_inside (seen : List Char) {inside : List Char} (free : '>' ∉ inside)
    (rest : List Char) :
    signsFrom (some seen) (inside ++ '>' :: rest) =
      .tag (seen.reverse ++ inside) :: signsFrom none rest := by
  induction inside generalizing seen with
  | nil => rw [List.nil_append, signsFrom, if_pos rfl, List.append_nil]
  | cons c inside ih =>
    rw [List.mem_cons, not_or] at free
    rw [List.cons_append, signsFrom, if_neg (Ne.symm free.1), ih _ free.2, List.reverse_cons,
      List.append_assoc, List.singleton_append]

theorem startTags_tag {inside : List Char} (free : '>' ∉ inside) (rest : List Char) :
    startTags ('<' :: (inside ++ '>' :: rest)) =
      (StartTag.ofInside? inside).toList ++ startTags rest := by
  rw [startTags, signsFrom, if_pos rfl, signsFrom_inside [] free, List.filterMap_cons]
  simp only [StartTag.ofSign?, List.reverse_nil, List.nil_append]
  cases StartTag.ofInside? inside <;> rfl

theorem Node.startTags_tag (name : String) (attributes : List (String × String)) (children : List Node) :
    (tag name attributes children).startTags =
      StartTag.ofTexts name attributes :: children.flatMap Node.startTags := by
  simp [tag, Node.startTags, StartTag.ofTexts, Attribute.read, Value.chars, startTagsOf_eq_flatMap]

theorem Node.isPlain_tag (name : String) (attributes : List (String × String)) (children : List Node) :
    (tag name attributes children).isPlain =
      (isPlainName name && attributes.all (isPlainName ·.1) && children.all Node.isPlain) := by
  simp [tag, Node.isPlain, arePlain_eq_all, List.all_map, Function.comp_def]

/-! Names and values of a written element. -/

theorem isPlainName_iff {name : String} :
    isPlainName name = true ↔ name.toList ≠ [] ∧ ∀ c ∈ name.toList, c ∉ reservedChars := by
  simp [isPlainName]

private theorem rtakeWhile_space {word : List Char} (whole : ' ' ∉ word) (front : List Char) :
    (front ++ ' ' :: word).rtakeWhile (· ≠ ' ') = word := by
  have visible : ∀ c ∈ word.reverse, decide (c ≠ ' ') = true := by
    intro c member
    simp only [decide_eq_true_eq]
    rintro rfl
    exact whole (List.mem_reverse.mp member)
  rw [List.rtakeWhile, List.reverse_append, List.reverse_cons, List.append_assoc,
    List.takeWhile_append_of_pos visible, List.singleton_append, List.takeWhile_cons_of_neg (by simp),
    List.append_nil, List.reverse_reverse]

/-- The quotes of a tag cut it into its names and values. -/
theorem assignments_splitOn {attributes : List Attribute}
    (plain : attributes.all (isPlainName ·.name) = true) {front back : List Char} (before : '"' ∉ front)
    (behind : '"' ∉ back) :
    assignments ((front ++ (attributeChars attributes ++ back)).splitOn '"') =
      attributes.map Attribute.read := by
  -- What stands before the first quote is the name of the tag at first, and nothing from then on.
  induction attributes generalizing front with
  | nil =>
    have whole : '"' ∉ front ++ back := by simp [before, behind]
    exact congrArg assignments (List.splitOn_eq_singleton whole)
  | cons item attributes ih =>
    rw [List.all_cons, Bool.and_eq_true] at plain
    obtain ⟨named, others⟩ := plain
    obtain ⟨-, free⟩ := isPlainName_iff.mp named
    have noQuote : '"' ∉ item.name.toList := fun member => free _ member (by decide)
    have before' : '"' ∉ front ++ ' ' :: (item.name.toList ++ ['=']) := by simp [before, noQuote]
    have written : front ++ (attributeChars (item :: attributes) ++ back) =
        front ++ ' ' :: (item.name.toList ++ ['=']) ++ '"' ::
          (item.value.chars ++ '"' :: ([] ++ (attributeChars attributes ++ back))) := by
      simp [attributeChars, Attribute.chars]
    have name : ((front ++ ' ' :: (item.name.toList ++ ['='])).rtakeWhile (· ≠ ' ')).dropLast =
        item.name.toList := by
      have noSpace : ' ' ∉ item.name.toList ++ ['='] := by
        simpa using fun member => free ' ' member (by decide)
      rw [rtakeWhile_space noSpace, List.dropLast_concat]
    rw [written, List.splitOn_append_cons_self_of_not_mem before',
      List.splitOn_append_cons_self_of_not_mem (not_mem_chars item.value '"' (by decide)), assignments,
      name, ih others (by simp), List.map_cons, Attribute.read]

/-- How the part of a tag behind its name begins. -/
theorem takeWhile_behind_name (attributes : List Attribute) {back : List Char}
    (finish : back = [] ∨ back = ['/']) :
    (attributeChars attributes ++ back).takeWhile (fun c => c ≠ ' ' ∧ c ≠ '/') = [] := by
  cases attributes with
  | nil => rcases finish with rfl | rfl <;> rfl
  | cons item attributes => rfl

theorem ofInside?_element {name : String} (named : isPlainName name = true)
    {attributes : List Attribute} (plain : attributes.all (isPlainName ·.name) = true)
    {back : List Char} (finish : back = [] ∨ back = ['/']) :
    StartTag.ofInside? (name.toList ++ (attributeChars attributes ++ back)) =
      some ⟨name.toList, attributes.map Attribute.read⟩ := by
  obtain ⟨something, free⟩ := isPlainName_iff.mp named
  have noQuote : '"' ∉ name.toList := fun member => free _ member (by decide)
  have own : ∀ c ∈ name.toList, decide (c ≠ ' ' ∧ c ≠ '/') = true := by
    intro c member
    have other := free c member
    simp only [reservedChars, List.mem_cons, not_or] at other
    simp [other]
  have opens : ((name.toList ++ (attributeChars attributes ++ back)).head?.any
      fun c => c == '/' || c == '?') = false := by
    obtain ⟨c, more, found⟩ := List.exists_cons_of_ne_nil something
    have other := free c (by simp [found])
    simp only [reservedChars, List.mem_cons, not_or] at other
    simp [found, other]
  have behind : '"' ∉ back := by rcases finish with rfl | rfl <;> decide
  rw [StartTag.ofInside?, if_neg (Bool.eq_false_iff.mp opens), assignments_splitOn plain noQuote behind,
    List.takeWhile_append_of_pos own, takeWhile_behind_name attributes finish, List.append_nil]

private theorem ofInside?_closing (name : List Char) : StartTag.ofInside? ('/' :: name) = none := rfl

theorem not_mem_attributeChars {attributes : List Attribute}
    (plain : attributes.all (isPlainName ·.name) = true) : '>' ∉ attributeChars attributes := by
  intro member
  obtain ⟨item, known, inside⟩ := List.mem_flatMap.mp member
  obtain ⟨-, free⟩ := isPlainName_iff.mp (List.all_eq_true.mp plain item known)
  have own : '>' ∉ item.name.toList := fun found => free _ found (by decide)
  have value := not_mem_chars item.value '>' (by decide)
  simp [Attribute.chars, own, value] at inside

/-- The first tag of an element is read as the element, and the rest of the text behind it. -/
theorem startTags_opening {name : String} (named : isPlainName name = true)
    {attributes : List Attribute} (plain : attributes.all (isPlainName ·.name) = true)
    {back : List Char} (finish : back = [] ∨ back = ['/']) (rest : List Char) :
    startTags ('<' :: (name.toList ++ (attributeChars attributes ++ back) ++ '>' :: rest)) =
      ⟨name.toList, attributes.map Attribute.read⟩ :: startTags rest := by
  obtain ⟨-, free⟩ := isPlainName_iff.mp named
  have noBracket : '>' ∉ name.toList := fun member => free _ member (by decide)
  have behind : '>' ∉ back := by rcases finish with rfl | rfl <;> decide
  have inside : '>' ∉ name.toList ++ (attributeChars attributes ++ back) := by
    simp [noBracket, not_mem_attributeChars plain, behind]
  rw [startTags_tag inside, ofInside?_element named plain finish]
  rfl

private theorem startTags_closing {name : String} (named : isPlainName name = true) (rest : List Char) :
    startTags ('<' :: ('/' :: name.toList ++ '>' :: rest)) = startTags rest := by
  obtain ⟨-, free⟩ := isPlainName_iff.mp named
  have inside : '>' ∉ '/' :: name.toList := by simpa using fun member => free '>' member (by decide)
  rw [startTags_tag inside, ofInside?_closing]
  rfl

-- The text behind a node is arbitrary: a child is followed by its siblings and by the end of its parent.
mutual

private theorem startTags_chars {node : Node} (plain : node.isPlain = true) (rest : List Char) :
    startTags (node.chars ++ rest) = node.startTags ++ startTags rest :=
  match node with
  | .text content => startTags_text (not_mem_escape content.toList '<' (by decide)) rest
  | .element name attributes [] => by
    simp only [Node.isPlain, Bool.and_eq_true] at plain
    have written : (Node.element name attributes []).chars ++ rest =
        '<' :: (name.toList ++ (attributeChars attributes ++ ['/']) ++ '>' :: rest) := by
      simp [Node.chars]
    rw [written, startTags_opening plain.1.1 plain.1.2 (Or.inr rfl)]
    rfl
  | .element name attributes (child :: children) => by
    simp only [Node.isPlain, Bool.and_eq_true] at plain
    have written : (Node.element name attributes (child :: children)).chars ++ rest =
        '<' :: (name.toList ++ (attributeChars attributes ++ []) ++ '>' ::
          (charsOf (child :: children) ++ '<' :: ('/' :: name.toList ++ '>' :: rest))) := by
      simp [Node.chars, charsOf]
    rw [written, startTags_opening plain.1.1 plain.1.2 (Or.inl rfl), startTags_charsOf plain.2,
      startTags_closing plain.1.1]
    rfl

private theorem startTags_charsOf {nodes : List Node} (plain : arePlain nodes = true) (rest : List Char) :
    startTags (charsOf nodes ++ rest) = startTagsOf nodes ++ startTags rest :=
  match nodes with
  | [] => rfl
  | node :: nodes => by
    rw [arePlain, Bool.and_eq_true] at plain
    rw [charsOf, List.append_assoc, startTags_chars plain.1, startTags_charsOf plain.2, startTagsOf,
      List.append_assoc]

end

/-- A written document is read as the elements of its tree. -/
theorem startTags_document {root : Node} (plain : root.isPlain = true) :
    startTags (document root).toList = root.startTags := by
  have front : startTags (declaration.toList ++ root.chars) = startTags root.chars := by
    let inside := "?xml version=\"1.0\" encoding=\"UTF-8\" standalone=\"yes\"?".toList
    have free : '>' ∉ inside := by decide +kernel
    have written : declaration.toList ++ root.chars =
        '<' :: (inside ++ '>' :: (['\n'] ++ root.chars)) := by
      simp [declaration, inside]
    have aside : StartTag.ofInside? inside = none := by decide +kernel
    rw [written, startTags_tag free, aside, startTags_text (by decide)]
    rfl
  have read := startTags_chars plain []
  rw [List.append_nil] at read
  rw [document, String.toList_ofList, front, read]
  exact List.append_nil _

end SlidePress.Xml
