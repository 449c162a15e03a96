import SlidePress.Proofs.MarkupGrammar

/-! The characters of written documents. A document is well formed if it follows the grammar and has none
but allowed characters. Writing a tree neither adds nor removes others: all that matters are the texts
and values in it. -/

namespace SlidePress.Xml

/-- A document that follows the grammar and in which there are none but allowed characters. -/
structure IsWellFormed (text : String) : Prop where
  grammar : IsDocument text.toList
  allowed : text.toList.all isAllowed = true

def isAllowedText (text : String) : Bool := text.toList.all isAllowed

def Value.isAllowed : Value → Bool
  | .text content => isAllowedText content
  | .codePoint _ => true

mutual

def Node.isAllowed : Node → Bool
  | .text content => isAllowedText content
  | .element _ attributes children => attributes.all (·.value.isAllowed) && areAllowed children

def areAllowed : List Node → Bool
  | [] => true
  | node :: nodes => node.isAllowed && areAllowed nodes

end

private theorem areAllowed_eq_all (nodes : List Node) : areAllowed nodes = nodes.all Node.isAllowed := by
  induction nodes with
  | nil => rfl
  | cons node nodes ih => rw [areAllowed, ih, List.all_cons]

theorem Node.isAllowed_tag (name : String) (attributes : List (String × String)) (children : List Node) :
    (tag name attributes children).isAllowed =
      (attributes.all (isAllowedText ·.2) && children.all isAllowed) := by
  simp [tag, isAllowed, areAllowed_eq_all, Value.isAllowed, Function.comp_def]

private theorem isAllowed_of_isIn {ranges : List (Nat × Nat)} {c : Char}
    (inside : ranges.all (fun (first, last) => (0x20 ≤ first && last ≤ 0xFFFD) || 0x10000 ≤ first) = true)
    (member : isIn ranges c = true) : isAllowed c = true := by
  obtain ⟨⟨first, last⟩, known, between⟩ := List.any_eq_true.mp member
  have range := List.all_eq_true.mp inside _ known
  simp only [Bool.and_eq_true, Bool.or_eq_true, decide_eq_true_eq] at between range
  simp only [isAllowed, Bool.or_eq_true, Bool.and_eq_true, decide_eq_true_eq]
  omega

private theorem isAllowed_of_isNameChar {c : Char} (named : isNameChar c = true) : isAllowed c = true := by
  rw [isNameChar, Bool.or_eq_true] at named
  obtain first | other := named
  · exact isAllowed_of_isIn (by decide) first
  · exact isAllowed_of_isIn (by decide) other

private theorem isAllowed_name {name : List Char} (named : isName name = true) : name.all isAllowed = true := by
  rw [isName, Bool.and_eq_true] at named
  exact List.all_eq_true.mpr fun c member => isAllowed_of_isNameChar (List.all_eq_true.mp named.2 c member)

theorem isAllowed_of_isDigit {c : Char} (digit : c.isDigit = true) : isAllowed c = true := by
  have known : isIn nameRanges c = true := by
    rw [Char.isDigit, Bool.and_eq_true, decide_eq_true_eq, decide_eq_true_eq] at digit
    rw [isIn, List.any_eq_true]
    refine ⟨(0x30, 0x39), by decide, ?_⟩
    rw [Bool.and_eq_true, decide_eq_true_eq, decide_eq_true_eq]
    exact digit
  exact isAllowed_of_isIn (by decide) known

private theorem isAllowed_escapeChar (c : Char) : (escapeChar c).all isAllowed = isAllowed c := by
  rw [escapeChar]
  split_ifs with lt gt amp apos quot
  · rw [lt]
    decide
  · rw [gt]
    decide
  · rw [amp]
    decide
  · rw [apos]
    decide
  · rw [quot]
    decide
  · simp

private theorem isAllowed_escape (text : List Char) : (escape text).all isAllowed = text.all isAllowed := by
  rw [escape, List.all_flatMap]
  exact congrArg text.all (funext isAllowed_escapeChar)

private theorem isAllowed_value (value : Value) : value.chars.all isAllowed = value.isAllowed := by
  cases value with
  | text content => exact isAllowed_escape content.toList
  | codePoint char =>
    have digits : (Nat.toDigits 10 char.toNat).all isAllowed = true :=
      List.all_eq_true.mpr fun c member =>
        isAllowed_of_isDigit (Nat.isDigit_of_mem_toDigits (by decide) (by decide) member)
    have marks : isAllowed '&' = true ∧ isAllowed '#' = true ∧ isAllowed ';' = true := by decide
    simp [Value.chars, Value.isAllowed, digits, marks]

private theorem isAllowed_attributes {attributes : List Attribute}
    (sound : attributes.all (fun item => isName item.name.toList && item.value.isSound) = true) :
    (attributeChars attributes).all isAllowed = attributes.all (·.value.isAllowed) := by
  have marks : isAllowed ' ' = true ∧ isAllowed '=' = true ∧ isAllowed '"' = true := by decide
  rw [attributeChars, List.all_flatMap, Bool.eq_iff_iff, List.all_eq_true, List.all_eq_true]
  refine forall₂_congr fun item member => ?_
  have named := List.all_eq_true.mp sound item member
  rw [Bool.and_eq_true] at named
  simp [Attribute.chars, isAllowed_name named.1, isAllowed_value, marks]

mutual

/-- Marks and names are allowed, so that only texts and values matter. -/
theorem isAllowed_chars {node : Node} (sound : node.isSound = true) :
    node.chars.all isAllowed = node.isAllowed :=
  match node with
  | .text content => isAllowed_escape content.toList
  | .element name attributes [] => by
    simp only [Node.isSound, Bool.and_eq_true] at sound
    have marks : isAllowed '<' = true ∧ isAllowed '>' = true ∧ isAllowed '/' = true := by decide
    simp [Node.chars, Node.isAllowed, isAllowed_name sound.1.1.1, isAllowed_attributes sound.1.1.2, marks,
      areAllowed]
  | .element name attributes (child :: children) => by
    simp only [Node.isSound, areSound, Bool.and_eq_true] at sound
    have marks : isAllowed '<' = true ∧ isAllowed '>' = true ∧ isAllowed '/' = true := by decide
    simp [Node.chars, Node.isAllowed, isAllowed_name sound.1.1.1, isAllowed_attributes sound.1.1.2, marks,
      areAllowed, isAllowed_chars sound.2.1, isAllowed_charsOf sound.2.2]

private theorem isAllowed_charsOf {nodes : List Node} (sound : areSound nodes = true) :
    (charsOf nodes).all isAllowed = areAllowed nodes :=
  match nodes with
  | [] => rfl
  | node :: nodes => by
    rw [areSound, Bool.and_eq_true] at sound
    rw [charsOf, List.all_append, isAllowed_chars sound.1, isAllowed_charsOf sound.2, areAllowed]

end

theorem isWellFormed_document {name : String} {attributes : List Attribute} {children : List Node}
    (sound : (Node.element name attributes children).isSound = true) :
    IsWellFormed (document (.element name attributes children)) ↔
      (Node.element name attributes children).isAllowed = true := by
  have front : declaration.toList.all isAllowed = true := by decide +kernel
  have written : (document (.element name attributes children)).toList.all isAllowed =
      (Node.element name attributes children).isAllowed := by
    rw [document, String.toList_ofList, List.all_append, front, Bool.true_and, isAllowed_chars sound]
  exact ⟨fun formed => written ▸ formed.allowed,
    fun allowed => ⟨isDocument_document sound, written.trans allowed⟩⟩

end SlidePress.Xml
