/-!
Markup as a tree of elements and texts, and its written form. Whatever the texts and the values of
attributes hold, the characters that mean something in markup are written as entities, so that
the shape of the tree alone decides the shape of what is written.
-/

namespace SlidePress.Xml

/-- The value of an attribute: a text, or one character to be written by its code point. -/
inductive Value where
  | text (content : String)
  | codePoint (char : Char)
  deriving DecidableEq, Repr

structure Attribute where
  name : String
  value : Value
  deriving DecidableEq, Repr

/-- A piece of markup. -/
inductive Node where
  | text (content : String)
  | element (name : String) (attributes : List Attribute) (children : List Node)
  deriving Repr

def tag (name : String) (attributes : List (String × String) := [])
    (children : List Node := []) : Node :=
  .element name (attributes.map fun (name, value) => ⟨name, .text value⟩) children

/-- The entity of a character that means something in markup; the others stand for themselves. -/
def escapeChar (c : Char) : List Char :=
  if c = '<' then ['&', 'l', 't', ';']
  else if c = '>' then ['&', 'g', 't', ';']
  else if c = '&' then ['&', 'a', 'm', 'p', ';']
  else if c = '\'' then ['&', 'a', 'p', 'o', 's', ';']
  else if c = '"' then ['&', 'q', 'u', 'o', 't', ';']
  else [c]

def escape (text : List Char) : List Char :=
  text.flatMap escapeChar

def Value.chars : Value → List Char
  | .text content => escape content.toList
  | .codePoint char => '&' :: '#' :: Nat.toDigits 10 char.toNat ++ [';']

def Attribute.chars (item : Attribute) : List Char :=
  ' ' :: item.name.toList ++ '=' :: '"' :: item.value.chars ++ ['"']

/-- What stands between the name of an element and the end of its first tag. -/
def attributeChars (attributes : List Attribute) : List Char :=
  attributes.flatMap Attribute.chars

mutual

/-- The written form of a node; an element without children is a single tag. -/
def Node.chars : Node → List Char
  | .text content => escape content.toList
  | .element name attributes [] =>
    '<' :: name.toList ++ attributeChars attributes ++ ['/', '>']
  | .element name attributes (child :: children) =>
    '<' :: name.toList ++ attributeChars attributes ++
      '>' :: (child.chars ++ charsOf children ++ '<' :: '/' :: name.toList ++ ['>'])

/-- The written form of nodes one after another. -/
def charsOf : List Node → List Char
  | [] => []
  | node :: nodes => node.chars ++ charsOf nodes

end

def declaration : String :=
  "<?xml version=\"1.0\" encoding=\"UTF-8\" standalone=\"yes\"?>\n"

def document (root : Node) : String :=
  String.ofList (declaration.toList ++ root.chars)

end SlidePress.Xml
