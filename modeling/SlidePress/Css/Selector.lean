import SlidePress.Css.Declaration
import SlidePress.Text.Lines
import SlidePress.Xml.Document

/-!
Selectors: which elements of a document a rule is about. A selector asks something of an element
and, step by step, of elements around it or in front of it.
-/

namespace SlidePress.Css

/-- What is asked of the value of an attribute. -/
inductive Condition where
  | present
  | equals (value : List Char)
  /-- One of the words between blanks. -/
  | hasWord (word : List Char)
  /-- The value, or the value and a hyphen in front of more. -/
  | beginsWith (value : List Char)
  deriving DecidableEq, Repr

inductive Requirement where
  | attribute (name : List Char) (condition : Condition)
  | firstChild
  /-- A state that an element has only while somebody looks at it. -/
  | transient
  deriving DecidableEq, Repr

/-- What is asked of one element. -/
structure Compound where
  tag : Option (List Char) := none
  requirements : List Requirement := []
  deriving DecidableEq, Repr

/-- How another element is reached. -/
inductive Combinator where
  | descendant
  | child
  | adjacent
  deriving DecidableEq, Repr

/-- What is asked of an element, and of the elements that are reached from it one after another. -/
structure Selector where
  last : Compound
  steps : List (Combinator × Compound)
  deriving DecidableEq, Repr

/-! ### Reading -/

/-- A selector that has been read up to some point. -/
structure Reading where
  /-- The compounds so far, the last one first, each with the way in which the one in front of it
  is reached. -/
  found : List (Option Combinator × Compound) := []
  /-- How the compound that comes next reaches the last one. -/
  combinator : Option Combinator := none
  /-- Whether a compound has to come next. -/
  awaiting : Bool := true

namespace Reading

/-- Begins a compound with the name of a tag, or for every tag. -/
def addTag (reading : Reading) (tag : Option (List Char)) : Reading :=
  ⟨(reading.combinator, { tag }) :: reading.found, none, false⟩

/-- Adds a requirement to the last compound, or begins one with it. -/
def addRequirement (reading : Reading) (requirement : Requirement) : Reading :=
  match reading.combinator, reading.found with
  | none, (combinator, compound) :: found =>
    ⟨(combinator, { compound with requirements := compound.requirements ++ [requirement] }) ::
      found, none, false⟩
  | combinator, found => ⟨(combinator, { requirements := [requirement] }) :: found, none, false⟩

def selector? (reading : Reading) : Option Selector :=
  if reading.awaiting then none
  else
    match reading.found with
    | [] => none
    | (combinator, last) :: found =>
      let steps (combinator : Option Combinator) (found : List (Option Combinator × Compound)) :=
        ((combinator :: found.map (·.1)).zip (found.map (·.2))).filterMap fun (combinator, compound) =>
          combinator.map (·, compound)
      some ⟨last, steps combinator found⟩

end Reading

def spanComparand (text : List Char) : Span :=
  match text with
  | c :: rest => if c = '"' ∨ c = '\'' then spanQuoted c rest else spanIdent text
  | [] => ⟨false, [], []⟩

/-- Reads what is asked of an attribute behind its name; nothing if it is wrong. -/
def readCondition (text : List Char) : Option Condition × List Char :=
  let close (condition : List Char → Condition) (value : Span) : Option Condition × List Char :=
    match value.isSound, value.rest with
    | true, ']' :: rest => (some (condition value.front), rest)
    | _, rest => (none, rest)
  match text with
  | ']' :: rest => (some .present, rest)
  | '=' :: rest => close .equals (spanComparand rest)
  | '~' :: '=' :: rest => close .hasWord (spanComparand rest)
  | '|' :: '=' :: rest => close .beginsWith (spanComparand rest)
  | _ => (none, text)

/-- The states that an element has only while somebody looks at it. -/
def transientStates : List String := ["link", "visited", "hover", "active", "focus"]

/-- Reads what follows a colon; nothing if it cannot be asked for. -/
def readState (text : List Char) : Option Requirement × List Char :=
  let name := spanIdent text
  if !name.isSound then (none, name.rest)
  else if name.front = "first-child".toList then (some .firstChild, name.rest)
  else if transientStates.contains (String.ofList name.front) then (some .transient, name.rest)
  else if name.front = "lang".toList then
    match name.rest with
    | '(' :: rest =>
      match rest.dropWhile (· ≠ ')') with
      | _ :: after =>
        if Text.allBlank (rest.takeWhile (· ≠ ')')) then (none, after) else (some .transient, after)
      | [] => (none, [])
    | rest => (none, rest)
  else (none, name.rest)

/-- Passes over comments and the white space behind each. -/
def skipComments : (fuel : Nat) → List Char → Option (List Char)
  | fuel + 1, '/' :: rest =>
    match rest with
    | '*' :: rest => (splitComment [] rest).bind fun (_, rest) =>
      skipComments fuel (rest.dropWhile isSpace)
    | _ => none
  | _, text => some text

/-- Reads a selector up to a comma, an opening brace, or something that does not belong to it. -/
def readSelectorFrom : (fuel : Nat) → Reading → List Char → Option Selector × List Char
  | 0, _, text => (none, text)
  | fuel + 1, reading, text =>
    let go := readSelectorFrom fuel
    let require (requirement? : Option Requirement) (rest : List Char) :=
      match requirement? with
      | some requirement => go (reading.addRequirement requirement) rest
      | none => (none, rest)
    match text with
    | [] => (reading.selector?, [])
    | c :: rest =>
      if c = '*' then if reading.awaiting then go (reading.addTag none) rest else (none, text)
      else if c = '#' ∨ c = '.' then
        let name := spanIdent rest
        let requirement : Requirement :=
          if c = '#' then .attribute ['i', 'd'] (.equals name.front)
          else .attribute "class".toList (.hasWord name.front)
        require (if name.isSound then some requirement else none) name.rest
      else if c = '[' then
        let name := spanIdent rest
        if !name.isSound then (none, name.rest)
        else
          let (condition?, rest) := readCondition name.rest
          require (condition?.map (.attribute name.front)) rest
      else if c = ':' then
        let (requirement?, rest) := readState rest
        require requirement? rest
      else if c = '>' ∨ c = '+' then
        if reading.awaiting then (none, text)
        else
          let combinator : Combinator := if c = '>' then .child else .adjacent
          go { reading with combinator, awaiting := true } rest
      else if isSpace c then
        let rest := rest.dropWhile isSpace
        if reading.awaiting then go reading rest
        else
          match skipComments (rest.length + 1) rest with
          | none => (none, rest)
          | some rest =>
            if rest.head?.all fun c => c == '>' || c == '+' || c == ',' || c == '\x7b' then
              go reading rest
            else go { reading with combinator := some .descendant, awaiting := true } rest
      else if c = '/' then
        match rest with
        | '*' :: inside =>
          match splitComment [] inside with
          | some (_, rest) => go reading rest
          | none => (none, [])
        | _ => (reading.selector?, text)
      else if c = ',' ∨ c = '\x7b' then (reading.selector?, text)
      else
        let name := spanIdent text
        if name.isSound && reading.awaiting then go (reading.addTag (some name.front)) name.rest
        else (none, name.rest)

/-- Reads a selector up to a comma, an opening brace, or something that does not belong to it. -/
def readSelector (text : List Char) : Option Selector × List Char :=
  readSelectorFrom (text.length + 1) {} text

/-! ### Choosing elements -/

def Condition.holds (value : List Char) : Condition → Bool
  | .present => true
  | .equals wanted => value == wanted
  | .hasWord word => (Text.pieces ' ' value).contains word
  | .beginsWith wanted =>
    match Text.after? wanted value with
    | some rest => rest.head?.all (· == '-')
    | none => false

/-- Whether an element meets a requirement. Attributes are those in no namespace. -/
def Requirement.holds (element : Xml.Element) : Requirement → Bool
  | .attribute name condition => (element.attributes.lookup ⟨none, name⟩).any (condition.holds ·)
  | .firstChild => element.previous.isNone
  | .transient => false

def Compound.holds (compound : Compound) (element : Xml.Element) : Bool :=
  compound.tag.all (· == element.name.own) && compound.requirements.all (·.holds element)

def ancestors (document : Xml.Document) : (fuel : Nat) → Xml.Element → List Xml.Element
  | 0, _ => []
  | fuel + 1, element =>
    match element.parent.bind document.element? with
    | some parent => parent :: ancestors document fuel parent
    | none => []

/-- Whether the elements that are reached step by step meet what is asked of them. -/
def leadsOn (document : Xml.Document) : List (Combinator × Compound) → Xml.Element → Bool
  | [], _ => true
  | (combinator, compound) :: steps, element =>
    let reached := match combinator with
      | .descendant => ancestors document document.elements.size element
      | .child => (element.parent.bind document.element?).toList
      | .adjacent => (element.previous.bind document.element?).toList
    reached.any fun other => compound.holds other && leadsOn document steps other

def Selector.chooses (selector : Selector) (document : Xml.Document) (element : Xml.Element) : Bool :=
  selector.last.holds element && leadsOn document selector.steps element

/-- How much a selector counts against others: names by number, other requirements, and tags.
None of the counts goes beyond a byte. -/
def Selector.weight (selector : Selector) : List Nat :=
  let compounds := selector.last :: selector.steps.map (·.2)
  let requirements := compounds.flatMap (·.requirements)
  let isId : Requirement → Bool
    | .attribute name _ => name == ['i', 'd']
    | _ => false
  [requirements.countP isId, requirements.countP (!isId ·), compounds.countP (·.tag.isSome)].map
    (min 255)

end SlidePress.Css
