import SlidePress.Proofs.MarkupReading
import SlidePress.Xml.Character

/-! The tree of a written text. Its tags open and close elements, and what is open at some place is a
stack: only the innermost element can be closed there. A text whose tags do not fit together has no
tree. The tree of what a node writes is that of the node, wherever it stands in the text. -/

namespace SlidePress.Xml

/-- A tag by what it does to the elements at hand, or a character between tags. -/
inductive Event where
  | opening (tag : StartTag)
  | single (tag : StartTag)
  | closing (name : List Char)
  | char (c : Char)
  deriving DecidableEq, Repr

namespace Event

def ofInside? (inside : List Char) : Option Event :=
  if inside.head? = some '/' then some (.closing inside.tail)
  else (StartTag.ofInside? inside).map fun tag =>
    if inside.getLast? = some '/' then .single tag else .opening tag

def ofSign? : Sign → Option Event
  | .tag inside => ofInside? inside
  | .char c => some (.char c)

end Event

def events (text : List Char) : List Event := (signsFrom none text).filterMap Event.ofSign?

/-- A character of a text as it is written, or an element with what stands between its tags. -/
inductive WrittenNode where
  | char (c : Char)
  | element (tag : StartTag) (children : List WrittenNode)

/-- An element that has been opened, and what stands in front of it in the one around it, the last
first. -/
structure OpenElement where
  tag : StartTag
  front : List WrittenNode

/-- The nodes of events behind those in `inside`, the last one first, in the innermost of the
elements that are open. -/
def nodesFrom : (inside : List WrittenNode) → (outer : List OpenElement) → List Event →
    Option (List WrittenNode)
  | inside, [], [] => some inside.reverse
  | _, _ :: _, [] => none
  | inside, outer, .char c :: events => nodesFrom (.char c :: inside) outer events
  | inside, outer, .single tag :: events => nodesFrom (.element tag [] :: inside) outer events
  | inside, outer, .opening tag :: events => nodesFrom [] (⟨tag, inside⟩ :: outer) events
  | _, [], .closing _ :: _ => none
  | inside, top :: outer, .closing name :: events =>
    if top.tag.name = name then nodesFrom (.element top.tag inside.reverse :: top.front) outer events
    else none

namespace WrittenNode

def isSpace : WrittenNode → Bool
  | .char c => Xml.isSpace c
  | .element _ _ => false

/-- The outermost element of a document, around which there is nothing but white space. -/
def ofDocument? (text : String) : Option WrittenNode :=
  match (nodesFrom [] [] (events text.toList)).map (List.filter (!isSpace ·)) with
  | some [.element tag children] => some (.element tag children)
  | _ => none

def char? : WrittenNode → Option Char
  | .char c => some c
  | .element _ _ => none

def content : WrittenNode → String
  | .char _ => ""
  | .element _ children => String.ofList (unescape (children.filterMap char?))

def value : WrittenNode → String → String
  | .char _, _ => ""
  | .element tag _, name => tag.value name

mutual

/-- The elements of one name in a node, each in front of those inside of it. -/
def find (name : String) : WrittenNode → List WrittenNode
  | .char _ => []
  | .element tag children =>
    if tag.name == name.toList then .element tag children :: findIn name children
    else findIn name children

def findIn (name : String) : List WrittenNode → List WrittenNode
  | [] => []
  | node :: nodes => node.find name ++ findIn name nodes

end

def texts (node : WrittenNode) (name : String) : List String := (node.find name).map content

end WrittenNode

/-! The same of a tree. -/

def StartTag.ofElement (name : String) (attributes : List Attribute) : StartTag :=
  ⟨name.toList, attributes.map Attribute.read⟩

mutual

def Node.events : Node → List Event
  | .text content => (escape content.toList).map .char
  | .element name attributes [] => [.single (StartTag.ofElement name attributes)]
  | .element name attributes (child :: children) =>
    .opening (StartTag.ofElement name attributes) ::
      (child.events ++ eventsOf children ++ [.closing name.toList])

def eventsOf : List Node → List Event
  | [] => []
  | node :: nodes => node.events ++ eventsOf nodes

end

mutual

def Node.written : Node → List WrittenNode
  | .text content => (escape content.toList).map .char
  | .element name attributes children => [.element (StartTag.ofElement name attributes) (writtenOf children)]

def writtenOf : List Node → List WrittenNode
  | [] => []
  | node :: nodes => node.written ++ writtenOf nodes

end

/-! Events of a written node. -/

private theorem events_run {run : List Char} (free : '<' ∉ run) (rest : List Char) :
    events (run ++ rest) = run.map .char ++ events rest := by
  induction run with
  | nil => rfl
  | cons c run ih =>
    rw [List.mem_cons, not_or] at free
    rw [List.cons_append, events, signsFrom, if_neg (Ne.symm free.1), List.filterMap_cons]
    exact congrArg (Event.char c :: ·) (ih free.2)

private theorem events_tag {inside : List Char} (free : '>' ∉ inside) (rest : List Char) :
    events ('<' :: (inside ++ '>' :: rest)) = (Event.ofInside? inside).toList ++ events rest := by
  rw [events, signsFrom, if_pos rfl, signsFrom_inside [] free, List.filterMap_cons]
  simp only [Event.ofSign?, List.reverse_nil, List.nil_append]
  cases Event.ofInside? inside <;> rfl

private theorem getLast?_attributeChars {front : List Char} (closed : front.getLast? ≠ some '/')
    (attributes : List Attribute) : (front ++ attributeChars attributes).getLast? ≠ some '/' := by
  induction attributes generalizing front with
  | nil => rwa [attributeChars, List.flatMap_nil, List.append_nil]
  | cons item attributes ih =>
    have quoted : (front ++ item.chars).getLast? ≠ some '/' := by
      rw [Attribute.chars, List.getLast?_append_of_ne_nil _ (by simp), List.getLast?_concat]
      decide
    rw [attributeChars, List.flatMap_cons, ← List.append_assoc]
    exact ih quoted

variable {name : String} {attributes : List Attribute}

private theorem getLast?_name (named : isPlainName name = true) : name.toList.getLast? ≠ some '/' := by
  obtain ⟨-, free⟩ := isPlainName_iff.mp named
  intro last
  exact free '/' (List.mem_of_getLast? last) (by decide)

private theorem head?_name (named : isPlainName name = true) (rest : List Char) :
    (name.toList ++ rest).head? ≠ some '/' := by
  obtain ⟨something, free⟩ := isPlainName_iff.mp named
  obtain ⟨c, more, found⟩ := List.exists_cons_of_ne_nil something
  intro first
  rw [found, List.cons_append, List.head?_cons, Option.some_inj] at first
  exact free '/' (by simp [found, first]) (by decide)

/-- What stands between the brackets of the first tag of an element. -/
theorem not_mem_inside (named : isPlainName name = true)
    (plain : attributes.all (isPlainName ·.name) = true) :
    '>' ∉ name.toList ++ attributeChars attributes := by
  obtain ⟨-, free⟩ := isPlainName_iff.mp named
  intro member
  obtain own | item := List.mem_append.mp member
  · exact free '>' own (by decide)
  · exact not_mem_attributeChars plain item

private theorem events_opening (named : isPlainName name = true)
    (plain : attributes.all (isPlainName ·.name) = true) (rest : List Char) :
    events ('<' :: (name.toList ++ attributeChars attributes ++ '>' :: rest)) =
      .opening (StartTag.ofElement name attributes) :: events rest := by
  have read := ofInside?_element named plain (Or.inl rfl)
  rw [List.append_nil] at read
  have opens : (name.toList ++ attributeChars attributes).getLast? ≠ some '/' :=
    getLast?_attributeChars (getLast?_name named) attributes
  rw [events_tag (not_mem_inside named plain), Event.ofInside?, if_neg (head?_name named _), read,
    Option.map_some, if_neg opens]
  rfl

private theorem events_single (named : isPlainName name = true)
    (plain : attributes.all (isPlainName ·.name) = true) (rest : List Char) :
    events ('<' :: (name.toList ++ (attributeChars attributes ++ ['/']) ++ '>' :: rest)) =
      .single (StartTag.ofElement name attributes) :: events rest := by
  have free : '>' ∉ name.toList ++ (attributeChars attributes ++ ['/']) := by
    rw [← List.append_assoc, List.mem_append, not_or]
    exact ⟨not_mem_inside named plain, by decide⟩
  have closed : (name.toList ++ (attributeChars attributes ++ ['/'])).getLast? = some '/' := by
    rw [← List.append_assoc, List.getLast?_concat]
  rw [events_tag free, Event.ofInside?, if_neg (head?_name named _),
    ofInside?_element named plain (Or.inr rfl), Option.map_some, if_pos closed]
  rfl

private theorem events_closing (named : isPlainName name = true) (rest : List Char) :
    events ('<' :: '/' :: (name.toList ++ '>' :: rest)) = .closing name.toList :: events rest := by
  obtain ⟨-, free⟩ := isPlainName_iff.mp named
  have inside : '>' ∉ '/' :: name.toList := by
    rw [List.mem_cons, not_or]
    exact ⟨by decide, fun member => free '>' member (by decide)⟩
  rw [← List.cons_append, events_tag inside]
  rfl

mutual

private theorem events_chars {node : Node} (plain : node.isPlain = true) (rest : List Char) :
    events (node.chars ++ rest) = node.events ++ events rest :=
  match node with
  | .text content => events_run (not_mem_escape content.toList '<' (by decide)) rest
  | .element name attributes [] => by
    simp only [Node.isPlain, Bool.and_eq_true] at plain
    have single := events_single plain.1.1 plain.1.2 rest
    simpa [Node.chars, Node.events] using single
  | .element name attributes (child :: children) => by
    simp only [Node.isPlain, arePlain, Bool.and_eq_true] at plain
    obtain ⟨⟨named, items⟩, first, others⟩ := plain
    have written : (Node.element name attributes (child :: children)).chars ++ rest =
        '<' :: (name.toList ++ attributeChars attributes ++ '>' ::
          (child.chars ++ (charsOf children ++ '<' :: '/' :: (name.toList ++ '>' :: rest)))) := by
      simp [Node.chars]
    rw [written, events_opening named items, events_chars first, events_charsOf others,
      events_closing named]
    simp [Node.events]

private theorem events_charsOf {nodes : List Node} (plain : arePlain nodes = true) (rest : List Char) :
    events (charsOf nodes ++ rest) = eventsOf nodes ++ events rest :=
  match nodes with
  | [] => rfl
  | node :: nodes => by
    rw [arePlain, Bool.and_eq_true] at plain
    rw [charsOf, List.append_assoc, events_chars plain.1, events_charsOf plain.2, eventsOf,
      List.append_assoc]

end

theorem events_document {root : Node} (plain : root.isPlain = true) :
    events (document root).toList = .char '\n' :: root.events := by
  let inside := "?xml version=\"1.0\" encoding=\"UTF-8\" standalone=\"yes\"?".toList
  have free : '>' ∉ inside := by decide +kernel
  have aside : Event.ofInside? inside = none := by decide +kernel
  have written : (document root).toList = '<' :: (inside ++ '>' :: (['\n'] ++ (root.chars ++ []))) := by
    simp [document, declaration, inside]
  rw [written, events_tag free, aside, events_run (by decide), events_chars plain]
  simp [events, signsFrom]

/-! The tree of the events of a node. -/

-- The elements that are open around a node are arbitrary, and so is what stands behind it.
mutual

private theorem nodesFrom_events (node : Node) (inside : List WrittenNode) (outer : List OpenElement)
    (rest : List Event) :
    nodesFrom inside outer (node.events ++ rest) =
      nodesFrom (node.written.reverse ++ inside) outer rest :=
  match node with
  | .text content => by
    rw [Node.events, Node.written]
    induction escape content.toList generalizing inside with
    | nil => rfl
    | cons c text ih =>
      rw [List.map_cons, List.cons_append, nodesFrom, ih, List.map_cons, List.reverse_cons,
        List.append_assoc, List.singleton_append]
  | .element name attributes [] => by
    simp only [Node.events, List.cons_append, List.nil_append, nodesFrom]
    rfl
  | .element name attributes (child :: children) => by
    have same : (StartTag.ofElement name attributes).name = name.toList := rfl
    simp only [Node.events, List.cons_append, List.append_assoc, nodesFrom]
    rw [nodesFrom_events child, nodesFrom_eventsOf children, List.nil_append, nodesFrom, if_pos same]
    simp [Node.written, writtenOf]

private theorem nodesFrom_eventsOf (nodes : List Node) (inside : List WrittenNode) (outer : List OpenElement)
    (rest : List Event) :
    nodesFrom inside outer (eventsOf nodes ++ rest) =
      nodesFrom ((writtenOf nodes).reverse ++ inside) outer rest :=
  match nodes with
  | [] => rfl
  | node :: nodes => by
    rw [eventsOf, List.append_assoc, nodesFrom_events node, nodesFrom_eventsOf nodes, writtenOf,
      List.reverse_append, List.append_assoc]

end

private theorem writtenOf_eq_flatMap (nodes : List Node) : writtenOf nodes = nodes.flatMap Node.written := by
  induction nodes with
  | nil => rfl
  | cons node nodes ih => rw [writtenOf, ih, List.flatMap_cons]

theorem Node.written_tag (name : String) (attributes : List (String × String)) (children : List Node) :
    (tag name attributes children).written =
      [.element (.ofTexts name attributes) (children.flatMap Node.written)] := by
  simp [tag, Node.written, StartTag.ofElement, StartTag.ofTexts, Attribute.read, Value.chars,
    writtenOf_eq_flatMap]

theorem Node.events_tag_nil (name : String) (attributes : List (String × String)) :
    (tag name attributes).events = [.single (.ofTexts name attributes)] := by
  simp [tag, Node.events, StartTag.ofElement, StartTag.ofTexts, Attribute.read, Value.chars]

theorem Node.events_tag_cons (name : String) (attributes : List (String × String)) (child : Node)
    (children : List Node) : (tag name attributes (child :: children)).events =
      .opening (.ofTexts name attributes) ::
        (eventsOf (child :: children) ++ [.closing name.toList]) := by
  simp [tag, Node.events, eventsOf, StartTag.ofElement, StartTag.ofTexts, Attribute.read, Value.chars]

/-- The tree of a document is that of its outermost element. -/
theorem WrittenNode.ofDocument?_document {root : Node} (plain : root.isPlain = true) {tag : StartTag}
    {children : List WrittenNode} (written : root.written = [.element tag children]) :
    ofDocument? (document root) = some (.element tag children) := by
  have read : nodesFrom [] [] (events (document root).toList) =
      some [.char '\n', .element tag children] := by
    have behind := nodesFrom_events root [.char '\n'] [] []
    rw [List.append_nil, written] at behind
    rw [events_document plain, nodesFrom, behind]
    rfl
  have shown : [WrittenNode.char '\n', .element tag children].filter (!isSpace ·) =
      [.element tag children] := rfl
  rw [ofDocument?, read, Option.map_some, shown]

/-! Elements by their names. -/

namespace WrittenNode

private theorem findIn_eq_flatMap (name : String) (nodes : List WrittenNode) :
    findIn name nodes = nodes.flatMap (find name) := by
  induction nodes with
  | nil => rfl
  | cons node nodes ih => rw [findIn, ih, List.flatMap_cons]

theorem find_element (name element : String) (attributes : List (String × String))
    (children : List WrittenNode) :
    find name (.element (.ofTexts element attributes) children) =
      if element == name then
        .element (.ofTexts element attributes) children :: children.flatMap (find name)
      else children.flatMap (find name) := by
  rw [find, findIn_eq_flatMap, StartTag.ofTexts_name]

private theorem filterMap_char? (text : List Char) : (text.map WrittenNode.char).filterMap char? = text := by
  rw [List.filterMap_map]
  exact List.filterMap_some

end WrittenNode

def Node.found (name : String) (node : Node) : List WrittenNode :=
  node.written.flatMap (WrittenNode.find name)

theorem Node.found_eq_find {node : Node} {root : WrittenNode} (written : node.written = [root])
    (name : String) : node.found name = root.find name := by
  rw [found, written, List.flatMap_singleton]

theorem Node.found_text (name content : String) : (Node.text content).found name = [] := by
  rw [found, written, List.flatMap_map]
  exact List.flatMap_eq_nil_iff.mpr fun c _ => rfl

theorem Node.found_element (name element : String) (attributes : List Attribute)
    (children : List Node) (other : element ≠ name) :
    (Node.element element attributes children).found name = children.flatMap (found name) := by
  have passed : (element.toList == name.toList) = false := by
    rw [beq_eq_false_iff_ne, Ne, String.toList_inj]
    exact other
  rw [found, written, List.flatMap_singleton, WrittenNode.find, StartTag.ofElement, passed,
    if_neg Bool.false_ne_true, WrittenNode.findIn_eq_flatMap, writtenOf_eq_flatMap, List.flatMap_assoc]
  rfl

theorem Node.found_tag (name element : String) (attributes : List (String × String))
    (children : List Node) : (tag element attributes children).found name =
      if element == name then
        .element (.ofTexts element attributes) (children.flatMap written) ::
          children.flatMap (found name)
      else children.flatMap (found name) := by
  rw [found, written_tag, List.flatMap_singleton, WrittenNode.find_element, List.flatMap_assoc]
  rfl

/-- The text of an element is read as it was meant. -/
theorem WrittenNode.content_text (tag : StartTag) (content : String) :
    WrittenNode.content (.element tag (Node.text content).written) = content := by
  rw [Node.written, WrittenNode.content, filterMap_char?, unescape_escape, String.ofList_toList]

theorem WrittenNode.value_element (name element : String) (attributes : List (String × String))
    (children : List WrittenNode) :
    value (.element (.ofTexts element attributes) children) name = (attributes.lookup name).getD "" := by
  rw [value, StartTag.value, StartTag.ofTexts_value?]

end SlidePress.Xml
