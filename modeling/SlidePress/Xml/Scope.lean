import SlidePress.Xml.Mark

/-!
The namespaces that names stand in. A tag declares prefixes for itself and for what is inside of
it; the prefix of a name has to be declared, and no two attributes of a tag may be the same once
their prefixes are replaced by namespaces.
-/

namespace SlidePress.Xml

def xmlSpace : List Char := "http://www.w3.org/XML/1998/namespace".toList

def declarationSpace : List Char := "http://www.w3.org/2000/xmlns/".toList

def xmlLead : List Char := ['x', 'm', 'l']

/-- The prefix of declarations, and the name of the one for names without a prefix. -/
def declarationLead : List Char := ['x', 'm', 'l', 'n', 's']

/-- The name of an element or of an attribute, with its namespace if it has one. -/
structure FullName where
  space : Option (List Char)
  own : List Char
  deriving DecidableEq, Repr

/-- Namespaces by their prefixes; the first one of a prefix counts. The empty prefix is that of
elements without one. -/
abbrev Scope := List (List Char × List Char)

def isDeclaration (name : Name) : Bool :=
  name.lead == declarationLead || name.own == declarationLead

/-- Adds the declaration that an attribute makes to those in front of it. The two namespaces of
the documents themselves keep their prefixes, and no prefix is declared twice in a tag. -/
def declare (declared : Scope) (name : Name) (value : List Char) : Option Scope :=
  if value = declarationSpace then none
  else if name.lead = declarationLead then
    if (name.own == xmlLead) != (value == xmlSpace) then none
    else if (declared.lookup name.own).isSome then none
    else if value = xmlSpace then some declared
    else some (declared ++ [(name.own, value)])
  else if value = xmlSpace then none
  else some (declared ++ [([], value)])

def Tag.declared? (tag : Tag) : Option Scope :=
  (tag.attributes.filter (isDeclaration ·.1)).foldlM
    (fun declared (name, value) => declare declared name value) []

def elementName? (scope : Scope) (name : Name) : Option FullName :=
  if name.lead = declarationLead then none
  else
    match scope.lookup name.lead with
    | some space => some ⟨some space, name.own⟩
    | none => if name.lead.isEmpty then some ⟨none, name.own⟩ else none

/-- The full name of an attribute. Without a prefix it is in no namespace. -/
def attributeName? (scope : Scope) (name : Name) : Option FullName :=
  if name.lead.isEmpty then some ⟨none, name.own⟩
  else if name.lead = xmlLead then some ⟨some xmlSpace, name.own⟩
  else (scope.lookup name.lead).map fun space => ⟨some space, name.own⟩

/-- The attributes of a tag that declare no namespace, by their full names. -/
def Tag.fullAttributes? (tag : Tag) (scope : Scope) : Option (List (FullName × List Char)) := do
  let attributes ← (tag.attributes.filter (!isDeclaration ·.1)).mapM fun (name, value) => do
    return (← attributeName? scope name, value)
  if (attributes.map (·.1)).Nodup then some attributes else none

end SlidePress.Xml
