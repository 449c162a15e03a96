import SlidePress.Deck.Parts
import SlidePress.Proofs.MarkupReading
import SlidePress.Text.Search

/-! What makes a package whole, told from the texts of its parts alone: the relationships of a part,
what their targets lead to from the folder of that part, and the list of contents. A package is
closed if nothing in it points to what is not there, and all that is there is told of. -/

namespace SlidePress

def writtenTags (element text : String) : List Xml.StartTag :=
  (Xml.startTags text.toList).filter (·.name == element.toList)

structure WrittenRelationship where
  id : String
  type : String
  target : String
  deriving DecidableEq

def writtenRelationships (text : String) : List WrittenRelationship :=
  (writtenTags "Relationship" text).map fun tag =>
    ⟨tag.value "Id", tag.value "Type", tag.value "Target"⟩

def writtenOverrides (text : String) : List ContentType :=
  (writtenTags "Override" text).map fun tag => ⟨tag.value "PartName", tag.value "ContentType"⟩

namespace Part

def steps (name : String) : List (List Char) := name.toList.splitOn '/'

def ofSteps (steps : List (List Char)) : String := String.ofList (['/'].intercalate steps)

def follow (place : List (List Char)) (step : List Char) : List (List Char) :=
  if step = ['.'] then place else if step = ['.', '.'] then place.dropLast else place ++ [step]

/-- The name of the part that a target leads to. The relationships `a/_rels/b.rels` are those of the
part `a/b`, so their targets are seen from the folder `a`, unless they begin at the root. -/
def targetName (relationships target : String) : String :=
  match steps target with
  | [] :: path => ofSteps (path.foldl follow [])
  | path => ofSteps (path.foldl follow (steps relationships).dropLast.dropLast)

def relationshipsName (source : String) : String :=
  ofSteps ((steps source).dropLast ++
    ["_rels".toList, (steps source).getLastD [] ++ ".rels".toList])

def holdsRelationships (name : String) : Bool := Text.endsWith ".rels".toList name.toList

end Part

/-- An element that refers to another part, the role that such a part has, and what it holds. -/
structure Reference where
  element : String
  role : Role
  type : String

def Reference.all : List Reference := [
  ⟨"p:sldMasterId", .slideMaster, ContentType.officeType "presentationml.slideMaster"⟩,
  ⟨"p:sldId", .slide, ContentType.officeType "presentationml.slide"⟩,
  ⟨"p:sldLayoutId", .slideLayout, ContentType.officeType "presentationml.slideLayout"⟩]

namespace Package

def contentsName : String := "[Content_Types].xml"
def presentationName : String := "ppt/presentation.xml"
def masterName : String := "ppt/slideMasters/slideMaster1.xml"

def overrides (package : Package) : List ContentType :=
  writtenOverrides ((package.text? contentsName).getD "")

def relationshipsOf (package : Package) (source : String) : List WrittenRelationship :=
  writtenRelationships ((package.text? (Part.relationshipsName source)).getD "")

/-- Every reference in a part is one of its relationships, to a part of the kind that is asked for. -/
def Resolves (package : Package) (source : String) : Prop :=
  ∃ text, package.text? source = some text ∧
    ∀ tag ∈ Xml.startTags text.toList, ∀ id, tag.value? "r:id" = some id →
      ∃ reference ∈ Reference.all, tag.name = reference.element.toList ∧
        ∃ item ∈ package.relationshipsOf source, item.id = id ∧ item.type = reference.role.uri ∧
          ⟨"/" ++ Part.targetName (Part.relationshipsName source) item.target, reference.type⟩ ∈
            package.overrides

structure Closed (package : Package) : Prop where
  names : package.names.Nodup
  targets : ∀ part ∈ package.parts, Part.holdsRelationships part.name = true →
    ∀ item ∈ writtenRelationships part.text, Part.targetName part.name item.target ∈ package.names
  ids : ∀ part ∈ package.parts, Part.holdsRelationships part.name = true →
    ((writtenRelationships part.text).map (·.id)).Nodup
  presentation : package.Resolves presentationName
  master : package.Resolves masterName
  /-- One entry for every part but the list itself and those that hold relationships. -/
  contents : (package.overrides.map (·.partName)).Perm
    ((package.names.filter fun name =>
      !Part.holdsRelationships name && name != contentsName).map ("/" ++ ·))

def numbers (package : Package) (source element : String) : List (Option Nat) :=
  (writtenTags element ((package.text? source).getD "")).map fun tag =>
    (tag.value? "id").bind String.toNat?

/-- Each of the slides has a number of its own. All stay below those of the master and of the layout as
long as the format allows for it. -/
def Numbered (package : Package) (slideCount : Nat) : Prop :=
  ∃ (ids : List Nat) (master layout : Nat),
    package.numbers presentationName "p:sldId" = ids.map some ∧
    package.numbers presentationName "p:sldMasterId" = [some master] ∧
    package.numbers masterName "p:sldLayoutId" = [some layout] ∧
    ids.length = slideCount ∧ ids.Nodup ∧ (∀ id ∈ ids, 256 ≤ id) ∧
    (slideCount ≤ Nat.pow 2 31 - 256 → ∀ id ∈ ids, id < master ∧ id < layout)

end Package

end SlidePress
