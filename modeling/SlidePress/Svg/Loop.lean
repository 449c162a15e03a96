import SlidePress.Svg.Placement

/-!
References that lead back to where they stand: an element in a clip path or a mask that is to be cut
by the same one, directly or by way of another one. They are taken away before anything is drawn.
-/

namespace SlidePress.Svg

mutual

def Node.all : Node → List Node
  | ⟨kind, properties, fontSize, around, children⟩ =>
    ⟨kind, properties, fontSize, around, children⟩ :: allOf children

def allOf : List Node → List Node
  | [] => []
  | node :: nodes => node.all ++ allOf nodes

end

def Node.reference? (node : Node) (name : String) : Option (List Char) :=
  (node.get? name).bind readReference?

/-- What is cut off: the references under a name to one element from inside of some others. -/
structure Cut where
  name : String
  goal : List Char
  /-- The kind of the elements around, and their names. -/
  kind : Kind
  holders : List (List Char)

def Cut.clear (cut : Cut) (node : Node) : Properties :=
  if node.reference? cut.name = some cut.goal then
    node.properties.filter fun property => property.name ≠ cut.name.toList
  else node.properties

def Cut.isHolder (cut : Cut) (node : Node) : Bool :=
  node.kind == cut.kind && cut.holders.contains node.id

mutual

/-- An element with the references inside of it cut off; `inside` tells whether it is in one of those
in which they are. -/
def Cut.apply (cut : Cut) (inside : Bool) : Node → Node
  | ⟨kind, properties, fontSize, around, children⟩ =>
    let node : Node := ⟨kind, properties, fontSize, around, []⟩
    let inside := inside || cut.isHolder node
    ⟨kind, if inside then cut.clear node else properties, fontSize, around,
      cut.applyAll inside children⟩

def Cut.applyAll (cut : Cut) (inside : Bool) : List Node → List Node
  | [] => []
  | node :: nodes => cut.apply inside node :: cut.applyAll inside nodes

end

/-- A drawing in which an element of a kind is not referred to from inside of it, nor from inside of
those of its kind that are referred to there. -/
def Node.cutLoopsOf (root : Node) (kind : Kind) (name : String) (goal : List Char) : Node :=
  let inside := ((root.all.filter fun node => node.kind == kind && node.id == goal).flatMap Node.all)
  let others := inside.filterMap (·.reference? name)
  (⟨name, goal, kind, goal :: others⟩ : Cut).apply false root

/-- A drawing without the loops of the references under a name to elements of a kind. -/
def Node.cutLoops (root : Node) (kind : Kind) (name : String) : Node :=
  let goals := (root.all.filter fun node => node.kind == kind && !node.id.isEmpty).map (·.id)
  goals.foldl (fun root goal => root.cutLoopsOf kind name goal) root

def Node.withoutLoops (root : Node) : Node :=
  (root.cutLoops .clipPath "clip-path").cutLoops .mask "mask"

end SlidePress.Svg
