/-!
A package is a list of named parts, in the order in which they are stored. The names are paths
below the root of the package, without a slash in front.
-/

namespace SlidePress

structure Part where
  name : String
  text : String
  deriving DecidableEq, Repr

/-- Parts in the order in which they are stored. -/
structure Package where
  parts : List Part
  deriving DecidableEq, Repr

namespace Package

def names (package : Package) : List String :=
  package.parts.map (·.name)

def text? (package : Package) (name : String) : Option String :=
  (package.parts.find? (·.name == name)).map (·.text)

end Package

end SlidePress
