import SlidePress.Svg.Length

/-!
Affine maps of the plane, and how they are written: as a list of moves, scalings, rotations and
skews, the last of which is done first. Lists are multiplied out in 64 bits and rounded at the end.
-/

namespace SlidePress.Svg

structure Point where
  x : Float32
  y : Float32

/-- The map that takes `(x, y)` to `(sx * x + kx * y + tx, ky * x + sy * y + ty)`. -/
structure Transform where
  sx : Float32 := 1
  ky : Float32 := 0
  kx : Float32 := 0
  sy : Float32 := 1
  tx : Float32 := 0
  ty : Float32 := 0

namespace Transform

def id : Transform := {}

def move (x y : Float32) : Transform :=
  { tx := x, ty := y }

def hasScale (map : Transform) : Bool :=
  map.sx != 1 || map.sy != 1

def hasSkew (map : Transform) : Bool :=
  map.kx != 0 || map.ky != 0

def isId (map : Transform) : Bool :=
  !map.hasScale && !map.hasSkew && map.tx == 0 && map.ty == 0

def sumOfProducts (a b c d : Float32) : Float32 :=
  (a.toFloat * b.toFloat + c.toFloat * d.toFloat).toFloat32

/-- The map that does `inner` first and `outer` then. -/
def comp (outer inner : Transform) : Transform :=
  if outer.isId then inner
  else if inner.isId then outer
  else if !outer.hasSkew && !inner.hasSkew then
    { sx := outer.sx * inner.sx, sy := outer.sy * inner.sy,
      tx := outer.sx * inner.tx + outer.tx, ty := outer.sy * inner.ty + outer.ty }
  else
    { sx := sumOfProducts outer.sx inner.sx outer.kx inner.ky
      ky := sumOfProducts outer.ky inner.sx outer.sy inner.ky
      kx := sumOfProducts outer.sx inner.kx outer.kx inner.sy
      sy := sumOfProducts outer.ky inner.kx outer.sy inner.sy
      tx := sumOfProducts outer.sx inner.tx outer.kx inner.ty + outer.tx
      ty := sumOfProducts outer.ky inner.tx outer.sy inner.ty + outer.ty }

def apply (map : Transform) (p : Point) : Point :=
  if map.isId then p
  else if map.hasSkew then
    ⟨p.x * map.sx + p.y * map.kx + map.tx, p.x * map.ky + p.y * map.sy + map.ty⟩
  else if map.hasScale then ⟨p.x * map.sx + map.tx, p.y * map.sy + map.ty⟩
  else ⟨p.x + map.tx, p.y + map.ty⟩

def leastScale : Float32 := Float32.ofBits 0x34000000

/-- Whether a map leaves anything to be seen: its numbers are finite, and it scales neither
direction to nothing. -/
def isVisible (map : Transform) : Bool :=
  [map.sx, map.ky, map.kx, map.sy, map.tx, map.ty].all Float32.isFinite &&
    leastScale < (map.sx * map.sx + map.kx * map.kx).sqrt &&
    leastScale < (map.ky * map.ky + map.sy * map.sy).sqrt

end Transform

/-- A map with numbers of 64 bits, in the order in which a matrix is written. -/
structure Matrix where
  a : Float := 1
  b : Float := 0
  c : Float := 0
  d : Float := 1
  e : Float := 0
  f : Float := 0

namespace Matrix

/-- The map that does `inner` first and `outer` then. -/
def comp (outer inner : Matrix) : Matrix where
  a := outer.a * inner.a + outer.c * inner.b
  b := outer.b * inner.a + outer.d * inner.b
  c := outer.a * inner.c + outer.c * inner.d
  d := outer.b * inner.c + outer.d * inner.d
  e := outer.a * inner.e + outer.c * inner.f + outer.e
  f := outer.b * inner.e + outer.d * inner.f + outer.f

def toTransform (matrix : Matrix) : Transform :=
  ⟨matrix.a.toFloat32, matrix.b.toFloat32, matrix.c.toFloat32, matrix.d.toFloat32,
    matrix.e.toFloat32, matrix.f.toFloat32⟩

end Matrix

def pi : Float := 3.141592653589793

def radians (degrees : Float) : Float :=
  degrees * (pi / 180)

/-- The matrices of an entry of a list of maps, given its name and its numbers. -/
def matricesOf? (name : String) (numbers : List Float) : Option (List Matrix) :=
  let rotation (angle : Float) : Matrix :=
    let (cosine, sine) := ((radians angle).cos, (radians angle).sin)
    { a := cosine, b := sine, c := -sine, d := cosine }
  match name, numbers with
  | "matrix", [a, b, c, d, e, f] => some [⟨a, b, c, d, e, f⟩]
  | "translate", [x] => some [{ e := x }]
  | "translate", [x, y] => some [{ e := x, f := y }]
  | "scale", [x] => some [{ a := x, d := x }]
  | "scale", [x, y] => some [{ a := x, d := y }]
  | "rotate", [angle] => some [rotation angle]
  | "rotate", [angle, x, y] => some [{ e := x, f := y }, rotation angle, { e := -x, f := -y }]
  | "skewX", [angle] => some [{ c := (radians angle).tan }]
  | "skewY", [angle] => some [{ b := (radians angle).tan }]
  | _, _ => none

/-- How many numbers the entries of a list of maps have at least and at most, by their names. -/
def argumentCounts : List (String × Nat × Nat) := [
  ("matrix", 6, 6), ("translate", 1, 2), ("scale", 1, 2), ("rotate", 1, 3), ("skewX", 1, 1),
  ("skewY", 1, 1)]

/-- Reads the numbers of an entry. Those that may be left out are left out all together. -/
def readArguments (least most : Nat) (text : List Char) : Option (List Float × List Char) := do
  let (numbers, rest) ← readListNumbers least text
  let rest := rest.dropWhile isSpace
  if rest.head? = some ')' ∨ least = most then return (numbers, rest)
  else
    let (more, rest) ← readListNumbers (most - least) rest
    return (numbers ++ more, rest)

def readMatrices : (fuel : Nat) → List Char → Option (List Matrix)
  | 0, _ => none
  | fuel + 1, text =>
    match text.dropWhile isSpace with
    | [] => some []
    | text => do
      let name := String.ofList (text.takeWhile isWordChar)
      let (least, most) ← argumentCounts.lookup name
      let '(' :: rest := (text.dropWhile isWordChar).dropWhile isSpace | none
      let (numbers, rest) ← readArguments least most rest
      let matrices ← matricesOf? name numbers
      let ')' :: rest := rest.dropWhile isSpace | none
      let rest := match rest.dropWhile isSpace with
        | ',' :: rest => rest
        | rest => rest
      return matrices ++ (← readMatrices fuel rest)

def readTransform? (text : List Char) : Option Transform :=
  (readMatrices (text.length + 1) text).map fun matrices =>
    (matrices.foldl Matrix.comp {}).toTransform

end SlidePress.Svg
