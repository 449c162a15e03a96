import SlidePress.Svg.Transform

/-!
Colors as they are written: a name, the digits of their parts, or a function of numbers. Which color
it is does not matter here.
-/

namespace SlidePress.Svg

def colorNames : List String := [
  "aliceblue", "antiquewhite", "aqua", "aquamarine", "azure", "beige", "bisque", "black",
  "blanchedalmond", "blue", "blueviolet", "brown", "burlywood", "cadetblue", "chartreuse",
  "chocolate", "coral", "cornflowerblue", "cornsilk", "crimson", "cyan", "darkblue", "darkcyan",
  "darkgoldenrod", "darkgray", "darkgreen", "darkgrey", "darkkhaki", "darkmagenta",
  "darkolivegreen", "darkorange", "darkorchid", "darkred", "darksalmon", "darkseagreen",
  "darkslateblue", "darkslategray", "darkslategrey", "darkturquoise", "darkviolet", "deeppink",
  "deepskyblue", "dimgray", "dimgrey", "dodgerblue", "firebrick", "floralwhite", "forestgreen",
  "fuchsia", "gainsboro", "ghostwhite", "gold", "goldenrod", "gray", "grey", "green",
  "greenyellow", "honeydew", "hotpink", "indianred", "indigo", "ivory", "khaki", "lavender",
  "lavenderblush", "lawngreen", "lemonchiffon", "lightblue", "lightcoral", "lightcyan",
  "lightgoldenrodyellow", "lightgray", "lightgreen", "lightgrey", "lightpink", "lightsalmon",
  "lightseagreen", "lightskyblue", "lightslategray", "lightslategrey", "lightsteelblue",
  "lightyellow", "lime", "limegreen", "linen", "magenta", "maroon", "mediumaquamarine",
  "mediumblue", "mediumorchid", "mediumpurple", "mediumseagreen", "mediumslateblue",
  "mediumspringgreen", "mediumturquoise", "mediumvioletred", "midnightblue", "mintcream",
  "mistyrose", "moccasin", "navajowhite", "navy", "oldlace", "olive", "olivedrab", "orange",
  "orangered", "orchid", "palegoldenrod", "palegreen", "paleturquoise", "palevioletred",
  "papayawhip", "peachpuff", "peru", "pink", "plum", "powderblue", "purple", "red", "rosybrown",
  "royalblue", "saddlebrown", "salmon", "sandybrown", "seagreen", "seashell", "sienna", "silver",
  "skyblue", "slateblue", "slategray", "slategrey", "snow", "springgreen", "steelblue", "tan",
  "teal", "thistle", "tomato", "transparent", "turquoise", "violet", "wheat", "white",
  "whitesmoke", "yellow", "yellowgreen"]

def angleUnits : List (List Char × Float) := [
  ("deg".toList, 1), ("grad".toList, 180 / 200), ("rad".toList, 180 / pi), ("turn".toList, 360)]

def readAngle (text : List Char) : Option (Float × List Char) :=
  (readNumber text).map fun (number, rest) =>
    match angleUnits.findSome? fun (unit, degrees) => (Text.after? unit rest).map (degrees, ·) with
    | some (degrees, rest) => (number * degrees, rest)
    | none => (number, rest)

/-- Passes over a number with or without the sign of a percentage, and tells whether it is one. -/
def afterShare? (text : List Char) : Option (Bool × List Char) :=
  (readNumber text).map fun (_, rest) =>
    match rest with
    | '%' :: rest => (true, rest)
    | rest => (false, rest)

/-- Passes over so many shares behind others; all of them are percentages, or none is. -/
def afterShares? (ofHundred : Bool) : (count : Nat) → List Char → Option (List Char)
  | 0, text => some text
  | count + 1, text => do
    let (isPercent, rest) ← afterShare? (afterSeparator text)
    if isPercent = ofHundred then afterShares? ofHundred count rest else none

/-- Passes over the opacity that may stand behind the parts of a color, and over the bracket. -/
def afterOpacity? (text : List Char) : Option (List Char) :=
  match (afterSeparator text).dropWhile isSpace with
  | ')' :: rest => some rest
  | text => do
    let text := match text with
      | '/' :: rest => rest
      | text => text
    let (_, rest) ← afterShare? text
    let ')' :: rest := rest.dropWhile isSpace | none
    return rest

def afterColor? (text : List Char) : Option (List Char) :=
  match text.dropWhile isSpace with
  | '#' :: rest =>
    let digits := rest.takeWhile fun c => c.isDigit || ('a' ≤ c.toLower && c.toLower ≤ 'f')
    if ([3, 4, 6, 8] : List Nat).contains digits.length then some (rest.drop digits.length) else none
  | text =>
    let rest := text.dropWhile isWordChar
    match String.ofList ((text.takeWhile isWordChar).map Char.toLower), rest with
    | "rgb", '(' :: rest | "rgba", '(' :: rest => do
      let (ofHundred, rest) ← afterShare? rest
      afterOpacity? (← afterShares? ofHundred 2 rest)
    | "hsl", '(' :: rest | "hsla", '(' :: rest => do
      let (_, rest) ← readAngle rest
      afterOpacity? (← afterShares? true 2 rest)
    | name, rest => if colorNames.contains name then some rest else none

def isColor (text : List Char) : Bool :=
  (afterColor? text).any (·.all isSpace)

end SlidePress.Svg
