/-!
Cutting a text at a character and joining it again. The pieces of a text are never an empty list:
a text without the character is one piece, and a cut at the very end leaves an empty last piece.
-/

namespace SlidePress.Text

def pieces (cut : Char) : List Char → List (List Char)
  | [] => [[]]
  | c :: rest =>
    if c = cut then
      [] :: pieces cut rest
    else
      match pieces cut rest with
      | [] => [[c]]
      | piece :: others => (c :: piece) :: others

/-- The pieces one after another with `glue` between neighbours. -/
def joined (glue : Char) : List (List Char) → List Char
  | [] => []
  | [piece] => piece
  | piece :: others => piece ++ glue :: joined glue others

/-- A line without the carriage return that may stand before its line feed. -/
def withoutReturn (line : List Char) : List Char :=
  match line.reverse with
  | '\r' :: rest => rest.reverse
  | _ => line

/-- The lines of a text that ends its lines with a line feed or with a carriage return and a line
feed. A text that ends with its last line feed has no empty line after it, and a carriage return
at the very end belongs to its line. -/
def lines (text : List Char) : List (List Char) :=
  go (pieces '\n' text)
where
  go : List (List Char) → List (List Char)
    | [] => []
    | [last] => if last.isEmpty then [] else [last]
    | line :: others => withoutReturn line :: go others

end SlidePress.Text
