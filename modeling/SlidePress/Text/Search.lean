/-!
Finding a text inside another one: at the front, anywhere, and everywhere.
-/

namespace SlidePress.Text

def after? : (marker text : List Char) → Option (List Char)
  | [], text => some text
  | _ :: _, [] => none
  | m :: marker, c :: text => if m = c then after? marker text else none

def startsWith (marker text : List Char) : Bool :=
  (after? marker text).isSome

def endsWith (marker text : List Char) : Bool :=
  startsWith marker.reverse text.reverse

/-- Whether `part` occurs somewhere in the text; the empty text occurs in every text. -/
def occursIn (part : List Char) : List Char → Bool
  | [] => startsWith part []
  | c :: text => startsWith part (c :: text) || occursIn part text

/-- Writes `new` for every occurrence of `old`, from the left and without looking at what has
been written. The text is read with `skip` characters of an occurrence still to be passed over. -/
def replaceFrom (old new : List Char) : (skip : Nat) → List Char → List Char
  | _, [] => []
  | skip + 1, _ :: text => replaceFrom old new skip text
  | 0, c :: text =>
    if startsWith old (c :: text) then
      new ++ replaceFrom old new (old.length - 1) text
    else
      c :: replaceFrom old new 0 text

/-- Writes `new` for every occurrence of the non-empty text `old`. -/
def replaceAll (old new text : List Char) : List Char :=
  replaceFrom old new 0 text

def contains (text part : String) : Bool :=
  occursIn part.toList text.toList

end SlidePress.Text
