import SlidePress.Css.Selector

/-!
Style sheets: rules of selectors and declarations. What a sheet says about an element is said in
the order of the weights of its selectors, and in the order of the sheet where these are equal.
-/

namespace SlidePress.Css

structure Rule where
  selector : Selector
  declarations : List Declaration
  deriving Repr

/-- Passes over a rule that is no list of declarations, behind its sign. -/
def skipAtRule (text : List Char) : List Char :=
  let name := spanIdent text
  if !name.isSound then name.rest
  else
    let rest := name.rest.dropWhile fun c => c ≠ ';' ∧ c ≠ '\x7b'
    match rest with
    | ';' :: rest => rest
    | rest => skipBlock 0 rest

/-- Reads the selectors in front of a block. What is no selector is passed over. -/
def readSelectors : (fuel : Nat) → (found : List Selector) → List Char → List Selector × List Char
  | 0, found, text => (found, text)
  | fuel + 1, found, text =>
    let (selector?, rest) := readSelector text
    let found := found ++ selector?.toList
    match rest.dropWhile isSpace with
    | ',' :: rest => readSelectors fuel found rest
    | rest => (found, rest.dropWhile (· ≠ '\x7b'))

def readRules (text : List Char) : List Rule × List Char :=
  let (selectors, rest) := readSelectors (text.length + 1) [] text
  match rest with
  | [] => ([], [])
  | _ :: inside =>
    let (declarations, rest) := readDeclarations (inside.length + 1) inside
    let rest := match rest with
      | '}' :: rest => rest
      | rest => rest
    if declarations.isEmpty then ([], rest) else (selectors.map (⟨·, declarations⟩), rest)

def readSheet : (fuel : Nat) → List Char → List Rule
  | 0, _ => []
  | fuel + 1, text =>
    match afterGap? text with
    | none | some [] => []
    | some ('@' :: rest) => readSheet fuel (skipAtRule rest)
    | some text =>
      let (rules, rest) := readRules text
      rules ++ readSheet fuel rest

def weightNotAfter : List Nat → List Nat → Bool
  | m :: ms, n :: ns => m < n || (m == n && weightNotAfter ms ns)
  | _, _ => true

def sheetTexts (document : Xml.Document) : List (List Char) :=
  document.elements.toList.filterMap fun element =>
    let kind := (element.attribute? "type").getD "text/css".toList
    if element.name.own = "style".toList ∧ kind = "text/css".toList then
      element.frontText?
    else none

/-- The rules of a document, those of less weight first. -/
def rulesOf (document : Xml.Document) : List Rule :=
  ((sheetTexts document).flatMap fun text => readSheet (text.length + 1) text).mergeSort
    fun one other => weightNotAfter one.selector.weight other.selector.weight

end SlidePress.Css
