import Mathlib.Data.List.Nodup
import SlidePress.Proofs.MarkupReading
import SlidePress.Xml.Entity

/-! The grammar of documents: one element with all that is inside of it between tags that fit together,
and nothing around it but comments, instructions and white space. There is no declaration of a type.
What a document may have anywhere is a matter of single characters and stands beside the grammar. -/

namespace SlidePress.Xml

def IsBlank (text : List Char) : Prop := ∀ c ∈ text, isSpace c = true

def isName (name : List Char) : Bool := name.head?.any isNameStart && name.all isNameChar

/-- A reference to a character that has a name, or to one by its code point. -/
inductive IsReference : List Char → Prop
  | named {name : List Char} (known : name ∈ namedChars.map (·.1)) : IsReference ('&' :: (name ++ [';']))
  | decimal {c : Char} (allowed : isAllowed c = true) (zeros : Nat) :
    IsReference ('&' :: '#' :: (List.replicate zeros '0' ++ Nat.toDigits 10 c.toNat ++ [';']))
  | hexadecimal {c : Char} {digits : List Char} (allowed : isAllowed c = true) (zeros : Nat)
    (spelled : digits.map Char.toLower = Nat.toDigits 16 c.toNat) :
    IsReference ('&' :: '#' :: 'x' :: (List.replicate zeros '0' ++ digits ++ [';']))

/-- What stands between two quotes of one kind. -/
inductive IsValue (quote : Char) : List Char → Prop
  | nil : IsValue quote []
  | char {c : Char} {text : List Char} (plain : c ∉ ['<', '&', quote]) (rest : IsValue quote text) :
    IsValue quote (c :: text)
  | reference {written text : List Char} (known : IsReference written) (rest : IsValue quote text) :
    IsValue quote (written ++ text)

inductive IsAssignment (name : List Char) (value : Char → List Char → Prop) : List Char → Prop
  | quoted {front back inside : List Char} {quote : Char} (space : IsBlank front) (space' : IsBlank back)
    (known : quote ∈ ['"', '\'']) (given : value quote inside) :
    IsAssignment name value (name ++ (front ++ '=' :: (back ++ quote :: (inside ++ [quote]))))

/-- Assignments to different names, with white space in front of each. -/
inductive IsAttributes : List (List Char) → List Char → Prop
  | nil {space : List Char} (blank : IsBlank space) : IsAttributes [] space
  | cons {names : List (List Char)} {name space item text : List Char} (gap : space ≠ [])
    (blank : IsBlank space) (named : isName name = true) (other : name ∉ names)
    (given : IsAssignment name IsValue item) (rest : IsAttributes names text) :
    IsAttributes (name :: names) (space ++ (item ++ text))

structure IsRun (run : List Char) : Prop where
  closed : '<' ∉ run
  plain : '&' ∉ run
  inside : ¬[']', ']', '>'] <:+: run

inductive IsAside : List Char → Prop
  | comment {inside : List Char} (single : ¬['-', '-'] <:+: inside) (last : inside.getLast? ≠ some '-') :
    IsAside ("<!--".toList ++ inside ++ "-->".toList)
  | instruction {name inside : List Char} (named : isName name = true)
    (other : name.map Char.toLower ≠ "xml".toList) (apart : inside.head?.all isSpace = true)
    (whole : ¬['?', '>'] <:+: inside) : IsAside ("<?".toList ++ name ++ inside ++ "?>".toList)

mutual

inductive IsElement : List Char → Prop
  | single {name given : List Char} {names : List (List Char)} (named : isName name = true)
    (attributes : IsAttributes names given) : IsElement ('<' :: (name ++ (given ++ ['/', '>'])))
  | pair {name given content space : List Char} {names : List (List Char)} (named : isName name = true)
    (attributes : IsAttributes names given) (inside : IsContent content) (blank : IsBlank space) :
    IsElement ('<' :: (name ++ (given ++ '>' :: (content ++ '<' :: '/' :: (name ++ (space ++ ['>']))))))

/-- What stands between the tags of an element. -/
inductive IsContent : List Char → Prop
  | run {run : List Char} (plain : IsRun run) : IsContent run
  | element {run element rest : List Char} (plain : IsRun run) (inside : IsElement element)
    (behind : IsContent rest) : IsContent (run ++ (element ++ rest))
  | reference {run written rest : List Char} (plain : IsRun run) (known : IsReference written)
    (behind : IsContent rest) : IsContent (run ++ (written ++ rest))
  | literal {run inside rest : List Char} (plain : IsRun run) (whole : ¬[']', ']', '>'] <:+: inside)
    (behind : IsContent rest) :
    IsContent (run ++ ("<![CDATA[".toList ++ inside ++ "]]>".toList ++ rest))
  | aside {run aside rest : List Char} (plain : IsRun run) (inside : IsAside aside)
    (behind : IsContent rest) : IsContent (run ++ (aside ++ rest))

end

/-- What stands around the outermost element. -/
inductive IsMisc : List Char → Prop
  | nil : IsMisc []
  | space {c : Char} {text : List Char} (blank : isSpace c = true) (rest : IsMisc text) : IsMisc (c :: text)
  | aside {aside text : List Char} (inside : IsAside aside) (rest : IsMisc text) : IsMisc (aside ++ text)

def IsSetting (name : String) (value : List Char → Prop) (text : List Char) : Prop :=
  ∃ space item, space ≠ [] ∧ IsBlank space ∧ IsAssignment name.toList (fun _ => value) item ∧
    text = space ++ item

def IsVersion (value : List Char) : Prop :=
  ∃ digits, digits ≠ [] ∧ digits.all Char.isDigit = true ∧ value = '1' :: '.' :: digits

def IsEncoding (value : List Char) : Prop :=
  value.head?.any Char.isAlpha = true ∧
    value.all (fun c => c.isAlphanum || ['.', '_', '-'].contains c) = true

inductive IsDeclaration : List Char → Prop
  | declaration {version encoding standalone space : List Char}
    (versioned : IsSetting "version" IsVersion version)
    (encoded : encoding = [] ∨ IsSetting "encoding" IsEncoding encoding)
    (alone : standalone = [] ∨ IsSetting "standalone" (· ∈ ["yes".toList, "no".toList]) standalone)
    (blank : IsBlank space) :
    IsDeclaration ("<?xml".toList ++ version ++ encoding ++ standalone ++ space ++ "?>".toList)

inductive IsDocument : List Char → Prop
  | document {declaration front root back : List Char}
    (declared : declaration = [] ∨ IsDeclaration declaration) (before : IsMisc front)
    (element : IsElement root) (behind : IsMisc back) :
    IsDocument (declaration ++ (front ++ (root ++ back)))

/-! Trees that are written as the grammar has it. -/

def Value.isSound : Value → Bool
  | .text _ => true
  | .codePoint char => isAllowed char

mutual

/-- Whether all names in a node are names, and those of the attributes of an element are different. -/
def Node.isSound : Node → Bool
  | .text _ => true
  | .element name attributes children =>
    isName name.toList && attributes.all (fun item => isName item.name.toList && item.value.isSound) &&
      decide (attributes.map (·.name.toList)).Nodup && areSound children

def areSound : List Node → Bool
  | [] => true
  | node :: nodes => node.isSound && areSound nodes

end

private theorem areSound_eq_all (nodes : List Node) : areSound nodes = nodes.all Node.isSound := by
  induction nodes with
  | nil => rfl
  | cons node nodes ih => rw [areSound, ih, List.all_cons]

/-- The names of an element and of its attributes. -/
def areNames (name : String) (keys : List String) : Bool :=
  isName name.toList && keys.all (isName ·.toList) && decide keys.Nodup

theorem Node.isSound_tag (name : String) (attributes : List (String × String)) (children : List Node) :
    (tag name attributes children).isSound =
      (areNames name (attributes.map (·.1)) && children.all isSound) := by
  have keys : (attributes.map (·.1.toList)).Nodup ↔ (attributes.map (·.1)).Nodup := by
    rw [← Function.comp_def String.toList, ← List.map_map]
    exact List.nodup_map_iff fun first second => String.toList_inj.mp
  simp [tag, isSound, areNames, areSound_eq_all, Value.isSound, Function.comp_def, keys]

theorem isBlank_nil : IsBlank [] := fun _ none => nomatch none

private theorem isBlank_space : IsBlank [' '] := by
  intro c blank
  obtain rfl := List.mem_singleton.mp blank
  rfl

private theorem isReference_escapeChar {c : Char} (special : c ∈ ['<', '>', '&', '\'', '"']) :
    IsReference (escapeChar c) := by
  simp only [List.mem_cons, List.not_mem_nil, or_false] at special
  obtain rfl | rfl | rfl | rfl | rfl := special
  · exact @IsReference.named ['l', 't'] (by decide)
  · exact @IsReference.named ['g', 't'] (by decide)
  · exact @IsReference.named ['a', 'm', 'p'] (by decide)
  · exact @IsReference.named ['a', 'p', 'o', 's'] (by decide)
  · exact @IsReference.named ['q', 'u', 'o', 't'] (by decide)

private theorem escapeChar_plain {c : Char} (plain : c ∉ ['<', '>', '&', '\'', '"']) : escapeChar c = [c] := by
  simp only [List.mem_cons, List.not_mem_nil, or_false, not_or] at plain
  simp [escapeChar, plain]

private theorem isValue_escape (text : List Char) : IsValue '"' (escape text) := by
  induction text with
  | nil => exact .nil
  | cons c text ih =>
    rw [escape, List.flatMap_cons]
    by_cases special : c ∈ ['<', '>', '&', '\'', '"']
    · exact .reference (isReference_escapeChar special) ih
    · rw [escapeChar_plain special]
      refine .char (fun stop => special ?_) ih
      simp only [List.mem_cons, List.not_mem_nil, or_false] at stop ⊢
      obtain rfl | rfl | rfl := stop <;> simp

private theorem isValue_chars {value : Value} (sound : value.isSound = true) : IsValue '"' value.chars := by
  cases value with
  | text content => exact isValue_escape content.toList
  | codePoint char =>
    have known : IsReference (Value.codePoint char).chars := .decimal sound 0
    rw [← List.append_nil (Value.codePoint char).chars]
    exact .reference known .nil

private theorem isAttributes_chars {attributes : List Attribute}
    (sound : attributes.all (fun item => isName item.name.toList && item.value.isSound) = true)
    (distinct : (attributes.map (·.name.toList)).Nodup) :
    IsAttributes (attributes.map (·.name.toList)) (attributeChars attributes) := by
  induction attributes with
  | nil => exact .nil isBlank_nil
  | cons item attributes ih =>
    rw [List.all_cons, Bool.and_eq_true, Bool.and_eq_true] at sound
    rw [List.map_cons, List.nodup_cons] at distinct
    have given : IsAssignment item.name.toList IsValue
        (item.name.toList ++ ([] ++ '=' :: ([] ++ '"' :: (item.value.chars ++ ['"'])))) :=
      .quoted isBlank_nil isBlank_nil (by decide) (isValue_chars sound.1.2)
    have all := IsAttributes.cons (List.cons_ne_nil ' ' []) isBlank_space sound.1.1 distinct.1 given
      (ih sound.2 distinct.2)
    simpa [attributeChars, Attribute.chars] using all

/-- What can stand behind any run of characters without brackets and references. -/
def Follows (rest : List Char) : Prop :=
  ∀ run : List Char, (∀ c ∈ run, c ∉ ['<', '>', '&']) → IsContent (run ++ rest)

private theorem isRun_of_plain {run : List Char} (plain : ∀ c ∈ run, c ∉ ['<', '>', '&']) : IsRun run := by
  refine ⟨fun stop => plain _ stop (by decide), fun stop => plain _ stop (by decide), fun inside => ?_⟩
  exact plain '>' (inside.subset (by decide)) (by decide)

namespace Follows
variable {rest : List Char}

theorem nil : Follows [] := fun run plain => by
  rw [List.append_nil]
  exact .run (isRun_of_plain plain)

theorem char {c : Char} (plain : c ∉ ['<', '>', '&']) (behind : Follows rest) : Follows (c :: rest) := by
  intro run free
  rw [List.append_cons]
  refine behind (run ++ [c]) fun other member => ?_
  obtain inside | last := List.mem_append.mp member
  · exact free other inside
  · obtain rfl := List.mem_singleton.mp last
    exact plain

theorem content (behind : Follows rest) : IsContent rest := behind [] fun _ none => nomatch none

theorem escape (text : List Char) (behind : Follows rest) : Follows (Xml.escape text ++ rest) := by
  induction text with
  | nil => exact behind
  | cons c text ih =>
    rw [Xml.escape, List.flatMap_cons, List.append_assoc]
    by_cases special : c ∈ ['<', '>', '&', '\'', '"']
    · exact fun run plain =>
        .reference (isRun_of_plain plain) (isReference_escapeChar special) ih.content
    · rw [escapeChar_plain special]
      refine char (fun stop => special ?_) ih
      simp only [List.mem_cons, List.not_mem_nil, or_false] at stop ⊢
      obtain rfl | rfl | rfl := stop <;> simp

theorem element {written : List Char} (inside : IsElement written) (behind : Follows rest) :
    Follows (written ++ rest) :=
  fun _ plain => .element (isRun_of_plain plain) inside behind.content

end Follows

/-- An element follows the grammar if what is inside of it does. -/
theorem isElement_chars {name : String} {attributes : List Attribute} {children : List Node}
    (sound : (Node.element name attributes children).isSound = true)
    (content : IsContent (charsOf children)) : IsElement (Node.element name attributes children).chars := by
  simp only [Node.isSound, Bool.and_eq_true, decide_eq_true_eq] at sound
  have given := isAttributes_chars sound.1.1.2 sound.1.2
  cases children with
  | nil => simpa [Node.chars] using IsElement.single sound.1.1.1 given
  | cons child children =>
    have written := IsElement.pair sound.1.1.1 given content isBlank_nil
    simpa [Node.chars, charsOf] using written

mutual

private theorem follows_chars {node : Node} (sound : node.isSound = true) {rest : List Char}
    (behind : Follows rest) : Follows (node.chars ++ rest) :=
  match node with
  | .text content => behind.escape content.toList
  | .element name attributes children => by
    have inside : areSound children = true := by
      rw [Node.isSound, Bool.and_eq_true] at sound
      exact sound.2
    have content := follows_charsOf inside .nil
    rw [List.append_nil] at content
    exact behind.element (isElement_chars sound content.content)

private theorem follows_charsOf {nodes : List Node} (sound : areSound nodes = true) {rest : List Char}
    (behind : Follows rest) : Follows (charsOf nodes ++ rest) :=
  match nodes with
  | [] => behind
  | node :: nodes => by
    rw [areSound, Bool.and_eq_true] at sound
    rw [charsOf, List.append_assoc]
    exact follows_chars sound.1 (follows_charsOf sound.2 behind)

end

private theorem isSetting_quoted {name value : String} {allows : List Char → Prop}
    (allowed : allows value.toList) : IsSetting name allows
      (' ' :: (name.toList ++ ([] ++ '=' :: ([] ++ '"' :: (value.toList ++ ['"']))))) := by
  refine ⟨[' '], _, List.cons_ne_nil ' ' [], isBlank_space, ?_, rfl⟩
  exact .quoted isBlank_nil isBlank_nil (by decide) allowed

private theorem isDeclaration_written :
    ∃ written, IsDeclaration written ∧ declaration.toList = written ++ ['\n'] := by
  have version : IsVersion "1.0".toList := ⟨['0'], by decide, by decide, by decide⟩
  have encoding : IsEncoding "UTF-8".toList := ⟨by decide, by decide⟩
  have alone : "yes".toList ∈ ["yes".toList, "no".toList] := by decide
  refine ⟨_, .declaration (isSetting_quoted version) (Or.inr (isSetting_quoted encoding))
    (Or.inr (isSetting_quoted alone)) isBlank_nil, ?_⟩
  decide +kernel

/-- A document with a sound element follows the grammar, whatever texts and values it has. -/
theorem isDocument_document {name : String} {attributes : List Attribute} {children : List Node}
    (sound : (Node.element name attributes children).isSound = true) :
    IsDocument (document (.element name attributes children)).toList := by
  obtain ⟨written, declared, front⟩ := isDeclaration_written
  have inside : areSound children = true := by
    rw [Node.isSound, Bool.and_eq_true] at sound
    exact sound.2
  have content := (follows_charsOf inside .nil).content
  rw [List.append_nil] at content
  have whole := IsDocument.document (Or.inr declared) (.space rfl .nil : IsMisc ['\n'])
    (isElement_chars sound content) .nil
  simpa [document, front] using whole

/-! Names that can be read back. -/

private theorem isPlainName_of_isName {name : String} (named : isName name.toList = true) :
    isPlainName name = true := by
  rw [isName, Bool.and_eq_true] at named
  have reserved : reservedChars.all (!isNameChar ·) = true := by decide
  refine isPlainName_iff.mpr ⟨fun none => ?_, fun c member special => ?_⟩
  · rw [none] at named
    exact absurd named.1 (by decide)
  · have other := List.all_eq_true.mp reserved c special
    rw [List.all_eq_true.mp named.2 c member] at other
    exact Bool.false_ne_true other

mutual

theorem Node.isPlain_of_isSound {node : Node} (sound : node.isSound = true) : node.isPlain = true :=
  match node with
  | .text _ => rfl
  | .element name attributes children => by
    simp only [Node.isSound, Bool.and_eq_true] at sound
    have items : attributes.all (isPlainName ·.name) = true := by
      refine List.all_eq_true.mpr fun item member => isPlainName_of_isName ?_
      have named := List.all_eq_true.mp sound.1.1.2 item member
      rw [Bool.and_eq_true] at named
      exact named.1
    rw [Node.isPlain, isPlainName_of_isName sound.1.1.1, items, arePlain_of_areSound sound.2]
    rfl

private theorem arePlain_of_areSound {nodes : List Node} (sound : areSound nodes = true) :
    arePlain nodes = true :=
  match nodes with
  | [] => rfl
  | node :: nodes => by
    rw [areSound, Bool.and_eq_true] at sound
    rw [arePlain, Node.isPlain_of_isSound sound.1, arePlain_of_areSound sound.2]
    rfl

end

end SlidePress.Xml
