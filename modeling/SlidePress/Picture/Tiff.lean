import SlidePress.Picture.Reading

/-!
Pictures described by a directory of tags. A tag has numbers, which stand in the directory if there
is room for them and elsewhere in the file if there is not.
-/

namespace SlidePress.Picture.Tiff

/-- How the numbers of a file are written. -/
structure Layout where
  isHighFirst : Bool
  /-- Whether places in the file are numbers of eight bytes and not of four. -/
  isLong : Bool

namespace Layout

def number (layout : Layout) (count : Nat) : Reading Nat :=
  if layout.isHighFirst then Reading.high count else Reading.low count

def placeBytes (layout : Layout) : Nat :=
  if layout.isLong then 8 else 4

end Layout

def typeBytes? : Nat → Option Nat
  | 1 | 2 | 6 | 7 => some 1
  | 3 | 8 => some 2
  | 4 | 9 | 11 | 13 => some 4
  | 5 | 10 | 12 | 16 | 17 | 18 => some 8
  | _ => none

/-- The types of texts, of fractions, and of bytes without a meaning. -/
def textType : Nat := 2
def fractionType : Nat := 5
def opaqueType : Nat := 7

def countTypes : List Nat := [1, 3, 4, 16]
def placeTypes : List Nat := [13, 18]

/-- A tag in a directory. -/
structure Entry where
  tag : Nat
  type : Nat
  /-- The bytes of one number. -/
  width : Nat
  count : Nat
  /-- The numbers, or the place where they are. -/
  field : List UInt8

/-- Reads an entry; one of an unknown type is passed over. -/
def Entry.read (layout : Layout) : Reading (Option Entry) := do
  let tag ← layout.number 2
  let type ← layout.number 2
  match typeBytes? type with
  | none =>
    Reading.skip 8
    return none
  | some width =>
    let count ← layout.number layout.placeBytes
    return some { tag, type, width, count, field := ← Reading.bytes layout.placeBytes }

/-- A file with its directory; of two entries with one tag the last one counts. -/
structure Directory where
  layout : Layout
  file : List UInt8
  entries : List Entry

/-- Reads so many entries; the last one comes first. -/
def readEntries (layout : Layout) : (count : Nat) → List Entry → Reading (List Entry)
  | 0, entries => return entries
  | count + 1, entries => do
    match ← Entry.read layout with
    | some entry => readEntries layout count (entry :: entries)
    | none => readEntries layout count entries

def Directory.read : Reading Directory := do
  let file ← get
  let mark ← Reading.bytes 2
  guard (mark = ascii "II" ∨ mark = ascii "MM")
  let isHighFirst : Bool := mark = ascii "MM"
  let version ← Layout.number ⟨isHighFirst, false⟩ 2
  guard (version = 42 ∨ version = 43)
  let layout : Layout := ⟨isHighFirst, version = 43⟩
  if layout.isLong then
    guard ((← layout.number 2) = 8)
    guard ((← layout.number 2) = 0)
  let place ← layout.number layout.placeBytes
  guard (place ≠ 0)
  set (file.drop place)
  let count ← layout.number (if layout.isLong then 8 else 2)
  guard (count ≤ file.length)
  let entries ← readEntries layout count []
  Reading.skip layout.placeBytes
  return { layout, file, entries }

def readNumbers (layout : Layout) (width : Nat) : (count : Nat) → Reading (List Nat)
  | 0 => return []
  | count + 1 => return (← layout.number width) :: (← readNumbers layout width count)

/-- The bytes of a text in an entry, where it ends with a zero, without the zeros around it. -/
def shortText? (field : List UInt8) : Option (List UInt8) :=
  if field.all (· < 0x80) ∧ field.getLast? = some 0 then
    some (((field.dropWhile (· = 0)).reverse.dropWhile (· = 0)).reverse)
  else none

def mostNumbers : Nat := 32768

namespace Directory

def find? (directory : Directory) (tag : Nat) : Option Entry :=
  directory.entries.find? (·.tag == tag)

def isInside (directory : Directory) (entry : Entry) : Bool :=
  entry.width * entry.count ≤ directory.layout.placeBytes

def readAt? {α : Type} (directory : Directory) (entry : Entry) (reading : Reading α) : Option α :=
  if directory.isInside entry then reading.run' entry.field
  else do
    guard (entry.width * entry.count ≤ directory.file.length)
    let place ← (directory.layout.number directory.layout.placeBytes).run' entry.field
    reading.runAt place directory.file

/-- The bytes of the text of an entry. One that stands elsewhere ends at the first zero. -/
def text? (directory : Directory) (entry : Entry) : Option (List UInt8) := do
  let bytes ← directory.readAt? entry (Reading.bytes entry.count)
  if directory.isInside entry then shortText? bytes else return bytes.takeWhile (· ≠ 0)

/-- The numbers of an entry. A fraction that stands alone has two numbers, and a text has those of its
characters. -/
def numbers? (directory : Directory) (entry : Entry) : Option (List Nat) :=
  let read := readNumbers directory.layout
  if entry.count = 0 then some []
  else if entry.type = textType then
    (directory.text? entry).bind fun bytes =>
      (String.fromUTF8? ⟨bytes.toArray⟩).map fun text => text.toList.map (·.toNat)
  else if entry.type = fractionType ∧ entry.count = 1 then directory.readAt? entry (read 4 2)
  else if entry.type ∈ countTypes ++ placeTypes then
    if directory.isInside entry ∨ entry.count ≤ mostNumbers then
      directory.readAt? entry (read entry.width entry.count)
    else none
  else none

/-- The numbers of a tag, up to a limit; a tag that is not there has those of `default`. -/
def list? (directory : Directory) (tag limit : Nat) (default : List Nat) : Option (List Nat) :=
  match directory.find? tag with
  | none => some default
  | some entry => (directory.numbers? entry).filter (·.all (· ≤ limit))

def needed? (directory : Directory) (tag limit : Nat) (types : List Nat) : Option Nat := do
  let entry ← directory.find? tag
  guard (entry.type ∈ types ∧ entry.count = 1)
  let numbers ← directory.numbers? entry
  numbers.head?.filter (· ≤ limit)

/-- The one number of a tag, up to a limit; a tag that is not there has the number `default`. -/
def number? (directory : Directory) (tag limit : Nat) (types : List Nat) (default : Nat) :
    Option Nat :=
  if (directory.find? tag).isSome then directory.needed? tag limit types else some default

end Directory

def largestShort : Nat := 0xFFFF
def largestLong : Nat := 0xFFFFFFFF
def largestPlace : Nat := 0xFFFFFFFFFFFFFFFF

/-- The bits that samples can have, by what the samples stand for and by their number. -/
def sampleBits : (meaning samples : Nat) → List Nat
  | 0, 1 | 1, 1 => [8, 16]
  | 2, 3 | 2, 4 => [8, 16, 32]
  | 5, 4 => [8]
  | _, _ => []

/-- The bytes of a tag without a meaning of their own, of which there have to be two at least. -/
def Directory.hasBytes (directory : Directory) (tag : Nat) : Bool :=
  match directory.find? tag with
  | none => true
  | some entry =>
    entry.type == opaqueType && decide (2 ≤ entry.count) &&
      (directory.readAt? entry (Reading.skip entry.count)).isSome

def packedWithTables : Nat := 7

def isOneOf (numbers allowed : List Nat) : Bool :=
  allowed.any fun n => numbers.all (· == n)

/-- The number of strips or tiles that hold one plane, and the tags of their places and sizes. There
are strips or tiles, and never both. -/
def pieces? (directory : Directory) (dimensions : Dimensions) : Option (Nat × Nat × Nat) := do
  let types := countTypes ++ placeTypes
  let has (tag : Nat) : Bool := (directory.find? tag).isSome
  match has 279, has 273, has 325, has 324 with
  | true, true, false, false =>
    let rows ← directory.number? 278 largestLong types dimensions.2
    guard (0 < rows)
    return (parts dimensions.2 rows, 273, 279)
  | false, false, true, true =>
    let width ← directory.needed? 322 largestLong types
    let height ← directory.needed? 323 largestLong types
    guard (0 < width ∧ 0 < height)
    return (parts dimensions.1 width * parts dimensions.2 height, 324, 325)
  | _, _, _, _ => none

/-- The dimensions that a directory tells of, if its tags go together. -/
def dimensionsOf? (directory : Directory) : Option Dimensions := do
  let width ← directory.needed? 256 largestLong (countTypes ++ placeTypes)
  let height ← directory.needed? 257 largestLong (countTypes ++ placeTypes)
  guard (0 < width ∧ 0 < height)
  let meaning ← directory.needed? 262 largestShort countTypes
  let packing ← directory.number? 259 largestShort countTypes 1
  guard (packing ≠ packedWithTables ∨ directory.hasBytes 347)
  let samples ← directory.number? 277 largestShort countTypes 1
  let formats ← directory.list? 339 largestShort [1]
  guard (formats.all (· = 1))
  let bits ← directory.list? 258 0xFF [1]
  guard (bits.length = samples ∨ bits.length = 1)
  guard (isOneOf bits (sampleBits meaning samples))
  guard ((← directory.number? 317 largestShort countTypes 1) ∈ [1, 2, 3])
  let planes ← directory.number? 284 largestShort countTypes 1
  guard (planes = 1 ∨ planes = 2)
  let (count, places, sizes) ← pieces? directory (width, height)
  let count := if planes = 2 then count * samples else count
  guard ((← directory.list? places largestPlace []).length = count)
  guard ((← directory.list? sizes largestPlace []).length = count)
  return (width, height)

def read : Reading Dimensions := do
  StateT.lift (dimensionsOf? (← Directory.read))

end SlidePress.Picture.Tiff
