import NodeScaling.Yaml.FlowScalar

/-!
The tokens of YAML: the indicators, the ends of block collections, which the indentation tells, and
the scalars with their content. Of the tokens, node properties and directives are read here:
anchors, tags, the version directive and tag handles. Each reader takes the text from the indicator
on and answers what it read and the length of it.
-/
namespace NodeScaling.Yaml

inductive Style where
  | plain
  | singleQuoted
  | doubleQuoted
  | literal
  | folded
  deriving DecidableEq, Repr

/-- The text of a tag, or a part of one, in bytes: escapes can write any byte but the null one, at
which the text ends. -/
abbrev TagText := List UInt8

def TagText.ofAscii (s : String) : TagText :=
  s.toList.map fun c => c.toNat.toUInt8

inductive Token where
  | version (major minor : Nat)
  | tagHandle (handle : String) (expansion : TagText)
  | documentStart
  | documentEnd
  | blockSequenceStart
  | blockMappingStart
  | blockEnd
  | flowSequenceStart
  | flowSequenceEnd
  | flowMappingStart
  | flowMappingEnd
  | blockEntry
  | flowEntry
  | key
  | value
  | alias (name : String)
  | anchor (name : String)
  | tag (handle : String) (suffix : TagText)
  | scalar (text : String) (style : Style)
  deriving DecidableEq, Repr

end NodeScaling.Yaml

namespace NodeScaling.Yaml.Property

def isWordChar (c : Char) : Bool :=
  c.isAlphanum || c == '_' || c == '-'

def isTagChar (c : Char) : Bool :=
  isWordChar c || [';', '/', '?', ':', '@', '&', '=', '+', '$', '.', '!', '~', '*', '\'', '(',
    ')'].contains c

def isDelimitedTagChar (c : Char) : Bool :=
  isTagChar c || c == ',' || c == '[' || c == ']'

def endsAnchor : List Char → Bool
  | [] => true
  | c :: cs => endsWord (c :: cs) || ['?', ':', ',', ']', '\x7d', '%', '@', '\x60'].contains c

def readName? (cs : List Char) : Option (String × Nat) :=
  let name := (cs.drop 1).takeWhile isWordChar
  if name.isEmpty || !endsAnchor (cs.drop (1 + name.length)) then none
  else some (String.ofList name, 1 + name.length)

def sequenceLength? (first : UInt8) : Option Nat :=
  if first < 0x80 then some 1
  else if 0xC0 ≤ first && first < 0xE0 then some 2
  else if 0xE0 ≤ first && first < 0xF0 then some 3
  else if 0xF0 ≤ first && first < 0xF8 then some 4
  else none

def readBytes? : Nat → List Char → Option TagText
  | 0, _ => some []
  | n + 1, '%' :: a :: b :: cs => do
    let high ← Quotation.hexValue? a
    let low ← Quotation.hexValue? b
    let bytes ← readBytes? n cs
    return (16 * high + low).toUInt8 :: bytes
  | _ + 1, _ => none

/-- The bytes of one UTF-8 sequence in percent escapes, told only by the form of each byte, and
the length of the escapes. -/
def readPercent? (cs : List Char) : Option (TagText × Nat) := do
  let first ← (← readBytes? 1 cs).head?
  let length ← sequenceLength? first
  let bytes ← readBytes? length cs
  if bytes.tail.all fun b => 0x80 ≤ b && b < 0xC0 then return (bytes, 3 * length) else none

def readTagChars? (allowed : Char → Bool) : Nat → List Char → Option (TagText × Nat)
  | 0, _ => some ([], 0)
  | steps + 1, cs =>
    match cs with
    | [] => some ([], 0)
    | c :: rest =>
      if c == '%' then
        match readPercent? cs with
        | none => none
        | some (bytes, length) =>
          (readTagChars? allowed steps (cs.drop length)).map fun (text, n) =>
            (bytes ++ text, length + n)
      else if allowed c then
        (readTagChars? allowed steps rest).map fun (text, n) => (c.toNat.toUInt8 :: text, 1 + n)
      else some ([], 0)

/-- The text of a tag up to its first null byte, if there is one. Some character has to be read
unless some text stands before it; the exclamation mark in front of that is not part of the text. -/
def readTagText? (allowed : Char → Bool) (before : List Char) (cs : List Char) :
    Option (TagText × Nat) := do
  let (text, length) ← readTagChars? allowed cs.length cs
  if before.isEmpty && length = 0 then
    none
  let text := TagText.ofAscii (String.ofList (before.drop 1)) ++ text
  return (text.takeWhile (· ≠ 0), length)

/-- The handle that a tag may start with: an exclamation mark, name characters and perhaps
another exclamation mark. -/
def takeHandle (cs : List Char) : List Char :=
  let name := (cs.drop 1).takeWhile isWordChar
  let handle := '!' :: name
  if (cs.drop handle.length).head? = some '!' then handle ++ ['!'] else handle

def isFullHandle (handle : List Char) : Bool :=
  1 < handle.length && handle.getLast? = some '!'

def endsTag (inFlow : Bool) (cs : List Char) : Bool :=
  endsWord cs || (inFlow && cs.head? = some ',')

/-- The token of a tag: its handle and what follows it. A tag without a handle of its own has the
handle `!`, a delimited one and the tag `!` have none. -/
def readTag? (inFlow : Bool) (cs : List Char) : Option (Token × Nat) := do
  let (token, length) ←
    if (cs.drop 1).head? = some '<' then do
      let (text, n) ← readTagText? isDelimitedTagChar [] (cs.drop 2)
      if (cs.drop (2 + n)).head? = some '>' then pure (Token.tag "" text, 3 + n) else none
    else do
      let handle := takeHandle cs
      let rest := cs.drop handle.length
      if isFullHandle handle then do
        let (text, n) ← readTagText? isTagChar [] rest
        pure (Token.tag (String.ofList handle) text, handle.length + n)
      else do
        let (text, n) ← readTagText? isTagChar handle rest
        let token := if text.isEmpty then Token.tag "" (.ofAscii "!") else Token.tag "!" text
        pure (token, handle.length + n)
  if endsTag inFlow (cs.drop length) then some (token, length) else none

def readVersionNumber? (cs : List Char) : Option (Nat × Nat) :=
  let digits := cs.takeWhile Char.isDigit
  if digits.isEmpty || 9 < digits.length then none
  else some (digits.foldl (fun n c => n * 10 + (c.toNat - 48)) 0, digits.length)

def blankLength (cs : List Char) : Nat :=
  (cs.takeWhile isBlank).length

def readVersion? (cs : List Char) : Option (Token × Nat) := do
  let start := blankLength cs
  let (major, m) ← readVersionNumber? (cs.drop start)
  let point := start + m
  if (cs.drop point).head? ≠ some '.' then
    none
  let (minor, n) ← readVersionNumber? (cs.drop (point + 1))
  return (.version major minor, point + 1 + n)

def readTagHandle? (cs : List Char) : Option (Token × Nat) := do
  let start := blankLength cs
  let text := cs.drop start
  if text.head? ≠ some '!' then
    none
  let handle := takeHandle text
  if handle ≠ ['!'] && !isFullHandle handle then
    none
  let rest := text.drop handle.length
  if blankLength rest = 0 then
    none
  let gap := blankLength rest
  let (expansion, n) ← readTagText? isDelimitedTagChar [] (rest.drop gap)
  let length := start + handle.length + gap + n
  if endsWord (cs.drop length) then
    return (.tagHandle (String.ofList handle) expansion, length)
  else none

def readDirective? (cs : List Char) : Option (Token × Nat) := do
  let name := (cs.drop 1).takeWhile isWordChar
  let rest := cs.drop (1 + name.length)
  if name.isEmpty || !endsWord rest then
    none
  let (token, length) ←
    if name = "YAML".toList then readVersion? rest
    else if name = "TAG".toList then readTagHandle? rest
    else none
  return (token, 1 + name.length + length)

end NodeScaling.Yaml.Property
