import NodeScaling.Yaml.Block
import NodeScaling.Yaml.FlowScalar
import NodeScaling.Yaml.Property

/-!
The tokens of a YAML text. Block collections are opened and closed by the indentation. A key
without an indicator shows itself only by the colon behind it: its place among the tokens is
remembered while it can still be a key, and the indicator is put there later.
-/
namespace NodeScaling.Yaml

structure PossibleKey where
  /-- Whether nothing but a key can stand there. -/
  required : Bool
  position : Nat
  place : Cursor

structure Scanner where
  place : Cursor
  emitted : List Token := []
  /-- Whether a key without an indicator may start here. -/
  keyAllowed : Bool := true
  /-- The possible key of the innermost flow collection, or of the block. -/
  key : Option PossibleKey := none
  outerKeys : List (Option PossibleKey) := []
  /-- The columns of the open block collections, the innermost first. -/
  columns : List Nat := []

namespace Scanner

/-- How many characters a key without an indicator may have. -/
def keyLimit : Nat := 1024

def inFlow (s : Scanner) : Bool :=
  !s.outerKeys.isEmpty

def leastColumn (s : Scanner) : Nat :=
  match s.columns with
  | [] => 0
  | column :: _ => column + 1

def emit (s : Scanner) (t : Token) : Scanner :=
  { s with emitted := t :: s.emitted }

def skip (s : Scanner) (n : Nat) : Scanner :=
  { s with place := s.place.skip n }

/-- Puts tokens, the latest first, behind the given number of tokens. -/
def insert (s : Scanner) (position : Nat) (ts : List Token) : Scanner :=
  let later := s.emitted.length - position
  { s with emitted := s.emitted.take later ++ ts ++ s.emitted.drop later }

/-- Skips blanks, comments and line breaks, in at most the given number of steps. A byte order mark
may start each line, and counts as a column. A tab is not skipped where it could be indentation. -/
def skipSpace : Nat → Scanner → Scanner
  | 0, s => s
  | steps + 1, s =>
    let tabs := s.inFlow || !s.keyAllowed
    let c := s.place.skipByteOrderMark.skipWhile fun ch => ch == ' ' || (tabs && ch == '\t')
    let c := if c.rest.head? = some '#' then c.skipWhile fun ch => !isBreak ch else c
    match c.lineBreak? with
    | some (_, c) => skipSpace steps { s with place := c, keyAllowed := s.keyAllowed || !s.inFlow }
    | none => { s with place := c }

/-- A possible key that is still one at a place; a required one has to be. -/
def refresh? (here : Cursor) : Option PossibleKey → Option (Option PossibleKey)
  | none => some none
  | some k =>
    if k.place.line < here.line || k.place.index + keyLimit < here.index then
      if k.required then none else some none
    else some (some k)

def refreshKeys? (s : Scanner) : Option Scanner := do
  let key ← refresh? s.place s.key
  let outerKeys ← s.outerKeys.mapM (refresh? s.place)
  return { s with key, outerKeys }

def dropKey? (s : Scanner) : Option Scanner :=
  match s.key with
  | some k => if k.required then none else some { s with key := none }
  | none => some s

def rememberKey? (s : Scanner) : Option Scanner :=
  if s.keyAllowed then do
    let required := !s.inFlow && s.columns.head? = some s.place.column
    let s ← s.dropKey?
    return { s with key := some { required, position := s.emitted.length, place := s.place } }
  else some s

def closeBeyond (column : Nat) : List Nat → List Token → List Nat × List Token
  | [], emitted => ([], emitted)
  | c :: columns, emitted =>
    if column < c then closeBeyond column columns (.blockEnd :: emitted)
    else (c :: columns, emitted)

def closeBlocks (s : Scanner) : Scanner :=
  if s.inFlow then s
  else
    let (columns, emitted) := closeBeyond s.place.column s.columns s.emitted
    { s with columns, emitted }

def closeAllBlocks (s : Scanner) : Scanner :=
  if s.inFlow then s
  else
    { s with columns := [], emitted := s.columns.map (fun _ => Token.blockEnd) ++ s.emitted }

def opensBlock (s : Scanner) (column : Nat) : Bool :=
  !s.inFlow && s.leastColumn ≤ column

def openBlock (s : Scanner) (start : Token) : Scanner :=
  if s.opensBlock s.place.column then
    { s.emit start with columns := s.place.column :: s.columns }
  else s

def directive? (s : Scanner) : Option Scanner := do
  let s ← s.closeAllBlocks.dropKey?
  let (token, length) ← Property.readDirective? s.place.rest
  let place ← (s.place.skip length).finishLine?
  return { s.emit token with place, keyAllowed := false }

def documentMarker? (s : Scanner) (token : Token) : Option Scanner := do
  let s ← s.closeAllBlocks.dropKey?
  return { (s.emit token).skip 3 with keyAllowed := false }

def openFlow? (s : Scanner) (token : Token) : Option Scanner := do
  let s ← s.rememberKey?
  let s := { s with key := none, outerKeys := s.key :: s.outerKeys, keyAllowed := true }
  return (s.emit token).skip 1

def closeFlow? (s : Scanner) (token : Token) : Option Scanner := do
  let s ← s.dropKey?
  let s :=
    match s.outerKeys with
    | [] => s
    | key :: outerKeys => { s with key, outerKeys }
  return { (s.emit token).skip 1 with keyAllowed := false }

def flowEntry? (s : Scanner) : Option Scanner := do
  let s ← s.dropKey?
  return { (s.emit .flowEntry).skip 1 with keyAllowed := true }

def blockEntry? (s : Scanner) : Option Scanner := do
  if !s.inFlow && !s.keyAllowed then
    none
  let s ← (s.openBlock .blockSequenceStart).dropKey?
  return { (s.emit .blockEntry).skip 1 with keyAllowed := true }

def key? (s : Scanner) : Option Scanner := do
  if !s.inFlow && !s.keyAllowed then
    none
  let s ← (s.openBlock .blockMappingStart).dropKey?
  return { (s.emit .key).skip 1 with keyAllowed := !s.inFlow }

/-- The colon of a value. What is remembered as a possible key is one now. -/
def value? (s : Scanner) : Option Scanner :=
  match s.key with
  | some k =>
    let opens := s.opensBlock k.place.column
    let indicators := if opens then [.key, .blockMappingStart] else [Token.key]
    let columns := if opens then k.place.column :: s.columns else s.columns
    let s := { s.insert k.position indicators with key := none, columns, keyAllowed := false }
    some ((s.emit .value).skip 1)
  | none =>
    if !s.inFlow && !s.keyAllowed then none
    else
      let s := s.openBlock .blockMappingStart
      some { (s.emit .value).skip 1 with keyAllowed := !s.inFlow }

def inlineToken? (s : Scanner) (read : List Char → Option (Token × Nat)) : Option Scanner := do
  let s ← s.rememberKey?
  let (token, length) ← read s.place.rest
  return { (s.emit token).skip length with keyAllowed := false }

def blockScalar? (s : Scanner) (style : Style) : Option Scanner := do
  let s ← s.dropKey?
  let (text, place) ← Block.read? (style = .folded) s.leastColumn s.place
  return { s.emit (.scalar (String.ofList text) style) with place, keyAllowed := true }

def quotedScalar? (s : Scanner) (kind : Quotation.Kind) (style : Style) : Option Scanner := do
  let s ← s.rememberKey?
  let (text, place) ← Quotation.read? kind s.place
  return { s.emit (.scalar (String.ofList text) style) with place, keyAllowed := false }

/-- A plain scalar. A key may start after it if it ends on an earlier line. -/
def plainScalar? (s : Scanner) : Option Scanner := do
  let s ← s.rememberKey?
  let found ← Plain.read? s.inFlow s.leastColumn s.place
  return { s.emit (.scalar (String.ofList found.text) .plain) with
    place := found.after, keyAllowed := found.crossesLine }

def isIndicator (c : Char) : Bool :=
  ['-', '?', ':', ',', '[', ']', '\x7b', '\x7d', '#', '&', '*', '!', '|', '>', '\'', '"', '%',
    '@', '\x60'].contains c

def startsPlain (inFlow : Bool) (c : Char) (cs : List Char) : Bool :=
  !(isBlank c || isBreak c || isIndicator c) ||
    (c == '-' && !(cs.head?.map isBlank).getD false) ||
    (!inFlow && (c == '?' || c == ':') && !endsWord cs)

def token? (s : Scanner) (c : Char) (cs : List Char) : Option Scanner :=
  let name (make : String → Token) (text : List Char) :=
    (Property.readName? text).map fun (name, length) => (make name, length)
  if s.place.column == 0 && c == '%' then s.directive?
  else if s.place.atMarker '-' then s.documentMarker? .documentStart
  else if s.place.atMarker '.' then s.documentMarker? .documentEnd
  else if c == '[' then s.openFlow? .flowSequenceStart
  else if c == '\x7b' then s.openFlow? .flowMappingStart
  else if c == ']' then s.closeFlow? .flowSequenceEnd
  else if c == '\x7d' then s.closeFlow? .flowMappingEnd
  else if c == ',' then s.flowEntry?
  else if c == '-' && endsWord cs then s.blockEntry?
  else if c == '?' && (s.inFlow || endsWord cs) then s.key?
  else if c == ':' && (s.inFlow || endsWord cs) then s.value?
  else if c == '*' then s.inlineToken? (name .alias)
  else if c == '&' then s.inlineToken? (name .anchor)
  else if c == '!' then s.inlineToken? (Property.readTag? s.inFlow)
  else if c == '|' && !s.inFlow then s.blockScalar? .literal
  else if c == '>' && !s.inFlow then s.blockScalar? .folded
  else if c == '\'' then s.quotedScalar? .single .singleQuoted
  else if c == '"' then s.quotedScalar? .double .doubleQuoted
  else if startsPlain s.inFlow c cs then s.plainScalar?
  else none

def scan? : Nat → Scanner → Option (List Token)
  | 0, _ => none
  | steps + 1, s => do
    let s ← (skipSpace (s.place.rest.length + 1) s).refreshKeys?
    let s := s.closeBlocks
    match s.place.rest with
    | [] => return (← s.closeAllBlocks.dropKey?).emitted.reverse
    | c :: cs => scan? steps (← s.token? c cs)

end Scanner

def tokens? (s : String) : Option (List Token) :=
  if s.toList.all isAllowed then
    Scanner.scan? (s.toList.length + 2) { place := .ofText s }
  else none

end NodeScaling.Yaml
