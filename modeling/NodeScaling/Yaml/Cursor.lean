/-!
Places in a YAML text. A cursor holds the text from its place on and counts the characters, lines
and columns before it. A line ends at any of the five line breaks of YAML 1.1, and a carriage
return with its line feed is one break. A gap between two words of a scalar stands for its blanks if
it is within a line. One that crosses lines is folded: a single line feed becomes a space, and
further breaks stand for themselves.
-/
namespace NodeScaling.Yaml

def isBlank (c : Char) : Bool :=
  c == ' ' || c == '\t'

def isBreak (c : Char) : Bool :=
  c == '\n' || c == '\r' || c == '\u0085' || c == '\u2028' || c == '\u2029'

def isAllowed (c : Char) : Bool :=
  let n := c.toNat
  n == 0x09 || n == 0x0A || n == 0x0D || (0x20 ≤ n && n ≤ 0x7E) || n == 0x85 ||
    (0xA0 ≤ n && n ≤ 0xFFFD) || 0x10000 ≤ n

/-- The character that may stand before the content of a line to mark the order of bytes. -/
def byteOrderMark : Char := '\ufeff'

def endsWord : List Char → Bool
  | [] => true
  | c :: _ => isBlank c || isBreak c

structure Cursor where
  rest : List Char
  index : Nat := 0
  line : Nat := 0
  column : Nat := 0

namespace Cursor

def ofText (s : String) : Cursor :=
  { rest := s.toList }

def skip (c : Cursor) (n : Nat) : Cursor :=
  { c with rest := c.rest.drop n, index := c.index + n, column := c.column + n }

def skipWhile (c : Cursor) (p : Char → Bool) : Cursor :=
  c.skip (c.rest.takeWhile p).length

def skipByteOrderMark (c : Cursor) : Cursor :=
  if c.column == 0 && c.rest.head? = some byteOrderMark then c.skip 1 else c

def newLine (c : Cursor) (n : Nat) : Cursor :=
  { rest := c.rest.drop n, index := c.index + n, line := c.line + 1, column := 0 }

/-- The line break at a place, as it counts in a scalar, and the place after it. The two Unicode
separators count as themselves, the others as a line feed. -/
def lineBreak? (c : Cursor) : Option (List Char × Cursor) :=
  match c.rest with
  | '\r' :: '\n' :: _ => some (['\n'], c.newLine 2)
  | b :: _ =>
    if b == '\u2028' || b == '\u2029' then some ([b], c.newLine 1)
    else if isBreak b then some (['\n'], c.newLine 1)
    else none
  | [] => none

/-- Whether a place is at the start of a line that is a document marker made of one character. -/
def atMarker (c : Cursor) (mark : Char) : Bool :=
  c.column == 0 && [mark, mark, mark].isPrefixOf c.rest && endsWord (c.rest.drop 3)

def atDocumentMarker (c : Cursor) : Bool :=
  c.atMarker '-' || c.atMarker '.'

def finishLine? (c : Cursor) : Option Cursor :=
  let c := c.skipWhile isBlank
  let c := if c.rest.head? = some '#' then c.skipWhile fun ch => !isBreak ch else c
  match c.rest with
  | [] => some c
  | _ => (c.lineBreak?).map Prod.snd

end Cursor

structure Gap where
  blanks : List Char := []
  first : Option (List Char) := none
  later : List Char := []

namespace Gap

def crossesLine (g : Gap) : Bool :=
  g.first.isSome

/-- A gap with one more blank, which counts only while there is no break. -/
def addBlank (g : Gap) (c : Char) : Gap :=
  if g.crossesLine then g else { g with blanks := g.blanks ++ [c] }

def addBreak (g : Gap) (text : List Char) : Gap :=
  if g.crossesLine then { g with later := g.later ++ text }
  else { g with blanks := [], first := some text }

def folded (g : Gap) : List Char :=
  match g.first with
  | none => g.blanks
  | some first =>
    if first = ['\n'] then (if g.later.isEmpty then [' '] else g.later) else first ++ g.later

/-- Reads a gap onto one that has begun, in at most the given number of steps. A tab before the
given column of a later line is refused. -/
def read? (leastColumn : Nat) : Nat → Gap → Cursor → Option (Gap × Cursor)
  | 0, g, c => some (g, c)
  | steps + 1, g, c =>
    match c.rest with
    | [] => some (g, c)
    | ch :: _ =>
      if isBlank ch then
        if g.crossesLine && c.column < leastColumn && ch == '\t' then none
        else read? leastColumn steps (g.addBlank ch) (c.skip 1)
      else
        match c.lineBreak? with
        | some (text, c) => read? leastColumn steps (g.addBreak text) c
        | none => some (g, c)

end Gap

end NodeScaling.Yaml
