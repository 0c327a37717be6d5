import NodeScaling.Yaml.Cursor

/-!
Plain and quoted scalars. Plain ones are words without quotes, which may go on over lines that are
indented deeply enough. Between single quotes only the quote itself is written in another way,
twice; between double quotes the backslash starts an escape, or at the end of a line joins it to the
next.
-/
namespace NodeScaling.Yaml.Plain

def isFlowIndicator (c : Char) : Bool :=
  c == ',' || c == '[' || c == ']' || c == '\x7b' || c == '\x7d'

def endsBefore (inFlow : Bool) : List Char → Bool
  | [] => true
  | c :: cs => (c == ':' && endsWord cs) || (inFlow && isFlowIndicator c)

/-- Whether a text starts with a colon that is refused: one inside a flow collection with an
indicator right behind it. -/
def isMisplacedColon (inFlow : Bool) : List Char → Bool
  | ':' :: c :: _ => inFlow && (isFlowIndicator c || c == '?')
  | _ => false

def takeWord? (inFlow : Bool) : List Char → Option (List Char)
  | [] => some []
  | c :: cs =>
    if isBlank c || isBreak c then some []
    else if isMisplacedColon inFlow (c :: cs) then none
    else if endsBefore inFlow (c :: cs) then some []
    else (takeWord? inFlow cs).map (c :: ·)

structure Result where
  text : List Char
  crossesLine : Bool
  after : Cursor

/-- Reads words and the gaps between them, in at most the given number of steps. The content so
far and the gap after it are given. -/
def readWords? (inFlow : Bool) (leastColumn : Nat) : Nat → List Char → Gap → Cursor → Option Result
  | 0, text, gap, c => some ⟨text, gap.crossesLine, c⟩
  | steps + 1, text, gap, c => do
    if c.atDocumentMarker || c.rest.head? = some '#' then
      return ⟨text, gap.crossesLine, c⟩
    let word ← takeWord? inFlow c.rest
    let text := if word.isEmpty then text else text ++ gap.folded ++ word
    let gap := if word.isEmpty then gap else {}
    let c := c.skip word.length
    if c.rest.isEmpty || !endsWord c.rest then
      return ⟨text, gap.crossesLine, c⟩
    let (gap, c) ← Gap.read? leastColumn c.rest.length gap c
    if !inFlow && c.column < leastColumn then
      return ⟨text, gap.crossesLine, c⟩
    readWords? inFlow leastColumn steps text gap c

/-- Reads a plain scalar. Outside of flow collections its further lines have to reach the given
column. -/
def read? (inFlow : Bool) (leastColumn : Nat) (c : Cursor) : Option Result :=
  readWords? inFlow leastColumn (c.rest.length + 1) [] {} c

end NodeScaling.Yaml.Plain

namespace NodeScaling.Yaml.Quotation

inductive Kind where
  | single
  | double
  deriving DecidableEq

def Kind.quote : Kind → Char
  | single => '\''
  | double => '"'

def shortEscapes : List (Char × Char) := [
  ('0', '\x00'), ('a', '\x07'), ('b', '\x08'), ('t', '\t'), ('\t', '\t'), ('n', '\n'),
  ('v', '\x0b'), ('f', '\x0c'), ('r', '\r'), ('e', '\x1b'), (' ', ' '), ('"', '"'), ('/', '/'),
  ('\\', '\\'), ('N', '\u0085'), ('_', '\u00a0'), ('L', '\u2028'), ('P', '\u2029')]

def hexValue? (c : Char) : Option Nat :=
  let n := c.toNat
  if 48 ≤ n && n ≤ 57 then some (n - 48)
  else if 97 ≤ n && n ≤ 102 then some (n - 87)
  else if 65 ≤ n && n ≤ 70 then some (n - 55)
  else none

def readHex? : Nat → Nat → List Char → Option Nat
  | 0, value, _ => some value
  | digits + 1, value, c :: cs => (hexValue? c).bind fun d => readHex? digits (value * 16 + d) cs
  | _ + 1, _, [] => none

def readCode? (digits : Nat) (cs : List Char) : Option Char := do
  let code ← readHex? digits 0 cs
  if code.isValidChar then some (Char.ofNat code) else none

/-- The character that an escape stands for, and the length of the escape without its
backslash. -/
def readEscape? : List Char → Option (Char × Nat)
  | [] => none
  | 'x' :: cs => (readCode? 2 cs).map (·, 3)
  | 'u' :: cs => (readCode? 4 cs).map (·, 5)
  | 'U' :: cs => (readCode? 8 cs).map (·, 9)
  | c :: _ => (shortEscapes.lookup c).map (·, 1)

/-- Reads characters up to a blank, a line break, the closing quote or the end, in at most the
given number of steps. The content is given and answered backwards; the flag tells whether the
reading stopped after an escaped line break. -/
def readWord? (kind : Kind) : Nat → List Char → Cursor → Option (List Char × Bool × Cursor)
  | 0, text, c => some (text, false, c)
  | steps + 1, text, c =>
    match c.rest with
    | [] => some (text, false, c)
    | ch :: cs =>
      if isBlank ch || isBreak ch then some (text, false, c)
      else if kind = .single && ch == '\'' && cs.head? = some '\'' then
        readWord? kind steps ('\'' :: text) (c.skip 2)
      else if ch == kind.quote then some (text, false, c)
      else if kind = .double && ch == '\\' then
        match (c.skip 1).lineBreak? with
        | some (_, c) => some (text, true, c)
        | none =>
          match readEscape? cs with
          | some (x, length) => readWord? kind steps (x :: text) (c.skip (1 + length))
          | none => none
      else readWord? kind steps (ch :: text) (c.skip 1)

def readWords? (kind : Kind) : Nat → List Char → Cursor → Option (List Char × Cursor)
  | 0, _, _ => none
  | steps + 1, text, c => do
    if c.atDocumentMarker || c.rest.isEmpty then
      none
    let (text, joined, c) ← readWord? kind c.rest.length text c
    if c.rest.head? = some kind.quote then
      return (text.reverse, c.skip 1)
    let start : Gap := if joined then { first := some [] } else {}
    let (gap, c) ← Gap.read? 0 c.rest.length start c
    readWords? kind steps (gap.folded.reverse ++ text) c

def read? (kind : Kind) (c : Cursor) : Option (List Char × Cursor) :=
  readWords? kind (c.rest.length + 1) [] (c.skip 1)

end NodeScaling.Yaml.Quotation
