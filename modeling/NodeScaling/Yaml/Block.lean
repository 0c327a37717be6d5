import NodeScaling.Yaml.Cursor

/-!
Block scalars: lines under a header, with the indentation of the first of them or the one that the
header gives. Literal ones keep their line breaks, folded ones join lines.
-/
namespace NodeScaling.Yaml.Block

inductive Chomping where
  | strip
  | clip
  | keep
  deriving DecidableEq

structure Header where
  chomping : Chomping := .clip
  /-- The further indentation of the lines, if it is given; it is not zero then. -/
  increment : Option Nat := none

def chomping? (c : Char) : Option Chomping :=
  if c == '+' then some .keep else if c == '-' then some .strip else none

def Header.read? (cs : List Char) : Option (Header × Nat) :=
  let digit (c : Char) : Option (Option Nat) :=
    if c.isDigit then some (if c == '0' then none else some (c.toNat - 48)) else none
  match cs with
  | [] => some ({}, 0)
  | a :: rest =>
    match chomping? a, digit a with
    | some chomping, _ =>
      match rest.head?.bind digit with
      | some (some n) => some ({ chomping, increment := some n }, 2)
      | some none => none
      | none => some ({ chomping }, 1)
    | none, some (some n) =>
      match rest.head?.bind chomping? with
      | some chomping => some ({ chomping, increment := some n }, 2)
      | none => some ({ increment := some n }, 1)
    | none, some none => none
    | none, none => some ({}, 0)

structure Margin where
  breaks : List Char
  /-- The greatest column that was reached by indentation. -/
  depth : Nat
  after : Cursor

/-- Reads empty lines and the indentation of the line after them, up to the given column or as
deep as it is. A tab in the indentation is refused. -/
def readMargin? (column : Option Nat) : Nat → Margin → Option Margin
  | 0, m => some m
  | steps + 1, m =>
    let spaces := (m.after.rest.takeWhile (· == ' ')).length
    let c := m.after.skip (match column with
      | some column => min spaces (column - m.after.column)
      | none => spaces)
    let depth := max m.depth c.column
    let inside := (column.map fun column => decide (c.column < column)).getD true
    if inside && c.rest.head? = some '\t' then none
    else
      match c.lineBreak? with
      | some (text, c) => readMargin? column steps ⟨m.breaks ++ text, depth, c⟩
      | none => some ⟨m.breaks, depth, c⟩

structure Lines where
  /-- The content, backwards. -/
  text : List Char := []
  lastBreak : List Char := []
  emptyLines : List Char
  /-- Whether the last line starts with a blank, which keeps the breaks around it. -/
  indented : Bool := false
  place : Cursor

def Lines.joint (folded nextIndented : Bool) (l : Lines) : List Char :=
  if folded && l.lastBreak == ['\n'] && !l.indented && !nextIndented then
    (if l.emptyLines.isEmpty then [' '] else []) ++ l.emptyLines
  else l.lastBreak ++ l.emptyLines

def readLines? (folded : Bool) (column : Nat) : Nat → Lines → Option Lines
  | 0, l => some l
  | steps + 1, l => do
    let c := l.place
    if c.column ≠ column || c.rest.isEmpty then
      return l
    let indented := (c.rest.head?.map isBlank).getD false
    let line := c.rest.takeWhile fun ch => !isBreak ch
    let text := line.reverse ++ (l.joint folded indented).reverse ++ l.text
    let c := c.skip line.length
    let (lastBreak, c) := (c.lineBreak?).getD ([], c)
    let margin ← readMargin? (some column) (c.rest.length + 1) ⟨[], 0, c⟩
    readLines? folded column steps
      { text, lastBreak, emptyLines := margin.breaks, indented, place := margin.after }

def chomp (chomping : Chomping) (l : Lines) : List Char :=
  l.text.reverse ++
    match chomping with
    | .strip => []
    | .clip => l.lastBreak
    | .keep => l.lastBreak ++ l.emptyLines

/-- Reads a block scalar from its indicator on, inside a block whose content starts at least at
the given column. -/
def read? (folded : Bool) (leastColumn : Nat) (c : Cursor) : Option (List Char × Cursor) := do
  let c := c.skip 1
  let (header, length) ← Header.read? c.rest
  let c ← (c.skip length).finishLine?
  let given := header.increment.map fun n => leastColumn - 1 + n
  let margin ← readMargin? given (c.rest.length + 1) ⟨[], 0, c⟩
  let column := given.getD (max (max margin.depth leastColumn) 1)
  let lines ← readLines? folded column (margin.after.rest.length + 1)
    { emptyLines := margin.breaks, place := margin.after }
  return (chomp header.chomping lines, lines.place)

end NodeScaling.Yaml.Block
