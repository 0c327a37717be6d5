import NodeScaling.Json.Basic

/-!
Reading a JSON text. The grammar is strict: no byte order mark, no leading zeros, no comments, no
trailing commas, and only space, tab, line feed and carriage return between the tokens. Members
keep their order and repeated names; `Json.read?` answers for the whole text or not at all. A string
is read in two steps: first into pieces, each a plain character or an escaped code unit of 16 bits,
then into characters, where two surrogate units make one character and a surrogate on its own
denotes none.
-/
namespace NodeScaling.Json

/-- A piece of a string: a character, or a code unit that was written by its number. -/
inductive Piece where
  | char (c : Char)
  | unit (code : Nat)
  deriving DecidableEq, Repr

def hexValue? (c : Char) : Option Nat :=
  let n := c.toNat
  if 48 ≤ n && n ≤ 57 then some (n - 48)
  else if 97 ≤ n && n ≤ 102 then some (n - 87)
  else if 65 ≤ n && n ≤ 70 then some (n - 55)
  else none

def unitValue? (a b c d : Char) : Option Nat := do
  let a ← hexValue? a
  let b ← hexValue? b
  let c ← hexValue? c
  let d ← hexValue? d
  some (((a * 16 + b) * 16 + c) * 16 + d)

def shortEscape? (c : Char) : Option Char :=
  match c with
  | '"' => some '"'
  | '\\' => some '\\'
  | '/' => some '/'
  | 'b' => some '\x08'
  | 'f' => some '\x0c'
  | 'n' => some '\n'
  | 'r' => some '\r'
  | 't' => some '\t'
  | _ => none

def readPieces : List Char → Option (List Piece × List Char)
  | [] => none
  | '"' :: rest => some ([], rest)
  | '\\' :: 'u' :: a :: b :: c :: d :: rest => do
    let code ← unitValue? a b c d
    let (pieces, rest) ← readPieces rest
    some (.unit code :: pieces, rest)
  | '\\' :: c :: rest => do
    let c ← shortEscape? c
    let (pieces, rest) ← readPieces rest
    some (.char c :: pieces, rest)
  | c :: rest =>
    if c.toNat < 0x20 || c == '\\' then none
    else do
      let (pieces, rest) ← readPieces rest
      some (.char c :: pieces, rest)

def isLeading (code : Nat) : Bool :=
  0xD800 ≤ code && code ≤ 0xDBFF

def isTrailing (code : Nat) : Bool :=
  0xDC00 ≤ code && code ≤ 0xDFFF

def pairCode (leading trailing : Nat) : Nat :=
  0x10000 + (leading - 0xD800) * 0x400 + (trailing - 0xDC00)

def joinPieces : List Piece → Option (List Char)
  | [] => some []
  | .char c :: ps => (joinPieces ps).map (c :: ·)
  | .unit a :: .unit b :: ps =>
    if isLeading a then
      if isTrailing b then (joinPieces ps).map (Char.ofNat (pairCode a b) :: ·) else none
    else if isTrailing a then none
    else (joinPieces (.unit b :: ps)).map (Char.ofNat a :: ·)
  | .unit a :: ps =>
    if isLeading a || isTrailing a then none else (joinPieces ps).map (Char.ofNat a :: ·)

def isSpacing (c : Char) : Bool :=
  c == ' ' || c == '\t' || c == '\n' || c == '\r'

def skipSpacing (cs : List Char) : List Char :=
  cs.dropWhile isSpacing

def digitValue (c : Char) : Nat :=
  c.toNat - 48

def ofDigits (ds : List Nat) : Nat :=
  ds.foldl (fun n d => n * 10 + d) 0

structure NumberParts where
  negative : Bool
  whole : List Nat
  fraction : List Nat
  exponent : Int
  isWhole : Bool

def spanDigits (cs : List Char) : List Nat × List Char :=
  ((cs.takeWhile Char.isDigit).map digitValue, cs.dropWhile Char.isDigit)

def readDigits? (cs : List Char) : Option (List Nat × List Char) :=
  match spanDigits cs with
  | ([], _) => none
  | found => some found

/-- The digits before the point: a zero on its own, or digits that do not start with zero. -/
def readWhole? (cs : List Char) : Option (List Nat × List Char) :=
  match readDigits? cs with
  | some (0 :: _ :: _, _) => none
  | found => found

def readFraction? (cs : List Char) : Option (Option (List Nat) × List Char) :=
  match cs with
  | '.' :: rest => (readDigits? rest).map fun (ds, rest) => (some ds, rest)
  | _ => some (none, cs)

def readExponent? (cs : List Char) : Option (Option Int × List Char) :=
  match cs with
  | c :: rest =>
    if c == 'e' || c == 'E' then
      match rest with
      | '-' :: rest => (readDigits? rest).map fun (ds, rest) => (some (-(ofDigits ds : Int)), rest)
      | '+' :: rest => (readDigits? rest).map fun (ds, rest) => (some (ofDigits ds : Int), rest)
      | rest => (readDigits? rest).map fun (ds, rest) => (some (ofDigits ds : Int), rest)
    else some (none, cs)
  | [] => some (none, cs)

def readUnsigned? (negative : Bool) (cs : List Char) : Option (NumberParts × List Char) := do
  let (whole, rest) ← readWhole? cs
  let (fraction, rest) ← readFraction? rest
  let (exponent, rest) ← readExponent? rest
  some ({ negative, whole, fraction := fraction.getD [], exponent := exponent.getD 0,
          isWhole := fraction.isNone && exponent.isNone }, rest)

def readNumberParts? (cs : List Char) : Option (NumberParts × List Char) :=
  match cs with
  | '-' :: rest => readUnsigned? true rest
  | _ => readUnsigned? false cs

def NumberParts.float? (p : NumberParts) : Option Number :=
  (Floating.readDecimal? p.negative p.whole p.fraction p.exponent).map .float

/-- The number that parts denote. A whole number within 64 bits is an integer, and so is every
negative one from `-2 ^ 63` on; minus zero and all else are floating point numbers. -/
def NumberParts.number? (p : NumberParts) : Option Number :=
  let n : Int := ofDigits p.whole
  if p.isWhole then
    if p.negative then
      if n = 0 then p.float? else (Number.ofInt? (-n)).orElse fun _ => p.float?
    else (Number.ofInt? n).orElse fun _ => p.float?
  else p.float?

def between (cs rest : List Char) : String :=
  String.ofList (cs.take (cs.length - rest.length))

/-- The value of a written number, raw if it is beyond the finite ones. -/
def readNumber? (cs : List Char) : Option (Json × List Char) :=
  (readNumberParts? cs).map fun (parts, rest) =>
    match parts.number? with
    | some n => (number n, rest)
    | none => (raw (between cs rest), rest)

/-- The name of a member or the content of a string, after its opening quote: none if a surrogate
stands on its own. -/
def readString? (cs : List Char) : Option (Option String × List Char) :=
  (readPieces cs).map fun (pieces, rest) => ((joinPieces pieces).map String.ofList, rest)

def namedMembers? (members : List (Option String × Json)) : Option (List (String × Json)) :=
  members.mapM fun (name, value) => name.map (·, value)

mutual

def readValue (fuel : Nat) (cs : List Char) : Option (Json × List Char) :=
  match fuel with
  | 0 => none
  | fuel + 1 =>
    match cs with
    | 'n' :: 'u' :: 'l' :: 'l' :: rest => some (null, rest)
    | 't' :: 'r' :: 'u' :: 'e' :: rest => some (bool true, rest)
    | 'f' :: 'a' :: 'l' :: 's' :: 'e' :: rest => some (bool false, rest)
    | '"' :: body =>
      match readString? body with
      | some (some s, rest) => some (string s, rest)
      | some (none, rest) => some (raw (between cs rest), rest)
      | none => none
    | '[' :: body =>
      match skipSpacing body with
      | ']' :: rest => some (array [], rest)
      | body =>
        match readElements fuel body with
        | some (elements, rest) => some (array elements, rest)
        | none => none
    | '\x7b' :: body =>
      match skipSpacing body with
      | '\x7d' :: rest => some (object [], rest)
      | body =>
        match readMembers fuel body with
        | some (members, rest) =>
          match namedMembers? members with
          | some members => some (object members, rest)
          | none => some (raw (between cs rest), rest)
        | none => none
    | _ => readNumber? cs

def readElements (fuel : Nat) (cs : List Char) : Option (List Json × List Char) :=
  match fuel with
  | 0 => none
  | fuel + 1 =>
    match readValue fuel cs with
    | none => none
    | some (x, rest) =>
      match skipSpacing rest with
      | ']' :: rest => some ([x], rest)
      | ',' :: rest =>
        match readElements fuel (skipSpacing rest) with
        | some (xs, rest) => some (x :: xs, rest)
        | none => none
      | _ => none

def readMembers (fuel : Nat) (cs : List Char) :
    Option (List (Option String × Json) × List Char) :=
  match fuel with
  | 0 => none
  | fuel + 1 =>
    match cs with
    | '"' :: body =>
      match readString? body with
      | none => none
      | some (name, rest) =>
        match skipSpacing rest with
        | ':' :: rest =>
          match readValue fuel (skipSpacing rest) with
          | none => none
          | some (x, rest) =>
            match skipSpacing rest with
            | '\x7d' :: rest => some ([(name, x)], rest)
            | ',' :: rest =>
              match readMembers fuel (skipSpacing rest) with
              | some (ms, rest) => some ((name, x) :: ms, rest)
              | none => none
            | _ => none
        | _ => none
    | _ => none

end

def readChars? (cs : List Char) : Option Json :=
  match readValue (2 * cs.length + 1) (skipSpacing cs) with
  | some (j, rest) => if (skipSpacing rest).isEmpty then some j else none
  | none => none

def read? (s : String) : Option Json :=
  readChars? s.toList

def readBytes? (bytes : ByteArray) : Option Json :=
  (String.fromUTF8? bytes).bind read?

end NodeScaling.Json
