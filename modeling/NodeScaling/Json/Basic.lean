import NodeScaling.Dictionary
import NodeScaling.Floating.Shortest

/-!
JSON values as they are written: an object keeps its members in the order of the text, repeated
names included. What is written correctly but denotes nothing, such as a number beyond the finite
ones or half of a surrogate pair, is kept as raw text. In the canonical form every object lists its
members by ascending name, each name once with its last value, and nothing is raw; only values with
a bounded number of nested arrays and objects have one.
-/
namespace NodeScaling

/-- A JSON number: an integer from the least signed one of 64 bits to the greatest unsigned one, or
a floating point number. -/
inductive Json.Number where
  | int (value : Int) (fits : -0x8000000000000000 ≤ value ∧ value ≤ 0xFFFFFFFFFFFFFFFF)
  | float (value : Floating.Binary64)
  deriving DecidableEq

inductive Json where
  | null
  | bool (value : Bool)
  | number (value : Json.Number)
  | string (value : String)
  | raw (written : String)
  | array (elements : List Json)
  | object (members : List (String × Json))

namespace Json

/-- Floating point numbers in JSON: positional while the leading digit stands between the fifth
place after the point and the sixteenth before it, otherwise with a signed exponent. -/
def floatLayout : Floating.Layout :=
  { leastPositional := -5
    greatestPositional := 15
    wholeSuffix := ".0"
    positiveMark := "e+"
    negativeMark := "e-" }

def Number.text : Number → String
  | .int value _ => toString value
  | .float value => value.text floatLayout

def Number.ofInt? (value : Int) : Option Number :=
  if h : -0x8000000000000000 ≤ value ∧ value ≤ 0xFFFFFFFFFFFFFFFF then some (.int value h) else none

def Number.ofUInt64 (n : UInt64) : Number :=
  .int n.toNat (by have := n.toNat_lt; omega)

def Number.ofInt64 (n : Int64) : Number :=
  .int n.toInt (by have := n.toInt_lt; have := n.le_toInt; omega)

def ofUInt64 (n : UInt64) : Json :=
  .number (.ofUInt64 n)

def ofUInt32 (n : UInt32) : Json :=
  .ofUInt64 n.toUInt64

def ofInt64 (n : Int64) : Json :=
  .number (.ofInt64 n)

def ofStrings (xs : List String) : Json :=
  .array (xs.map .string)

end Json

end NodeScaling

namespace NodeScaling.Json

/-- How many arrays and objects may stand inside one another. -/
def levelLimit : Nat := 127

/-- Members by ascending name, each name with its last value. -/
def sortMembers (members : List (String × Json)) : List (String × Json) :=
  (Dictionary.ofList members).entries

mutual

/-- The canonical form of a value with at most the given number of nested levels. -/
def canonical? (levels : Nat) : Json → Option Json
  | null => some null
  | bool b => some (bool b)
  | number n => some (number n)
  | string s => some (string s)
  | raw _ => none
  | array xs =>
    match levels with
    | 0 => none
    | levels + 1 => (canonicalElements? levels xs).map array
  | object ms =>
    match levels with
    | 0 => none
    | levels + 1 => (canonicalMembers? levels ms).map fun ms => object (sortMembers ms)

def canonicalElements? (levels : Nat) : List Json → Option (List Json)
  | [] => some []
  | x :: xs =>
    match canonical? levels x, canonicalElements? levels xs with
    | some x, some xs => some (x :: xs)
    | _, _ => none

def canonicalMembers? (levels : Nat) : List (String × Json) → Option (List (String × Json))
  | [] => some []
  | (name, x) :: ms =>
    match canonical? levels x, canonicalMembers? levels ms with
    | some x, some ms => some ((name, x) :: ms)
    | _, _ => none

end

end NodeScaling.Json
