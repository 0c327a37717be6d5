/-!
Integers written in a radix. Reading goes digit by digit and stops at the first fault, so of two
faults the earlier one is reported; at one character a bad digit is reported before an excess.
-/
namespace NodeScaling.Text

inductive IntegerFault where
  | empty
  | invalidDigit
  | tooLarge
  | tooSmall
  deriving DecidableEq, Repr

def IntegerFault.message : IntegerFault → String
  | .empty => "cannot parse integer from empty string"
  | .invalidDigit => "invalid digit found in string"
  | .tooLarge => "number too large to fit in target type"
  | .tooSmall => "number too small to fit in target type"

/-- The value of an ASCII digit or letter in a radix up to sixteen, upper or lower case. -/
def digitValue? (radix : Nat) (c : Char) : Option Nat :=
  let n := c.toNat
  let value :=
    if 48 ≤ n && n ≤ 57 then n - 48
    else if 97 ≤ n && n ≤ 102 then n - 87
    else if 65 ≤ n && n ≤ 70 then n - 55
    else radix
  if value < radix then some value else none

/-- Reads digits onto a value that must stay within a bound; `excess` names the fault. -/
def readDigits (radix bound : Nat) (excess : IntegerFault) :
    Nat → List Char → Except IntegerFault Nat
  | value, [] => .ok value
  | value, c :: cs =>
    match digitValue? radix c with
    | none => .error .invalidDigit
    | some d =>
      if value * radix + d ≤ bound then readDigits radix bound excess (value * radix + d) cs
      else .error excess

def readNatural (radix bound : Nat) (cs : List Char) : Except IntegerFault Nat :=
  match cs with
  | [] => .error .empty
  | ['+'] => .error .invalidDigit
  | '+' :: ds => readDigits radix bound .tooLarge 0 ds
  | ds => readDigits radix bound .tooLarge 0 ds

/-- Reads a decimal integer between `-bound - 1` and `bound`, with an optional sign. -/
def readInteger (bound : Nat) (cs : List Char) : Except IntegerFault Int :=
  match cs with
  | '-' :: d :: ds => (readDigits 10 (bound + 1) .tooSmall 0 (d :: ds)).map fun n => -(n : Int)
  | ds => (readNatural 10 bound ds).map fun n => (n : Int)

def readUInt32 (s : String) : Except IntegerFault UInt32 :=
  (readNatural 10 (UInt32.size - 1) s.toList).map UInt32.ofNat

def readUInt64 (s : String) : Except IntegerFault UInt64 :=
  (readNatural 10 (UInt64.size - 1) s.toList).map UInt64.ofNat

def readInt64 (s : String) : Except IntegerFault Int64 :=
  (readInteger 0x7FFFFFFFFFFFFFFF s.toList).map Int64.ofInt

theorem readDigits_le {radix bound : Nat} {excess : IntegerFault} {value n : Nat}
    {cs : List Char} (start : value ≤ bound)
    (h : readDigits radix bound excess value cs = .ok n) : n ≤ bound := by
  induction cs generalizing value with
  | nil => simp_all [readDigits]
  | cons c cs ih =>
    simp only [readDigits] at h
    split at h
    · contradiction
    · split at h
      · next fits => exact ih fits h
      · contradiction

theorem readNatural_le {radix bound n : Nat} {cs : List Char}
    (h : readNatural radix bound cs = .ok n) : n ≤ bound := by
  unfold readNatural at h
  split at h
  · contradiction
  · contradiction
  · exact readDigits_le (Nat.zero_le _) h
  · exact readDigits_le (Nat.zero_le _) h

end NodeScaling.Text
