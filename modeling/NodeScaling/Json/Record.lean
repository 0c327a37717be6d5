import NodeScaling.Json.Basic

/-!
Records in JSON. A record is written as an object with named members, of which unknown ones are
passed over and known ones may occur once, or as an array of its fields in their order, which may
stop early. Each field is found by `Json.field?` and read on its own.
-/
namespace NodeScaling.Json

/-- What a record has in the place of one of its fields. -/
inductive Slot where
  | given (value : Json)
  | absent
  /-- The array of fields stops before it. -/
  | cut

/-- A record can be read from an object, and from an array with at most as many elements as the
record has fields. -/
def isRecord (size : Nat) : Json → Bool
  | object _ => true
  | array xs => xs.length ≤ size
  | _ => false

def valuesOf (names : List String) (members : List (String × Json)) : List Json :=
  members.filterMap fun (name, value) => if names.contains name then some value else none

/-- The slot of the field at a place with the names it goes by, none if it is given twice. -/
def field? (place : Nat) (names : List String) : Json → Option Slot
  | object members =>
    match valuesOf names members with
    | [] => some .absent
    | [value] => some (.given value)
    | _ => none
  | array xs =>
    match xs[place]? with
    | some value => some (.given value)
    | none => some .cut
  | _ => none

def Slot.required? {α : Type} (decode : Json → Option α) : Slot → Option α
  | .given value => decode value
  | _ => none

def Slot.orDefault? {α : Type} (default : α) (decode : Json → Option α) : Slot → Option α
  | .given value => decode value
  | _ => some default

/-- A field that may be null or left out of an object. -/
def Slot.optional? {α : Type} (decode : Json → Option α) : Slot → Option (Option α)
  | .given null => some none
  | .given value => (decode value).map some
  | .absent => some none
  | .cut => none

def orNull? {α : Type} (default : α) (decode : Json → Option α) : Json → Option α
  | null => some default
  | value => decode value

def string? : Json → Option String
  | string s => some s
  | _ => none

def bool? : Json → Option Bool
  | bool b => some b
  | _ => none

def int? : Json → Option Int
  | number (.int value _) => some value
  | _ => none

def uint32? (j : Json) : Option UInt32 := do
  let n ← j.int?
  if 0 ≤ n ∧ n < UInt32.size then some (UInt32.ofNat n.toNat) else none

def int64? (j : Json) : Option Int64 := do
  let n ← j.int?
  if -0x8000000000000000 ≤ n ∧ n ≤ 0x7FFFFFFFFFFFFFFF then some (Int64.ofInt n) else none

def list? {α : Type} (decode : Json → Option α) : Json → Option (List α)
  | array xs => xs.mapM decode
  | _ => none

def entries? {α : Type} (decode : Json → Option α) : Json → Option (List (String × α))
  | object ms => ms.mapM fun (name, value) => (decode value).map (name, ·)
  | _ => none

end NodeScaling.Json
