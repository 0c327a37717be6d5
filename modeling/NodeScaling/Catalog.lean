import NodeScaling.Dictionary
import NodeScaling.Failure

/-!
The catalog of instance types. It lists how many vCPUs a node of each type has; a record without
vCPUs is left out, so that a vCPU target can be divided by every listed count. The built-in one has
the EC2 instance types that the capacity service knows.
-/
namespace NodeScaling

structure Catalog where
  types : Dictionary UInt32
  positive : ∀ entry ∈ types.entries, 0 < entry.2

namespace Catalog

def empty : Catalog := ⟨.empty, by simp [Dictionary.empty]⟩

/-- Adds a record in place of one with the same name; one without vCPUs changes nothing. -/
def add (c : Catalog) (name : String) (vcpus : UInt32) : Catalog :=
  if h : 0 < vcpus then
    ⟨c.types.insert name vcpus, fun entry member => by
      rcases Dictionary.mem_insertEntry member with new | old
      · subst new; exact h
      · exact c.positive entry old⟩
  else c

/-- The catalog of a list of records; of a repeated name the last record with vCPUs counts. -/
def ofRecords (records : List (String × UInt32)) : Catalog :=
  records.foldl (fun c (name, vcpus) => c.add name vcpus) empty

def get? (c : Catalog) (name : String) : Option UInt32 :=
  c.types.get? name

def vcpusOf (c : Catalog) (name : String) : Except BridgeError UInt32 :=
  match c.get? name with
  | some vcpus => .ok vcpus
  | none => .error (.unknownInstanceType name)

theorem vcpusOf_eq_ok_iff {c : Catalog} {name : String} {vcpus : UInt32} :
    c.vcpusOf name = .ok vcpus ↔ c.get? name = some vcpus := by
  unfold vcpusOf
  split <;> simp_all

theorem pos_of_vcpusOf {c : Catalog} {name : String} {vcpus : UInt32}
    (listed : c.vcpusOf name = .ok vcpus) : 0 < vcpus := by
  have found := vcpusOf_eq_ok_iff.mp listed
  obtain ⟨before, after, entries, _⟩ := List.lookup_eq_some_iff.mp found
  exact c.positive (name, vcpus) (by simp [entries])

def toList (c : Catalog) : List (String × UInt32) :=
  c.types.entries

def size (c : Catalog) : Nat :=
  c.types.size

def isEmpty (c : Catalog) : Bool :=
  c.types.entries.isEmpty

end Catalog

end NodeScaling

namespace NodeScaling.Catalog

def builtinRecords : List (String × UInt32) := [
  ("t1.micro", 1), ("t2.nano", 1), ("t2.micro", 1), ("t2.small", 1), ("t2.medium", 2),
  ("t2.large", 2), ("t2.xlarge", 4), ("t2.2xlarge", 8), ("t3.nano", 2), ("t3.micro", 2),
  ("t3.small", 2), ("t3.medium", 2), ("t3.large", 2), ("t3.xlarge", 4), ("t3.2xlarge", 8),
  ("m1.small", 1), ("m1.medium", 1), ("m1.large", 2), ("m1.xlarge", 4), ("m2.xlarge", 2),
  ("m2.2xlarge", 4), ("m2.4xlarge", 8), ("m3.medium", 1), ("m3.large", 2), ("m3.xlarge", 4),
  ("m3.2xlarge", 8), ("m4.large", 2), ("m4.xlarge", 4), ("m4.2xlarge", 8), ("m4.4xlarge", 16),
  ("m4.10xlarge", 40), ("m4.16xlarge", 64), ("m5.large", 2), ("m5.xlarge", 4), ("m5.2xlarge", 8),
  ("m5.4xlarge", 16), ("m5.12xlarge", 48), ("m5.24xlarge", 96), ("c1.medium", 2),
  ("c1.xlarge", 8), ("c3.large", 2), ("c3.xlarge", 4), ("c3.2xlarge", 8), ("c3.4xlarge", 16),
  ("c3.8xlarge", 32), ("c4.large", 2), ("c4.xlarge", 4), ("c4.2xlarge", 8), ("c4.4xlarge", 16),
  ("c4.8xlarge", 36), ("c5.large", 2), ("c5.xlarge", 4), ("c5.2xlarge", 8), ("c5.4xlarge", 16),
  ("c5.9xlarge", 36), ("c5.18xlarge", 72), ("r3.large", 2), ("r3.xlarge", 4), ("r3.2xlarge", 8),
  ("r3.4xlarge", 16), ("r3.8xlarge", 32), ("r4.large", 2), ("r4.xlarge", 4), ("r4.2xlarge", 8),
  ("r4.4xlarge", 16), ("r4.8xlarge", 32), ("r4.16xlarge", 64), ("r5.large", 2), ("r5.xlarge", 4),
  ("r5.2xlarge", 8), ("r5.4xlarge", 16), ("r5.12xlarge", 48), ("r5.24xlarge", 96),
  ("i2.xlarge", 4), ("i2.2xlarge", 8), ("i2.4xlarge", 16), ("i2.8xlarge", 32), ("i3.large", 2),
  ("i3.xlarge", 4), ("i3.2xlarge", 8), ("i3.4xlarge", 16), ("i3.8xlarge", 32),
  ("i3.16xlarge", 64), ("d2.xlarge", 4), ("d2.2xlarge", 8), ("d2.4xlarge", 16),
  ("d2.8xlarge", 36), ("x1.16xlarge", 64), ("x1.32xlarge", 128), ("p2.xlarge", 4),
  ("p2.8xlarge", 32), ("p2.16xlarge", 64), ("p3.2xlarge", 8), ("p3.8xlarge", 32),
  ("p3.16xlarge", 64), ("g2.2xlarge", 8), ("g2.8xlarge", 32), ("g3.4xlarge", 16),
  ("g3.8xlarge", 32), ("g3.16xlarge", 64)
]

def builtin : Catalog :=
  ofRecords builtinRecords

end NodeScaling.Catalog
