import NodeScaling.Proofs.DefinitionTexts
import NodeScaling.Proofs.OrderedJson

/-!
Which members are read as a definition, and as which. Every field is read on its own and exactly:
from its one value, or as zero from null or from nothing. A single field of another kind is enough
for no definition to be read.
-/
namespace NodeScaling

namespace Json
variable {value : Json}

theorem eq_of_string? {s : String} (read : value.string? = some s) : value = .string s := by
  cases value with
  | string t =>
    cases read
    rfl
  | _ => cases read

theorem eq_of_bool? {b : Bool} (read : value.bool? = some b) : value = .bool b := by
  cases value with
  | bool c =>
    cases read
    rfl
  | _ => cases read

theorem eq_of_int? {n : Int} (read : value.int? = some n) :
    ∃ fits, value = .number (.int n fits) := by
  match value, read with
  | .number (.int m fits), read =>
    cases read
    exact ⟨fits, rfl⟩

theorem eq_of_uint32? {n : UInt32} (read : value.uint32? = some n) : value = .ofUInt32 n := by
  obtain ⟨m, int, within⟩ := Option.bind_eq_some_iff.mp read
  split at within
  · next bounds =>
    obtain ⟨fits, rfl⟩ := eq_of_int? int
    obtain ⟨k, rfl⟩ := Int.eq_ofNat_of_zero_le bounds.1
    cases within
    have exact : (UInt32.ofNat k).toUInt64.toNat = k := by
      rw [UInt32.toNat_toUInt64, UInt32.toNat_ofNat_of_lt' (Int.ofNat_lt.mp bounds.2)]
    simp only [ofUInt32, ofUInt64, Number.ofUInt64, Int.toNat_natCast, exact]
  · cases within

theorem eq_of_list? {xs : List String} (read : list? string? value = some xs) :
    value = .ofStrings xs := by
  cases value with
  | array values =>
    rw [list?] at read
    rw [ofStrings, array.injEq]
    induction values generalizing xs with
    | nil =>
      cases read
      rfl
    | cons first rest ih =>
      rw [List.mapM_cons] at read
      obtain ⟨s, text, tail⟩ := Option.bind_eq_some_iff.mp read
      obtain ⟨ss, texts, same⟩ := Option.bind_eq_some_iff.mp tail
      cases same
      rw [List.map_cons, eq_of_string? text, ih texts]
  | _ => cases read

end Json

namespace Definition

theorem found_of_zeroField? {α : Type} {encode : α → Json} {decode : Json → Option α} {zero x : α}
    {name : String} {aliases : List String} {ms : List (String × Json)} {place : Nat}
    (exact : ∀ {value y}, decode value = some y → value = encode y)
    (read : zeroField? (.object ms) place (name :: aliases) zero decode = some x) :
    FieldText.FoundIn ⟨name, aliases, encode x, encode zero⟩ ms := by
  have names : FieldText.names ⟨name, aliases, encode x, encode zero⟩ = name :: aliases := rfl
  rw [FieldText.FoundIn, names]
  obtain ⟨slot, field, decoded⟩ := Option.bind_eq_some_iff.mp read
  rw [Json.field?] at field
  split at field
  · next none =>
    cases field
    cases decoded
    exact Or.inr ⟨rfl, Or.inl none⟩
  · next value one =>
    cases field
    by_cases null : value = .null
    · subst null
      cases decoded
      exact Or.inr ⟨rfl, Or.inr one⟩
    · rw [Json.Slot.orDefault?, Json.orNull?] at decoded
      · rw [← exact decoded]
        exact Or.inl one
      · exact null
  · cases field

theorem ofJson?_object_eq_some_iff (d : Definition) (ms : List (String × Json)) :
    ofJson? (.object ms) = some d ↔ ∀ f ∈ d.fieldTexts, f.FoundIn ms := by
  refine ⟨fun read => ?_, d.ofJson?_of_found⟩
  have record : Json.isRecord fieldCount (.object ms) = true := rfl
  rw [ofJson?, if_pos record] at read
  obtain ⟨_, groupId, read⟩ := Option.bind_eq_some_iff.mp read
  obtain ⟨_, region, read⟩ := Option.bind_eq_some_iff.mp read
  obtain ⟨_, appType, read⟩ := Option.bind_eq_some_iff.mp read
  obtain ⟨_, instanceTypes, read⟩ := Option.bind_eq_some_iff.mp read
  obtain ⟨_, scaleMode, read⟩ := Option.bind_eq_some_iff.mp read
  obtain ⟨_, spotTotal, read⟩ := Option.bind_eq_some_iff.mp read
  obtain ⟨_, spotOne, read⟩ := Option.bind_eq_some_iff.mp read
  obtain ⟨_, spareCpu, read⟩ := Option.bind_eq_some_iff.mp read
  obtain ⟨_, cluster, read⟩ := Option.bind_eq_some_iff.mp read
  obtain ⟨_, spareMemory, read⟩ := Option.bind_eq_some_iff.mp read
  obtain ⟨_, queue, read⟩ := Option.bind_eq_some_iff.mp read
  obtain ⟨_, queueSize, read⟩ := Option.bind_eq_some_iff.mp read
  obtain ⟨_, spinUp, read⟩ := Option.bind_eq_some_iff.mp read
  obtain ⟨_, toQueueSize, read⟩ := Option.bind_eq_some_iff.mp read
  obtain ⟨_, display, read⟩ := Option.bind_eq_some_iff.mp read
  obtain ⟨_, monitoring, read⟩ := Option.bind_eq_some_iff.mp read
  obtain ⟨_, enabled, read⟩ := Option.bind_eq_some_iff.mp read
  obtain ⟨_, osFamily, read⟩ := Option.bind_eq_some_iff.mp read
  obtain ⟨_, maxHours, read⟩ := Option.bind_eq_some_iff.mp read
  obtain ⟨_, target, read⟩ := Option.bind_eq_some_iff.mp read
  cases read
  simp only [fieldTexts, List.forall_mem_cons]
  have text {place : Nat} {name : String} {aliases : List String} {s : String}
      (read : textField? (.object ms) place (name :: aliases) = some s) :
      FieldText.FoundIn ⟨name, aliases, .string s, .string ""⟩ ms :=
    found_of_zeroField? Json.eq_of_string? read
  have count {place : Nat} {name : String} {n : UInt32}
      (read : countField? (.object ms) place name = some n) :
      FieldText.FoundIn ⟨name, [], .ofUInt32 n, .ofUInt32 0⟩ ms :=
    found_of_zeroField? Json.eq_of_uint32? read
  have flag {place : Nat} {name : String} {b : Bool}
      (read : flagField? (.object ms) place name = some b) :
      FieldText.FoundIn ⟨name, [], .bool b, .bool false⟩ ms :=
    found_of_zeroField? Json.eq_of_bool? read
  exact ⟨text groupId, text region, text appType, found_of_zeroField? Json.eq_of_list? instanceTypes,
    text scaleMode, count spotTotal, count spotOne, count spareCpu, text cluster, count spareMemory,
    text queue, count queueSize, count spinUp, count toQueueSize, text display, flag monitoring,
    flag enabled, text osFamily, count maxHours, count target, List.forall_mem_nil _⟩

/-- Members can be read as a definition: each of its fields is there once and of its kind, or is
missing or null and thereby zero. -/
def Readable (ms : List (String × Json)) : Prop :=
  ∃ d : Definition, ∀ f ∈ d.fieldTexts, f.FoundIn ms

theorem ofJson?_of_unreadable {ms : List (String × Json)} (unreadable : ¬ Readable ms) :
    ofJson? (.object ms) = none := by
  cases read : ofJson? (.object ms) with
  | none => rfl
  | some d => exact absurd ⟨d, (ofJson?_object_eq_some_iff d ms).mp read⟩ unreadable

section Shown
variable {d : Definition} {ms : List (String × Json)}
  (ascending : ms.Pairwise fun a b => a.1 < b.1) (found : ∀ f ∈ d.fieldTexts, f.FoundIn ms)
include ascending found

theorem value_of_lookup {name : String} {value zero shown : Json}
    (field : ⟨name, [], value, zero⟩ ∈ d.fieldTexts) (given : shown ≠ .null)
    (named : ms.lookup name = some shown) : value = shown := by
  have one : Json.valuesOf [name] ms = [shown] := by
    rw [Json.valuesOf_eq_lookup name ascending, named]
    rfl
  have told : FieldText.FoundIn ⟨name, [], value, zero⟩ ms := found _ field
  rw [FieldText.FoundIn, FieldText.names, one] at told
  rcases told with same | ⟨-, none | null⟩
  · exact (List.singleton_inj.mp same).symm
  · cases none
  · exact absurd (List.singleton_inj.mp null) given

theorem groupId_of_lookup {group : String}
    (named : ms.lookup "aws_autoscaling_group_name" = some (.string group)) :
    d.groupId = group := by
  have field : ⟨"aws_autoscaling_group_name", [], .string d.groupId, .string ""⟩ ∈ d.fieldTexts :=
    List.mem_cons_self
  exact Json.string.inj (value_of_lookup ascending found field nofun named)

theorem targetCapacity_of_lookup {target : UInt32}
    (shown : ms.lookup "target_capacity" = some (.ofUInt32 target)) :
    d.targetCapacity = target := by
  have field : ⟨"target_capacity", [], .ofUInt32 d.targetCapacity, .ofUInt32 0⟩ ∈ d.fieldTexts := by
    simp [fieldTexts]
  have given : Json.ofUInt32 target ≠ .null := by rintro ⟨⟩
  exact Json.eq_of_encoded Json.uint32?_ofUInt32 (value_of_lookup ascending found field given shown)

end Shown

end Definition

end NodeScaling
