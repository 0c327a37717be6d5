import Mathlib.Data.Finset.Card
import Mathlib.Data.List.Destutter
import NodeScaling.Provider
import NodeScaling.Proofs.ByteOrder
import NodeScaling.Proofs.DictionaryContents

/-!
The resources of the limits of a cluster. They are the names in the two maps of amounts, each once
and by their bytes. The same list comes of the keys of the maps in any order, put behind one another,
sorted and cleared of equal neighbours.
-/
namespace NodeScaling

namespace Text

def sortedOnce (names : List String) : List String :=
  (names.mergeSort byteOrder).destutter (· ≠ ·)

/-- In a sorted list equal names are neighbours, so that no name is left twice. -/
theorem sortedOnce_eq_dedup (names : List String) :
    sortedOnce names = (names.mergeSort byteOrder).dedup :=
  (pairwise_mergeSort_byteOrder names).destutter_eq_dedup

theorem mem_sortedOnce_iff {name : String} {names : List String} :
    name ∈ sortedOnce names ↔ name ∈ names := by
  rw [sortedOnce_eq_dedup, List.mem_dedup, List.mem_mergeSort]

theorem sortedOnce_ascending (names : List String) : (sortedOnce names).Pairwise (· < ·) := by
  have sorted : (sortedOnce names).Pairwise (· ≤ ·) :=
    (pairwise_mergeSort_byteOrder names).sublist (List.destutter_sublist _ _)
  have distinct : (sortedOnce names).Nodup := by
    rw [sortedOnce_eq_dedup]
    exact List.nodup_dedup _
  apply (sorted.and distinct).imp
  intro name name' ordered
  apply Classical.byContradiction
  intro notLess
  exact ordered.2 (String.le_antisymm ordered.1 (String.not_lt.mp notLess))

theorem nodup_of_ascending {names : List String} (ascending : names.Pairwise (· < ·)) :
    names.Nodup :=
  ascending.imp String.ne_of_lt

theorem eq_of_ascending {names names' : List String} (ascending : names.Pairwise (· < ·))
    (ascending' : names'.Pairwise (· < ·)) (same : ∀ name, name ∈ names ↔ name ∈ names') :
    names = names' := by
  have perm : names.Perm names' :=
    (List.perm_ext_iff_of_nodup (nodup_of_ascending ascending)
      (nodup_of_ascending ascending')).mpr same
  apply perm.eq_of_pairwise _ ascending ascending'
  intro name name' _ _ less greater
  exact absurd less (String.lt_asymm greater)

end Text

namespace Dictionary
variable {α : Type}

theorem keys_ascending (d : Dictionary α) : d.keys.Pairwise (· < ·) :=
  List.pairwise_map.mpr d.ascending

theorem mem_keys_ofList_iff {es : List (String × α)} {key : String} :
    key ∈ (ofList es).keys ↔ key ∈ es.map Prod.fst := by
  rw [mem_keys_iff, get?_ofList, ne_eq, List.lookup_eq_none_iff]
  simp

end Dictionary

namespace Limits
variable {l : Limits} {name : String}

theorem resources_ascending (l : Limits) : l.resources.Pairwise (· < ·) :=
  Dictionary.keys_ascending _

theorem mem_resources_iff : name ∈ l.resources ↔ name ∈ l.least.keys ∨ name ∈ l.greatest.keys := by
  simp [resources, Dictionary.mem_keys_ofList_iff]

theorem sortedOnce_eq_resources {ks ms : List String} (leastKeys : ks.Perm l.least.keys)
    (greatestKeys : ms.Perm l.greatest.keys) : Text.sortedOnce (ks ++ ms) = l.resources := by
  apply Text.eq_of_ascending (Text.sortedOnce_ascending _) l.resources_ascending
  intro name
  rw [Text.mem_sortedOnce_iff, List.mem_append, leastKeys.mem_iff, greatestKeys.mem_iff,
    mem_resources_iff]

def shared (l : Limits) : List String :=
  l.least.keys.filter fun name => name ∈ l.greatest.keys

theorem length_resources (l : Limits) :
    l.resources.length + l.shared.length = l.least.size + l.greatest.size := by
  have united : l.resources.toFinset = l.least.keys.toFinset ∪ l.greatest.keys.toFinset := by
    ext name
    simp [mem_resources_iff]
  have met : l.shared.toFinset = l.least.keys.toFinset ∩ l.greatest.keys.toFinset := by
    ext name
    simp [shared]
  have counted := Finset.card_union_add_card_inter l.least.keys.toFinset l.greatest.keys.toFinset
  rw [← united, ← met, List.toFinset_card_of_nodup, List.toFinset_card_of_nodup,
    List.toFinset_card_of_nodup, List.toFinset_card_of_nodup] at counted
  · simpa [Dictionary.size, Dictionary.keys] using counted
  · exact l.greatest.keys_nodup
  · exact l.least.keys_nodup
  · exact l.least.keys_nodup.filter _
  · exact Text.nodup_of_ascending l.resources_ascending

inductive Bounds (amounts : Dictionary Int64) (name : String) (default : Int64) : Int64 → Prop where
  | configured {amount : Int64} (given : (name, amount) ∈ amounts.entries) :
      Bounds amounts name default amount
  | unset (missing : name ∉ amounts.keys) : Bounds amounts name default default

theorem bounds_getD (amounts : Dictionary Int64) (name : String) (default : Int64) :
    Bounds amounts name default ((amounts.get? name).getD default) := by
  cases found : amounts.get? name with
  | none =>
    apply Bounds.unset
    intro member
    exact Dictionary.mem_keys_iff.mp member found
  | some amount => exact .configured (Dictionary.mem_entries_iff.mpr found)

theorem Bounds.eq_default {amounts : Dictionary Int64} {default amount : Int64}
    (bounds : Bounds amounts name default amount) (missing : name ∉ amounts.keys) :
    amount = default := by
  cases bounds with
  | configured given => exact absurd (List.mem_map.mpr ⟨(name, amount), given, rfl⟩) missing
  | unset missing => rfl

/-- The resources are the names in either map, ascending by their bytes and each once, however the
maps list their keys. A resource has the amounts that are configured for it and otherwise those that
any other name has: nothing at least, and no bound. -/
theorem resources_unite_limits (l : Limits) :
    (l.resources.Pairwise fun name name' => Text.bytes name < Text.bytes name') ∧
    (∀ name, name ∈ l.resources ↔ name ∈ l.least.keys ∨ name ∈ l.greatest.keys) ∧
    (∀ ks ms : List String, ks.Perm l.least.keys → ms.Perm l.greatest.keys →
      Text.sortedOnce (ks ++ ms) = l.resources) ∧
    l.resources.length + l.shared.length = l.least.size + l.greatest.size ∧
    (∀ name, name ∉ l.resources → l.min name = 0 ∧ l.max name = 9223372036854775807) ∧
    ∀ name, name ∈ l.resources → Bounds l.least name 0 (l.min name) ∧
      Bounds l.greatest name 9223372036854775807 (l.max name) := by
  have least (name : String) : Bounds l.least name 0 (l.min name) := bounds_getD _ name _
  have greatest (name : String) : Bounds l.greatest name 9223372036854775807 (l.max name) :=
    bounds_getD _ name _
  refine ⟨l.resources_ascending.imp Text.bytes_lt, fun _ => mem_resources_iff, ?_,
    l.length_resources, ?_, ?_⟩
  · intro ks ms leastKeys greatestKeys
    exact sortedOnce_eq_resources leastKeys greatestKeys
  · intro name unlisted
    rw [mem_resources_iff, not_or] at unlisted
    exact ⟨(least name).eq_default unlisted.1, (greatest name).eq_default unlisted.2⟩
  · intro name _
    exact ⟨least name, greatest name⟩

theorem overlapping_limits_united :
    let l : Limits := {
      least := .ofList [("memory", 2), ("cpu", 4)]
      greatest := .ofList [("memory", 256), ("GPU", 8), ("disk", 64)] }
    Text.sortedOnce (["memory", "cpu"] ++ ["memory", "disk", "GPU"]) = l.resources ∧
      l.resources.length + l.shared.length = 5 ∧ l.shared = ["memory"] ∧
      (l.min "swap" = 0 ∧ l.max "swap" = 9223372036854775807) ∧
      Bounds l.least "GPU" 0 (l.min "GPU") ∧
      Bounds l.greatest "GPU" 9223372036854775807 (l.max "GPU") := by
  intro l
  obtain ⟨-, -, sorted, length, unlisted, listed⟩ := resources_unite_limits l
  have least : ["memory", "cpu"].Perm l.least.keys := by decide
  have greatest : ["memory", "disk", "GPU"].Perm l.greatest.keys := by decide
  exact ⟨sorted _ _ least greatest, length, by decide, unlisted "swap" (by decide),
    listed "GPU" (by decide)⟩

end Limits

end NodeScaling
