import Mathlib.Data.List.Nodup
import NodeScaling.Dictionary

/-!
Maps by what they hold. Looking a key up finds the value that was put under it last, and a map is
determined by what is found in it, whatever order its entries came in.
-/
namespace NodeScaling.Dictionary
variable {α : Type} {d d' : Dictionary α} {es es' : List (String × α)} {key : String} {value : α}

theorem lookup_cons_eq (key name : String) (value : α) (es : List (String × α)) :
    ((name, value) :: es).lookup key = if key = name then some value else es.lookup key := by
  rw [List.lookup_cons]
  by_cases same : key = name
  · rw [if_pos same, same, beq_self_eq_true]
  · rw [if_neg same, beq_false_of_ne same]

theorem lookup_insertEntry (key other : String) (value : α) (es : List (String × α)) :
    (insertEntry key value es).lookup other = if other = key then some value else es.lookup other := by
  induction es with
  | nil => exact lookup_cons_eq other key value []
  | cons first es ih =>
    obtain ⟨name, x⟩ := first
    rw [insertEntry]
    split
    · exact lookup_cons_eq other key value _
    · split
      · next same =>
        subst same
        simp only [lookup_cons_eq]
        split <;> rfl
      · next different =>
        simp only [lookup_cons_eq, ih]
        by_cases here : other = name
        · have apart : other ≠ key := fun same => different (same.symm.trans here)
          rw [if_pos here, if_pos here, if_neg apart]
        · rw [if_neg here, if_neg here]

theorem get?_insert (d : Dictionary α) (key other : String) (value : α) :
    (d.insert key value).get? other = if other = key then some value else d.get? other :=
  lookup_insertEntry key other value d.entries

theorem get?_foldl_insert (es : List (String × α)) (d : Dictionary α) (key : String) :
    (es.foldl (fun d (name, value) => d.insert name value) d).get? key =
      (es.reverse.lookup key).or (d.get? key) := by
  induction es generalizing d with
  | nil => rfl
  | cons first es ih =>
    obtain ⟨name, x⟩ := first
    rw [List.foldl_cons, ih, get?_insert, List.reverse_cons, List.lookup_append, Option.or_assoc,
      lookup_cons_eq]
    split <;> rfl

theorem get?_ofList (es : List (String × α)) (key : String) :
    (ofList es).get? key = es.reverse.lookup key := by
  rw [ofList, get?_foldl_insert]
  exact Option.or_none

theorem keys_nodup (d : Dictionary α) : d.keys.Nodup := by
  rw [keys, List.Nodup, List.pairwise_map]
  exact d.ascending.imp fun less => String.ne_of_lt less

theorem lookup_eq_some_iff_mem (distinct : (es.map Prod.fst).Nodup) :
    es.lookup key = some value ↔ (key, value) ∈ es := by
  induction es with
  | nil => simp
  | cons first es ih =>
    obtain ⟨name, x⟩ := first
    obtain ⟨fresh, rest⟩ := List.nodup_cons.mp distinct
    rw [lookup_cons_eq, List.mem_cons, Prod.mk.injEq]
    split
    · next same =>
      subst same
      have later : (key, value) ∉ es := fun member =>
        fresh (List.mem_map.mpr ⟨(key, value), member, rfl⟩)
      simp [later, eq_comm]
    · next different => simp [different, ih rest]

theorem mem_entries_iff : (key, value) ∈ d.entries ↔ d.get? key = some value :=
  (lookup_eq_some_iff_mem d.keys_nodup).symm

theorem mem_keys_iff : key ∈ d.keys ↔ d.get? key ≠ none := by
  rw [keys, List.mem_map, Option.ne_none_iff_exists']
  constructor
  · rintro ⟨⟨_, value⟩, member, rfl⟩
    exact ⟨value, mem_entries_iff.mp member⟩
  · rintro ⟨value, found⟩
    exact ⟨(key, value), mem_entries_iff.mpr found, rfl⟩

theorem entries_nodup (d : Dictionary α) : d.entries.Nodup :=
  d.keys_nodup.of_map Prod.fst

theorem eq_of_get? (same : ∀ key, d.get? key = d'.get? key) : d = d' := by
  have perm : d.entries.Perm d'.entries :=
    (List.perm_ext_iff_of_nodup d.entries_nodup d'.entries_nodup).mpr fun (key, value) => by
      rw [mem_entries_iff, mem_entries_iff, same]
  have entries : d.entries = d'.entries :=
    perm.eq_of_pairwise (fun a b _ _ less greater => absurd less (String.lt_asymm greater))
      d.ascending d'.ascending
  cases d
  cases d'
  congr

theorem ofList_entries (d : Dictionary α) : ofList d.entries = d := by
  have entries := entries_ofList d.ascending
  cases d
  rwa [ofList, mk.injEq]

/-- Put into a map one after another, either list of entries leaves each key with the same value. -/
def SameInTheEnd (es es' : List (String × α)) : Prop :=
  ∀ key, es.reverse.lookup key = es'.reverse.lookup key

theorem SameInTheEnd.ofList_eq (same : SameInTheEnd es es') : ofList es = ofList es' := by
  refine eq_of_get? fun key => ?_
  rw [get?_ofList, get?_ofList, same]

theorem SameInTheEnd.of_perm (distinct : (es.map Prod.fst).Nodup) (perm : es.Perm es') :
    SameInTheEnd es es' := by
  intro key
  have distinct' : (es'.map Prod.fst).Nodup := (perm.map Prod.fst).nodup_iff.mp distinct
  refine Option.ext fun value => ?_
  rw [lookup_eq_some_iff_mem, lookup_eq_some_iff_mem, List.mem_reverse, List.mem_reverse,
    perm.mem_iff]
  · rwa [List.map_reverse, List.nodup_reverse]
  · rwa [List.map_reverse, List.nodup_reverse]

end NodeScaling.Dictionary
