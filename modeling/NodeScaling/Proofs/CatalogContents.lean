import Mathlib.Data.List.Dedup
import NodeScaling.Proofs.ByteOrder
import NodeScaling.Proofs.DictionaryContents
import NodeScaling.Proofs.ResponseViews

/-!
What a catalog holds of the records it is built from. Of each name the last record with vCPUs
counts, and one without vCPUs changes nothing, so that every count that is found can divide.
-/
namespace NodeScaling.Catalog
variable {c : Catalog} {records hashed : List (String × UInt32)} {name : String} {vcpus : UInt32}

/-- The entry stands in the records, has vCPUs, and no later record of its name has any. -/
def IsLatest (records : List (String × UInt32)) (name : String) (vcpus : UInt32) : Prop :=
  ∃ before after, records = before ++ (name, vcpus) :: after ∧ 0 < vcpus ∧
    ∀ r ∈ after, r.1 = name → r.2 = 0

def IsUnlisted (records : List (String × UInt32)) (name : String) : Prop :=
  ∀ r ∈ records, r.1 = name → r.2 = 0

def nameOrder (a b : String × UInt32) : Bool :=
  decide (Text.bytes a.1 ≤ Text.bytes b.1)

/-- The size in nodes that a reply stands for: a count of nodes of the base type, each of a
positive number of vCPUs, that fill the target as far as whole nodes can. -/
inductive Sizes (c : Catalog) (base : String) : Outcome → Except BridgeError UInt32 → Prop where
  | failed (e : BridgeError) : Sizes c base (.error e) (.error e)
  | absent : Sizes c base (.ok none) (.ok 0)
  | unknown (d : Definition) (missing : c.get? base = none) :
      Sizes c base (.ok (some d)) (.error (.unknownInstanceType base))
  | whole (d : Definition) (vcpus nodes : UInt32) (found : c.get? base = some vcpus)
      (positive : 0 < vcpus) (filled : nodes.toNat * vcpus.toNat ≤ d.targetCapacity.toNat)
      (full : d.targetCapacity.toNat < (nodes.toNat + 1) * vcpus.toNat) :
      Sizes c base (.ok (some d)) (.ok nodes)

structure Tells (records : List (String × UInt32)) (c : Catalog) : Prop where
  found : ∀ name vcpus, c.get? name = some vcpus ↔ IsLatest records name vcpus
  missing : ∀ name, c.get? name = none ↔ IsUnlisted records name
  counted : ∀ name vcpus, c.vcpusOf name = .ok vcpus ↔ IsLatest records name vcpus
  unknown : ∀ name e, c.vcpusOf name = .error e ↔
    e = .unknownInstanceType name ∧ IsUnlisted records name
  positive : ∀ name vcpus, c.vcpusOf name = .ok vcpus → 0 < vcpus
  zero_skipped : ∀ before name after, records = before ++ (name, 0) :: after →
    c = ofRecords (before ++ after)
  sizes : ∀ (config : Config) {σ : Type} (answer : σ → Request → Outcome × σ) (state : σ),
    Sizes c config.baseInstanceType (answer state .get).1
      ((Bridge.mk c config).targetNodes.run answer state).value
  listed : ∀ name vcpus, (name, vcpus) ∈ c.toList ↔ c.get? name = some vcpus
  ascending : c.toList.Pairwise fun a b => Text.bytes a.1 < Text.bytes b.1
  any_order : ∀ hashed : List (String × UInt32), hashed.Perm c.toList →
    hashed.mergeSort nameOrder = c.toList
  size : c.size = ((records.filter fun r => 0 < r.2).map Prod.fst).dedup.length
  isEmpty : c.isEmpty = true ↔ c.size = 0

theorem get?_add (c : Catalog) (name other : String) (vcpus : UInt32) :
    (c.add name vcpus).get? other =
      if name = other ∧ 0 < vcpus then some vcpus else c.get? other := by
  rw [add]
  split
  · next positive =>
    rw [get?, Dictionary.get?_insert]
    by_cases same : other = name
    · rw [if_pos same, if_pos ⟨same.symm, positive⟩]
    · rw [if_neg same, if_neg fun both => same both.1.symm]
      rfl
  · next zero => rw [if_neg fun both => zero both.2]

def counts (name : String) (r : String × UInt32) : Bool :=
  decide (r.1 = name ∧ 0 < r.2)

theorem counts_iff {r : String × UInt32} : counts name r = true ↔ r.1 = name ∧ 0 < r.2 :=
  decide_eq_true_iff

theorem not_counts_iff {r : String × UInt32} :
    ¬ counts name r = true ↔ (r.1 = name → r.2 = 0) := by
  rw [counts_iff, not_and, UInt32.not_lt, UInt32.le_zero_iff]

theorem get?_foldl_add (records : List (String × UInt32)) (c : Catalog) (name : String) :
    (records.foldl (fun c (type, vcpus) => c.add type vcpus) c).get? name =
      ((records.reverse.find? (counts name)).map Prod.snd).or (c.get? name) := by
  induction records generalizing c with
  | nil => rfl
  | cons first records ih =>
    rw [List.foldl_cons, ih, get?_add, List.reverse_cons, List.find?_append, Option.map_or,
      Option.or_assoc, List.find?_singleton]
    by_cases latest : first.1 = name ∧ 0 < first.2
    · rw [if_pos latest, if_pos (counts_iff.mpr latest)]
      rfl
    · rw [if_neg latest, if_neg fun counted => latest (counts_iff.mp counted)]
      rfl

theorem get?_ofRecords (records : List (String × UInt32)) (name : String) :
    (ofRecords records).get? name = (records.reverse.find? (counts name)).map Prod.snd := by
  rw [ofRecords, get?_foldl_add]
  exact Option.or_none

theorem get?_ofRecords_eq_some_iff :
    (ofRecords records).get? name = some vcpus ↔ IsLatest records name vcpus := by
  rw [get?_ofRecords, Option.map_eq_some_iff]
  have skipped (r : String × UInt32) : (!counts name r) = true ↔ (r.1 = name → r.2 = 0) := by
    rw [Bool.not_eq_true', ← Bool.not_eq_true, not_counts_iff]
  simp only [List.find?_eq_some_iff_append, skipped, counts_iff]
  constructor
  · rintro ⟨⟨_, _⟩, ⟨⟨rfl, positive⟩, later, earlier, split, zeros⟩, rfl⟩
    refine ⟨earlier.reverse, later.reverse, ?_, positive, fun r member => ?_⟩
    · simpa using congrArg List.reverse split
    · exact zeros r (List.mem_reverse.mp member)
  · rintro ⟨before, after, rfl, positive, zeros⟩
    refine ⟨(name, vcpus), ⟨⟨rfl, positive⟩, after.reverse, before.reverse, ?_, fun r member => ?_⟩,
      rfl⟩
    · simp
    · exact zeros r (List.mem_reverse.mp member)

theorem get?_ofRecords_eq_none_iff :
    (ofRecords records).get? name = none ↔ IsUnlisted records name := by
  rw [get?_ofRecords, Option.map_eq_none_iff, List.find?_eq_none]
  simp only [List.mem_reverse, not_counts_iff]
  rfl

theorem add_zero (c : Catalog) (name : String) : c.add name 0 = c :=
  dif_neg (by decide)

theorem ofRecords_zero (before after : List (String × UInt32)) (name : String) :
    ofRecords (before ++ (name, 0) :: after) = ofRecords (before ++ after) := by
  simp only [ofRecords, List.foldl_append, List.foldl_cons, add_zero]

theorem mem_toList_iff : (name, vcpus) ∈ c.toList ↔ c.get? name = some vcpus :=
  Dictionary.mem_entries_iff

theorem toList_ascending (c : Catalog) :
    c.toList.Pairwise fun a b => Text.bytes a.1 < Text.bytes b.1 :=
  c.types.ascending.imp Text.bytes_lt

theorem nameOrder_iff (a b : String × UInt32) : nameOrder a b = true ↔ a.1 ≤ b.1 :=
  Text.byteOrder_iff

theorem mergeSort_eq_toList (perm : hashed.Perm c.toList) :
    hashed.mergeSort nameOrder = c.toList := by
  have sorted : (hashed.mergeSort nameOrder).Pairwise fun a b => nameOrder a b = true :=
    List.pairwise_mergeSort
      (fun a b d first second => (nameOrder_iff a d).mpr
        (String.le_trans ((nameOrder_iff a b).mp first) ((nameOrder_iff b d).mp second)))
      (fun a b => by simpa [nameOrder_iff] using String.le_total a.1 b.1) hashed
  have listed : c.toList.Pairwise fun a b => nameOrder a b = true :=
    c.types.ascending.imp fun less => (nameOrder_iff _ _).mpr (String.not_lt.mp (String.lt_asymm less))
  have samePerm := (List.mergeSort_perm hashed nameOrder).trans perm
  -- the order looks at names only, but a name has only one count
  refine samePerm.eq_of_pairwise (fun a b among among' less greater => ?_) sorted listed
  have name : a.1 = b.1 :=
    String.le_antisymm ((nameOrder_iff a b).mp less) ((nameOrder_iff b a).mp greater)
  have here : c.get? a.1 = some a.2 := mem_toList_iff.mp (samePerm.mem_iff.mp among)
  have there : c.get? b.1 = some b.2 := mem_toList_iff.mp among'
  rw [name, there] at here
  exact Prod.ext name (Option.some.inj here.symm)

theorem mem_keys_ofRecords_iff : name ∈ (ofRecords records).types.keys ↔
    name ∈ ((records.filter fun r => 0 < r.2).map Prod.fst).dedup := by
  rw [Dictionary.mem_keys_iff, List.mem_dedup]
  have missing : (ofRecords records).types.get? name = none ↔ IsUnlisted records name :=
    get?_ofRecords_eq_none_iff
  rw [ne_eq, missing]
  simp only [IsUnlisted, List.mem_map, List.mem_filter, decide_eq_true_eq]
  constructor
  · intro some
    obtain ⟨r, some⟩ := Classical.not_forall.mp some
    obtain ⟨member, some⟩ := Classical.not_forall.mp some
    obtain ⟨named, positive⟩ := Classical.not_forall.mp some
    exact ⟨r, ⟨member, UInt32.pos_iff_ne_zero.mpr positive⟩, named⟩
  · rintro ⟨r, ⟨member, positive⟩, named⟩ zeros
    exact UInt32.pos_iff_ne_zero.mp positive (zeros r member named)

theorem size_ofRecords (records : List (String × UInt32)) :
    (ofRecords records).size = ((records.filter fun r => 0 < r.2).map Prod.fst).dedup.length := by
  have perm := (List.perm_ext_iff_of_nodup (ofRecords records).types.keys_nodup
    (List.nodup_dedup ((records.filter fun r => 0 < r.2).map Prod.fst))).mpr fun _ =>
      mem_keys_ofRecords_iff
  rw [← perm.length_eq, Dictionary.keys, List.length_map]
  rfl

theorem isEmpty_iff (c : Catalog) : c.isEmpty = true ↔ c.size = 0 := by
  rw [isEmpty, List.isEmpty_iff, size, Dictionary.size, List.length_eq_zero_iff]

theorem vcpusOf_eq_error_iff {e : BridgeError} :
    c.vcpusOf name = .error e ↔ e = .unknownInstanceType name ∧ c.get? name = none := by
  rw [vcpusOf]
  cases c.get? name with
  | none => simp [eq_comm]
  | some vcpus => simp

theorem sizes_targetNodes (c : Catalog) (config : Config) {σ : Type}
    (answer : σ → Request → Outcome × σ) (state : σ) :
    Sizes c config.baseInstanceType (answer state .get).1
      ((Bridge.mk c config).targetNodes.run answer state).value := by
  rw [Bridge.targetNodes_eq]
  simp only [Talk.run_ask, Talk.run_done]
  rcases (answer state .get).1 with e | _ | d
  · exact .failed e
  · exact .absent
  · rw [Bridge.nodesRead, Bridge.nodesOf, Bridge.baseVcpus]
    cases counted : c.vcpusOf config.baseInstanceType with
    | error e =>
      obtain ⟨rfl, missing⟩ := vcpusOf_eq_error_iff.mp counted
      exact .unknown d missing
    | ok vcpus =>
      have positive := pos_of_vcpusOf counted
      have divisor : 0 < vcpus.toNat := UInt32.lt_iff_toNat_lt.mp positive
      have target : vcpus.toNat * (d.targetCapacity.toNat / vcpus.toNat) +
          d.targetCapacity.toNat % vcpus.toNat = d.targetCapacity.toNat := Nat.div_add_mod _ _
      have left := Nat.mod_lt d.targetCapacity.toNat divisor
      refine .whole d vcpus _ (vcpusOf_eq_ok_iff.mp counted) positive ?_ ?_
      · rw [UInt32.toNat_div, Nat.mul_comm]
        omega
      · rw [UInt32.toNat_div, Nat.add_mul, Nat.one_mul, Nat.mul_comm]
        omega

/-- A catalog holds for each name the latest record with vCPUs, and lists these by the bytes of the
names; whatever it finds can divide a target. -/
theorem catalog_tells_records (records : List (String × UInt32)) :
    Tells records (ofRecords records) where
  found _ _ := get?_ofRecords_eq_some_iff
  missing _ := get?_ofRecords_eq_none_iff
  counted _ _ := vcpusOf_eq_ok_iff.trans get?_ofRecords_eq_some_iff
  unknown _ _ := by rw [vcpusOf_eq_error_iff, get?_ofRecords_eq_none_iff]
  positive _ _ := pos_of_vcpusOf
  zero_skipped before name after split := by rw [split, ofRecords_zero]
  sizes config σ answer state := sizes_targetNodes _ config answer state
  listed _ _ := mem_toList_iff
  ascending := toList_ascending _
  any_order _ := mergeSort_eq_toList
  size := size_ofRecords records
  isEmpty := isEmpty_iff _

theorem interleaved_zeros_told :
    let records := [("m3.large", 4), ("c3.large", 0), ("m3.large", 0), ("c3.large", 2),
      ("m3.large", 8), ("m3.large", 0)]
    let c := ofRecords records
    c.get? "m3.large" = some 8 ∧ c.vcpusOf "t2.nano" = .error (.unknownInstanceType "t2.nano") ∧
      [("m3.large", 8), ("c3.large", 2)].mergeSort nameOrder = c.toList ∧ c.size = 2 := by
  intro records c
  have tells : Tells records c := catalog_tells_records records
  refine ⟨(tells.found _ _).mpr ?_, (tells.unknown _ _).mpr ⟨rfl, ?_⟩, tells.any_order _ ?_, ?_⟩
  · exact ⟨records.take 4, records.drop 5, rfl, by decide, by decide⟩
  · rw [IsUnlisted]
    decide
  · exact .swap _ _ _
  · rw [tells.size]
    decide

end NodeScaling.Catalog
