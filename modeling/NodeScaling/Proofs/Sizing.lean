import NodeScaling.Bridge

/-!
The sizes behind the bridge, over the natural numbers: which target an increase writes and when it
is refused, and how many nodes a new definition stands for. No result wraps: one beyond 32 bits is
refused by an increase and cut off by a creation.
-/
namespace NodeScaling

def Config.bare (groupId baseType : String) : Config :=
  { groupId, region := "", apiKey := "", displayName := "", maxSpotPercentTotal := 0
    maxSpotPercentOneMarket := 0, detailedMonitoring := false, maxHoursInstanceAge := 0
    instanceTypes := [baseType], targetCapacityVcpus := 0, targetCapacityInstances := 0
    targetSpareCpuPercent := 0, targetSpareMemoryPercent := 0, osFamily := "", apiEndpoint := ""
    clusterStateEndpoint := "" }

def Store.keeping (d : Definition) (target : UInt32) : Store :=
  { definition := some { d with targetCapacity := target } }

namespace Bridge
variable {b : Bridge} {base : UInt32}

def raisedVcpus (current delta base : Nat) : Nat := (current + delta) * base

theorem raisedTarget?_eq (current base : UInt32) {delta : Int64} (positive : 0 < delta) :
    raisedTarget? current.toUInt64 delta.toUInt64 base.toUInt64 =
      if raisedVcpus current.toNat delta.toNatClampNeg base.toNat < UInt32.size then
        some (UInt32.ofNat (raisedVcpus current.toNat delta.toNatClampNeg base.toNat))
      else none := by
  have deltaNat : delta.toUInt64.toNat = delta.toNatClampNeg :=
    Int64.toNat_toUInt64_of_le (Int64.le_of_lt positive)
  have deltaSmall := delta.toNatClampNeg_lt
  have currentSmall := current.toNat_lt
  unfold raisedTarget? raisedVcpus
  cases added : CheckedWord.add? current.toUInt64 delta.toUInt64 with
  | none =>
    have beyond := CheckedWord.add?_eq_none_iff.mp added
    simp only [UInt32.toNat_toUInt64, deltaNat, UInt64.size] at beyond
    omega
  | some nodes =>
    have nodesNat := CheckedWord.add?_eq_some added
    simp only [UInt32.toNat_toUInt64, deltaNat] at nodesNat
    rw [← nodesNat, Option.bind_eq_bind, Option.bind_some]
    cases multiplied : CheckedWord.mul? nodes base.toUInt64 with
    | none =>
      have beyond := CheckedWord.mul?_eq_none_iff.mp multiplied
      simp only [UInt32.toNat_toUInt64, UInt64.size] at beyond
      rw [if_neg (by simp only [UInt32.size]; omega)]
      rfl
    | some vcpus =>
      have vcpusNat := CheckedWord.mul?_eq_some multiplied
      rw [UInt32.toNat_toUInt64] at vcpusNat
      rw [← vcpusNat]
      rfl

theorem raisedTarget_eq (listed : b.baseVcpus = .ok base) (current : UInt32) {delta : Int64}
    (positive : 0 < delta) :
    b.raisedTarget current delta =
      if raisedVcpus current.toNat delta.toNatClampNeg base.toNat < UInt32.size then
        .ok (UInt32.ofNat (raisedVcpus current.toNat delta.toNatClampNeg base.toNat))
      else .error (targetOverflow current delta base) := by
  have opened : b.raisedTarget current delta =
      (raisedTarget? current.toUInt64 delta.toUInt64 base.toUInt64).elim
        (.error (targetOverflow current delta base)) .ok := by
    unfold raisedTarget
    rw [listed]
    refine (pure_bind base _).trans ?_
    cases raisedTarget? current.toUInt64 delta.toUInt64 base.toUInt64 <;> rfl
  rw [opened, raisedTarget?_eq current base positive]
  split <;> rfl

theorem base_pos (listed : b.baseVcpus = .ok base) : 0 < base.toNat :=
  UInt32.lt_iff_toNat_lt.mp (Catalog.pos_of_vcpusOf listed)

theorem raised_div_base {current delta : Nat} (listed : b.baseVcpus = .ok base)
    (fits : raisedVcpus current delta base.toNat < UInt32.size) :
    (UInt32.ofNat (raisedVcpus current delta base.toNat)).toNat / base.toNat = current + delta := by
  rw [UInt32.toNat_ofNat_of_lt' fits]
  exact Nat.mul_div_cancel _ (base_pos listed)

theorem toNatClampNeg_pos {delta : Int64} (positive : 0 < delta) : 0 < delta.toNatClampNeg := by
  have above := Int64.lt_iff_toInt_lt.mp positive
  rw [← Int64.cast_toNatClampNeg delta (Int64.le_of_lt positive), Int64.toInt_zero] at above
  exact Int.natCast_pos.mp above

/-- Nodes that are rounded down from a target, raised by at least one, take more vCPUs than it. -/
theorem lt_raisedVcpus (listed : b.baseVcpus = .ok base) (target : Nat) {delta : Int64}
    (positive : 0 < delta) :
    target < raisedVcpus (target / base.toNat) delta.toNatClampNeg base.toNat := by
  calc target
      < (target / base.toNat + 1) * base.toNat :=
        Nat.lt_mul_of_div_lt (Nat.lt_succ_self _) (base_pos listed)
    _ ≤ raisedVcpus (target / base.toNat) delta.toNatClampNeg base.toNat :=
        Nat.mul_le_mul_right _ (Nat.add_le_add_left (toNatClampNeg_pos positive) _)

def readNodes (base : UInt32) : Option Definition → UInt32
  | some definition => definition.targetCapacity / base
  | none => 0

/-- The same number over the natural numbers: the vCPUs of the target that was read by those of a
node, rounded down, and zero if no definition was read. -/
def foundNodes (base : UInt32) (found : Option Definition) : Nat :=
  found.elim 0 fun definition => definition.targetCapacity.toNat / base.toNat

theorem toNat_readNodes (base : UInt32) (found : Option Definition) :
    (readNodes base found).toNat = foundNodes base found := by
  cases found with
  | none => rfl
  | some definition => exact UInt32.toNat_div _ _

def afterRead (b : Bridge) (delta : Int64) : Outcome → Exchange (Except BridgeError Unit)
  | .ok found =>
    match (found.map b.nodesOf).getD (.ok 0) with
    | .ok current =>
      match b.raisedTarget current delta with
      | .ok target => request (.update target)
      | .error e => .done (.error e)
    | .error e => .done (.error e)
  | .error e => .done (.error e)

theorem increaseBy_of_nonpositive (b : Bridge) {delta : Int64} (nonpositive : delta ≤ 0) :
    b.increaseBy delta = .done (.error (.invalidDelta delta)) := by
  rw [increaseBy, if_pos nonpositive]

theorem increaseBy_of_positive (b : Bridge) {delta : Int64} (positive : 0 < delta) :
    b.increaseBy delta = .ask .get (b.afterRead delta) := by
  rw [increaseBy, if_neg (Int64.not_le.mpr positive)]
  unfold targetNodes Talk.andThen
  rw [Talk.ask_bind]
  congr 1
  funext outcome
  cases outcome with
  | error e => rfl
  | ok found =>
    cases found with
    | none => rfl
    | some definition =>
      simp only [Talk.done_bind, afterRead, Option.map_some, Option.getD_some]
      cases b.nodesOf definition <;> rfl

theorem afterRead_error (b : Bridge) (delta : Int64) (e : BridgeError) :
    b.afterRead delta (.error e) = .done (.error e) := rfl

theorem afterRead_of_unlisted (unlisted : b.catalog.get? b.config.baseInstanceType = none)
    (delta : Int64) (found : Option Definition) :
    b.afterRead delta (.ok found) =
      .done (.error (.unknownInstanceType b.config.baseInstanceType)) := by
  have unknown : b.baseVcpus = .error (.unknownInstanceType b.config.baseInstanceType) := by
    rw [baseVcpus, Catalog.vcpusOf, unlisted]
  cases found with
  | none => simp [afterRead, raisedTarget, unknown, bind, Except.bind]
  | some definition => simp [afterRead, nodesOf, unknown, bind, Except.bind]

theorem afterRead_ok (listed : b.baseVcpus = .ok base) (found : Option Definition) {delta : Int64}
    (positive : 0 < delta) :
    b.afterRead delta (.ok found) =
      if raisedVcpus (readNodes base found).toNat delta.toNatClampNeg base.toNat < UInt32.size then
        request (.update
          (UInt32.ofNat (raisedVcpus (readNodes base found).toNat delta.toNatClampNeg base.toNat)))
      else .done (.error (targetOverflow (readNodes base found) delta base)) := by
  have counted : (found.map b.nodesOf).getD (.ok 0) = .ok (readNodes base found) := by
    cases found with
    | none => rfl
    | some definition =>
      simp only [Option.map_some, Option.getD_some, nodesOf, listed]
      rfl
  have raised := raisedTarget_eq listed (readNodes base found) positive
  simp only [afterRead, counted]
  by_cases fits : raisedVcpus (readNodes base found).toNat delta.toNatClampNeg base.toNat <
      UInt32.size
  · rw [raised, if_pos fits, if_pos fits]
  · rw [raised, if_neg fits, if_neg fits]

/-- How many nodes the definition made for a configuration stands for: a target in vCPUs counts
before one in nodes, and the latter is cut off where 32 bits end. -/
def newNodes (config : Config) (base : Nat) : Nat :=
  if config.targetCapacityVcpus ≠ 0 then config.targetCapacityVcpus.toNat / base
  else min config.targetCapacityInstances.toNat ((UInt32.size - 1) / base)

theorem toNat_saturatingMul_div (nodes : UInt32) (positive : 0 < base.toNat) :
    (CheckedWord.saturatingMul nodes base).toNat / base.toNat =
      min nodes.toNat ((UInt32.size - 1) / base.toNat) := by
  rw [CheckedWord.toNat_saturatingMul]
  by_cases fits : nodes.toNat * base.toNat ≤ UInt32.size - 1
  · have within : nodes.toNat ≤ (UInt32.size - 1) / base.toNat :=
      (Nat.le_div_iff_mul_le positive).mpr fits
    rw [Nat.min_eq_left fits, Nat.min_eq_left within, Nat.mul_div_cancel _ positive]
  · have beyond : (UInt32.size - 1) / base.toNat ≤ nodes.toNat :=
      Nat.div_le_of_le_mul (by rw [Nat.mul_comm]; omega)
    rw [Nat.min_eq_right (by omega), Nat.min_eq_right beyond]

section Initial
variable (b)

theorem initialTarget_of_vcpus (given : b.config.targetCapacityVcpus ≠ 0) :
    b.initialTarget = .ok b.config.targetCapacityVcpus := by
  rw [initialTarget, if_pos given]

theorem initialTarget_of_nodes (ungiven : b.config.targetCapacityVcpus = 0)
    (wanted : b.config.targetCapacityInstances ≠ 0) :
    b.initialTarget =
      b.baseVcpus.map (CheckedWord.saturatingMul b.config.targetCapacityInstances) := by
  rw [initialTarget, if_neg (not_not_intro ungiven), if_pos wanted]

theorem initialTarget_of_nothing (ungiven : b.config.targetCapacityVcpus = 0)
    (unwanted : b.config.targetCapacityInstances = 0) : b.initialTarget = .ok 0 := by
  rw [initialTarget, if_neg (not_not_intro ungiven), if_neg (not_not_intro unwanted)]

end Initial

theorem newDefinition_counted (listed : b.baseVcpus = .ok base) :
    ∃ definition, b.newDefinition = .ok definition ∧ definition.groupId = b.config.groupId ∧
      definition.targetCapacity.toNat / base.toNat = newNodes b.config base.toNat := by
  have made : ∃ target, b.initialTarget = .ok target ∧
      target.toNat / base.toNat = newNodes b.config base.toNat := by
    unfold newNodes
    by_cases vcpus : b.config.targetCapacityVcpus = 0
    · by_cases instances : b.config.targetCapacityInstances = 0
      · exact ⟨0, b.initialTarget_of_nothing vcpus instances, by simp [vcpus, instances]⟩
      · refine ⟨CheckedWord.saturatingMul b.config.targetCapacityInstances base, ?_, ?_⟩
        · rw [b.initialTarget_of_nodes vcpus instances, listed]
          rfl
        · simp [vcpus, toNat_saturatingMul_div _ (base_pos listed)]
    · exact ⟨_, b.initialTarget_of_vcpus vcpus, by simp [vcpus]⟩
  obtain ⟨target, initial, counted⟩ := made
  unfold newDefinition
  rw [initial]
  exact ⟨_, rfl, rfl, counted⟩

end Bridge

end NodeScaling
