import NodeScaling.Proofs.Session
import NodeScaling.Proofs.Sizing

/-!
The life of a bridged group as its orchestrator sees it. Over any list of calls the group answers
like a counter of nodes, although what is stored is a number of vCPUs that need not be a multiple
of the base type. The service keeps at most one definition and is seen either directly or through
the client, which takes a definition without a group for none.
-/
namespace NodeScaling

def Store.answerThroughClient (s : Store) (r : Request) : Outcome × Store :=
  let (outcome, left) := s.answer r
  (outcome.map (Client.settle r), left)

/-- A group that only counts nodes: how many a creation sets, and the vCPUs of one node. -/
structure NodeCounter where
  created : Nat
  base : Nat

def firstMalformed? (nodes : List Node) : Option String :=
  (nodes.map Node.providerId).find? fun id => !(instanceId id).isOk

namespace NodeCounter

def ofConfig (config : Config) (base : UInt32) : NodeCounter :=
  ⟨Bridge.newNodes config base.toNat, base.toNat⟩

def overflow (m : NodeCounter) (nodes : Nat) (delta : Int64) : CloudError :=
  .invalidSize (toString nodes ++ " + " ++ toString delta.toInt ++ " nodes of " ++
    toString m.base ++ " vCPUs overflows the target capacity")

def step (m : NodeCounter) (count : Option Nat) : GroupCall → CallResult × Option Nat
  | .create => (.ok .done, some m.created)
  | .delete => (.ok .done, none)
  | .increaseSize delta =>
    if delta ≤ 0 then (.error (.provider (.invalidDelta delta)), count)
    else if (count.getD 0 + delta.toNatClampNeg) * m.base ≤ 4294967295 then
      (.ok .done, count.map (· + delta.toNatClampNeg))
    else (.error (m.overflow (count.getD 0) delta), count)
  | .decreaseTargetSize _ => (.ok .done, count)
  | .deleteNodes nodes =>
    match firstMalformed? nodes with
    | some id => (.error (.provider (.malformedProviderId id)), count)
    | none => (.ok .done, count)
  | .targetSize => (.ok (.size (count.getD 0)), count)
  | .exists? => (.ok (.existence count.isSome), count)

def run (m : NodeCounter) (count : Option Nat) : List GroupCall → List CallResult × Option Nat
  | [] => ([], count)
  | c :: calls =>
    let (result, next) := m.step count c
    let (later, last) := m.run next calls
    (result :: later, last)

end NodeCounter

def Store.Named (s : Store) : Prop :=
  s.failures = [] ∧ ∀ definition, s.definition = some definition → definition.groupId ≠ ""

structure Counts (base : UInt32) (s : Store) (count : Option Nat) : Prop where
  named : s.Named
  counted : s.definition.map (fun d => d.targetCapacity.toNat / base.toNat) = count

/-- A party that serves every request from a store, as long as its definition names its group. -/
def ServesStore (answer : Store → Request → Outcome × Store) : Prop :=
  ∀ s r, s.Named → answer s r = s.perform r

theorem store_serves_itself : ServesStore Store.answer := by
  intro s r named
  exact Store.answer_of_no_failures named.1 r

theorem client_serves_store : ServesStore Store.answerThroughClient := by
  intro s r named
  unfold Store.answerThroughClient
  rw [store_serves_itself s r named]
  cases r with
  | get =>
    cases kept : s.definition with
    | none => simp [Store.perform, Client.settle, kept, Except.map]
    | some definition =>
      have group := named.2 definition kept
      simp [Store.perform, Client.settle, kept, Except.map, Option.filter, group]
  | create | update | deleteNodes | delete => rfl

theorem instanceIds_outcome (ids : List String) :
    (instanceIds ids).map (fun _ => ()) =
      match ids.find? fun id => !(instanceId id).isOk with
      | some id => .error (.malformedProviderId id)
      | none => .ok () := by
  induction ids with
  | nil => rfl
  | cons id ids ih =>
    cases head : instanceId id with
    | error e =>
      rw [List.find?_cons_of_pos (by simp [head, Except.isOk, Except.toBool]), instanceIds, head]
      exact congrArg Except.error (instanceId_error head)
    | ok found =>
      rw [List.find?_cons_of_neg (by simp [head, Except.isOk, Except.toBool]), ← ih, instanceIds,
        head]
      cases instanceIds ids <;> rfl

section BridgedGroup
variable {answer : Store → Request → Outcome × Store} (underlying : NodeGroup) {b : Bridge}
  {base : UInt32} {s : Store} {count : Option Nat}

theorem request_answered (serves : ServesStore answer) (named : s.Named) (r : Request)
    {outcome : Outcome} {left : Store} (performed : s.perform r = (outcome, left)) :
    (Bridge.request r).run answer s = ⟨outcome.map fun _ => (), [r], left⟩ := by
  unfold Bridge.request
  rw [Talk.run_ask, serves s r named, performed]
  rfl

theorem readNodes_counted (counts : Counts base s count) :
    (Bridge.readNodes base s.definition).toNat = count.getD 0 := by
  rw [← counts.counted]
  cases s.definition with
  | none => rfl
  | some definition => exact UInt32.toNat_div _ _

theorem create_counted (serves : ServesStore answer) (group : b.config.groupId ≠ "")
    (listed : b.baseVcpus = .ok base) (counts : Counts base s count) :
    let held := b.provision.run answer s
    held.value = .ok () ∧ Counts base held.state (some (Bridge.newNodes b.config base.toNat)) := by
  obtain ⟨definition, made, sameGroup, nodes⟩ := Bridge.newDefinition_counted listed
  unfold Bridge.provision
  rw [made]
  dsimp only
  rw [request_answered serves counts.named (.create definition) rfl]
  refine ⟨rfl, ⟨counts.named.1, ?_⟩, ?_⟩
  · intro stored same
    cases same
    rw [sameGroup]
    exact group
  · simp [nodes]

theorem delete_counted (serves : ServesStore answer) (counts : Counts base s count) :
    let held := Bridge.teardown.run answer s
    held.value = .ok () ∧ Counts base held.state none := by
  unfold Bridge.teardown
  rw [request_answered serves counts.named .delete rfl]
  exact ⟨rfl, ⟨counts.named.1, by simp⟩, rfl⟩

theorem increase_counted (serves : ServesStore answer) (listed : b.baseVcpus = .ok base)
    (counts : Counts base s count) (delta : Int64) :
    let held := (b.increaseBy delta).run answer s
    let counted := (NodeCounter.ofConfig b.config base).step count (.increaseSize delta)
    (held.value.mapError BridgeError.toCloud).map (fun _ => CallAnswer.done) = counted.1 ∧
      Counts base held.state counted.2 := by
  have nodes := readNodes_counted counts
  by_cases nonpositive : delta ≤ 0
  · rw [Bridge.increaseBy_of_nonpositive b nonpositive]
    simp only [NodeCounter.step, if_pos nonpositive]
    exact ⟨rfl, counts⟩
  · have positive : 0 < delta := Int64.not_le.mp nonpositive
    rw [Bridge.increaseBy_of_positive b positive, Talk.run_ask, serves s .get counts.named]
    dsimp only [Store.perform]
    rw [Bridge.afterRead_ok listed s.definition positive, nodes]
    simp only [NodeCounter.step, if_neg nonpositive]
    by_cases fits : Bridge.raisedVcpus (count.getD 0) delta.toNatClampNeg base.toNat < UInt32.size
    · have within : (count.getD 0 + delta.toNatClampNeg) * base.toNat ≤ 4294967295 := by
        simp only [Bridge.raisedVcpus, UInt32.size] at fits
        omega
      rw [if_pos fits, NodeCounter.ofConfig, if_pos within,
        request_answered serves counts.named (.update _) rfl]
      refine ⟨rfl, ⟨counts.named.1, ?_⟩, ?_⟩
      · intro stored raised
        obtain ⟨definition, kept, same⟩ := Option.map_eq_some_iff.mp raised
        rw [← same]
        exact counts.named.2 definition kept
      · rw [← counts.counted] at fits ⊢
        cases kept : s.definition with
        | none => rfl
        | some definition =>
          rw [kept] at fits
          exact congrArg some (Bridge.raised_div_base listed fits)
    · have beyond : ¬ (count.getD 0 + delta.toNatClampNeg) * base.toNat ≤ 4294967295 := by
        simp only [Bridge.raisedVcpus, UInt32.size] at fits
        omega
      have refusal :
          (Bridge.targetOverflow (Bridge.readNodes base s.definition) delta base).toCloud =
            (NodeCounter.ofConfig b.config base).overflow (count.getD 0) delta := by
        simp only [Bridge.targetOverflow, NodeCounter.overflow, NodeCounter.ofConfig, nodes,
          BridgeError.toCloud]
      rw [NodeCounter.ofConfig] at refusal
      rw [if_neg fits, NodeCounter.ofConfig, if_neg beyond]
      exact ⟨congrArg Except.error refusal, counts⟩

theorem removal_counted (serves : ServesStore answer) (counts : Counts base s count)
    (nodes : List Node) (m : NodeCounter) :
    let held := (Bridge.removeNodes nodes).run answer s
    let counted := m.step count (.deleteNodes nodes)
    (held.value.mapError BridgeError.toCloud).map (fun _ => CallAnswer.done) = counted.1 ∧
      Counts base held.state counted.2 := by
  have outcome := instanceIds_outcome (nodes.map Node.providerId)
  unfold Bridge.removeNodes
  by_cases empty : nodes.isEmpty
  · have none : nodes = [] := List.isEmpty_iff.mp empty
    subst nodes
    exact ⟨rfl, counts⟩
  · rw [if_neg empty]
    cases read : instanceIds (nodes.map Node.providerId) with
    | ok ids =>
      dsimp only
      rw [request_answered serves counts.named (.deleteNodes Bridge.removalDelta ids) rfl]
      cases first : firstMalformed? nodes with
      | none =>
        simp only [NodeCounter.step, first]
        exact ⟨rfl, counts⟩
      | some id =>
        rw [read, ← firstMalformed?, first] at outcome
        cases outcome
    | error e =>
      cases first : firstMalformed? nodes with
      | none =>
        rw [read, ← firstMalformed?, first] at outcome
        cases outcome
      | some id =>
        rw [read, ← firstMalformed?, first] at outcome
        cases outcome
        simp only [NodeCounter.step, first]
        exact ⟨rfl, counts⟩

theorem target_counted (serves : ServesStore answer) (listed : b.baseVcpus = .ok base)
    (counts : Counts base s count) :
    let held := b.targetNodes.run answer s
    held.value.map UInt32.toNat = .ok (count.getD 0) ∧ held.state = s := by
  unfold Bridge.targetNodes
  rw [Talk.run_ask, serves s .get counts.named, ← readNodes_counted counts]
  cases kept : s.definition with
  | none => simp [Store.perform, kept, Except.map, Bridge.readNodes]
  | some definition =>
    simp [Store.perform, kept, Except.map, Bridge.readNodes, Bridge.nodesOf, listed, pure,
      Except.pure, bind, Except.bind]

theorem existence_counted (serves : ServesStore answer) (counts : Counts base s count) :
    let held := Bridge.lookup.run answer s
    held.value.isPresent = count.isSome ∧ held.state = s := by
  unfold Bridge.lookup
  rw [Talk.run_ask, serves s .get counts.named, ← counts.counted]
  cases kept : s.definition with
  | none => simp [Store.perform, kept, Lookup.isPresent]
  | some definition => simp [Store.perform, kept, Lookup.isPresent]

theorem call_counted (serves : ServesStore answer) (group : b.config.groupId ≠ "")
    (listed : b.baseVcpus = .ok base) (counts : Counts base s count) (c : GroupCall) :
    let held := ((NodeGroup.bridged underlying b).call c).run answer s
    let counted := (NodeCounter.ofConfig b.config base).step count c
    held.value = counted.1 ∧ Counts base held.state counted.2 := by
  cases c with
  | create =>
    obtain ⟨succeeds, created⟩ := create_counted serves group listed counts
    rw [NodeGroup.call, NodeGroup.create, Talk.run_mapValue, run_inCloudTerms]
    dsimp only
    rw [succeeds]
    exact ⟨rfl, created⟩
  | delete =>
    obtain ⟨succeeds, deleted⟩ := delete_counted serves counts
    rw [NodeGroup.call, NodeGroup.delete, Talk.run_mapValue, run_inCloudTerms]
    dsimp only
    rw [succeeds]
    exact ⟨rfl, deleted⟩
  | increaseSize delta =>
    rw [NodeGroup.call, NodeGroup.increaseSize, Talk.run_mapValue, run_inCloudTerms]
    exact increase_counted serves listed counts delta
  | decreaseTargetSize delta => exact ⟨rfl, counts⟩
  | deleteNodes nodes =>
    rw [NodeGroup.call, NodeGroup.deleteNodes, Talk.run_mapValue, run_inCloudTerms]
    exact removal_counted serves counts nodes _
  | targetSize =>
    obtain ⟨size, unchanged⟩ := target_counted serves listed counts
    rw [NodeGroup.call, NodeGroup.targetSize, Talk.run_mapValue, run_inCloudTerms,
      Talk.run_mapValue]
    dsimp only
    rw [size, unchanged]
    exact ⟨rfl, counts⟩
  | exists? =>
    obtain ⟨existence, unchanged⟩ := existence_counted serves counts
    rw [NodeGroup.call, NodeGroup.exists?, Talk.run_mapValue, Talk.run_mapValue]
    dsimp only
    rw [existence, unchanged]
    exact ⟨rfl, counts⟩

theorem calls_counted (serves : ServesStore answer) (group : b.config.groupId ≠ "")
    (listed : b.baseVcpus = .ok base) (counts : Counts base s count) (calls : List GroupCall) :
    let held := ((NodeGroup.bridged underlying b).callAll calls).run answer s
    let counted := (NodeCounter.ofConfig b.config base).run count calls
    held.value = counted.1 ∧ Counts base held.state counted.2 := by
  induction calls generalizing s count with
  | nil => exact ⟨rfl, counts⟩
  | cons c calls ih =>
    obtain ⟨result, next⟩ := call_counted underlying serves group listed counts c
    obtain ⟨results, last⟩ := ih next
    rw [NodeGroup.run_callAll_cons, NodeCounter.run]
    dsimp only
    rw [result, results]
    exact ⟨rfl, last⟩

end BridgedGroup

/-- Any list of calls on a bridged group, from no definition on, is answered as by a counter of
nodes, and what is stored at the end stands for the count. -/
theorem bridged_group_counts_nodes (records : List (String × UInt32)) (config : Config)
    (underlying : NodeGroup) (base : UInt32) (group : config.groupId ≠ "")
    (listed : (Catalog.ofRecords records).get? config.baseInstanceType = some base)
    (calls : List GroupCall) :
    let bridged := NodeGroup.bridged underlying ⟨Catalog.ofRecords records, config⟩
    let counted := (NodeCounter.ofConfig config base).run none calls
    let direct := (bridged.callAll calls).run Store.answer {}
    let throughClient := (bridged.callAll calls).run Store.answerThroughClient {}
    (direct.value = counted.1 ∧ throughClient.value = counted.1) ∧
      direct.state.definition.map (fun d => d.targetCapacity.toNat / base.toNat) = counted.2 ∧
      throughClient.state.definition.map (fun d => d.targetCapacity.toNat / base.toNat) =
        counted.2 := by
  have start : Counts base {} none := ⟨⟨rfl, by simp⟩, rfl⟩
  have known : Bridge.baseVcpus ⟨Catalog.ofRecords records, config⟩ = .ok base :=
    Catalog.vcpusOf_eq_ok_iff.mpr listed
  obtain ⟨answers, stored⟩ := calls_counted underlying store_serves_itself group
    known start calls
  obtain ⟨filtered, kept⟩ := calls_counted underlying client_serves_store group
    known start calls
  exact ⟨⟨answers, filtered⟩, stored.counted, kept.counted⟩

/-- Ten vCPUs are two nodes of four; three more nodes are written as twenty vCPUs. -/
theorem uneven_target_counts_nodes :
    let config := { Config.bare "workers" "c3.xlarge" with targetCapacityVcpus := 10 }
    let group := NodeGroup.fixed { id := "workers", minSize := 0, maxSize := 9 }
    let bridged := NodeGroup.bridged group ⟨Catalog.ofRecords [("c3.xlarge", 4)], config⟩
    let calls := [.increaseSize 1, .exists?, .create, .targetSize, .increaseSize 3,
      .decreaseTargetSize (-2), .targetSize, .increaseSize 0, .delete, .targetSize]
    ((bridged.callAll calls).run Store.answer {}).value =
      [.ok .done, .ok (.existence false), .ok .done, .ok (.size 2), .ok .done, .ok .done,
        .ok (.size 5), .error (.provider (.invalidDelta 0)), .ok .done, .ok (.size 0)] :=
  (bridged_group_counts_nodes _ _ _ 4 (by decide) (by decide) _).1.1

end NodeScaling
