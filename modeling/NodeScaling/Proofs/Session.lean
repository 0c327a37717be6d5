import NodeScaling.ClusterState
import NodeScaling.NodeGroup

/-!
Calls as data. The calls by which an orchestrator sizes a group and keeps it at its provider make
one conversation, whose value is the list of what the calls answer. A session under one
configuration is what is asked of the client, of the bridge or of the group it stands behind, with
the reports of the cluster state; its calls are one conversation in posts.
-/
namespace NodeScaling

inductive GroupCall where
  | create
  | delete
  | increaseSize (delta : Int64)
  | decreaseTargetSize (delta : Int64)
  | deleteNodes (nodes : List Node)
  | targetSize
  | exists?

inductive CallAnswer where
  | done
  | size (nodes : Nat)
  | existence (present : Bool)
  deriving DecidableEq

abbrev CallResult := Except CloudError CallAnswer

namespace NodeGroup

def call (g : NodeGroup) : GroupCall → Exchange CallResult
  | .create => g.create.mapValue fun result => result.map fun _ => .done
  | .delete => g.delete.mapValue fun result => result.map fun _ => .done
  | .increaseSize delta => (g.increaseSize delta).mapValue fun result => result.map fun _ => .done
  | .decreaseTargetSize delta =>
    (g.decreaseTargetSize delta).mapValue fun result => result.map fun _ => .done
  | .deleteNodes nodes => (g.deleteNodes nodes).mapValue fun result => result.map fun _ => .done
  | .targetSize => g.targetSize.mapValue fun result => result.map .size
  | .exists? => g.exists?.mapValue fun present => .ok (.existence present)

def callAll (g : NodeGroup) : List GroupCall → Exchange (List CallResult)
  | [] => .done []
  | c :: calls => (g.call c).bind fun result => (g.callAll calls).mapValue (result :: ·)

theorem run_callAll_cons {σ : Type} (answer : σ → Request → Outcome × σ) (g : NodeGroup)
    (c : GroupCall) (calls : List GroupCall) (state : σ) :
    (g.callAll (c :: calls)).run answer state =
      let first := (g.call c).run answer state
      let later := (g.callAll calls).run answer first.state
      ⟨first.value :: later.value, first.asked ++ later.asked, later.state⟩ := by
  rw [callAll, Talk.run_bind]
  simp only [Talk.run_mapValue]

end NodeGroup

theorem run_inCloudTerms {σ α : Type} (answer : σ → Request → Outcome × σ)
    (t : Exchange (Except BridgeError α)) (state : σ) :
    (inCloudTerms t).run answer state =
      let held := t.run answer state
      ⟨held.value.mapError BridgeError.toCloud, held.asked, held.state⟩ :=
  Talk.run_mapValue answer _ t state

/-- A call that reaches the capacity service through the client, if it reaches it at all. -/
inductive ServiceCall where
  | request (request : Request)
  | lookup
  | baseVcpus
  | targetNodes
  | increaseBy (delta : Int64)
  | removeNodes (nodes : List Node)
  | newDefinition
  | provision
  | teardown
  | group (call : GroupCall)
  | facts

inductive SessionCall where
  | service (call : ServiceCall)
  | report (snapshot : Snapshot)

structure GroupFacts where
  id : String
  minSize : Nat
  maxSize : Nat
  description : String
  autoprovisioned : Bool
  nodes : List String
  template : NodeTemplate

def NodeGroup.facts (g : NodeGroup) : GroupFacts where
  id := g.id
  minSize := g.minSize
  maxSize := g.maxSize
  description := g.description
  autoprovisioned := g.autoprovisioned
  nodes := g.nodes
  template := g.template

inductive SessionAnswer where
  | outcome (outcome : Outcome)
  | found (lookup : Lookup)
  | count (result : Except BridgeError UInt32)
  | definition (result : Except BridgeError Definition)
  | done (result : Except BridgeError Unit)
  | group (result : CallResult)
  | facts (facts : GroupFacts)
  | reported (result : Except BridgeError UInt16)

def ServiceCall.exchange (underlying : NodeGroup) (b : Bridge) :
    ServiceCall → Exchange SessionAnswer
  | request r => (Talk.question r).mapValue .outcome
  | lookup => Bridge.lookup.mapValue .found
  | baseVcpus => .done (.count b.baseVcpus)
  | targetNodes => b.targetNodes.mapValue .count
  | increaseBy delta => (b.increaseBy delta).mapValue .done
  | removeNodes nodes => (Bridge.removeNodes nodes).mapValue .done
  | newDefinition => .done (.definition b.newDefinition)
  | provision => b.provision.mapValue .done
  | teardown => Bridge.teardown.mapValue .done
  | group call => ((NodeGroup.bridged underlying b).call call).mapValue .group
  | facts => .done (.facts (NodeGroup.bridged underlying b).facts)

namespace SessionCall

def talk (underlying : NodeGroup) (b : Bridge) : SessionCall → Talk Post Response SessionAnswer
  | service call => (call.exchange underlying b).through (Client.ofConfig b.config).call
  | report snapshot =>
    ((ClusterState.ofSnapshot b.config snapshot).report b.config.clusterStateEndpoint).mapValue
      .reported

def talkAll (underlying : NodeGroup) (b : Bridge) :
    List SessionCall → Talk Post Response (List SessionAnswer)
  | [] => .done []
  | c :: calls =>
    (c.talk underlying b).bind fun answer => (talkAll underlying b calls).mapValue (answer :: ·)

end SessionCall

end NodeScaling
