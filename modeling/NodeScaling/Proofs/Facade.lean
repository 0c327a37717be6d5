import NodeScaling.Proofs.Session
import NodeScaling.Proofs.Sizing
import NodeScaling.Provider

/-!
The groups of a bridging provider over a static one. There are three ways to a group: by its place
in the list, by one of its nodes, and by being the bridged one. All of them lead to the same group
underneath behind the same wrapper, so that a visit has the same outcome on each of them. Only a
visit to a group with the configured identifier can make a request; every other group answers as the
one underneath.
-/
namespace NodeScaling

inductive GroupOperation where
  | facts
  | call (call : GroupCall)

inductive GroupReply where
  | facts (facts : GroupFacts)
  | result (result : CallResult)

def NodeGroup.operate (g : NodeGroup) : GroupOperation → Exchange GroupReply
  | .facts => .done (.facts g.facts)
  | .call c => (g.call c).mapValue .result

def Bridge.bridged? (b : Bridge) (p : CloudProvider) : Option NodeGroup :=
  (b.configuredGroup? p).map fun g => .bridged g b

inductive Route where
  | listed (place : Nat)
  | ofNode (node : Node)
  | configured

namespace Route
variable (b : Bridge) (p : StaticProvider)

def served? : Route → Option NodeGroup
  | listed place => (b.toProvider p.toProvider).groups[place]?
  | ofNode node => ((b.toProvider p.toProvider).groupOf node).toOption.join
  | configured => b.bridged? p.toProvider

def underlying? : Route → Option StaticGroup
  | listed place => p.groups[place]?
  | ofNode node => p.groups.find? fun g => node.providerId ∈ g.members.map Node.providerId
  | configured => p.groups.find? fun g => g.id = b.config.groupId

end Route

structure Visit where
  route : Route
  operation : GroupOperation

structure Visited where
  visit : Visit
  reply : Option GroupReply
  asked : List Post

namespace Visit
variable (b : Bridge) (p : StaticProvider)

def talk (v : Visit) : Talk Post Response (Option GroupReply) :=
  match v.route.served? b p with
  | none => .done none
  | some g => ((g.operate v.operation).through (Client.ofConfig b.config).call).mapValue some

def makeAll {σ : Type} (answer : σ → Post → Response × σ) : List Visit → σ → List Visited
  | [], _ => []
  | v :: visits, state =>
    let held := (v.talk b p).run answer state
    ⟨v, held.value, held.asked⟩ :: makeAll answer visits held.state

end Visit

section Wrapping
variable (b : Bridge)

theorem wrap_id (g : NodeGroup) : (b.wrap g).id = g.id := by
  rw [Bridge.wrap]
  split <;> rfl

theorem wrap_nodes (g : NodeGroup) : (b.wrap g).nodes = g.nodes := by
  rw [Bridge.wrap]
  split <;> rfl

theorem wrap_facts (g : StaticGroup) : (b.wrap (.fixed g)).facts = (NodeGroup.fixed g).facts := by
  rw [Bridge.wrap]
  split <;> rfl

theorem wrap_operate {g : StaticGroup} {operation : GroupOperation}
    (apart : g.id ≠ b.config.groupId ∨ operation = .facts) :
    (b.wrap (.fixed g)).operate operation = (NodeGroup.fixed g).operate operation := by
  cases operation with
  | facts => rw [NodeGroup.operate, wrap_facts, NodeGroup.operate]
  | call c =>
    have other : g.id ≠ b.config.groupId := apart.resolve_right nofun
    have forwarded : b.wrap (.fixed g) = .forwarding (.fixed g) := if_neg other
    rw [forwarded]
    cases c <;> rfl

theorem fixed_operate_done (g : StaticGroup) (operation : GroupOperation) :
    ∃ reply, (NodeGroup.fixed g).operate operation = .done reply := by
  cases operation with
  | facts => exact ⟨_, rfl⟩
  | call c => cases c <;> exact ⟨_, rfl⟩

end Wrapping

section Routes
variable (b : Bridge) (p : StaticProvider)

theorem groups_eq :
    (b.toProvider p.toProvider).groups = p.groups.map fun g => b.wrap (.fixed g) := by
  change (p.groups.map NodeGroup.fixed).map b.wrap = _
  rw [List.map_map]
  rfl

theorem find_served {test : StaticGroup → Bool} {served : NodeGroup → Bool}
    (alike : ∀ g, served (b.wrap (.fixed g)) = test g) :
    (b.toProvider p.toProvider).groups.find? served =
      (p.groups.find? test).map fun g => b.wrap (.fixed g) := by
  have same : served ∘ (fun g => b.wrap (.fixed g)) = test := funext alike
  rw [groups_eq, List.find?_map, same]

theorem find_lister (node : Node) :
    (b.toProvider p.toProvider).groups.find? (fun g => node.providerId ∈ g.nodes) =
      ((Route.ofNode node).underlying? b p).map fun g => b.wrap (.fixed g) := by
  apply find_served
  intro g
  rw [wrap_nodes]
  rfl

theorem find_configured :
    (b.toProvider p.toProvider).groups.find? (fun g => g.id = b.config.groupId) =
      (Route.configured.underlying? b p).map fun g => b.wrap (.fixed g) := by
  apply find_served
  intro g
  rw [wrap_id]
  rfl

theorem groupOf_eq_find (node : Node) :
    (b.toProvider p.toProvider).groupOf node =
      .ok ((b.toProvider p.toProvider).groups.find? fun g => node.providerId ∈ g.nodes) := by
  have lists : (fun g : StaticGroup => g.contains node.providerId) =
      fun g => decide (node.providerId ∈ g.members.map Node.providerId) := by
    funext g
    rw [StaticGroup.contains, Bool.eq_iff_iff]
    simp
  rw [find_lister]
  change Except.ok (((p.groups.find? fun g => g.contains node.providerId).map _).map b.wrap) = _
  rw [lists, Option.map_map]
  rfl

theorem bridged?_eq_find :
    b.bridged? p.toProvider =
      (b.toProvider p.toProvider).groups.find? fun g => g.id = b.config.groupId := by
  have underneath : b.configuredGroup? p.toProvider =
      (Route.configured.underlying? b p).map .fixed := by
    rw [Bridge.configuredGroup?]
    exact List.find?_map
  rw [find_configured, Bridge.bridged?, underneath]
  cases found : Route.configured.underlying? b p with
  | none => rfl
  | some g =>
    have configured : g.id = b.config.groupId := by simpa using List.find?_some found
    have wrapped : b.wrap (.fixed g) = .bridged (.fixed g) b := if_pos configured
    rw [Option.map_some, Option.map_some, Option.map_some, wrapped]

theorem served?_eq (route : Route) :
    route.served? b p = (route.underlying? b p).map fun g => b.wrap (.fixed g) := by
  cases route with
  | listed place => rw [Route.served?, groups_eq, List.getElem?_map]; rfl
  | ofNode node =>
    rw [Route.served?, groupOf_eq_find, find_lister]
    rfl
  | configured => rw [Route.served?, bridged?_eq_find, find_configured]

end Routes

/-- A visit asks for nothing unless its group has the configured identifier. Any other group answers
as the one underneath, and of itself every group tells what the one underneath tells. -/
structure Isolated (b : Bridge) (p : StaticProvider) (v : Visited) : Prop where
  missing : v.visit.route.underlying? b p = none → v.reply = none ∧ v.asked = []
  asking : v.asked ≠ [] →
    ∃ g, v.visit.route.underlying? b p = some g ∧ g.id = b.config.groupId
  other : ∀ g, v.visit.route.underlying? b p = some g → g.id ≠ b.config.groupId →
    ∃ reply, (NodeGroup.fixed g).operate v.visit.operation = .done reply ∧ v.reply = some reply
  facts : ∀ g, v.visit.route.underlying? b p = some g → v.visit.operation = .facts →
    v.reply = some (.facts (NodeGroup.fixed g).facts) ∧ v.asked = []

section Visits
variable {σ : Type} (b : Bridge) (p : StaticProvider) (answer : σ → Post → Response × σ)

theorem talk_of_missing {v : Visit} (missing : v.route.underlying? b p = none) :
    v.talk b p = .done none := by
  rw [Visit.talk, served?_eq, missing]
  rfl

theorem talk_of_apart {v : Visit} {g : StaticGroup} (found : v.route.underlying? b p = some g)
    (apart : g.id ≠ b.config.groupId ∨ v.operation = .facts) :
    ∃ reply, (NodeGroup.fixed g).operate v.operation = .done reply ∧
      v.talk b p = .done (some reply) := by
  obtain ⟨reply, replied⟩ := fixed_operate_done g v.operation
  refine ⟨reply, replied, ?_⟩
  rw [Visit.talk, served?_eq, found, Option.map_some]
  dsimp only
  rw [wrap_operate b apart, replied]
  rfl

theorem visit_isolated (v : Visit) (state : σ) :
    let held := (v.talk b p).run answer state
    Isolated b p ⟨v, held.value, held.asked⟩ := by
  intro held
  have quiet {value : Option GroupReply} (settled : v.talk b p = .done value) :
      held.value = value ∧ held.asked = [] := by
    have made : held = ⟨value, [], state⟩ := congrArg (Talk.run answer · state) settled
    rw [made]
    exact ⟨rfl, rfl⟩
  constructor
  case missing =>
    intro missing
    exact quiet (talk_of_missing b p missing)
  case asking =>
    intro asks
    cases found : v.route.underlying? b p with
    | none => exact absurd (quiet (talk_of_missing b p found)).2 asks
    | some g =>
      refine ⟨g, rfl, Decidable.byContradiction fun other => ?_⟩
      obtain ⟨reply, -, settled⟩ := talk_of_apart b p found (Or.inl other)
      exact asks (quiet settled).2
  case other =>
    intro g found other
    obtain ⟨reply, replied, settled⟩ := talk_of_apart b p found (Or.inl other)
    exact ⟨reply, replied, (quiet settled).1⟩
  case facts =>
    intro g found asked
    obtain ⟨reply, replied, settled⟩ := talk_of_apart b p found (Or.inr asked)
    have told : v.operation = .facts := asked
    rw [told] at replied
    cases replied
    exact quiet settled

theorem visits_isolated (visits : List Visit) (state : σ) :
    ∀ v ∈ Visit.makeAll b p answer visits state, Isolated b p v := by
  induction visits generalizing state with
  | nil => nofun
  | cons v visits ih =>
    intro made member
    rcases List.mem_cons.mp member with rfl | later
    · exact visit_isolated b p answer v state
    · exact ih _ made later

end Visits

/-- A bridging provider over a static one serves the same groups by all three ways to them: those
underneath, each behind its wrapper. Over any visits and with any responses, only visits to a group
with the configured identifier make requests, and the others are answered underneath. -/
theorem facade_isolates_groups (b : Bridge) (p : StaticProvider) :
    let facade := b.toProvider p.toProvider
    facade.groups.map NodeGroup.id = p.groups.map StaticGroup.id ∧
    (∀ node : Node,
      facade.groupOf node = .ok (facade.groups.find? fun g => node.providerId ∈ g.nodes) ∧
      (facade.groupOf node = .ok none ↔
        ∀ g ∈ p.groups, node.providerId ∉ g.members.map Node.providerId)) ∧
    b.bridged? p.toProvider = facade.groups.find? (fun g => g.id = b.config.groupId) ∧
    ((b.bridged? p.toProvider).isSome ↔ ∃ g ∈ p.groups, g.id = b.config.groupId) ∧
    (∀ route : Route,
      route.served? b p = (route.underlying? b p).map fun g => b.wrap (.fixed g)) ∧
    ∀ (σ : Type) (answer : σ → Post → Response × σ) (state : σ) (visits : List Visit),
      ∀ v ∈ Visit.makeAll b p answer visits state, Isolated b p v := by
  intro facade
  refine ⟨?_, ?_, bridged?_eq_find b p, ?_, served?_eq b p, ?_⟩
  · have ids : NodeGroup.id ∘ (fun g : StaticGroup => b.wrap (.fixed g)) = StaticGroup.id :=
      funext fun g => wrap_id b (.fixed g)
    rw [groups_eq, List.map_map, ids]
  · intro node
    refine ⟨groupOf_eq_find b p node, ?_⟩
    rw [groupOf_eq_find, find_lister, Except.ok.injEq, Option.map_eq_none_iff, Route.underlying?,
      List.find?_eq_none]
    simp only [decide_eq_true_eq]
  · rw [bridged?_eq_find, find_configured, Option.isSome_map, Route.underlying?,
      List.find?_isSome]
    simp only [decide_eq_true_eq]
  · intro σ answer state visits
    exact visits_isolated b p answer visits state

/-- A node in two groups belongs to the first; of two groups with the configured identifier the
first is bridged, and a visit to the second asks as well. -/
theorem shared_node_isolated :
    let node : Node := { name := "n1", providerId := "aws:///north/i-1" }
    let spare : StaticGroup := { id := "spare", minSize := 0, maxSize := 1, members := [node] }
    let workers : StaticGroup := { id := "workers", minSize := 0, maxSize := 9, members := [node] }
    let p : StaticProvider := { groups := [spare, workers, { workers with maxSize := 2 }] }
    let b : Bridge := ⟨Catalog.ofRecords [("c3.xlarge", 4)], Config.bare "workers" "c3.xlarge"⟩
    let visits : List Visit := [⟨.ofNode node, .call (.increaseSize 2)⟩,
      ⟨.configured, .call .targetSize⟩, ⟨.listed 2, .call .exists?⟩, ⟨.configured, .facts⟩]
    let visited := Visit.makeAll b p ScriptedService.answer visits { script := [.lost "down"] }
    visited.map (fun v => v.asked.length) = [0, 1, 1, 0] ∧
      (b.toProvider p.toProvider).groupOf node = .ok (some (.forwarding (.fixed spare))) ∧
      ∀ v ∈ visited, Isolated b p v := by
  intro node spare workers p b visits visited
  obtain ⟨-, ofNode, -, -, -, isolated⟩ := facade_isolates_groups b p
  exact ⟨rfl, (ofNode node).1, isolated _ ScriptedService.answer _ visits⟩

end NodeScaling
