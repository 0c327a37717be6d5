import NodeScaling.NodeGroup
import NodeScaling.Proofs.InstanceIds
import NodeScaling.Proofs.Sizing

/-!
The removal of given nodes. All their provider ids are mapped before anything is sent, so that a
removal either makes one request for the whole list, in its order and with its repetitions, or none
and reports the first provider id that names no instance.
-/
namespace NodeScaling

def Node.Mapped (n : Node) : Prop :=
  ∃ id, instanceId n.providerId = .ok id

section Mapping
variable {nodes : List Node} {ids : List String} {n : Node}

theorem Node.mapped_iff : n.Mapped ↔ ∃ id, Names n.providerId id :=
  exists_congr fun _ => instanceId_eq_ok_iff

theorem each_of_instanceIds (read : instanceIds (nodes.map Node.providerId) = .ok ids) :
    List.Forall₂ (fun n id => instanceId n.providerId = .ok id) nodes ids := by
  have named := List.forall₂_map_left_iff.mp (instanceIds_eq_ok_iff.mp read)
  exact named.imp fun _ _ => instanceId_eq_ok_iff.mpr

theorem instanceIds_of_mapped (mapped : ∀ n ∈ nodes, n.Mapped) :
    ∃ ids, instanceIds (nodes.map Node.providerId) = .ok ids := by
  cases read : instanceIds (nodes.map Node.providerId) with
  | ok ids => exact ⟨ids, rfl⟩
  | error e =>
    obtain ⟨before, p, after, split, -, unnamed, -⟩ := instanceIds_eq_error_iff.mp read
    have among : p ∈ nodes.map Node.providerId := by
      rw [split]
      exact List.mem_append_right before List.mem_cons_self
    obtain ⟨n, member, rfl⟩ := List.mem_map.mp among
    exact absurd (Node.mapped_iff.mp (mapped n member)) unnamed

theorem refused_of_unmapped (faulty : ∃ n ∈ nodes, ¬ n.Mapped) :
    ∃ before n after, nodes = before ++ n :: after ∧ (∀ m ∈ before, m.Mapped) ∧ ¬ n.Mapped ∧
      instanceIds (nodes.map Node.providerId) = .error (.malformedProviderId n.providerId) := by
  cases read : instanceIds (nodes.map Node.providerId) with
  | ok ids =>
    obtain ⟨n, member, unmapped⟩ := faulty
    obtain ⟨k, bound, rfl⟩ := List.getElem_of_mem member
    have each := each_of_instanceIds read
    exact absurd ⟨_, each.get bound (each.length_eq ▸ bound)⟩ unmapped
  | error e =>
    obtain ⟨before, p, after, split, earlier, unnamed, rfl⟩ := instanceIds_eq_error_iff.mp read
    obtain ⟨first, later, rfl, rfl, rest⟩ := List.map_eq_append_iff.mp split
    obtain ⟨n, others, rfl, rfl, -⟩ := List.map_eq_cons_iff.mp rest
    refine ⟨first, n, others, rfl, ?_, fun mapped => unnamed (Node.mapped_iff.mp mapped), rfl⟩
    intro m member
    exact Node.mapped_iff.mpr (earlier _ (List.mem_map_of_mem member))

end Mapping

/-- The post of a removal. The difference that it states is one vCPU, however many ids there are. -/
def removalPost (c : Config) (ids : List String) : Post where
  endpoint := c.apiEndpoint
  body := .object [
    ("api_key", .string c.apiKey),
    ("request_type", .string "DeleteAppNodes"),
    ("autoscalr_app_def", .object [
      ("aws_autoscaling_group_name", .string c.groupId),
      ("aws_region", .string c.region),
      ("delta_vcpu", .ofUInt32 1),
      ("nodes_to_delete", .ofStrings ids)])]

section Removal
variable {σ : Type} (answer : σ → Post → Response × σ) (state : σ) (b : Bridge)

def heldRemoval (nodes : List Node) : Held σ Post (Except BridgeError Unit) :=
  ((Bridge.removeNodes nodes).through (Client.ofConfig b.config).call).run answer state

theorem heldRemoval_of_ids {nodes : List Node} {ids : List String} (given : nodes ≠ [])
    (mapped : instanceIds (nodes.map Node.providerId) = .ok ids) :
    heldRemoval answer state b nodes =
      let (response, last) := answer state (removalPost b.config ids)
      ⟨(Client.outcome (.deleteNodes 1 ids) response).map fun _ => (),
        [removalPost b.config ids], last⟩ := by
  rw [heldRemoval, Bridge.removeNodes, if_neg (by simpa using given), mapped]
  rfl

theorem heldRemoval_of_error {nodes : List Node} {e : BridgeError} (given : nodes ≠ [])
    (faulty : instanceIds (nodes.map Node.providerId) = .error e) :
    heldRemoval answer state b nodes = ⟨.error e, [], state⟩ := by
  rw [heldRemoval, Bridge.removeNodes, if_neg (by simpa using given), faulty]
  rfl

theorem deleteNodes_held (underlying : NodeGroup) (nodes : List Node) :
    (((NodeGroup.bridged underlying b).deleteNodes nodes).through
        (Client.ofConfig b.config).call).run answer state =
      let held := heldRemoval answer state b nodes
      ⟨held.value.mapError BridgeError.toCloud, held.asked, held.state⟩ := by
  rw [NodeGroup.deleteNodes, heldRemoval, Bridge.removeNodes]
  split
  · rfl
  · split <;> rfl

end Removal

/-- A removal is all or nothing before anything is sent. It sends the ids of all its nodes in one
post and passes the outcome on, or it sends nothing, either because there is nothing to remove or
because of the first malformed provider id. -/
theorem removal_is_all_or_nothing {σ : Type} (answer : σ → Post → Response × σ) (state : σ)
    (underlying : NodeGroup) (b : Bridge) (nodes : List Node) :
    let client := Client.ofConfig b.config
    let held := ((Bridge.removeNodes nodes).through client.call).run answer state
    let group := NodeGroup.bridged underlying b
    ((group.deleteNodes nodes).through client.call).run answer state =
      ⟨held.value.mapError BridgeError.toCloud, held.asked, held.state⟩ ∧
    (nodes = [] → held = ⟨.ok (), [], state⟩) ∧
    (nodes ≠ [] → (∀ n ∈ nodes, n.Mapped) →
      ∃ ids, ids.length = nodes.length ∧
        (∀ (k : Nat) (n : Node) id, nodes[k]? = some n → ids[k]? = some id →
          instanceId n.providerId = .ok id) ∧
        let (response, last) := answer state (removalPost b.config ids)
        held = ⟨(Client.outcome (.deleteNodes 1 ids) response).map fun _ => (),
          [removalPost b.config ids], last⟩) ∧
    ((∃ n ∈ nodes, ¬ n.Mapped) →
      ∃ before n after, nodes = before ++ n :: after ∧ (∀ m ∈ before, m.Mapped) ∧ ¬ n.Mapped ∧
        held = ⟨.error (.malformedProviderId n.providerId), [], state⟩) := by
  intro client held group
  refine ⟨deleteNodes_held answer state b underlying nodes, ?_, ?_, ?_⟩
  · rintro rfl
    rfl
  · intro given mapped
    obtain ⟨ids, found⟩ := instanceIds_of_mapped mapped
    have each := each_of_instanceIds found
    refine ⟨ids, each.length_eq.symm, ?_, heldRemoval_of_ids answer state b given found⟩
    intro k n id here there
    obtain ⟨bound, rfl⟩ := List.getElem?_eq_some_iff.mp here
    obtain ⟨bound', rfl⟩ := List.getElem?_eq_some_iff.mp there
    exact each.get bound bound'
  · intro faulty
    obtain ⟨before, n, after, rfl, earlier, unmapped, refused⟩ := refused_of_unmapped faulty
    exact ⟨before, n, after, rfl, earlier, unmapped,
      heldRemoval_of_error answer state b (by simp) refused⟩

/-- A node that is given twice is sent twice, and of two malformed provider ids the first decides. -/
theorem repeated_node_removed_in_order :
    let b : Bridge := ⟨.empty, Config.bare "workers" "c3.xlarge"⟩
    let service : ScriptedService := { script := [.received 503 .empty] }
    let held (nodes : List Node) := ((Bridge.removeNodes nodes).through
      (Client.ofConfig b.config).call).run ScriptedService.answer service
    let nodes : List Node := [⟨"a", "aws:///a/i-2", .empty⟩, ⟨"b", "aws:///b/i-1", .empty⟩,
      ⟨"a", "aws:///a/i-2", .empty⟩]
    let faulty : List Node := [⟨"a", "aws:///a/", .empty⟩, ⟨"b", "i-1", .empty⟩]
    (held nodes).asked = [removalPost b.config ["i-2", "i-1", "i-2"]] ∧
      (held nodes).value =
        .error (.httpStatus 503 "AutoScalr API returned status code: 503") ∧
      held faulty = ⟨.error (.malformedProviderId "aws:///a/"), [], service⟩ := by
  intro b service held nodes faulty
  have removal := removal_is_all_or_nothing ScriptedService.answer service
    (.fixed { id := "workers", minSize := 0, maxSize := 9 }) b
  have mapped : ∀ n ∈ nodes, n.Mapped := by
    simp only [nodes, List.forall_mem_cons]
    exact ⟨⟨"i-2", rfl⟩, ⟨"i-1", rfl⟩, ⟨"i-2", rfl⟩, by nofun⟩
  have unmapped : ¬ (Node.mk "a" "aws:///a/" .empty).Mapped := by
    rintro ⟨id, ⟨⟩⟩
  obtain ⟨ids, length, each, sent⟩ := (removal nodes).2.2.1 (by simp [nodes]) mapped
  obtain ⟨before, n, after, split, earlier, -, refused⟩ :=
    (removal faulty).2.2.2 ⟨_, List.mem_cons_self, unmapped⟩
  refine ⟨?_, ?_, ?_⟩
  · match ids, length with
    | [first, second, third], _ =>
      cases each 0 _ first rfl rfl
      cases each 1 _ second rfl rfl
      cases each 2 _ third rfl rfl
      exact congrArg Held.asked sent
  · exact congrArg Held.value sent
  · cases before with
    | nil =>
      obtain ⟨rfl, -⟩ := List.cons.inj split
      exact refused
    | cons m before =>
      obtain ⟨rfl, -⟩ := List.cons.inj split
      exact absurd (earlier _ List.mem_cons_self) unmapped

end NodeScaling
