import NodeScaling.Proofs.ExactIncrease
import NodeScaling.Proofs.RequestTexts

/-!
Provisioning beside resizing. A new definition is sized in one of three ways, and only a size in
nodes asks the catalog. As long as 32 bits hold the product, a size in nodes is converted like an
increase of a group without a definition; beyond that a creation is cut off and an increase refused.
-/
namespace NodeScaling

structure Config.Carried (c : Config) (d : Definition) : Prop where
  groupId : d.groupId = c.groupId
  region : d.region = c.region
  instanceTypes : d.instanceTypes = c.instanceTypes
  maxSpotPercentTotal : d.maxSpotPercentTotal = c.maxSpotPercentTotal
  maxSpotPercentOneMarket : d.maxSpotPercentOneMarket = c.maxSpotPercentOneMarket
  targetSpareCpuPercent : d.targetSpareCpuPercent = c.targetSpareCpuPercent
  targetSpareMemoryPercent : d.targetSpareMemoryPercent = c.targetSpareMemoryPercent
  displayName : d.displayName = c.displayName
  osFamily : d.osFamily = c.osFamily
  detailedMonitoring : d.detailedMonitoringEnabled = c.detailedMonitoring
  maxHoursInstanceAge : d.maxHoursInstanceAge = c.maxHoursInstanceAge

def Config.CreationText (c : Config) (d : Definition) (text : String) : Prop :=
  ∃ payload,
    Json.readBytes? text.toUTF8 = some (.object [
      ("api_key", .string c.apiKey),
      ("request_type", .string "Create"),
      ("autoscalr_app_def", payload)]) ∧
    Definition.ofJson? payload = some d

theorem Config.creationText_post (c : Config) (d : Definition) :
    c.CreationText d ((Client.ofConfig c).post (.create d)).body.text := by
  refine ⟨d.toJson, ?_, d.ofJson?_toJson⟩
  exact Json.readBytes?_text (Request.exact_envelope _ (.create d) c.apiKey)

namespace Bridge
variable {b : Bridge} {base target : UInt32}

theorem newDefinition_of_target (sized : b.initialTarget = .ok target) :
    ∃ d, b.newDefinition = .ok d ∧ b.config.Carried d ∧ d.targetCapacity = target := by
  rw [newDefinition, sized]
  refine ⟨_, rfl, ?_, rfl⟩
  constructor <;> rfl

theorem provision_of_target (sized : b.initialTarget = .ok target) :
    ∃ d, b.provision = request (.create d) ∧ b.config.Carried d ∧ d.targetCapacity = target := by
  obtain ⟨d, made, carried, targeted⟩ := newDefinition_of_target sized
  exact ⟨d, by rw [provision, made], carried, targeted⟩

theorem provision_of_unsized {e : BridgeError} (unsized : b.initialTarget = .error e) :
    b.provision = .done (.error e) := by
  rw [provision, newDefinition, unsized]
  rfl

theorem provision_without_catalog (catalog : Catalog) (c : Config)
    (settled : c.targetCapacityVcpus ≠ 0 ∨ c.targetCapacityInstances = 0) :
    provision ⟨catalog, c⟩ = provision ⟨.empty, c⟩ := by
  have same : initialTarget ⟨catalog, c⟩ = initialTarget ⟨.empty, c⟩ := by
    by_cases given : c.targetCapacityVcpus = 0
    · have unwanted := settled.resolve_left (not_not_intro given)
      rw [initialTarget_of_nothing _ given unwanted, initialTarget_of_nothing _ given unwanted]
    · rw [initialTarget_of_vcpus _ given, initialTarget_of_vcpus _ given]
  rw [provision, provision, newDefinition, newDefinition, same]

/-- A target in nodes of a type that is not listed, which is the only one that cannot be settled. -/
def Unsized (b : Bridge) : Prop :=
  b.config.targetCapacityVcpus = 0 ∧ 0 < b.config.targetCapacityInstances ∧
    b.catalog.get? b.config.baseInstanceType = none

theorem initialTarget_of_unsized (unsized : b.Unsized) :
    b.initialTarget = .error (.unknownInstanceType b.config.baseInstanceType) := by
  obtain ⟨ungiven, wanted, unlisted⟩ := unsized
  rw [initialTarget_of_nodes b ungiven (UInt32.pos_iff_ne_zero.mp wanted), baseVcpus,
    Catalog.vcpusOf, unlisted]
  rfl

theorem initialTarget_of_listed (ungiven : b.config.targetCapacityVcpus = 0)
    (wanted : 0 < b.config.targetCapacityInstances)
    (listed : b.catalog.get? b.config.baseInstanceType = some base) :
    b.initialTarget = .ok (CheckedWord.saturatingMul b.config.targetCapacityInstances base) := by
  rw [initialTarget_of_nodes b ungiven (UInt32.pos_iff_ne_zero.mp wanted), baseVcpus,
    Catalog.vcpusOf, listed]
  rfl

theorem initialTarget_of_sized (sized : ¬ b.Unsized) : ∃ target, b.initialTarget = .ok target := by
  by_cases ungiven : b.config.targetCapacityVcpus = 0
  · by_cases unwanted : b.config.targetCapacityInstances = 0
    · exact ⟨0, b.initialTarget_of_nothing ungiven unwanted⟩
    · have wanted := UInt32.pos_iff_ne_zero.mpr unwanted
      cases listed : b.catalog.get? b.config.baseInstanceType with
      | none => exact absurd ⟨ungiven, wanted, listed⟩ sized
      | some base => exact ⟨_, initialTarget_of_listed ungiven wanted listed⟩
  · exact ⟨_, b.initialTarget_of_vcpus ungiven⟩

theorem initialTarget_settled (initial : b.initialTarget = .ok target) :
    (b.config.targetCapacityVcpus ≠ 0 → target = b.config.targetCapacityVcpus) ∧
    (b.config.targetCapacityVcpus = 0 → b.config.targetCapacityInstances = 0 → target = 0) ∧
    (b.config.targetCapacityVcpus = 0 → 0 < b.config.targetCapacityInstances →
      ∀ base, b.catalog.get? b.config.baseInstanceType = some base →
        target.toNat = min (b.config.targetCapacityInstances.toNat * base.toNat) 4294967295) := by
  refine ⟨?_, ?_, ?_⟩
  · intro given
    rw [b.initialTarget_of_vcpus given] at initial
    exact (Except.ok.inj initial).symm
  · intro ungiven unwanted
    rw [b.initialTarget_of_nothing ungiven unwanted] at initial
    exact (Except.ok.inj initial).symm
  · intro ungiven wanted base listed
    rw [initialTarget_of_listed ungiven wanted listed] at initial
    rw [← Except.ok.inj initial]
    exact CheckedWord.toNat_saturatingMul _ base

end Bridge

section Held
variable {σ : Type} (answer : σ → Request → Outcome × σ) (state : σ) {b : Bridge}

theorem run_provision_of_target {target : UInt32} (sized : b.initialTarget = .ok target) :
    ∃ d, b.config.Carried d ∧ d.targetCapacity = target ∧
      let (written, last) := answer state (.create d)
      b.provision.run answer state = ⟨written.map fun _ => (), [.create d], last⟩ := by
  obtain ⟨d, provision, carried, targeted⟩ := Bridge.provision_of_target sized
  exact ⟨d, carried, targeted, by rw [provision]; rfl⟩

theorem run_provision_of_unsized (unsized : b.Unsized) :
    b.provision.run answer state =
      ⟨.error (.unknownInstanceType b.config.baseInstanceType), [], state⟩ := by
  rw [Bridge.provision_of_unsized (Bridge.initialTarget_of_unsized unsized), Talk.run_done]

theorem asked_of_provision : (b.provision.run answer state).asked = [] ↔ b.Unsized := by
  constructor
  · intro silent
    refine Classical.byContradiction fun sized => ?_
    obtain ⟨target, initial⟩ := Bridge.initialTarget_of_sized sized
    obtain ⟨d, -, -, sent⟩ := run_provision_of_target answer state initial
    rw [sent] at silent
    cases silent
  · intro unsized
    rw [run_provision_of_unsized answer state unsized]

end Held

theorem toInt_ofNat_toNat (nodes : UInt32) :
    (Int64.ofNat nodes.toNat).toInt = nodes.toNat := by
  have small := nodes.toNat_lt
  exact Int64.toInt_ofNat_of_lt (by omega)

theorem ofNat_toNat_pos {nodes : UInt32} (wanted : 0 < nodes) :
    0 < Int64.ofNat nodes.toNat := by
  rw [Int64.lt_iff_toInt_lt, toInt_ofNat_toNat, Int64.toInt_zero]
  exact Int.natCast_pos.mpr (UInt32.lt_iff_toNat_lt.mp wanted)

theorem raised_from_nothing (base nodes : UInt32) :
    (Bridge.foundNodes base none + (Int64.ofNat nodes.toNat).toInt) * base.toNat =
      ((nodes.toNat * base.toNat : Nat) : Int) := by
  rw [toInt_ofNat_toNat, Bridge.foundNodes, Option.elim_none, Int.natCast_mul, Int.natCast_zero,
    Int.zero_add]

section Absent
variable {σ : Type} (answer : σ → Request → Outcome × σ) (state : σ) {b : Bridge}
  {base nodes : UInt32}

theorem run_increaseBy_from_nothing (listed : b.catalog.get? b.config.baseInstanceType = some base)
    (wanted : 0 < nodes) (absent : (answer state .get).1 = .ok none)
    (fits : nodes.toNat * base.toNat ≤ 4294967295) :
    let target := CheckedWord.saturatingMul nodes base
    let (written, last) := answer (answer state .get).2 (.update target)
    (b.increaseBy (Int64.ofNat nodes.toNat)).run answer state =
      ⟨written.map fun _ => (), [.get, .update target], last⟩ := by
  obtain ⟨target, raised, sent⟩ := run_increaseBy_of_fits answer state listed
    (ofNat_toNat_pos wanted) absent (by rw [raised_from_nothing]; exact Int.ofNat_le.mpr fits)
  rw [raised_from_nothing, Int.ofNat_inj] at raised
  -- within 32 bits nothing is cut off
  have same : CheckedWord.saturatingMul nodes base = target := by
    rw [← UInt32.toNat_inj, CheckedWord.toNat_saturatingMul, raised]
    exact Nat.min_eq_left fits
  rw [same]
  exact sent

theorem run_increaseBy_beyond_nothing
    (listed : b.catalog.get? b.config.baseInstanceType = some base) (wanted : 0 < nodes)
    (absent : (answer state .get).1 = .ok none) (beyond : 4294967295 < nodes.toNat * base.toNat) :
    (b.increaseBy (Int64.ofNat nodes.toNat)).run answer state =
      ⟨.error (.cloud (.invalidSize ("0 + " ++ toString nodes.toNat ++ " nodes of " ++
        toString base.toNat ++ " vCPUs overflows the target capacity"))), [.get],
        (answer state .get).2⟩ := by
  have refused := run_increaseBy_of_overflow answer state listed (ofNat_toNat_pos wanted) absent
    (by rw [raised_from_nothing]; exact Int.ofNat_lt.mpr beyond)
  have nothing : toString (Bridge.readNodes base none).toNat ++ " + " = "0 + " := by
    change toString (0 : Nat) ++ " + " = "0 + "
    decide
  rw [Bridge.targetOverflow, toInt_ofNat_toNat, nothing] at refused
  exact refused

end Absent

/-- Provisioning converts nodes like resizing, up to the end of 32 bits. It sends nothing only where
its target is in nodes of a type that is not listed, and otherwise one creation with what the
configuration says. -/
theorem provisioning_converts_like_resizing {σ : Type} (answer : σ → Request → Outcome × σ)
    (state : σ) (b : Bridge) :
    let c := b.config
    let vcpus := c.targetCapacityVcpus
    let instances := c.targetCapacityInstances
    let listed := b.catalog.get? c.baseInstanceType
    let unsized := vcpus = 0 ∧ 0 < instances ∧ listed = none
    let held := b.provision.run answer state
    (held.asked = [] ↔ unsized) ∧
    (unsized → held = ⟨.error (.unknownInstanceType c.baseInstanceType), [], state⟩) ∧
    (¬ unsized → ∃ d, c.Carried d ∧
      c.CreationText d ((Client.ofConfig c).post (.create d)).body.text ∧
      (let (written, last) := answer state (.create d)
       held = ⟨written.map fun _ => (), [.create d], last⟩) ∧
      (vcpus ≠ 0 → d.targetCapacity = vcpus) ∧
      (vcpus = 0 → instances = 0 → d.targetCapacity = 0) ∧
      (vcpus = 0 → 0 < instances → ∀ base, listed = some base →
        d.targetCapacity.toNat = min (instances.toNat * base.toNat) 4294967295)) ∧
    (vcpus ≠ 0 ∨ instances = 0 → ∀ catalog, Bridge.provision ⟨catalog, c⟩ = b.provision) ∧
    (∀ base absent, 0 < instances → listed = some base → (answer absent .get).1 = .ok none →
      let later := (answer absent .get).2
      let resized := (b.increaseBy (Int64.ofNat instances.toNat)).run answer absent
      (instances.toNat * base.toNat ≤ 4294967295 → vcpus = 0 →
        ∃ d, held.asked = [.create d] ∧
          let (written, last) := answer later (.update d.targetCapacity)
          resized = ⟨written.map fun _ => (), [.get, .update d.targetCapacity], last⟩) ∧
      (4294967295 < instances.toNat * base.toNat →
        resized = ⟨.error (.cloud (.invalidSize ("0 + " ++ toString instances.toNat ++
          " nodes of " ++ toString base.toNat ++ " vCPUs overflows the target capacity"))),
          [.get], later⟩)) := by
  intro c vcpus instances listed unsized held
  refine ⟨asked_of_provision answer state, run_provision_of_unsized answer state, ?_, ?_, ?_⟩
  · intro sized
    obtain ⟨target, initial⟩ := Bridge.initialTarget_of_sized sized
    obtain ⟨d, carried, targeted, sent⟩ := run_provision_of_target answer state initial
    rw [← targeted] at initial
    exact ⟨d, carried, c.creationText_post d, sent, Bridge.initialTarget_settled initial⟩
  · intro settled catalog
    rw [Bridge.provision_without_catalog catalog c settled,
      ← Bridge.provision_without_catalog b.catalog c settled]
  · intro base absent wanted found answered later resized
    refine ⟨?_, run_increaseBy_beyond_nothing answer absent found wanted answered⟩
    intro fits ungiven
    have initial := Bridge.initialTarget_of_listed ungiven wanted found
    obtain ⟨d, -, targeted, created⟩ := run_provision_of_target answer state initial
    refine ⟨d, congrArg Held.asked created, ?_⟩
    rw [targeted]
    exact run_increaseBy_from_nothing answer absent found wanted answered fits

/-- Three nodes of four vCPUs are created and raised to twelve. Two thousand million are created as
far as 32 bits go, and are too many for an increase. -/
theorem three_nodes_provisioned_like_resized :
    let sized (vcpus instances : UInt32) (baseType : String) : Bridge :=
      ⟨.ofRecords [("c3.xlarge", 4)], { Config.bare "workers" baseType with
        targetCapacityVcpus := vcpus, targetCapacityInstances := instances }⟩
    let created (b : Bridge) := b.provision.run Store.answer {}
    let resized (b : Bridge) (delta : Int64) := (b.increaseBy delta).run Store.answer {}
    created (sized 0 3 "c3.huge") = ⟨.error (.unknownInstanceType "c3.huge"), [], {}⟩ ∧
      (∃ d, (created (sized 10 3 "c3.huge")).asked = [.create d] ∧ d.targetCapacity = 10) ∧
      (∃ d, (created (sized 0 0 "c3.huge")).asked = [.create d] ∧ d.targetCapacity = 0) ∧
      (∃ d, (created (sized 0 3 "c3.xlarge")).asked = [.create d] ∧ d.targetCapacity.toNat = 12 ∧
        (resized (sized 0 3 "c3.xlarge") 3).asked = [.get, .update d.targetCapacity]) ∧
      (∃ d, (created (sized 0 2000000000 "c3.xlarge")).asked = [.create d] ∧
        d.targetCapacity.toNat = 4294967295) ∧
      resized (sized 0 2000000000 "c3.xlarge") 2000000000 = ⟨.error (.cloud (.invalidSize
        "0 + 2000000000 nodes of 4 vCPUs overflows the target capacity")), [.get], {}⟩ := by
  intro sized created resized
  have converts := provisioning_converts_like_resizing Store.answer {}
  obtain ⟨-, unlisted, -⟩ := converts (sized 0 3 "c3.huge")
  obtain ⟨-, -, given, -⟩ := converts (sized 10 3 "c3.huge")
  obtain ⟨-, -, empty, -⟩ := converts (sized 0 0 "c3.huge")
  obtain ⟨-, -, fits, -, raised⟩ := converts (sized 0 3 "c3.xlarge")
  obtain ⟨-, -, beyond, -, refused⟩ := converts (sized 0 2000000000 "c3.xlarge")
  refine ⟨unlisted (by decide), ?_, ?_, ?_, ?_, ?_⟩
  · obtain ⟨d, -, -, sent, target, -⟩ := given (by decide)
    exact ⟨d, congrArg Held.asked sent, target (by decide)⟩
  · obtain ⟨d, -, -, sent, -, target, -⟩ := empty (by decide)
    exact ⟨d, congrArg Held.asked sent, target (by decide) (by decide)⟩
  · obtain ⟨d, -, -, sent, -, -, target⟩ := fits (by decide)
    obtain ⟨d', created', sent'⟩ :=
      (raised 4 {} (by decide) (by decide) rfl).1 (by decide) (by decide)
    obtain rfl : d = d' := by
      rw [sent] at created'
      exact Request.create.inj (List.singleton_inj.mp created')
    exact ⟨d, congrArg Held.asked sent, target (by decide) (by decide) 4 (by decide),
      congrArg Held.asked sent'⟩
  · obtain ⟨d, -, -, sent, -, -, target⟩ := beyond (by decide)
    have cut := target (by decide) (by decide) 4 (by decide)
    exact ⟨d, congrArg Held.asked sent, cut.trans (by decide)⟩
  · have excess := (refused 4 {} (by decide) (by decide) rfl).2 (by decide)
    let refusal (text : String) : Held Store Request (Except BridgeError Unit) :=
      ⟨.error (.cloud (.invalidSize text)), [.get], {}⟩
    exact excess.trans (congrArg refusal (by decide))

end NodeScaling
