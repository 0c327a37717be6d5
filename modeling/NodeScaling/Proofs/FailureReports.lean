import NodeScaling.Proofs.CatalogContents
import NodeScaling.Proofs.ExactIncrease
import NodeScaling.Proofs.Session
import NodeScaling.Proofs.InstanceIds
import NodeScaling.Proofs.Provisioning

/-!
Failures on their way to the orchestrator. The status gate rewords some and changes nothing else of
them. In the terms of the cloud contract a failure of the bridge is wrapped and can be taken out
again, and a wrapped cloud failure speaks for itself. So a bridged group reports what its bridge
finds.
-/
namespace NodeScaling

namespace BridgeError

def code? : BridgeError → Option String
  | remote _ code => some code
  | _ => none

/-- The cloud failure that is wrapped, with all that it may wrap itself. -/
def inner? : BridgeError → Option CloudError
  | cloud inner => some inner
  | _ => none

/-- What the status gate leaves of a failure: all but the words of a status above 400. -/
structure Gated (e e' : BridgeError) : Prop where
  kind : e'.kind = e.kind
  status : e'.status? = e.status?
  isRemote : e'.isRemote = e.isRemote
  code : e'.code? = e.code?
  inner : e'.inner? = e.inner?
  reworded : ∀ status message, e = .httpStatus status message → 400 < status →
    e' = .httpStatus status ("AutoScalr API returned status code: " ++ toString status.toNat)
  unchanged : (∀ status message, e = .httpStatus status message → status ≤ 400) → e' = e

structure Converted (e : BridgeError) (c : CloudError) : Prop where
  recovered : e.inner? = none → c.bridgeError? = some e
  worded : e.inner? = none → c.message = e.message
  unwrapped : ∀ inner, e = .cloud inner → c = inner
  shortened : ∀ inner, e = .cloud inner → e.message = "Cloud error: " ++ c.message

theorem gated_of_status (status : UInt16) (message : String) :
    (httpStatus status message).gated = .httpStatus status
      (if 400 < status then "AutoScalr API returned status code: " ++ toString status.toNat
      else message) := by
  rw [gated]
  split <;> rfl

theorem gated_gates (e : BridgeError) : Gated e e.gated := by
  cases e with
  | httpStatus status message =>
    rw [gated_of_status]
    refine ⟨rfl, rfl, rfl, rfl, rfl, ?_, ?_⟩
    · intro status' message' same above
      cases same
      rw [if_pos above]
    · intro below
      rw [if_neg (UInt16.not_lt.mpr (below status message rfl))]
  | _ => exact ⟨rfl, rfl, rfl, rfl, rfl, nofun, fun _ => rfl⟩

theorem gated_gated (e : BridgeError) : e.gated.gated = e.gated := by
  cases e with
  | httpStatus status message =>
    rw [gated_of_status, gated_of_status]
    split <;> rfl
  | _ => rfl

theorem toCloud_of_plain {e : BridgeError} (plain : e.inner? = none) : e.toCloud = .provider e := by
  cases e with
  | cloud inner => cases plain
  | _ => rfl

theorem toCloud_converts (e : BridgeError) : Converted e e.toCloud := by
  refine ⟨?_, ?_, ?_, ?_⟩
  · intro plain
    rw [toCloud_of_plain plain]
    rfl
  · intro plain
    rw [toCloud_of_plain plain, CloudError.message_provider]
  · intro inner same
    rw [same]
    rfl
  · intro inner same
    rw [same, message_cloud]
    rfl

end BridgeError

theorem applyStatusGate_applyStatusGate {α : Type} (outcome : Except BridgeError α) :
    applyStatusGate (applyStatusGate outcome) = applyStatusGate outcome := by
  cases outcome with
  | ok value => rfl
  | error e => exact congrArg Except.error e.gated_gated

/-- What the bridge itself does for a call of its group. To lower the target is none of its
operations: nothing is asked, and nothing fails. -/
def Bridge.own (b : Bridge) : GroupCall → Exchange (Except BridgeError CallAnswer)
  | .create => b.provision.mapValue fun result => result.map fun _ => .done
  | .delete => teardown.mapValue fun result => result.map fun _ => .done
  | .increaseSize delta => (b.increaseBy delta).mapValue fun result => result.map fun _ => .done
  | .decreaseTargetSize _ => .done (.ok .done)
  | .deleteNodes nodes => (removeNodes nodes).mapValue fun result => result.map fun _ => .done
  | .targetSize => b.targetNodes.mapValue fun result => result.map fun nodes => .size nodes.toNat
  | .exists? => lookup.mapValue fun found => .ok (.existence found.isPresent)

/-- A group's run reports that of its bridge: the same questions leave the other party in the same
state, and the value is the same, or the failure in other terms. -/
structure Reports {σ Q α : Type} (own : Held σ Q (Except BridgeError α))
    (group : Held σ Q (Except CloudError α)) : Prop where
  asked : group.asked = own.asked
  state : group.state = own.state
  succeeded : ∀ value, group.value = .ok value ↔ own.value = .ok value
  failed : ∀ e, own.value = .error e → ∃ c, group.value = .error c ∧ e.Converted c

theorem reports_of_mapError {σ Q α : Type} (own : Held σ Q (Except BridgeError α)) :
    Reports own ⟨own.value.mapError BridgeError.toCloud, own.asked, own.state⟩ := by
  refine ⟨rfl, rfl, fun _ => mapError_eq_ok_iff, ?_⟩
  intro e failed
  exact ⟨e.toCloud, mapError_eq_error_iff.mpr ⟨e, failed, rfl⟩, e.toCloud_converts⟩

theorem failed_of_mapped {σ α β : Type} {answer : σ → Request → Outcome × σ} {state : σ}
    {f : α → β} {t : Exchange (Except BridgeError α)} {e : BridgeError}
    (failed : ((t.mapValue fun result => result.map f).run answer state).value = .error e) :
    (t.run answer state).value = .error e := by
  rw [Talk.run_mapValue] at failed
  exact map_eq_error_iff.mp failed

section Group
variable {σ : Type} (underlying : NodeGroup) (b : Bridge) (call : GroupCall)

theorem bridged_call_eq : (NodeGroup.bridged underlying b).call call =
    (b.own call).mapValue fun result => result.mapError BridgeError.toCloud := by
  have mapped {α : Type} (f : α → CallAnswer) (t : Exchange (Except BridgeError α)) :
      (inCloudTerms t).mapValue (fun result => result.map f) =
        (t.mapValue fun result => result.map f).mapValue fun result =>
          result.mapError BridgeError.toCloud := by
    rw [inCloudTerms, Talk.mapValue_mapValue, Talk.mapValue_mapValue]
    congr 1
    funext result
    cases result <;> rfl
  cases call with
  | create => exact mapped _ b.provision
  | delete => exact mapped _ Bridge.teardown
  | increaseSize delta => exact mapped _ (b.increaseBy delta)
  | decreaseTargetSize delta => rfl
  | deleteNodes nodes => exact mapped _ (Bridge.removeNodes nodes)
  | targetSize =>
    have sized : (b.targetNodes.mapValue fun result => result.map UInt32.toNat).mapValue
        (fun result => result.map CallAnswer.size) =
          b.targetNodes.mapValue fun result => result.map fun nodes => .size nodes.toNat := by
      rw [Talk.mapValue_mapValue]
      congr 1
      funext result
      cases result <;> rfl
    exact (mapped .size _).trans (congrArg _ sized)
  | exists? =>
    rw [NodeGroup.call, NodeGroup.exists?, Bridge.own, Talk.mapValue_mapValue,
      Talk.mapValue_mapValue]
    rfl

theorem run_bridged_call (answer : σ → Request → Outcome × σ) (state : σ) :
    Reports ((b.own call).run answer state)
      (((NodeGroup.bridged underlying b).call call).run answer state) := by
  rw [bridged_call_eq, Talk.run_mapValue]
  exact reports_of_mapError _

end Group

/-- The failure of an increase whose target 32 bits do not hold, after the answer to its read. -/
inductive Bridge.Overflows (b : Bridge) (delta : Int64) (read : Outcome) : CloudError → Prop where
  | beyond {found : Option Definition} {base : UInt32} (answered : read = .ok found)
      (listed : b.catalog.get? b.config.baseInstanceType = some base) (positive : 0 < delta)
      (excess : 4294967295 < (foundNodes base found + delta.toInt) * base.toNat) :
      Overflows b delta read (.invalidSize (toString (foundNodes base found) ++ " + " ++
        toString delta.toInt ++ " nodes of " ++ toString base.toNat ++
        " vCPUs overflows the target capacity"))

def NeverCloud {σ : Type} (answer : σ → Request → Outcome × σ) : Prop :=
  ∀ state q inner, (answer state q).1 ≠ .error (.cloud inner)

section Origin
variable {σ : Type} {answer : σ → Request → Outcome × σ} (never : NeverCloud answer) (state : σ)
  (b : Bridge) {inner : CloudError}
include never

theorem request_not_cloud (q : Request) :
    ((Bridge.request q).run answer state).value ≠ .error (.cloud inner) := by
  intro failed
  have answered : (answer state q).1 = .error (.cloud inner) := map_eq_error_iff.mp failed
  exact never state q inner answered

theorem targetNodes_not_cloud : (b.targetNodes.run answer state).value ≠ .error (.cloud inner) := by
  intro failed
  have sizes := Catalog.sizes_targetNodes b.catalog b.config answer state
  rw [failed] at sizes
  generalize read : (answer state .get).1 = outcome at sizes
  cases sizes
  exact never state .get inner read

theorem removeNodes_not_cloud (nodes : List Node) :
    ((Bridge.removeNodes nodes).run answer state).value ≠ .error (.cloud inner) := by
  intro failed
  by_cases empty : nodes.isEmpty
  · rw [Bridge.removeNodes, if_pos empty] at failed
    cases failed
  · rw [Bridge.removeNodes, if_neg empty] at failed
    cases read : instanceIds (nodes.map Node.providerId) with
    | ok ids =>
      rw [read] at failed
      exact request_not_cloud never state _ failed
    | error e =>
      obtain ⟨before, p, after, -, -, -, rfl⟩ := instanceIds_eq_error_iff.mp read
      rw [read] at failed
      cases failed

theorem provision_not_cloud : (b.provision.run answer state).value ≠ .error (.cloud inner) := by
  intro failed
  by_cases unsized : b.Unsized
  · rw [run_provision_of_unsized answer state unsized] at failed
    cases failed
  · obtain ⟨target, initial⟩ := Bridge.initialTarget_of_sized unsized
    obtain ⟨d, -, -, sent⟩ := run_provision_of_target answer state initial
    rw [sent] at failed
    exact never state (.create d) inner (map_eq_error_iff.mp failed)

theorem overflows_of_increaseBy {delta : Int64}
    (failed : ((b.increaseBy delta).run answer state).value = .error (.cloud inner)) :
    b.Overflows delta (answer state .get).1 inner := by
  rcases Int64.lt_or_le 0 delta with positive | nonpositive
  · cases read : (answer state .get).1 with
    | error e =>
      rw [run_increaseBy_of_positive answer state b positive, read, Bridge.afterRead_error] at failed
      cases failed
      exact absurd read (never state .get inner)
    | ok found =>
      cases listed : b.catalog.get? b.config.baseInstanceType with
      | none =>
        rw [run_increaseBy_of_positive answer state b positive, read,
          Bridge.afterRead_of_unlisted listed] at failed
        cases failed
      | some base =>
        rcases Int.lt_or_le 4294967295 ((Bridge.foundNodes base found + delta.toInt) * base.toNat)
          with excess | fits
        · rw [run_increaseBy_of_overflow answer state listed positive read excess,
            Bridge.targetOverflow, Bridge.toNat_readNodes] at failed
          cases failed
          exact .beyond rfl listed positive excess
        · obtain ⟨target, -, written⟩ :=
            run_increaseBy_of_fits answer state listed positive read fits
          rw [written] at failed
          exact absurd (map_eq_error_iff.mp failed) (never _ (.update target) inner)
  · rw [Bridge.increaseBy_of_nonpositive b nonpositive] at failed
    cases failed

theorem overflows_of_own {call : GroupCall}
    (failed : ((b.own call).run answer state).value = .error (.cloud inner)) :
    ∃ delta, call = .increaseSize delta ∧ b.Overflows delta (answer state .get).1 inner := by
  cases call with
  | create => exact absurd (failed_of_mapped failed) (provision_not_cloud never state b)
  | delete => exact absurd (failed_of_mapped failed) (request_not_cloud never state .delete)
  | increaseSize delta =>
    exact ⟨delta, rfl, overflows_of_increaseBy never state b (failed_of_mapped failed)⟩
  | decreaseTargetSize delta => cases failed
  | deleteNodes nodes =>
    exact absurd (failed_of_mapped failed) (removeNodes_not_cloud never state nodes)
  | targetSize => exact absurd (failed_of_mapped failed) (targetNodes_not_cloud never state b)
  | exists? =>
    rw [Bridge.own, Talk.run_mapValue] at failed
    cases failed

end Origin

namespace Client

def asking {σ : Type} (c : Client) (respond : σ → Post → Response × σ) (state : σ) (q : Request) :
    Outcome × σ :=
  let (response, later) := respond state (c.post q)
  (outcome q response, later)

/-- A conversation through the client is one with the party that the client makes of the service. -/
theorem run_through {σ α : Type} (c : Client) (respond : σ → Post → Response × σ) (t : Exchange α)
    (state : σ) : (t.through c.call).run respond state =
      let held := t.run (c.asking respond) state
      ⟨held.value, held.asked.map c.post, held.state⟩ := by
  induction t generalizing state with
  | done value => rfl
  | ask query next ih =>
    simp only [Talk.through, call, Talk.ask_bind, Talk.done_bind, Talk.run_ask, ih, asking,
      List.map_cons]

theorem asking_neverCloud {σ : Type} (c : Client) (respond : σ → Post → Response × σ) :
    NeverCloud (c.asking respond) := by
  intro state q inner answered
  have failed := (outcome_error_iff q (respond state (c.post q)).1 _).mp answered
  generalize (respond state (c.post q)).1 = response at failed
  cases failed

end Client

theorem Reports.through {σ α : Type} {own : Held σ Request (Except BridgeError α)}
    {group : Held σ Request (Except CloudError α)} (reports : Reports own group)
    (post : Request → Post) :
    Reports (σ := σ) ⟨own.value, own.asked.map post, own.state⟩
      ⟨group.value, group.asked.map post, group.state⟩ :=
  ⟨congrArg _ reports.asked, reports.state, reports.succeeded, reports.failed⟩

/-- A failure keeps what it was classified as. The status gate changes no more than the words of a
status above 400. The cloud contract gives back every failure but a wrapped cloud failure, and that
without its wrapping. A call of a bridged group asks and answers what its bridge does, whoever is on
the other side, and through the client the one cloud failure that it unwraps is the overflow of an
increase. -/
theorem failures_keep_their_cause :
    (∀ e : BridgeError, e.Gated e.gated ∧ e.gated.gated = e.gated) ∧
    (∀ {α : Type} (outcome : Except BridgeError α),
      (∀ value, outcome = .ok value → applyStatusGate outcome = .ok value) ∧
      (∀ e, outcome = .error e → applyStatusGate outcome = .error e.gated) ∧
      applyStatusGate (applyStatusGate outcome) = applyStatusGate outcome) ∧
    (∀ e : BridgeError, e.Converted e.toCloud) ∧
    ∀ (underlying : NodeGroup) (b : Bridge) (call : GroupCall),
      let group := NodeGroup.bridged underlying b
      (∀ {σ : Type} (answer : σ → Request → Outcome × σ) (state : σ),
        Reports ((b.own call).run answer state) ((group.call call).run answer state)) ∧
      ∀ {σ : Type} (respond : σ → Post → Response × σ) (state : σ),
        let client := Client.ofConfig b.config
        let own := ((b.own call).through client.call).run respond state
        Reports own (((group.call call).through client.call).run respond state) ∧
          ∀ inner, own.value = .error (.cloud inner) →
            ∃ delta, call = .increaseSize delta ∧
              b.Overflows delta (Client.outcome .get (respond state (client.post .get)).1) inner := by
  refine ⟨?_, ?_, BridgeError.toCloud_converts, ?_⟩
  · intro e
    exact ⟨e.gated_gates, e.gated_gated⟩
  · intro α outcome
    refine ⟨?_, ?_, applyStatusGate_applyStatusGate outcome⟩
    · intro value succeeded
      rw [succeeded]
      rfl
    · intro e failed
      rw [failed]
      rfl
  · intro underlying b call group
    refine ⟨run_bridged_call underlying b call, ?_⟩
    intro σ respond state client own
    have asked := run_bridged_call underlying b call (client.asking respond) state
    refine ⟨?_, ?_⟩
    · rw [Client.run_through]
      simp only [own, Client.run_through]
      exact asked.through client.post
    · intro inner failed
      simp only [own, Client.run_through] at failed
      exact overflows_of_own (client.asking_neverCloud respond) state b failed

theorem unavailable_service_reported_with_cause :
    let b : Bridge := ⟨.ofRecords [("c3.xlarge", 4)], Config.bare "workers" "c3.xlarge"⟩
    let group := NodeGroup.bridged (.fixed { id := "workers", minSize := 0, maxSize := 9 }) b
    let client := Client.ofConfig b.config
    let held {α : Type} (response : Response) (t : Exchange α) :=
      (t.through client.call).run ScriptedService.answer { script := [response] }
    let failure := BridgeError.httpStatus 503 "AutoScalr API returned status code: 503"
    let overflow := CloudError.invalidSize
      "0 + 9223372036854775807 nodes of 4 vCPUs overflows the target capacity"
    let largest := GroupCall.increaseSize 9223372036854775807
    applyStatusGate (α := Unit) (.error (.httpStatus 503 "down")) = .error failure ∧
      (∃ c, (held (.received 503 .empty) (group.call .targetSize)).value = .error c ∧
        c.bridgeError? = some failure ∧ c.message = failure.message) ∧
      (∃ c, (held (.received 200 .empty) (group.call largest)).value = .error c ∧ c = overflow) ∧
      ∃ delta, largest = .increaseSize delta ∧ b.Overflows delta (.ok none) overflow := by
  intro b group client held failure overflow largest
  obtain ⟨-, gate, -, calls⟩ := failures_keep_their_cause
  have through (response : Response) (call : GroupCall) :=
    (calls (.fixed { id := "workers", minSize := 0, maxSize := 9 }) b call).2
      ScriptedService.answer { script := [response] }
  have unavailable : (held (.received 503 .empty) (b.own .targetSize)).value = .error failure := rfl
  have overflown : (held (.received 200 .empty) (b.own largest)).value =
      .error (.cloud overflow) := rfl
  refine ⟨(gate _).2.1 _ rfl, ?_, ?_, ?_⟩
  · obtain ⟨c, reported, converted⟩ :=
      (through (.received 503 .empty) .targetSize).1.failed failure unavailable
    exact ⟨c, reported, converted.recovered rfl, converted.worded rfl⟩
  · obtain ⟨c, reported, converted⟩ :=
      (through (.received 200 .empty) largest).1.failed _ overflown
    exact ⟨c, reported, converted.unwrapped overflow rfl⟩
  · exact (through (.received 200 .empty) largest).2 overflow overflown

end NodeScaling
