import NodeScaling.ClusterState
import NodeScaling.NodeGroup
import NodeScaling.Proofs.Attempts
import NodeScaling.Proofs.Classification
import NodeScaling.Proofs.JsonRoundTrip
import NodeScaling.Proofs.Sizing

/-!
One response, seen through every operation that makes a single request. A read, the existence of
the group, its size, the writes and the report of a cluster state go through different code and
expect different payloads. They agree on whether a response is a failure, on which one it is up to
the wording of a status, and on what it says of the definition.
-/
namespace NodeScaling

namespace BridgeError

inductive Kind where
  | transport
  | httpStatus
  | remote
  | unknownInstanceType
  | malformedProviderId
  | invalidDelta
  | clientBuild
  | json
  | cloud
  deriving DecidableEq, Repr

def kind : BridgeError → Kind
  | transport _ _ => .transport
  | httpStatus _ _ => .httpStatus
  | remote _ _ => .remote
  | unknownInstanceType _ => .unknownInstanceType
  | malformedProviderId _ => .malformedProviderId
  | invalidDelta _ => .invalidDelta
  | clientBuild _ => .clientBuild
  | json _ => .json
  | cloud _ => .cloud

end BridgeError

namespace Response

def Fails : Response → Prop
  | lost _ => True
  | received status body => status ≠ 200 ∨ ∃ message code, ReportsError body message code

/-- Which failure a response is, where an unexpected status is put in the given words. -/
inductive FailsWith (words : UInt16 → String) : Response → BridgeError → Prop where
  | lost (detail : String) : FailsWith words (.lost detail) (.transport 500 detail)
  | status {status : UInt16} (body : ByteArray) (bad : status ≠ 200) :
      FailsWith words (.received status body) (.httpStatus status (words status))
  | reported {body : ByteArray} {message code : String} (reports : ReportsError body message code) :
      FailsWith words (.received 200 body) (.remote message code)

def plainWords (status : UInt16) : String :=
  "AutoScalr API returned: " ++ toString status.toNat

def clientWords (status : UInt16) : String :=
  if 400 < status then "AutoScalr API returned status code: " ++ toString status.toNat
  else plainWords status

def reportWords (status : UInt16) : String :=
  "k8sClusterStateAPI returned: " ++ toString status.toNat

def payload? {α : Type} (decode : Json → Option α) : Response → Option α
  | lost _ => none
  | received _ body => (Reply.bodyValue? body).bind decode

theorem fails_iff (words : UInt16 → String) (r : Response) :
    r.Fails ↔ ∃ e, r.FailsWith words e := by
  cases r with
  | lost detail =>
    constructor
    · intro _
      exact ⟨_, .lost detail⟩
    · intro _
      trivial
  | received status body =>
    constructor
    · intro fails
      by_cases good : status = 200
      · subst good
        rcases fails with bad | ⟨message, code, reports⟩
        · exact absurd rfl bad
        · exact ⟨_, .reported reports⟩
      · exact ⟨_, .status body good⟩
    · rintro ⟨e, failed⟩
      cases failed with
      | status _ bad => exact Or.inl bad
      | reported reports => exact Or.inr ⟨_, _, reports⟩

/-- The words for a status change neither the kind of a failure nor its status, and nothing at all
of any other failure. -/
theorem failsWith_in_other_words {words : UInt16 → String} (words' : UInt16 → String)
    {r : Response} {e : BridgeError} (failed : r.FailsWith words e) :
    ∃ e', r.FailsWith words' e' ∧ e'.kind = e.kind ∧ e'.status? = e.status? ∧
      (e.kind ≠ .httpStatus → e' = e) := by
  cases failed with
  | lost detail => exact ⟨_, .lost detail, rfl, rfl, fun _ => rfl⟩
  | status body bad => exact ⟨_, .status body bad, rfl, rfl, fun other => absurd rfl other⟩
  | reported reports => exact ⟨_, .reported reports, rfl, rfl, fun _ => rfl⟩

section Classified
variable {α : Type} (decode : Json → Option α) (r : Response)

theorem classify_error_iff_fails (e : BridgeError) :
    r.classify decode = .error e ↔ r.FailsWith plainWords e := by
  cases r with
  | lost detail =>
    constructor
    · rintro ⟨⟩
      exact .lost detail
    · rintro ⟨⟩
      rfl
  | received status body =>
    rw [classify, classify_error_iff]
    constructor
    · rintro (⟨bad, rfl⟩ | ⟨rfl, message, code, reports, rfl⟩)
      · exact .status body bad
      · exact .reported reports
    · intro failed
      cases failed with
      | status _ bad => exact Or.inl ⟨bad, rfl⟩
      | reported reports => exact Or.inr ⟨rfl, _, _, reports, rfl⟩

theorem classify_ok_iff_succeeds (found : Option α) :
    r.classify decode = .ok found ↔ ¬ r.Fails ∧ found = r.payload? decode := by
  cases r with
  | lost detail =>
    constructor
    · nofun
    · rintro ⟨succeeds, -⟩
      exact absurd trivial succeeds
  | received status body =>
    rw [classify, classify_ok_iff, Fails, not_or, Decidable.not_not]
    exact and_assoc.symm

theorem reworded_error_iff {change : BridgeError → BridgeError} {words : UInt16 → String}
    (ofLost : ∀ detail, change (.transport 500 detail) = .transport 500 detail)
    (ofStatus : ∀ status, change (.httpStatus status (plainWords status)) =
      .httpStatus status (words status))
    (ofReport : ∀ message code, change (.remote message code) = .remote message code)
    (e : BridgeError) :
    (r.classify decode).mapError change = .error e ↔ r.FailsWith words e := by
  rw [mapError_eq_error_iff]
  constructor
  · rintro ⟨cause, outcome, rfl⟩
    cases (classify_error_iff_fails decode r cause).mp outcome with
    | lost detail => rw [ofLost]; exact .lost detail
    | status body bad => rw [ofStatus]; exact .status body bad
    | reported reports => rw [ofReport]; exact .reported reports
  · intro failed
    have plain {cause : BridgeError} := (classify_error_iff_fails decode r cause).mpr
    cases failed with
    | lost detail => exact ⟨_, plain (.lost detail), ofLost detail⟩
    | status body bad => exact ⟨_, plain (.status body bad), ofStatus _⟩
    | reported reports => exact ⟨_, plain (.reported reports), ofReport _ _⟩

end Classified

end Response

namespace Client
variable (q : Request) (r : Response)

theorem outcome_error_iff (e : BridgeError) :
    outcome q r = .error e ↔ r.FailsWith Response.clientWords e := by
  have gate (status : UInt16) : BridgeError.gated (.httpStatus status (Response.plainWords status)) =
      .httpStatus status (Response.clientWords status) := by
    rw [BridgeError.gated, Response.clientWords]
    split <;> rfl
  have gated : (r.classify Definition.ofJson?).mapError BridgeError.gated = .error e ↔
      r.FailsWith Response.clientWords e :=
    Response.reworded_error_iff Definition.ofJson? r (fun _ => rfl) gate (fun _ _ => rfl) e
  rw [← gated, outcome, applyStatusGate, map_eq_error_iff]

theorem outcome_ok_iff (found : Option Definition) :
    outcome q r = .ok found ↔
      ¬ r.Fails ∧ found = settle q (r.payload? Definition.ofJson?) := by
  constructor
  · intro succeeded
    cases classified : r.classify Definition.ofJson? with
    | ok read =>
      obtain ⟨succeeds, rfl⟩ := (Response.classify_ok_iff_succeeds _ r read).mp classified
      rw [outcome, classified] at succeeded
      cases succeeded
      exact ⟨succeeds, rfl⟩
    | error cause =>
      rw [outcome, classified] at succeeded
      cases succeeded
  · rintro ⟨succeeds, rfl⟩
    rw [outcome, (Response.classify_ok_iff_succeeds _ r _).mpr ⟨succeeds, rfl⟩]
    rfl

end Client

theorem ClusterState.outcome_eq (r : Response) :
    ClusterState.outcome r = ((r.classify some).mapError ClusterState.reworded).map fun _ => 200 := by
  rw [ClusterState.outcome]
  cases r.classify some <;> rfl

theorem ClusterState.outcome_error_iff (r : Response) (e : BridgeError) :
    ClusterState.outcome r = .error e ↔ r.FailsWith Response.reportWords e := by
  have reworded : (r.classify some).mapError ClusterState.reworded = .error e ↔
      r.FailsWith Response.reportWords e :=
    Response.reworded_error_iff some r (fun _ => rfl) (fun _ => rfl) (fun _ _ => rfl) e
  rw [← reworded, ClusterState.outcome_eq, map_eq_error_iff]

theorem ClusterState.outcome_ok_iff (r : Response) :
    ClusterState.outcome r = .ok 200 ↔ ¬ r.Fails := by
  rw [Response.fails_iff Response.reportWords]
  constructor
  · rintro acknowledged ⟨e, failed⟩
    rw [(ClusterState.outcome_error_iff r e).mpr failed] at acknowledged
    cases acknowledged
  · intro succeeds
    cases outcome : ClusterState.outcome r with
    | error e => exact absurd ⟨e, (ClusterState.outcome_error_iff r e).mp outcome⟩ succeeds
    | ok status =>
      rw [ClusterState.outcome_eq] at outcome
      cases classified : (r.classify some).mapError ClusterState.reworded with
      | ok found =>
        rw [classified] at outcome
        exact outcome.symm
      | error cause =>
        rw [classified] at outcome
        cases outcome

def Lookup.ofOutcome : Outcome → Lookup
  | .ok (some definition) => .present definition
  | .ok none => .absent
  | .error cause => .readFailed cause

namespace Lookup
variable {answer : Outcome}

theorem ofOutcome_failed_iff {e : BridgeError} :
    ofOutcome answer = .readFailed e ↔ answer = .error e := by
  rcases answer with cause | _ | d <;> simp [ofOutcome]

theorem ofOutcome_present_iff {d : Definition} :
    ofOutcome answer = .present d ↔ answer = .ok (some d) := by
  rcases answer with cause | _ | d <;> simp [ofOutcome]

theorem ofOutcome_absent_iff : ofOutcome answer = .absent ↔ answer = .ok none := by
  rcases answer with cause | _ | d <;> simp [ofOutcome]

theorem isPresent_iff (l : Lookup) : l.isPresent = true ↔ ∃ d, l = .present d := by
  cases l <;> simp [isPresent]

end Lookup

namespace Bridge

def nodesRead (b : Bridge) : Outcome → Except BridgeError UInt32
  | .ok (some definition) => b.nodesOf definition
  | .ok none => .ok 0
  | .error e => .error e

theorem lookup_eq : lookup = .ask .get fun answer => .done (Lookup.ofOutcome answer) := by
  unfold lookup
  congr 1
  funext answer
  rcases answer with e | _ | d <;> rfl

theorem targetNodes_eq (b : Bridge) :
    b.targetNodes = .ask .get fun answer => .done (b.nodesRead answer) := by
  unfold targetNodes
  congr 1
  funext answer
  rcases answer with e | _ | d <;> rfl

end Bridge

theorem NodeGroup.bridged_exists?_eq (underlying : NodeGroup) (b : Bridge) :
    (NodeGroup.bridged underlying b).exists? =
      .ask .get fun answer => .done (Lookup.ofOutcome answer).isPresent := by
  rw [NodeGroup.exists?, Bridge.lookup_eq]
  rfl

/-- What the reads make of a response: the outcome of the client's own read, what the bridge finds,
whether the group exists, and its size in nodes of the given vCPUs. -/
structure ReadViews (r : Response) (base : UInt32) (read : Outcome) (found : Lookup)
    (existing : Bool) (size : Except BridgeError UInt32) : Prop where
  failed : ∀ e, found = .readFailed e ↔ r.FailsWith Response.clientWords e
  present : ∀ d, found = .present d ↔
    ¬ r.Fails ∧ r.payload? Definition.ofJson? = some d ∧ d.groupId ≠ ""
  absent : found = .absent ↔
    ¬ r.Fails ∧ ∀ d, r.payload? Definition.ofJson? = some d → d.groupId = ""
  read_found : found = Lookup.ofOutcome read
  existing_iff : existing = true ↔ ∃ d, found = .present d
  size_failed : ∀ e, found = .readFailed e → size = .error e
  size_present : ∀ d, found = .present d →
    size.map UInt32.toNat = .ok (d.targetCapacity.toNat / base.toNat)
  size_absent : found = .absent → size = .ok 0

structure WriteView (r : Response) (written : Outcome) : Prop where
  succeeds : written = .ok none ↔ ¬ r.Fails
  failed : ∀ e, written = .error e ↔ r.FailsWith Response.clientWords e

structure ReportView (r : Response) (reported : Except BridgeError UInt16) : Prop where
  acknowledged : reported = .ok 200 ↔ ¬ r.Fails
  failed : ∀ e, r.FailsWith Response.clientWords e → ∃ e', reported = .error e' ∧
    e'.kind = e.kind ∧ e'.status? = e.status? ∧ (e.kind ≠ .httpStatus → e' = e)

theorem readViews_of_outcome {b : Bridge} {base : UInt32} (listed : b.baseVcpus = .ok base)
    (r : Response) :
    let read := Client.outcome .get r
    let found := Lookup.ofOutcome read
    ReadViews r base read found found.isPresent (b.nodesRead read) := by
  intro read found
  have settled (d : Option Definition) : read = .ok d ↔
      ¬ r.Fails ∧ d = (r.payload? Definition.ofJson?).filter fun d => !d.groupId.isEmpty :=
    Client.outcome_ok_iff .get r d
  refine ⟨?_, ?_, ?_, rfl, found.isPresent_iff, ?_, ?_, ?_⟩
  · intro e
    rw [Lookup.ofOutcome_failed_iff]
    exact Client.outcome_error_iff .get r e
  · intro d
    rw [Lookup.ofOutcome_present_iff, settled, eq_comm, Option.filter_eq_some_iff]
    simp
  · rw [Lookup.ofOutcome_absent_iff, settled, eq_comm, Option.filter_eq_none_iff]
    simp
  · intro e failed
    rw [Lookup.ofOutcome_failed_iff.mp failed]
    rfl
  · intro d present
    rw [Lookup.ofOutcome_present_iff.mp present, Bridge.nodesRead, Bridge.nodesOf, listed]
    exact congrArg Except.ok (UInt32.toNat_div _ _)
  · intro absent
    rw [Lookup.ofOutcome_absent_iff.mp absent]
    rfl

theorem writeView_of_outcome {q : Request} (writes : q ≠ .get) (r : Response) :
    WriteView r (Client.outcome q r) := by
  have nothing (found : Option Definition) : Client.settle q found = none := by
    cases q with
    | get => exact absurd rfl writes
    | create | update | deleteNodes | delete => rfl
  refine ⟨?_, Client.outcome_error_iff q r⟩
  rw [Client.outcome_ok_iff, nothing]
  simp

theorem reportView_of_outcome (r : Response) : ReportView r (ClusterState.outcome r) := by
  refine ⟨ClusterState.outcome_ok_iff r, ?_⟩
  intro e failed
  obtain ⟨e', reworded, alike⟩ := Response.failsWith_in_other_words Response.reportWords failed
  exact ⟨e', (ClusterState.outcome_error_iff r e').mpr reworded, alike⟩

/-- Every operation here makes one request. Whatever response answers it, all operations read it
alike: they fail for the same responses and with the same failure, and otherwise agree on the
definition in its body. -/
theorem views_of_response_agree (b : Bridge) (underlying : NodeGroup) (base : UInt32)
    (listed : b.catalog.get? b.config.baseInstanceType = some base) (r : Response) :
    let client := Client.ofConfig b.config
    let held {α : Type} (t : Talk Post Response α) :=
      t.run ScriptedService.answer { script := [r] }
    let read := held (client.call .get)
    let found := held (Bridge.lookup.through client.call)
    let existing := held ((NodeGroup.bridged underlying b).exists?.through client.call)
    let size := held (b.targetNodes.through client.call)
    (r.Fails ↔ ∃ e, r.FailsWith Response.clientWords e) ∧
    (∀ asked ∈ [read.asked, found.asked, existing.asked, size.asked],
      asked = [client.post .get]) ∧
    ReadViews r base read.value found.value existing.value size.value ∧
    (∀ q ≠ Request.get, (held (client.call q)).asked = [client.post q] ∧
      WriteView r (held (client.call q)).value) ∧
    ∀ snapshot : Snapshot,
      let state := ClusterState.ofSnapshot b.config snapshot
      let reported := held (state.report b.config.clusterStateEndpoint)
      reported.asked.length = 1 ∧ ReportView r reported.value := by
  intro client held read found existing size
  have known : b.baseVcpus = .ok base := Catalog.vcpusOf_eq_ok_iff.mpr listed
  have single {α : Type} (f : Outcome → α) :
      held ((Talk.ask .get fun answer => .done (f answer)).through client.call) =
        ⟨f (Client.outcome .get r), [client.post .get], { arrived := [client.post .get] }⟩ := rfl
  have foundEq := single Lookup.ofOutcome
  rw [← Bridge.lookup_eq] at foundEq
  have existingEq := single fun answer => (Lookup.ofOutcome answer).isPresent
  rw [← NodeGroup.bridged_exists?_eq underlying b] at existingEq
  have sizeEq := single b.nodesRead
  rw [← Bridge.targetNodes_eq] at sizeEq
  change found = _ at foundEq
  change existing = _ at existingEq
  change size = _ at sizeEq
  refine ⟨Response.fails_iff _ r, ?_, ?_, ?_, ?_⟩
  · rw [foundEq, existingEq, sizeEq]
    simp [read, held, client, Client.call, ScriptedService.answer]
  · rw [foundEq, existingEq, sizeEq]
    exact readViews_of_outcome known r
  · intro q writes
    exact ⟨rfl, writeView_of_outcome writes r⟩
  · intro snapshot state reported
    exact ⟨rfl, reportView_of_outcome r⟩

theorem scripted_responses_seen_alike :
    let b : Bridge := ⟨Catalog.ofRecords [("c3.xlarge", 4)], Config.bare "workers" "c3.xlarge"⟩
    let group := NodeGroup.bridged (.fixed { id := "workers", minSize := 0, maxSize := 9 }) b
    let client := Client.ofConfig b.config
    let held {α : Type} (r : Response) (t : Talk Post Response α) :=
      (t.run ScriptedService.answer { script := [r] }).value
    let unavailable := Response.received 503 .empty
    let failure := BridgeError.httpStatus 503 "AutoScalr API returned status code: 503"
    let ms : List (String × Json) :=
      [("aws_autoscaling_group_name", .string "workers"), ("target_capacity", .ofUInt32 13)]
    let d : Definition := { groupId := "workers", targetCapacity := 13 }
    let shown := Response.received 200 (Json.object ms).text.toUTF8
    held unavailable (b.targetNodes.through client.call) = .error failure ∧
      held unavailable (group.exists?.through client.call) = false ∧
      held unavailable (client.call .delete) = .error failure ∧
      held shown (Bridge.lookup.through client.call) = .present d ∧
      held shown (group.exists?.through client.call) = true ∧
      (held shown (b.targetNodes.through client.call)).map UInt32.toNat = .ok 3 ∧
      held shown (client.call .delete) = .ok none := by
  intro b group client held unavailable failure ms d shown
  have views := views_of_response_agree b (.fixed { id := "workers", minSize := 0, maxSize := 9 }) 4
    (by decide)
  obtain ⟨-, -, reads, writes, -⟩ := views unavailable
  obtain ⟨-, -, reads', writes', -⟩ := views shown
  have failed : unavailable.FailsWith Response.clientWords failure := .status .empty (by decide)
  have unread := (reads.failed failure).mpr failed
  have exact : (Json.object ms).Exact := by
    apply Json.Exact.object
    simp only [ms, List.forall_mem_cons]
    exact ⟨.string _, .int _ _, nofun⟩
  have value := Reply.bodyValue?_text exact rfl
  have succeeds : ¬ shown.Fails := by
    rintro (bad | reports)
    · exact bad rfl
    · exact silent_of_no_error value rfl reports
  have told : shown.payload? Definition.ofJson? = some d := by
    rw [Response.payload?, value]
    rfl
  have present := (reads'.present d).mpr ⟨succeeds, told, by decide⟩
  have unfound : held unavailable (group.exists?.through client.call) = false := by
    rw [Bool.eq_false_iff]
    intro existing
    obtain ⟨found, there⟩ := reads.existing_iff.mp existing
    rw [unread] at there
    cases there
  have counted : d.targetCapacity.toNat / UInt32.toNat 4 = 3 := by decide
  exact ⟨reads.size_failed failure unread, unfound,
    ((writes .delete (by nofun)).2.failed failure).mpr failed, present,
    reads'.existing_iff.mpr ⟨d, present⟩,
    (reads'.size_present d present).trans (congrArg Except.ok counted),
    (writes' .delete (by nofun)).2.succeeds.mpr succeeds⟩

end NodeScaling
