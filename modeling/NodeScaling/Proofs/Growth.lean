import NodeScaling.Proofs.DefinitionMembers
import NodeScaling.Proofs.ResponseViews

/-!
What an increase makes of the body it reads. If the body can be read as a definition, the update
exceeds the target in it. If one field is of another kind than its own, the body is not recognised,
and the increase counts from no nodes, whatever target the body shows.
-/
namespace NodeScaling

/-- What an increase has posted: its read, and then nothing or one update with a target of some
property. -/
inductive Posted (client : Client) (property : UInt32 → Prop) : List Post → Prop where
  | readOnly : Posted client property [client.post .get]
  | raised {target : UInt32} (meets : property target) :
      Posted client property [client.post .get, client.post (.update target)]

theorem Posted.mono {client : Client} {property other : UInt32 → Prop} {posts : List Post}
    (posted : Posted client property posts) (within : ∀ target, property target → other target) :
    Posted client other posts := by
  cases posted with
  | readOnly => exact .readOnly
  | raised meets => exact .raised (within _ meets)

section Read
variable {σ : Type} (answer : σ → Post → Response × σ) (state : σ) {b : Bridge} {base : UInt32}
  {delta : Int64} {body : ByteArray}

def heldIncrease (b : Bridge) (delta : Int64) : Held σ Post (Except BridgeError Unit) :=
  ((b.increaseBy delta).through (Client.ofConfig b.config).call).run answer state

theorem heldIncrease_of_read (positive : 0 < delta) {found : Option Definition}
    (read : Client.outcome .get (answer state ((Client.ofConfig b.config).post .get)).1 =
      .ok found) :
    heldIncrease answer state b delta =
      let client := Client.ofConfig b.config
      let rest := ((b.afterRead delta (.ok found)).through client.call).run answer
        (answer state (client.post .get)).2
      { rest with asked := client.post .get :: rest.asked } := by
  rw [heldIncrease, Bridge.increaseBy_of_positive b positive, ← read]
  rfl

theorem posted_of_read (listed : b.baseVcpus = .ok base) (positive : 0 < delta)
    {found : Option Definition}
    (read : Client.outcome .get (answer state ((Client.ofConfig b.config).post .get)).1 =
      .ok found) :
    Posted (Client.ofConfig b.config)
      (fun target => target.toNat =
        Bridge.raisedVcpus (Bridge.foundNodes base found) delta.toNatClampNeg base.toNat)
      (heldIncrease answer state b delta).asked := by
  rw [heldIncrease_of_read answer state positive read, Bridge.afterRead_ok listed found positive,
    Bridge.toNat_readNodes]
  split
  · next fits => exact .raised (UInt32.toNat_ofNat_of_lt' fits)
  · exact .readOnly

theorem read_of_silent (silent : ¬ ∃ message code, ReportsError body message code) :
    Client.outcome .get (.received 200 body) =
      .ok (((Reply.bodyValue? body).bind Definition.ofJson?).filter
        fun d => !d.groupId.isEmpty) := by
  refine (Client.outcome_ok_iff .get _ _).mpr ⟨?_, rfl⟩
  rintro (bad | reports)
  · exact bad rfl
  · exact silent reports

end Read

/-- An increase outgrows the target that it is shown, if the body can be read as a definition. If
not, because some field is not of its kind or because the body has no value at all, it raises from
no nodes, whatever target it is shown. -/
theorem increase_outgrows_readable_target {σ : Type} (answer : σ → Post → Response × σ) (state : σ)
    (b : Bridge) (base : UInt32) (delta : Int64) (body : ByteArray)
    (listed : b.catalog.get? b.config.baseInstanceType = some base) (positive : 0 < delta)
    (answered : (answer state ((Client.ofConfig b.config).post .get)).1 = .received 200 body) :
    let client := Client.ofConfig b.config
    let asked := (((b.increaseBy delta).through client.call).run answer state).asked
    (∀ ms group target, Reply.bodyValue? body = some (.object ms) → ms.lookup "error" = none →
      ms.lookup "aws_autoscaling_group_name" = some (.string group) → group ≠ "" →
      ms.lookup "target_capacity" = some (.ofUInt32 target) →
        (Definition.Readable ms → Posted client (fun raised => target < raised) asked) ∧
        (¬ Definition.Readable ms →
          Posted client (fun raised => (raised.toNat : Int) = delta.toInt * base.toNat) asked)) ∧
    (Reply.bodyValue? body = none →
      Posted client (fun raised => (raised.toNat : Int) = delta.toInt * base.toNat) asked) := by
  intro client asked
  have known : b.baseVcpus = .ok base := Catalog.vcpusOf_eq_ok_iff.mpr listed
  have gain : (delta.toNatClampNeg : Int) = delta.toInt :=
    Int64.cast_toNatClampNeg delta (Int64.le_of_lt positive)
  have raises {found : Option Definition}
      (read : Client.outcome .get (.received 200 body) = .ok found) :
      Posted client (fun raised => raised.toNat =
        Bridge.raisedVcpus (Bridge.foundNodes base found) delta.toNatClampNeg base.toNat) asked :=
    posted_of_read answer state known positive (by rw [answered, read])
  have fromNone (read : Client.outcome .get (.received 200 body) = .ok none) :
      Posted client (fun raised => (raised.toNat : Int) = delta.toInt * base.toNat) asked := by
    refine (raises read).mono fun raised exact => ?_
    rw [exact, ← gain, Bridge.raisedVcpus, Bridge.foundNodes, Option.elim_none, Nat.zero_add,
      Int.natCast_mul]
  refine ⟨?_, ?_⟩
  · intro ms group target value errorless named nonempty shown
    have read := read_of_silent (silent_of_no_error value errorless)
    rw [value, Option.bind_some] at read
    refine ⟨?_, ?_⟩
    · rintro ⟨d, found⟩
      have ascending : ms.Pairwise fun a b => a.1 < b.1 := by
        cases Reply.ordered_of_bodyValue value with
        | object _ ascending _ => exact ascending
      have group_eq := Definition.groupId_of_lookup ascending found named
      have target_eq := Definition.targetCapacity_of_lookup ascending found shown
      rw [d.ofJson?_of_found found, Option.filter_some, if_pos (by simpa [group_eq])] at read
      refine (raises read).mono fun raised exact => ?_
      rw [UInt32.lt_iff_toNat_lt, exact, ← target_eq]
      exact Bridge.lt_raisedVcpus known d.targetCapacity.toNat positive
    · intro unreadable
      rw [Definition.ofJson?_of_unreadable unreadable] at read
      exact fromNone read
  · intro none
    have silent : ¬ ∃ message code, ReportsError body message code := by
      rintro ⟨message, code, value, valid, -⟩
      rw [none] at valid
      cases valid
    have read := read_of_silent silent
    rw [none] at read
    exact fromNone read

theorem shown_target_outgrown_by_one_node :
    let b : Bridge := ⟨.ofRecords [("c3.large", 2)], Config.bare "workers" "c3.large"⟩
    let client := Client.ofConfig b.config
    let shown (family : Json) : List (String × Json) :=
      [("aws_autoscaling_group_name", .string "workers"), ("os_family", family),
        ("target_capacity", .ofUInt32 20)]
    let asked (body : ByteArray) := (((b.increaseBy 1).through client.call).run
      ScriptedService.answer { script := [.received 200 body] }).asked
    Posted client (fun raised => 20 < raised) (asked (Json.object (shown .null)).text.toUTF8) ∧
      Posted client (fun raised => (raised.toNat : Int) = 2)
        (asked (Json.object (shown (.ofUInt32 5))).text.toUTF8) ∧
      Posted client (fun raised => (raised.toNat : Int) = 2) (asked .empty) := by
  intro b client shown asked
  have listed : b.catalog.get? b.config.baseInstanceType = some 2 := by decide
  have outgrown (body : ByteArray) := increase_outgrows_readable_target ScriptedService.answer
    { script := [.received 200 body] } b 2 1 body listed (by decide) rfl
  have text {family : Json} (exact : family.Exact) : (Json.object (shown family)).Exact := by
    apply Json.Exact.object
    simp only [shown, List.forall_mem_cons]
    exact ⟨.string _, exact, .int _ _, nofun⟩
  have readable : Definition.Readable (shown .null) :=
    ⟨_, (Definition.ofJson?_object_eq_some_iff
      { groupId := "workers", targetCapacity := 20 } _).mp rfl⟩
  have unreadable : ¬ Definition.Readable (shown (.ofUInt32 5)) := by
    rintro ⟨d, found⟩
    cases (Definition.ofJson?_object_eq_some_iff d _).mpr found
  refine ⟨?_, ?_, ?_⟩
  · exact ((outgrown _).1 _ "workers" 20 (Reply.bodyValue?_text (text .null) rfl) rfl rfl
      (by decide) rfl).1 readable
  · exact ((outgrown _).1 _ "workers" 20 (Reply.bodyValue?_text (text (.int _ _)) rfl) rfl rfl
      (by decide) rfl).2 unreadable
  · exact (outgrown .empty).2 rfl

/-- A body that shows twenty vCPUs, and whose system family is a number, is answered with an update
to two: the increase by one node succeeds, and the group has shrunk. -/
theorem unreadable_field_shrinks_group :
    let b : Bridge := ⟨.ofRecords [("c3.large", 2)], Config.bare "workers" "c3.large"⟩
    let client := Client.ofConfig b.config
    let ms : List (String × Json) :=
      [("aws_autoscaling_group_name", .string "workers"), ("os_family", .ofUInt32 5),
        ("target_capacity", .ofUInt32 20)]
    let body := (Json.object ms).text.toUTF8
    let held := ((b.increaseBy 1).through client.call).run ScriptedService.answer
      { script := [.received 200 body, .received 200 .empty] }
    b.catalog.get? b.config.baseInstanceType = some 2 ∧
      Reply.bodyValue? body = some (.object ms) ∧ ms.lookup "error" = none ∧
      ms.lookup "aws_autoscaling_group_name" = some (.string "workers") ∧ "workers" ≠ "" ∧
      ms.lookup "target_capacity" = some (.ofUInt32 20) ∧
      held.value = .ok () ∧ held.asked = [client.post .get, client.post (.update 2)] ∧
      ¬ (20 : UInt32) < 2 := by
  intro b client ms body held
  have exact : (Json.object ms).Exact := by
    apply Json.Exact.object
    simp only [ms, List.forall_mem_cons]
    exact ⟨.string _, .int _ _, .int _ _, nofun⟩
  have value : Reply.bodyValue? body = some (.object ms) := Reply.bodyValue?_text exact rfl
  have read : Client.outcome .get (.received 200 body) = .ok none := by
    rw [read_of_silent (silent_of_no_error value rfl), value]
    rfl
  have raised : b.afterRead 1 (.ok none) = Bridge.request (.update 2) := rfl
  have positive : (0 : Int64) < 1 := by decide
  have written : heldIncrease _ _ b 1 = _ := heldIncrease_of_read ScriptedService.answer
    { script := [.received 200 body, .received 200 .empty] } positive read
  rw [raised] at written
  exact ⟨by decide, value, rfl, rfl, by decide, rfl, congrArg Held.value written,
    congrArg Held.asked written, by decide⟩

end NodeScaling