import NodeScaling.Proofs.Sizing

/-!
An increase computes over the integers. Its words are wide enough for every target, every listed
count and every difference, so that the raised target is written if 32 bits hold it and refused
otherwise, and an increase that ends early has written nothing.
-/
namespace NodeScaling

/-- The operations on words in an increase, each of them with its exact result: none divides by
zero and none wraps. The plain sum is the one that is reported, the others lead to the target. -/
structure ExactWords (base : UInt32) (found : Option Definition) (delta : Int64) : Prop where
  divisor : base ≠ 0
  quotient : (Bridge.readNodes base found).toUInt64.toNat = Bridge.foundNodes base found
  difference : (delta.toUInt64.toNat : Int) = delta.toInt
  plainSum : ((Bridge.readNodes base found).toUInt64 + delta.toUInt64).toNat =
    Bridge.foundNodes base found + delta.toUInt64.toNat
  sum : CheckedWord.add? (Bridge.readNodes base found).toUInt64 delta.toUInt64 =
    some ((Bridge.readNodes base found).toUInt64 + delta.toUInt64)
  product : ∀ nodes vcpus, CheckedWord.mul? nodes base.toUInt64 = some vcpus ↔
    vcpus.toNat = nodes.toNat * base.toNat
  narrowed : ∀ vcpus target, CheckedWord.narrow? vcpus = some target ↔ target.toNat = vcpus.toNat

section Words
variable {base : UInt32} {delta : Int64}

theorem toNat_toUInt64_of_pos (positive : 0 < delta) :
    (delta.toUInt64.toNat : Int) = delta.toInt := by
  rw [Int64.toNat_toUInt64_of_le (Int64.le_of_lt positive)]
  exact Int64.cast_toNatClampNeg delta (Int64.le_of_lt positive)

theorem nodes_add_fits (positive : 0 < delta) (nodes : UInt32) :
    nodes.toUInt64.toNat + delta.toUInt64.toNat < UInt64.size := by
  have small := nodes.toNat_lt
  have bounded := delta.toNatClampNeg_lt
  rw [UInt32.toNat_toUInt64, Int64.toNat_toUInt64_of_le (Int64.le_of_lt positive), UInt64.size]
  omega

theorem exactWords (divisor : 0 < base.toNat) (positive : 0 < delta) (found : Option Definition) :
    ExactWords base found delta := by
  have quotient : (Bridge.readNodes base found).toUInt64.toNat = Bridge.foundNodes base found :=
    (UInt32.toNat_toUInt64 _).trans (Bridge.toNat_readNodes base found)
  have added : ((Bridge.readNodes base found).toUInt64 + delta.toUInt64).toNat =
      (Bridge.readNodes base found).toUInt64.toNat + delta.toUInt64.toNat := by
    rw [UInt64.toNat_add, Nat.mod_eq_of_lt (nodes_add_fits positive (Bridge.readNodes base found))]
  exact {
    divisor := by
      rintro rfl
      exact Nat.lt_irrefl 0 divisor
    quotient
    difference := toNat_toUInt64_of_pos positive
    plainSum := by rw [added, quotient]
    sum := CheckedWord.add?_eq_some_iff.mpr added
    product := fun nodes vcpus => by rw [CheckedWord.mul?_eq_some_iff, UInt32.toNat_toUInt64]
    narrowed := fun vcpus target => CheckedWord.narrow?_eq_some_iff }

theorem cast_raisedVcpus (positive : 0 < delta) (found : Option Definition) :
    (Bridge.raisedVcpus (Bridge.readNodes base found).toNat delta.toNatClampNeg base.toNat : Int) =
      (Bridge.foundNodes base found + delta.toInt) * base.toNat := by
  rw [Bridge.raisedVcpus, Bridge.toNat_readNodes, Int.natCast_mul, Int.natCast_add,
    Int64.cast_toNatClampNeg delta (Int64.le_of_lt positive)]

end Words

section Increase
variable {σ : Type} (answer : σ → Request → Outcome × σ) (state : σ) {b : Bridge} {base : UInt32}
  {delta : Int64}

theorem run_increaseBy_of_positive (b : Bridge) (positive : 0 < delta) :
    (b.increaseBy delta).run answer state =
      let rest := (b.afterRead delta (answer state .get).1).run answer (answer state .get).2
      { rest with asked := .get :: rest.asked } := by
  rw [Bridge.increaseBy_of_positive b positive, Talk.run_ask]

theorem run_increaseBy_of_fits (listed : b.catalog.get? b.config.baseInstanceType = some base)
    (positive : 0 < delta) {found : Option Definition}
    (answered : (answer state .get).1 = .ok found)
    (fits : (Bridge.foundNodes base found + delta.toInt) * base.toNat ≤ 4294967295) :
    ∃ target : UInt32,
      (target.toNat : Int) = (Bridge.foundNodes base found + delta.toInt) * base.toNat ∧
      let (written, last) := answer (answer state .get).2 (.update target)
      (b.increaseBy delta).run answer state =
        ⟨written.map fun _ => (), [.get, .update target], last⟩ := by
  have raised : (Bridge.raisedVcpus (Bridge.readNodes base found).toNat delta.toNatClampNeg
      base.toNat : Int) = (Bridge.foundNodes base found + delta.toInt) * base.toNat :=
    cast_raisedVcpus positive found
  have within : Bridge.raisedVcpus (Bridge.readNodes base found).toNat delta.toNatClampNeg
      base.toNat < UInt32.size := by
    rw [← raised] at fits
    rw [UInt32.size]
    omega
  refine ⟨UInt32.ofNat (Bridge.raisedVcpus (Bridge.readNodes base found).toNat delta.toNatClampNeg
    base.toNat), ?_, ?_⟩
  · rw [UInt32.toNat_ofNat_of_lt' within, raised]
  · rw [run_increaseBy_of_positive answer state b positive, answered,
      Bridge.afterRead_ok (Catalog.vcpusOf_eq_ok_iff.mpr listed) found positive, if_pos within]
    rfl

theorem run_increaseBy_of_overflow (listed : b.catalog.get? b.config.baseInstanceType = some base)
    (positive : 0 < delta) {found : Option Definition}
    (answered : (answer state .get).1 = .ok found)
    (beyond : 4294967295 < (Bridge.foundNodes base found + delta.toInt) * base.toNat) :
    (b.increaseBy delta).run answer state =
      ⟨.error (Bridge.targetOverflow (Bridge.readNodes base found) delta base), [.get],
        (answer state .get).2⟩ := by
  have outside : ¬ Bridge.raisedVcpus (Bridge.readNodes base found).toNat delta.toNatClampNeg
      base.toNat < UInt32.size := by
    rw [← cast_raisedVcpus positive found] at beyond
    rw [UInt32.size]
    omega
  rw [run_increaseBy_of_positive answer state b positive, answered,
    Bridge.afterRead_ok (Catalog.vcpusOf_eq_ok_iff.mpr listed) found positive, if_neg outside]
  rfl

end Increase

/-- An increase computes over the integers: it writes the exact target where 32 bits hold it, once
and after one read, and otherwise ends with the error of its first obstacle and has written
nothing. -/
theorem increases_computed_exactly {σ : Type} (answer : σ → Request → Outcome × σ) (state : σ)
    (b : Bridge) (delta : Int64) :
    let held := (b.increaseBy delta).run answer state
    let (read, later) := answer state .get
    let baseType := b.config.baseInstanceType
    (delta ≤ 0 → held = ⟨.error (.invalidDelta delta), [], state⟩) ∧
    (0 < delta →
      (∀ e, read = .error e → held = ⟨.error e, [.get], later⟩) ∧
      (∀ found, read = .ok found → b.catalog.get? baseType = none →
        held = ⟨.error (.unknownInstanceType baseType), [.get], later⟩) ∧
      (∀ found base, read = .ok found → b.catalog.get? baseType = some base →
        let n : Nat := found.elim 0 fun definition => definition.targetCapacity.toNat / base.toNat
        let vcpus : Int := (n + delta.toInt) * base.toNat
        (vcpus ≤ 4294967295 → ∃ target : UInt32, (target.toNat : Int) = vcpus ∧
          let (written, last) := answer later (.update target)
          held = ⟨written.map fun _ => (), [.get, .update target], last⟩) ∧
        (4294967295 < vcpus →
          held = ⟨.error (.cloud (.invalidSize (toString n ++ " + " ++ toString delta.toInt ++
            " nodes of " ++ toString base.toNat ++ " vCPUs overflows the target capacity"))),
            [.get], later⟩))) ∧
    (∀ name base found, b.catalog.get? name = some base → 0 < delta →
      ExactWords base found delta) := by
  intro held
  refine ⟨?_, ?_, ?_⟩
  · intro nonpositive
    simp only [held, Bridge.increaseBy_of_nonpositive b nonpositive, Talk.run_done]
  · intro positive
    refine ⟨?_, ?_, ?_⟩
    · intro e failed
      simp only [held, run_increaseBy_of_positive answer state b positive, failed,
        Bridge.afterRead_error, Talk.run_done]
    · intro found answered unlisted
      simp only [held, run_increaseBy_of_positive answer state b positive, answered,
        Bridge.afterRead_of_unlisted unlisted, Talk.run_done]
    · intro found base answered listed n vcpus
      refine ⟨run_increaseBy_of_fits answer state listed positive answered, ?_⟩
      intro beyond
      have refused := run_increaseBy_of_overflow answer state listed positive answered beyond
      rw [Bridge.targetOverflow, Bridge.toNat_readNodes] at refused
      exact refused
  · intro name base found listed positive
    have divisor := Catalog.pos_of_vcpusOf (Catalog.vcpusOf_eq_ok_iff.mpr listed)
    exact exactWords (UInt32.lt_iff_toNat_lt.mp divisor) positive found

theorem two_nodes_added_exactly :
    let b : Bridge := ⟨.ofRecords [("c3.xlarge", 4)], Config.bare "workers" "c3.xlarge"⟩
    let unlisted : Bridge := ⟨b.catalog, Config.bare "workers" "c3.huge"⟩
    let store := Store.keeping { groupId := "workers" } 14
    let failing := store.queueFailure .get (.transport 500 "refused")
    let held (b : Bridge) (delta : Int64) := (b.increaseBy delta).run Store.answer
    (held b 2 store).asked = [.get, .update 20] ∧
      (held b 2 store).state = Store.keeping { groupId := "workers" } 20 ∧
      held b 9223372036854775807 store = ⟨.error (.cloud (.invalidSize
        "3 + 9223372036854775807 nodes of 4 vCPUs overflows the target capacity")), [.get], store⟩ ∧
      held unlisted 2 store = ⟨.error (.unknownInstanceType "c3.huge"), [.get], store⟩ ∧
      held b 2 failing = ⟨.error (.transport 500 "refused"), [.get], store⟩ ∧
      held b (-2) store = ⟨.error (.invalidDelta (-2)), [], store⟩ ∧
      ExactWords 4 (some { groupId := "workers", targetCapacity := 14 }) 9223372036854775807 := by
  intro b unlisted store failing held
  have computed := increases_computed_exactly Store.answer
  have listed : b.catalog.get? "c3.xlarge" = some 4 := by decide
  have sized (delta : Int64) (positive : 0 < delta) :=
    ((computed store b delta).2.1 positive).2.2 _ 4 rfl listed
  obtain ⟨target, exact, two⟩ := (sized 2 (by decide)).1 (by decide)
  obtain rfl : target = 20 := UInt32.toNat_inj.mp (Int.ofNat_inj.mp (exact.trans (by decide)))
  refine ⟨congrArg Held.asked two, congrArg Held.state two, ?_, ?_, ?_, ?_, ?_⟩
  · have refused := (sized 9223372036854775807 (by decide)).2 (by decide)
    let refusal (text : String) : Held Store Request (Except BridgeError Unit) :=
      ⟨.error (.cloud (.invalidSize text)), [.get], store⟩
    exact refused.trans (congrArg refusal (by decide))
  · exact ((computed store unlisted 2).2.1 (by decide)).2.1 _ rfl (by decide)
  · exact ((computed failing b 2).2.1 (by decide)).1 _ rfl
  · exact (computed store b (-2)).1 (by decide)
  · exact (computed store b _).2.2 "c3.xlarge" 4 _ listed (by decide)

end NodeScaling
