import Mathlib.Algebra.BigOperators.Group.Finset.Basic
import Mathlib.Algebra.Order.BigOperators.Group.Finset
import Mathlib.Logic.Relation
import NodeScaling.Proofs.Sizing

/-!
Conversations held at the same time with one party, which answers one question at a time; whichever
conversation comes next is open, so every order of the questions is a run. Here these are increases
of one definition. An increase reads the target and later writes a raised one, and between the two
others may write. Such a write is then lost, but nothing is ever counted twice: the stored target is
the initial one raised by some of the writers. When no writer is disturbed between its read and its
write, it is raised by all of them.
-/
namespace NodeScaling

/-- Conversations under way: the state of the party, what each has left to say, and who asked what
so far. -/
structure Interleaving (ι σ Q A α : Type) where
  state : σ
  pending : ι → Talk Q A α
  log : List (ι × Q) := []

namespace Interleaving
variable {ι σ Q A α : Type} [DecidableEq ι]

inductive Step (answer : σ → Q → A × σ) :
    Interleaving ι σ Q A α → Interleaving ι σ Q A α → Prop where
  | ask {now : Interleaving ι σ Q A α} (i : ι) {query : Q} {next : A → Talk Q A α}
      (waits : now.pending i = .ask query next) :
      Step answer now
        { state := (answer now.state query).2
          pending := Function.update now.pending i (next (answer now.state query).1)
          log := now.log ++ [(i, query)] }

def Reaches (answer : σ → Q → A × σ) (start now : Interleaving ι σ Q A α) : Prop :=
  Relation.ReflTransGen (Step answer) start now

theorem invariant_of_step {answer : σ → Q → A × σ} {start now : Interleaving ι σ Q A α}
    (holds : Interleaving ι σ Q A α → Prop)
    (kept : ∀ {before after}, Step answer before after → holds before → holds after)
    (initial : holds start) (reached : Reaches answer start now) : holds now := by
  induction reached with
  | refl => exact initial
  | tail _ step ih => exact kept step ih

def advance (answer : σ → Q → A × σ) (now : Interleaving ι σ Q A α) (i : ι) :
    Interleaving ι σ Q A α :=
  match now.pending i with
  | .ask query next =>
    { state := (answer now.state query).2
      pending := Function.update now.pending i (next (answer now.state query).1)
      log := now.log ++ [(i, query)] }
  | .done _ => now

theorem schedule_reached (answer : σ → Q → A × σ) (schedule : List ι)
    (start : Interleaving ι σ Q A α) :
    Reaches answer start (schedule.foldl (advance answer) start) := by
  induction schedule generalizing start with
  | nil => exact .refl
  | cons i schedule ih =>
    have first : Reaches answer start (advance answer start i) := by
      unfold advance
      split
      · next waits => exact .single (.ask i waits)
      · exact .refl
    exact Relation.ReflTransGen.trans first (ih _)

end Interleaving

end NodeScaling

namespace NodeScaling.Race
variable {ι : Type}

def writes (log : List (ι × Request)) : List ι :=
  log.filterMap fun (i, r) =>
    match r with
    | .update _ => some i
    | _ => none

/-- No other call writes between the read of a writer and its write. -/
def Undisturbed (log : List (ι × Request)) : Prop :=
  ∀ i target before between after,
    log = before ++ (i, .get) :: between ++ (i, .update target) :: after →
      ∀ j ∈ writes between, j = i

def start (b : Bridge) (deltas : ι → Int64) (d : Definition) :
    Interleaving ι Store Request Outcome (Except BridgeError Unit) :=
  { state := { definition := some d }, pending := fun i => b.increaseBy (deltas i) }

theorem writes_append (earlier later : List (ι × Request)) :
    writes (earlier ++ later) = writes earlier ++ writes later :=
  List.filterMap_append

theorem writes_after_read (log : List (ι × Request)) (i : ι) :
    writes (log ++ [(i, .get)]) = writes log := by
  simp [writes]

theorem writes_after_write (log : List (ι × Request)) (i : ι) (target : UInt32) :
    writes (log ++ [(i, .update target)]) = writes log ++ [i] := by
  simp [writes]

theorem undisturbed_of_append {earlier later : List (ι × Request)}
    (undisturbed : Undisturbed (earlier ++ later)) : Undisturbed earlier := by
  intro i target before between after shape
  apply undisturbed i target before between (after ++ later)
  rw [shape]
  simp

section Invariant
variable [DecidableEq ι] (base : UInt32) (deltas : ι → Int64) (d : Definition)

def firstNodes : Nat := d.targetCapacity.toNat / base.toNat

def gain (i : ι) : Nat := (deltas i).toNatClampNeg

/-- Nodes that are the first ones and the gains of some writers, namely of all of them as long as
none was disturbed. -/
structure Accrued (log : List (ι × Request)) (nodes : Nat) (S : Finset ι) : Prop where
  writers : S ⊆ (writes log).toFinset
  sum : nodes = firstNodes base d + ∑ i ∈ S, gain deltas i
  complete : Undisturbed log → S = (writes log).toFinset

structure Stored (log : List (ι × Request)) (target : UInt32) (S : Finset ι) : Prop where
  accrued : Accrued base deltas d log (target.toNat / base.toNat) S
  untouched : writes log = [] → target = d.targetCapacity
  latest : ∀ last, (writes log).getLast? = some last →
    last ∈ S ∧ target.toNat = (firstNodes base d + ∑ i ∈ S, gain deltas i) * base.toNat

def Excess (log : List (ι × Request)) (i : ι) : Prop :=
  UInt32.size ≤ Bridge.raisedVcpus (firstNodes base d + ∑ j ∈ (writes log).toFinset, gain deltas j)
    (gain deltas i) base.toNat

/-- Where a call stands: it has yet to read, or it has yet to write what its read leads to, or it
is over. What it read is still current if nobody has written since. -/
inductive Stage (b : Bridge) (log : List (ι × Request)) (current : Nat) (i : ι) :
    Exchange (Except BridgeError Unit) → Prop where
  | unread (unwritten : i ∉ writes log) : Stage b log current i (b.increaseBy (deltas i))
  | read (unwritten : i ∉ writes log) (before between : List (ι × Request)) (nodes : Nat)
      (S : Finset ι) (asked : log = before ++ (i, .get) :: between)
      (known : S ⊆ (writes log).toFinset)
      (sum : nodes = firstNodes base d + ∑ j ∈ S, gain deltas j)
      (fresh : writes between = [] → nodes = current)
      (fits : Bridge.raisedVcpus nodes (gain deltas i) base.toNat < UInt32.size) :
      Stage b log current i (Bridge.request (.update
        (UInt32.ofNat (Bridge.raisedVcpus nodes (gain deltas i) base.toNat))))
  | finished (result : Except BridgeError Unit) (told : result = .ok () ↔ i ∈ writes log)
      (excess : result ≠ .ok () → Excess base deltas d log i) :
      Stage b log current i (.done result)

def Accounted (b : Bridge)
    (race : Interleaving ι Store Request Outcome (Except BridgeError Unit)) : Prop :=
  ∃ target S, race.state = Store.keeping d target ∧
    Stored base deltas d race.log target S ∧
    ∀ i, Stage base deltas d b race.log (target.toNat / base.toNat) i (race.pending i)

variable {base deltas d} {b : Bridge} {log : List (ι × Request)}

theorem start_accounted : Accounted base deltas d b (start b deltas d) := by
  refine ⟨d.targetCapacity, ∅, rfl, ⟨⟨?_, ?_, ?_⟩, ?_, ?_⟩, ?_⟩
  · exact Finset.empty_subset _
  · simp [firstNodes]
  · intro _
    rfl
  · intro _
    rfl
  · intro last latest
    simp [start, writes] at latest
  · intro i
    exact .unread (by simp [start, writes])

theorem excess_of_le {nodes : Nat} {i : ι}
    (below : nodes ≤ firstNodes base d + ∑ j ∈ (writes log).toFinset, gain deltas j)
    (excess : UInt32.size ≤ Bridge.raisedVcpus nodes (gain deltas i) base.toNat) :
    Excess base deltas d log i :=
  excess.trans (Nat.mul_le_mul_right _ (Nat.add_le_add_right below _))

theorem excess_outlasts {i : ι} (later : List (ι × Request)) (excess : Excess base deltas d log i) :
    Excess base deltas d (log ++ later) i := by
  refine excess_of_le (Nat.add_le_add_left (Finset.sum_le_sum_of_subset ?_) _) excess
  rw [writes_append, List.toFinset_append]
  exact Finset.subset_union_left

theorem stage_outlasts {current next : Nat} {i j : ι} {r : Request}
    {talk : Exchange (Except BridgeError Unit)}
    (stage : Stage base deltas d b log current j talk) (other : i ≠ j)
    (unchanged : writes [(i, r)] = [] → next = current) :
    Stage base deltas d b (log ++ [(i, r)]) next j talk := by
  have same : j ∈ writes (log ++ [(i, r)]) ↔ j ∈ writes log := by
    rw [writes_append, List.mem_append]
    constructor
    · rintro (earlier | now)
      · exact earlier
      · cases r <;> simp [writes] at now
        exact absurd now.symm other
    · exact Or.inl
  cases stage with
  | unread unwritten => exact .unread (unwritten ∘ same.mp)
  | read unwritten before between nodes S asked known sum fresh fits =>
    refine .read (unwritten ∘ same.mp) before (between ++ [(i, r)]) nodes S ?_ ?_ sum ?_ fits
    · rw [asked]
      simp
    · rw [writes_append, List.toFinset_append]
      exact known.trans Finset.subset_union_left
    · intro quiet
      rw [writes_append, List.append_eq_nil_iff] at quiet
      rw [fresh quiet.1, unchanged quiet.2]
  | finished result told excess =>
    exact .finished result (told.trans same.symm) fun failed => excess_outlasts _ (excess failed)

theorem stored_after_read {target : UInt32} {S : Finset ι} (i : ι)
    (stored : Stored base deltas d log target S) :
    Stored base deltas d (log ++ [(i, .get)]) target S := by
  obtain ⟨⟨writers, sum, complete⟩, untouched, latest⟩ := stored
  refine ⟨⟨?_, sum, ?_⟩, ?_, ?_⟩
  · rw [writes_after_read]
    exact writers
  · intro undisturbed
    rw [writes_after_read]
    exact complete (undisturbed_of_append undisturbed)
  · rw [writes_after_read]
    exact untouched
  · rw [writes_after_read]
    exact latest

theorem stage_after_read {target : UInt32} {S : Finset ι} {i : ι} (listed : b.baseVcpus = .ok base)
    (positive : 0 < deltas i) (unwritten : i ∉ writes log)
    (stored : Stored base deltas d log target S) :
    Stage base deltas d b (log ++ [(i, .get)]) (target.toNat / base.toNat) i
      (b.afterRead (deltas i) (.ok (some { d with targetCapacity := target }))) := by
  have nodes : (Bridge.readNodes base (some { d with targetCapacity := target })).toNat =
      target.toNat / base.toNat := UInt32.toNat_div _ _
  rw [Bridge.afterRead_ok listed _ positive, nodes]
  split
  · next fits =>
    refine .read ?_ log [] (target.toNat / base.toNat) S rfl ?_ stored.accrued.sum ?_ fits
    · rw [writes_after_read]
      exact unwritten
    · rw [writes_after_read]
      exact stored.accrued.writers
    · intro _
      rfl
  · next beyond =>
    refine .finished _ ⟨nofun, ?_⟩ fun _ => ?_
    · rw [writes_after_read]
      intro wrote
      exact absurd wrote unwritten
    · refine excess_outlasts _ (excess_of_le ?_ (Nat.not_lt.mp beyond))
      rw [stored.accrued.sum]
      exact Nat.add_le_add_left (Finset.sum_le_sum_of_subset stored.accrued.writers) _

theorem stored_after_write {target : UInt32} {stored : Finset ι} {i : ι} {nodes : Nat}
    {known : Finset ι} {before between : List (ι × Request)} (listed : b.baseVcpus = .ok base)
    (kept : Stored base deltas d log target stored) (unwritten : i ∉ writes log)
    (asked : log = before ++ (i, .get) :: between) (writers : known ⊆ (writes log).toFinset)
    (sum : nodes = firstNodes base d + ∑ j ∈ known, gain deltas j)
    (fresh : writes between = [] → nodes = target.toNat / base.toNat)
    (fits : Bridge.raisedVcpus nodes (gain deltas i) base.toNat < UInt32.size) :
    let raised := UInt32.ofNat (Bridge.raisedVcpus nodes (gain deltas i) base.toNat)
    ∃ S, Stored base deltas d (log ++ [(i, .update raised)]) raised S := by
  intro raised
  -- The set that the write adds to, and that this set is complete if no writer was disturbed.
  have grown : ∃ S ⊆ (writes log).toFinset, nodes = firstNodes base d + ∑ j ∈ S, gain deltas j ∧
      (Undisturbed (log ++ [(i, .update raised)]) → S = (writes log).toFinset) := by
    by_cases quiet : writes between = []
    · refine ⟨stored, kept.accrued.writers, ?_, ?_⟩
      · rw [fresh quiet]
        exact kept.accrued.sum
      · intro undisturbed
        exact kept.accrued.complete (undisturbed_of_append undisturbed)
    · refine ⟨known, writers, sum, ?_⟩
      intro undisturbed
      obtain ⟨j, member⟩ := List.exists_mem_of_ne_nil _ quiet
      have same : j = i := undisturbed i raised before between [] (by rw [asked]) j member
      have wrote : j ∈ writes log := by
        rw [asked, writes_append]
        exact List.mem_append_right _ member
      rw [same] at wrote
      exact absurd wrote unwritten
  obtain ⟨S, subset, total, complete⟩ := grown
  have outside : i ∉ S := by
    intro inside
    exact unwritten (List.mem_toFinset.mp (subset inside))
  have extended : (writes (log ++ [(i, .update raised)])).toFinset =
      insert i (writes log).toFinset := by
    rw [writes_after_write, List.toFinset_append, Finset.union_comm]
    simp
  have counted : nodes + gain deltas i = firstNodes base d + ∑ j ∈ insert i S, gain deltas j := by
    rw [Finset.sum_insert outside, total]
    omega
  refine ⟨insert i S, ⟨?_, ?_, ?_⟩, ?_, ?_⟩
  · rw [extended]
    exact Finset.insert_subset_insert i subset
  · rw [← counted]
    exact Bridge.raised_div_base listed fits
  · intro undisturbed
    rw [extended, complete undisturbed]
  · intro none
    rw [writes_after_write] at none
    simp at none
  · intro last latest
    rw [writes_after_write, List.getLast?_concat] at latest
    cases latest
    refine ⟨Finset.mem_insert_self i S, ?_⟩
    rw [← counted]
    exact UInt32.toNat_ofNat_of_lt' fits

theorem stages_update {race : ι → Exchange (Except BridgeError Unit)} {current : Nat} {i : ι}
    {talk : Exchange (Except BridgeError Unit)} (own : Stage base deltas d b log current i talk)
    (others : ∀ j, i ≠ j → Stage base deltas d b log current j (race j)) (j : ι) :
    Stage base deltas d b log current j (Function.update race i talk j) := by
  by_cases same : j = i
  · subst same
    rw [Function.update_self]
    exact own
  · rw [Function.update_of_ne same]
    exact others j (Ne.symm same)

theorem step_accounted (listed : b.baseVcpus = .ok base) (positive : ∀ i, 0 < deltas i)
    {race after : Interleaving ι Store Request Outcome (Except BridgeError Unit)}
    (step : Interleaving.Step Store.answer race after)
    (accounted : Accounted base deltas d b race) : Accounted base deltas d b after := by
  obtain ⟨target, S, state, stored, stages⟩ := accounted
  cases step with
  | @ask i query next waits =>
    have answered : ∀ r, race.state.answer r = (Store.keeping d target).perform r := by
      intro r
      rw [state]
      exact Store.answer_of_no_failures rfl r
    have stage := stages i
    rw [waits] at stage
    rw [answered]
    generalize talk : Talk.ask query next = asking at stage
    cases stage with
    | unread unwritten =>
      rw [Bridge.increaseBy_of_positive b (positive i)] at talk
      cases talk
      refine ⟨target, S, rfl, stored_after_read i stored, ?_⟩
      apply stages_update
      · exact stage_after_read listed (positive i) unwritten stored
      · intro j other
        exact stage_outlasts (stages j) other fun _ => rfl
    | read unwritten before between nodes known asked writers sum fresh fits =>
      cases talk
      obtain ⟨S', written⟩ :=
        stored_after_write listed stored unwritten asked writers sum fresh fits
      refine ⟨_, S', rfl, written, ?_⟩
      apply stages_update
      · refine .finished _ ⟨fun _ => ?_, fun _ => rfl⟩ fun failed => absurd rfl failed
        rw [writes_after_write]
        exact List.mem_append_right _ List.mem_cons_self
      · intro j other
        exact stage_outlasts (stages j) other fun quiet => by simp [writes] at quiet
    | finished => cases talk

end Invariant

/-- Racing increases never count anything twice: from the first write on, the stored target is the
first node count raised by some of the writers, the last one among them, and by all of them if no
writer was disturbed. A call that is over has written, or 32 bits would not hold its gain. -/
theorem racing_increases_accounted [DecidableEq ι] (b : Bridge) (base : UInt32)
    (listed : b.baseVcpus = .ok base) (deltas : ι → Int64) (positive : ∀ i, 0 < deltas i)
    (d : Definition) (race : Interleaving ι Store Request Outcome (Except BridgeError Unit))
    (reached : Interleaving.Reaches Store.answer (start b deltas d) race) :
    ∃ target : UInt32, race.state.definition = some { d with targetCapacity := target } ∧
      let first := d.targetCapacity.toNat / base.toNat
      let gain := fun i => (deltas i).toNatClampNeg
      let writers := (writes race.log).toFinset
      (writes race.log = [] → target = d.targetCapacity) ∧
      (∀ last, (writes race.log).getLast? = some last →
        (∃ S ⊆ writers, last ∈ S ∧ target.toNat = (first + ∑ i ∈ S, gain i) * base.toNat ∧
          (Undisturbed race.log → S = writers)) ∧
        first + gain last ≤ target.toNat / base.toNat) ∧
      target.toNat / base.toNat ≤ first + ∑ i ∈ writers, gain i ∧
      ∀ i result, race.pending i = .done result →
        (result = .ok () ↔ i ∈ writes race.log) ∧
        (result ≠ .ok () →
          UInt32.size ≤ (first + ∑ j ∈ writers, gain j + gain i) * base.toNat) := by
  have accounted : Accounted base deltas d b race :=
    Interleaving.invariant_of_step _ (step_accounted listed positive) start_accounted reached
  obtain ⟨target, S, state, ⟨accrued, untouched, latest⟩, stages⟩ := accounted
  refine ⟨target, by rw [state]; rfl, untouched, ?_, ?_, ?_⟩
  · intro last isLast
    obtain ⟨member, exact⟩ := latest last isLast
    refine ⟨⟨S, accrued.writers, member, exact, accrued.complete⟩, ?_⟩
    rw [accrued.sum]
    exact Nat.add_le_add_left
      (Finset.single_le_sum (f := gain deltas) (fun _ _ => Nat.zero_le _) member) _
  · rw [accrued.sum]
    exact Nat.add_le_add_left (Finset.sum_le_sum_of_subset accrued.writers) _
  · intro i result ended
    have stage := stages i
    rw [ended] at stage
    generalize talk : Talk.done result = ending at stage
    cases stage with
    | unread =>
      rw [Bridge.increaseBy_of_positive b (positive i)] at talk
      cases talk
    | read => cases talk
    | finished result told excess =>
      cases talk
      exact ⟨told, excess⟩

/-- Two increases that both read before either writes: the gain of the first writer is lost. -/
theorem overlapping_increases_accounted :
    let b : Bridge := ⟨Catalog.ofRecords [("c3.xlarge", 4)], Config.bare "workers" "c3.xlarge"⟩
    let deltas : Bool → Int64 := fun second => if second then 2 else 1
    let d : Definition := { groupId := "workers", targetCapacity := 10 }
    ∃ race, Interleaving.Reaches Store.answer (start b deltas d) race ∧
      writes race.log = [false, true] ∧
      ∃ target : UInt32, race.state.definition = some { d with targetCapacity := target } ∧
        2 + 2 ≤ target.toNat / 4 ∧ target.toNat / 4 ≤ 2 + 3 := by
  intro b deltas d
  have positive : ∀ second, 0 < deltas second := by decide
  have reached := Interleaving.schedule_reached Store.answer [false, true, false, true]
    (start b deltas d)
  have wrote : writes ([false, true, false, true].foldl (Interleaving.advance Store.answer)
      (start b deltas d)).log = [false, true] := by decide
  obtain ⟨target, kept, -, latest, bound, -⟩ :=
    racing_increases_accounted b 4 rfl deltas positive d _ reached
  have lower := (latest true (by rw [wrote]; rfl)).2
  rw [wrote] at bound
  have lastGain : d.targetCapacity.toNat / UInt32.toNat 4 + (deltas true).toNatClampNeg =
      2 + 2 := by decide
  have bothGains : d.targetCapacity.toNat / UInt32.toNat 4 +
      ∑ i ∈ [false, true].toFinset, (deltas i).toNatClampNeg = 2 + 3 := by decide
  exact ⟨_, reached, wrote, target, kept, lastGain ▸ lower, bothGains ▸ bound⟩

end NodeScaling.Race
