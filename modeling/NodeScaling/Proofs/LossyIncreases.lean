import Mathlib.Algebra.BigOperators.Group.List.Basic
import Mathlib.Algebra.Ring.Int.Defs
import NodeScaling.Proofs.Session
import NodeScaling.Proofs.Sizing

/-!
Increases one after another over a line that loses requests and answers. A call that failed may
have taken effect all the same, but none takes effect twice: at every point the stored target
stands for the first node count and the increases that the service carried out.
-/
namespace NodeScaling

/-- What becomes of a request: it is carried out and answered, or it fails before or after it is
carried out. -/
inductive Fate where
  | served
  | refused (failure : BridgeError)
  | lost (failure : BridgeError)

/-- A store behind a lossy line, with the fates of the requests to come and a record of the
requests carried out. -/
structure LossyStore where
  store : Store
  fates : Nat → Fate
  performed : List Request := []

namespace LossyStore

def answer (s : LossyStore) (r : Request) : Outcome × LossyStore :=
  let later := fun n => s.fates (n + 1)
  match s.fates 0 with
  | .served => ((s.store.perform r).1, ⟨(s.store.perform r).2, later, s.performed ++ [r]⟩)
  | .refused failure => (.error failure, ⟨s.store, later, s.performed⟩)
  | .lost failure => (.error failure, ⟨(s.store.perform r).2, later, s.performed ++ [r]⟩)

def target (s : LossyStore) : Nat :=
  (s.store.definition.map fun d => d.targetCapacity.toNat).getD 0

def next (s : LossyStore) : LossyStore := { s with fates := fun n => s.fates (n + 1) }

def perform (s : LossyStore) (r : Request) : LossyStore :=
  { s.next with store := (s.store.perform r).2, performed := s.performed ++ [r] }

theorem answer_of_served {s : LossyStore} (served : s.fates 0 = .served) (r : Request) :
    s.answer r = ((s.store.perform r).1, s.perform r) := by
  rw [answer, served]
  rfl

theorem answer_of_refused {s : LossyStore} {e : BridgeError} (refused : s.fates 0 = .refused e)
    (r : Request) : s.answer r = (.error e, s.next) := by
  rw [answer, refused]
  rfl

theorem answer_of_lost {s : LossyStore} {e : BridgeError} (lost : s.fates 0 = .lost e)
    (r : Request) : s.answer r = (.error e, s.perform r) := by
  rw [answer, lost]
  rfl

end LossyStore

/-- One increase in a run: what the service was before it, with nothing on record, and how the
increase went. -/
structure Attempt where
  delta : Int64
  before : LossyStore
  held : Held LossyStore Request (Except CloudError Unit)

namespace Attempt

def make (g : NodeGroup) (s : LossyStore) (delta : Int64) : Attempt :=
  let before := { s with performed := [] }
  ⟨delta, before, (g.increaseSize delta).run LossyStore.answer before⟩

def after (a : Attempt) : LossyStore := a.held.state

def sent (a : Attempt) (o : Operation) : Nat := a.held.asked.countP fun r => r.operation = o

def applied (a : Attempt) : Nat := a.after.performed.countP fun r => r.operation = .update

def ReadFailed (a : Attempt) : Prop := ∃ failure, (a.before.answer .get).1 = .error failure

def Overflows (base : Nat) (a : Attempt) : Prop :=
  4294967295 < (a.before.target / base + a.delta.toInt) * base

def Hindered (base : Nat) (a : Attempt) : Prop :=
  a.delta ≤ 0 ∨ a.ReadFailed ∨ a.Overflows base

def makeAll (g : NodeGroup) (s : LossyStore) : List Int64 → List Attempt × LossyStore
  | [] => ([], s)
  | delta :: deltas =>
    let a := make g s delta
    let (later, last) := makeAll g a.after deltas
    (a :: later, last)

theorem deltas_of_makeAll (g : NodeGroup) (deltas : List Int64) :
    ∀ s, (makeAll g s deltas).1.map delta = deltas := by
  induction deltas with
  | nil =>
    intro s
    rfl
  | cons delta deltas ih =>
    intro s
    rw [makeAll, List.map_cons, ih]
    rfl

end Attempt

section Course
variable (underlying : NodeGroup) {b : Bridge} {base : UInt32} {d : Definition} {t : UInt32}

/-- The ways that an increase can go: no update is sent, or one that is not carried out, or one
that is. -/
inductive Course (base : UInt32) (d : Definition) (t : UInt32) (a : Attempt) : Prop where
  | unsent (hindered : a.Hindered base.toNat) (asked : a.held.asked = [] ∨ a.held.asked = [.get])
      (performed : a.after.performed = [] ∨ a.after.performed = [.get])
      (kept : a.after.store = Store.keeping d t) (failed : ∃ e, a.held.value = .error e)
  | refused (free : ¬ a.Hindered base.toNat) (cut : a.before.fates 1 ≠ .served) (raised : UInt32)
      (asked : a.held.asked = [.get, .update raised]) (performed : a.after.performed = [.get])
      (kept : a.after.store = Store.keeping d t) (failed : ∃ e, a.held.value = .error e)
  | applied (free : ¬ a.Hindered base.toNat)
      (answered : a.before.fates 1 = .served → a.held.value = .ok ()) (raised : UInt32)
      (exact : raised.toNat =
        Bridge.raisedVcpus (t.toNat / base.toNat) a.delta.toNatClampNeg base.toNat)
      (asked : a.held.asked = [.get, .update raised])
      (performed : a.after.performed = [.get, .update raised])
      (kept : a.after.store = Store.keeping d raised)

theorem target_of_keeping {s : LossyStore} (kept : s.store = Store.keeping d t) :
    s.target = t.toNat := by
  rw [LossyStore.target, kept]
  rfl

theorem overflows_iff {a : Attempt} (positive : 0 < a.delta) (start : a.before.target = t.toNat) :
    a.Overflows base.toNat ↔
      ¬ Bridge.raisedVcpus (t.toNat / base.toNat) a.delta.toNatClampNeg base.toNat <
        UInt32.size := by
  rw [Attempt.Overflows, start, ← Int64.cast_toNatClampNeg _ (Int64.le_of_lt positive)]
  rw [← Int.natCast_ediv, ← Int.natCast_add, ← Int.natCast_mul, Bridge.raisedVcpus, UInt32.size]
  omega

theorem course_of_unsent {a : Attempt} {e : CloudError} {asked : List Request} {s : LossyStore}
    (hindered : a.Hindered base.toNat) (held : a.held = ⟨.error e, asked, s⟩)
    (quiet : asked = [] ∨ asked = [.get]) (performed : s.performed = [] ∨ s.performed = [.get])
    (kept : s.store = Store.keeping d t) : Course base d t a := by
  have after : a.after = s := by rw [Attempt.after, held]
  refine .unsent hindered ?_ ?_ ?_ ?_
  · rw [held]
    exact quiet
  · rw [after]
    exact performed
  · rw [after]
    exact kept
  · rw [held]
    exact ⟨e, rfl⟩

theorem course_after_read (listed : b.baseVcpus = .ok base) {a : Attempt} {s : LossyStore}
    (positive : 0 < a.delta) (read : ¬ a.ReadFailed) (start : a.before.target = t.toNat)
    (upcoming : s.fates 0 = a.before.fates 1) (kept : s.store = Store.keeping d t)
    (performed : s.performed = [.get])
    (held : a.held =
      let rest := (b.afterRead a.delta (.ok (some { d with targetCapacity := t }))).run
        LossyStore.answer s
      ⟨rest.value.mapError BridgeError.toCloud, .get :: rest.asked, rest.state⟩) :
    Course base d t a := by
  have nodes : (Bridge.readNodes base (some { d with targetCapacity := t })).toNat =
      t.toNat / base.toNat := UInt32.toNat_div _ _
  rw [Bridge.afterRead_ok listed _ positive, nodes] at held
  by_cases fits : Bridge.raisedVcpus (t.toNat / base.toNat) a.delta.toNatClampNeg base.toNat <
      UInt32.size
  · have exact := UInt32.toNat_ofNat_of_lt' fits
    have free : ¬ a.Hindered base.toNat := by
      rintro (nonpositive | failed | overflows)
      · exact Int64.not_le.mpr positive nonpositive
      · exact read failed
      · exact (overflows_iff positive start).mp overflows fits
    rw [if_pos fits, Bridge.request, Talk.run_ask] at held
    generalize UInt32.ofNat (Bridge.raisedVcpus (t.toNat / base.toNat) a.delta.toNatClampNeg
      base.toNat) = raised at held exact
    -- Whether the answer arrives or is lost makes no difference to what the service has done.
    have carriedOut {value : Except CloudError Unit}
        (held : a.held = ⟨value, [.get, .update raised], s.perform (.update raised)⟩)
        (answered : s.fates 0 = .served → value = .ok ()) : Course base d t a := by
      have after : a.after = s.perform (.update raised) := by rw [Attempt.after, held]
      refine .applied free ?_ raised exact ?_ ?_ ?_
      · rw [held, ← upcoming]
        exact answered
      · rw [held]
      · rw [after, LossyStore.perform, performed]
        rfl
      · rw [after, LossyStore.perform, kept]
        rfl
    cases fate : s.fates 0 with
    | served =>
      rw [LossyStore.answer_of_served fate] at held
      exact carriedOut held fun _ => rfl
    | lost e =>
      rw [LossyStore.answer_of_lost fate] at held
      refine carriedOut held fun served => ?_
      rw [fate] at served
      cases served
    | refused e =>
      rw [LossyStore.answer_of_refused fate] at held
      have after : a.after = s.next := by rw [Attempt.after, held]; rfl
      refine .refused free ?_ raised ?_ ?_ ?_ ?_
      · rw [← upcoming, fate]
        nofun
      · rw [held]
        rfl
      · rw [after]
        exact performed
      · rw [after]
        exact kept
      · rw [held]
        exact ⟨_, rfl⟩
  · have overflows := (overflows_iff positive start).mpr fits
    have hindered : a.Hindered base.toNat := Or.inr (Or.inr overflows)
    rw [if_neg fits] at held
    exact course_of_unsent hindered held (Or.inr rfl) (Or.inr performed) kept

theorem course_of_held (listed : b.baseVcpus = .ok base) {a : Attempt}
    (kept : a.before.store = Store.keeping d t) (nothing : a.before.performed = [])
    (held : a.held =
      let held := (b.increaseBy a.delta).run LossyStore.answer a.before
      ⟨held.value.mapError BridgeError.toCloud, held.asked, held.state⟩) : Course base d t a := by
  by_cases nonpositive : a.delta ≤ 0
  · rw [Bridge.increaseBy_of_nonpositive b nonpositive] at held
    exact course_of_unsent (Or.inl nonpositive) held (Or.inl rfl) (Or.inl nothing) kept
  · have positive : 0 < a.delta := Int64.not_le.mp nonpositive
    rw [Bridge.increaseBy_of_positive b positive, Talk.run_ask] at held
    have recorded : (a.before.perform .get).performed = [.get] := by
      rw [LossyStore.perform, nothing]
      rfl
    cases fate : a.before.fates 0 with
    | served =>
      have found :
          (a.before.store.perform .get).1 = .ok (some { d with targetCapacity := t }) := by
        rw [kept]
        rfl
      have read : ¬ a.ReadFailed := by
        rintro ⟨e, failed⟩
        rw [LossyStore.answer_of_served fate, found] at failed
        cases failed
      rw [LossyStore.answer_of_served fate, found] at held
      exact course_after_read (s := a.before.perform .get) listed positive read
        (target_of_keeping kept) rfl kept recorded held
    | refused e =>
      have failed : a.ReadFailed := ⟨e, by rw [LossyStore.answer_of_refused fate]⟩
      rw [LossyStore.answer_of_refused fate, Bridge.afterRead_error] at held
      exact course_of_unsent (Or.inr (Or.inl failed)) held (Or.inr rfl) (Or.inl nothing) kept
    | lost e =>
      have failed : a.ReadFailed := ⟨e, by rw [LossyStore.answer_of_lost fate]⟩
      rw [LossyStore.answer_of_lost fate, Bridge.afterRead_error] at held
      exact course_of_unsent (Or.inr (Or.inl failed)) held (Or.inr rfl) (Or.inr recorded) kept

theorem course_of_increase (listed : b.baseVcpus = .ok base) (s : LossyStore) (delta : Int64)
    (kept : s.store = Store.keeping d t) :
    Course base d t (Attempt.make (.bridged underlying b) s delta) := by
  apply course_of_held listed kept rfl
  rw [Attempt.make, NodeGroup.increaseSize, run_inCloudTerms]

structure Attempt.Sound (base : Nat) (a : Attempt) : Prop where
  reads : a.sent .get ≤ 1
  updates : a.sent .update ≤ 1
  once : a.applied ≤ 1
  acknowledged : a.held.value = .ok () → a.applied = 1
  unsent : a.Hindered base → a.sent .update = 0 ∧ a.applied = 0
  answered : ¬ a.Hindered base → a.before.fates 1 = .served → a.held.value = .ok ()

theorem applied_of_unwritten {a : Attempt}
    (performed : a.after.performed = [] ∨ a.after.performed = [.get]) : a.applied = 0 := by
  rw [Attempt.applied]
  rcases performed with none | read
  · rw [none]
    rfl
  · rw [read]
    rfl

theorem sound_of_course {a : Attempt} (course : Course base d t a) : a.Sound base.toNat := by
  cases course with
  | unsent hindered asked performed kept failed =>
    have quiet := applied_of_unwritten performed
    have silent : a.sent .update = 0 ∧ a.sent .get ≤ 1 := by
      rw [Attempt.sent, Attempt.sent]
      rcases asked with none | read
      · rw [none]
        decide
      · rw [read]
        decide
    refine ⟨silent.2, by omega, by omega, ?_, fun _ => ⟨silent.1, quiet⟩, ?_⟩
    · intro ok
      obtain ⟨e, failed⟩ := failed
      rw [failed] at ok
      cases ok
    · intro free
      exact absurd hindered free
  | refused free cut raised asked performed kept failed =>
    refine ⟨?_, ?_, ?_, ?_, ?_, ?_⟩
    · rw [Attempt.sent, asked]
      exact Nat.le_refl 1
    · rw [Attempt.sent, asked]
      exact Nat.le_refl 1
    · rw [applied_of_unwritten (Or.inr performed)]
      exact Nat.zero_le 1
    · intro ok
      obtain ⟨e, failed⟩ := failed
      rw [failed] at ok
      cases ok
    · intro hindered
      exact absurd hindered free
    · intro _ served
      exact absurd served cut
  | applied free answered raised exact asked performed kept =>
    have once : a.applied = 1 := by
      rw [Attempt.applied, performed]
      rfl
    refine ⟨?_, ?_, by omega, fun _ => once, ?_, fun _ => answered⟩
    · rw [Attempt.sent, asked]
      exact Nat.le_refl 1
    · rw [Attempt.sent, asked]
      exact Nat.le_refl 1
    · intro hindered
      exact absurd hindered free

theorem target_of_course (listed : b.baseVcpus = .ok base) {a : Attempt}
    (course : Course base d t a) :
    ∃ t' : UInt32, a.after.store = Store.keeping d t' ∧ t.toNat ≤ t'.toNat ∧
      ((t'.toNat / base.toNat : Nat) : Int) =
        (t.toNat / base.toNat : Nat) + if 0 < a.applied then a.delta.toInt else 0 := by
  cases course with
  | unsent hindered asked performed kept failed =>
    refine ⟨t, kept, Nat.le_refl _, ?_⟩
    rw [applied_of_unwritten performed]
    simp
  | refused free cut raised asked performed kept failed =>
    refine ⟨t, kept, Nat.le_refl _, ?_⟩
    rw [applied_of_unwritten (Or.inr performed)]
    simp
  | applied free answered raised exact asked performed kept =>
    have once : a.applied = 1 := by
      rw [Attempt.applied, performed]
      rfl
    have positive : 0 < a.delta := Int64.not_le.mp fun nonpositive => free (Or.inl nonpositive)
    have gain : (a.delta.toNatClampNeg : Int) = a.delta.toInt :=
      Int64.cast_toNatClampNeg _ (Int64.le_of_lt positive)
    refine ⟨raised, kept, ?_, ?_⟩
    · rw [exact]
      exact Nat.le_of_lt (Bridge.lt_raisedVcpus listed t.toNat positive)
    · rw [exact, Bridge.raisedVcpus, Nat.mul_div_cancel _ (Bridge.base_pos listed), once]
      simp [gain]

structure Counted (base : UInt32) (d : Definition) (t : UInt32)
    (run : List Attempt × LossyStore) : Prop where
  kept : ∃ last, run.2.store = Store.keeping d last
  counted : ((run.2.target / base.toNat : Nat) : Int) = (t.toNat / base.toNat : Nat) +
    ((run.1.filter fun a => 0 < a.applied).map fun a => a.delta.toInt).sum
  sound : ∀ a ∈ run.1, a.Sound base.toNat
  rising : (t.toNat :: run.1.map fun a => a.after.target).Pairwise (· ≤ ·)

theorem counted_of_increases (listed : b.baseVcpus = .ok base) (deltas : List Int64) :
    ∀ (s : LossyStore) (t : UInt32), s.store = Store.keeping d t →
      Counted base d t (Attempt.makeAll (.bridged underlying b) s deltas) := by
  induction deltas with
  | nil =>
    intro s t kept
    refine ⟨⟨t, kept⟩, ?_, ?_, ?_⟩
    · simp [Attempt.makeAll, target_of_keeping kept]
    · intro a member
      cases member
    · simp [Attempt.makeAll]
  | cons delta deltas ih =>
    intro s t kept
    rw [Attempt.makeAll]
    have course := course_of_increase underlying listed s delta kept
    generalize Attempt.make (.bridged underlying b) s delta = a at course
    obtain ⟨t', keptAfter, above, gained⟩ := target_of_course listed course
    have rest := ih a.after t' keptAfter
    generalize Attempt.makeAll (.bridged underlying b) a.after deltas = later at rest
    obtain ⟨final, counted, sound, rising⟩ := rest
    refine ⟨final, ?_, ?_, ?_⟩
    · rw [counted, gained, List.filter_cons]
      by_cases applied : 0 < a.applied
      · simp only [applied, if_true, decide_true, List.map_cons, List.sum_cons]
        omega
      · simp only [applied, if_false, decide_false, Bool.false_eq_true]
        omega
    · intro attempt member
      rcases List.mem_cons.mp member with first | among
      · rw [first]
        exact sound_of_course course
      · exact sound attempt among
    · rw [List.map_cons, target_of_keeping keptAfter]
      refine List.pairwise_cons.mpr ⟨?_, rising⟩
      intro target member
      rcases List.mem_cons.mp member with first | among
      · omega
      · exact Nat.le_trans above (List.rel_of_pairwise_cons rising among)

end Course

/-- Increases over a lossy line take effect at most once: the stored target accounts for exactly
those that the service carried out, whatever the callers were told. -/
theorem lossy_increases_counted (underlying : NodeGroup) (b : Bridge) (base : UInt32)
    (listed : b.baseVcpus = .ok base) (d : Definition) (fates : Nat → Fate)
    (deltas : List Int64) :
    let line : LossyStore := { store := { definition := some d }, fates }
    let run := Attempt.makeAll (.bridged underlying b) line deltas
    run.1.map Attempt.delta = deltas ∧
    (∃ target, run.2.store.definition = some { d with targetCapacity := target } ∧
      ((target.toNat / base.toNat : Nat) : Int) = (d.targetCapacity.toNat / base.toNat : Nat) +
        ((run.1.filter fun a => 0 < a.applied).map fun a => a.delta.toInt).sum) ∧
    (∀ a ∈ run.1, a.sent .get ≤ 1 ∧ a.sent .update ≤ 1 ∧ a.applied ≤ 1 ∧
      (a.held.value = .ok () → a.applied = 1) ∧
      (a.delta ≤ 0 ∨ a.ReadFailed ∨ a.Overflows base.toNat →
        a.sent .update = 0 ∧ a.applied = 0) ∧
      (¬ (a.delta ≤ 0 ∨ a.ReadFailed ∨ a.Overflows base.toNat) → a.before.fates 1 = .served →
        a.held.value = .ok ())) ∧
    (d.targetCapacity.toNat :: run.1.map fun a => a.after.target).Pairwise (· ≤ ·) := by
  intro line run
  obtain ⟨⟨last, kept⟩, counted, sound, rising⟩ :=
    counted_of_increases underlying (d := d) listed deltas line d.targetCapacity rfl
  rw [target_of_keeping kept] at counted
  refine ⟨Attempt.deltas_of_makeAll _ _ _, ⟨last, ?_, counted⟩, ?_, rising⟩
  · rw [kept]
    rfl
  · intro a member
    obtain ⟨reads, updates, once, acknowledged, unsent, answered⟩ := sound a member
    exact ⟨reads, updates, once, acknowledged, unsent, answered⟩

/-- The answer to the first update is lost and the second read fails: the first increase counts all
the same, and only the first. -/
theorem lost_answer_counted :
    let group := NodeGroup.fixed { id := "workers", minSize := 0, maxSize := 9 }
    let b : Bridge := ⟨Catalog.ofRecords [("c3.xlarge", 4)], Config.bare "workers" "c3.xlarge"⟩
    let fates : Nat → Fate := fun n => if n = 0 then .served else .lost (.transport 0 "reset")
    let d : Definition := { groupId := "workers", targetCapacity := 10 }
    let line : LossyStore := { store := { definition := some d }, fates }
    let run := Attempt.makeAll (.bridged group b) line [3, 5]
    ∃ target : UInt32, run.2.store.definition = some { d with targetCapacity := target } ∧
      ((target.toNat / 4 : Nat) : Int) = 2 + 3 := by
  intro group b fates d line run
  obtain ⟨-, ⟨target, kept, counted⟩, -⟩ :=
    lossy_increases_counted group b 4 rfl d fates [3, 5]
  have nodes : ((d.targetCapacity.toNat / UInt32.toNat 4 : Nat) : Int) = 2 := by decide
  have applied : ((run.1.filter fun a => 0 < a.applied).map fun a => a.delta.toInt).sum = 3 := by
    decide
  rw [nodes, applied] at counted
  exact ⟨target, kept, counted⟩

end NodeScaling
