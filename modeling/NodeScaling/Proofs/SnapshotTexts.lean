import NodeScaling.ClusterState
import NodeScaling.Proofs.JsonRoundTrip
import NodeScaling.Proofs.OrderedJson
import NodeScaling.Proofs.Sizing

/-!
The texts of reported cluster states. The deployments and nodes of a snapshot are canonical values,
so that canonicalizing them once more changes nothing, and the object around them takes the very
levels that a snapshot leaves free. A pushed state is therefore read back as the snapshot that it
was made of. Left out are floating point numbers, whose digits need not be read as the same number.
-/
namespace NodeScaling

namespace Json
variable {levels : Nat}

theorem canonicalElements?_of_fixed {xs : List Json}
    (fixed : ∀ x ∈ xs, canonical? levels x = some x) : canonicalElements? levels xs = some xs := by
  induction xs with
  | nil => rfl
  | cons x xs ih =>
    have rest := ih fun y member => fixed y (List.mem_cons_of_mem x member)
    rw [canonicalElements?, fixed x List.mem_cons_self, rest]

theorem sortMembers_of_ascending {ms : List (String × Json)}
    (ascending : ms.Pairwise fun a b => a.1 < b.1) : sortMembers ms = ms :=
  Dictionary.entries_ofList ascending

theorem canonical?_array_of_fixed {xs : List Json}
    (fixed : ∀ x ∈ xs, canonical? levels x = some x) :
    canonical? (levels + 1) (.array xs) = some (.array xs) := by
  rw [canonical?, canonicalElements?_of_fixed fixed]
  rfl

theorem canonical?_object_of_fixed {ms : List (String × Json)}
    (fixed : ∀ m ∈ ms, canonical? levels m.2 = some m.2) :
    canonical? (levels + 1) (.object ms) = some (.object (sortMembers ms)) := by
  rw [canonical?, canonicalMembers?_of_fixed fixed]
  rfl

mutual

theorem canonical?_fixed :
    ∀ (levels : Nat) (j : Json) {v : Json}, canonical? levels j = some v →
      canonical? levels v = some v
  | _, .null, _, found => by
    cases found
    rfl
  | _, .bool b, _, found => by
    cases found
    rfl
  | _, .number n, _, found => by
    cases found
    rfl
  | _, .string s, _, found => by
    cases found
    rfl
  | 0, .array xs, _, found => by
    cases found
  | levels + 1, .array xs, _, found => by
    obtain ⟨ys, elements, rfl⟩ := Option.map_eq_some_iff.mp found
    exact canonical?_array_of_fixed (canonicalElements?_fixed levels xs elements)
  | 0, .object ms, _, found => by
    cases found
  | levels + 1, .object ms, _, found => by
    obtain ⟨ns, members, rfl⟩ := Option.map_eq_some_iff.mp found
    have ascending : (sortMembers ns).Pairwise fun a b => a.1 < b.1 :=
      (Dictionary.ofList ns).ascending
    have fixed : ∀ m ∈ sortMembers ns, canonical? levels m.2 = some m.2 := fun m member =>
      canonicalMembers?_fixed levels ms members m (Dictionary.mem_of_mem_ofList member)
    rw [canonical?_object_of_fixed fixed, sortMembers_of_ascending ascending]

theorem canonicalElements?_fixed :
    ∀ (levels : Nat) (xs : List Json) {ys : List Json}, canonicalElements? levels xs = some ys →
      ∀ y ∈ ys, canonical? levels y = some y
  | _, [], _, found, _, member => by
    cases found
    cases member
  | levels, x :: xs, _, found, y, member => by
    rw [canonicalElements?] at found
    split at found
    · next first rest one others =>
      cases found
      rcases List.mem_cons.mp member with here | later
      · rw [here]
        exact canonical?_fixed levels x one
      · exact canonicalElements?_fixed levels xs others y later
    · cases found

theorem canonicalMembers?_fixed :
    ∀ (levels : Nat) (ms : List (String × Json)) {ns : List (String × Json)},
      canonicalMembers? levels ms = some ns → ∀ n ∈ ns, canonical? levels n.2 = some n.2
  | _, [], _, found, _, member => by
    cases found
    cases member
  | levels, (name, x) :: ms, _, found, n, member => by
    rw [canonicalMembers?] at found
    split at found
    · next first rest one others =>
      cases found
      rcases List.mem_cons.mp member with here | later
      · rw [here]
        exact canonical?_fixed levels x one
      · exact canonicalMembers?_fixed levels ms others n later
    · cases found

end

theorem canonicalElements?_eq_mapM (levels : Nat) (xs : List Json) :
    canonicalElements? levels xs = xs.mapM (canonical? levels) := by
  induction xs with
  | nil => rfl
  | cons x xs ih =>
    rw [canonicalElements?, List.mapM_cons, ih]
    cases canonical? levels x with
    | none => rfl
    | some y => cases xs.mapM (canonical? levels) <;> rfl

inductive Integral : Json → Prop where
  | null : Integral .null
  | bool (b : Bool) : Integral (.bool b)
  | int (value : Int) (fits : -0x8000000000000000 ≤ value ∧ value ≤ 0xFFFFFFFFFFFFFFFF) :
      Integral (.number (.int value fits))
  | string (s : String) : Integral (.string s)
  | raw (written : String) : Integral (.raw written)
  | array (xs : List Json) (elements : ∀ x ∈ xs, Integral x) : Integral (.array xs)
  | object (ms : List (String × Json)) (values : ∀ m ∈ ms, Integral m.2) : Integral (.object ms)

/-- Canonical values have no raw parts, so that only floating point numbers can keep them from being
read back. -/
theorem exact_of_ordered {j : Json} (ordered : j.Ordered) (integral : j.Integral) : j.Exact := by
  induction ordered with
  | null => exact .null
  | bool b => exact .bool b
  | number n =>
    cases integral with
    | int value fits => exact .int value fits
  | string s => exact .string s
  | array xs _ ih =>
    cases integral with
    | array _ elements => exact .array xs fun x member => ih x member (elements x member)
  | object ms _ _ ih =>
    cases integral with
    | object _ values => exact .object ms fun m member => ih m member (values m member)

end Json

namespace Snapshot

structure Canonical (s : Snapshot) : Prop where
  deployments : ∀ j ∈ s.deployments, Json.canonical? elementLevels j = some j
  nodes : ∀ j ∈ s.nodes, Json.canonical? elementLevels j = some j

theorem elements?_array {xs : List Json}
    (fixed : ∀ x ∈ xs, Json.canonical? elementLevels x = some x) :
    elements? (.array xs) = some xs := by
  rw [elements?, ← Json.canonicalElements?_eq_mapM]
  exact Json.canonicalElements?_of_fixed fixed

theorem elements_fixed {slot : Json.Slot} {xs : List Json}
    (found : slot.orDefault? [] elements? = some xs) :
    ∀ x ∈ xs, Json.canonical? elementLevels x = some x := by
  cases slot with
  | given value =>
    cases value with
    | array ys =>
      change ys.mapM _ = some xs at found
      rw [← Json.canonicalElements?_eq_mapM] at found
      exact Json.canonicalElements?_fixed elementLevels ys found
    | _ => cases found
  | absent | cut =>
    cases found
    nofun

theorem ofJson?_eq_some_iff {j : Json} {s : Snapshot} :
    ofJson? j = some s ↔ j.isRecord 2 = true ∧
      (j.field? 0 ["deployments"]).bind (·.orDefault? [] elements?) = some s.deployments ∧
      (j.field? 1 ["nodes"]).bind (·.orDefault? [] elements?) = some s.nodes := by
  rw [ofJson?]
  constructor
  · intro read
    split at read
    · next record =>
      obtain ⟨slot, found, first⟩ := Option.bind_eq_some_iff.mp read
      obtain ⟨deployments, given, second⟩ := Option.bind_eq_some_iff.mp first
      obtain ⟨slot', found', third⟩ := Option.bind_eq_some_iff.mp second
      obtain ⟨nodes, given', made⟩ := Option.bind_eq_some_iff.mp third
      cases made
      rw [found, found']
      exact ⟨record, given, given'⟩
    · cases read
  · rintro ⟨record, deployments, nodes⟩
    obtain ⟨slot, found, given⟩ := Option.bind_eq_some_iff.mp deployments
    obtain ⟨slot', found', given'⟩ := Option.bind_eq_some_iff.mp nodes
    simp only [if_pos record, found, found', Option.bind_eq_bind, Option.bind_some, given, given']
    rfl

theorem canonical_of_read? {text : String} {s : Snapshot} (read : read? text = some s) :
    s.Canonical := by
  obtain ⟨j, -, described⟩ := Option.bind_eq_some_iff.mp read
  obtain ⟨-, deployments, nodes⟩ := ofJson?_eq_some_iff.mp described
  obtain ⟨slot, -, given⟩ := Option.bind_eq_some_iff.mp deployments
  obtain ⟨slot', -, given'⟩ := Option.bind_eq_some_iff.mp nodes
  exact ⟨elements_fixed given, elements_fixed given'⟩

end Snapshot

namespace ClusterState

def wireText (s : ClusterState) : String :=
  s.toJson.text

variable {s : ClusterState}

theorem ofJson?_toJson (canonical : s.snapshot.Canonical) :
    Snapshot.ofJson? s.toJson = some s.snapshot :=
  Snapshot.ofJson?_eq_some_iff.mpr ⟨rfl, Snapshot.elements?_array canonical.deployments,
    Snapshot.elements?_array canonical.nodes⟩

theorem exact_toJson (canonical : s.snapshot.Canonical)
    (integral : ∀ j ∈ s.snapshot.deployments ++ s.snapshot.nodes, j.Integral) :
    s.toJson.Exact := by
  have exact {j : Json} (fixed : Json.canonical? Snapshot.elementLevels j = some j)
      (member : j ∈ s.snapshot.deployments ++ s.snapshot.nodes) : j.Exact :=
    Json.exact_of_ordered (Json.ordered_of_canonical _ j fixed) (integral j member)
  apply Json.Exact.object
  simp only [List.forall_mem_cons]
  refine ⟨.string _, .string _, .string _, .array _ ?_, .array _ ?_, by nofun⟩
  · intro j member
    exact exact (canonical.deployments j member) (List.mem_append_left _ member)
  · intro j member
    exact exact (canonical.nodes j member) (List.mem_append_right _ member)

/-- The object and the array around an element take the two levels that the element leaves free. -/
theorem canonical?_toJson (canonical : s.snapshot.Canonical) :
    Json.canonical? Json.levelLimit s.toJson = some (.object (Json.sortMembers [
      ("api_key", .string s.apiKey),
      ("AwsRegion", .string s.region),
      ("AutoScalingGroupName", .string s.groupId),
      ("deployments", .array s.snapshot.deployments),
      ("nodes", .array s.snapshot.nodes)])) := by
  apply Json.canonical?_object_of_fixed
  simp only [List.forall_mem_cons]
  refine ⟨rfl, rfl, rfl, ?_, ?_, by nofun⟩
  · exact Json.canonical?_array_of_fixed canonical.deployments
  · exact Json.canonical?_array_of_fixed canonical.nodes

end ClusterState

/-- What is pushed for a snapshot loses nothing: its text has the three texts of the configuration
and the two lists of the snapshot for members, it stays within the levels of a JSON text, and it is
read as the same snapshot again, for which the same text is pushed. -/
theorem pushed_state_reads_back (c : Config) (text : String) (s : Snapshot)
    (read : Snapshot.read? text = some s)
    (integral : ∀ j ∈ s.deployments ++ s.nodes, j.Integral) :
    let pushed := (ClusterState.ofSnapshot c s).wireText
    let members : List (String × Json) := [
      ("api_key", .string c.apiKey),
      ("AwsRegion", .string c.region),
      ("AutoScalingGroupName", .string c.groupId),
      ("deployments", .array s.deployments),
      ("nodes", .array s.nodes)]
    Json.readBytes? pushed.toUTF8 = some (.object members) ∧
      Reply.bodyValue? pushed.toUTF8 = some (.object (Json.sortMembers members)) ∧
      Snapshot.read? pushed = some s ∧
      (Snapshot.read? pushed).map (fun s' => (ClusterState.ofSnapshot c s').wireText) =
        some pushed := by
  intro pushed members
  let state := ClusterState.ofSnapshot c s
  have canonical : state.snapshot.Canonical := Snapshot.canonical_of_read? read
  have exact : state.toJson.Exact := ClusterState.exact_toJson canonical integral
  have parsed : Json.readBytes? pushed.toUTF8 = some (.object members) :=
    Json.readBytes?_text exact
  have again : Snapshot.read? pushed = some s := by
    change (Json.read? state.toJson.text).bind Snapshot.ofJson? = some s
    rw [Json.read?_text exact, Option.bind_some]
    exact ClusterState.ofJson?_toJson canonical
  refine ⟨parsed, ?_, again, ?_⟩
  · rw [Reply.bodyValue?, parsed, Option.bind_some]
    exact ClusterState.canonical?_toJson canonical
  · rw [again]
    rfl

def Json.nestedArrays : Nat → Json
  | 0 => .array []
  | n + 1 => .array [nestedArrays n]

theorem Json.exact_nestedArrays (n : Nat) : (nestedArrays n).Exact := by
  induction n with
  | zero => exact .array [] (by nofun)
  | succ n ih => exact .array _ (List.forall_mem_singleton.mpr ih)

theorem Json.canonical?_nestedArrays {n levels : Nat} (room : n < levels) :
    canonical? levels (nestedArrays n) = some (nestedArrays n) := by
  induction n generalizing levels with
  | zero =>
    cases levels with
    | zero => omega
    | succ levels => rfl
  | succ n ih =>
    cases levels with
    | zero => omega
    | succ levels => exact canonical?_array_of_fixed (List.forall_mem_singleton.mpr (ih (by omega)))

theorem Json.integral_of_exact {j : Json} (exact : j.Exact) : j.Integral := by
  induction exact with
  | null => exact .null
  | bool b => exact .bool b
  | int value fits => exact .int value fits
  | string s => exact .string s
  | array xs _ ih => exact .array xs ih
  | object ms _ ih => exact .object ms ih

theorem deep_state_reads_back :
    let c := { Config.bare "workers" "c3.xlarge" with apiKey := "\"key\"\n", region := "north" }
    let deep := Json.nestedArrays 124
    let node := Json.object [("cpus", .ofInt64 (-4)), ("name", .string "n\\1")]
    let text := (Json.object [
      ("nodes", .array [.object [
        ("name", .null), ("cpus", .ofInt64 (-4)), ("name", .string "n\\1")]]),
      ("deployments", .array [deep])]).text
    Snapshot.read? text = some ⟨[deep], [node]⟩ ∧
      Snapshot.read? (ClusterState.ofSnapshot c ⟨[deep], [node]⟩).wireText =
        some ⟨[deep], [node]⟩ := by
  intro c deep node text
  have exactDeep : deep.Exact := Json.exact_nestedArrays 124
  have fits : Json.canonical? Snapshot.elementLevels deep = some deep :=
    Json.canonical?_nestedArrays (by decide)
  -- nothing more is asked of the deep element, which need not be unfolded any further
  clear_value deep
  have exactNode : node.Exact := by
    apply Json.Exact.object
    simp only [List.forall_mem_cons]
    exact ⟨.int _ _, .string _, by nofun⟩
  have exact : (Json.object [("nodes", .array [.object [
      ("name", .null), ("cpus", .ofInt64 (-4)), ("name", .string "n\\1")]]),
      ("deployments", .array [deep])]).Exact := by
    apply Json.Exact.object
    simp only [List.forall_mem_cons]
    refine ⟨.array _ (List.forall_mem_singleton.mpr (.object _ ?_)),
      .array _ (List.forall_mem_singleton.mpr exactDeep), by nofun⟩
    simp only [List.forall_mem_cons]
    exact ⟨.null, .int _ _, .string _, by nofun⟩
  have read : Snapshot.read? text = some ⟨[deep], [node]⟩ := by
    rw [Snapshot.read?, Json.read?_text exact]
    exact Snapshot.ofJson?_eq_some_iff.mpr
      ⟨rfl, Snapshot.elements?_array (List.forall_mem_singleton.mpr fits), rfl⟩
  refine ⟨read, (pushed_state_reads_back c text _ read ?_).2.2.1⟩
  simp only [List.cons_append, List.nil_append, List.forall_mem_cons]
  exact ⟨Json.integral_of_exact exactDeep, Json.integral_of_exact exactNode, by nofun⟩

end NodeScaling
