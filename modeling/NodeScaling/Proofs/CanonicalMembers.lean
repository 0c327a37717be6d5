import NodeScaling.Json.Record

/-!
The values that a record finds under the names of a field, before and after its object is put into
canonical form. The members come in any order and are sorted; as long as a field is given once at
most, it has the same values on both sides.
-/
namespace NodeScaling.Json

section Values
variable {names : List String} {ms ns : List (String × Json)}

theorem valuesOf_cons_of_mem {m : String × Json} (named : m.1 ∈ names) :
    valuesOf names (m :: ms) = m.2 :: valuesOf names ms := by
  simp [valuesOf, named]

theorem valuesOf_cons_of_not_mem {m : String × Json} (other : m.1 ∉ names) :
    valuesOf names (m :: ms) = valuesOf names ms := by
  simp [valuesOf, other]

theorem valuesOf_append : valuesOf names (ms ++ ns) = valuesOf names ms ++ valuesOf names ns := by
  simp [valuesOf]

theorem valuesOf_eq_nil (other : ∀ m ∈ ms, m.1 ∉ names) : valuesOf names ms = [] := by
  induction ms with
  | nil => rfl
  | cons m ms ih =>
    rw [valuesOf_cons_of_not_mem (other m List.mem_cons_self)]
    exact ih fun n member => other n (List.mem_cons_of_mem m member)

theorem valuesOf_perm (once : (valuesOf names ns).length ≤ 1) (same : ms.Perm ns) :
    valuesOf names ms = valuesOf names ns := by
  have alike : (valuesOf names ms).Perm (valuesOf names ns) := same.filterMap _
  match values : valuesOf names ns, once with
  | [], _ =>
    rw [values] at alike
    exact alike.eq_nil
  | [value], _ =>
    rw [values] at alike
    exact List.perm_singleton.mp alike

end Values

section Sorting
variable {names : List String} {es ms : List (String × Json)} {key : String} {value : Json}

theorem valuesOf_insertEntry_of_other (other : key ∉ names) :
    valuesOf names (Dictionary.insertEntry key value es) = valuesOf names es := by
  induction es with
  | nil => exact valuesOf_cons_of_not_mem other
  | cons e es ih =>
    rw [Dictionary.insertEntry]
    split
    · exact valuesOf_cons_of_not_mem other
    · split
      · next same =>
        have unnamed : e.1 ∉ names := same ▸ other
        rw [valuesOf_cons_of_not_mem other, valuesOf_cons_of_not_mem unnamed]
      · by_cases named : e.1 ∈ names
        · rw [valuesOf_cons_of_mem named, valuesOf_cons_of_mem named, ih]
        · rw [valuesOf_cons_of_not_mem named, valuesOf_cons_of_not_mem named, ih]

theorem valuesOf_insertEntry_of_named (named : key ∈ names) (none : valuesOf names es = []) :
    valuesOf names (Dictionary.insertEntry key value es) = [value] := by
  induction es with
  | nil => exact valuesOf_cons_of_mem named
  | cons e es ih =>
    have unnamed : e.1 ∉ names := by
      intro among
      rw [valuesOf_cons_of_mem among] at none
      cases none
    rw [valuesOf_cons_of_not_mem unnamed] at none
    rw [Dictionary.insertEntry]
    split
    · rw [valuesOf_cons_of_mem named, valuesOf_cons_of_not_mem unnamed, none]
    · split
      · next same => exact absurd (same ▸ named) unnamed
      · rw [valuesOf_cons_of_not_mem unnamed]
        exact ih none

/-- Insertion in a row: a field that is not there yet gets the one value that it is given. -/
theorem valuesOf_insertions (d : Dictionary Json) (once : (valuesOf names ms).length ≤ 1)
    (fresh : valuesOf names d.entries = []) :
    valuesOf names (ms.foldl (fun d (key, value) => d.insert key value) d).entries =
      valuesOf names ms := by
  have kept : ∀ (ns : List (String × Json)) (d : Dictionary Json), valuesOf names ns = [] →
      valuesOf names (ns.foldl (fun d (key, value) => d.insert key value) d).entries =
        valuesOf names d.entries := by
    intro ns
    induction ns with
    | nil => intro d _; rfl
    | cons n ns ih =>
      intro d none
      have other : n.1 ∉ names := by
        intro named
        rw [valuesOf_cons_of_mem named] at none
        cases none
      rw [valuesOf_cons_of_not_mem other] at none
      exact (ih _ none).trans (valuesOf_insertEntry_of_other other)
  induction ms generalizing d with
  | nil => exact fresh
  | cons m ms ih =>
    by_cases named : m.1 ∈ names
    · rw [valuesOf_cons_of_mem named] at once ⊢
      have none : valuesOf names ms = [] := by
        apply List.eq_nil_of_length_eq_zero
        simp only [List.length_cons] at once
        omega
      rw [none]
      exact (kept ms _ none).trans (valuesOf_insertEntry_of_named named fresh)
    · rw [valuesOf_cons_of_not_mem named] at once ⊢
      exact ih _ once ((valuesOf_insertEntry_of_other named).trans fresh)

theorem valuesOf_sortMembers (once : (valuesOf names ms).length ≤ 1) :
    valuesOf names (sortMembers ms) = valuesOf names ms :=
  valuesOf_insertions Dictionary.empty once rfl

end Sorting

section Canonical
variable {levels : Nat}

theorem valuesOf_canonicalMembers (names : List String) {ms ns : List (String × Json)}
    (found : canonicalMembers? levels ms = some ns) :
    (valuesOf names ms).mapM (canonical? levels) = some (valuesOf names ns) := by
  induction ms generalizing ns with
  | nil =>
    cases found
    rfl
  | cons m ms ih =>
    obtain ⟨name, x⟩ := m
    rw [canonicalMembers?] at found
    split at found
    · next value rest first others =>
      cases found
      by_cases named : name ∈ names
      · rw [valuesOf_cons_of_mem named, valuesOf_cons_of_mem named, List.mapM_cons, ih others, first]
        rfl
      · rw [valuesOf_cons_of_not_mem named, valuesOf_cons_of_not_mem named, ih others]
    · cases found

theorem length_of_mapM {f : Json → Option Json} {xs ys : List Json} (mapped : xs.mapM f = some ys) :
    ys.length = xs.length := by
  induction xs generalizing ys with
  | nil =>
    cases mapped
    rfl
  | cons x xs ih =>
    rw [List.mapM_cons] at mapped
    obtain ⟨y, -, rest⟩ := Option.bind_eq_some_iff.mp mapped
    obtain ⟨zs, others, same⟩ := Option.bind_eq_some_iff.mp rest
    cases same
    rw [List.length_cons, List.length_cons, ih others]

theorem valuesOf_canonical {ms : List (String × Json)} {value : Json}
    (found : canonical? (levels + 1) (.object ms) = some value) :
    ∃ ns, value = .object ns ∧ ∀ names, (valuesOf names ms).length ≤ 1 →
      (valuesOf names ms).mapM (canonical? levels) = some (valuesOf names ns) := by
  obtain ⟨ns, members, rfl⟩ := Option.map_eq_some_iff.mp found
  refine ⟨sortMembers ns, rfl, ?_⟩
  intro names once
  have mapped := valuesOf_canonicalMembers names members
  have length := length_of_mapM mapped
  rw [valuesOf_sortMembers (by omega)]
  exact mapped

theorem canonicalMembers?_of_fixed {ms : List (String × Json)}
    (fixed : ∀ m ∈ ms, canonical? levels m.2 = some m.2) :
    canonicalMembers? levels ms = some ms := by
  induction ms with
  | nil => rfl
  | cons m ms ih =>
    have rest := ih fun n member => fixed n (List.mem_cons_of_mem m member)
    rw [canonicalMembers?, fixed m List.mem_cons_self, rest]

theorem canonical?_ofStrings (levels : Nat) (xs : List String) :
    canonical? (levels + 1) (ofStrings xs) = some (ofStrings xs) := by
  have elements : canonicalElements? levels (xs.map string) = some (xs.map string) := by
    induction xs with
    | nil => rfl
    | cons x xs ih =>
      rw [List.map_cons, canonicalElements?, ih]
      rfl
  rw [ofStrings, canonical?, elements]
  rfl

end Canonical

end NodeScaling.Json
