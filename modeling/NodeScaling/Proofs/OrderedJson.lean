import NodeScaling.Proofs.CanonicalMembers

/-!
Canonical values, in which every object lists its members by ascending name. So a name has one
value at most, and a field of a record is found by looking its name up.
-/
namespace NodeScaling.Json

/-- A value of which every object lists its members by ascending name and no part is raw. -/
inductive Ordered : Json → Prop where
  | null : Ordered .null
  | bool (b : Bool) : Ordered (.bool b)
  | number (n : Number) : Ordered (.number n)
  | string (s : String) : Ordered (.string s)
  | array (xs : List Json) (elements : ∀ x ∈ xs, Ordered x) : Ordered (.array xs)
  | object (ms : List (String × Json)) (ascending : ms.Pairwise fun a b => a.1 < b.1)
      (values : ∀ m ∈ ms, Ordered m.2) : Ordered (.object ms)

mutual

theorem ordered_of_canonical :
    ∀ (levels : Nat) (j : Json) {v : Json}, canonical? levels j = some v → Ordered v
  | _, .null, _, found => by
    cases found
    exact .null
  | _, .bool b, _, found => by
    cases found
    exact .bool b
  | _, .number n, _, found => by
    cases found
    exact .number n
  | _, .string s, _, found => by
    cases found
    exact .string s
  | 0, .array xs, _, found => by
    cases found
  | levels + 1, .array xs, _, found => by
    obtain ⟨ys, elements, rfl⟩ := Option.map_eq_some_iff.mp found
    exact .array ys (ordered_of_canonicalElements levels xs elements)
  | 0, .object ms, _, found => by
    cases found
  | levels + 1, .object ms, _, found => by
    obtain ⟨ns, members, rfl⟩ := Option.map_eq_some_iff.mp found
    refine .object (sortMembers ns) (Dictionary.ofList ns).ascending ?_
    intro m member
    exact ordered_of_canonicalMembers levels ms members m (Dictionary.mem_of_mem_ofList member)

theorem ordered_of_canonicalElements :
    ∀ (levels : Nat) (xs : List Json) {ys : List Json},
      canonicalElements? levels xs = some ys → ∀ y ∈ ys, Ordered y
  | _, [], _, found, _, member => by
    cases found
    cases member
  | levels, x :: xs, _, found, y, member => by
    rw [canonicalElements?] at found
    split at found
    · next first rest one others =>
      cases found
      rcases List.mem_cons.mp member with here | later
      · rw [here]
        exact ordered_of_canonical levels x one
      · exact ordered_of_canonicalElements levels xs others y later
    · cases found

theorem ordered_of_canonicalMembers :
    ∀ (levels : Nat) (ms : List (String × Json)) {ns : List (String × Json)},
      canonicalMembers? levels ms = some ns → ∀ n ∈ ns, Ordered n.2
  | _, [], _, found, _, member => by
    cases found
    cases member
  | levels, (name, x) :: ms, _, found, n, member => by
    rw [canonicalMembers?] at found
    split at found
    · next first rest one others =>
      cases found
      rcases List.mem_cons.mp member with here | later
      · rw [here]
        exact ordered_of_canonical levels x one
      · exact ordered_of_canonicalMembers levels ms others n later
    · cases found

end

theorem valuesOf_eq_lookup (name : String) {ms : List (String × Json)}
    (ascending : ms.Pairwise fun a b => a.1 < b.1) :
    valuesOf [name] ms = (ms.lookup name).toList := by
  induction ms with
  | nil => rfl
  | cons first ms ih =>
    obtain ⟨other, value⟩ := first
    obtain ⟨before, rest⟩ := List.pairwise_cons.mp ascending
    by_cases same : other = name
    · have absent : ∀ m ∈ ms, m.1 ∉ [name] := by
        intro m member named
        have less := before m member
        rw [List.mem_singleton.mp named, same] at less
        exact String.lt_irrefl name less
      rw [valuesOf_cons_of_mem (List.mem_singleton.mpr same), valuesOf_eq_nil absent, same,
        List.lookup_cons_self]
      rfl
    · have other : other ∉ [name] := fun named => same (List.mem_singleton.mp named)
      rw [valuesOf_cons_of_not_mem other, ih rest, List.lookup_cons,
        beq_false_of_ne (Ne.symm same)]

theorem field?_object (place : Nat) (name : String) {ms : List (String × Json)}
    (ascending : ms.Pairwise fun a b => a.1 < b.1) :
    field? place [name] (.object ms) = some ((ms.lookup name).elim .absent .given) := by
  rw [field?, valuesOf_eq_lookup name ascending]
  cases ms.lookup name <;> rfl

theorem ordered_of_lookup {name : String} {ms : List (String × Json)} {value : Json}
    (values : ∀ m ∈ ms, Ordered m.2) (found : ms.lookup name = some value) : Ordered value := by
  obtain ⟨before, after, rfl, -⟩ := List.lookup_eq_some_iff.mp found
  exact values (name, value) (by simp)

end NodeScaling.Json
