/-!
Maps from texts, kept as a list of entries in strictly ascending order of their keys, which is
also the order of the UTF-8 bytes. So two maps with the same contents are equal, whatever order
their entries came in.
-/
namespace NodeScaling

/-- A map from texts to values, by ascending key. -/
structure Dictionary (α : Type) where
  entries : List (String × α)
  ascending : entries.Pairwise fun a b => a.1 < b.1

namespace Dictionary
variable {α β : Type}

instance [DecidableEq α] : DecidableEq (Dictionary α) := fun a b =>
  if h : a.entries = b.entries then
    isTrue (by cases a; cases b; simp_all)
  else isFalse (by intro same; exact h (same ▸ rfl))

def empty : Dictionary α := ⟨[], .nil⟩

def insertEntry (key : String) (value : α) : List (String × α) → List (String × α)
  | [] => [(key, value)]
  | (other, x) :: es =>
    if key < other then (key, value) :: (other, x) :: es
    else if key = other then (key, value) :: es
    else (other, x) :: insertEntry key value es

theorem mem_insertEntry {key : String} {value : α} {es : List (String × α)} {e : String × α}
    (h : e ∈ insertEntry key value es) : e = (key, value) ∨ e ∈ es := by
  induction es with
  | nil => simpa [insertEntry] using h
  | cons first es ih =>
    obtain ⟨other, x⟩ := first
    simp only [insertEntry] at h
    split at h
    · simpa using h
    · split at h
      · rcases List.mem_cons.1 h with same | later
        · exact Or.inl same
        · exact Or.inr (List.mem_cons_of_mem _ later)
      · rcases List.mem_cons.1 h with same | later
        · exact Or.inr (by simp [same])
        · rcases ih later with new | old
          · exact Or.inl new
          · exact Or.inr (List.mem_cons_of_mem _ old)

theorem insertEntry_ascending (key : String) (value : α) (es : List (String × α))
    (h : es.Pairwise fun a b => a.1 < b.1) :
    (insertEntry key value es).Pairwise fun a b => a.1 < b.1 := by
  induction es with
  | nil => simp [insertEntry]
  | cons first es ih =>
    obtain ⟨other, x⟩ := first
    obtain ⟨before, rest⟩ := List.pairwise_cons.1 h
    simp only [insertEntry]
    split
    · next less =>
      refine List.pairwise_cons.2 ⟨fun e member => ?_, h⟩
      rcases List.mem_cons.1 member with same | later
      · simpa [same] using less
      · exact String.lt_trans less (before e later)
    · next notLess =>
      split
      · next same =>
        subst same
        exact List.pairwise_cons.2 ⟨fun e member => before e member, rest⟩
      · next different =>
        refine List.pairwise_cons.2 ⟨fun e member => ?_, ih rest⟩
        rcases mem_insertEntry member with new | old
        · subst new
          exact Classical.byContradiction fun notAfter =>
            different (String.le_antisymm (String.not_lt.1 notAfter) (String.not_lt.1 notLess))
        · exact before e old

def insert (d : Dictionary α) (key : String) (value : α) : Dictionary α :=
  ⟨insertEntry key value d.entries, insertEntry_ascending key value d.entries d.ascending⟩

/-- The map with the given entries; of a repeated key the last value counts. -/
def ofList (es : List (String × α)) : Dictionary α :=
  es.foldl (fun d (key, value) => d.insert key value) empty

theorem mem_of_mem_ofList {es : List (String × α)} {e : String × α}
    (member : e ∈ (ofList es).entries) : e ∈ es := by
  have folded : ∀ (d : Dictionary α),
      e ∈ (es.foldl (fun d (key, value) => d.insert key value) d).entries →
        e ∈ d.entries ∨ e ∈ es := by
    clear member
    induction es with
    | nil =>
      intro d old
      exact Or.inl old
    | cons first es ih =>
      intro d among
      rcases ih _ among with early | late
      · rcases mem_insertEntry early with new | old
        · exact Or.inr (by rw [new]; exact List.mem_cons_self)
        · exact Or.inl old
      · exact Or.inr (List.mem_cons_of_mem _ late)
  rcases folded empty member with none | given
  · cases none
  · exact given

theorem insertEntry_of_last {key : String} {value : α} {es : List (String × α)}
    (last : ∀ e ∈ es, e.1 < key) : insertEntry key value es = es ++ [(key, value)] := by
  induction es with
  | nil => rfl
  | cons first es ih =>
    obtain ⟨other, x⟩ := first
    have less : other < key := last (other, x) List.mem_cons_self
    have notBefore : ¬ key < other := String.lt_asymm less
    have different : key ≠ other := by
      rintro rfl
      exact String.lt_irrefl _ less
    rw [insertEntry, if_neg notBefore, if_neg different,
      ih fun e member => last e (List.mem_cons_of_mem _ member)]
    rfl

theorem entries_ofList {es : List (String × α)} (ascending : es.Pairwise fun a b => a.1 < b.1) :
    (ofList es).entries = es := by
  have folded : ∀ d : Dictionary α, (d.entries ++ es).Pairwise (fun a b => a.1 < b.1) →
      (es.foldl (fun d (key, value) => d.insert key value) d).entries = d.entries ++ es := by
    clear ascending
    induction es with
    | nil =>
      intro d _
      simp
    | cons first es ih =>
      intro d ordered
      obtain ⟨key, value⟩ := first
      have last : ∀ e ∈ d.entries, e.1 < key := fun e member =>
        (List.pairwise_append.mp ordered).2.2 e member (key, value) List.mem_cons_self
      have entered : (d.insert key value).entries = d.entries ++ [(key, value)] :=
        insertEntry_of_last last
      have next := ih (d.insert key value) (by rw [entered]; simpa using ordered)
      rw [entered, List.append_assoc] at next
      exact next
  exact folded empty (by simpa [empty] using ascending)

def get? (d : Dictionary α) (key : String) : Option α :=
  d.entries.lookup key

def keys (d : Dictionary α) : List String :=
  d.entries.map Prod.fst

def size (d : Dictionary α) : Nat :=
  d.entries.length

end Dictionary

end NodeScaling
