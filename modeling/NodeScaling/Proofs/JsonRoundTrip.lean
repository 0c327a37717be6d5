import NodeScaling.Proofs.ScalarTexts
import NodeScaling.Reply

/-!
Printing a value and reading the text gives the value back, member by member in the same order.
Left out are floating point numbers, whose digits the reader need not turn into the same number,
and raw parts, which denote nothing.
-/
namespace NodeScaling.Json

/-- A value of which every number is an integer and no part is raw. -/
inductive Exact : Json → Prop where
  | null : Exact .null
  | bool (b : Bool) : Exact (.bool b)
  | int (value : Int) (fits : -0x8000000000000000 ≤ value ∧ value ≤ 0xFFFFFFFFFFFFFFFF) :
      Exact (.number (.int value fits))
  | string (s : String) : Exact (.string s)
  | array (xs : List Json) (elements : ∀ x ∈ xs, Exact x) : Exact (.array xs)
  | object (ms : List (String × Json)) (values : ∀ m ∈ ms, Exact m.2) : Exact (.object ms)

/-- A value is read back from the start of any text, given as many steps as its own text is long. -/
def ReadsBack (j : Json) : Prop :=
  ∀ (fuel : Nat) (rest : List Char), EndsValue rest → j.chars.length ≤ fuel →
    readValue fuel (j.chars ++ rest) = some (j, rest)

theorem skipSpacing_of_head {c : Char} (ink : isSpacing c = false) (cs : List Char) :
    skipSpacing (c :: cs) = c :: cs := by
  simp [skipSpacing, ink]

theorem chars_start {j : Json} (exact : j.Exact) :
    ∃ c cs, j.chars = c :: cs ∧ isSpacing c = false ∧ c ≠ ']' := by
  cases exact with
  | null => exact ⟨_, _, rfl, rfl, by decide⟩
  | bool b => cases b <;> exact ⟨_, _, rfl, rfl, by decide⟩
  | int value fits =>
    obtain ⟨c, cs, text, start⟩ := text_start value fits
    refine ⟨c, cs, text, ?_, ?_⟩
    · rcases start with digit | rfl
      · rw [Bool.eq_false_iff]
        intro spacing
        simp only [isSpacing, Bool.or_eq_true, beq_iff_eq] at spacing
        rcases spacing with ((rfl | rfl) | rfl) | rfl <;> cases digit
      · rfl
    · rintro rfl
      rcases start with digit | same
      · cases digit
      · cases same
  | string s => exact ⟨_, _, rfl, rfl, by decide⟩
  | array xs => cases xs <;> exact ⟨_, _, rfl, rfl, by decide⟩
  | object ms => cases ms <;> exact ⟨_, _, rfl, rfl, by decide⟩

theorem skipSpacing_chars {j : Json} (exact : j.Exact) (rest : List Char) :
    skipSpacing (j.chars ++ rest) = j.chars ++ rest := by
  obtain ⟨c, cs, text, ink, -⟩ := chars_start exact
  rw [text, List.cons_append, skipSpacing_of_head ink]

theorem stringChars_append (s : String) (rest : List Char) :
    stringChars s ++ rest = '"' :: (s.toList.flatMap escapeChar ++ '"' :: rest) := by
  simp [stringChars]

theorem skipSpacing_stringChars (s : String) (rest : List Char) :
    skipSpacing (stringChars s ++ rest) = stringChars s ++ rest := by
  rw [stringChars_append, skipSpacing_of_head (by rfl)]

theorem readValue_of_number_start {c : Char} (start : c.isDigit ∨ c = '-') (fuel : Nat)
    (cs : List Char) : readValue (fuel + 1) (c :: cs) = readNumber? (c :: cs) := by
  have other (d : Char) (noDigit : d.isDigit = false) (noSign : d ≠ '-') : c ≠ d := by
    rintro rfl
    rcases start with digit | sign
    · exact absurd digit (by simp [noDigit])
    · exact noSign sign
  rw [readValue]
  · intro _ same
    exact other 'n' rfl (by decide) (List.cons.inj same).1
  · intro _ same
    exact other 't' rfl (by decide) (List.cons.inj same).1
  · intro _ same
    exact other 'f' rfl (by decide) (List.cons.inj same).1
  · intro _ same
    exact other '"' rfl (by decide) (List.cons.inj same).1
  · intro _ same
    exact other '[' rfl (by decide) (List.cons.inj same).1
  · intro _ same
    exact other '\x7b' rfl (by decide) (List.cons.inj same).1

theorem readsBack_int (value : Int) (fits) : ReadsBack (.number (.int value fits)) := by
  intro fuel rest ends long
  obtain ⟨c, cs, text, start⟩ := text_start value fits
  have read := readNumber?_text value fits ends
  cases fuel with
  | zero => simp [chars, text] at long
  | succ fuel =>
    rw [text] at read
    rw [chars, text]
    exact (readValue_of_number_start start fuel (cs ++ rest)).trans read

theorem readsBack_string (s : String) : ReadsBack (.string s) := by
  intro fuel rest ends long
  cases fuel with
  | zero => simp [chars, stringChars] at long
  | succ fuel =>
    have read := readString?_written s rest
    rw [chars, stringChars_append, readValue]
    simp only [read]

theorem readElements_chars {xs : List Json} (each : ∀ x ∈ xs, x.Exact ∧ x.ReadsBack)
    {first : Json} (firstBack : first.ReadsBack) (fuel : Nat) (rest : List Char)
    (long : first.chars.length + (elementsChars xs).length < fuel) :
    readElements fuel (first.chars ++ (elementsChars xs ++ ']' :: rest)) =
      some (first :: xs, rest) := by
  induction xs generalizing first fuel with
  | nil =>
    cases fuel with
    | zero => omega
    | succ fuel =>
      have read := firstBack fuel (']' :: rest) (Or.inr (Or.inl rfl)) (by omega)
      rw [readElements, elementsChars, List.nil_append, read]
      rfl
  | cons x xs ih =>
    cases fuel with
    | zero => omega
    | succ fuel =>
      obtain ⟨exact, back⟩ := each x List.mem_cons_self
      simp only [elementsChars, List.length_cons, List.length_append] at long
      have next := ih (fun y member => each y (List.mem_cons_of_mem x member)) back fuel (by omega)
      have read := firstBack fuel (',' :: (x.chars ++ (elementsChars xs ++ ']' :: rest)))
        (Or.inl rfl) (by omega)
      have text : elementsChars (x :: xs) ++ ']' :: rest =
          ',' :: (x.chars ++ (elementsChars xs ++ ']' :: rest)) := by
        simp [elementsChars]
      rw [readElements, text, read]
      dsimp only
      rw [skipSpacing_of_head (by rfl)]
      simp only [skipSpacing_chars exact, next]

theorem readsBack_array (xs : List Json) (each : ∀ x ∈ xs, x.Exact ∧ x.ReadsBack) :
    ReadsBack (.array xs) := by
  intro fuel rest ends long
  cases fuel with
  | zero => cases xs <;> simp [chars] at long
  | succ fuel =>
    cases xs with
    | nil => rfl
    | cons x xs =>
      obtain ⟨exact, back⟩ := each x List.mem_cons_self
      have read := readElements_chars (fun y member => each y (List.mem_cons_of_mem x member)) back
        fuel rest (by simp [chars] at long; omega)
      have text : chars (.array (x :: xs)) ++ rest =
          '[' :: (x.chars ++ (elementsChars xs ++ ']' :: rest)) := by
        simp [chars]
      rw [text, readValue, skipSpacing_chars exact]
      -- the list is not empty, since no value starts with a closing bracket
      split
      · next closed =>
        obtain ⟨c, cs, start, -, noBracket⟩ := chars_start exact
        rw [start] at closed
        exact absurd (List.cons.inj closed).1 noBracket
      · rw [read]

theorem readMembers_last (name : String) {value : Json} (exact : value.Exact)
    (back : value.ReadsBack) (fuel : Nat) (rest : List Char) (long : value.chars.length ≤ fuel) :
    readMembers (fuel + 1) (stringChars name ++ ':' :: (value.chars ++ '\x7d' :: rest)) =
      some ([(some name, value)], rest) := by
  have read := back fuel ('\x7d' :: rest) (Or.inr (Or.inr rfl)) long
  rw [stringChars_append, readMembers, readString?_written]
  dsimp only
  rw [skipSpacing_of_head (by rfl)]
  simp only [skipSpacing_chars exact, read]
  rfl

theorem readMembers_more (name : String) {value : Json} (exact : value.Exact)
    (back : value.ReadsBack) (fuel : Nat) (rest : List Char) (long : value.chars.length ≤ fuel) :
    readMembers (fuel + 1) (stringChars name ++ ':' :: (value.chars ++ ',' :: rest)) =
      (readMembers fuel (skipSpacing rest)).map
        fun (ms, rest) => ((some name, value) :: ms, rest) := by
  have read := back fuel (',' :: rest) (Or.inl rfl) long
  rw [stringChars_append, readMembers, readString?_written]
  dsimp only
  rw [skipSpacing_of_head (by rfl)]
  simp only [skipSpacing_chars exact, read]
  rw [skipSpacing_of_head (by rfl)]
  cases found : readMembers fuel (skipSpacing rest) with
  | none => simp [found]
  | some p => simp [found]

theorem readMembers_chars {ms : List (String × Json)} (each : ∀ m ∈ ms, m.2.Exact ∧ m.2.ReadsBack)
    (name : String) {value : Json} (exact : value.Exact) (back : value.ReadsBack) (fuel : Nat)
    (rest : List Char)
    (long : (stringChars name).length + value.chars.length + (membersChars ms).length < fuel) :
    readMembers fuel
        (stringChars name ++ ':' :: (value.chars ++ (membersChars ms ++ '\x7d' :: rest))) =
      some (((name, value) :: ms).map fun m => (some m.1, m.2), rest) := by
  induction ms generalizing name value fuel with
  | nil =>
    cases fuel with
    | zero => omega
    | succ fuel => exact readMembers_last name exact back fuel rest (by omega)
  | cons m ms ih =>
    cases fuel with
    | zero => omega
    | succ fuel =>
      obtain ⟨exactNext, backNext⟩ := each m List.mem_cons_self
      simp only [membersChars, List.length_cons, List.length_append] at long
      have next := ih (fun n member => each n (List.mem_cons_of_mem m member)) m.1 exactNext backNext
        fuel (by omega)
      have text : membersChars (m :: ms) ++ '\x7d' :: rest =
          ',' :: (stringChars m.1 ++ ':' :: (m.2.chars ++ (membersChars ms ++ '\x7d' :: rest))) := by
        simp [membersChars]
      rw [text, readMembers_more name exact back fuel _ (by omega), skipSpacing_stringChars, next]
      rfl

theorem namedMembers?_of_named (ms : List (String × Json)) :
    namedMembers? (ms.map fun m => (some m.1, m.2)) = some ms := by
  induction ms with
  | nil => rfl
  | cons m ms ih =>
    rw [namedMembers?] at ih ⊢
    rw [List.map_cons, List.mapM_cons, ih]
    rfl

theorem readsBack_object (ms : List (String × Json)) (each : ∀ m ∈ ms, m.2.Exact ∧ m.2.ReadsBack) :
    ReadsBack (.object ms) := by
  intro fuel rest ends long
  cases fuel with
  | zero => cases ms <;> simp [chars] at long
  | succ fuel =>
    cases ms with
    | nil => rfl
    | cons m ms =>
      obtain ⟨exact, back⟩ := each m List.mem_cons_self
      have read := readMembers_chars (fun n member => each n (List.mem_cons_of_mem m member)) m.1
        exact back fuel rest (by simp [chars] at long; omega)
      have text : chars (.object (m :: ms)) ++ rest =
          '\x7b' ::
            (stringChars m.1 ++ ':' :: (m.2.chars ++ (membersChars ms ++ '\x7d' :: rest))) := by
        simp [chars]
      rw [text, readValue, skipSpacing_stringChars]
      split
      · next closed =>
        cases closed
      · rw [read]
        dsimp only
        rw [namedMembers?_of_named]

theorem readsBack_of_exact {j : Json} (exact : j.Exact) : j.ReadsBack := by
  induction exact with
  | null =>
    intro fuel rest ends long
    cases fuel with
    | zero => simp [chars] at long
    | succ fuel => rfl
  | bool b =>
    intro fuel rest ends long
    cases fuel with
    | zero => cases b <;> simp [chars] at long
    | succ fuel => cases b <;> rfl
  | int value fits => exact readsBack_int value fits
  | string s => exact readsBack_string s
  | array xs elements ih => exact readsBack_array xs fun x member => ⟨elements x member, ih x member⟩
  | object ms values ih => exact readsBack_object ms fun m member => ⟨values m member, ih m member⟩

theorem read?_text {j : Json} (exact : j.Exact) : read? j.text = some j := by
  have back := readsBack_of_exact exact (2 * j.chars.length + 1) [] trivial (by omega)
  have start := skipSpacing_chars exact []
  rw [List.append_nil] at back start
  rw [read?, text, String.toList_ofList, readChars?, start, back]
  rfl

theorem readBytes?_toUTF8 (s : String) : readBytes? s.toUTF8 = read? s := by
  have valid : String.fromUTF8? s.toUTF8 = some s := by
    rw [String.fromUTF8?, String.toUTF8_eq_toByteArray, dif_pos s.isValidUTF8]
    rfl
  rw [readBytes?, valid, Option.bind_some]

theorem readBytes?_text {j : Json} (exact : j.Exact) : readBytes? j.text.toUTF8 = some j := by
  rw [readBytes?_toUTF8, read?_text exact]

end NodeScaling.Json

namespace NodeScaling

theorem Reply.bodyValue?_text {j : Json} (exact : j.Exact)
    (canonical : Json.canonical? Json.levelLimit j = some j) : bodyValue? j.text.toUTF8 = some j := by
  rw [bodyValue?, Json.readBytes?_text exact, Option.bind_some, canonical]

end NodeScaling
