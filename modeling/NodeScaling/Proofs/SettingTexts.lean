import NodeScaling.Proofs.Attempts
import NodeScaling.Settings

/-!
The texts of single settings. A number is read from a decimal numeral and from nothing else. A number
in decimal, a truth value and a list of instance types joined with commas are read back as what they
were made of, and none of them is blank.
-/
namespace NodeScaling

namespace Text

theorem not_isBlank_of_isDigit {c : Char} (digit : c.isDigit) : isBlank c = false := by
  obtain ⟨low, high⟩ := Char.isDigit_iff_toNat.mp digit
  have least : 48 ≤ c.toNat := low
  have greatest : c.toNat ≤ 57 := high
  simp only [isBlank, Bool.or_eq_false_iff, Bool.and_eq_false_iff, decide_eq_false_iff_not,
    beq_eq_false_iff_ne]
  omega

theorem digitValue?_of_isDigit {c : Char} (digit : c.isDigit) :
    digitValue? 10 c = some (c.toNat - 48) := by
  obtain ⟨low, high⟩ := Char.isDigit_iff_toNat.mp digit
  have least : 48 ≤ c.toNat := low
  have greatest : c.toNat ≤ 57 := high
  have small : c.toNat - 48 < 10 := by omega
  simp [digitValue?, least, greatest, small]

theorem isDigit_of_digitValue? {c : Char} {d : Nat} (value : digitValue? 10 c = some d) :
    c.isDigit ∧ d = c.toNat - 48 := by
  have range : 48 ≤ c.toNat ∧ c.toNat ≤ 57 ∧ d = c.toNat - 48 := by
    simp only [digitValue?, Bool.and_eq_true, decide_eq_true_eq] at value
    grind
  exact ⟨Char.isDigit_iff_toNat.mpr ⟨range.1, range.2.1⟩, range.2.2⟩

theorem le_ofDigitChars (cs : List Char) (value : Nat) : value ≤ Nat.ofDigitChars 10 cs value := by
  induction cs generalizing value with
  | nil => exact Nat.le_refl value
  | cons c cs ih =>
    rw [Nat.ofDigitChars_cons]
    have later := ih (10 * value + (c.toNat - '0'.toNat))
    omega

theorem readDigits_of_digits {bound : Nat} (excess : IntegerFault) {cs : List Char} {value : Nat}
    (digits : ∀ c ∈ cs, c.isDigit) (fits : Nat.ofDigitChars 10 cs value ≤ bound) :
    readDigits 10 bound excess value cs = .ok (Nat.ofDigitChars 10 cs value) := by
  induction cs generalizing value with
  | nil => rfl
  | cons c cs ih =>
    rw [Nat.ofDigitChars_cons, Nat.mul_comm] at fits ⊢
    have next : value * 10 + (c.toNat - 48) ≤ bound :=
      Nat.le_trans (le_ofDigitChars cs _) fits
    simp only [readDigits, digitValue?_of_isDigit (digits c List.mem_cons_self), if_pos next]
    exact ih (fun d member => digits d (List.mem_cons_of_mem c member)) fits

theorem digits_of_readDigits {bound n value : Nat} {excess : IntegerFault} {cs : List Char}
    (read : readDigits 10 bound excess value cs = .ok n) :
    (∀ c ∈ cs, c.isDigit) ∧ Nat.ofDigitChars 10 cs value = n := by
  induction cs generalizing value with
  | nil => exact ⟨nofun, Except.ok.inj read⟩
  | cons c cs ih =>
    rw [readDigits] at read
    cases first : digitValue? 10 c with
    | none => simp [first] at read
    | some d =>
      obtain ⟨digit, rfl⟩ := isDigit_of_digitValue? first
      simp only [first] at read
      split at read
      · obtain ⟨digits, whole⟩ := ih read
        refine ⟨List.forall_mem_cons.mpr ⟨digit, digits⟩, ?_⟩
        rw [Nat.ofDigitChars_cons, Nat.mul_comm]
        exact whole
      · cases read

theorem isDigit_of_mem_repr {n : Nat} {c : Char} (member : c ∈ (toString n).toList) :
    c.isDigit := by
  rw [Nat.toString_eq_repr, Nat.toList_repr] at member
  exact Nat.isDigit_of_mem_toDigits (by omega) (by omega) member

theorem readNatural_signed (radix bound : Nat) {ds : List Char} (given : ds ≠ []) :
    readNatural radix bound ('+' :: ds) = readDigits radix bound .tooLarge 0 ds := by
  cases ds with
  | nil => exact absurd rfl given
  | cons d ds => rfl

theorem readNatural_unsigned (radix bound : Nat) {c : Char} (cs : List Char) (unsigned : c ≠ '+') :
    readNatural radix bound (c :: cs) = readDigits radix bound .tooLarge 0 (c :: cs) := by
  unfold readNatural
  split
  · contradiction
  · next signed => exact absurd (List.cons.inj signed).1 unsigned
  · next signed => exact absurd (List.cons.inj signed).1 unsigned
  · rfl

def IsNumeral (cs : List Char) (n : Nat) : Prop :=
  ∃ ds, ds ≠ [] ∧ (∀ d ∈ ds, d.isDigit) ∧ (cs = ds ∨ cs = '+' :: ds) ∧
    Nat.ofDigitChars 10 ds 0 = n

theorem readNatural_eq_ok_iff {bound n : Nat} {cs : List Char} :
    readNatural 10 bound cs = .ok n ↔ IsNumeral cs n ∧ n ≤ bound := by
  constructor
  · intro read
    refine ⟨?_, readNatural_le read⟩
    cases cs with
    | nil => cases read
    | cons c cs =>
      by_cases signed : c = '+'
      · subst signed
        have given : cs ≠ [] := by
          rintro rfl
          cases read
        rw [readNatural_signed 10 bound given] at read
        obtain ⟨digits, value⟩ := digits_of_readDigits read
        exact ⟨cs, given, digits, .inr rfl, value⟩
      · rw [readNatural_unsigned 10 bound cs signed] at read
        obtain ⟨digits, value⟩ := digits_of_readDigits read
        exact ⟨c :: cs, List.cons_ne_nil c cs, digits, .inl rfl, value⟩
  · rintro ⟨⟨ds, given, digits, plain | signed, rfl⟩, fits⟩
    · -- a first digit is not taken for the sign
      obtain ⟨d, rest, rfl⟩ := List.exists_cons_of_ne_nil given
      have unsigned : d ≠ '+' := by
        rintro rfl
        exact absurd (digits '+' List.mem_cons_self) (by decide)
      rw [plain, readNatural_unsigned 10 bound rest unsigned]
      exact readDigits_of_digits .tooLarge digits fits
    · rw [signed, readNatural_signed 10 bound given]
      exact readDigits_of_digits .tooLarge digits fits

theorem readUInt32_eq_ok_iff {s : String} {n : UInt32} :
    readUInt32 s = .ok n ↔ IsNumeral s.toList n.toNat := by
  have small := n.toNat_lt_size
  rw [readUInt32, map_eq_ok_iff]
  constructor
  · rintro ⟨m, read, rfl⟩
    obtain ⟨numeral, fits⟩ := readNatural_eq_ok_iff.mp read
    rwa [UInt32.toNat_ofNat_of_lt' (by omega)]
  · intro numeral
    exact ⟨n.toNat, readNatural_eq_ok_iff.mpr ⟨numeral, by omega⟩, n.ofNat_toNat⟩

theorem readUInt32_toString (n : UInt32) : readUInt32 (toString n.toNat) = .ok n := by
  have spelt : (toString n.toNat).toList = Nat.toDigits 10 n.toNat := by
    rw [Nat.toString_eq_repr, Nat.toList_repr]
  refine readUInt32_eq_ok_iff.mpr ⟨_, ?_, fun c => isDigit_of_mem_repr, .inl rfl, ?_⟩
  · exact spelt ▸ Nat.toDigits_ne_nil
  · exact spelt ▸ Nat.ofDigitChars_toDigits (by omega) (by omega)

theorem trim_toString (n : Nat) : trim (toString n) = toString n :=
  trim_of_ink fun _ member => not_isBlank_of_isDigit (isDigit_of_mem_repr member)

theorem isBlankText_toString (n : Nat) : isBlankText (toString n) = false := by
  rw [isBlankText, List.all_eq_false, Nat.toString_eq_repr, Nat.toList_repr]
  obtain ⟨c, cs, spelt⟩ := List.exists_cons_of_ne_nil (Nat.toDigits_ne_nil (n := n) (b := 10))
  have member : c ∈ Nat.toDigits 10 n := by simp [spelt]
  have digit : c.isDigit := Nat.isDigit_of_mem_toDigits (by omega) (by omega) member
  exact ⟨c, member, by simp [not_isBlank_of_isDigit digit]⟩

theorem not_mem_of_mem_splitOn {separator : Char} {cs part : List Char}
    (member : part ∈ cs.splitOn separator) : separator ∉ part := by
  induction cs generalizing part with
  | nil => simp_all
  | cons c cs ih =>
    rw [List.splitOn_cons_eq_if_modifyHead] at member
    split at member
    · rcases List.mem_cons.mp member with first | later
      · simp [first]
      · exact ih later
    · next different =>
      obtain ⟨first, rest, parts⟩ := List.exists_cons_of_ne_nil (List.splitOn_ne_nil separator cs)
      rw [parts, List.modifyHead_cons] at member
      rcases List.mem_cons.mp member with same | later
      · have inner : separator ∉ first := ih (by simp [parts])
        have other : separator ≠ c := fun equal => different (by simp [equal])
        simp [same, inner, other]
      · exact ih (by simp [parts, later])

end Text

namespace Settings

theorem number_toString (v : Variable) (n : UInt32) : number v (toString n.toNat) = .ok n := by
  rw [number, Text.trim_toString, Text.readUInt32_toString]
  rfl

theorem truth_toString (v : Variable) (b : Bool) : truth v (toString b) = .ok b := by
  cases b <;> rfl

/-- A name as it stands in a list of types: trimmed, of at least one character, without a comma. -/
structure IsTypeName (t : String) : Prop where
  trimmed : Text.trim t = t
  ne_empty : t ≠ ""
  free : ',' ∉ t.toList

theorem mem_cleaned_iff {t : String} {texts : List String} :
    t ∈ cleaned texts ↔ (∃ text ∈ texts, Text.trim text = t) ∧ t ≠ "" := by
  simp [cleaned]

theorem cleaned_of_names {types : List String} (names : ∀ t ∈ types, IsTypeName t) :
    cleaned types = types := by
  have trimmed : types.map Text.trim = types :=
    (List.map_congr_left fun t member => (names t member).trimmed).trans types.map_id
  rw [cleaned, trimmed, List.filter_eq_self]
  intro t member
  simpa using (names t member).ne_empty

theorem isTypeName_of_split {s t : String} (member : t ∈ splitTypes s) : IsTypeName t := by
  obtain ⟨⟨text, part, rfl⟩, inhabited⟩ := mem_cleaned_iff.mp member
  obtain ⟨cs, found, rfl⟩ := List.mem_map.mp part
  refine ⟨Text.trim_trim _, inhabited, ?_⟩
  intro comma
  rw [Text.toList_trim, String.toList_ofList] at comma
  exact Text.not_mem_of_mem_splitOn found (Text.mem_of_mem_trimChars comma)

theorem splitTypes_of_blank {s : String} (blank : Text.isBlankText s) : splitTypes s = [] := by
  have free : ',' ∉ s.toList := fun member =>
    absurd (List.all_eq_true.mp blank ',' member) (by decide)
  rw [splitTypes, List.splitOn_eq_singleton free, List.map_singleton, String.ofList_toList, cleaned,
    List.map_singleton, Text.trim_of_blank blank]
  rfl

theorem splitTypes_intercalate {types : List String} (names : ∀ t ∈ types, IsTypeName t) :
    splitTypes (",".intercalate types) = types := by
  cases types with
  | nil => rfl
  | cons t ts =>
    have split : (",".intercalate (t :: ts)).toList.splitOn ',' =
        (t :: ts).map String.toList := by
      rw [String.toList_intercalate]
      apply List.splitOn_intercalate _ _ (by simp)
      intro piece member
      obtain ⟨name, given, rfl⟩ := List.mem_map.mp member
      exact (names name given).free
    have back : ((t :: ts).map String.toList).map String.ofList = t :: ts := by
      simp [Function.comp_def]
    rw [splitTypes, split, back, cleaned_of_names names]

theorem isBlankText_intercalate {types : List String} (names : ∀ t ∈ types, IsTypeName t)
    (given : types ≠ []) : Text.isBlankText (",".intercalate types) = false := by
  rw [← Bool.not_eq_true]
  intro blank
  have nothing := splitTypes_of_blank blank
  rw [splitTypes_intercalate names] at nothing
  exact given nothing

end Settings

end NodeScaling
