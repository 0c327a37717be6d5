import Mathlib.Data.List.Forall2
import Mathlib.Data.Nat.Digits.Defs
import NodeScaling.Proofs.SettingTexts
import NodeScaling.Settings.File

/-!
The counts of a settings file. A count is written in decimal without leading zeros, or in one of
three other radixes behind a mark, with an optional plus sign, and nothing else is read as one.
-/
namespace NodeScaling

namespace Text

def IsDigits (radix : Nat) (cs : List Char) (n : Nat) : Prop :=
  cs ≠ [] ∧ ∃ ds, List.Forall₂ (fun c d => digitValue? radix c = some d) cs ds ∧
    Nat.ofDigits radix ds.reverse = n

theorem exists_digits_of_cons {radix d : Nat} {c : Char} {cs : List Char} {ds : List Nat}
    (digit : digitValue? radix c = some d)
    (each : List.Forall₂ (fun c d => digitValue? radix c = some d) (c :: cs) ds) :
    ∃ rest, ds = d :: rest ∧ List.Forall₂ (fun c d => digitValue? radix c = some d) cs rest := by
  obtain ⟨d', rest, first, others, rfl⟩ := List.forall₂_cons_left_iff.mp each
  rw [digit, Option.some.injEq] at first
  exact ⟨rest, by rw [first], others⟩

theorem readDigits_eq_ok_iff {radix bound value n : Nat} {excess : IntegerFault} {cs : List Char}
    (positive : 0 < radix) (start : value ≤ bound) :
    readDigits radix bound excess value cs = .ok n ↔
      (∃ ds, List.Forall₂ (fun c d => digitValue? radix c = some d) cs ds ∧
        value * radix ^ ds.length + Nat.ofDigits radix ds.reverse = n) ∧ n ≤ bound := by
  induction cs generalizing value with
  | nil =>
    rw [readDigits, Except.ok.injEq]
    constructor
    · rintro rfl
      exact ⟨⟨[], .nil, by simp⟩, start⟩
    · rintro ⟨⟨ds, each, rfl⟩, -⟩
      cases each
      simp
  | cons c cs ih =>
    have shifted (d : Nat) (ds : List Nat) :
        value * radix ^ (d :: ds).length + Nat.ofDigits radix (d :: ds).reverse =
          (value * radix + d) * radix ^ ds.length + Nat.ofDigits radix ds.reverse := by
      rw [List.length_cons, List.reverse_cons, Nat.ofDigits_append, Nat.ofDigits_singleton,
        List.length_reverse]
      ring
    rw [readDigits]
    cases digit : digitValue? radix c with
    | none =>
      constructor
      · intro read
        cases read
      · rintro ⟨⟨ds, each, -⟩, -⟩
        cases each with
        | cons first rest =>
          rw [digit] at first
          cases first
    | some d =>
      dsimp only
      split
      · next within =>
        rw [ih within]
        constructor
        · rintro ⟨⟨ds, each, value⟩, fits⟩
          exact ⟨⟨d :: ds, .cons digit each, (shifted d ds).trans value⟩, fits⟩
        · rintro ⟨⟨_, each, value⟩, fits⟩
          obtain ⟨ds, rfl, rest⟩ := exists_digits_of_cons digit each
          exact ⟨⟨ds, rest, (shifted d ds).symm.trans value⟩, fits⟩
      · next beyond =>
        constructor
        · intro read
          cases read
        · rintro ⟨⟨_, each, whole⟩, fits⟩
          obtain ⟨ds, rfl, -⟩ := exists_digits_of_cons digit each
          -- the value only grows with the digits behind
          have grows : value * radix + d ≤ (value * radix + d) * radix ^ ds.length :=
            Nat.le_mul_of_pos_right _ (Nat.pow_pos positive)
          rw [shifted] at whole
          omega

theorem IsDigits.unsigned {radix n : Nat} {cs : List Char} (digits : IsDigits radix cs n) :
    cs.head? ≠ some '+' ∧ cs.head? ≠ some '-' := by
  obtain ⟨given, ds, each, -⟩ := digits
  have sign {c : Char} (signed : c = '+' ∨ c = '-') : digitValue? radix c = none := by
    rcases signed with rfl | rfl <;> simp [digitValue?]
  cases each with
  | nil => exact absurd rfl given
  | @cons c d _ _ first rest =>
    constructor
    · intro head
      rw [sign (.inl (Option.some.inj head))] at first
      cases first
    · intro head
      rw [sign (.inr (Option.some.inj head))] at first
      cases first

end Text

namespace Settings
open Text (IsDigits)
variable {cs : List Char} {n : Nat}

/-- An unsigned integer: an optional plus sign, and digits behind the mark of a radix or decimal ones
without leading zeros. -/
def IsCount (cs : List Char) (n : Nat) : Prop :=
  ∃ body, (cs = body ∨ cs = '+' :: body) ∧
    ((∃ mark radix digits, (mark, radix) ∈ radixMarks ∧ body = mark ++ digits ∧
        IsDigits radix digits n) ∨
      IsDigits 10 body n ∧ (body.head? = some '0' → body = ['0']))

theorem readWord?_eq_some_iff {radix : Nat} (positive : 0 < radix) :
    readWord? radix cs = some n ↔ IsDigits radix cs n ∧ n < UInt64.size := by
  rw [readWord?]
  cases signed : isSigned cs with
  | true =>
    refine ⟨nofun, ?_⟩
    rintro ⟨digits, -⟩
    obtain ⟨noPlus, noMinus⟩ := digits.unsigned
    simp [isSigned, noPlus, noMinus] at signed
  | false =>
    cases cs with
    | nil => exact ⟨nofun, fun both => absurd rfl both.1.1⟩
    | cons c cs =>
      have unsigned : c ≠ '+' := by
        rintro rfl
        cases signed
      have within : n ≤ UInt64.size - 1 ↔ n < UInt64.size := by
        simp only [UInt64.size]
        omega
      have ok : (Text.readDigits radix (UInt64.size - 1) .tooLarge 0 (c :: cs)).toOption = some n ↔
          Text.readDigits radix (UInt64.size - 1) .tooLarge 0 (c :: cs) = .ok n := by
        cases Text.readDigits radix (UInt64.size - 1) .tooLarge 0 (c :: cs) <;> simp [Except.toOption]
      rw [if_neg nofun, Text.readNatural_unsigned radix _ cs unsigned, ok,
        Text.readDigits_eq_ok_iff positive (Nat.zero_le _), within, IsDigits]
      simp only [Nat.zero_mul, Nat.zero_add, ne_eq, List.cons_ne_nil, not_false_eq_true, true_and]

theorem radixMark_cases {mark : List Char} {radix : Nat} (listed : (mark, radix) ∈ radixMarks) :
    mark = ['0', 'x'] ∧ radix = 16 ∨ mark = ['0', 'o'] ∧ radix = 8 ∨
      mark = ['0', 'b'] ∧ radix = 2 := by
  simpa [radixMarks] using listed

theorem radix_pos {mark : List Char} {radix : Nat} (listed : (mark, radix) ∈ radixMarks) :
    0 < radix := by
  have marks := radixMark_cases listed
  omega

/-- A marked number is not one in decimal, as no mark is made of decimal digits. -/
theorem not_isDigits_of_marked {mark digits : List Char} {radix : Nat}
    (listed : (mark, radix) ∈ radixMarks) : ¬ IsDigits 10 (mark ++ digits) n := by
  rintro ⟨-, ds, each, -⟩
  rcases radixMark_cases listed with ⟨rfl, -⟩ | ⟨rfl, -⟩ | ⟨rfl, -⟩ <;>
    · obtain _ | ⟨-, _ | ⟨letter, -⟩⟩ := each
      simp [Text.digitValue?] at letter

def readMarked? (digits : List Char) : Option Nat :=
  radixMarks.findSome? fun (mark, radix) =>
    if mark.isPrefixOf digits then readWord? radix (digits.drop mark.length) else none

theorem readMarked?_eq_some_iff {body : List Char} : readMarked? body = some n ↔
    (∃ mark radix digits, (mark, radix) ∈ radixMarks ∧ body = mark ++ digits ∧
      IsDigits radix digits n) ∧ n < UInt64.size := by
  constructor
  · intro read
    obtain ⟨⟨mark, radix⟩, listed, read⟩ := List.exists_of_findSome?_eq_some read
    dsimp only at read
    split at read
    · next marked =>
      obtain ⟨digits, rfl⟩ := List.isPrefixOf_iff_prefix.mp marked
      rw [List.drop_left, readWord?_eq_some_iff (radix_pos listed)] at read
      exact ⟨⟨mark, radix, digits, listed, rfl, read.1⟩, read.2⟩
    · cases read
  · rintro ⟨⟨mark, radix, digits, listed, rfl, isDigits⟩, fits⟩
    have read : readWord? radix digits = some n :=
      (readWord?_eq_some_iff (radix_pos listed)).mpr ⟨isDigits, fits⟩
    -- no mark starts with another
    rcases radixMark_cases listed with ⟨rfl, rfl⟩ | ⟨rfl, rfl⟩ | ⟨rfl, rfl⟩ <;>
      simp [readMarked?, radixMarks, read]

theorem isDigit_of_isDigits (digits : IsDigits 10 cs n) : ∀ c ∈ cs, c.isDigit := by
  obtain ⟨-, ds, each, -⟩ := digits
  induction each with
  | nil => nofun
  | cons first _ ih => exact List.forall_mem_cons.mpr ⟨(Text.isDigit_of_digitValue? first).1, ih⟩

theorem hasLeadingZero_iff (digits : IsDigits 10 cs n) :
    hasLeadingZero cs = true ↔ ¬ (cs.head? = some '0' → cs = ['0']) := by
  unfold hasLeadingZero
  split
  · have all := isDigit_of_isDigits digits
    simpa [List.all_eq_true] using all
  · next other =>
    refine ⟨nofun, fun leading => absurd ?_ leading⟩
    intro zero
    obtain ⟨rest, rfl⟩ := List.head?_eq_some_iff.mp zero
    cases rest with
    | nil => rfl
    | cons d ds => exact absurd rfl (other d ds)

def unsigned (cs : List Char) : List Char :=
  if cs.head? = some '+' then cs.tail else cs

theorem unsigned_spec (cs : List Char) : cs = unsigned cs ∨ cs = '+' :: unsigned cs := by
  rw [unsigned]
  split
  · next plus =>
    obtain ⟨rest, rfl⟩ := List.head?_eq_some_iff.mp plus
    exact .inr rfl
  · exact .inl rfl

theorem unsigned_eq {body : List Char} (signed : cs = body ∨ cs = '+' :: body)
    (plain : body.head? ≠ some '+') : unsigned cs = body := by
  rcases signed with rfl | rfl
  · exact if_neg plain
  · exact if_pos rfl

theorem withoutSign_eq {body : List Char} (signed : cs = body ∨ cs = '+' :: body)
    (digits : IsDigits 10 body n) : withoutSign cs = body := by
  obtain ⟨noPlus, noMinus⟩ := digits.unsigned
  rcases signed with rfl | rfl
  · rw [withoutSign, isSigned, if_neg (by simp [noPlus, noMinus])]
  · rfl

theorem readCount?_eq (cs : List Char) : readCount? cs =
    (readMarked? (unsigned cs)).or
      (if hasLeadingZero (withoutSign cs) then none else readWord? 10 (unsigned cs)) := by
  have digits : (if cs.head? = some '+' then cs.tail else cs) = unsigned cs := rfl
  rw [readCount?, digits]
  split
  · next n marked => rw [readMarked?, marked, Option.some_or]
  · next unmarked => rw [readMarked?, unmarked, Option.none_or]

theorem readCount?_eq_some_iff : readCount? cs = some n ↔ IsCount cs n ∧ n < UInt64.size := by
  rw [readCount?_eq, Option.or_eq_some_iff, readMarked?_eq_some_iff]
  constructor
  · rintro (⟨marked, fits⟩ | ⟨-, read⟩)
    · exact ⟨⟨unsigned cs, unsigned_spec cs, .inl marked⟩, fits⟩
    · split at read
      · cases read
      · next leading =>
        obtain ⟨digits, fits⟩ := (readWord?_eq_some_iff (by decide)).mp read
        rw [withoutSign_eq (unsigned_spec cs) digits, hasLeadingZero_iff digits,
          Classical.not_not] at leading
        exact ⟨⟨unsigned cs, unsigned_spec cs, .inr ⟨digits, leading⟩⟩, fits⟩
  · rintro ⟨⟨body, signed, marked | ⟨digits, leading⟩⟩, fits⟩
    · have plain : body.head? ≠ some '+' := by
        obtain ⟨mark, radix, digits, listed, rfl, -⟩ := marked
        rcases radixMark_cases listed with ⟨rfl, -⟩ | ⟨rfl, -⟩ | ⟨rfl, -⟩ <;> simp
      rw [unsigned_eq signed plain]
      exact .inl ⟨marked, fits⟩
    · have same := unsigned_eq signed digits.unsigned.1
      rw [← same] at digits leading
      have unmarked : readMarked? (unsigned cs) = none := by
        refine Option.eq_none_iff_forall_ne_some.mpr fun m marked => ?_
        obtain ⟨⟨mark, radix, rest, listed, split, -⟩, -⟩ := readMarked?_eq_some_iff.mp marked
        rw [split] at digits
        exact not_isDigits_of_marked listed digits
      have decimal : ¬ hasLeadingZero (withoutSign cs) = true := by
        rw [withoutSign_eq (unsigned_spec cs) digits, hasLeadingZero_iff digits, Classical.not_not]
        exact leading
      rw [if_neg decimal]
      exact .inr ⟨unmarked, (readWord?_eq_some_iff (by decide)).mpr ⟨digits, fits⟩⟩

end Settings

end NodeScaling
