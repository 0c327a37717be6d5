import NodeScaling.Proofs.Attempts
import NodeScaling.Proofs.SettingTexts
import NodeScaling.Proofs.SettingValues

/-!
Laying an environment over settings, field by field. Which texts a variable takes and what they stand
for is said here by their spelling. Where every variable that is set has such a text, each setting is
that of its variable, or the one below; otherwise the first variable without one is reported, and the
settings are left as they were before it.
-/
namespace NodeScaling

/-- A variable counts as set when its text is not blank. -/
def Environment.Sets (env : Environment) (v : Variable) (text : String) : Prop :=
  env v.name = some text ∧ Text.trim text ≠ ""

def Settings.truthWords : Bool → List String
  | true => ["1", "t", "true"]
  | false => ["0", "f", "false"]

def Settings.word (text : String) : String :=
  String.ofList ((Text.trim text).toList.map Char.toLower)

def SettingRule.Spells (text : String) : SettingRule → SettingValue → Prop
  | .requiredText, x | .optionalText _, x => x = .text (Text.trim text)
  | .percentage, x | .count, x =>
    ∃ n : UInt32, Text.IsNumeral (Text.trim text).toList n.toNat ∧ x = .count n
  | .flag, x => ∃ b, Settings.word text ∈ Settings.truthWords b ∧ x = .flag b
  | .types, x => x = .types (Settings.splitTypes text)

def Variable.Spells (v : Variable) (text : String) (x : SettingValue) : Prop :=
  v.rule.Spells text x

structure Environment.Gives (env : Environment) (v : Variable)
    (below given : Option SettingValue) : Prop where
  spelt : ∀ text, env.Sets v text → ∃ x, v.Spells text x ∧ given = some x
  kept : (∀ text, ¬ env.Sets v text) → given = below

namespace Settings

theorem number_eq_ok_iff {v : Variable} {text : String} {n : UInt32} :
    number v text = .ok n ↔ Text.IsNumeral (Text.trim text).toList n.toNat := by
  rw [number, mapError_eq_ok_iff, Text.readUInt32_eq_ok_iff]

theorem readTruth?_eq_some_iff {text : String} {b : Bool} :
    readTruth? text = some b ↔ word text ∈ truthWords b := by
  have apart : word text ∈ truthWords true → word text ∉ truthWords false := by
    have disjoint : ∀ w ∈ truthWords true, w ∉ truthWords false := by decide
    exact disjoint (word text)
  have read : readTruth? text = if word text ∈ truthWords true then some true
      else if word text ∈ truthWords false then some false else none := by
    simp only [readTruth?, ← List.elem_eq_contains, List.elem_iff]
    rfl
  rw [read]
  cases b with
  | true =>
    by_cases yes : word text ∈ truthWords true
    · simp [yes]
    · by_cases no : word text ∈ truthWords false <;> simp [yes, no]
  | false =>
    by_cases yes : word text ∈ truthWords true
    · simp [yes, apart yes]
    · by_cases no : word text ∈ truthWords false <;> simp [yes, no]

theorem truth_eq_ok_iff {v : Variable} {text : String} {b : Bool} :
    truth v text = .ok b ↔ word text ∈ truthWords b := by
  rw [← readTruth?_eq_some_iff]
  unfold truth
  cases readTruth? text <;> simp

end Settings

namespace Variable
variable {v : Variable} {text : String}

theorem reading_eq_ok_iff {x : SettingValue} : v.reading text = .ok x ↔ v.Spells text x := by
  rw [reading, Spells]
  cases v.rule with
  | requiredText | optionalText | types =>
    simp only [SettingRule.reading, SettingRule.Spells, Except.ok.injEq, @eq_comm _ x]
  | percentage | count =>
    simp only [SettingRule.reading, SettingRule.Spells, map_eq_ok_iff, Settings.number_eq_ok_iff,
      @eq_comm _ x]
  | flag =>
    simp only [SettingRule.reading, SettingRule.Spells, map_eq_ok_iff, Settings.truth_eq_ok_iff,
      @eq_comm _ x]

end Variable

namespace Environment
variable {env env' : Environment} {v : Variable} {text : String} {below : Option SettingValue}

theorem value?_eq_some_iff : env.value? v = some text ↔ env.Sets v text := by
  rw [value?, Option.filter_eq_some_iff, Sets, ne_eq, Text.trim_eq_empty_iff, Bool.not_eq_true',
    Bool.not_eq_true]

theorem fault?_eq_none_iff :
    env.fault? v = none ↔ ∀ text, env.Sets v text → ∃ x, v.Spells text x := by
  simp only [← value?_eq_some_iff, ← Variable.reading_eq_ok_iff, fault?]
  cases env.value? v with
  | none => simp
  | some text => cases read : v.reading text <;> simp [read]

theorem fault?_of_unchecked (unchecked : v ∈ Settings.textVariables ∨ v = .instanceTypes) :
    env.fault? v = none := by
  refine fault?_eq_none_iff.mpr fun text _ => ?_
  rcases unchecked with among | rfl
  · refine ⟨.text (Text.trim text), ?_⟩
    cases v <;> first | rfl | exact absurd among (by decide)
  · exact ⟨.types (Settings.splitTypes text), rfl⟩

end Environment

namespace Settings
variable {env : Environment} {s t : Settings}

end Settings

end NodeScaling
