import NodeScaling.Proofs.FieldwiseOverlay
import NodeScaling.Proofs.NormalForm
import NodeScaling.Proofs.ValidSettings

/-!
The same text from a file and from the environment. Either source is refused where the other is, but
a text from a file stays as it is, while one from the environment is trimmed, and a blank one leaves
the default. So the sources agree on the texts that trimming leaves alone, the empty one apart.
-/
namespace NodeScaling

namespace Decided
variable {ε α β : Type} {conditions before after before' after' : List (Prop × ε)} {p p' : Prop}
  {e e' : ε} {x : Except ε α} {y : Except ε β}

theorem first_unique (same : before ++ (p, e) :: after = before' ++ (p', e') :: after')
    (hold : ∀ c ∈ before, c.1) (fails : ¬ p) (hold' : ∀ c ∈ before', c.1) (fails' : ¬ p') :
    e = e' := by
  induction before generalizing before' with
  | nil =>
    cases before' with
    | nil => exact congrArg Prod.snd (List.cons.inj same).1
    | cons c rest =>
      obtain ⟨rfl, -⟩ := List.cons.inj same
      exact absurd (hold' _ List.mem_cons_self) fails
  | cons c rest ih =>
    cases before' with
    | nil =>
      obtain ⟨rfl, -⟩ := List.cons.inj same
      exact absurd (hold _ List.mem_cons_self) fails'
    | cons c' rest' =>
      exact ih (List.cons.inj same).2 (fun c later => hold c (List.mem_cons_of_mem _ later))
        fun c later => hold' c (List.mem_cons_of_mem _ later)

theorem error_of_error (decided : Decided conditions (.error e : Except ε α))
    (decided' : Decided conditions y) : y = .error e := by
  obtain ⟨before, p, after, split, hold, fails⟩ := decided
  cases y with
  | ok b =>
    have all : ∀ c ∈ conditions, c.1 := decided'
    rw [split] at all
    exact absurd (all (p, e) (by simp)) fails
  | error e' =>
    obtain ⟨before', p', after', split', hold', fails'⟩ := decided'
    rw [first_unique (split.symm.trans split') hold fails hold' fails']

theorem error_iff (decided : Decided conditions x) (decided' : Decided conditions y) :
    x = .error e ↔ y = .error e := by
  constructor
  · rintro rfl
    exact error_of_error decided decided'
  · rintro rfl
    exact error_of_error decided' decided

end Decided

def Environment.only (v : Variable) (text : String) : Environment := fun name =>
  if name = v.name then some text else none

def Environment.empty : Environment := fun _ => none

def SettingRule.textFrom (text : String) : SettingRule → String
  | .optionalText default => if Text.isBlankText text then default else Text.trim text
  | _ => Text.trim text

namespace Settings
variable {s : Settings} {v : Variable} {text : String} {given given' : Option String}

def withText (s : Settings) (v : Variable) (given : Option String) : Settings :=
  match v with
  | .groupId => { s with groupId := given }
  | .region => { s with region := given }
  | .apiKey => { s with apiKey := given }
  | .displayName => { s with displayName := given }
  | .osFamily => { s with osFamily := given }
  | .apiEndpoint => { s with apiEndpoint := given }
  | .clusterStateEndpoint => { s with clusterStateEndpoint := given }
  | _ => s

def fromFile (s : Settings) (v : Variable) (text : String) : Except ConfigError Config := do
  (← (s.withText v (some text)).overlaid .empty).resolve

def fromEnvironment (s : Settings) (v : Variable) (text : String) : Except ConfigError Config := do
  (← (s.withText v none).overlaid (.only v text)).resolve

theorem withText_value? (isText : v ∈ textVariables) (given : Option String) (u : Variable) :
    (s.withText v given).value? u = if u = v then given.map .text else s.value? u := by
  cases v <;> first | cases u <;> rfl | exact absurd isText (by decide)

theorem withText_conditions (alike : IsGiven given ↔ IsGiven given') :
    (s.withText v given).conditions = (s.withText v given').conditions := by
  have same : IsGiven given = IsGiven given' := propext alike
  cases v <;> simp only [withText, conditions, same]

theorem overlaid_empty (s : Settings) : overlaid .empty s = .ok s := by
  have accepted : ∀ v, Environment.empty.fault? v = none := fun _ => rfl
  obtain ⟨t, done⟩ := overlaid_of_no_fault accepted s
  have same : t = s := eq_of_values fun u => overlaid_values done u
  rw [done, same]

def trimmed? (text : String) : Option String :=
  if Text.isBlankText text then none else some (Text.trim text)

theorem only_value? (u : Variable) : (Environment.only v text).value? u =
    if u = v then (if Text.isBlankText text then none else some text) else none := by
  rw [Environment.value?, Environment.only]
  by_cases same : u = v
  · subst same
    cases blank : Text.isBlankText text <;> simp [Option.filter, blank]
  · have apart : u.name ≠ v.name := by
      intro names
      have read := Variable.ofName?_name u
      rw [names, Variable.ofName?_name] at read
      exact same (Option.some.inj read).symm
    rw [if_neg apart, if_neg same]
    rfl

theorem rule_of_text (isText : v ∈ textVariables) :
    v.rule = .requiredText ∨ ∃ default, v.rule = .optionalText default := by
  cases v <;> first | exact .inl rfl | exact .inr ⟨_, rfl⟩ | exact absurd isText (by decide)

theorem reading_of_text (isText : v ∈ textVariables) (text : String) :
    v.reading text = .ok (.text (Text.trim text)) := by
  rcases rule_of_text isText with rule | ⟨default, rule⟩ <;>
    rw [Variable.reading, rule, SettingRule.reading]

theorem overlaid_only (isText : v ∈ textVariables) :
    overlaid (.only v text) (s.withText v none) = .ok (s.withText v (trimmed? text)) := by
  have accepted (u : Variable) : (Environment.only v text).fault? u = none := by
    by_cases same : u = v
    · exact Environment.fault?_of_unchecked (.inl (same ▸ isText))
    · rw [Environment.fault?, only_value?, if_neg same]
      rfl
  obtain ⟨t, done⟩ := overlaid_of_no_fault accepted (s.withText v none)
  have same : t = s.withText v (trimmed? text) := by
    refine eq_of_values fun u => ?_
    rw [overlaid_values done u, Environment.laid, only_value?, withText_value? isText,
      withText_value? isText, trimmed?]
    by_cases same : u = v
    · subst same
      rw [if_pos rfl, if_pos rfl, if_pos rfl]
      cases Text.isBlankText text <;> simp [reading_of_text isText, Except.toOption]
    · rw [if_neg same, if_neg same, if_neg same]
      rfl
  rw [done, same]

theorem isGiven_trimmed?_iff : IsGiven (some text) ↔ IsGiven (trimmed? text) := by
  simp only [IsGiven, trimmed?, ← Text.trim_eq_empty_iff]
  by_cases blank : Text.trim text = "" <;> simp [blank, Text.trim_trim]

theorem fromFile_eq (s : Settings) (v : Variable) (text : String) :
    s.fromFile v text = (s.withText v (some text)).resolve := by
  rw [fromFile, overlaid_empty]
  rfl

theorem fromEnvironment_eq (isText : v ∈ textVariables) :
    s.fromEnvironment v text = (s.withText v (trimmed? text)).resolve := by
  rw [fromEnvironment, overlaid_only isText]
  rfl

theorem error_alike (isText : v ∈ textVariables) (e : ConfigError) :
    s.fromFile v text = .error e ↔ s.fromEnvironment v text = .error e := by
  rw [fromFile_eq, fromEnvironment_eq isText]
  have decided := (s.withText v (some text)).resolve_decided
  rw [withText_conditions isGiven_trimmed?_iff] at decided
  exact Decided.error_iff decided (resolve_decided _)

section Values
variable {c : Config} (isText : v ∈ textVariables)
include isText

theorem other_value_of_resolve (ok : (s.withText v given).resolve = .ok c) {u : Variable}
    (other : u ≠ v) : u.rule.settle (s.value? u) = some (c.value u) := by
  have settled := resolve_values ok u
  rwa [withText_value? isText, if_neg other] at settled

theorem value_of_fromFile (ok : s.fromFile v text = .ok c) :
    c.value v = .text text ∧ (v.rule = .requiredText → Text.isBlankText text = false) := by
  rw [fromFile_eq] at ok
  have settled := resolve_values ok v
  rw [withText_value? isText, if_pos rfl, Option.map_some] at settled
  rcases rule_of_text isText with rule | ⟨default, rule⟩
  · rw [rule, SettingRule.settle] at settled
    split at settled
    · cases settled
    · next ink => exact ⟨(Option.some.inj settled).symm, fun _ => by simpa using ink⟩
  · rw [rule, SettingRule.settle] at settled
    refine ⟨(Option.some.inj settled).symm, fun required => ?_⟩
    rw [rule] at required
    cases required

theorem value_of_fromEnvironment (ok : s.fromEnvironment v text = .ok c) :
    c.value v = .text (v.rule.textFrom text) := by
  rw [fromEnvironment_eq isText] at ok
  have settled := resolve_values ok v
  rw [withText_value? isText, if_pos rfl, trimmed?] at settled
  rcases rule_of_text isText with rule | ⟨default, rule⟩
  · rw [rule] at settled ⊢
    cases blank : Text.isBlankText text with
    | true =>
      rw [blank] at settled
      cases settled
    | false =>
      have kept : SettingRule.requiredText.settle (some (.text (Text.trim text))) =
          some (.text (Text.trim text)) := by
        rw [SettingRule.settle, if_neg (by simp [Text.isBlankText_trim blank])]
      rw [blank] at settled
      exact (Option.some.inj (kept.symm.trans settled)).symm
  · rw [rule] at settled ⊢
    rw [SettingRule.textFrom]
    cases blank : Text.isBlankText text <;> rw [blank] at settled <;>
      exact (Option.some.inj settled).symm

theorem textFrom_eq_iff (ink : v.rule = .requiredText → Text.isBlankText text = false) :
    v.rule.textFrom text = text ↔
      Text.trim text = text ∧ (text = "" → v.rule = .optionalText "") := by
  cases blank : Text.isBlankText text with
  | false =>
    have given : text ≠ "" := by
      rintro rfl
      cases blank
    have trimmed : v.rule.textFrom text = Text.trim text := by
      rcases rule_of_text isText with rule | ⟨default, rule⟩ <;> simp [rule, SettingRule.textFrom, blank]
    rw [trimmed]
    exact ⟨fun same => ⟨same, fun none => absurd none given⟩, fun same => same.1⟩
  | true =>
    rcases rule_of_text isText with rule | ⟨default, rule⟩
    · rw [ink rule] at blank
      cases blank
    · rw [rule, SettingRule.textFrom, if_pos blank, Text.trim_of_blank blank]
      constructor
      · rintro rfl
        rcases Variable.default_trimmed rule with rfl | ⟨-, ink⟩
        · exact ⟨rfl, fun _ => rfl⟩
        · rw [ink] at blank
          cases blank
      · rintro ⟨rfl, same⟩
        exact SettingRule.optionalText.inj (same rfl)

end Values

/-- A text of a setting from a file is refused where the same text from the environment is. In the
configuration it stays as it is, while the variable is trimmed and a blank one leaves the default. -/
theorem text_sources_compared (s : Settings) {v : Variable} (isText : v ∈ textVariables)
    (text : String) :
    (∀ e, s.fromFile v text = .error e ↔ s.fromEnvironment v text = .error e) ∧
    (∀ c c', s.fromFile v text = .ok c → s.fromEnvironment v text = .ok c' →
      c.value v = .text text ∧ c'.value v = .text (v.rule.textFrom text) ∧
        ∀ u, u ≠ v → c.value u = c'.value u) ∧
    (s.fromFile v text = s.fromEnvironment v text ↔ (∃ e, s.fromFile v text = .error e) ∨
      Text.trim text = text ∧ (text = "" → v.rule = .optionalText "")) := by
  have others {c c' : Config} (ok : s.fromFile v text = .ok c)
      (ok' : s.fromEnvironment v text = .ok c') {u : Variable} (other : u ≠ v) :
      c.value u = c'.value u := by
    rw [fromFile_eq] at ok
    rw [fromEnvironment_eq isText] at ok'
    have settled := other_value_of_resolve isText ok other
    rw [other_value_of_resolve isText ok' other] at settled
    exact (Option.some.inj settled).symm
  refine ⟨fun e => error_alike isText e, fun c c' ok ok' => ?_, ?_⟩
  · exact ⟨(value_of_fromFile isText ok).1, value_of_fromEnvironment isText ok',
      fun u => others ok ok'⟩
  · -- both are refused, or both give configurations that can differ in the one value only
    cases ok : s.fromFile v text with
    | error e =>
      have refused := (error_alike isText e).mp ok
      rw [refused]
      exact ⟨fun _ => .inl ⟨e, rfl⟩, fun _ => rfl⟩
    | ok c =>
      obtain ⟨here, ink⟩ := value_of_fromFile isText ok
      cases ok' : s.fromEnvironment v text with
      | error e =>
        rw [(error_alike isText e).mpr ok'] at ok
        cases ok
      | ok c' =>
        have there := value_of_fromEnvironment isText ok'
        have same : c = c' ↔ v.rule.textFrom text = text := by
          constructor
          · rintro rfl
            rw [here] at there
            exact (SettingValue.text.inj there).symm
          · intro agree
            refine Config.eq_of_values fun u => ?_
            by_cases other : u = v
            · rw [other, here, there, agree]
            · exact others ok ok' other
        rw [Except.ok.injEq, same, textFrom_eq_iff isText ink]
        simp

theorem padded_region_compared :
    let s : Settings := { groupId := some "workers", apiKey := some "key",
                          instanceTypes := some ["c3.xlarge"] }
    Variable.region ∈ textVariables ∧
      ∃ c c', s.fromFile .region " eu\t" = .ok c ∧ s.fromEnvironment .region " eu\t" = .ok c' ∧
        c.region = " eu\t" ∧ c'.region = "eu" ∧ c.apiEndpoint = c'.apiEndpoint := by
  intro s
  have isText : Variable.region ∈ textVariables := by decide
  obtain ⟨c, ok⟩ : ∃ c, s.fromFile .region " eu\t" = .ok c := ⟨_, rfl⟩
  obtain ⟨c', ok'⟩ : ∃ c, s.fromEnvironment .region " eu\t" = .ok c := ⟨_, rfl⟩
  obtain ⟨-, values, -⟩ := text_sources_compared s isText " eu\t"
  obtain ⟨here, there, others⟩ := values c c' ok ok'
  exact ⟨isText, c, c', ok, ok', SettingValue.text.inj here, SettingValue.text.inj there,
    SettingValue.text.inj (others .apiEndpoint nofun)⟩

/-- An endpoint that the file leaves blank is empty, where a blank variable leaves the default. -/
theorem blank_endpoint_told_apart : ¬ ∀ (s : Settings) (v : Variable) (text : String),
    v ∈ textVariables → s.fromFile v text = s.fromEnvironment v text := by
  intro agree
  let s : Settings := { groupId := some "workers", region := some "eu", apiKey := some "key",
                        instanceTypes := some ["c3.xlarge"] }
  have same := congrArg (fun outcome => outcome.toOption.map Config.apiEndpoint)
    (agree s .apiEndpoint "" (by decide))
  revert same
  decide +kernel

end Settings

end NodeScaling
