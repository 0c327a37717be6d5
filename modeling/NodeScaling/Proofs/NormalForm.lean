import NodeScaling.Proofs.Attempts
import NodeScaling.Proofs.SettingTexts
import NodeScaling.Proofs.SettingValues
import NodeScaling.Settings.File

/-!
The normal form of an environment. A configuration can be written back to the variables it comes
from. Each variable then has the text that its own rule reads as the value of its setting, or none
where the value is the empty default, so that the environment made of the texts leads to the same
configuration, and over any settings to one that has all of its values that are written out.
-/
namespace NodeScaling

def SettingValue.rendered : SettingValue → String
  | text t => t
  | count n => toString n.toNat
  | flag b => toString b
  | types ts => ",".intercalate ts

namespace Variable

def ofName? (name : String) : Option Variable :=
  [groupId, region, apiKey, displayName, maxSpotPercentTotal, maxSpotPercentOneMarket,
    detailedMonitoring, maxHoursInstanceAge, instanceTypes, targetCapacityVcpus,
    targetCapacityInstances, targetSpareCpuPercent, targetSpareMemoryPercent, osFamily, apiEndpoint,
    clusterStateEndpoint].find? fun v => v.name = name

theorem ofName?_name (v : Variable) : ofName? v.name = some v := by
  cases v <;> decide

end Variable

/-- The environment that holds a configuration in the variables of its settings. Its other variables
are taken from elsewhere. -/
def Config.rendering (c : Config) (others : Environment) : Environment := fun name =>
  match Variable.ofName? name with
  | some v => some (c.value v).rendered
  | none => others name

theorem Config.rendering_name (c : Config) (others : Environment) (v : Variable) :
    c.rendering others v.name = some (c.value v).rendered := by
  rw [rendering, Variable.ofName?_name]

/-- A value that its variable gives back: either the empty default, whose text counts as not set, or
one whose text is read as it and that the rule leaves as it is. -/
inductive SettingRule.Normal (v : Variable) (rule : SettingRule) : SettingValue → Prop where
  | blank (default : rule = .optionalText "") : Normal v rule (.text "")
  | written {x : SettingValue} (ink : Text.isBlankText x.rendered = false)
      (read : rule.reading v x.rendered = .ok x) (kept : rule.settle (some x) = some x) :
      Normal v rule x

def Variable.Normal (v : Variable) (x : SettingValue) : Prop :=
  v.rule.Normal v x

theorem Environment.laid_over_nothing {env : Environment} {v : Variable}
    (accepted : env.fault? v = none) : env.laid v none = none ∨
      ∃ text x, Text.isBlankText text = false ∧ v.reading text = .ok x ∧
        env.laid v none = some x := by
  rw [laid]
  rw [fault?] at accepted
  cases set : env.value? v with
  | none => exact .inl rfl
  | some text =>
    cases read : v.reading text with
    | error e => simp [set, read] at accepted
    | ok x => exact .inr ⟨text, x, ink_of_value set, read, by simp [read, Except.toOption]⟩

section Rules
variable {v : Variable} {rule : SettingRule}

theorem Variable.default_trimmed {default : String} (rule : v.rule = .optionalText default) :
    default = "" ∨ Text.trim default = default ∧ Text.isBlankText default = false := by
  have spelt : default = "" ∨ default = Settings.defaultApiEndpoint ∨
      default = Settings.defaultClusterStateEndpoint := by
    cases v <;> simp_all [Variable.rule, eq_comm]
  rcases spelt with empty | endpoint | endpoint
  · exact .inl empty
  · exact .inr (by rw [endpoint]; decide +kernel)
  · exact .inr (by rw [endpoint]; decide +kernel)

namespace SettingRule

theorem normal_text {t : String} (trimmed : Text.trim t = t) (ink : Text.isBlankText t = false)
    (reads : rule.reading v t = .ok (.text (Text.trim t)))
    (kept : rule.settle (some (.text t)) = some (.text t)) : rule.Normal v (.text t) := by
  rw [trimmed] at reads
  exact .written ink reads kept

theorem normal_count {n : UInt32}
    (reads : ∀ text, rule.reading v text = (Settings.number v text).map .count)
    (kept : rule.settle (some (.count n)) = some (.count n)) : rule.Normal v (.count n) := by
  have read : rule.reading v (toString n.toNat) = .ok (.count n) := by
    rw [reads, Settings.number_toString]
    rfl
  exact .written (Text.isBlankText_toString n.toNat) read kept

theorem normal_flag (v : Variable) (b : Bool) : SettingRule.flag.Normal v (.flag b) := by
  have ink : Text.isBlankText (toString b) = false := by cases b <;> decide
  have reads : SettingRule.flag.reading v (toString b) = .ok (.flag b) := by
    rw [reading, Settings.truth_toString]
    rfl
  exact .written ink reads rfl

theorem normal_types (v : Variable) {types : List String}
    (names : ∀ t ∈ types, Settings.IsTypeName t) (given : types ≠ []) :
    SettingRule.types.Normal v (.types types) := by
  have reads : SettingRule.types.reading v (",".intercalate types) = .ok (.types types) := by
    rw [reading, Settings.splitTypes_intercalate names]
  have kept : SettingRule.types.settle (some (.types types)) = some (.types types) := by
    rw [settle, Settings.cleaned_of_names names]
    simp [given]
  exact .written (Settings.isBlankText_intercalate names given) reads kept

theorem percentage_kept {n : UInt32} {x : SettingValue}
    (settled : percentage.settle (some (.count n)) = some x) : x = .count n := by
  simp only [settle, Option.getD_some] at settled
  split at settled
  · cases settled
  · exact (Option.some.inj settled).symm

theorem normal_of_default {x : SettingValue} (settled : rule.settle none = some x)
    (trimmed : ∀ default, rule = .optionalText default →
      default = "" ∨ Text.trim default = default ∧ Text.isBlankText default = false) :
    rule.Normal v x := by
  cases rule with
  | requiredText | types => cases settled
  | optionalText default =>
    cases settled
    rcases trimmed default rfl with rfl | ⟨trimmed, ink⟩
    · exact .blank rfl
    · exact normal_text trimmed ink rfl rfl
  | percentage | count =>
    cases settled
    exact normal_count (fun _ => rfl) rfl
  | flag =>
    cases settled
    exact normal_flag v false

theorem normal_of_read {text : String} {y x : SettingValue} (ink : Text.isBlankText text = false)
    (read : rule.reading v text = .ok y) (settled : rule.settle (some y) = some x) :
    rule.Normal v x := by
  have inked := Text.isBlankText_trim ink
  cases rule with
  | requiredText =>
    have kept : requiredText.settle (some (.text (Text.trim text))) =
        some (.text (Text.trim text)) := by simp [settle, inked]
    cases read
    rw [kept] at settled
    cases settled
    exact normal_text (Text.trim_trim text) inked rfl kept
  | optionalText default =>
    cases read
    cases settled
    exact normal_text (Text.trim_trim text) inked rfl rfl
  | percentage =>
    rw [reading] at read
    obtain ⟨n, -, rfl⟩ := map_eq_ok_iff.mp read
    obtain rfl := percentage_kept settled
    exact normal_count (fun _ => rfl) settled
  | count =>
    rw [reading] at read
    obtain ⟨n, -, rfl⟩ := map_eq_ok_iff.mp read
    cases settled
    exact normal_count (fun _ => rfl) rfl
  | flag =>
    rw [reading] at read
    obtain ⟨b, -, rfl⟩ := map_eq_ok_iff.mp read
    cases settled
    exact normal_flag v b
  | types =>
    cases read
    have names : ∀ t ∈ Settings.splitTypes text, Settings.IsTypeName t :=
      fun _ => Settings.isTypeName_of_split
    rw [settle, Settings.cleaned_of_names names] at settled
    split at settled
    · cases settled
    · next given =>
      cases settled
      exact normal_types v names (by simpa using given)

end SettingRule

theorem Variable.normal_of_settled {env : Environment} {x : SettingValue}
    (accepted : env.fault? v = none) (settled : v.rule.settle (env.laid v none) = some x) :
    v.Normal x := by
  rcases Environment.laid_over_nothing accepted with nothing | ⟨text, y, ink, read, given⟩
  · rw [nothing] at settled
    exact SettingRule.normal_of_default settled fun _ => default_trimmed
  · rw [given] at settled
    exact SettingRule.normal_of_read ink read settled

end Rules

namespace Config

theorem normal_of_environment {env : Environment} {c : Config} (ok : ofEnvironment env = .ok c)
    (v : Variable) : v.Normal (c.value v) := by
  rw [ofEnvironment] at ok
  cases laid : Settings.overlaid env {} with
  | error e => rw [laid] at ok; cases ok
  | ok s =>
    rw [laid] at ok
    have settled := Settings.resolve_values ok v
    have nothing : Settings.value? {} v = none := by cases v <;> rfl
    rw [Settings.overlaid_values laid, nothing] at settled
    exact Variable.normal_of_settled (Settings.fault?_of_overlaid laid v) settled

section Rendering
variable {c : Config} {v : Variable} (others : Environment)

theorem value?_of_rendering : (c.rendering others).value? v =
    if Text.isBlankText (c.value v).rendered then none else some (c.value v).rendered := by
  rw [Environment.value?, rendering_name, Option.filter_some]
  cases Text.isBlankText (c.value v).rendered <;> rfl

theorem fault?_of_rendering (normal : v.Normal (c.value v)) :
    (c.rendering others).fault? v = none := by
  rw [Environment.fault?, value?_of_rendering]
  generalize c.value v = x at normal
  cases normal with
  | blank rule => rfl
  | written ink read kept => simp [ink, Variable.reading, read]

theorem laid_of_written (normal : v.Normal (c.value v))
    (ink : Text.isBlankText (c.value v).rendered = false) (current : Option SettingValue) :
    (c.rendering others).laid v current = some (c.value v) := by
  rw [Environment.laid, value?_of_rendering]
  generalize c.value v = x at normal ink
  cases normal with
  | blank rule => cases ink
  | written _ read kept => simp [ink, Variable.reading, read, Except.toOption]

theorem laid_of_blank (blank : Text.isBlankText (c.value v).rendered)
    (current : Option SettingValue) :
    (c.rendering others).laid v current = current := by
  rw [Environment.laid, value?_of_rendering, if_pos blank]
  rfl

theorem settled_of_rendering (normal : v.Normal (c.value v)) (current : Option SettingValue) :
    v.rule.settle ((c.rendering others).laid v current) =
      if Text.isBlankText (c.value v).rendered then v.rule.settle current
      else some (c.value v) := by
  cases ink : Text.isBlankText (c.value v).rendered with
  | true => rw [laid_of_blank others ink, if_pos rfl]
  | false =>
    rw [laid_of_written others normal ink, if_neg (by decide)]
    generalize c.value v = x at normal ink
    cases normal with
    | blank rule => cases ink
    | written _ read kept => exact kept

theorem resolve_over_rendering (normal : ∀ v : Variable, v.Normal (c.value v)) (s : Settings) :
    ∃ c' : Config, (do (← s.overlaid (c.rendering others)).resolve) = .ok c' ∧
      ∀ v : Variable, some (c'.value v) =
        if Text.isBlankText (c.value v).rendered then v.rule.settle (s.value? v)
        else some (c.value v) := by
  obtain ⟨t, laid⟩ :=
    Settings.overlaid_of_no_fault (fun v => fault?_of_rendering others (normal v)) s
  have settled (v : Variable) := settled_of_rendering others (normal v) (s.value? v)
  simp only [← Settings.overlaid_values laid] at settled
  -- only an optional text is not written out, and its rule makes something of anything
  have all : ∀ v : Variable, v.rule.settle (t.value? v) ≠ none := by
    intro v
    rw [settled v]
    have kind := normal v
    generalize c.value v = x at kind
    cases kind with
    | blank rule =>
      rw [rule]
      split <;> nofun
    | written ink read kept => simp [ink]
  obtain ⟨c', resolved⟩ := Settings.resolve_of_settled all
  refine ⟨c', by rw [laid]; exact resolved, fun v => ?_⟩
  rw [← settled v, Settings.resolve_values resolved v]

theorem ofEnvironment_rendering (normal : ∀ v : Variable, v.Normal (c.value v)) :
    ofEnvironment (c.rendering others) = .ok c := by
  obtain ⟨c', resolved, values⟩ := resolve_over_rendering others normal {}
  have same : c' = c := by
    apply eq_of_values
    intro v
    have settled := values v
    have kind := normal v
    have nothing : Settings.value? {} v = none := by cases v <;> rfl
    rw [nothing] at settled
    generalize c.value v = x at kind settled
    cases kind with
    | blank rule =>
      rw [rule] at settled
      exact Option.some.inj settled
    | written ink read kept =>
      rw [if_neg (by simp [ink])] at settled
      exact Option.some.inj settled
  rw [ofEnvironment, resolved, same]

end Rendering

end Config

theorem Settings.overlaid_of_complete {env : Environment} (complete : ∀ v, (env.value? v).isSome)
    (s t : Settings) : overlaid env s = overlaid env t := by
  cases one : overlaid env s with
  | error e => exact (overlaid_error_iff.mpr (overlaid_error_iff.mp one)).symm
  | ok s' =>
    obtain ⟨t', other⟩ := overlaid_of_no_fault (fault?_of_overlaid one) t
    have same : s' = t' := by
      apply eq_of_values
      intro v
      obtain ⟨text, set⟩ := Option.isSome_iff_exists.mp (complete v)
      rw [overlaid_values one, overlaid_values other, Environment.laid, Environment.laid, set]
      rfl
    rw [other, same]

/-- Environments have a normal form. What a configuration from an environment is made of can be
written back to the variables, whatever else is in the environment: alone it leads to the same
configuration, and over any settings to one with the same value wherever there is something to
write. Where every variable is set, a configuration file that is read does not matter. -/
theorem environment_has_normal_form :
    (∀ (env : Environment) (c : Config), Config.ofEnvironment env = .ok c →
      ∀ others : Environment, Config.ofEnvironment (c.rendering others) = .ok c ∧
        ∀ s : Settings, ∃ c' : Config,
          (do (← s.overlaid (c.rendering others)).resolve) = .ok c' ∧
            ∀ v, Text.isBlankText (c.value v).rendered = false → c'.value v = c.value v) ∧
    ∀ env : Environment, (∀ v, (env.value? v).isSome) →
      ∀ (files : FileTree) (explicit : Option String) (s : Settings),
        Settings.ofConfigFile files env explicit = .ok s →
          Config.load files env explicit = Config.ofEnvironment env := by
  constructor
  · intro env c ok others
    have normal := Config.normal_of_environment ok
    refine ⟨Config.ofEnvironment_rendering others normal, fun s => ?_⟩
    obtain ⟨c', resolved, values⟩ := Config.resolve_over_rendering others normal s
    refine ⟨c', resolved, fun v ink => ?_⟩
    have settled := values v
    rw [if_neg (by simp [ink])] at settled
    exact Option.some.inj settled
  · intro env complete files explicit s read
    rw [Config.load, read, Config.ofEnvironment, ← Settings.overlaid_of_complete complete s]
    rfl

theorem padded_environment_has_normal_form :
    let padded : Environment := fun name =>
      match Variable.ofName? name with
      | some .groupId => some "\tworkers "
      | some .region => some "eu-west-1"
      | some .apiKey => some "key"
      | some .maxSpotPercentTotal => some " +050"
      | some .detailedMonitoring => some "T"
      | some .instanceTypes => some " c3.xlarge,, m4.large ,"
      | _ => none
    let c : Config := {
      groupId := "workers", region := "eu-west-1", apiKey := "key", displayName := ""
      maxSpotPercentTotal := 50, maxSpotPercentOneMarket := 0, detailedMonitoring := true
      maxHoursInstanceAge := 0, instanceTypes := ["c3.xlarge", "m4.large"]
      targetCapacityVcpus := 0, targetCapacityInstances := 0, targetSpareCpuPercent := 0
      targetSpareMemoryPercent := 0, osFamily := ""
      apiEndpoint := Settings.defaultApiEndpoint
      clusterStateEndpoint := Settings.defaultClusterStateEndpoint }
    let below : Settings := { groupId := some "other", displayName := some "below" }
    let complete : Environment :=
      ({ c with displayName := "all", osFamily := "linux" } : Config).rendering fun _ => none
    let files : FileTree := { entries := [(["capbridge.yaml"], .file "group_id: other".toUTF8)] }
    Config.ofEnvironment padded = .ok c ∧
      Config.ofEnvironment (c.rendering padded) = .ok c ∧
      (∃ c' : Config, (do (← below.overlaid (c.rendering padded)).resolve) = .ok c' ∧
        c'.value .groupId = .text "workers") ∧
      (∀ v, (complete.value? v).isSome) ∧
      Settings.ofConfigFile files complete none = .ok { groupId := some "other" } ∧
      Config.load files complete none = Config.ofEnvironment complete := by
  intro padded c below complete files
  have ok : Config.ofEnvironment padded = .ok c := by decide +kernel
  have set : ∀ v, (complete.value? v).isSome := by
    intro v
    cases v <;> decide +kernel
  have read : Settings.ofConfigFile files complete none = .ok { groupId := some "other" } := by
    decide +kernel
  obtain ⟨alone, above⟩ := environment_has_normal_form.1 padded c ok padded
  obtain ⟨c', resolved, values⟩ := above below
  have group := values .groupId (by decide +kernel)
  exact ⟨ok, alone, ⟨c', resolved, group⟩, set, read,
    environment_has_normal_form.2 complete set files none _ read⟩

end NodeScaling
