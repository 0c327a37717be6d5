import Mathlib.Data.List.Forall2
import Mathlib.Data.List.TakeWhile
import NodeScaling.Settings

/-!
Settings seen variable by variable. Each variable has a rule that says how its text is read and what
is made of the value, or of its absence, in a configuration. Laying an environment over settings and
resolving them are both done one variable at a time: a variable changes the value of its own setting
and of no other, and which variable is refused does not depend on the settings below.
-/
namespace NodeScaling

inductive SettingValue where
  | text (t : String)
  | count (n : UInt32)
  | flag (b : Bool)
  | types (ts : List String)
  deriving DecidableEq

inductive SettingRule where
  | requiredText
  | optionalText (default : String)
  | percentage
  | count
  | flag
  | types

namespace Variable

def rule : Variable → SettingRule
  | groupId | region | apiKey => .requiredText
  | displayName | osFamily => .optionalText ""
  | apiEndpoint => .optionalText Settings.defaultApiEndpoint
  | clusterStateEndpoint => .optionalText Settings.defaultClusterStateEndpoint
  | maxSpotPercentTotal | maxSpotPercentOneMarket => .percentage
  | targetSpareCpuPercent | targetSpareMemoryPercent => .percentage
  | maxHoursInstanceAge | targetCapacityVcpus | targetCapacityInstances => .count
  | detailedMonitoring => .flag
  | instanceTypes => .types

end Variable

def SettingRule.reading (v : Variable) (text : String) :
    SettingRule → Except ConfigError SettingValue
  | .requiredText | .optionalText _ => .ok (.text (Text.trim text))
  | .percentage | .count => (Settings.number v text).map .count
  | .flag => (Settings.truth v text).map .flag
  | .types => .ok (.types (Settings.splitTypes text))

def Variable.reading (v : Variable) (text : String) : Except ConfigError SettingValue :=
  v.rule.reading v text

def SettingRule.settle : SettingRule → Option SettingValue → Option SettingValue
  | .requiredText, some (.text t) => if Text.isBlankText t then none else some (.text t)
  | .optionalText default, given => some (given.getD (.text default))
  | .percentage, given =>
    match given.getD (.count 0) with
    | .count n => if 100 < n then none else some (.count n)
    | _ => none
  | .count, given => some (given.getD (.count 0))
  | .flag, given => some (given.getD (.flag false))
  | .types, some (.types ts) =>
    if (Settings.cleaned ts).isEmpty then none else some (.types (Settings.cleaned ts))
  | _, _ => none

def Settings.value? (s : Settings) : Variable → Option SettingValue
  | .groupId => s.groupId.map .text
  | .region => s.region.map .text
  | .apiKey => s.apiKey.map .text
  | .displayName => s.displayName.map .text
  | .maxSpotPercentTotal => s.maxSpotPercentTotal.map .count
  | .maxSpotPercentOneMarket => s.maxSpotPercentOneMarket.map .count
  | .detailedMonitoring => s.detailedMonitoring.map .flag
  | .maxHoursInstanceAge => s.maxHoursInstanceAge.map .count
  | .instanceTypes => s.instanceTypes.map .types
  | .targetCapacityVcpus => s.targetCapacityVcpus.map .count
  | .targetCapacityInstances => s.targetCapacityInstances.map .count
  | .targetSpareCpuPercent => s.targetSpareCpuPercent.map .count
  | .targetSpareMemoryPercent => s.targetSpareMemoryPercent.map .count
  | .osFamily => s.osFamily.map .text
  | .apiEndpoint => s.apiEndpoint.map .text
  | .clusterStateEndpoint => s.clusterStateEndpoint.map .text

def Config.value (c : Config) : Variable → SettingValue
  | .groupId => .text c.groupId
  | .region => .text c.region
  | .apiKey => .text c.apiKey
  | .displayName => .text c.displayName
  | .maxSpotPercentTotal => .count c.maxSpotPercentTotal
  | .maxSpotPercentOneMarket => .count c.maxSpotPercentOneMarket
  | .detailedMonitoring => .flag c.detailedMonitoring
  | .maxHoursInstanceAge => .count c.maxHoursInstanceAge
  | .instanceTypes => .types c.instanceTypes
  | .targetCapacityVcpus => .count c.targetCapacityVcpus
  | .targetCapacityInstances => .count c.targetCapacityInstances
  | .targetSpareCpuPercent => .count c.targetSpareCpuPercent
  | .targetSpareMemoryPercent => .count c.targetSpareMemoryPercent
  | .osFamily => .text c.osFamily
  | .apiEndpoint => .text c.apiEndpoint
  | .clusterStateEndpoint => .text c.clusterStateEndpoint

theorem Settings.eq_of_values {s t : Settings} (same : ∀ v, s.value? v = t.value? v) : s = t := by
  have texts {x y : Option String} (h : x.map SettingValue.text = y.map .text) : x = y :=
    Option.map_injective (fun _ _ => SettingValue.text.inj) h
  have counts {x y : Option UInt32} (h : x.map SettingValue.count = y.map .count) : x = y :=
    Option.map_injective (fun _ _ => SettingValue.count.inj) h
  have flags {x y : Option Bool} (h : x.map SettingValue.flag = y.map .flag) : x = y :=
    Option.map_injective (fun _ _ => SettingValue.flag.inj) h
  have lists {x y : Option (List String)} (h : x.map SettingValue.types = y.map .types) : x = y :=
    Option.map_injective (fun _ _ => SettingValue.types.inj) h
  cases s
  cases t
  congr
  · exact texts (same .groupId)
  · exact texts (same .region)
  · exact texts (same .apiKey)
  · exact texts (same .displayName)
  · exact counts (same .maxSpotPercentTotal)
  · exact counts (same .maxSpotPercentOneMarket)
  · exact flags (same .detailedMonitoring)
  · exact counts (same .maxHoursInstanceAge)
  · exact lists (same .instanceTypes)
  · exact counts (same .targetCapacityVcpus)
  · exact counts (same .targetCapacityInstances)
  · exact counts (same .targetSpareCpuPercent)
  · exact counts (same .targetSpareMemoryPercent)
  · exact texts (same .osFamily)
  · exact texts (same .apiEndpoint)
  · exact texts (same .clusterStateEndpoint)

theorem Config.eq_of_values {c c' : Config} (same : ∀ v, c.value v = c'.value v) : c = c' := by
  cases c
  cases c'
  congr
  · exact SettingValue.text.inj (same .groupId)
  · exact SettingValue.text.inj (same .region)
  · exact SettingValue.text.inj (same .apiKey)
  · exact SettingValue.text.inj (same .displayName)
  · exact SettingValue.count.inj (same .maxSpotPercentTotal)
  · exact SettingValue.count.inj (same .maxSpotPercentOneMarket)
  · exact SettingValue.flag.inj (same .detailedMonitoring)
  · exact SettingValue.count.inj (same .maxHoursInstanceAge)
  · exact SettingValue.types.inj (same .instanceTypes)
  · exact SettingValue.count.inj (same .targetCapacityVcpus)
  · exact SettingValue.count.inj (same .targetCapacityInstances)
  · exact SettingValue.count.inj (same .targetSpareCpuPercent)
  · exact SettingValue.count.inj (same .targetSpareMemoryPercent)
  · exact SettingValue.text.inj (same .osFamily)
  · exact SettingValue.text.inj (same .apiEndpoint)
  · exact SettingValue.text.inj (same .clusterStateEndpoint)

namespace Environment

def fault? (env : Environment) (v : Variable) : Option ConfigError :=
  match (env.value? v).map v.reading with
  | some (.error e) => some e
  | _ => none

def laid (env : Environment) (v : Variable) (current : Option SettingValue) :
    Option SettingValue :=
  match (env.value? v).map v.reading with
  | some read => read.toOption
  | none => current

end Environment

namespace Settings

def Laid (env : Environment) (vs : List Variable) (s t : Settings) : Prop :=
  ∀ v, t.value? v = if v ∈ vs then env.laid v (s.value? v) else s.value? v

theorem Laid.trans {env : Environment} {us vs : List Variable} {s t u : Settings}
    (first : Laid env us s t) (second : Laid env vs t u) (apart : ∀ v ∈ us, v ∉ vs) :
    Laid env (us ++ vs) s u := by
  intro v
  rw [second v, first v]
  by_cases early : v ∈ us
  · simp [early, apart v early]
  · simp [early]

/-- A step lays its variable over settings, unless that is refused. -/
structure Lays (env : Environment) (v : Variable) (step : Settings → Except ConfigError Settings) :
    Prop where
  accepted : ∀ s t, step s = .ok t → env.fault? v = none ∧ Laid env [v] s t
  refused : ∀ s e, step s = .error e → env.fault? v = some e

theorem overlayField_lays {α : Type} {env : Environment} {v : Variable}
    {read : Variable → String → Except ConfigError α} {put : Settings → α → Settings}
    (wrap : α → SettingValue) (reads : ∀ text, v.reading text = (read v text).map wrap)
    (puts : ∀ s a u, (put s a).value? u = if u = v then some (wrap a) else s.value? u) :
    Lays env v (overlayField env v read put) := by
  constructor
  · intro s t taken
    rw [overlayField] at taken
    cases set : env.value? v with
    | none =>
      obtain rfl : s = t := by simpa [set] using taken
      refine ⟨by simp [Environment.fault?, set], fun u => ?_⟩
      by_cases same : u = v <;> simp [same, Environment.laid, set]
    | some text =>
      rw [set] at taken
      cases result : read v text with
      | error e => simp [result, Except.map] at taken
      | ok a =>
        obtain rfl : put s a = t := by simpa [result, Except.map] using taken
        have value : v.reading text = .ok (wrap a) := by rw [reads, result]; rfl
        refine ⟨by simp [Environment.fault?, set, value], fun u => ?_⟩
        by_cases same : u = v <;> simp [puts, same, Environment.laid, set, value, Except.toOption]
  · intro s e failed
    rw [overlayField] at failed
    cases set : env.value? v with
    | none => simp [set] at failed
    | some text =>
      rw [set] at failed
      cases result : read v text with
      | ok a => simp [result, Except.map] at failed
      | error cause =>
        obtain rfl : cause = e := by simpa [result, Except.map] using failed
        simp [Environment.fault?, set, reads, result, Except.map]

/-- What steps for distinct variables come to: the failure is that of the first variable that is
refused, and the variables before it have been laid over the settings, or all of them without one. -/
theorem takeSteps_lays {env : Environment} {vs : List Variable}
    {steps : List (Settings → Except ConfigError Settings)} (lay : List.Forall₂ (Lays env) vs steps)
    (distinct : vs.Nodup) (s : Settings) :
    (takeSteps steps s).2 = vs.findSome? env.fault? ∧
      Laid env (vs.takeWhile fun v => (env.fault? v).isNone) s (takeSteps steps s).1 := by
  induction lay generalizing s with
  | nil => exact ⟨rfl, fun v => by simp [takeSteps]⟩
  | @cons v step vs steps first rest ih =>
    obtain ⟨new, distinct⟩ := List.nodup_cons.mp distinct
    rw [takeSteps, List.findSome?_cons, List.takeWhile_cons]
    cases result : step s with
    | error e =>
      rw [first.refused s e result]
      exact ⟨rfl, fun v => by simp⟩
    | ok t =>
      obtain ⟨unfaulted, laid⟩ := first.accepted s t result
      obtain ⟨faults, values⟩ := ih distinct t
      rw [unfaulted]
      refine ⟨faults, laid.trans values ?_⟩
      -- the variable is new to the steps behind, which leave its value alone
      intro u here later
      rw [List.mem_singleton.mp here] at later
      exact new ((List.takeWhile_sublist _).mem later)

def textVariables : List Variable :=
  [.groupId, .region, .apiKey, .displayName, .osFamily, .apiEndpoint, .clusterStateEndpoint]

def readVariables : List Variable :=
  [.maxSpotPercentTotal, .maxSpotPercentOneMarket, .maxHoursInstanceAge, .targetCapacityVcpus,
    .targetCapacityInstances, .targetSpareCpuPercent, .targetSpareMemoryPercent,
    .detailedMonitoring, .instanceTypes]

theorem overlayTexts_lays (env : Environment) (s : Settings) :
    Laid env textVariables s (overlayTexts env s) := by
  have texts (v : Variable) (current : Option String)
      (reads : ∀ text, v.reading text = .ok (.text (Text.trim text))) :
      (((env.value? v).map Text.trim).orElse fun _ => current).map .text =
        env.laid v (current.map .text) := by
    rw [Environment.laid]
    cases env.value? v with
    | none => rfl
    | some text => simp [reads, Except.toOption]
  intro v
  cases v <;> first | rfl | exact texts _ _ fun _ => rfl

theorem overlaySteps_lay (env : Environment) :
    List.Forall₂ (Lays env) readVariables (overlaySteps env) := by
  have counts {v : Variable} {put : Settings → UInt32 → Settings}
      (reads : ∀ text, v.reading text = (number v text).map .count)
      (puts : ∀ s n u, (put s n).value? u = if u = v then some (.count n) else s.value? u) :
      Lays env v (overlayField env v number put) := overlayField_lays .count reads puts
  unfold readVariables overlaySteps
  refine .cons ?_ (.cons ?_ (.cons ?_ (.cons ?_ (.cons ?_ (.cons ?_ (.cons ?_ (.cons ?_ (.cons ?_
    .nil))))))))
  case refine_8 => exact overlayField_lays .flag (fun _ => rfl) fun s b u => by cases u <;> rfl
  case refine_9 => exact overlayField_lays .types (fun _ => rfl) fun s b u => by cases u <;> rfl
  all_goals exact counts (fun _ => rfl) fun s n u => by cases u <;> rfl

theorem overlay_fault (env : Environment) (s : Settings) :
    (overlay env s).2 = readVariables.findSome? env.fault? :=
  (takeSteps_lays (overlaySteps_lay env) (by decide) (overlayTexts env s)).1

theorem overlaid_error_iff {env : Environment} {s : Settings} {e : ConfigError} :
    overlaid env s = .error e ↔ readVariables.findSome? env.fault? = some e := by
  rw [← overlay_fault env s, overlaid]
  cases overlay env s with
  | mk reached fault => cases fault <;> simp

theorem overlaid_ok_iff {env : Environment} {s t : Settings} :
    overlaid env s = .ok t ↔ overlay env s = (t, none) := by
  rw [overlaid]
  cases overlay env s with
  | mk reached fault => cases fault <;> simp

/-- The settings that are reached: the texts are laid, and so are the variables that are read up to
the first one that is refused. -/
theorem overlay_laid (env : Environment) (s : Settings) :
    Laid env (textVariables ++ readVariables.takeWhile fun v => (env.fault? v).isNone) s
      (overlay env s).1 := by
  have apart : ∀ v ∈ textVariables, v ∉ readVariables := by decide
  refine (overlayTexts_lays env s).trans
    (takeSteps_lays (overlaySteps_lay env) (by decide) (overlayTexts env s)).2 ?_
  exact fun v text read => apart v text ((List.takeWhile_sublist _).mem read)

theorem overlaid_values {env : Environment} {s t : Settings} (ok : overlaid env s = .ok t)
    (v : Variable) : t.value? v = env.laid v (s.value? v) := by
  have done := overlaid_ok_iff.mp ok
  have none := overlay_fault env s
  rw [done] at none
  have accepted : readVariables.takeWhile (fun v => (env.fault? v).isNone) = readVariables := by
    rw [List.takeWhile_eq_self_iff]
    intro v read
    rw [List.findSome?_eq_none_iff.mp none.symm v read]
    rfl
  have whole := overlay_laid env s v
  have covered : v ∈ textVariables ++ readVariables := by cases v <;> decide
  rwa [done, accepted, if_pos covered] at whole

theorem fault?_of_overlaid {env : Environment} {s t : Settings} (ok : overlaid env s = .ok t)
    (v : Variable) : env.fault? v = none := by
  by_cases read : v ∈ readVariables
  · have none := overlay_fault env s
    rw [overlaid_ok_iff.mp ok] at none
    exact List.findSome?_eq_none_iff.mp none.symm v read
  · -- the texts are taken as they are
    rw [Environment.fault?]
    cases env.value? v with
    | none => rfl
    | some text => cases v <;> first | exact absurd (by decide) read | rfl

theorem overlaid_of_no_fault {env : Environment} (accepted : ∀ v, env.fault? v = none)
    (s : Settings) : ∃ t, overlaid env s = .ok t := by
  cases result : overlaid env s with
  | ok t => exact ⟨t, rfl⟩
  | error e =>
    obtain ⟨v, -, refused⟩ := List.exists_of_findSome?_eq_some (overlaid_error_iff.mp result)
    rw [accepted v] at refused
    cases refused

theorem required_settles (v : Variable) (value : Option String) :
    (required v value).toOption.map .text = SettingRule.requiredText.settle (value.map .text) := by
  cases value with
  | none => rfl
  | some t =>
    cases ink : Text.isBlankText t <;>
      simp [required, Option.filter, SettingRule.settle, ink, Except.toOption]

theorem percent_settles (v : Variable) (value : Option UInt32) :
    (percent v value).toOption.map .count = SettingRule.percentage.settle (value.map .count) := by
  have given : (value.map .count).getD (.count 0) = SettingValue.count (value.getD 0) := by
    cases value <;> rfl
  rw [percent, SettingRule.settle, given]
  split <;> simp_all [Except.toOption]

/-- The configuration has what each rule makes of the settings; there is none if a rule makes
nothing of them. -/
def Settles (s : Settings) : Except ConfigError Config → Prop
  | .ok c => ∀ v : Variable, v.rule.settle (s.value? v) = some (c.value v)
  | .error _ => ∃ v : Variable, v.rule.settle (s.value? v) = none

theorem Settles.bind {α : Type} {s : Settings} {x : Except ConfigError α}
    {rest : α → Except ConfigError Config} (v : Variable) (wrap : α → SettingValue)
    (settled : x.toOption.map wrap = v.rule.settle (s.value? v))
    (next : ∀ a, v.rule.settle (s.value? v) = some (wrap a) → Settles s (rest a)) :
    Settles s (x >>= rest) := by
  cases x with
  | error e => exact ⟨v, settled.symm⟩
  | ok a => exact next a settled.symm

theorem types_settle (s : Settings) : SettingRule.types.settle (s.value? .instanceTypes) =
    if (cleaned (s.instanceTypes.getD [])).isEmpty then none
    else some (.types (cleaned (s.instanceTypes.getD []))) := by
  rw [value?]
  cases s.instanceTypes <;> rfl

theorem default_settles {α : Type} (wrap : α → SettingValue) (default : α) (given : Option α) :
    some ((given.map wrap).getD (wrap default)) = some (wrap (given.getD default)) := by
  cases given <;> rfl

theorem resolve_settles (s : Settings) : Settles s s.resolve := by
  have types := types_settle s
  simp only [resolve]
  split
  · next missing => exact ⟨.instanceTypes, types.trans (if_pos missing)⟩
  · next given =>
    rw [if_neg given] at types
    refine .bind .groupId .text (required_settles _ _) fun groupId group => ?_
    refine .bind .region .text (required_settles _ _) fun region place => ?_
    refine .bind .apiKey .text (required_settles _ _) fun apiKey key => ?_
    refine .bind .maxSpotPercentTotal .count (percent_settles _ _) fun total spot => ?_
    refine .bind .maxSpotPercentOneMarket .count (percent_settles _ _) fun market oneSpot => ?_
    refine .bind .targetSpareCpuPercent .count (percent_settles _ _) fun cpu spareCpu => ?_
    refine .bind .targetSpareMemoryPercent .count (percent_settles _ _) fun memory spareMemory => ?_
    intro v
    cases v
    case displayName | osFamily | apiEndpoint | clusterStateEndpoint =>
      exact default_settles .text _ _
    case maxHoursInstanceAge | targetCapacityVcpus | targetCapacityInstances =>
      exact default_settles .count _ _
    case detailedMonitoring => exact default_settles .flag _ _
    all_goals assumption

theorem resolve_values {s : Settings} {c : Config} (ok : s.resolve = .ok c) (v : Variable) :
    v.rule.settle (s.value? v) = some (c.value v) := by
  have settled := resolve_settles s
  rw [ok] at settled
  exact settled v

theorem resolve_of_settled {s : Settings}
    (settled : ∀ v : Variable, v.rule.settle (s.value? v) ≠ none) : ∃ c, s.resolve = .ok c := by
  have whole := resolve_settles s
  cases result : s.resolve with
  | ok c => exact ⟨c, rfl⟩
  | error e =>
    rw [result] at whole
    obtain ⟨v, unsettled⟩ := whole
    exact absurd unsettled (settled v)

end Settings

end NodeScaling
