import NodeScaling.Proofs.Attempts
import NodeScaling.Proofs.SettingTexts
import NodeScaling.Proofs.SettingValues
import NodeScaling.Settings.File

/-!
Which settings make a configuration. Eight conditions are checked in a row, each with the error that
is reported where it is the first to fail. A configuration meets all of them, whether its settings
come from a file, from the environment or from both.
-/
namespace NodeScaling

/-- Conditions that are checked in a row decide an attempt: it succeeds where all of them hold, and
fails with the error of the first that does not. -/
def Decided {ε α : Type} (conditions : List (Prop × ε)) : Except ε α → Prop
  | .ok _ => ∀ c ∈ conditions, c.1
  | .error e => ∃ before violated after, conditions = before ++ (violated, e) :: after ∧
      (∀ c ∈ before, c.1) ∧ ¬ violated

namespace Decided
variable {ε α β : Type} {conditions more : List (Prop × ε)} {x : Except ε α}

theorem first {condition : Prop} {e : ε} (fails : ¬ condition) :
    Decided ((condition, e) :: conditions) (.error e : Except ε α) :=
  ⟨[], condition, conditions, rfl, nofun, fails⟩

theorem after (hold : ∀ c ∈ conditions, c.1) (decided : Decided more x) :
    Decided (conditions ++ more) x := by
  cases x with
  | ok a => exact List.forall_mem_append.mpr ⟨hold, decided⟩
  | error e =>
    obtain ⟨before, violated, after, split, earlier, fails⟩ := decided
    refine ⟨conditions ++ before, violated, after, ?_, ?_, fails⟩
    · rw [split, List.append_assoc]
    · exact List.forall_mem_append.mpr ⟨hold, earlier⟩

theorem bind {rest : α → Except ε β} (decided : Decided conditions x)
    (next : ∀ a, Decided more (rest a)) : Decided (conditions ++ more) (x >>= rest) := by
  cases x with
  | ok a => exact after decided (next a)
  | error e =>
    obtain ⟨before, violated, after, split, earlier, fails⟩ := decided
    refine ⟨before, violated, after ++ more, ?_, earlier, fails⟩
    rw [split, List.append_assoc, List.cons_append]

theorem ok_iff (decided : Decided conditions x) :
    (∃ a, x = .ok a) ↔ ∀ c ∈ conditions, c.1 := by
  cases x with
  | ok a => exact ⟨fun _ => decided, fun _ => ⟨a, rfl⟩⟩
  | error e =>
    obtain ⟨before, violated, after, split, -, fails⟩ := decided
    constructor
    · rintro ⟨a, ⟨⟩⟩
    · intro all
      rw [split] at all
      exact absurd (all (violated, e) (by simp)) fails

end Decided

namespace Settings

def IsGiven (value : Option String) : Prop :=
  ∃ text, value = some text ∧ Text.trim text ≠ ""

def IsPercentage (value : Option UInt32) : Prop :=
  ∀ n, value = some n → n.toNat ≤ 100

def outOfRange (v : Variable) (value : Option UInt32) : ConfigError :=
  .invalidValue v (toString (value.getD 0).toNat) .percentage

def conditions (s : Settings) : List (Prop × ConfigError) := [
  (∃ types, s.instanceTypes = some types ∧ ∃ t ∈ types, Text.trim t ≠ "",
    .missingValue .instanceTypes),
  (IsGiven s.groupId, .missingValue .groupId),
  (IsGiven s.region, .missingValue .region),
  (IsGiven s.apiKey, .missingValue .apiKey),
  (IsPercentage s.maxSpotPercentTotal, outOfRange .maxSpotPercentTotal s.maxSpotPercentTotal),
  (IsPercentage s.maxSpotPercentOneMarket,
    outOfRange .maxSpotPercentOneMarket s.maxSpotPercentOneMarket),
  (IsPercentage s.targetSpareCpuPercent,
    outOfRange .targetSpareCpuPercent s.targetSpareCpuPercent),
  (IsPercentage s.targetSpareMemoryPercent,
    outOfRange .targetSpareMemoryPercent s.targetSpareMemoryPercent)]

theorem required_decided (v : Variable) (value : Option String) :
    Decided [(IsGiven value, .missingValue v)] (required v value) := by
  rw [required]
  split
  · next text found =>
    obtain ⟨given, ink⟩ := Option.filter_eq_some_iff.mp found
    refine List.forall_mem_singleton.mpr ⟨text, given, ?_⟩
    rw [ne_eq, Text.trim_eq_empty_iff]
    simpa using ink
  · next missing =>
    apply Decided.first
    rintro ⟨text, rfl, ink⟩
    rw [ne_eq, Text.trim_eq_empty_iff] at ink
    simp [Option.filter, ink] at missing

theorem not_hundred_lt_iff {n : UInt32} : ¬ 100 < n ↔ n.toNat ≤ 100 := by
  rw [UInt32.lt_iff_toNat_lt, Nat.not_lt]
  rfl

theorem isPercentage_iff {value : Option UInt32} :
    IsPercentage value ↔ ¬ 100 < value.getD 0 := by
  cases value with
  | none => exact ⟨fun _ => by decide, fun _ => nofun⟩
  | some n =>
    rw [IsPercentage, Option.getD_some, not_hundred_lt_iff]
    exact ⟨fun within => within n rfl, fun within m same => Option.some.inj same ▸ within⟩

theorem percent_decided (v : Variable) (value : Option UInt32) :
    Decided [(IsPercentage value, outOfRange v value)] (percent v value) := by
  simp only [percent]
  split
  · next excess => exact .first fun within => isPercentage_iff.mp within excess
  · next within => exact List.forall_mem_singleton.mpr (isPercentage_iff.mpr within)

theorem cleaned_eq (texts : List String) :
    cleaned texts = (texts.filter fun t => Text.trim t ≠ "").map Text.trim := by
  rw [cleaned, List.filter_map]
  refine congrArg (List.map Text.trim) (List.filter_congr fun t _ => ?_)
  rw [Function.comp_apply, Bool.eq_iff_iff]
  simp

theorem cleaned_isEmpty_iff (given : Option (List String)) :
    (cleaned (given.getD [])).isEmpty ↔
      ¬ ∃ types, given = some types ∧ ∃ t ∈ types, Text.trim t ≠ "" := by
  cases given <;> simp [cleaned_eq]

theorem resolve_decided (s : Settings) : Decided s.conditions s.resolve := by
  simp only [resolve]
  split
  · next nothing => exact .first ((cleaned_isEmpty_iff _).mp nothing)
  · next given =>
    have types := Classical.not_not.mp fun missing => given ((cleaned_isEmpty_iff _).mpr missing)
    refine .after (List.forall_mem_singleton.mpr types) ?_
    refine (required_decided _ _).bind fun _ => ?_
    refine (required_decided _ _).bind fun _ => ?_
    refine (required_decided _ _).bind fun _ => ?_
    refine (percent_decided _ _).bind fun _ => ?_
    refine (percent_decided _ _).bind fun _ => ?_
    refine (percent_decided _ _).bind fun _ => ?_
    refine (percent_decided _ _).bind fun _ => ?_
    exact List.forall_mem_nil _

end Settings

/-- What holds of a configuration, whatever it was made from. Its types are those that were given, in
their order, without blanks around them and without the blank ones. -/
structure Config.Valid (c : Config) (given : List String) : Prop where
  groupId : Text.trim c.groupId ≠ ""
  region : Text.trim c.region ≠ ""
  apiKey : Text.trim c.apiKey ≠ ""
  maxSpotPercentTotal : c.maxSpotPercentTotal.toNat ≤ 100
  maxSpotPercentOneMarket : c.maxSpotPercentOneMarket.toNat ≤ 100
  targetSpareCpuPercent : c.targetSpareCpuPercent.toNat ≤ 100
  targetSpareMemoryPercent : c.targetSpareMemoryPercent.toNat ≤ 100
  instanceTypes : c.instanceTypes = (given.filter fun t => Text.trim t ≠ "").map Text.trim
  base : c.instanceTypes.head? = some c.baseInstanceType
  base_given : c.baseInstanceType ≠ ""
  base_trimmed : Text.trim c.baseInstanceType = c.baseInstanceType

namespace SettingRule

theorem ink_of_settled {given : Option SettingValue} {t : String}
    (settled : requiredText.settle given = some (.text t)) : Text.trim t ≠ "" := by
  cases given with
  | none => cases settled
  | some x =>
    cases x with
    | text u =>
      simp only [settle] at settled
      split at settled
      · cases settled
      · next ink =>
        cases settled
        rwa [ne_eq, Text.trim_eq_empty_iff]
    | _ => cases settled

theorem percentage_of_settled {given : Option SettingValue} {n : UInt32}
    (settled : percentage.settle given = some (.count n)) : n.toNat ≤ 100 := by
  simp only [settle] at settled
  split at settled
  · split at settled
    · cases settled
    · next within =>
      cases settled
      exact Settings.not_hundred_lt_iff.mp within
  · cases settled

end SettingRule

theorem Settings.valid_of_resolve {s : Settings} {c : Config} (ok : s.resolve = .ok c) :
    c.Valid (s.instanceTypes.getD []) := by
  have settled := resolve_values ok
  have types := settled .instanceTypes
  rw [show Variable.rule .instanceTypes = .types from rfl, types_settle] at types
  split at types
  · cases types
  · next given =>
    have listed : c.instanceTypes = cleaned (s.instanceTypes.getD []) :=
      (SettingValue.types.inj (Option.some.inj types)).symm
    obtain ⟨first, rest, split⟩ : ∃ first rest, c.instanceTypes = first :: rest := by
      apply List.exists_cons_of_ne_nil
      rw [listed]
      simpa using given
    have base : c.baseInstanceType = first := by rw [Config.baseInstanceType, split]; rfl
    have among : first ∈ cleaned (s.instanceTypes.getD []) := by
      rw [← listed, split]
      exact List.mem_cons_self
    obtain ⟨⟨text, -, trimmed⟩, inhabited⟩ := mem_cleaned_iff.mp among
    exact {
      groupId := SettingRule.ink_of_settled (settled .groupId)
      region := SettingRule.ink_of_settled (settled .region)
      apiKey := SettingRule.ink_of_settled (settled .apiKey)
      maxSpotPercentTotal := SettingRule.percentage_of_settled (settled .maxSpotPercentTotal)
      maxSpotPercentOneMarket :=
        SettingRule.percentage_of_settled (settled .maxSpotPercentOneMarket)
      targetSpareCpuPercent := SettingRule.percentage_of_settled (settled .targetSpareCpuPercent)
      targetSpareMemoryPercent :=
        SettingRule.percentage_of_settled (settled .targetSpareMemoryPercent)
      instanceTypes := by rw [listed, cleaned_eq]
      base := by rw [base, split]; rfl
      base_given := by rwa [base]
      base_trimmed := by rw [base, ← trimmed, Text.trim_trim] }

/-- Exactly the settings that meet all conditions make a configuration, and others are refused by
the first condition that they do not meet. Every configuration is valid, from whichever sources its
settings come. -/
theorem valid_settings_resolved :
    (∀ s : Settings, ((∃ c, s.resolve = .ok c) ↔ ∀ condition ∈ s.conditions, condition.1) ∧
      (∀ e, s.resolve = .error e → ∃ before violated after,
        s.conditions = before ++ (violated, e) :: after ∧
          (∀ condition ∈ before, condition.1) ∧ ¬ violated) ∧
      ∀ c, s.resolve = .ok c → c.Valid (s.instanceTypes.getD [])) ∧
    (∀ env c, Config.ofEnvironment env = .ok c →
      ∃ s, Settings.overlaid env {} = .ok s ∧ c.Valid (s.instanceTypes.getD [])) ∧
    (∀ files env explicit c, Config.load files env explicit = .ok c →
      ∃ read s, Settings.ofConfigFile files env explicit = .ok read ∧
        Settings.overlaid env read = .ok s ∧ c.Valid (s.instanceTypes.getD [])) := by
  refine ⟨?_, ?_, ?_⟩
  · intro s
    have decided := s.resolve_decided
    refine ⟨decided.ok_iff, ?_, fun c => Settings.valid_of_resolve⟩
    intro e refused
    rwa [refused] at decided
  · intro env c ok
    obtain ⟨s, laid, resolved⟩ := ok_of_bind ok
    exact ⟨s, laid, Settings.valid_of_resolve resolved⟩
  · intro files env explicit c ok
    obtain ⟨read, found, rest⟩ := ok_of_bind ok
    obtain ⟨s, laid, resolved⟩ := ok_of_bind rest
    exact ⟨read, s, found, laid, Settings.valid_of_resolve resolved⟩

theorem padded_types_resolved :
    let config (total : UInt32) (types : List String) : Config := {
      groupId := "workers", region := "eu", apiKey := "key", displayName := ""
      maxSpotPercentTotal := total, maxSpotPercentOneMarket := 0, detailedMonitoring := false
      maxHoursInstanceAge := 0, instanceTypes := types, targetCapacityVcpus := 0
      targetCapacityInstances := 0, targetSpareCpuPercent := 0, targetSpareMemoryPercent := 0
      osFamily := "", apiEndpoint := Settings.defaultApiEndpoint
      clusterStateEndpoint := Settings.defaultClusterStateEndpoint }
    let fitting : Settings := { groupId := some "workers", region := some "eu",
                                apiKey := some "key", maxSpotPercentTotal := some 100,
                                instanceTypes := some [" ", "\tc3.xlarge ", "m4.large"] }
    let excessive : Settings := { fitting with maxSpotPercentTotal := some 101,
                                               targetSpareCpuPercent := some 200 }
    let env (texts : List (String × String)) : Environment := fun name => texts.lookup name
    let names := [("AUTOSCALING_GROUP_NAME", "workers"), ("AWS_REGION", "eu"),
      ("AUTOSCALR_API_KEY", "key")]
    let whole := ("INSTANCE_TYPES", " ,c3.xlarge ,") :: names
    let files : FileTree :=
      { entries := [(["capbridge.yaml"], .file "instance_types: ['', ' c3.xlarge']".toUTF8)] }
    (fitting.resolve = .ok (config 100 ["c3.xlarge", "m4.large"]) ∧
      (config 100 ["c3.xlarge", "m4.large"]).Valid [" ", "\tc3.xlarge ", "m4.large"]) ∧
    (∃ before violated after, excessive.conditions = before ++
      (violated, .invalidValue .maxSpotPercentTotal "101" .percentage) :: after ∧
        (∀ condition ∈ before, condition.1) ∧ ¬ violated) ∧
    (∃ s, Settings.overlaid (env whole) {} = .ok s ∧
      (config 0 ["c3.xlarge"]).Valid (s.instanceTypes.getD [])) ∧
    (∃ read s, Settings.ofConfigFile files (env names) none = .ok read ∧
      Settings.overlaid (env names) read = .ok s ∧
      (config 0 ["c3.xlarge"]).Valid (s.instanceTypes.getD [])) := by
  intro config fitting excessive env names whole files
  obtain ⟨resolved, fromEnvironment, loaded⟩ := valid_settings_resolved
  have fits : fitting.resolve = .ok (config 100 ["c3.xlarge", "m4.large"]) := by decide +kernel
  have exceeds : excessive.resolve =
      .error (.invalidValue .maxSpotPercentTotal "101" .percentage) := by decide +kernel
  have alone : Config.ofEnvironment (env whole) = .ok (config 0 ["c3.xlarge"]) := by
    decide +kernel
  have below : Config.load files (env names) none = .ok (config 0 ["c3.xlarge"]) := by
    decide +kernel
  exact ⟨⟨fits, (resolved fitting).2.2 _ fits⟩, (resolved excessive).2.1 _ exceeds,
    fromEnvironment _ _ alone, loaded _ _ _ _ below⟩

end NodeScaling
