import NodeScaling.Proofs.CountTexts
import NodeScaling.Proofs.DictionaryContents
import NodeScaling.Proofs.SettingValues

/-!
What a settings file says, entry by entry. A mapping is accepted exactly if each key names a setting
of its own and each value is null or of the kind of its setting. Each value then sets its own field,
in whatever order the entries stand.
-/
namespace NodeScaling

def Variable.fieldName : Variable → String
  | groupId => "group_id"
  | region => "region"
  | apiKey => "api_key"
  | displayName => "display_name"
  | maxSpotPercentTotal => "max_spot_percent_total"
  | maxSpotPercentOneMarket => "max_spot_percent_one_market"
  | detailedMonitoring => "detailed_monitoring"
  | maxHoursInstanceAge => "max_hours_instance_age"
  | instanceTypes => "instance_types"
  | targetCapacityVcpus => "target_capacity_vcpus"
  | targetCapacityInstances => "target_capacity_instances"
  | targetSpareCpuPercent => "target_spare_cpu_percent"
  | targetSpareMemoryPercent => "target_spare_memory_percent"
  | osFamily => "os_family"
  | apiEndpoint => "api_endpoint"
  | clusterStateEndpoint => "cluster_state_endpoint"

namespace Yaml

inductive Node.Untagged : Node → Prop where
  | scalar (s : Scalar) (untagged : s.tag = none) : Untagged (.scalar s)
  | sequence (xs : List Node) (elements : ∀ x ∈ xs, Untagged x) : Untagged (.sequence xs)
  | mapping (es : List (Node × Node)) (keys : ∀ e ∈ es, Untagged e.1)
      (values : ∀ e ∈ es, Untagged e.2) : Untagged (.mapping es)
  | alias (number : Nat) : Untagged (.alias number)

theorem Node.Untagged.tag {s : Scalar} (untagged : (Node.scalar s).Untagged) : s.tag = none := by
  cases untagged
  assumption

def Node.IsNull (node : Node) : Prop :=
  ∃ s, node = .scalar s ∧ s.style = .plain ∧ s.text ∈ ["", "~", "null", "Null", "NULL"]

namespace Document
variable (d : Document)

/-- The node that an alias stands for, and any other node as it is. -/
def shown (node : Node) : Node :=
  (d.resolve? node).getD node

def withElements : Node → Node
  | .sequence xs => .sequence (xs.map d.shown)
  | node => node

/-- Entries by the texts of their keys, with their values, all without aliases. A key that is not a
scalar has no text. -/
def listing (entries : List (Node × Node)) : List (Option String × Node) :=
  entries.map fun e => (Settings.textValue? (d.shown e.1), d.withElements (d.shown e.2))

end Document

end Yaml

open Yaml (Document Scalar)

def SettingRule.Fits (node : Yaml.Node) : SettingRule → SettingValue → Prop
  | .requiredText, x | .optionalText _, x => ∃ s, node = .scalar s ∧ x = .text s.text
  | .percentage, x | .count, x => ∃ (s : Scalar) (n : UInt32), node = .scalar s ∧ s.style = .plain ∧
    Settings.IsCount s.text.toList n.toNat ∧ x = .count n
  | .flag, x => ∃ (s : Scalar) (b : Bool), node = .scalar s ∧ s.style = .plain ∧
    s.text ∈ (if b then ["true", "True", "TRUE"] else ["false", "False", "FALSE"]) ∧ x = .flag b
  | .types, x => ∃ ss : List Scalar, node = .sequence (ss.map .scalar) ∧
    x = .types (ss.map Scalar.text)

namespace Settings

structure Accepts (listing : List (Option String × Yaml.Node)) : Prop where
  known : ∀ e ∈ listing, ∃ v : Variable, e.1 = some v.fieldName
  once : (listing.map Prod.fst).Nodup
  fits : ∀ e ∈ listing, ∀ v : Variable, e.1 = some v.fieldName →
    e.2.IsNull ∨ ∃ x, v.rule.Fits e.2 x

def Describes (listing : List (Option String × Yaml.Node)) (s : Settings) : Prop :=
  ∀ (v : Variable) (x : SettingValue), s.value? v = some x ↔
    ∃ node, (some v.fieldName, node) ∈ listing ∧ ¬ node.IsNull ∧ v.rule.Fits node x

theorem fieldName_inj {u v : Variable} (same : u.fieldName = v.fieldName) : u = v := by
  cases u <;> cases v <;> first | rfl | exact absurd same (by decide)

theorem fieldNames_eq : fieldNames = [.groupId, .region, .apiKey, .displayName,
    .maxSpotPercentTotal, .maxSpotPercentOneMarket, .detailedMonitoring, .maxHoursInstanceAge,
    .instanceTypes, .targetCapacityVcpus, .targetCapacityInstances, .targetSpareCpuPercent,
    .targetSpareMemoryPercent, .osFamily, .apiEndpoint, .clusterStateEndpoint].map
      Variable.fieldName := rfl

theorem mem_fieldNames_iff {name : String} :
    name ∈ fieldNames ↔ ∃ v : Variable, name = v.fieldName := by
  constructor
  · intro member
    rw [fieldNames_eq] at member
    obtain ⟨v, -, rfl⟩ := List.mem_map.mp member
    exact ⟨v, rfl⟩
  · rintro ⟨v, rfl⟩
    cases v <;> decide

theorem areFieldNames_iff {names : List String} : areFieldNames names = true ↔
    (∀ name ∈ names, ∃ v : Variable, name = v.fieldName) ∧ names.Nodup := by
  rw [areFieldNames, Bool.and_eq_true, decide_eq_true_iff, List.all_eq_true]
  simp only [List.contains_iff_mem, mem_fieldNames_iff]

section Values
variable {d : Document} {node : Yaml.Node} {v : Variable} {x : SettingValue}

def decode? (d : Document) (v : Variable) (node : Yaml.Node) : Option SettingValue :=
  match v.rule with
  | .requiredText | .optionalText _ => (textValue? node).map .text
  | .percentage | .count => (countValue? node).map .count
  | .flag => (truthValue? node).map .flag
  | .types => (textsValue? d node).map .types

theorem textValue?_eq_some_iff {t : String} :
    textValue? node = some t ↔ ∃ s, node = .scalar s ∧ t = s.text := by
  cases node <;> simp [textValue?, eq_comm]

theorem canHold_iff {s : Scalar} (untagged : s.tag = none) (type : String) :
    canHold type s = true ↔ s.style = .plain := by
  simp [canHold, untagged]

theorem countValue?_scalar_iff {s : Scalar} (untagged : s.tag = none) {n : UInt32} :
    countValue? (.scalar s) = some n ↔ s.style = .plain ∧ IsCount s.text.toList n.toNat := by
  have counted : ((readCount? s.text.toList).bind fun m =>
      if m < UInt32.size then some (UInt32.ofNat m) else none) = some n ↔
        IsCount s.text.toList n.toNat := by
    rw [Option.bind_eq_some_iff]
    constructor
    · rintro ⟨m, read, within⟩
      split at within
      · next small =>
        cases within
        rw [UInt32.toNat_ofNat_of_lt' small]
        exact (readCount?_eq_some_iff.mp read).1
      · cases within
    · intro count
      have small := n.toNat_lt_size
      refine ⟨n.toNat, readCount?_eq_some_iff.mpr ⟨count, ?_⟩, ?_⟩
      · exact Nat.lt_trans small (by decide)
      · rw [if_pos small, UInt32.ofNat_toNat]
  rw [countValue?]
  by_cases plain : s.style = .plain
  · rw [if_pos ((canHold_iff untagged _).mpr plain), counted]
    simp [plain]
  · rw [if_neg fun holds => plain ((canHold_iff untagged _).mp holds)]
    simp [plain]

theorem truthValue?_scalar_iff {s : Scalar} (untagged : s.tag = none) {b : Bool} :
    truthValue? (.scalar s) = some b ↔ s.style = .plain ∧
      s.text ∈ (if b then ["true", "True", "TRUE"] else ["false", "False", "FALSE"]) := by
  have apart : ∀ w ∈ ["true", "True", "TRUE"], w ∉ ["false", "False", "FALSE"] := by decide
  rw [truthValue?]
  by_cases plain : s.style = .plain
  · rw [if_pos ((canHold_iff untagged _).mpr plain)]
    simp only [List.contains_iff_mem, plain, true_and]
    split
    · next yes => cases b <;> simp [yes, apart _ yes]
    · next no => split <;> cases b <;> simp_all
  · rw [if_neg fun holds => plain ((canHold_iff untagged _).mp holds)]
    simp [plain]

theorem resolve?_bind_textValue? (element : Yaml.Node) :
    (d.resolve? element).bind textValue? = textValue? (d.shown element) := by
  rw [Document.shown]
  cases found : d.resolve? element with
  | some node => rfl
  | none => cases element <;> first | rfl | cases found

theorem textsValue?_sequence_iff {xs : List Yaml.Node} {ts : List String} :
    textsValue? d (.sequence xs) = some ts ↔
      ∃ ss : List Scalar, xs.map d.shown = ss.map .scalar ∧ ts = ss.map Scalar.text := by
  rw [textsValue?]
  simp only [resolve?_bind_textValue?]
  induction xs generalizing ts with
  | nil =>
    constructor
    · rintro ⟨⟩
      exact ⟨[], rfl, rfl⟩
    · rintro ⟨ss, none, rfl⟩
      rw [List.map_eq_nil_iff.mp none.symm]
      rfl
  | cons first rest ih =>
    rw [List.mapM_cons]
    simp only [Option.bind_eq_bind, Option.bind_eq_some_iff, textValue?_eq_some_iff, ih]
    constructor
    · rintro ⟨_, ⟨s, shown, rfl⟩, _, ⟨ss, others, rfl⟩, same⟩
      cases same
      exact ⟨s :: ss, by rw [List.map_cons, shown, others]; rfl, rfl⟩
    · rintro ⟨ss, shown, rfl⟩
      cases ss with
      | nil => cases shown
      | cons s ss =>
        obtain ⟨head, tail⟩ := List.cons.inj shown
        exact ⟨s.text, ⟨s, head, rfl⟩, ss.map Scalar.text, ⟨ss, tail, rfl⟩, rfl⟩

theorem isNull_scalar_iff {s : Scalar} : (Yaml.Node.scalar s).IsNull ↔
    s.style = .plain ∧ s.text ∈ ["", "~", "null", "Null", "NULL"] := by
  simp [Yaml.Node.IsNull]

theorem decode?_eq_some_iff (untagged : (d.withElements node).Untagged)
    (given : ¬ (d.withElements node).IsNull) :
    decode? d v node = some x ↔ v.rule.Fits (d.withElements node) x := by
  rw [decode?]
  cases node with
  | scalar s =>
    have plain : d.withElements (.scalar s) = .scalar s := rfl
    rw [plain] at untagged given ⊢
    have untagged := untagged.tag
    cases v.rule with
    | requiredText | optionalText => simp [textValue?, SettingRule.Fits, eq_comm]
    | percentage | count =>
      simp [countValue?_scalar_iff untagged, SettingRule.Fits, eq_comm, and_assoc]
    | flag => simp [truthValue?_scalar_iff untagged, SettingRule.Fits, eq_comm, and_assoc]
    | types =>
      have occupied : isEmptyPlain s = false := by
        rw [isNull_scalar_iff] at given
        simp only [isEmptyPlain, Bool.and_eq_false_iff, decide_eq_false_iff_not]
        by_cases plain : s.style = .plain
        · exact .inr (by simpa [plain] using fun empty => given ⟨plain, by simp [empty]⟩)
        · exact .inl plain
      simp [textsValue?, occupied, SettingRule.Fits]
  | sequence xs =>
    cases v.rule with
    | types =>
      simp only [Option.map_eq_some_iff, textsValue?_sequence_iff, SettingRule.Fits,
        Document.withElements, Yaml.Node.sequence.injEq]
      constructor
      · rintro ⟨_, ⟨ss, shown, rfl⟩, rfl⟩
        exact ⟨ss, shown, rfl⟩
      · rintro ⟨ss, shown, rfl⟩
        exact ⟨_, ⟨ss, shown, rfl⟩, rfl⟩
    | _ => exact ⟨nofun, nofun⟩
  | _ => cases v.rule <;> exact ⟨nofun, nofun⟩

theorem isGiven?_of_null {s : Scalar} (untagged : s.tag = none)
    (null : (Yaml.Node.scalar s).IsNull) : isGiven? s = some false := by
  obtain ⟨plain, spelt⟩ := isNull_scalar_iff.mp null
  rw [isGiven?, untagged, if_neg (by simp [plain])]
  simp only [List.mem_cons, List.not_mem_nil, or_false] at spelt
  rcases spelt with text | text | text | text | text <;> rw [text] <;> rfl

theorem isGiven?_of_ink {s : Scalar} (untagged : s.tag = none)
    (ink : ¬ (Yaml.Node.scalar s).IsNull) : isGiven? s = some true := by
  rw [isNull_scalar_iff] at ink
  rw [isGiven?, untagged]
  by_cases plain : s.style = .plain
  · have spelt : s.text ∉ ["", "~", "null", "Null", "NULL"] := fun spelt => ink ⟨plain, spelt⟩
    simp only [List.mem_cons, List.not_mem_nil, or_false, not_or] at spelt
    simp [plain, isNullText, spelt]
  · rw [if_pos plain]

theorem fieldValue?_eq_some_iff {y : Option SettingValue}
    (untagged : (d.withElements node).Untagged) :
    fieldValue? (decode? d v) node = some y ↔
      (d.withElements node).IsNull ∧ y = none ∨
      ¬ (d.withElements node).IsNull ∧ ∃ x, v.rule.Fits (d.withElements node) x ∧ y = some x := by
  have given (ink : ¬ (d.withElements node).IsNull) :
      (decode? d v node).map some = some y ↔
        ∃ x, v.rule.Fits (d.withElements node) x ∧ y = some x := by
    rw [Option.map_eq_some_iff]
    simp only [decode?_eq_some_iff untagged ink]
    constructor <;> rintro ⟨x, fits, rfl⟩ <;> exact ⟨x, fits, rfl⟩
  by_cases null : (d.withElements node).IsNull
  · obtain ⟨s, rfl⟩ : ∃ s, node = .scalar s := by
      obtain ⟨s, shown, -⟩ := null
      cases node with
      | scalar s => exact ⟨s, rfl⟩
      | _ => cases shown
    have plain : d.withElements (.scalar s) = .scalar s := rfl
    rw [plain] at untagged null ⊢
    rw [fieldValue?, isGiven?_of_null untagged.tag null]
    simp [null, eq_comm]
  · have whole : fieldValue? (decode? d v) node = (decode? d v node).map some := by
      cases node with
      | scalar s =>
        rw [fieldValue?, isGiven?_of_ink untagged.tag null]
        cases decode? d v (.scalar s) <;> rfl
      | _ => rfl
    rw [whole, given null]
    simp [null]

end Values

section Fields
variable {d : Document} {named : List (String × Yaml.Node)} {s : Settings} {v : Variable}

theorem field?_map {α β : Type} (wrap : α → β) (decode : Yaml.Node → Option α) (name : String) :
    field? named name (fun node => (decode node).map wrap) =
      (field? named name decode).map (Option.map wrap) := by
  rw [field?, field?]
  cases named.lookup name with
  | none => rfl
  | some node =>
    cases node with
    | scalar s =>
      simp only [fieldValue?]
      cases isGiven? s with
      | none => rfl
      | some given => cases given <;> cases decode (.scalar s) <;> rfl
    | sequence xs => cases decoded : decode (.sequence xs) <;> simp [fieldValue?, decoded]
    | mapping es => cases decoded : decode (.mapping es) <;> simp [fieldValue?, decoded]
    | «alias» number => cases decoded : decode (.alias number) <;> simp [fieldValue?, decoded]

theorem fields_of_ofEntries? (read : ofEntries? d named = some s) :
    areFieldNames (named.map Prod.fst) = true ∧
      ∀ v, field? named v.fieldName (decode? d v) = some (s.value? v) := by
  have taken {α : Type} {wrap : α → SettingValue} {decode : Yaml.Node → Option α} {name : String}
      {a : Option α} (found : field? named name decode = some a) :
      field? named name (fun node => (decode node).map wrap) = some (a.map wrap) := by
    rw [field?_map, found]
    rfl
  rw [ofEntries?] at read
  split at read
  · next names =>
    obtain ⟨_, groupId, read⟩ := Option.bind_eq_some_iff.mp read
    obtain ⟨_, region, read⟩ := Option.bind_eq_some_iff.mp read
    obtain ⟨_, apiKey, read⟩ := Option.bind_eq_some_iff.mp read
    obtain ⟨_, displayName, read⟩ := Option.bind_eq_some_iff.mp read
    obtain ⟨_, spotTotal, read⟩ := Option.bind_eq_some_iff.mp read
    obtain ⟨_, spotOne, read⟩ := Option.bind_eq_some_iff.mp read
    obtain ⟨_, monitoring, read⟩ := Option.bind_eq_some_iff.mp read
    obtain ⟨_, maxHours, read⟩ := Option.bind_eq_some_iff.mp read
    obtain ⟨_, types, read⟩ := Option.bind_eq_some_iff.mp read
    obtain ⟨_, vcpus, read⟩ := Option.bind_eq_some_iff.mp read
    obtain ⟨_, instances, read⟩ := Option.bind_eq_some_iff.mp read
    obtain ⟨_, spareCpu, read⟩ := Option.bind_eq_some_iff.mp read
    obtain ⟨_, spareMemory, read⟩ := Option.bind_eq_some_iff.mp read
    obtain ⟨_, osFamily, read⟩ := Option.bind_eq_some_iff.mp read
    obtain ⟨_, endpoint, read⟩ := Option.bind_eq_some_iff.mp read
    obtain ⟨_, stateEndpoint, read⟩ := Option.bind_eq_some_iff.mp read
    cases read
    refine ⟨names, fun v => ?_⟩
    cases v with
    | groupId => exact taken groupId
    | region => exact taken region
    | apiKey => exact taken apiKey
    | displayName => exact taken displayName
    | maxSpotPercentTotal => exact taken spotTotal
    | maxSpotPercentOneMarket => exact taken spotOne
    | detailedMonitoring => exact taken monitoring
    | maxHoursInstanceAge => exact taken maxHours
    | instanceTypes => exact taken types
    | targetCapacityVcpus => exact taken vcpus
    | targetCapacityInstances => exact taken instances
    | targetSpareCpuPercent => exact taken spareCpu
    | targetSpareMemoryPercent => exact taken spareMemory
    | osFamily => exact taken osFamily
    | apiEndpoint => exact taken endpoint
    | clusterStateEndpoint => exact taken stateEndpoint
  · cases read

theorem ofEntries?_of_fields (names : areFieldNames (named.map Prod.fst) = true)
    (each : ∀ v, ∃ y, field? named v.fieldName (decode? d v) = some y) :
    ∃ s, ofEntries? d named = some s := by
  have taken {α : Type} {wrap : α → SettingValue} {decode : Yaml.Node → Option α} {name : String}
      (found : ∃ y, field? named name (fun node => (decode node).map wrap) = some y) :
      ∃ a, field? named name decode = some a := by
    obtain ⟨y, found⟩ := found
    rw [field?_map] at found
    obtain ⟨a, found, -⟩ := Option.map_eq_some_iff.mp found
    exact ⟨a, found⟩
  obtain ⟨_, groupId⟩ := taken (each .groupId)
  obtain ⟨_, region⟩ := taken (each .region)
  obtain ⟨_, apiKey⟩ := taken (each .apiKey)
  obtain ⟨_, displayName⟩ := taken (each .displayName)
  obtain ⟨_, spotTotal⟩ := taken (each .maxSpotPercentTotal)
  obtain ⟨_, spotOne⟩ := taken (each .maxSpotPercentOneMarket)
  obtain ⟨_, monitoring⟩ := taken (each .detailedMonitoring)
  obtain ⟨_, maxHours⟩ := taken (each .maxHoursInstanceAge)
  obtain ⟨_, types⟩ := taken (each .instanceTypes)
  obtain ⟨_, vcpus⟩ := taken (each .targetCapacityVcpus)
  obtain ⟨_, instances⟩ := taken (each .targetCapacityInstances)
  obtain ⟨_, spareCpu⟩ := taken (each .targetSpareCpuPercent)
  obtain ⟨_, spareMemory⟩ := taken (each .targetSpareMemoryPercent)
  obtain ⟨_, osFamily⟩ := taken (each .osFamily)
  obtain ⟨_, endpoint⟩ := taken (each .apiEndpoint)
  obtain ⟨_, stateEndpoint⟩ := taken (each .clusterStateEndpoint)
  simp only [Variable.fieldName] at *
  rw [ofEntries?, if_pos names, groupId, region, apiKey, displayName, spotTotal, spotOne, monitoring,
    maxHours, types, vcpus, instances, spareCpu, spareMemory, osFamily, endpoint, stateEndpoint]
  exact ⟨_, rfl⟩

end Fields

section Entries
variable {d : Document} {entries : List (Yaml.Node × Yaml.Node)}
  {named : List (String × Yaml.Node)} {listing : List (Option String × Yaml.Node)} {s : Settings}
  {v : Variable} {y : Option SettingValue}

theorem shown_of_resolve? {node shown : Yaml.Node} (resolved : d.resolve? node = some shown) :
    d.shown node = shown := by
  rw [Document.shown, resolved]
  rfl

theorem withName?_eq_some_iff {e : Yaml.Node × Yaml.Node} {p : String × Yaml.Node} :
    withName? d e = some p ↔
      textValue? (d.shown e.1) = some p.1 ∧ d.resolve? e.2 = some p.2 := by
  obtain ⟨name, node⟩ := p
  have named : withName? d e = ((d.resolve? e.1).bind textValue?).bind fun name =>
      (d.resolve? e.2).bind fun node => some (name, node) := by
    rw [Option.bind_assoc]
    rfl
  rw [named, resolve?_bind_textValue?]
  simp only [Option.bind_eq_some_iff, Option.some.injEq, Prod.mk.injEq]
  constructor
  · rintro ⟨_, text, _, value, rfl, rfl⟩
    exact ⟨text, value⟩
  · rintro ⟨text, value⟩
    exact ⟨name, text, node, value, rfl, rfl⟩

theorem listing_of_mapM (read : entries.mapM (withName? d) = some named) :
    d.listing entries = named.map fun p => (some p.1, d.withElements p.2) := by
  rw [Document.listing]
  induction entries generalizing named with
  | nil =>
    cases read
    rfl
  | cons e entries ih =>
    rw [List.mapM_cons] at read
    obtain ⟨p, first, read⟩ := Option.bind_eq_some_iff.mp read
    obtain ⟨rest, others, read⟩ := Option.bind_eq_some_iff.mp read
    cases read
    obtain ⟨name, value⟩ := withName?_eq_some_iff.mp first
    rw [List.map_cons, List.map_cons, ih others, name, shown_of_resolve? value]

theorem mapM_of_each (each : ∀ e ∈ entries, ∃ p, withName? d e = some p) :
    ∃ named, entries.mapM (withName? d) = some named := by
  induction entries with
  | nil => exact ⟨[], rfl⟩
  | cons e entries ih =>
    obtain ⟨⟨p, first⟩, rest⟩ := List.forall_mem_cons.mp each
    obtain ⟨named, others⟩ := ih rest
    rw [List.mapM_cons, first, others]
    exact ⟨p :: named, rfl⟩

def Gives (listing : List (Option String × Yaml.Node)) (v : Variable) (y : Option SettingValue) :
    Prop :=
  (∀ node, (some v.fieldName, node) ∉ listing) ∧ y = none ∨
    ∃ node, (some v.fieldName, node) ∈ listing ∧
      (node.IsNull ∧ y = none ∨ ¬ node.IsNull ∧ ∃ x, v.rule.Fits node x ∧ y = some x)

theorem unique_of_once (once : (listing.map Prod.fst).Nodup) {key : Option String}
    {node node' : Yaml.Node} (member : (key, node) ∈ listing) (member' : (key, node') ∈ listing) :
    node = node' :=
  congrArg Prod.snd (List.inj_on_of_nodup_map once member member' rfl)

theorem field?_eq_some_iff (distinct : (named.map Prod.fst).Nodup)
    (untagged : ∀ p ∈ named, (d.withElements p.2).Untagged) :
    field? named v.fieldName (decode? d v) = some y ↔
      Gives (named.map fun p => (some p.1, d.withElements p.2)) v y := by
  have member {node : Yaml.Node} :
      (some v.fieldName, node) ∈ (named.map fun p => (some p.1, d.withElements p.2)) ↔
        ∃ value, named.lookup v.fieldName = some value ∧ d.withElements value = node := by
    rw [List.mem_map]
    constructor
    · rintro ⟨⟨name, value⟩, among, same⟩
      cases same
      exact ⟨value, (Dictionary.lookup_eq_some_iff_mem distinct).mpr among, rfl⟩
    · rintro ⟨value, found, rfl⟩
      exact ⟨(v.fieldName, value), (Dictionary.lookup_eq_some_iff_mem distinct).mp found, rfl⟩
  rw [field?, Gives]
  simp only [member]
  cases found : named.lookup v.fieldName with
  | none => simp [eq_comm]
  | some value =>
    have among := (Dictionary.lookup_eq_some_iff_mem distinct).mp found
    rw [fieldValue?_eq_some_iff (untagged _ among)]
    simp

theorem gives_some_iff {x : SettingValue} : Gives listing v (some x) ↔
    ∃ node, (some v.fieldName, node) ∈ listing ∧ ¬ node.IsNull ∧ v.rule.Fits node x := by
  simp [Gives]

theorem names_of_named : (named.map fun p => (some p.1, d.withElements p.2)).map Prod.fst =
    (named.map Prod.fst).map some := by
  rw [List.map_map, List.map_map]
  rfl

theorem not_fits_alias {rule : SettingRule} {number : Nat} {x : SettingValue} :
    ¬ rule.Fits (.alias number) x := by
  cases rule <;> simp [SettingRule.Fits]

theorem resolve?_of_fitting {node : Yaml.Node}
    (meant : (d.withElements (d.shown node)).IsNull ∨
      ∃ x, v.rule.Fits (d.withElements (d.shown node)) x) :
    ∃ value, d.resolve? node = some value := by
  cases node with
  | «alias» number =>
    cases found : d.resolve? (.alias number) with
    | some value => exact ⟨value, rfl⟩
    | none =>
      have shown : d.withElements (d.shown (.alias number)) = .alias number := by
        rw [Document.shown, found]
        rfl
      rw [shown] at meant
      rcases meant with ⟨s, same, -⟩ | ⟨x, fits⟩
      · cases same
      · exact absurd fits not_fits_alias
  | _ => exact ⟨_, rfl⟩

theorem Accepts.perm {listing' : List (Option String × Yaml.Node)} (accepted : Accepts listing)
    (perm : listing.Perm listing') : Accepts listing' where
  known e among := accepted.known e (perm.mem_iff.mpr among)
  once := (perm.map Prod.fst).nodup_iff.mp accepted.once
  fits e among := accepted.fits e (perm.mem_iff.mpr among)

theorem Accepts.gives (accepted : Accepts listing) (v : Variable) : ∃ y, Gives listing v y := by
  by_cases there : ∃ node, (some v.fieldName, node) ∈ listing
  · obtain ⟨node, member⟩ := there
    by_cases null : node.IsNull
    · exact ⟨none, .inr ⟨node, member, .inl ⟨null, rfl⟩⟩⟩
    · obtain ⟨x, fits⟩ := (accepted.fits _ member v rfl).resolve_left null
      exact ⟨some x, .inr ⟨node, member, .inr ⟨null, x, fits, rfl⟩⟩⟩
  · exact ⟨none, .inl ⟨fun node member => there ⟨node, member⟩, rfl⟩⟩

theorem ofDocument?_mapping (mapping : d.content = .mapping entries) :
    ofDocument? d = (entries.mapM (withName? d)).bind (ofEntries? d) := by
  rw [ofDocument?, mapping]

section Described
variable (mapping : d.content = .mapping entries)
  (untagged : ∀ e ∈ d.listing entries, e.2.Untagged)
include mapping untagged

theorem describes_of_ofDocument? (read : ofDocument? d = some s) :
    Accepts (d.listing entries) ∧ Describes (d.listing entries) s := by
  rw [ofDocument?_mapping mapping] at read
  obtain ⟨named, taken, read⟩ := Option.bind_eq_some_iff.mp read
  obtain ⟨names, fields⟩ := fields_of_ofEntries? read
  obtain ⟨known, distinct⟩ := areFieldNames_iff.mp names
  rw [listing_of_mapM taken] at untagged ⊢
  have clean : ∀ p ∈ named, (d.withElements p.2).Untagged := fun p among =>
    untagged _ (List.mem_map_of_mem among)
  have given (v : Variable) {y : Option SettingValue} :
      Gives (named.map fun p => (some p.1, d.withElements p.2)) v y ↔ s.value? v = y := by
    rw [← field?_eq_some_iff distinct clean, fields v, Option.some.injEq]
  have once : ((named.map fun p => (some p.1, d.withElements p.2)).map Prod.fst).Nodup := by
    rw [names_of_named]
    exact distinct.map (Option.some_injective _)
  refine ⟨⟨?_, once, ?_⟩, fun v x => ?_⟩
  · intro e among
    obtain ⟨p, here, rfl⟩ := List.mem_map.mp among
    obtain ⟨v, same⟩ := known p.1 (List.mem_map_of_mem here)
    exact ⟨v, congrArg some same⟩
  · -- the field was read from some entry of its name, and there is only one
    rintro ⟨_, node⟩ among v rfl
    rcases (given v).mpr rfl with ⟨missing, -⟩ | ⟨node', there, meant⟩
    · exact absurd among (missing node)
    · rw [unique_of_once once among there]
      rcases meant with ⟨null, -⟩ | ⟨-, x, fits, -⟩
      · exact .inl null
      · exact .inr ⟨x, fits⟩
  · rw [← given v, gives_some_iff]

theorem ofDocument?_of_accepts (accepted : Accepts (d.listing entries)) :
    ∃ s, ofDocument? d = some s := by
  -- no entry stops the reader: it has a name, and a value that fits is not a dangling alias
  have each : ∀ e ∈ entries, ∃ p, withName? d e = some p := by
    intro e among
    have listed : (textValue? (d.shown e.1), d.withElements (d.shown e.2)) ∈ d.listing entries :=
      List.mem_map_of_mem among
    obtain ⟨v, key⟩ := accepted.known _ listed
    obtain ⟨value, resolved⟩ := resolve?_of_fitting (accepted.fits _ listed v key)
    exact ⟨(v.fieldName, value), withName?_eq_some_iff.mpr ⟨key, resolved⟩⟩
  obtain ⟨named, taken⟩ := mapM_of_each each
  have listed := listing_of_mapM taken
  rw [listed] at untagged accepted
  have distinct : (named.map Prod.fst).Nodup := by
    have once := accepted.once
    rw [names_of_named] at once
    exact once.of_map some
  have known : ∀ name ∈ named.map Prod.fst, ∃ v : Variable, name = v.fieldName := by
    intro name among
    obtain ⟨p, here, rfl⟩ := List.mem_map.mp among
    obtain ⟨v, key⟩ := accepted.known _ (List.mem_map_of_mem here)
    exact ⟨v, Option.some.inj key⟩
  rw [ofDocument?_mapping mapping, taken, Option.bind_some]
  refine ofEntries?_of_fields (areFieldNames_iff.mpr ⟨known, distinct⟩) fun v => ?_
  obtain ⟨y, given⟩ := accepted.gives v
  exact ⟨y, (field?_eq_some_iff distinct fun p among =>
    untagged _ (List.mem_map_of_mem among)).mpr given⟩

theorem ofDocument?_of_perm {d' : Document} {entries' : List (Yaml.Node × Yaml.Node)}
    (mapping' : d'.content = .mapping entries')
    (perm : (d'.listing entries').Perm (d.listing entries)) : ofDocument? d' = ofDocument? d := by
  have untagged' : ∀ e ∈ d'.listing entries', e.2.Untagged := by
    intro e among
    exact untagged e (perm.mem_iff.mp among)
  cases read : ofDocument? d with
  | none =>
    refine Option.eq_none_iff_forall_ne_some.mpr fun s read' => ?_
    obtain ⟨accepted', -⟩ := describes_of_ofDocument? mapping' untagged' read'
    obtain ⟨t, there⟩ := ofDocument?_of_accepts mapping untagged (accepted'.perm perm)
    rw [read] at there
    cases there
  | some s =>
    obtain ⟨accepted, described⟩ := describes_of_ofDocument? mapping untagged read
    obtain ⟨t, read'⟩ := ofDocument?_of_accepts mapping' untagged' (accepted.perm perm.symm)
    obtain ⟨-, described'⟩ := describes_of_ofDocument? mapping' untagged' read'
    have same : t = s := by
      refine eq_of_values fun v => Option.ext fun x => ?_
      rw [described' v x, described v x]
      simp only [perm.mem_iff]
    rw [read', same]

end Described

theorem ofYaml_of_document {text : String} (ink : Text.isBlankText text = false)
    (read : Document.read? text = some (some d)) : ofYaml text =
      match ofDocument? d with
      | some s => .ok s
      | none => .error (.yaml "the document does not describe settings") := by
  rw [ofYaml, ink, read]
  rfl

end Entries

/-- A file with one mapping is read by the names of its entries, whatever their order: each has to be
that of a setting, none twice, with null or a value of the kind of the setting. -/
theorem file_settings_read_by_name :
    (∀ text, Text.isBlankText text = true → ofYaml text = .ok {}) ∧
    (∀ text d, Text.isBlankText text = false → Document.read? text = some (some d) →
      (∀ s, ofYaml text = .ok s ↔ ofDocument? d = some s) ∧
      (ofDocument? d = none → ∃ detail, ofYaml text = .error (.yaml detail))) ∧
    ∀ (d : Document) entries, d.content = .mapping entries →
      (∀ e ∈ d.listing entries, e.2.Untagged) →
        ((∃ s, ofDocument? d = some s) ↔ Accepts (d.listing entries)) ∧
        (∀ s, ofDocument? d = some s → Describes (d.listing entries) s) ∧
        ∀ (d' : Document) entries', d'.content = .mapping entries' →
          (d'.listing entries').Perm (d.listing entries) → ofDocument? d' = ofDocument? d := by
  refine ⟨fun text blank => if_pos blank, ?_, ?_⟩
  · intro text d ink read
    rw [ofYaml_of_document ink read]
    cases ofDocument? d <;> simp
  · intro d entries mapping untagged
    refine ⟨⟨?_, ofDocument?_of_accepts mapping untagged⟩, ?_, ?_⟩
    · rintro ⟨s, read⟩
      exact (describes_of_ofDocument? mapping untagged read).1
    · intro s read
      exact (describes_of_ofDocument? mapping untagged read).2
    · intro d' entries' mapping' perm
      exact ofDocument?_of_perm mapping untagged mapping' perm

theorem reordered_file_read_alike :
    let text := "region: ~\ntarget_capacity_vcpus: 0x1F\n"
    let text' := "target_capacity_vcpus: 0x1F\nregion: ~\n"
    ofYaml " \n" = .ok {} ∧ ∃ s, ofYaml text = .ok s ∧ ofYaml text' = .ok s ∧
      s.value? .targetCapacityVcpus = some (.count 31) ∧ s.value? .region = none := by
  intro text text'
  let node (t : String) : Yaml.Node := .scalar { text := t }
  let region := (node "region", node "~")
  let vcpus := (node "target_capacity_vcpus", node "0x1F")
  let d : Document := { content := .mapping [region, vcpus] }
  let d' : Document := { content := .mapping [vcpus, region] }
  let tokens (name value : String) : List Yaml.Token :=
    [.key, .scalar name .plain, .value, .scalar value .plain]
  have scanned : Yaml.tokens? text = some (.blockMappingStart ::
      (tokens "region" "~" ++ tokens "target_capacity_vcpus" "0x1F" ++ [.blockEnd])) := by
    decide +kernel
  have scanned' : Yaml.tokens? text' = some (.blockMappingStart ::
      (tokens "target_capacity_vcpus" "0x1F" ++ tokens "region" "~" ++ [.blockEnd])) := by
    decide +kernel
  have read : Document.read? text = some (some d) := by
    rw [Document.read?, scanned]
    rfl
  have read' : Document.read? text' = some (some d') := by
    rw [Document.read?, scanned']
    rfl
  have ink : Text.isBlankText text = false := by decide +kernel
  have ink' : Text.isBlankText text' = false := by decide +kernel
  have listed : d.listing [region, vcpus] = [(some Variable.region.fieldName, node "~"),
      (some Variable.targetCapacityVcpus.fieldName, node "0x1F")] := rfl
  have null : (node "~").IsNull := isNull_scalar_iff.mpr ⟨rfl, by decide⟩
  have given : ¬ (node "0x1F").IsNull := fun null =>
    absurd (isNull_scalar_iff.mp null).2 (by decide)
  have counted : IsCount "0x1F".toList 31 := (readCount?_eq_some_iff.mp (by decide)).1
  have fits : SettingRule.count.Fits (node "0x1F") (.count 31) := ⟨_, 31, rfl, rfl, counted, rfl⟩
  obtain ⟨blank, texts, documents⟩ := file_settings_read_by_name
  obtain ⟨accepts, describes, reordered⟩ := documents d _ rfl <| by
    rw [listed]
    simp only [List.forall_mem_cons]
    exact ⟨.scalar _ rfl, .scalar _ rfl, List.forall_mem_nil _⟩
  rw [listed] at accepts describes
  have accepted : Accepts [(some Variable.region.fieldName, node "~"),
      (some Variable.targetCapacityVcpus.fieldName, node "0x1F")] := by
    refine ⟨?_, by decide, ?_⟩ <;> simp only [List.forall_mem_cons]
    · exact ⟨⟨_, rfl⟩, ⟨_, rfl⟩, List.forall_mem_nil _⟩
    · refine ⟨fun _ _ => .inl null, fun v key => .inr ⟨.count 31, ?_⟩, List.forall_mem_nil _⟩
      rw [← fieldName_inj (Option.some.inj key)]
      exact fits
  obtain ⟨s, found⟩ := accepts.mpr accepted
  have found' : ofDocument? d' = some s := by
    rw [reordered d' [vcpus, region] rfl (.swap _ _ _), found]
  refine ⟨blank _ (by decide), s, ((texts text d ink read).1 s).mpr found,
    ((texts text' d' ink' read').1 s).mpr found',
    (describes s found _ _).mpr ⟨_, by simp, given, fits⟩, ?_⟩
  refine Option.eq_none_iff_forall_ne_some.mpr fun x told => ?_
  obtain ⟨other, member, ink, -⟩ := (describes s found _ _).mp told
  simp only [List.mem_cons, Prod.mk.injEq, List.not_mem_nil, or_false] at member
  rcases member with ⟨-, rfl⟩ | ⟨key, -⟩
  · exact ink null
  · exact absurd key (by decide)

end Settings

end NodeScaling
