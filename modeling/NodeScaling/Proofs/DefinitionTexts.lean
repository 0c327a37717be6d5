import NodeScaling.Client
import NodeScaling.Proofs.CanonicalMembers
import NodeScaling.Proofs.JsonRoundTrip

/-!
The texts of a definition. Its own text is read back as the same definition, and so is every object
with the same fields, however its members are ordered and whatever further members it has. A field
of zero value may be null or missing.
-/
namespace NodeScaling

namespace Json

theorem eq_of_encoded {α : Type} {encode : α → Json} {decode : Json → Option α}
    (inverse : ∀ x, decode (encode x) = some x) {x y : α} (same : encode x = encode y) : x = y := by
  have read := inverse x
  rw [same, inverse] at read
  exact (Option.some.inj read).symm

theorem uint32?_of_int {j : Json} {n : Nat} (read : j.int? = some (n : Int))
    (fits : n < UInt32.size) : j.uint32? = some (UInt32.ofNat n) := by
  have within : (0 : Int) ≤ n ∧ (n : Int) < UInt32.size :=
    ⟨Int.natCast_nonneg _, Int.ofNat_lt.mpr fits⟩
  rw [uint32?, read, Option.bind_eq_bind, Option.bind_some, if_pos within, Int.toNat_natCast]

theorem uint32?_ofUInt32 (n : UInt32) : uint32? (.ofUInt32 n) = some n := by
  have read : int? (.ofUInt32 n) = some (n.toNat : Int) := by
    rw [ofUInt32, ofUInt64, Number.ofUInt64, int?, UInt32.toNat_toUInt64]
  rw [uint32?_of_int read n.toNat_lt_size, UInt32.ofNat_toNat]

theorem list?_ofStrings (xs : List String) :
    list? string? (.ofStrings xs) = some xs := by
  rw [ofStrings, list?]
  induction xs with
  | nil => rfl
  | cons x xs ih =>
    rw [List.map_cons, List.mapM_cons, ih]
    rfl

end Json

namespace ServiceError

theorem reported?_of_silent {ns : List (String × Json)}
    (silent : Json.valuesOf ["error"] ns = []) :
    reported? (.object ns) = none := by
  have slot : Json.field? 0 ["error"] (.object ns) = some .absent := by
    rw [Json.field?, silent]
  have record : Json.isRecord 1 (.object ns) = true := rfl
  rw [reported?, if_pos record, slot]
  rfl

end ServiceError

structure FieldText where
  name : String
  aliases : List String := []
  value : Json
  zero : Json

namespace FieldText

def names (f : FieldText) : List String :=
  f.name :: f.aliases

def member (f : FieldText) : String × Json :=
  (f.name, f.value)

/-- Members give each field once by one of its names, where a field of zero value may also be null or
missing. -/
inductive Spelt : List FieldText → List (String × Json) → Prop where
  | nil : Spelt [] []
  | given {f : FieldText} {fs : List FieldText} {ms : List (String × Json)} {name : String}
      {value : Json} (named : name ∈ f.names)
      (tells : value = f.value ∨ f.value = f.zero ∧ value = .null) (rest : Spelt fs ms) :
      Spelt (f :: fs) ((name, value) :: ms)
  | missing {f : FieldText} {fs : List FieldText} {ms : List (String × Json)}
      (isZero : f.value = f.zero) (rest : Spelt fs ms) : Spelt (f :: fs) ms

/-- What a record finds for a field: its value, or nothing or null for the zero value. -/
def FoundIn (f : FieldText) (ms : List (String × Json)) : Prop :=
  Json.valuesOf f.names ms = [f.value] ∨
    f.value = f.zero ∧ (Json.valuesOf f.names ms = [] ∨ Json.valuesOf f.names ms = [.null])

variable {f g : FieldText} {fs : List FieldText} {ms ns : List (String × Json)}

theorem FoundIn.once (found : f.FoundIn ms) : (Json.valuesOf f.names ms).length ≤ 1 := by
  rcases found with value | ⟨-, none | null⟩
  · simp [value]
  · simp [none]
  · simp [null]

theorem FoundIn.congr (found : f.FoundIn ms)
    (same : Json.valuesOf f.names ns = Json.valuesOf f.names ms) : f.FoundIn ns := by
  rw [FoundIn, same]
  exact found

theorem spelt_members (fs : List FieldText) : Spelt fs (fs.map member) := by
  induction fs with
  | nil => exact .nil
  | cons f fs ih => exact .given List.mem_cons_self (Or.inl rfl) ih

theorem Spelt.named (spelt : Spelt fs ms) : ∀ m ∈ ms, m.1 ∈ fs.flatMap names := by
  induction spelt with
  | nil => nofun
  | given named tells rest ih =>
    intro m member
    rw [List.flatMap_cons, List.mem_append]
    rcases List.mem_cons.mp member with rfl | later
    · exact Or.inl named
    · exact Or.inr (ih m later)
  | missing isZero rest ih =>
    intro m member
    rw [List.flatMap_cons, List.mem_append]
    exact Or.inr (ih m member)

theorem Spelt.silent (spelt : Spelt fs ms)
    (apart : ∀ a ∈ f.names, ∀ b ∈ fs.flatMap names, a ≠ b) : Json.valuesOf f.names ms = [] := by
  apply Json.valuesOf_eq_nil
  intro m member named
  exact apart m.1 named m.1 (spelt.named m member) rfl

theorem Spelt.found (spelt : Spelt fs ms) (distinct : (fs.flatMap names).Nodup) :
    ∀ f ∈ fs, f.FoundIn ms := by
  induction spelt with
  | nil => nofun
  | @given f fs ms name value named tells rest ih =>
    obtain ⟨-, others, apart⟩ := List.nodup_append.mp distinct
    intro g member
    rcases List.mem_cons.mp member with rfl | later
    · have found : Json.valuesOf g.names ((name, value) :: ms) = [value] := by
        rw [Json.valuesOf_cons_of_mem named, rest.silent apart]
      rcases tells with rfl | ⟨isZero, rfl⟩
      · exact Or.inl found
      · exact Or.inr ⟨isZero, Or.inr found⟩
    · have other : name ∉ g.names := by
        intro among
        exact apart name named name (List.mem_flatMap.mpr ⟨g, later, among⟩) rfl
      exact (ih others g later).congr (Json.valuesOf_cons_of_not_mem other)
  | missing isZero rest ih =>
    obtain ⟨-, others, apart⟩ := List.nodup_append.mp distinct
    intro g member
    rcases List.mem_cons.mp member with rfl | later
    · exact Or.inr ⟨isZero, Or.inl (rest.silent apart)⟩
    · exact ih others g later

theorem FoundIn.among (found : f.FoundIn ms) {further written : List (String × Json)}
    (foreign : ∀ m ∈ further, m.1 ∉ f.names) (order : written.Perm (ms ++ further)) :
    f.FoundIn written := by
  have same : Json.valuesOf f.names (ms ++ further) = Json.valuesOf f.names ms := by
    rw [Json.valuesOf_append, Json.valuesOf_eq_nil foreign, List.append_nil]
  have once : (Json.valuesOf f.names (ms ++ further)).length ≤ 1 := by
    rw [same]
    exact found.once
  exact found.congr ((Json.valuesOf_perm once order).trans same)

theorem FoundIn.canonical (found : f.FoundIn ms) {levels : Nat}
    (fixed : Json.canonical? levels f.value = some f.value)
    (mapped : (Json.valuesOf f.names ms).length ≤ 1 →
      (Json.valuesOf f.names ms).mapM (Json.canonical? levels) = some (Json.valuesOf f.names ns)) :
    f.FoundIn ns := by
  have values := mapped found.once
  apply found.congr
  rcases found with value | ⟨-, none | null⟩
  · rw [value, List.mapM_cons, fixed] at values
    rw [value]
    exact (Option.some.inj values).symm
  · rw [none] at values ⊢
    exact (Option.some.inj values).symm
  · rw [null] at values ⊢
    exact (Option.some.inj values).symm

end FieldText

namespace Definition

def fieldTexts (d : Definition) : List FieldText := [
  { name := "aws_autoscaling_group_name", value := .string d.groupId, zero := .string "" },
  { name := "aws_region", value := .string d.region, zero := .string "" },
  { name := "AppType", aliases := ["app_type"], value := .string d.appType, zero := .string "" },
  { name := "instance_types", value := .ofStrings d.instanceTypes, zero := .ofStrings [] },
  { name := "scale_mode", value := .string d.scaleMode, zero := .string "" },
  { name := "max_spot_percent_total", value := .ofUInt32 d.maxSpotPercentTotal,
    zero := .ofUInt32 0 },
  { name := "max_spot_percent_one_market", value := .ofUInt32 d.maxSpotPercentOneMarket,
    zero := .ofUInt32 0 },
  { name := "target_spare_cpu_percent", value := .ofUInt32 d.targetSpareCpuPercent,
    zero := .ofUInt32 0 },
  { name := "cluster_name", value := .string d.clusterName, zero := .string "" },
  { name := "target_spare_memory_percent", value := .ofUInt32 d.targetSpareMemoryPercent,
    zero := .ofUInt32 0 },
  { name := "queue_name", value := .string d.queueName, zero := .string "" },
  { name := "target_queue_size", value := .ofUInt32 d.targetQueueSize, zero := .ofUInt32 0 },
  { name := "instance_spin_up_seconds", value := .ofUInt32 d.instanceSpinUpSeconds,
    zero := .ofUInt32 0 },
  { name := "max_minutes_to_target_queue_size", value := .ofUInt32 d.maxMinutesToTargetQueueSize,
    zero := .ofUInt32 0 },
  { name := "display_name", value := .string d.displayName, zero := .string "" },
  { name := "detailed_monitoring_enabled", value := .bool d.detailedMonitoringEnabled,
    zero := .bool false },
  { name := "autoscalr_enabled", value := .bool d.enabled, zero := .bool false },
  { name := "os_family", value := .string d.osFamily, zero := .string "" },
  { name := "max_hours_instance_age", value := .ofUInt32 d.maxHoursInstanceAge,
    zero := .ofUInt32 0 },
  { name := "target_capacity", value := .ofUInt32 d.targetCapacity, zero := .ofUInt32 0 }]

theorem toJson_eq (d : Definition) : d.toJson = .object (d.fieldTexts.map FieldText.member) := rfl

def fieldNames : List String :=
  (fieldTexts {}).flatMap FieldText.names

theorem names_of_fieldTexts (d : Definition) :
    d.fieldTexts.flatMap FieldText.names = fieldNames := rfl

theorem fieldNames_distinct : fieldNames.Nodup := by decide

inductive FieldValue : Json → Prop where
  | text (s : String) : FieldValue (.string s)
  | count (n : UInt32) : FieldValue (.ofUInt32 n)
  | flag (b : Bool) : FieldValue (.bool b)
  | texts (xs : List String) : FieldValue (.ofStrings xs)

theorem FieldValue.exact {value : Json} (field : FieldValue value) : value.Exact := by
  cases field with
  | text s => exact .string s
  | count n => exact .int _ _
  | flag b => exact .bool b
  | texts xs =>
    apply Json.Exact.array
    intro x member
    obtain ⟨s, -, rfl⟩ := List.mem_map.mp member
    exact .string s

theorem FieldValue.canonical {value : Json} (field : FieldValue value) (levels : Nat) :
    Json.canonical? (levels + 1) value = some value := by
  cases field with
  | text | count | flag => rfl
  | texts xs => exact Json.canonical?_ofStrings levels xs

theorem fieldValues (d : Definition) : ∀ f ∈ d.fieldTexts, FieldValue f.value := by
  simp only [fieldTexts, List.forall_mem_cons]
  exact ⟨.text _, .text _, .text _, .texts _, .text _, .count _, .count _, .count _, .text _,
    .count _, .text _, .count _, .count _, .count _, .text _, .flag _, .flag _, .text _, .count _,
    .count _, by nofun⟩

theorem exact_toJson (d : Definition) : d.toJson.Exact := by
  rw [toJson_eq]
  apply Json.Exact.object
  intro m member
  obtain ⟨f, field, rfl⟩ := List.mem_map.mp member
  exact (d.fieldValues f field).exact

theorem zeroField?_of_found {α : Type} {encode : α → Json} {decode : Json → Option α} {zero x : α}
    {name : String} {aliases : List String} {ms : List (String × Json)} (place : Nat)
    (inverse : ∀ y, decode (encode y) = some y) (given : ∀ y, encode y ≠ .null)
    (found : FieldText.FoundIn ⟨name, aliases, encode x, encode zero⟩ ms) :
    zeroField? (.object ms) place (name :: aliases) zero decode = some x := by
  have decoded : Json.orNull? zero decode (encode x) = some x := by
    rw [Json.orNull?, inverse]
    exact given x
  have names : FieldText.names ⟨name, aliases, encode x, encode zero⟩ = name :: aliases := rfl
  rw [FieldText.FoundIn, names] at found
  rw [zeroField?, Json.field?]
  rcases found with value | ⟨isZero, found⟩
  · rw [value]
    exact decoded
  · have same : x = zero := Json.eq_of_encoded inverse isZero
    -- with no value or null the field is read as its zero value, which it has
    rcases found with none | null
    · rw [none, same]
      rfl
    · rw [null, same]
      rfl

section Fields
variable {name : String} {ms : List (String × Json)} (place : Nat)

theorem textField?_of_found {x : String} {aliases : List String}
    (found : FieldText.FoundIn ⟨name, aliases, .string x, .string ""⟩ ms) :
    textField? (.object ms) place (name :: aliases) = some x :=
  zeroField?_of_found place (fun _ => rfl) (by nofun) found

theorem countField?_of_found {x : UInt32}
    (found : FieldText.FoundIn ⟨name, [], .ofUInt32 x, .ofUInt32 0⟩ ms) :
    countField? (.object ms) place name = some x :=
  zeroField?_of_found place Json.uint32?_ofUInt32 (by nofun) found

theorem flagField?_of_found {x : Bool}
    (found : FieldText.FoundIn ⟨name, [], .bool x, .bool false⟩ ms) :
    flagField? (.object ms) place name = some x :=
  zeroField?_of_found place (fun _ => rfl) (by nofun) found

theorem typesField?_of_found {x : List String}
    (found : FieldText.FoundIn ⟨name, [], .ofStrings x, .ofStrings []⟩ ms) :
    zeroField? (.object ms) place [name] [] (Json.list? Json.string?) = some x :=
  zeroField?_of_found place Json.list?_ofStrings (by nofun) found

end Fields

theorem ofJson?_of_found (d : Definition) {ms : List (String × Json)}
    (found : ∀ f ∈ d.fieldTexts, f.FoundIn ms) : ofJson? (.object ms) = some d := by
  simp only [fieldTexts, List.forall_mem_cons] at found
  obtain ⟨groupId, region, appType, instanceTypes, scaleMode, spotTotal, spotOne, spareCpu, cluster,
    spareMemory, queue, queueSize, spinUp, toQueueSize, display, monitoring, enabled, osFamily,
    maxHours, target, -⟩ := found
  have record : Json.isRecord fieldCount (.object ms) = true := rfl
  rw [ofJson?, if_pos record, textField?_of_found 0 groupId, textField?_of_found 1 region,
    textField?_of_found 2 appType, typesField?_of_found 3 instanceTypes,
    textField?_of_found 4 scaleMode, countField?_of_found 5 spotTotal,
    countField?_of_found 6 spotOne, countField?_of_found 7 spareCpu, textField?_of_found 8 cluster,
    countField?_of_found 9 spareMemory, textField?_of_found 10 queue,
    countField?_of_found 11 queueSize, countField?_of_found 12 spinUp,
    countField?_of_found 13 toQueueSize, textField?_of_found 14 display,
    flagField?_of_found 15 monitoring, flagField?_of_found 16 enabled,
    textField?_of_found 17 osFamily, countField?_of_found 18 maxHours,
    countField?_of_found 19 target]
  rfl

/-- Members give a definition: every field that is not left out as a zero value, and any further
members of foreign names, in any order. -/
def GivenBy (d : Definition) (members : List (String × Json)) : Prop :=
  ∃ own further, FieldText.Spelt d.fieldTexts own ∧
    (∀ m ∈ further, m.1 ∉ fieldNames ++ ["error"]) ∧ members.Perm (own ++ further)

def GivenIn (d : Definition) (body : ByteArray) : Prop :=
  (Reply.bodyValue? body).isSome ∧ ∃ members, d.GivenBy members ∧
    (Json.readBytes? body = some (.object members) ∨
      Reply.bodyValue? body = some (.object members))

theorem givenBy_toJson (d : Definition) : d.GivenBy (d.fieldTexts.map FieldText.member) :=
  ⟨d.fieldTexts.map FieldText.member, [], FieldText.spelt_members _, by nofun, by simp⟩

section Given
variable {d : Definition} {members : List (String × Json)}

theorem GivenBy.found (given : d.GivenBy members) : ∀ f ∈ d.fieldTexts, f.FoundIn members := by
  obtain ⟨own, further, spelt, foreign, order⟩ := given
  intro f field
  have distinct : (d.fieldTexts.flatMap FieldText.names).Nodup := by
    rw [names_of_fieldTexts]
    exact fieldNames_distinct
  refine (spelt.found distinct f field).among ?_ order
  intro m member named
  have among : m.1 ∈ fieldNames := by
    rw [← d.names_of_fieldTexts]
    exact List.mem_flatMap.mpr ⟨f, field, named⟩
  exact foreign m member (List.mem_append_left _ among)

theorem GivenBy.silent (given : d.GivenBy members) : Json.valuesOf ["error"] members = [] := by
  obtain ⟨own, further, spelt, foreign, order⟩ := given
  apply Json.valuesOf_eq_nil
  intro m member named
  rcases List.mem_append.mp (order.mem_iff.mp member) with field | other
  · have clash : "error" ∉ fieldNames := by decide
    have among := spelt.named m field
    rw [names_of_fieldTexts, List.mem_singleton.mp named] at among
    exact clash among
  · exact foreign m other (List.mem_append_right _ named)

theorem GivenIn.value {body : ByteArray} (given : d.GivenIn body) :
    ∃ ns, Reply.bodyValue? body = some (.object ns) ∧ (∀ f ∈ d.fieldTexts, f.FoundIn ns) ∧
      Json.valuesOf ["error"] ns = [] := by
  obtain ⟨readable, members, given, written | valued⟩ := given
  -- the members of the text may have to be sorted first, those of the value are already
  · obtain ⟨value, read⟩ := Option.isSome_iff_exists.mp readable
    have canonical : Json.canonical? Json.levelLimit (.object members) = some value := by
      rw [← read, Reply.bodyValue?, written, Option.bind_some]
    obtain ⟨ns, rfl, mapped⟩ := Json.valuesOf_canonical canonical
    refine ⟨ns, read, ?_, ?_⟩
    · intro f field
      exact (given.found f field).canonical ((d.fieldValues f field).canonical _) (mapped f.names)
    · have silent := mapped ["error"]
      rw [given.silent] at silent
      exact (Option.some.inj (silent (Nat.zero_le 1))).symm
  · exact ⟨members, valued, given.found, given.silent⟩

theorem GivenIn.reply {body : ByteArray} (given : d.GivenIn body) :
    Reply.ofBody ofJson? body = .success d := by
  obtain ⟨ns, value, found, silent⟩ := given.value
  simp only [Reply.ofBody, value, ServiceError.reported?_of_silent silent,
    ofJson?_of_found d found]

theorem GivenIn.read {body : ByteArray} (given : d.GivenIn body) :
    Client.outcome .get (.received 200 body) = .ok (if d.groupId = "" then none else some d) := by
  have classified : (Response.received 200 body).classify ofJson? = .ok (some d) := by
    rw [Response.classify, NodeScaling.classify, if_neg (by decide), given.reply]
  have settled : Client.settle .get (some d) = if d.groupId = "" then none else some d := by
    by_cases unnamed : d.groupId = ""
    · simp [Client.settle, unnamed]
    · simp [Client.settle, unnamed]
  rw [Client.outcome, classified, ← settled]
  rfl

theorem givenIn_text (d : Definition) : d.GivenIn d.toJson.text.toUTF8 := by
  have written := Json.readBytes?_text d.exact_toJson
  refine ⟨?_, d.fieldTexts.map FieldText.member, d.givenBy_toJson, Or.inl written⟩
  have members : Json.canonicalMembers? 126 (d.fieldTexts.map FieldText.member) =
      some (d.fieldTexts.map FieldText.member) := by
    apply Json.canonicalMembers?_of_fixed
    intro m member
    obtain ⟨f, field, rfl⟩ := List.mem_map.mp member
    exact (d.fieldValues f field).canonical 125
  rw [Reply.bodyValue?, written, Option.bind_some, toJson_eq, Json.levelLimit, Json.canonical?,
    members]
  rfl

end Given

/-- The text of a definition is read as that definition, on its own and as a reply, and so is every
body that gives the definition in another order, with further members or without zero values. -/
theorem texts_read_back (d : Definition) :
    (Json.read? d.toJson.text).bind ofJson? = some d ∧
    Reply.ofBody ofJson? d.toJson.text.toUTF8 = .success d ∧
    ∀ body, d.GivenIn body →
      Reply.ofBody ofJson? body = .success d ∧
      ∀ client : Client, ((client.call .get).run ScriptedService.answer
        { script := [.received 200 body] }).value =
          .ok (if d.groupId = "" then none else some d) := by
  refine ⟨?_, d.givenIn_text.reply, ?_⟩
  · rw [Json.read?_text d.exact_toJson, Option.bind_some, toJson_eq]
    exact ofJson?_of_found d d.givenBy_toJson.found
  · intro body given
    refine ⟨given.reply, ?_⟩
    intro client
    exact given.read

theorem sparse_text_read_back :
    let d : Definition := { groupId := "workers", appType := "web", targetCapacity := 12 }
    let body := (Json.object [("note", .object [("error", .bool true)]),
      ("target_capacity", .ofUInt32 12), ("queue_name", .null), ("app_type", .string "web"),
      ("aws_autoscaling_group_name", .string "workers")]).text.toUTF8
    d.GivenIn body ∧ Reply.ofBody ofJson? body = .success d ∧
      (((Client.mk "/" "key" ⟨"workers", "north"⟩).call .get).run ScriptedService.answer
        { script := [.received 200 body] }).value = .ok (some d) := by
  intro d body
  let own : List (String × Json) := [("aws_autoscaling_group_name", .string "workers"),
    ("app_type", .string "web"), ("queue_name", .null), ("target_capacity", .ofUInt32 12)]
  let further : List (String × Json) := [("note", .object [("error", .bool true)])]
  have spelt : FieldText.Spelt d.fieldTexts own := by
    refine .given (by decide) (Or.inl rfl) (.missing rfl (.given (by decide) (Or.inl rfl) ?_))
    iterate 7 refine .missing rfl ?_
    refine .given (by decide) (Or.inr ⟨rfl, rfl⟩) ?_
    iterate 8 refine .missing rfl ?_
    exact .given (by decide) (Or.inl rfl) .nil
  have foreign : ∀ m ∈ further, m.1 ∉ fieldNames ++ ["error"] := by
    intro m member
    obtain rfl := List.mem_singleton.mp member
    decide
  have exact : (Json.object (own ++ further).reverse).Exact := by
    apply Json.Exact.object
    simp only [own, further, List.cons_append, List.nil_append, List.reverse_cons,
      List.reverse_nil, List.forall_mem_cons]
    refine ⟨?_, .int _ _, .null, .string _, .string _, by nofun⟩
    apply Json.Exact.object
    simp only [List.forall_mem_cons]
    exact ⟨.bool _, by nofun⟩
  have written : Json.readBytes? body = some (.object (own ++ further).reverse) :=
    Json.readBytes?_text exact
  have readable : (Reply.bodyValue? body).isSome := by
    rw [Reply.bodyValue?, written]
    rfl
  have given : d.GivenIn body :=
    ⟨readable, _, ⟨own, further, spelt, foreign, List.reverse_perm _⟩, Or.inl written⟩
  obtain ⟨reply, read⟩ := (texts_read_back d).2.2 body given
  exact ⟨given, reply, read _⟩

end Definition

end NodeScaling
