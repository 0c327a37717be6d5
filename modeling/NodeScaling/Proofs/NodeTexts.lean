import NodeScaling.Node
import NodeScaling.Proofs.ByteOrder
import NodeScaling.Proofs.DefinitionMembers
import NodeScaling.Proofs.DictionaryContents

/-!
The texts of nodes and of node templates. A text tells the contents of the maps and nothing of how
they were built, and is read back as the same value. Read from an object, each field comes from its
one member; a map may be left out, and in a template the instance type too.
-/
namespace NodeScaling

namespace Json
variable {α : Type} {encode : α → Json} {decode : Json → Option α} {d : Dictionary α}
  {ms : List (String × Json)} {value : Json} {names : List String} {place : Nat}

theorem string?_eq_some_iff {s : String} : value.string? = some s ↔ value = .string s := by
  refine ⟨eq_of_string?, ?_⟩
  rintro rfl
  rfl

theorem int64?_eq_some_iff {n : Int64} : value.int64? = some n ↔ value = .ofInt64 n := by
  constructor
  · intro read
    obtain ⟨m, int, within⟩ := Option.bind_eq_some_iff.mp read
    split at within
    · next bounds =>
      obtain ⟨fits, rfl⟩ := eq_of_int? int
      cases within
      have exact : (Int64.ofInt m).toInt = m :=
        Int64.toInt_ofInt_of_le bounds.1 (by omega)
      simp only [ofInt64, Number.ofInt64, exact]
    · cases within
  · rintro rfl
    have within : -0x8000000000000000 ≤ n.toInt ∧ n.toInt ≤ 0x7FFFFFFFFFFFFFFF := by
      have low := n.le_toInt
      have high := n.toInt_lt
      omega
    have read : int? (.ofInt64 n) = some n.toInt := rfl
    rw [int64?, read, Option.bind_eq_bind, Option.bind_some, if_pos within, Int64.ofInt_toInt]

def ShowsMap (encode : α → Json) (d : Dictionary α) (j : Json) : Prop :=
  ∃ ms, j = .object ms ∧ (ms.Pairwise fun a b => Text.bytes a.1 < Text.bytes b.1) ∧
    ∀ key value, (key, value) ∈ ms ↔ ∃ x, d.get? key = some x ∧ value = encode x

/-- The map as the values of its member tell it: no value is the empty map, and the one value is an
object in which the last value of a repeated name counts. -/
inductive TellsMap (encode : α → Json) : Dictionary α → List Json → Prop where
  | omitted : TellsMap encode .empty []
  | given (es : List (String × α)) :
      TellsMap encode (.ofList es) [.object (es.map fun (name, x) => (name, encode x))]

inductive TellsChoice : Option String → List Json → Prop where
  | omitted : TellsChoice none []
  | null : TellsChoice none [.null]
  | given (s : String) : TellsChoice (some s) [.string s]

theorem ofDictionary_shows (encode : α → Json) (d : Dictionary α) :
    ShowsMap encode d (ofDictionary encode d) := by
  refine ⟨_, rfl, ?_, fun key value => ?_⟩
  · rw [List.pairwise_map]
    exact d.ascending.imp Text.bytes_lt
  · rw [List.mem_map]
    constructor
    · rintro ⟨⟨name, x⟩, member, same⟩
      cases same
      exact ⟨x, Dictionary.mem_entries_iff.mp member, rfl⟩
    · rintro ⟨x, found, rfl⟩
      exact ⟨(key, x), Dictionary.mem_entries_iff.mpr found, rfl⟩

section Decoding
variable (inverse : ∀ {value x}, decode value = some x ↔ value = encode x)
include inverse

theorem entries?_eq_some_iff {es : List (String × α)} :
    entries? decode value = some es ↔ value = .object (es.map fun (name, x) => (name, encode x)) := by
  cases value with
  | object ms =>
    rw [entries?, object.injEq]
    induction ms generalizing es with
    | nil => cases es <;> simp
    | cons first ms ih =>
      obtain ⟨name, shown⟩ := first
      rw [List.mapM_cons]
      simp only [Option.bind_eq_bind, Option.bind_eq_some_iff, Option.map_eq_some_iff, inverse, ih]
      constructor
      · rintro ⟨_, ⟨x, rfl, rfl⟩, rest, rfl, same⟩
        cases same
        rfl
      · intro same
        cases es with
        | nil => cases same
        | cons e es =>
          obtain ⟨head, tail⟩ := List.cons.inj same
          obtain ⟨rfl, rfl⟩ := Prod.mk.inj head
          exact ⟨e, ⟨e.2, rfl, rfl⟩, es, tail, rfl⟩
  | _ => exact ⟨nofun, nofun⟩

theorem dictionary?_eq_some_iff : dictionary? decode value = some d ↔
    ∃ es, value = .object (es.map fun (name, x) => (name, encode x)) ∧ d = .ofList es := by
  rw [dictionary?, Option.map_eq_some_iff]
  simp only [entries?_eq_some_iff inverse, eq_comm]

theorem required_object_iff {x : α} :
    ((field? place names (.object ms)).bind fun slot => slot.required? decode) = some x ↔
      valuesOf names ms = [encode x] := by
  rw [field?]
  rcases valuesOf names ms with _ | ⟨value, _ | ⟨second, rest⟩⟩ <;>
    simp [Slot.required?, inverse]

theorem map_object_iff :
    ((field? place names (.object ms)).bind fun slot =>
      slot.orDefault? .empty (dictionary? decode)) = some d ↔
      TellsMap encode d (valuesOf names ms) := by
  rw [field?]
  rcases valuesOf names ms with _ | ⟨value, _ | ⟨second, rest⟩⟩
  · constructor
    · rintro ⟨⟩
      exact .omitted
    · rintro ⟨⟩
      rfl
  · show dictionary? decode value = some d ↔ _
    rw [dictionary?_eq_some_iff inverse]
    constructor
    · rintro ⟨es, rfl, rfl⟩
      exact .given es
    · intro told
      cases told with
      | given es => exact ⟨es, rfl, rfl⟩
  · constructor
    · intro read
      cases read
    · intro told
      cases told

end Decoding

theorem choice_object_iff {choice : Option String} :
    ((field? place names (.object ms)).bind fun slot => slot.optional? string?) = some choice ↔
      TellsChoice choice (valuesOf names ms) := by
  rw [field?]
  rcases valuesOf names ms with _ | ⟨value, _ | ⟨second, rest⟩⟩
  · constructor
    · rintro ⟨⟩
      exact .omitted
    · rintro ⟨⟩
      rfl
  · constructor
    · intro read
      -- null is told apart before the value is read as a text
      by_cases null : value = .null
      · subst null
        cases read
        exact .null
      · have given : (value.string?).map some = some choice := by
          rwa [Option.bind_some, Slot.optional?] at read
          exact null
        obtain ⟨s, text, rfl⟩ := Option.map_eq_some_iff.mp given
        rw [eq_of_string? text]
        exact .given s
    · intro told
      cases told <;> rfl
  · constructor
    · intro read
      cases read
    · intro told
      cases told

theorem TellsMap.once {values : List Json} (told : TellsMap encode d values) :
    values.length ≤ 1 := by
  cases told <;> simp

theorem TellsChoice.once {choice : Option String} {values : List Json}
    (told : TellsChoice choice values) : values.length ≤ 1 := by
  cases told <;> simp

theorem tellsMap_ofDictionary (encode : α → Json) (d : Dictionary α) :
    TellsMap encode d [ofDictionary encode d] := by
  have told : TellsMap encode (.ofList d.entries) [ofDictionary encode d] := .given d.entries
  rwa [Dictionary.ofList_entries] at told

theorem tellsChoice_of_written (choice : Option String) :
    TellsChoice choice [(choice.map string).getD .null] := by
  cases choice with
  | none => exact .null
  | some s => exact .given s

theorem exact_ofDictionary (exact : ∀ x, (encode x).Exact) (d : Dictionary α) :
    (ofDictionary encode d).Exact := by
  refine .object _ fun m member => ?_
  obtain ⟨e, -, rfl⟩ := List.mem_map.mp member
  exact exact e.2

theorem exact_ofInt64 (n : Int64) : (ofInt64 n).Exact :=
  .int _ _

theorem length_valuesOf (name : String) (ms : List (String × Json)) :
    (valuesOf [name] ms).length = (ms.map Prod.fst).count name := by
  induction ms with
  | nil => rfl
  | cons m ms ih =>
    rw [List.map_cons, List.count_cons]
    by_cases named : m.1 = name
    · rw [valuesOf_cons_of_mem (by simp [named]), List.length_cons, ih, if_pos (by simp [named])]
    · rw [valuesOf_cons_of_not_mem (by simp [named]), ih, if_neg (by simp [named]), Nat.add_zero]

theorem valuesOf_filter {name : String} {known : List String} (listed : name ∈ known)
    (ms : List (String × Json)) :
    valuesOf [name] (ms.filter fun m => m.1 ∈ known) = valuesOf [name] ms := by
  induction ms with
  | nil => rfl
  | cons m ms ih =>
    by_cases named : m.1 = name
    · rw [List.filter_cons_of_pos (by simp [named, listed]), valuesOf_cons_of_mem (by simp [named]),
        valuesOf_cons_of_mem (by simp [named]), ih]
    · rw [valuesOf_cons_of_not_mem (by simp [named]), List.filter_cons]
      split
      · rw [valuesOf_cons_of_not_mem (by simp [named]), ih]
      · exact ih

end Json

section Records
variable {α : Type} {toJson : α → Json} {ofJson? : Json → Option α} {known : List String}
  {Told : α → List (String × Json) → Prop}

def ofText? (ofJson? : Json → Option α) (text : String) : Option α :=
  (Json.read? text).bind ofJson?

/-- The texts of a record with the known members: it is read back from its own text, writing what is
read from any text settles the text, and from an object it is read as its members tell it. -/
structure RecordTexts (toJson : α → Json) (ofJson? : Json → Option α) (known : List String)
    (Told : α → List (String × Json) → Prop) : Prop where
  read_back : ∀ x, ofText? ofJson? (toJson x).text = some x
  settled : ∀ text x, ofText? ofJson? text = some x →
    (ofText? ofJson? (toJson x).text).map (fun y => (toJson y).text) = some (toJson x).text
  told : ∀ text ms, Json.read? text = some (.object ms) →
    ∀ x, ofText? ofJson? text = some x ↔ Told x ms
  unknown_passed : ∀ text text' ms ms', Json.read? text = some (.object ms) →
    Json.read? text' = some (.object ms') →
    (ms.filter fun m => m.1 ∈ known) = (ms'.filter fun m => m.1 ∈ known) →
    ofText? ofJson? text = ofText? ofJson? text'
  twice : ∀ text ms, Json.read? text = some (.object ms) →
    ∀ name ∈ known, 1 < (ms.map Prod.fst).count name → ofText? ofJson? text = none

theorem recordTexts_of_members (exact : ∀ x, (toJson x).Exact)
    (inverse : ∀ x, ofJson? (toJson x) = some x)
    (told : ∀ {x ms}, ofJson? (.object ms) = some x ↔ Told x ms)
    (congr : ∀ {x ms ms'}, (∀ name ∈ known, Json.valuesOf [name] ms = Json.valuesOf [name] ms') →
      Told x ms → Told x ms')
    (once : ∀ {x ms}, Told x ms → ∀ name ∈ known, (Json.valuesOf [name] ms).length ≤ 1) :
    RecordTexts toJson ofJson? known Told := by
  have back (x : α) : ofText? ofJson? (toJson x).text = some x := by
    rw [ofText?, Json.read?_text (exact x), Option.bind_some, inverse]
  have object {text : String} {ms : List (String × Json)} (read : Json.read? text = some (.object ms)) :
      ofText? ofJson? text = ofJson? (.object ms) := by
    rw [ofText?, read, Option.bind_some]
  refine ⟨back, fun text x _ => ?_, fun text ms read x => ?_,
    fun text text' ms ms' read read' same => ?_,
    fun text ms read name listed repeated => ?_⟩
  · rw [back, Option.map_some]
  · rw [object read, told]
  · have values : ∀ name ∈ known, Json.valuesOf [name] ms = Json.valuesOf [name] ms' := by
      intro name listed
      rw [← Json.valuesOf_filter listed ms, same, Json.valuesOf_filter listed ms']
    rw [object read, object read']
    refine Option.ext fun x => ?_
    rw [told, told]
    exact ⟨congr values, congr fun name listed => (values name listed).symm⟩
  · rw [object read]
    refine Option.eq_none_iff_forall_ne_some.mpr fun x found => ?_
    have single := once (told.mp found) name listed
    rw [Json.length_valuesOf] at single
    exact absurd repeated (Nat.not_lt.mpr single)

end Records

namespace Node
variable {n : Node} {ms : List (String × Json)}

def memberNames : List String := ["name", "provider_id", "labels"]

structure ToldBy (n : Node) (ms : List (String × Json)) : Prop where
  name : Json.valuesOf ["name"] ms = [.string n.name]
  providerId : Json.valuesOf ["provider_id"] ms = [.string n.providerId]
  labels : Json.TellsMap .string n.labels (Json.valuesOf ["labels"] ms)

theorem ofJson?_object_iff : ofJson? (.object ms) = some n ↔ n.ToldBy ms := by
  have record : Json.isRecord 3 (.object ms) = true := rfl
  rw [ofJson?, if_pos record]
  simp only [Option.bind_eq_bind, ← Option.bind_assoc]
  simp only [Option.bind_eq_some_iff, Json.required_object_iff Json.string?_eq_some_iff,
    Json.map_object_iff Json.string?_eq_some_iff]
  constructor
  · rintro ⟨name, named, provider, provided, labels, labelled, same⟩
    cases same
    exact ⟨named, provided, labelled⟩
  · intro told
    exact ⟨n.name, told.name, n.providerId, told.providerId, n.labels, told.labels, rfl⟩

theorem ofJson?_toJson (n : Node) : ofJson? n.toJson = some n :=
  ofJson?_object_iff.mpr ⟨rfl, rfl, Json.tellsMap_ofDictionary .string n.labels⟩

theorem exact_toJson (n : Node) : n.toJson.Exact := by
  refine .object _ ?_
  simp only [List.forall_mem_cons]
  exact ⟨.string _, .string _, Json.exact_ofDictionary .string n.labels, List.forall_mem_nil _⟩

theorem recordTexts : RecordTexts toJson ofJson? memberNames ToldBy := by
  refine recordTexts_of_members exact_toJson ofJson?_toJson ofJson?_object_iff ?_ ?_
  · intro n ms ms' same told
    simp only [memberNames, List.forall_mem_cons] at same
    obtain ⟨name, providerId, labels, -⟩ := same
    exact ⟨name ▸ told.name, providerId ▸ told.providerId, labels ▸ told.labels⟩
  · intro n ms told
    simp only [memberNames, List.forall_mem_cons]
    exact ⟨Nat.le_of_eq (congrArg List.length told.name),
      Nat.le_of_eq (congrArg List.length told.providerId),
      told.labels.once, List.forall_mem_nil _⟩

end Node

namespace NodeTemplate
variable {t : NodeTemplate} {ms : List (String × Json)}

def memberNames : List String := ["name", "instance_type", "labels", "capacity"]

structure ToldBy (t : NodeTemplate) (ms : List (String × Json)) : Prop where
  name : Json.valuesOf ["name"] ms = [.string t.name]
  instanceType : Json.TellsChoice t.instanceType (Json.valuesOf ["instance_type"] ms)
  labels : Json.TellsMap .string t.labels (Json.valuesOf ["labels"] ms)
  capacity : Json.TellsMap .ofInt64 t.capacity (Json.valuesOf ["capacity"] ms)

theorem ofJson?_object_iff : ofJson? (.object ms) = some t ↔ t.ToldBy ms := by
  have record : Json.isRecord 4 (.object ms) = true := rfl
  rw [ofJson?, if_pos record]
  simp only [Option.bind_eq_bind, ← Option.bind_assoc]
  simp only [Option.bind_eq_some_iff, Json.required_object_iff Json.string?_eq_some_iff,
    ↓Json.choice_object_iff, Json.map_object_iff Json.string?_eq_some_iff,
    Json.map_object_iff Json.int64?_eq_some_iff]
  constructor
  · rintro ⟨name, named, choice, chosen, labels, labelled, capacity, counted, same⟩
    cases same
    exact ⟨named, chosen, labelled, counted⟩
  · intro told
    exact ⟨t.name, told.name, t.instanceType, told.instanceType, t.labels, told.labels, t.capacity,
      told.capacity, rfl⟩

theorem ofJson?_toJson (t : NodeTemplate) : ofJson? t.toJson = some t :=
  ofJson?_object_iff.mpr ⟨rfl, Json.tellsChoice_of_written t.instanceType,
    Json.tellsMap_ofDictionary .string t.labels, Json.tellsMap_ofDictionary .ofInt64 t.capacity⟩

theorem exact_toJson (t : NodeTemplate) : t.toJson.Exact := by
  have choice : ((t.instanceType.map Json.string).getD .null).Exact := by
    cases t.instanceType with
    | none => exact .null
    | some s => exact .string s
  refine .object _ ?_
  simp only [List.forall_mem_cons]
  exact ⟨.string _, choice, Json.exact_ofDictionary .string t.labels,
    Json.exact_ofDictionary Json.exact_ofInt64 t.capacity, List.forall_mem_nil _⟩

theorem recordTexts : RecordTexts toJson ofJson? memberNames ToldBy := by
  refine recordTexts_of_members exact_toJson ofJson?_toJson ofJson?_object_iff ?_ ?_
  · intro t ms ms' same told
    simp only [memberNames, List.forall_mem_cons] at same
    obtain ⟨name, instanceType, labels, capacity, -⟩ := same
    exact ⟨name ▸ told.name, instanceType ▸ told.instanceType, labels ▸ told.labels,
      capacity ▸ told.capacity⟩
  · intro t ms told
    simp only [memberNames, List.forall_mem_cons]
    exact ⟨Nat.le_of_eq (congrArg List.length told.name), told.instanceType.once, told.labels.once,
      told.capacity.once, List.forall_mem_nil _⟩

end NodeTemplate

/-- The texts of nodes and templates are read back, and list the maps by the bytes of their keys,
however the maps were built. -/
theorem node_texts_tell_contents :
    RecordTexts Node.toJson Node.ofJson? Node.memberNames Node.ToldBy ∧
    RecordTexts NodeTemplate.toJson NodeTemplate.ofJson? NodeTemplate.memberNames
      NodeTemplate.ToldBy ∧
    (∀ n : Node, ∃ labels, Json.ShowsMap .string n.labels labels ∧ n.toJson = .object [
      ("name", .string n.name), ("provider_id", .string n.providerId), ("labels", labels)]) ∧
    (∀ t : NodeTemplate, ∃ labels capacity, Json.ShowsMap .string t.labels labels ∧
      Json.ShowsMap .ofInt64 t.capacity capacity ∧ t.toJson = .object [("name", .string t.name),
        ("instance_type", t.instanceType.elim .null .string), ("labels", labels),
        ("capacity", capacity)]) ∧
    (∀ (n : Node) (es es' : List (String × String)), Dictionary.SameInTheEnd es es' →
      { n with labels := .ofList es }.toJson.text = { n with labels := .ofList es' }.toJson.text) ∧
    (∀ (t : NodeTemplate) (es es' : List (String × String)) (cs cs' : List (String × Int64)),
      Dictionary.SameInTheEnd es es' → Dictionary.SameInTheEnd cs cs' →
      { t with labels := .ofList es, capacity := .ofList cs }.toJson.text =
        { t with labels := .ofList es', capacity := .ofList cs' }.toJson.text) := by
  refine ⟨Node.recordTexts, NodeTemplate.recordTexts, fun n => ?_, fun t => ?_, ?_, ?_⟩
  · exact ⟨_, Json.ofDictionary_shows .string n.labels, rfl⟩
  · refine ⟨_, _, Json.ofDictionary_shows .string t.labels,
      Json.ofDictionary_shows .ofInt64 t.capacity, ?_⟩
    cases choice : t.instanceType <;> rw [NodeTemplate.toJson, choice] <;> rfl
  · intro n es es' same
    rw [same.ofList_eq]
  · intro t es es' cs cs' same counted
    rw [same.ofList_eq, counted.ofList_eq]

theorem sparse_template_text_read :
    let t : NodeTemplate := { name := "t", capacity := .ofList [("cpu", 4), ("cpu", Int64.minValue)] }
    let capacity := Json.object [("cpu", .ofInt64 4), ("cpu", .ofInt64 Int64.minValue)]
    let ms := [("zone", Json.string "a"), ("capacity", capacity), ("name", .string "t")]
    let node (es : List (String × String)) : Node := ⟨"n", "aws:///az/i-1", .ofList es⟩
    ofText? NodeTemplate.ofJson? (Json.object ms).text = some t ∧
      ofText? NodeTemplate.ofJson? (Json.object (("name", .string "t") :: ms)).text = none ∧
      ofText? NodeTemplate.ofJson? t.toJson.text = some t ∧
      (node [("role", "worker"), ("arch", "arm")]).toJson.text =
        (node [("arch", "arm"), ("role", "worker")]).toJson.text := by
  intro t capacity ms node
  obtain ⟨-, templates, -, -, built, -⟩ := node_texts_tell_contents
  have exactMembers : ∀ m ∈ ms, m.2.Exact := by
    simp only [ms, capacity, List.forall_mem_cons]
    refine ⟨.string _, .object _ ?_, .string _, List.forall_mem_nil _⟩
    simp only [List.forall_mem_cons]
    exact ⟨.int _ _, .int _ _, List.forall_mem_nil _⟩
  have once : Json.read? (Json.object ms).text = some (.object ms) :=
    Json.read?_text (.object ms exactMembers)
  have repeated : Json.read? (Json.object (("name", .string "t") :: ms)).text =
      some (.object (("name", .string "t") :: ms)) :=
    Json.read?_text (.object _ (List.forall_mem_cons.mpr ⟨.string "t", exactMembers⟩))
  have told : t.ToldBy ms := ⟨rfl, .omitted, .omitted, .given [("cpu", 4), ("cpu", Int64.minValue)]⟩
  have same : Dictionary.SameInTheEnd [("role", "worker"), ("arch", "arm")]
      [("arch", "arm"), ("role", "worker")] :=
    .of_perm (by decide) (.swap _ _ _)
  exact ⟨(templates.told _ ms once t).mpr told, templates.twice _ _ repeated "name" (by decide)
    (by decide), templates.read_back t, built ⟨"n", "aws:///az/i-1", .empty⟩ _ _ same⟩

end NodeScaling
