import NodeScaling.Proofs.DefinitionTexts

/-!
The texts of requests. Whatever the API key, the names and the ids are made of, the text of a
request is read back as the three members that it is made of, so that no two requests share one.
-/
namespace NodeScaling

namespace Operation

end Operation

theorem Definition.ofJson?_toJson (d : Definition) : ofJson? d.toJson = some d := by
  rw [toJson_eq]
  exact ofJson?_of_found d d.givenBy_toJson.found

namespace Request

def Holds (key : GroupKey) : Request → List (String × Json) → Prop
  | create d, ms =>
    ms = d.fieldTexts.map FieldText.member ∧ Definition.ofJson? (.object ms) = some d
  | get, ms | delete, ms =>
    ms = [("aws_autoscaling_group_name", .string key.groupId), ("aws_region", .string key.region)]
  | update target, ms => ∃ count,
    ms = [("aws_autoscaling_group_name", .string key.groupId), ("aws_region", .string key.region),
      ("target_capacity", count)] ∧ count.uint32? = some target
  | deleteNodes delta ids, ms => ∃ count list,
    ms = [("aws_autoscaling_group_name", .string key.groupId), ("aws_region", .string key.region),
      ("delta_vcpu", count), ("nodes_to_delete", list)] ∧
    count.uint32? = some delta ∧ list.list? Json.string? = some ids

variable (key key' : GroupKey) (r r' : Request)

theorem exact_payload : (r.payload key).Exact := by
  have exact {ms : List (String × Json)} (fields : ∀ m ∈ ms, Definition.FieldValue m.2) :
      (Json.object ms).Exact := .object ms fun m member => (fields m member).exact
  have group : ∀ m ∈ keyMembers key, Definition.FieldValue m.2 := by
    simp only [keyMembers, List.forall_mem_cons]
    exact ⟨.text _, .text _, by nofun⟩
  cases r with
  | create d => exact d.exact_toJson
  | get | delete => exact exact group
  | update target =>
    exact exact (List.forall_mem_append.mpr ⟨group, List.forall_mem_singleton.mpr (.count target)⟩)
  | deleteNodes delta ids =>
    exact exact (List.forall_mem_append.mpr ⟨group,
      List.forall_mem_cons.mpr ⟨.count delta, List.forall_mem_singleton.mpr (.texts ids)⟩⟩)

theorem exact_envelope (apiKey : String) : (r.envelope apiKey key).Exact := by
  apply Json.Exact.object
  simp only [List.forall_mem_cons]
  exact ⟨.string _, .string _, exact_payload key r, by nofun⟩

variable {key key' r r'}

end Request

end NodeScaling
