import Mathlib.Data.List.Forall2
import NodeScaling.Node
import NodeScaling.Proofs.Attempts

/-!
Which provider ids name an instance. The scheme is cut off by a count of bytes and the id by
characters, from the end. Read as a grammar, the two cuts do not cross: the last slash stands behind
the scheme, and the scheme ends where a character does.
-/
namespace NodeScaling

/-- A provider id names an instance: the id stands behind the last slash, after a path of at least
seven bytes, and seven bytes from the start a character ends. -/
structure Names (providerId id : String) : Prop where
  boundary : String.Pos.Raw.IsValid providerId ⟨7⟩
  placed : ∃ path : String, providerId = path ++ "/" ++ id ∧ 7 ≤ path.utf8ByteSize
  nonempty : id ≠ ""
  free : '/' ∉ id.toList

inductive Malformed (providerId : String) : Prop where
  | short (bytes : providerId.utf8ByteSize < 7)
  /-- No character ends where the scheme should. -/
  | straddled (inside : ¬ String.Pos.Raw.IsValid providerId ⟨7⟩)
  | slashless (free : '/' ∉ providerId.toList)
  | trailing (path : String) (ended : providerId = path ++ "/")
  | early (path rest : String) (last : providerId = path ++ "/" ++ rest) (free : '/' ∉ rest.toList)
      (inside : path.utf8ByteSize < 7)

section Scheme
variable {n : Nat} {s : String} {cs rest : List Char}

theorem exists_first (given : s ≠ "") : ∃ c later, s = String.singleton c ++ String.ofList later := by
  cases written : s.toList with
  | nil => exact absurd (String.toList_eq_nil_iff.mp written) given
  | cons c later =>
    refine ⟨c, later, String.toList_inj.mp ?_⟩
    rw [written, String.toList_append, String.toList_singleton, String.toList_ofList]
    rfl

theorem dropBytes_eq_some_iff :
    dropBytes n cs = some rest ↔
      ∃ scheme : String, cs = scheme.toList ++ rest ∧ scheme.utf8ByteSize = n := by
  -- a scheme of some bytes starts with the first character, which is no longer than it
  have started {c : Char} {cs : List Char} {scheme : String} {n : Nat}
      (cut : c :: cs = scheme.toList ++ rest) (size : scheme.utf8ByteSize = n + 1) :
      ∃ later : String, cs = later.toList ++ rest ∧ c.utf8Size + later.utf8ByteSize = n + 1 := by
    obtain ⟨d, later, rfl⟩ : ∃ d later, scheme = String.singleton d ++ String.ofList later := by
      apply exists_first
      rintro rfl
      cases size
    rw [String.toList_append, String.toList_singleton] at cut
    obtain ⟨rfl, same⟩ := List.cons.inj cut
    rw [String.utf8ByteSize_append, String.utf8ByteSize_singleton] at size
    exact ⟨String.ofList later, same, size⟩
  fun_induction dropBytes n cs with
  | case1 cs =>
    constructor
    · rintro ⟨⟩
      exact ⟨"", rfl, rfl⟩
    · rintro ⟨scheme, rfl, nothing⟩
      rw [String.utf8ByteSize_eq_zero_iff.mp nothing]
      rfl
  | case2 n =>
    constructor
    · nofun
    · rintro ⟨scheme, nothing, size⟩
      rw [String.toList_eq_nil_iff.mp (List.append_eq_nil_iff.mp nothing.symm).1] at size
      cases size
  | case3 n c cs fits ih =>
    refine ih.trans ⟨?_, ?_⟩
    · rintro ⟨scheme, rfl, size⟩
      refine ⟨String.singleton c ++ scheme, by simp, ?_⟩
      rw [String.utf8ByteSize_append, String.utf8ByteSize_singleton, size]
      exact Nat.add_sub_of_le fits
    · rintro ⟨scheme, cut, size⟩
      obtain ⟨later, same, sizes⟩ := started cut size
      exact ⟨later, same, Nat.eq_sub_of_add_eq' sizes⟩
  | case4 n c cs beyond =>
    constructor
    · nofun
    · rintro ⟨scheme, cut, size⟩
      obtain ⟨later, -, sizes⟩ := started cut size
      exact absurd (Nat.le.intro sizes) beyond

theorem isValid_iff_cut :
    String.Pos.Raw.IsValid s ⟨n⟩ ↔
      ∃ scheme rest : String, s = scheme ++ rest ∧ scheme.utf8ByteSize = n := by
  rw [String.Pos.Raw.isValid_iff_exists_append]
  refine exists_congr fun scheme => exists_congr fun rest => and_congr_right fun _ => ?_
  rw [String.Pos.Raw.ext_iff, String.byteIdx_rawEndPos]
  exact eq_comm

end Scheme

section Segment
variable {cs segment path : List Char}

theorem exists_last_slash (slash : '/' ∈ cs) :
    ∃ path segment, cs = path ++ '/' :: segment ∧ '/' ∉ segment := by
  obtain ⟨later, before, split, free⟩ := List.eq_append_cons_of_mem (List.mem_reverse.mpr slash)
  refine ⟨before.reverse, later.reverse, ?_, fun member => free (List.mem_reverse.mp member)⟩
  rw [List.reverse_eq_iff.mp split]
  simp

theorem lastSegment?_of_last_slash (free : '/' ∉ segment) :
    lastSegment? (path ++ '/' :: segment) = some segment := by
  have others : ∀ c ∈ segment.reverse, decide (c ≠ '/') = true := by
    intro c member
    refine decide_eq_true ?_
    rintro rfl
    exact free (List.mem_reverse.mp member)
  have mirrored : (path ++ '/' :: segment).reverse = segment.reverse ++ '/' :: path.reverse := by
    simp
  have slash : (path ++ '/' :: segment).contains '/' := by simp
  rw [lastSegment?, if_pos slash, mirrored, List.takeWhile_append_of_pos others]
  simp

theorem lastSegment?_eq_some_iff :
    lastSegment? cs = some segment ↔ ∃ path, cs = path ++ '/' :: segment ∧ '/' ∉ segment := by
  constructor
  · intro found
    have slash : '/' ∈ cs := by
      rw [lastSegment?] at found
      split at found
      · next slash => exact List.contains_iff_mem.mp slash
      · cases found
    obtain ⟨path, last, rfl, free⟩ := exists_last_slash slash
    rw [lastSegment?_of_last_slash free] at found
    obtain rfl := Option.some.inj found
    exact ⟨path, rfl, free⟩
  · rintro ⟨path, rfl, free⟩
    exact lastSegment?_of_last_slash free

end Segment

/-- Of two beginnings of a text, the one with fewer bytes begins the other. -/
theorem exists_rest_of_beginnings {shorter longer rest tail : String}
    (same : shorter ++ rest = longer ++ tail) (size : shorter.utf8ByteSize ≤ longer.utf8ByteSize) :
    ∃ later, longer = shorter ++ later := by
  have characters := String.toList_inj.mpr same
  rw [String.toList_append, String.toList_append, List.append_eq_append_iff] at characters
  rcases characters with ⟨later, extended, -⟩ | ⟨excess, extended, -⟩
  · refine ⟨String.ofList later, String.toList_inj.mp ?_⟩
    rw [extended, String.toList_append, String.toList_ofList]
  · have whole : shorter = longer ++ String.ofList excess := by
      apply String.toList_inj.mp
      rw [extended, String.toList_append, String.toList_ofList]
    rw [whole, String.utf8ByteSize_append] at size
    have nothing : String.ofList excess = "" := String.utf8ByteSize_eq_zero_iff.mp (by omega)
    exact ⟨"", by rw [whole, nothing, String.append_empty, String.append_empty]⟩

section Grammar
variable {s id : String}

theorem instanceId_eq_ok_iff_segment :
    instanceId s = .ok id ↔
      id ≠ "" ∧ (dropBytes schemeBytes s.toList).bind lastSegment? = some id.toList := by
  rw [instanceId]
  split
  · next c cs found =>
    rw [found]
    constructor
    · rintro ⟨⟩
      exact ⟨by simp, by rw [String.toList_ofList]⟩
    · rintro ⟨-, same⟩
      rw [Option.some.inj same, String.ofList_toList]
  · next none =>
    constructor
    · nofun
    · rintro ⟨nonempty, found⟩
      cases characters : id.toList with
      | nil => exact absurd (String.toList_eq_nil_iff.mp characters) nonempty
      | cons c cs => exact absurd (found.trans (congrArg some characters)) (none c cs)

theorem instanceId_eq_ok_iff : instanceId s = .ok id ↔ Names s id := by
  rw [instanceId_eq_ok_iff_segment, Option.bind_eq_some_iff]
  constructor
  · rintro ⟨nonempty, rest, cut, segment⟩
    obtain ⟨scheme, split, size⟩ := dropBytes_eq_some_iff.mp cut
    obtain ⟨path, rfl, free⟩ := lastSegment?_eq_some_iff.mp segment
    have whole : s = scheme ++ (String.ofList path ++ "/" ++ id) := by
      apply String.toList_inj.mp
      rw [split]
      simp
    refine ⟨isValid_iff_cut.mpr ⟨scheme, _, whole, size⟩, ⟨scheme ++ String.ofList path, ?_, ?_⟩,
      nonempty, free⟩
    · rw [whole, String.append_assoc, String.append_assoc, String.append_assoc]
    · rw [String.utf8ByteSize_append, size]
      exact Nat.le_add_right _ _
  · rintro ⟨boundary, ⟨path, whole, long⟩, nonempty, free⟩
    obtain ⟨scheme, rest, cut, size⟩ := isValid_iff_cut.mp boundary
    obtain ⟨later, rfl⟩ : ∃ later, path = scheme ++ later := by
      have same : scheme ++ rest = path ++ ("/" ++ id) := by
        rw [← cut, whole, String.append_assoc]
      exact exists_rest_of_beginnings same (size ▸ long)
    refine ⟨nonempty, later.toList ++ '/' :: id.toList, ?_, lastSegment?_of_last_slash free⟩
    refine dropBytes_eq_some_iff.mpr ⟨scheme, ?_, size⟩
    rw [whole]
    simp

theorem instanceId_eq_error_iff {e : BridgeError} :
    instanceId s = .error e ↔ e = .malformedProviderId s ∧ ¬ ∃ id, Names s id := by
  cases read : instanceId s with
  | ok id =>
    constructor
    · nofun
    · rintro ⟨-, unnamed⟩
      exact absurd ⟨id, instanceId_eq_ok_iff.mp read⟩ unnamed
  | error cause =>
    have unnamed : ¬ ∃ id, Names s id := by
      rintro ⟨id, named⟩
      rw [instanceId_eq_ok_iff.mpr named] at read
      cases read
    constructor
    · rintro ⟨⟩
      exact ⟨instanceId_error read, unnamed⟩
    · rintro ⟨rfl, -⟩
      rw [instanceId_error read]

theorem instanceIds_eq_ok_iff {providerIds ids : List String} :
    instanceIds providerIds = .ok ids ↔ List.Forall₂ Names providerIds ids := by
  induction providerIds generalizing ids with
  | nil => simp [instanceIds, eq_comm]
  | cons p ps ih =>
    constructor
    · intro read
      obtain ⟨id, first, rest⟩ := ok_of_bind read
      obtain ⟨later, others, whole⟩ := ok_of_bind rest
      cases whole
      exact .cons (instanceId_eq_ok_iff.mp first) (ih.mp others)
    · intro named
      cases named with
      | cons first others =>
        rw [instanceIds, instanceId_eq_ok_iff.mpr first, ih.mpr others]
        rfl

theorem instanceIds_eq_error_iff {providerIds : List String} {e : BridgeError} :
    instanceIds providerIds = .error e ↔ ∃ before p after, providerIds = before ++ p :: after ∧
      (∀ earlier ∈ before, ∃ id, Names earlier id) ∧ (¬ ∃ id, Names p id) ∧
        e = .malformedProviderId p := by
  constructor
  · intro failed
    induction providerIds with
    | nil => cases failed
    | cons p ps ih =>
      cases read : instanceId p with
      | error cause =>
        rw [instanceIds, read] at failed
        cases failed
        obtain ⟨malformed, unnamed⟩ := instanceId_eq_error_iff.mp read
        exact ⟨[], p, ps, rfl, nofun, unnamed, malformed⟩
      | ok id =>
        cases others : instanceIds ps with
        | ok ids =>
          rw [instanceIds, read, others] at failed
          cases failed
        | error cause =>
          rw [instanceIds, read, others] at failed
          cases failed
          obtain ⟨before, q, after, rfl, earlier, decided⟩ := ih others
          have first : ∃ id, Names p id := ⟨id, instanceId_eq_ok_iff.mp read⟩
          exact ⟨p :: before, q, after, rfl, List.forall_mem_cons.mpr ⟨first, earlier⟩, decided⟩
  · rintro ⟨before, p, after, rfl, earlier, unnamed, rfl⟩
    induction before with
    | nil =>
      rw [List.nil_append, instanceIds, instanceId_eq_error_iff.mpr ⟨rfl, unnamed⟩]
      rfl
    | cons q before ih =>
      obtain ⟨⟨id, named⟩, others⟩ := List.forall_mem_cons.mp earlier
      rw [List.cons_append, instanceIds, instanceId_eq_ok_iff.mpr named, ih others]
      rfl

theorem last_slash_unique {path path' rest rest' : String}
    (same : path ++ "/" ++ rest = path' ++ "/" ++ rest') (free : '/' ∉ rest.toList)
    (free' : '/' ∉ rest'.toList) : path = path' ∧ rest = rest' := by
  have characters : path.toList ++ '/' :: rest.toList = path'.toList ++ '/' :: rest'.toList := by
    simpa using String.toList_inj.mpr same
  have segments : lastSegment? (path.toList ++ '/' :: rest.toList) = some rest.toList :=
    lastSegment?_of_last_slash free
  rw [characters, lastSegment?_of_last_slash free'] at segments
  have rests : rest' = rest := String.toList_inj.mp (Option.some.inj segments)
  rw [rests] at characters
  exact ⟨String.toList_inj.mp (List.append_cancel_right characters), rests.symm⟩

theorem not_names_of_malformed (malformed : Malformed s) : ¬ Names s id := by
  rintro ⟨boundary, ⟨path, whole, long⟩, nonempty, free⟩
  cases malformed with
  | short bytes =>
    rw [whole, String.utf8ByteSize_append, String.utf8ByteSize_append] at bytes
    omega
  | straddled inside => exact inside boundary
  | slashless none => exact none (by simp [whole])
  | trailing path' ended =>
    have same : path ++ "/" ++ id = path' ++ "/" ++ "" := by
      rw [← whole, ended, String.append_empty]
    exact nonempty (last_slash_unique same free (by simp)).2
  | early path' rest last free' inside =>
    obtain ⟨rfl, -⟩ := last_slash_unique (whole.symm.trans last) free free'
    omega

theorem malformed_of_unnamed (unnamed : ¬ ∃ id, Names s id) : Malformed s := by
  by_cases boundary : String.Pos.Raw.IsValid s ⟨7⟩
  · by_cases slash : '/' ∈ s.toList
    · obtain ⟨path, rest, split, free⟩ := exists_last_slash slash
      have whole : s = String.ofList path ++ "/" ++ String.ofList rest := by
        apply String.toList_inj.mp
        simp [split]
      by_cases nothing : String.ofList rest = ""
      · exact .trailing _ (by rw [whole, nothing, String.append_empty])
      · rcases Nat.lt_or_ge (String.ofList path).utf8ByteSize 7 with inside | long
        · exact .early _ _ whole (by simpa using free) inside
        · exact absurd ⟨_, boundary, ⟨_, whole, long⟩, nothing, by simpa using free⟩ unnamed
    · exact .slashless slash
  · exact .straddled boundary

end Grammar

/-- A provider id is accepted exactly if it names an instance, and then the result is the id that it
names, of which there is only one. Every other text is rejected as malformed, for one of the listed
reasons. -/
theorem provider_ids_follow_grammar (s : String) :
    (∀ id, instanceId s = .ok id ↔ Names s id) ∧
    (∀ e, instanceId s = .error e ↔ e = .malformedProviderId s ∧ ¬ ∃ id, Names s id) ∧
    (∀ id id', Names s id → Names s id' → id = id') ∧
    ((¬ ∃ id, Names s id) ↔ Malformed s) := by
  refine ⟨fun _ => instanceId_eq_ok_iff, fun _ => instanceId_eq_error_iff, ?_, ?_⟩
  · rintro id id' ⟨-, ⟨path, whole, -⟩, -, free⟩ ⟨-, ⟨path', whole', -⟩, -, free'⟩
    exact (last_slash_unique (whole.symm.trans whole') free free').2
  · constructor
    · exact malformed_of_unnamed
    · rintro malformed ⟨id, named⟩
      exact not_names_of_malformed malformed named

theorem wide_letters_follow_grammar :
    instanceId "aws://ü/zone/i-1" = .error (.malformedProviderId "aws://ü/zone/i-1") ∧
      instanceId "aws:/ü/zone/i-1" = .ok "i-1" := by
  obtain ⟨-, rejected, -, faults⟩ := provider_ids_follow_grammar "aws://ü/zone/i-1"
  obtain ⟨accepted, -⟩ := provider_ids_follow_grammar "aws:/ü/zone/i-1"
  constructor
  · exact (rejected _).mpr ⟨rfl, faults.mpr (.straddled (by decide))⟩
  · exact (accepted "i-1").mpr
      ⟨by decide, ⟨"aws:/ü/zone", by decide, by decide⟩, by decide, by decide⟩

end NodeScaling
