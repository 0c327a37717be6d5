import NodeScaling.Proofs.SettingTexts
import NodeScaling.Proofs.ValidSettings

/-!
Lists of instance types in one text. Splitting turns commas between texts into concatenation of
lists, so that a list is split as its pieces are, and what comes out is in a normal form that
splitting, joining and cleaning leave as it is.
-/
namespace NodeScaling.Settings

/-- A text that stands in a list as it is written: inhabited, without a comma, and without a blank
character at either end. -/
def IsEntry (t : String) : Prop :=
  t ≠ "" ∧ ',' ∉ t.toList ∧ Text.Unpadded t.toList

theorem isTypeName_iff_isEntry {t : String} : IsTypeName t ↔ IsEntry t := by
  constructor
  · intro name
    exact ⟨name.ne_empty, name.free, Text.trim_eq_self_iff.mp name.trimmed⟩
  · intro entry
    obtain ⟨inhabited, free, unpadded⟩ := entry
    exact ⟨Text.trim_eq_self_iff.mpr unpadded, inhabited, free⟩

theorem cleaned_append (texts more : List String) :
    cleaned (texts ++ more) = cleaned texts ++ cleaned more := by
  simp [cleaned]

theorem splitTypes_append (a b : String) :
    splitTypes (a ++ "," ++ b) = splitTypes a ++ splitTypes b := by
  have spelt : (a ++ "," ++ b).toList = a.toList ++ ',' :: b.toList := by simp
  rw [splitTypes, spelt, List.splitOn_append_cons_self, List.map_append, cleaned_append]
  rfl

theorem splitTypes_of_free {s : String} (free : ',' ∉ s.toList) :
    splitTypes s = if Text.isBlankText s then [] else [Text.trim s] := by
  rw [splitTypes, List.splitOn_eq_singleton free]
  cases ink : Text.isBlankText s with
  | true =>
    have nothing := Text.trim_eq_empty_iff.mpr ink
    simp [cleaned, nothing]
  | false =>
    have inhabited : Text.trim s ≠ "" := by
      intro nothing
      rw [Text.trim_eq_empty_iff, ink] at nothing
      cases nothing
    simp [cleaned, inhabited]

/-- A type list is split where its commas are, and every list that comes out is a normal form: its
entries cannot be split or trimmed further, joining them and splitting again gives them back, and a
configuration takes them as they are, the first of them for its base type. -/
theorem type_lists_split_to_normal_form :
    (∀ s, ∀ t ∈ splitTypes s, IsEntry t) ∧
    (∀ a b, splitTypes (a ++ "," ++ b) = splitTypes a ++ splitTypes b) ∧
    (∀ s, ',' ∉ s.toList →
      splitTypes s = if Text.isBlankText s then [] else [Text.trim s]) ∧
    (∀ types, (∀ t ∈ types, IsEntry t) → splitTypes (",".intercalate types) = types) ∧
    (∀ s, splitTypes (",".intercalate (splitTypes s)) = splitTypes s) ∧
    ∀ s, cleaned (splitTypes s) = splitTypes s ∧
      ∀ (settings : Settings) (c : Config), settings.instanceTypes = some (splitTypes s) →
        settings.resolve = .ok c →
          c.instanceTypes = splitTypes s ∧ (splitTypes s).head? = some c.baseInstanceType := by
  have names (s : String) : ∀ t ∈ splitTypes s, IsTypeName t := fun _ => isTypeName_of_split
  refine ⟨?_, splitTypes_append, ?_, ?_, ?_, ?_⟩
  · intro s t member
    exact isTypeName_iff_isEntry.mp (names s t member)
  · intro s free
    exact splitTypes_of_free free
  · intro types entries
    exact splitTypes_intercalate fun t member => isTypeName_iff_isEntry.mpr (entries t member)
  · intro s
    exact splitTypes_intercalate (names s)
  · intro s
    have kept : cleaned (splitTypes s) = splitTypes s := cleaned_of_names (names s)
    refine ⟨kept, ?_⟩
    intro settings c given resolved
    have valid := valid_of_resolve resolved
    have listed : c.instanceTypes = splitTypes s := by
      rw [valid.instanceTypes, given, Option.getD_some, ← cleaned_eq, kept]
    exact ⟨listed, by rw [← listed, valid.base]⟩

theorem padded_list_split_to_normal_form :
    let written := ",\u3000c3.xlarge ,\t, m4 large,"
    let types := ["c3.xlarge", "m4 large"]
    let settings : Settings := {
      groupId := some "workers", region := some "eu", apiKey := some "key"
      instanceTypes := some (splitTypes written) }
    splitTypes " m4 large\u3000" = ["m4 large"] ∧ splitTypes written = types ∧
      (∀ t ∈ types, IsEntry t) ∧ splitTypes (",".intercalate types) = types ∧
      ∃ c, settings.resolve = .ok c ∧ c.instanceTypes = types ∧
        c.baseInstanceType = "c3.xlarge" := by
  intro written types settings
  obtain ⟨entries, -, single, joined, -, taken⟩ := type_lists_split_to_normal_form
  have split : splitTypes written = types := by decide +kernel
  have listed : ∀ t ∈ types, IsEntry t := split ▸ entries written
  have alone : splitTypes " m4 large\u3000" = ["m4 large"] :=
    (single " m4 large\u3000" (by decide)).trans (by decide +kernel)
  refine ⟨alone, split, listed, joined types listed, ?_⟩
  have succeeds : settings.resolve.isOk := by decide +kernel
  cases resolved : settings.resolve with
  | error e =>
    rw [resolved] at succeeds
    cases succeeds
  | ok c =>
    obtain ⟨all, base⟩ := (taken written).2 settings c rfl resolved
    rw [split] at all base
    exact ⟨c, rfl, all, (Option.some.inj base).symm⟩

end NodeScaling.Settings
