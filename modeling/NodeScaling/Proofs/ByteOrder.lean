/-!
The order of texts by their bytes. A greater character has the greater bytes in UTF-8, so that texts
are ordered in the same way by their characters and by their bytes.
-/
namespace NodeScaling.Text

def bytes (s : String) : List UInt8 :=
  s.toUTF8.data.toList

theorem bytes_eq_flatMap (s : String) : bytes s = s.toList.flatMap String.utf8EncodeChar := by
  have encoded : s.toByteArray = s.toList.utf8Encode := by
    rw [← String.toByteArray_ofList, String.ofList_toList]
  rw [bytes, String.toUTF8_eq_toByteArray, encoded, List.utf8Encode, List.toList_data_toByteArray]

section Words
variable {m n : Nat} (small : m < 256) (small' : n < 256)
include small small'

theorem ofNat_lt_ofNat_iff : UInt8.ofNat m < UInt8.ofNat n ↔ m < n := by
  rw [UInt8.lt_iff_toNat_lt, UInt8.toNat_ofNat_of_lt' small, UInt8.toNat_ofNat_of_lt' small']

theorem ofNat_eq_ofNat_iff : UInt8.ofNat m = UInt8.ofNat n ↔ m = n := by
  rw [← UInt8.toNat_inj, UInt8.toNat_ofNat_of_lt' small, UInt8.toNat_ofNat_of_lt' small']

end Words

/-- The bytes of a character: the leading one and three more at most, by places of six bits. -/
inductive Encoded (n : Nat) : List UInt8 → Prop where
  | one (high : n < 0x80) : Encoded n [.ofNat n]
  | two (low : 0x80 ≤ n) (high : n < 0x800) :
      Encoded n [.ofNat (n / 64 + 192), .ofNat (n % 64 + 128)]
  | three (low : 0x800 ≤ n) (high : n < 0x10000) :
      Encoded n [.ofNat (n / 64 / 64 + 224), .ofNat (n / 64 % 64 + 128), .ofNat (n % 64 + 128)]
  | four (low : 0x10000 ≤ n) (high : n < 0x110000) :
      Encoded n [.ofNat (n / 64 / 64 / 64 + 240), .ofNat (n / 64 / 64 % 64 + 128),
        .ofNat (n / 64 % 64 + 128), .ofNat (n % 64 + 128)]

theorem encoded_utf8EncodeChar (c : Char) : Encoded c.val.toNat (String.utf8EncodeChar c) := by
  have valid : c.val.toNat < 0x110000 := by
    have scalar := c.valid
    simp only [UInt32.isValidChar, Nat.isValidChar] at scalar
    omega
  simp only [String.utf8EncodeChar]
  generalize c.val.toNat = n at valid
  have squared : n / 4096 = n / 64 / 64 := by omega
  have cubed : n / 262144 = n / 64 / 64 / 64 := by omega
  split
  · exact .one (by omega)
  · split
    · rw [Nat.mod_eq_of_lt (by omega : n / 64 < 32)]
      exact .two (by omega) (by omega)
    · split
      · rw [squared, Nat.mod_eq_of_lt (by omega : n / 64 / 64 < 16)]
        exact .three (by omega) (by omega)
      · rw [cubed, squared, Nat.mod_eq_of_lt (by omega : n / 64 / 64 / 64 < 8)]
        exact .four (by omega) valid

theorem Encoded.ne_nil {n : Nat} {bs : List UInt8} (encoded : Encoded n bs) : bs ≠ [] := by
  cases encoded <;> nofun

theorem Encoded.lt {m n : Nat} {bs cs : List UInt8} (first : Encoded m bs) (second : Encoded n cs)
    (less : m < n) (us vs : List UInt8) : bs ++ us < cs ++ vs := by
  -- the greater number has more places, or the same and is greater in the first that differs
  cases first <;> cases second <;>
    simp (disch := omega) only [List.cons_append, List.nil_append, List.cons_lt_cons_iff,
      ofNat_lt_ofNat_iff, ofNat_eq_ofNat_iff] <;>
    omega

theorem utf8EncodeChar_lt {c d : Char} (less : c < d) (us vs : List UInt8) :
    String.utf8EncodeChar c ++ us < String.utf8EncodeChar d ++ vs :=
  (encoded_utf8EncodeChar c).lt (encoded_utf8EncodeChar d)
    (UInt32.lt_iff_toNat_lt.mp (Char.lt_def.mp less)) us vs

theorem flatMap_utf8EncodeChar_lt {cs ds : List Char} (less : cs < ds) :
    cs.flatMap String.utf8EncodeChar < ds.flatMap String.utf8EncodeChar := by
  induction cs generalizing ds with
  | nil =>
    cases ds with
    | nil => exact absurd less (List.lt_irrefl [])
    | cons d ds =>
      obtain ⟨b, bs, start⟩ := List.exists_cons_of_ne_nil (encoded_utf8EncodeChar d).ne_nil
      rw [List.flatMap_cons, start, List.cons_append]
      exact List.nil_lt_cons b _
  | cons c cs ih =>
    cases ds with
    | nil => exact absurd less (List.not_lt_nil _)
    | cons d ds =>
      rw [List.flatMap_cons, List.flatMap_cons]
      rcases List.cons_lt_cons_iff.mp less with first | ⟨rfl, rest⟩
      · exact utf8EncodeChar_lt first _ _
      · exact List.append_left_lt (ih rest)

theorem bytes_lt {s t : String} (less : s < t) : bytes s < bytes t := by
  rw [bytes_eq_flatMap, bytes_eq_flatMap]
  exact flatMap_utf8EncodeChar_lt (String.lt_iff.mp less)

theorem lt_iff_bytes_lt {s t : String} : s < t ↔ bytes s < bytes t := by
  refine ⟨bytes_lt, fun less => ?_⟩
  apply Classical.byContradiction
  intro notLess
  by_cases greater : t < s
  · exact List.lt_asymm less (bytes_lt greater)
  · have same : s = t := String.le_antisymm (String.not_lt.mp greater) (String.not_lt.mp notLess)
    rw [same] at less
    exact List.lt_irrefl _ less

def byteOrder (s t : String) : Bool :=
  decide (bytes s ≤ bytes t)

theorem byteOrder_iff {s t : String} : byteOrder s t = true ↔ s ≤ t := by
  rw [byteOrder, decide_eq_true_iff, ← String.not_lt, lt_iff_bytes_lt]
  rfl

theorem pairwise_mergeSort_byteOrder (texts : List String) :
    (texts.mergeSort byteOrder).Pairwise (· ≤ ·) := by
  have sorted : (texts.mergeSort byteOrder).Pairwise fun s t => byteOrder s t = true := by
    apply List.pairwise_mergeSort
    · intro s t u first second
      exact byteOrder_iff.mpr
        (String.le_trans (byteOrder_iff.mp first) (byteOrder_iff.mp second))
    · intro s t
      simpa [byteOrder_iff] using String.le_total s t
  exact sorted.imp byteOrder_iff.mp

end NodeScaling.Text
