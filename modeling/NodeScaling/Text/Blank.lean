/-!
Blank characters and trimming. A character is blank when it has the Unicode property
White_Space; `trim` drops the blank characters at both ends of a text and no others.
-/
namespace NodeScaling.Text

/-- The characters with the Unicode property White_Space. -/
def isBlank (c : Char) : Bool :=
  let n := c.toNat
  (9 ≤ n && n ≤ 13) || n == 0x20 || n == 0x85 || n == 0xA0 || n == 0x1680 ||
    (0x2000 ≤ n && n ≤ 0x200A) || n == 0x2028 || n == 0x2029 || n == 0x202F ||
    n == 0x205F || n == 0x3000

def dropBlankEnd (cs : List Char) : List Char :=
  (cs.reverse.dropWhile isBlank).reverse

def trimChars (cs : List Char) : List Char :=
  dropBlankEnd (cs.dropWhile isBlank)

def trim (s : String) : String :=
  String.ofList (trimChars s.toList)

/-- A text is blank when nothing is left of it after trimming. -/
def isBlankText (s : String) : Bool :=
  s.toList.all isBlank

theorem toList_trim (s : String) : (trim s).toList = trimChars s.toList := by
  simp [trim]

theorem mem_dropWhile_of_false {p : Char → Bool} {c : Char} {cs : List Char} (member : c ∈ cs)
    (kept : p c = false) : c ∈ cs.dropWhile p := by
  rw [← List.takeWhile_append_dropWhile (p := p) (l := cs), List.mem_append] at member
  rcases member with dropped | here
  · have blank := List.all_eq_true.mp List.all_takeWhile c dropped
    rw [kept] at blank
    cases blank
  · exact here

theorem isBlankText_trim {s : String} (ink : isBlankText s = false) :
    isBlankText (trim s) = false := by
  rw [isBlankText, List.all_eq_false] at ink ⊢
  obtain ⟨c, member, notBlank⟩ := ink
  have kept : isBlank c = false := by simpa using notBlank
  refine ⟨c, ?_, notBlank⟩
  rw [toList_trim, trimChars, dropBlankEnd, List.mem_reverse]
  exact mem_dropWhile_of_false (List.mem_reverse.mpr (mem_dropWhile_of_false member kept)) kept

theorem mem_of_mem_trimChars {c : Char} {cs : List Char} (member : c ∈ trimChars cs) : c ∈ cs := by
  rw [trimChars, dropBlankEnd, List.mem_reverse] at member
  have inner := List.mem_reverse.mp ((List.dropWhile_sublist isBlank).mem member)
  exact (List.dropWhile_sublist isBlank).mem inner

theorem not_isBlank_of_first {c : Char} {cs : List Char}
    (first : (cs.dropWhile isBlank).head? = some c) : isBlank c = false := by
  have ink := List.head?_dropWhile_not isBlank cs
  rwa [first] at ink

theorem dropWhile_isBlank_of_first {cs : List Char}
    (ink : ∀ c, cs.head? = some c → isBlank c = false) : cs.dropWhile isBlank = cs := by
  cases cs with
  | nil => rfl
  | cons c cs => simp [ink c rfl]

theorem dropBlankEnd_append (cs : List Char) : ∃ blanks, dropBlankEnd cs ++ blanks = cs := by
  refine ⟨(cs.reverse.takeWhile isBlank).reverse, ?_⟩
  rw [dropBlankEnd, ← List.reverse_append, List.takeWhile_append_dropWhile, List.reverse_reverse]

theorem dropBlankEnd_dropBlankEnd (cs : List Char) :
    dropBlankEnd (dropBlankEnd cs) = dropBlankEnd cs := by
  rw [dropBlankEnd, dropBlankEnd, List.reverse_reverse,
    dropWhile_isBlank_of_first fun c first => not_isBlank_of_first first]

theorem not_isBlank_of_head? {c : Char} {cs : List Char}
    (first : (trimChars cs).head? = some c) : isBlank c = false := by
  obtain ⟨blanks, whole⟩ := dropBlankEnd_append (cs.dropWhile isBlank)
  have kept : (cs.dropWhile isBlank).head? = some c := by
    rw [← whole, List.head?_append, ← trimChars, first]
    rfl
  exact not_isBlank_of_first kept

theorem not_isBlank_of_getLast? {c : Char} {cs : List Char}
    (last : (trimChars cs).getLast? = some c) : isBlank c = false := by
  rw [trimChars, dropBlankEnd, List.getLast?_reverse] at last
  exact not_isBlank_of_first last

theorem trimChars_trimChars (cs : List Char) : trimChars (trimChars cs) = trimChars cs := by
  have started : (trimChars cs).dropWhile isBlank = trimChars cs :=
    dropWhile_isBlank_of_first fun c first => not_isBlank_of_head? first
  rw [trimChars, started, trimChars, dropBlankEnd_dropBlankEnd]

theorem trim_trim (s : String) : trim (trim s) = trim s := by
  rw [trim, toList_trim, trimChars_trimChars, ← trim]

def Unpadded (cs : List Char) : Prop :=
  ∀ c, cs.head? = some c ∨ cs.getLast? = some c → isBlank c = false

theorem unpadded_trimChars (cs : List Char) : Unpadded (trimChars cs) := by
  intro c atEnd
  rcases atEnd with first | last
  · exact not_isBlank_of_head? first
  · exact not_isBlank_of_getLast? last

theorem trimChars_of_unpadded {cs : List Char} (unpadded : Unpadded cs) : trimChars cs = cs := by
  have kept : cs.dropWhile isBlank = cs :=
    dropWhile_isBlank_of_first fun c first => unpadded c (.inl first)
  have ended : cs.reverse.dropWhile isBlank = cs.reverse := by
    apply dropWhile_isBlank_of_first
    intro c first
    rw [List.head?_reverse] at first
    exact unpadded c (.inr first)
  rw [trimChars, kept, dropBlankEnd, ended, List.reverse_reverse]

theorem trim_eq_self_iff {s : String} : trim s = s ↔ Unpadded s.toList := by
  constructor
  · intro trimmed
    rw [← trimmed, toList_trim]
    exact unpadded_trimChars s.toList
  · intro unpadded
    rw [trim, trimChars_of_unpadded unpadded, String.ofList_toList]

theorem trim_of_ink {s : String} (ink : ∀ c ∈ s.toList, isBlank c = false) : trim s = s := by
  apply trim_eq_self_iff.mpr
  intro c atEnd
  rcases atEnd with first | last
  · exact ink c (List.mem_of_mem_head? first)
  · exact ink c (List.mem_of_getLast? last)

theorem trim_of_blank {s : String} (blank : isBlankText s) : trim s = "" := by
  have nothing : s.toList.dropWhile isBlank = [] := by
    rw [← List.append_nil s.toList]
    exact List.dropWhile_append_of_pos (List.all_eq_true.mp blank)
  rw [trim, trimChars, nothing]
  rfl

theorem trim_eq_empty_iff {s : String} : trim s = "" ↔ isBlankText s = true := by
  refine ⟨fun nothing => ?_, trim_of_blank⟩
  cases ink : isBlankText s with
  | true => rfl
  | false =>
    have left := isBlankText_trim ink
    rw [nothing] at left
    cases left

end NodeScaling.Text
