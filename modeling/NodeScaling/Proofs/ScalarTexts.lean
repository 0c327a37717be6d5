import NodeScaling.Json.Printer
import NodeScaling.Json.Reader

/-!
The texts of whole numbers and of strings. What is printed for one of them is read back as the same
one, whatever follows it in a larger text. A number has no mark of its own for its end, so it may
only be followed by what ends a value.
-/
namespace NodeScaling.Json

def EndsValue : List Char → Prop
  | [] => True
  | c :: _ => c = ',' ∨ c = ']' ∨ c = '\x7d'

section Numbers
variable {rest : List Char}

theorem ofDigits_map_digitValue (ds : List Char) :
    ofDigits (ds.map digitValue) = Nat.ofDigitChars 10 ds 0 := by
  rw [ofDigits, Nat.ofDigitChars_eq_foldl, List.foldl_map]
  have step : (fun n (c : Char) => n * 10 + digitValue c) =
      fun n (c : Char) => 10 * n + (c.toNat - '0'.toNat) := by
    funext n c
    rw [Nat.mul_comm]
    rfl
  rw [step]

theorem ofDigits_toDigits (n : Nat) : ofDigits ((Nat.toDigits 10 n).map digitValue) = n := by
  rw [ofDigits_map_digitValue]
  exact Nat.ofDigitChars_toDigits (by omega) (by omega)

theorem isDigit_of_mem {n : Nat} {c : Char} (member : c ∈ Nat.toDigits 10 n) : c.isDigit :=
  Nat.isDigit_of_mem_toDigits (by omega) (by omega) member

theorem not_isDigit_of_ends {c : Char} {cs : List Char} (ends : EndsValue (c :: cs)) :
    c.isDigit = false := by
  rcases ends with rfl | rfl | rfl <;> rfl

theorem spanDigits_toDigits (n : Nat) (ends : EndsValue rest) :
    spanDigits (Nat.toDigits 10 n ++ rest) = ((Nat.toDigits 10 n).map digitValue, rest) := by
  have digits : ∀ c ∈ Nat.toDigits 10 n, c.isDigit = true := fun _ => isDigit_of_mem
  have taken : rest.takeWhile Char.isDigit = [] := by
    cases rest with
    | nil => rfl
    | cons c cs => simp [not_isDigit_of_ends ends]
  have left : rest.dropWhile Char.isDigit = rest := by
    cases rest with
    | nil => rfl
    | cons c cs => simp [not_isDigit_of_ends ends]
  rw [spanDigits, List.takeWhile_append_of_pos digits, List.dropWhile_append_of_pos digits, taken,
    left, List.append_nil]

theorem eq_zero_of_leading_zero (n : Nat) {ds : List Char} (leading : Nat.toDigits 10 n = '0' :: ds) :
    n = 0 := by
  induction n using Nat.strongRecOn generalizing ds with
  | ind n ih =>
    rw [Nat.toDigits_eq_if (by omega)] at leading
    split at leading
    · next small =>
      have first : n.digitChar = '0' := by simpa using (List.cons.inj leading).1
      exact Nat.digitChar_eq_zero.mp first
    · next large =>
      -- the leading digit of a longer number is that of its quotient, which is not zero
      cases quotient : Nat.toDigits 10 (n / 10) with
      | nil => exact absurd quotient Nat.toDigits_ne_nil
      | cons c cs =>
        rw [quotient, List.cons_append] at leading
        have same : c = '0' := (List.cons.inj leading).1
        have zero := ih (n / 10) (by omega) (by rw [quotient, same])
        omega

theorem readWhole?_toDigits (n : Nat) (ends : EndsValue rest) :
    readWhole? (Nat.toDigits 10 n ++ rest) = some ((Nat.toDigits 10 n).map digitValue, rest) := by
  have read : readDigits? (Nat.toDigits 10 n ++ rest) =
      some ((Nat.toDigits 10 n).map digitValue, rest) := by
    rw [readDigits?, spanDigits_toDigits n ends]
    cases digits : Nat.toDigits 10 n with
    | nil => exact absurd digits Nat.toDigits_ne_nil
    | cons c cs => rfl
  rw [readWhole?, read]
  split
  · next d ds _ same =>
    have zeros : (Nat.toDigits 10 n).map digitValue = 0 :: d :: ds :=
      congrArg Prod.fst (Option.some.inj same)
    obtain ⟨c, cs, digits, first, others⟩ := List.map_eq_cons_iff.mp zeros
    have isDigit : c.isDigit := isDigit_of_mem (by rw [digits]; exact List.mem_cons_self)
    have isZero : c = '0' := by
      apply Char.toNat_inj.mp
      simp only [Char.isDigit, Bool.and_eq_true, decide_eq_true_eq] at isDigit
      have lower : 48 ≤ c.toNat := isDigit.1
      have value : c.toNat - 48 = 0 := first
      have code : '0'.toNat = 48 := rfl
      omega
    have zero : n = 0 := eq_zero_of_leading_zero n (by rw [digits, isZero])
    rw [zero] at digits
    cases digits
    cases others
  · rfl

theorem readUnsigned?_toDigits (negative : Bool) (n : Nat) (ends : EndsValue rest) :
    readUnsigned? negative (Nat.toDigits 10 n ++ rest) =
      some (⟨negative, (Nat.toDigits 10 n).map digitValue, [], 0, true⟩, rest) := by
  have fraction : readFraction? rest = some (none, rest) := by
    cases rest with
    | nil => rfl
    | cons c cs => rcases ends with rfl | rfl | rfl <;> rfl
  have exponent : readExponent? rest = some (none, rest) := by
    cases rest with
    | nil => rfl
    | cons c cs => rcases ends with rfl | rfl | rfl <;> rfl
  rw [readUnsigned?, readWhole?_toDigits n ends]
  simp only [Option.bind_eq_bind, Option.bind_some, fraction, exponent]
  rfl

theorem readNumberParts?_of_digit {c : Char} (digit : c.isDigit) (cs : List Char) :
    readNumberParts? (c :: cs) = readUnsigned? false (c :: cs) := by
  unfold readNumberParts?
  split
  · next same =>
    cases same
    cases digit
  · rfl

theorem toList_text_ofNat (n : Nat) (fits) :
    (Number.int (Int.ofNat n) fits).text.toList = Nat.toDigits 10 n := by
  change (Int.repr (Int.ofNat n)).toList = _
  rw [Int.repr, Nat.repr_eq_ofList_toDigits, String.toList_ofList]

theorem toList_text_negSucc (n : Nat) (fits) :
    (Number.int (Int.negSucc n) fits).text.toList = '-' :: Nat.toDigits 10 (n + 1) := by
  change (Int.repr (Int.negSucc n)).toList = _
  rw [Int.repr, Nat.repr_eq_ofList_toDigits, String.toList_append, String.toList_ofList]
  simp

theorem text_start (value : Int) (fits) :
    ∃ c cs, (Number.int value fits).text.toList = c :: cs ∧ (c.isDigit ∨ c = '-') := by
  cases value with
  | ofNat n =>
    rw [toList_text_ofNat]
    cases digits : Nat.toDigits 10 n with
    | nil => exact absurd digits Nat.toDigits_ne_nil
    | cons c cs =>
      exact ⟨c, cs, rfl, Or.inl (isDigit_of_mem (by rw [digits]; exact List.mem_cons_self))⟩
  | negSucc n => exact ⟨'-', _, toList_text_negSucc n fits, Or.inr rfl⟩

theorem ofInt?_of_fits {value : Int} (fits) :
    Number.ofInt? value = some (.int value fits) := by
  rw [Number.ofInt?, dif_pos fits]

theorem number?_of_natural (n : Nat) (fits) :
    NumberParts.number? ⟨false, (Nat.toDigits 10 n).map digitValue, [], 0, true⟩ =
      some (.int (Int.ofNat n) fits) := by
  have read : Number.ofInt? (n : Int) = some (.int (Int.ofNat n) fits) := ofInt?_of_fits fits
  simp only [NumberParts.number?, ofDigits_toDigits, read, if_true, Bool.false_eq_true, if_false]
  rfl

theorem number?_of_negative (n : Nat) (fits) :
    NumberParts.number? ⟨true, (Nat.toDigits 10 (n + 1)).map digitValue, [], 0, true⟩ =
      some (.int (Int.negSucc n) fits) := by
  have read : Number.ofInt? (-((n + 1 : Nat) : Int)) = some (.int (Int.negSucc n) fits) :=
    ofInt?_of_fits fits
  have nonzero : ¬ ((n + 1 : Nat) : Int) = 0 := by omega
  simp only [NumberParts.number?, ofDigits_toDigits, read, nonzero, if_true, if_false]
  rfl

theorem readNumber?_text (value : Int) (fits) (ends : EndsValue rest) :
    readNumber? ((Number.int value fits).text.toList ++ rest) =
      some (number (.int value fits), rest) := by
  cases value with
  | ofNat n =>
    have parts : readNumberParts? (Nat.toDigits 10 n ++ rest) =
        some (⟨false, (Nat.toDigits 10 n).map digitValue, [], 0, true⟩, rest) := by
      rw [← readUnsigned?_toDigits false n ends]
      cases digits : Nat.toDigits 10 n with
      | nil => exact absurd digits Nat.toDigits_ne_nil
      | cons c cs =>
        have digit : c.isDigit := isDigit_of_mem (by rw [digits]; exact List.mem_cons_self)
        exact readNumberParts?_of_digit digit (cs ++ rest)
    rw [toList_text_ofNat, readNumber?, parts, Option.map_some]
    simp only [number?_of_natural n fits]
  | negSucc n =>
    have parts : readNumberParts? ('-' :: Nat.toDigits 10 (n + 1) ++ rest) =
        some (⟨true, (Nat.toDigits 10 (n + 1)).map digitValue, [], 0, true⟩, rest) :=
      readUnsigned?_toDigits true (n + 1) ends
    rw [toList_text_negSucc, readNumber?, parts, Option.map_some]
    simp only [number?_of_negative n fits]

end Numbers

section Strings
variable {rest : List Char}

/-- The piece that a character is written as: by its code if it is a control character without an
escape of its own. -/
def writtenPiece (c : Char) : Piece :=
  if c.toNat < 0x20 ∧ c ∉ ['\x08', '\x0c', '\n', '\r', '\t'] then .unit c.toNat else .char c

theorem hexValue?_hexDigit (n : Nat) : hexValue? (hexDigit n) = some (n % 16) := by
  have each : ∀ d < 16, hexValue? (Nat.digitChar d) = some d := by decide
  exact each (n % 16) (Nat.mod_lt n (by omega))

theorem readPieces_short {e c : Char} (escape : shortEscape? e = some c) (cs : List Char) :
    readPieces ('\\' :: e :: cs) =
      (readPieces cs).map fun (pieces, rest) => (.char c :: pieces, rest) := by
  have other : e ≠ 'u' := by
    rintro rfl
    cases escape
  rw [readPieces, escape]
  · cases readPieces cs <;> rfl
  · intro _ _ _ _ _ same
    exact absurd same other

theorem readPieces_code (a b c d : Char) {code : Nat} (value : unitValue? a b c d = some code)
    (cs : List Char) :
    readPieces ('\\' :: 'u' :: a :: b :: c :: d :: cs) =
      (readPieces cs).map fun (pieces, rest) => (.unit code :: pieces, rest) := by
  rw [readPieces, value]
  cases readPieces cs <;> rfl

theorem readPieces_plain {c : Char} (quote : c ≠ '"') (slash : c ≠ '\\') (high : 0x20 ≤ c.toNat)
    (cs : List Char) :
    readPieces (c :: cs) = (readPieces cs).map fun (pieces, rest) => (.char c :: pieces, rest) := by
  have refused : (decide (c.toNat < 0x20) || c == '\\') = false := by simp [slash, high]
  rw [readPieces, refused]
  · cases readPieces cs <;> rfl
  · exact quote
  · intro _ _ _ _ _ same
    exact absurd same slash
  · intro _ _ same
    exact absurd same slash

theorem readPieces_escapeChar (c : Char) (cs : List Char) :
    readPieces (escapeChar c ++ cs) =
      (readPieces cs).map fun (pieces, rest) => (writtenPiece c :: pieces, rest) := by
  unfold escapeChar
  -- the seven characters with a short escape
  iterate 7
    split
    · next same => subst same; exact readPieces_short rfl cs
  split
  · next noB noF noN noR noT control =>
    have value : unitValue? '0' '0' (hexDigit (c.toNat / 16)) (hexDigit c.toNat) =
        some c.toNat := by
      have zero : hexValue? '0' = some 0 := rfl
      simp only [unitValue?, zero, hexValue?_hexDigit, Option.bind_eq_bind, Option.bind_some]
      congr 1
      omega
    have piece : writtenPiece c = .unit c.toNat := by
      rw [writtenPiece, if_pos]
      exact ⟨control, by simp [noB, noF, noN, noR, noT]⟩
    rw [piece]
    exact readPieces_code _ _ _ _ value cs
  · next noQuote noSlash _ _ _ _ _ high =>
    have piece : writtenPiece c = .char c := by
      rw [writtenPiece, if_neg]
      exact fun control => high control.1
    rw [piece]
    exact readPieces_plain noQuote noSlash (by omega) cs

theorem readPieces_written (cs rest : List Char) :
    readPieces (cs.flatMap escapeChar ++ '"' :: rest) = some (cs.map writtenPiece, rest) := by
  induction cs with
  | nil => rfl
  | cons c cs ih =>
    rw [List.flatMap_cons, List.append_assoc, readPieces_escapeChar, ih]
    rfl

theorem joinPieces_unit {code : Nat} (low : code < 0xD800) (ps : List Piece) :
    joinPieces (.unit code :: ps) = (joinPieces ps).map (Char.ofNat code :: ·) := by
  have leading : isLeading code = false := by simp [isLeading]; omega
  have trailing : isTrailing code = false := by simp [isTrailing]; omega
  cases ps with
  | nil => simp [joinPieces, leading, trailing]
  | cons p ps =>
    cases p with
    | char c => simp [joinPieces, leading, trailing]
    | unit next => simp [joinPieces, leading, trailing]

theorem joinPieces_written (cs : List Char) : joinPieces (cs.map writtenPiece) = some cs := by
  induction cs with
  | nil => rfl
  | cons c cs ih =>
    rw [List.map_cons, writtenPiece]
    split
    · next control =>
      rw [joinPieces_unit (by omega), ih, Char.ofNat_toNat]
      rfl
    · rw [joinPieces, ih]
      rfl

theorem readString?_written (s : String) (rest : List Char) :
    readString? (s.toList.flatMap escapeChar ++ '"' :: rest) = some (some s, rest) := by
  rw [readString?, readPieces_written, Option.map_some]
  simp only [joinPieces_written, Option.map_some, String.ofList_toList]

end Strings

end NodeScaling.Json
