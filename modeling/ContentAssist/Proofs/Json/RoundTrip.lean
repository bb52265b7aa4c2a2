import ContentAssist.Json.Reader
import ContentAssist.Json.Writer
import Mathlib.Data.List.TakeWhile
import Mathlib.Order.Nat

/-! Writing a JSON value and reading the text gives the value back, whatever layout stands between its tokens. For
each kind of value there is one lemma that reads its text in front of any other text that does not go on with it;
only a number could go on. -/
namespace ContentAssist.Json

/-- A layout that puts nothing but blanks between the tokens. -/
structure Layout.Blank (layout : Layout) : Prop where
  line : ∀ level, ∀ c ∈ layout.line level, Reader.isBlank c = true
  afterColon : ∀ c ∈ layout.afterColon, Reader.isBlank c = true

theorem Layout.compact_blank : Layout.compact.Blank where
  line := by simp [Layout.compact]
  afterColon := by simp [Layout.compact]

theorem Layout.pretty_blank : Layout.pretty.Blank where
  line := by
    intro level c hc
    simp only [Layout.pretty, List.mem_cons, List.mem_replicate] at hc
    rcases hc with rfl | ⟨_, rfl⟩ <;> rfl
  afterColon := by
    intro c hc
    rw [List.mem_singleton.mp hc]
    rfl

/-- What may follow a value: the end of the text, a blank, or the sign that goes on with or ends the array or object
that the value stands in. -/
def Follows (tail : List Char) : Prop :=
  ∀ c, tail.head? = some c → Reader.isBlank c = true ∨ c ∈ [',', ']', '}']

theorem follows_nil : Follows [] := by
  intro c hc
  cases hc

theorem follows_cons {c : Char} (hSign : c ∈ [',', ']', '}']) (tail : List Char) : Follows (c :: tail) := by
  intro d hd
  cases hd
  exact Or.inr hSign

/-- Blanks in front of a sign do not matter. -/
theorem follows_append {blanks : List Char} (hBlank : ∀ c ∈ blanks, Reader.isBlank c = true) {tail : List Char}
    (hTail : Follows tail) : Follows (blanks ++ tail) := by
  cases blanks with
  | nil => exact hTail
  | cons c blanks =>
      intro d hd
      cases hd
      exact Or.inl (hBlank c (List.mem_cons_self ..))

/-- What follows a value does not go on with a number. -/
theorem Follows.not_number {c : Char} {rest : List Char} (h : Follows (c :: rest)) :
    c.isDigit = false ∧ c ≠ '.' ∧ c ≠ 'e' ∧ c ≠ 'E' := by
  rcases h c rfl with hBlank | hSign
  · simp only [Reader.isBlank, Bool.or_eq_true, decide_eq_true_eq] at hBlank
    rcases hBlank with ((rfl | rfl) | rfl) | rfl <;> decide
  · simp only [List.mem_cons, List.not_mem_nil, or_false] at hSign
    rcases hSign with rfl | rfl | rfl <;> decide

namespace Reader

theorem skipBlanks_append {blanks : List Char} (hBlank : ∀ c ∈ blanks, isBlank c = true) (text : List Char) :
    skipBlanks (blanks ++ text) = skipBlanks text :=
  List.dropWhile_append_of_pos hBlank

theorem skipBlanks_cons {c : Char} (hBlank : isBlank c = false) (rest : List Char) :
    skipBlanks (c :: rest) = c :: rest :=
  List.dropWhile_cons_of_neg (by simp [hBlank])

section Strings

theorem hexDigit?_hexDigitChar : ∀ digit < 16, hexDigit? (hexDigitChar digit) = some digit := by decide

/-- A letter behind a backslash is read as the code of the character that it stands for. -/
theorem stringCodes_letter {letter code : Char} (hEscape : escape? letter = some code) (rest : List Char) :
    stringCodes ('\\' :: letter :: rest) =
      (stringCodes rest).map fun read => (code.toNat :: read.1, read.2) := by
  have hNe : letter ≠ 'u' := by
    rintro rfl
    cases hEscape
  rw [stringCodes]
  · cases stringCodes rest <;> simp [hEscape]
  · simp [hNe]

theorem stringCodes_plain {c : Char} (hQuote : c ≠ '"') (hSlash : c ≠ '\\') (hControl : ¬ c.toNat < 0x20)
    (rest : List Char) :
    stringCodes (c :: rest) = (stringCodes rest).map fun read => (c.toNat :: read.1, read.2) := by
  rw [stringCodes]
  · cases stringCodes rest <;> simp [hControl]
  · exact hQuote
  · simp [hSlash]
  · simp [hSlash]

theorem stringCodes_hex {high low : Char} {upper lower : Nat} (hHigh : hexDigit? high = some upper)
    (hLow : hexDigit? low = some lower) (rest : List Char) :
    stringCodes ('\\' :: 'u' :: '0' :: '0' :: high :: low :: rest) =
      (stringCodes rest).map fun read => ((upper * 16 + lower) :: read.1, read.2) := by
  have hZero : hexDigit? '0' = some 0 := rfl
  rw [stringCodes, hHigh, hLow, hZero]
  cases stringCodes rest <;> simp

/-- However a character is written, it is read as its code. -/
theorem stringCodes_escapeChar (c : Char) (rest : List Char) :
    stringCodes (escapeChar c ++ rest) =
      (stringCodes rest).map fun read => (c.toNat :: read.1, read.2) := by
  unfold escapeChar
  split_ifs with hQuote hSlash hBack hFeed hLine hReturn hTab hControl
  · subst hQuote
    exact stringCodes_letter rfl rest
  · subst hSlash
    exact stringCodes_letter rfl rest
  · subst hBack
    exact stringCodes_letter rfl rest
  · subst hFeed
    exact stringCodes_letter rfl rest
  · subst hLine
    exact stringCodes_letter rfl rest
  · subst hReturn
    exact stringCodes_letter rfl rest
  · subst hTab
    exact stringCodes_letter rfl rest
  · have hHigh := hexDigit?_hexDigitChar (c.toNat / 16) (by omega)
    have hLow := hexDigit?_hexDigitChar (c.toNat % 16) (by omega)
    have hCode : c.toNat / 16 * 16 + c.toNat % 16 = c.toNat := by omega
    have hCodes := stringCodes_hex hHigh hLow rest
    rwa [hCode] at hCodes
  · exact stringCodes_plain hQuote hSlash hControl rest

theorem stringCodes_escaped (text tail : List Char) :
    stringCodes (text.foldr (fun c rest => escapeChar c ++ rest) ('"' :: tail)) =
      some (text.map Char.toNat, tail) := by
  induction text with
  | nil => rfl
  | cons c text ih =>
      rw [List.foldr_cons, stringCodes_escapeChar, ih]
      rfl

/-- No character is half of a surrogate pair. -/
theorem not_surrogate (c : Char) : isHighSurrogate c.toNat = false ∧ isLowSurrogate c.toNat = false := by
  have hValid : c.toNat < 0xd800 ∨ 0xdfff < c.toNat ∧ c.toNat < 0x110000 := c.valid
  simp only [isHighSurrogate, isLowSurrogate, Bool.and_eq_false_iff, decide_eq_false_iff_not]
  omega

theorem charsOfCodes_toNat (text : List Char) : charsOfCodes (text.map Char.toNat) = some text := by
  induction text with
  | nil => rfl
  | cons c text ih =>
      obtain ⟨hHigh, hLow⟩ := not_surrogate c
      cases text with
      | nil => simp [charsOfCodes, hHigh, hLow]
      | cons d text =>
          rw [List.map_cons] at ih
          simp [charsOfCodes, hHigh, hLow, ih]

/-- A string is read back behind its opening quote. -/
theorem string?_write (string : Option String) (tail : List Char) :
    ∃ body, writeString string tail = '"' :: body ∧ string? body = some (string, tail) := by
  cases string with
  | none => exact ⟨_, rfl, rfl⟩
  | some text =>
      refine ⟨_, rfl, ?_⟩
      rw [string?, stringCodes_escaped]
      simp only [Option.map_some, charsOfCodes_toNat, String.ofList_toList]

end Strings

section Numbers

theorem digitsValue_toDigits (number : Nat) : digitsValue (Nat.toDigits 10 number) = number := by
  have hValue := Nat.ofDigitChars_ten_toDigits (n := number)
  rw [Nat.ofDigitChars_eq_foldl] at hValue
  simpa only [digitsValue, Nat.mul_comm] using hValue

theorem takeWhile_isDigit (number : Nat) {tail : List Char} (hTail : tail.takeWhile Char.isDigit = []) :
    (Nat.toDigits 10 number ++ tail).takeWhile Char.isDigit = Nat.toDigits 10 number := by
  have hDigits : ∀ c ∈ Nat.toDigits 10 number, c.isDigit = true :=
    fun c hc => Nat.isDigit_of_mem_toDigits (by decide) (by decide) hc
  rw [List.takeWhile_append_of_pos hDigits, hTail, List.append_nil]

theorem digits?_toDigits (number : Nat) {tail : List Char} (hTail : tail.takeWhile Char.isDigit = []) :
    digits? (Nat.toDigits 10 number ++ tail) = some (Nat.toDigits 10 number, tail) := by
  have hTake := takeWhile_isDigit number hTail
  have hDrop : (Nat.toDigits 10 number ++ tail).dropWhile Char.isDigit = tail := by
    have hSplit := List.takeWhile_append_dropWhile (p := Char.isDigit) (l := Nat.toDigits 10 number ++ tail)
    rw [hTake] at hSplit
    exact List.append_cancel_left hSplit
  unfold digits?
  rw [hTake, hDrop]
  cases hChars : Nat.toDigits 10 number with
  | nil => exact absurd hChars Nat.toDigits_ne_nil
  | cons c rest => rfl

/-- A number other than zero is not written with a zero in front. -/
theorem head?_toDigits {number : Nat} (hNumber : number ≠ 0) : (Nat.toDigits 10 number).head? ≠ some '0' := by
  induction number using Nat.strongRecOn with
  | ind number ih =>
      rw [Nat.toDigits_eq_if (by decide)]
      split
      · rename_i hSmall
        have hDigits : ∀ digit < 10, digit ≠ 0 → digit.digitChar ≠ '0' := by decide
        simpa using hDigits number hSmall hNumber
      · have hFront := ih (number / 10) (by omega) (by omega)
        rw [List.head?_append]
        cases hChars : Nat.toDigits 10 (number / 10) with
        | nil => exact absurd hChars Nat.toDigits_ne_nil
        | cons c rest => simpa [hChars] using hFront

theorem whole?_toDigits (number : Nat) {tail : List Char} (hTail : tail.takeWhile Char.isDigit = []) :
    whole? (Nat.toDigits 10 number ++ tail) = some (Nat.toDigits 10 number, tail) := by
  by_cases hZero : number = 0
  · subst hZero
    rfl
  · rw [← digits?_toDigits number hTail]
    have hHead := head?_toDigits hZero
    unfold whole?
    split
    · rename_i rest hText
      cases hChars : Nat.toDigits 10 number with
      | nil => exact absurd hChars Nat.toDigits_ne_nil
      | cons c others =>
          rw [hChars, List.cons_append, List.cons.injEq] at hText
          rw [hChars, hText.1] at hHead
          exact absurd rfl hHead
    · rfl

/-- The first digit of a number, which is no sign. -/
theorem exists_toDigits (number : Nat) :
    ∃ c rest, Nat.toDigits 10 number = c :: rest ∧ c.isDigit = true ∧ c ≠ '-' ∧ c ≠ '+' := by
  cases hChars : Nat.toDigits 10 number with
  | nil => exact absurd hChars Nat.toDigits_ne_nil
  | cons c rest =>
      have hDigit : c.isDigit = true :=
        Nat.isDigit_of_mem_toDigits (b := 10) (n := number) (by decide) (by decide) (by simp [hChars])
      refine ⟨c, rest, rfl, hDigit, ?_, ?_⟩
      · rintro rfl
        exact absurd hDigit (by decide)
      · rintro rfl
        exact absurd hDigit (by decide)

theorem takeWhile_isDigit_of_follows {tail : List Char} (hTail : Follows tail) :
    tail.takeWhile Char.isDigit = [] := by
  cases tail with
  | nil => rfl
  | cons c rest => exact List.takeWhile_cons_of_neg (by simp [hTail.not_number.1])

theorem fraction?_of_follows {tail : List Char} (hTail : Follows tail) : fraction? tail = some ([], tail) := by
  cases tail with
  | nil => rfl
  | cons c rest =>
      obtain ⟨_, hPoint, _⟩ := hTail.not_number
      unfold fraction?
      split
      · simp_all
      · rfl

theorem exponent?_of_follows {tail : List Char} (hTail : Follows tail) : exponent? tail = some (none, tail) := by
  cases tail with
  | nil => rfl
  | cons c rest =>
      obtain ⟨_, _, hLower, hUpper⟩ := hTail.not_number
      unfold exponent?
      split
      · simp_all
      · simp_all
      · rfl

theorem number?_count (number : Nat) {tail : List Char} (hTail : Follows tail) :
    number? (Nat.toDigits 10 number ++ tail) = some (.count number, tail) := by
  obtain ⟨c, rest, hChars, _, hMinus, _⟩ := exists_toDigits number
  have hWhole := whole?_toDigits number (takeWhile_isDigit_of_follows hTail)
  have hValue := digitsValue_toDigits number
  rw [hChars] at hWhole hValue ⊢
  simp only [List.cons_append] at hWhole ⊢
  simp [number?, hMinus, hWhole, hValue, fraction?_of_follows hTail, exponent?_of_follows hTail]

theorem digits?_of_follows (number : Nat) {tail : List Char} (hTail : Follows tail) :
    digits? (Nat.toDigits 10 number ++ tail) = some (Nat.toDigits 10 number, tail) :=
  digits?_toDigits number (takeWhile_isDigit_of_follows hTail)

/-- A decimal is written with its exponent behind an `e`, negative or not. -/
theorem exists_writeDecimal (number : Decimal) : ∃ power,
    writeDecimal number =
      (if number.negative then ['-'] else []) ++ Nat.toDigits 10 number.digits ++ 'e' :: power ∧
    ∀ tail, Follows tail → exponent? ('e' :: (power ++ tail)) = some (some number.exponent, tail) := by
  obtain ⟨negative, digits, exponent⟩ := number
  cases exponent with
  | ofNat power =>
      refine ⟨Nat.toDigits 10 power, rfl, fun tail hTail => ?_⟩
      obtain ⟨c, rest, hChars, _, hMinus, hPlus⟩ := exists_toDigits power
      have hDigits := digits?_of_follows power hTail
      have hValue := digitsValue_toDigits power
      simp only [hChars, List.cons_append] at hDigits hValue ⊢
      simp [exponent?, hMinus, hPlus, hDigits, hValue]
  | negSucc power =>
      refine ⟨'-' :: Nat.toDigits 10 (power + 1), rfl, fun tail hTail => ?_⟩
      simp [exponent?, digits?_of_follows (power + 1) hTail, digitsValue_toDigits, Int.negSucc_eq]

theorem writeDecimal_start (number : Decimal) (tail : List Char) :
    ∃ c rest, writeDecimal number ++ tail = c :: rest ∧ (c.isDigit = true ∨ c = '-') := by
  obtain ⟨power, hWritten, _⟩ := exists_writeDecimal number
  obtain ⟨c, rest, hChars, hDigit, _⟩ := exists_toDigits number.digits
  rw [hWritten, hChars]
  split
  · exact ⟨'-', _, rfl, Or.inr rfl⟩
  · exact ⟨c, _, rfl, Or.inl hDigit⟩

theorem number?_decimal (number : Decimal) {tail : List Char} (hTail : Follows tail) :
    number? (writeDecimal number ++ tail) = some (.decimal number, tail) := by
  obtain ⟨power, hWritten, hPower⟩ := exists_writeDecimal number
  obtain ⟨c, rest, hChars, _, hMinus, _⟩ := exists_toDigits number.digits
  have hExponent := hPower tail hTail
  have hWhole : whole? (Nat.toDigits 10 number.digits ++ 'e' :: (power ++ tail)) = some (_, _) :=
    whole?_toDigits number.digits rfl
  have hFraction : fraction? ('e' :: (power ++ tail)) = some ([], 'e' :: (power ++ tail)) := rfl
  have hValue := digitsValue_toDigits number.digits
  obtain ⟨negative, digits, exponent⟩ := number
  simp only [hWritten, List.append_assoc, List.cons_append]
  cases negative with
  | true => simp [number?, hWhole, hFraction, hExponent, hValue]
  | false =>
      simp only [hChars, List.cons_append] at hWhole hValue
      simp [number?, hChars, hMinus, hWhole, hFraction, hExponent, hValue]

end Numbers

section Values

variable {layout : Layout} (budget : Nat)

/-- Blanks in front of a value are passed over. -/
theorem value?_append {blanks : List Char} (hBlank : ∀ c ∈ blanks, isBlank c = true) (text : List Char) :
    value? budget (blanks ++ text) = value? budget text := by
  cases budget with
  | zero => rfl
  | succ budget => rw [value?, value?, skipBlanks_append hBlank]

/-- No other sign starts a number. -/
theorem ne_of_numberStart {c : Char} (hStart : c.isDigit = true ∨ c = '-') (sign : Char)
    (hDigit : sign.isDigit = false) (hMinus : sign ≠ '-') : c ≠ sign := by
  rintro rfl
  rcases hStart with hStart | hStart
  · exact absurd hStart (by simp [hDigit])
  · exact hMinus hStart

theorem value?_number {c : Char} (hStart : c.isDigit = true ∨ c = '-') (rest : List Char) :
    value? (budget + 1) (c :: rest) = number? (c :: rest) := by
  have hOther := ne_of_numberStart hStart
  have hBlank : isBlank c = false := by
    simp [isBlank, hOther]
  rw [value?, skipBlanks_cons hBlank]
  split <;> simp_all

theorem value?_array {rest : List Char} (hRest : (skipBlanks rest).head? ≠ some ']') :
    value? (budget + 1) ('[' :: rest) = (items? budget rest).map fun read => (.array read.1, read.2) := by
  rw [value?, skipBlanks_cons (by rfl)]
  simp only
  split
  · simp_all
  · rfl

theorem value?_object {rest : List Char} (hRest : (skipBlanks rest).head? ≠ some '}') :
    value? (budget + 1) ('{' :: rest) = (members? budget rest).map fun read => (.object read.1, read.2) := by
  rw [value?, skipBlanks_cons (by rfl)]
  simp only
  split
  · simp_all
  · rfl

end Values

end Reader

open Reader

section Written

variable {layout : Layout}

theorem write_array (layout : Layout) (level : Nat) (first : Json) (rest : List Json) (tail : List Char) :
    write layout level (.array (first :: rest)) tail =
      '[' :: (layout.line (level + 1) ++ write layout (level + 1) first
        (writeItems layout (level + 1) rest (layout.line level ++ ']' :: tail))) := rfl

theorem write_object (layout : Layout) (level : Nat) (key : Option String) (value : Json)
    (rest : List (Option String × Json)) (tail : List Char) :
    write layout level (.object ((key, value) :: rest)) tail =
      '{' :: (layout.line (level + 1) ++ writeString key (':' :: (layout.afterColon
        ++ write layout (level + 1) value
          (writeMembers layout (level + 1) rest (layout.line level ++ '}' :: tail))))) := rfl

/-- A value starts with a sign of its own: neither a blank nor the end of an array. -/
theorem exists_write (layout : Layout) (level : Nat) (value : Json) (tail : List Char) :
    ∃ c rest, write layout level value tail = c :: rest ∧ isBlank c = false ∧ c ≠ ']' := by
  cases value with
  | null => exact ⟨'n', _, rfl, rfl, by decide⟩
  | bool value => cases value <;> exact ⟨_, _, rfl, rfl, by decide⟩
  | count value =>
      obtain ⟨c, rest, hChars, hDigit, _⟩ := exists_toDigits value
      have hOther := ne_of_numberStart (Or.inl hDigit)
      have hText : Nat.toDigits 10 value ++ tail = c :: (rest ++ tail) := by rw [hChars, List.cons_append]
      exact ⟨c, rest ++ tail, hText, by simp [isBlank, hOther], hOther ']' rfl (by decide)⟩
  | decimal value =>
      obtain ⟨c, rest, hChars, hStart⟩ := writeDecimal_start value tail
      have hOther := ne_of_numberStart hStart
      exact ⟨c, rest, hChars, by simp [isBlank, hOther], hOther ']' rfl (by decide)⟩
  | string text =>
      obtain ⟨body, hBody, _⟩ := string?_write text tail
      exact ⟨'"', body, hBody, rfl, by decide⟩
  | array items => cases items <;> exact ⟨'[', _, rfl, rfl, by decide⟩
  | object members =>
      rcases members with _ | ⟨⟨key, value⟩, members⟩ <;> exact ⟨'{', _, rfl, rfl, by decide⟩

theorem length_lt_length_append {text : List Char} (hText : text ≠ []) (tail : List Char) :
    tail.length < (text ++ tail).length := by
  have hPos := List.length_pos_iff.mpr hText
  rw [List.length_append]
  omega

theorem length_lt_length_writeString (string : Option String) (tail : List Char) :
    tail.length < (writeString string tail).length := by
  cases string with
  | none =>
      have hHalf : writeString none tail = ['"', '\\', 'u', 'd', '8', '0', '0', '"'] ++ tail := rfl
      rw [hHalf]
      exact length_lt_length_append (by decide) tail
  | some text =>
      have hBody : ∀ chars : List Char,
          tail.length < (chars.foldr (fun c rest => escapeChar c ++ rest) ('"' :: tail)).length := by
        intro chars
        induction chars with
        | nil => exact Nat.lt_succ_self _
        | cons c chars ih =>
            rw [List.foldr_cons, List.length_append]
            omega
      exact (hBody text.toList).trans (Nat.lt_succ_self _)

mutual

/-- What is written stands in front of the rest of the text. -/
theorem length_lt_length_write (layout : Layout) : ∀ (value : Json) (level : Nat) (tail : List Char),
    tail.length < (write layout level value tail).length
  | .null, _, tail => length_lt_length_append (show ['n', 'u', 'l', 'l'] ≠ [] by decide) tail
  | .bool true, _, tail => length_lt_length_append (show ['t', 'r', 'u', 'e'] ≠ [] by decide) tail
  | .bool false, _, tail => length_lt_length_append (show ['f', 'a', 'l', 's', 'e'] ≠ [] by decide) tail
  | .count value, _, tail => length_lt_length_append Nat.toDigits_ne_nil tail
  | .decimal value, _, tail => by
      obtain ⟨power, hWritten, _⟩ := exists_writeDecimal value
      exact length_lt_length_append (by simp [hWritten]) tail
  | .string text, _, tail => length_lt_length_writeString text tail
  | .array [], _, tail => length_lt_length_append (show ['[', ']'] ≠ [] by decide) tail
  | .array (first :: rest), level, tail => by
      have hRest := length_le_length_writeItems layout rest (level + 1) (layout.line level ++ ']' :: tail)
      have hFirst := length_lt_length_write layout first (level + 1)
        (writeItems layout (level + 1) rest (layout.line level ++ ']' :: tail))
      simp only [write_array, List.length_append, List.length_cons] at hRest hFirst ⊢
      omega
  | .object [], _, tail => length_lt_length_append (show ['{', '}'] ≠ [] by decide) tail
  | .object ((key, value) :: rest), level, tail => by
      have hRest := length_le_length_writeMembers layout rest (level + 1) (layout.line level ++ '}' :: tail)
      have hFirst := length_lt_length_write layout value (level + 1)
        (writeMembers layout (level + 1) rest (layout.line level ++ '}' :: tail))
      have hKey := length_lt_length_writeString key (':' :: (layout.afterColon ++ write layout (level + 1) value
        (writeMembers layout (level + 1) rest (layout.line level ++ '}' :: tail))))
      simp only [write_object, List.length_append, List.length_cons] at hRest hFirst hKey ⊢
      omega

theorem length_le_length_writeItems (layout : Layout) : ∀ (items : List Json) (level : Nat) (tail : List Char),
    tail.length ≤ (writeItems layout level items tail).length
  | [], level, tail => le_rfl
  | item :: rest, level, tail => by
      have hRest := length_le_length_writeItems layout rest level tail
      have hItem := length_lt_length_write layout item level (writeItems layout level rest tail)
      simp only [writeItems, List.length_append, List.length_cons]
      omega

theorem length_le_length_writeMembers (layout : Layout) :
    ∀ (members : List (Option String × Json)) (level : Nat) (tail : List Char),
      tail.length ≤ (writeMembers layout level members tail).length
  | [], level, tail => le_rfl
  | (key, value) :: rest, level, tail => by
      have hRest := length_le_length_writeMembers layout rest level tail
      have hValue := length_lt_length_write layout value level (writeMembers layout level rest tail)
      have hKey := length_lt_length_writeString key (':' :: (layout.afterColon ++ write layout level value
        (writeMembers layout level rest tail)))
      simp only [writeMembers, List.length_append, List.length_cons] at hKey ⊢
      omega

end

/-- A sign behind a value, or blanks and then the sign. -/
theorem follows_line (hLayout : layout.Blank) (level : Nat) {sign : Char} (hSign : sign ∈ [',', ']', '}'])
    (tail : List Char) : Follows (layout.line level ++ sign :: tail) :=
  follows_append (hLayout.line level) (follows_cons hSign tail)

theorem follows_writeItems (hLayout : layout.Blank) (level outer : Nat) (items : List Json) (tail : List Char) :
    Follows (writeItems layout level items (layout.line outer ++ ']' :: tail)) := by
  cases items with
  | nil => exact follows_line hLayout outer (by decide) tail
  | cons item rest => exact follows_cons (by decide) _

theorem follows_writeMembers (hLayout : layout.Blank) (level outer : Nat) (members : List (Option String × Json))
    (tail : List Char) : Follows (writeMembers layout level members (layout.line outer ++ '}' :: tail)) := by
  cases members with
  | nil => exact follows_line hLayout outer (by decide) tail
  | cons member rest => exact follows_cons (by decide) _

mutual

/-- A value is read back in front of what may follow it. Every step of the budget stands for half a character. -/
theorem value?_write (hLayout : layout.Blank) : ∀ (value : Json) (level budget : Nat) (tail : List Char),
    Follows tail → 2 * (write layout level value tail).length < budget →
      value? budget (write layout level value tail) = some (value, tail)
  | _, _, 0, _, _, hBudget => by omega
  | .null, level, budget + 1, tail, _, _ => rfl
  | .bool true, level, budget + 1, tail, _, _ => rfl
  | .bool false, level, budget + 1, tail, _, _ => rfl
  | .count value, level, budget + 1, tail, hTail, _ => by
      obtain ⟨c, rest, hChars, hDigit, _⟩ := exists_toDigits value
      have hNumber := number?_count value hTail
      have hValue := value?_number budget (Or.inl hDigit) (rest ++ tail)
      rw [← List.cons_append, ← hChars, hNumber] at hValue
      exact hValue
  | .decimal value, level, budget + 1, tail, hTail, _ => by
      obtain ⟨c, rest, hChars, hStart⟩ := writeDecimal_start value tail
      have hNumber := number?_decimal value hTail
      have hValue := value?_number budget hStart rest
      rw [← hChars, hNumber] at hValue
      exact hValue
  | .string text, level, budget + 1, tail, _, _ => by
      obtain ⟨body, hBody, hString⟩ := string?_write text tail
      have hValue : value? (budget + 1) ('"' :: body) = some (.string text, tail) := by
        rw [value?, skipBlanks_cons (by rfl)]
        simp [hString]
      rw [← hBody] at hValue
      exact hValue
  | .array [], level, budget + 1, tail, _, _ => rfl
  | .array (first :: rest), level, budget + 1, tail, _, hBudget => by
      have hItems := items?_write hLayout (first :: rest) (level + 1) level budget tail (List.cons_ne_nil _ _)
        (by simp only [write_array, writeItems, List.length_cons] at hBudget ⊢; omega)
      rw [writeItems, List.tail_cons] at hItems
      obtain ⟨c, text, hText, hBlank, hOpen⟩ := exists_write layout (level + 1) first
        (writeItems layout (level + 1) rest (layout.line level ++ ']' :: tail))
      rw [write_array, value?_array, hItems]
      · rfl
      · rw [skipBlanks_append (hLayout.line (level + 1)), hText, skipBlanks_cons hBlank]
        simpa using hOpen
  | .object [], level, budget + 1, tail, _, _ => rfl
  | .object ((key, value) :: rest), level, budget + 1, tail, _, hBudget => by
      have hMembers := members?_write hLayout ((key, value) :: rest) (level + 1) level budget tail
        (List.cons_ne_nil _ _) (by simp only [write_object, writeMembers, List.length_cons] at hBudget ⊢; omega)
      rw [writeMembers, List.tail_cons] at hMembers
      obtain ⟨body, hBody, _⟩ := string?_write key (':' :: (layout.afterColon ++ write layout (level + 1) value
        (writeMembers layout (level + 1) rest (layout.line level ++ '}' :: tail))))
      rw [write_object, value?_object, hMembers]
      · rfl
      · rw [skipBlanks_append (hLayout.line (level + 1)), hBody, skipBlanks_cons (by rfl)]
        simp

/-- One item or more are read back behind the sign in front of the first. -/
theorem items?_write (hLayout : layout.Blank) :
    ∀ (items : List Json) (level outer budget : Nat) (tail : List Char), items ≠ [] →
      2 * (writeItems layout level items (layout.line outer ++ ']' :: tail)).length ≤ budget →
        items? budget (writeItems layout level items (layout.line outer ++ ']' :: tail)).tail =
          some (items, tail)
  | [], _, _, _, _, hItems, _ => absurd rfl hItems
  | _ :: _, _, _, 0, _, _, hBudget => by simp [writeItems] at hBudget
  | first :: rest, level, outer, budget + 1, tail, _, hBudget => by
      have hFirst := value?_write hLayout first level budget
        (writeItems layout level rest (layout.line outer ++ ']' :: tail))
        (follows_writeItems hLayout level outer rest tail)
        (by simp only [writeItems, List.length_cons, List.length_append] at hBudget; omega)
      have hShorter := length_lt_length_write layout first level
        (writeItems layout level rest (layout.line outer ++ ']' :: tail))
      rw [writeItems, List.tail_cons, items?, value?_append _ (hLayout.line level), hFirst]
      cases rest with
      | nil =>
          simp [writeItems, skipBlanks_append (hLayout.line outer), skipBlanks_cons (show isBlank ']' = false from rfl)]
      | cons second others =>
          have hRest := items?_write hLayout (second :: others) level outer budget tail (List.cons_ne_nil _ _)
            (by simp only [writeItems, List.length_cons, List.length_append] at hBudget hShorter ⊢; omega)
          simp only [writeItems, List.tail_cons] at hRest ⊢
          simp [skipBlanks_cons (show isBlank ',' = false from rfl), hRest]

theorem members?_write (hLayout : layout.Blank) :
    ∀ (members : List (Option String × Json)) (level outer budget : Nat) (tail : List Char), members ≠ [] →
      2 * (writeMembers layout level members (layout.line outer ++ '}' :: tail)).length ≤ budget →
        members? budget (writeMembers layout level members (layout.line outer ++ '}' :: tail)).tail =
          some (members, tail)
  | [], _, _, _, _, hMembers, _ => absurd rfl hMembers
  | _ :: _, _, _, 0, _, _, hBudget => by simp [writeMembers] at hBudget
  | (key, value) :: rest, level, outer, budget + 1, tail, _, hBudget => by
      obtain ⟨body, hBody, hKey⟩ := string?_write key (':' :: (layout.afterColon ++ write layout level value
        (writeMembers layout level rest (layout.line outer ++ '}' :: tail))))
      have hKeyShorter := length_lt_length_writeString key (':' :: (layout.afterColon ++ write layout level value
        (writeMembers layout level rest (layout.line outer ++ '}' :: tail))))
      have hShorter := length_lt_length_write layout value level
        (writeMembers layout level rest (layout.line outer ++ '}' :: tail))
      have hValue := value?_write hLayout value level budget
        (writeMembers layout level rest (layout.line outer ++ '}' :: tail))
        (follows_writeMembers hLayout level outer rest tail)
        (by simp only [writeMembers, List.length_cons, List.length_append] at hBudget hKeyShorter; omega)
      rw [writeMembers, List.tail_cons, members?, skipBlanks_append (hLayout.line level), hBody,
        skipBlanks_cons (by rfl)]
      cases rest with
      | nil =>
          simp only [writeMembers] at hKey hValue ⊢
          simp [hKey, skipBlanks_cons (show isBlank ':' = false from rfl), value?_append _ hLayout.afterColon,
            hValue, skipBlanks_append (hLayout.line outer), skipBlanks_cons (show isBlank '}' = false from rfl)]
      | cons second others =>
          have hRest := members?_write hLayout (second :: others) level outer budget tail (List.cons_ne_nil _ _)
            (by
              simp only [writeMembers, List.length_cons, List.length_append] at hBudget hKeyShorter hShorter ⊢
              omega)
          simp only [writeMembers, List.tail_cons] at hKey hValue hRest ⊢
          simp [hKey, skipBlanks_cons (show isBlank ':' = false from rfl), value?_append _ hLayout.afterColon,
            hValue, skipBlanks_cons (show isBlank ',' = false from rfl), hRest]

end

/-- A text that holds a written value and nothing else is read as the value. -/
theorem parse?_write (hLayout : layout.Blank) (value : Json) :
    parse? (String.ofList (write layout 0 value [])) = some value := by
  have hValue := value?_write hLayout value 0 (2 * (write layout 0 value []).length + 1) [] follows_nil
    (Nat.lt_succ_self _)
  simp only [parse?, String.toList_ofList, hValue, Option.bind_eq_bind, Option.bind_some, skipBlanks,
    List.dropWhile_nil, List.isEmpty_nil, if_true]

theorem parse?_compact (value : Json) : parse? value.compact = some value :=
  parse?_write Layout.compact_blank value

theorem parse?_pretty (value : Json) : parse? value.pretty = some value :=
  parse?_write Layout.pretty_blank value

end Written

end ContentAssist.Json
