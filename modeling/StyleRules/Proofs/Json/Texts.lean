import Mathlib.Tactic.SplitIfs
import Mathlib.Data.List.Basic
import StyleRules.Json.Reader
import StyleRules.Json.Writer

/-!
# Reading texts and numbers that were written as JSON

A text is written in ASCII, with escapes for everything else, and every escape is read back as the character
that it was written for.  An integer is read back from its decimal digits, as long as what follows does not
continue the number.
-/

namespace StyleRules.Json

/-! ## Hexadecimal units -/

theorem hexDigit?_digitChar {d : Nat} (isDigit : d < 16) : hexDigit? d.digitChar = some d := by
  have all : ∀ d < 16, hexDigit? (Nat.digitChar d) = some d := by decide
  exact all d isDigit

theorem toDigits_step {n : Nat} (large : 16 ≤ n) :
    Nat.toDigits 16 n = Nat.toDigits 16 (n / 16) ++ [(n % 16).digitChar] :=
  Nat.toDigits_of_base_le (by decide) large

theorem toDigits_last {n : Nat} (small : n < 16) : Nat.toDigits 16 n = [n.digitChar] :=
  Nat.toDigits_of_lt_base small

/-- A 16-bit unit is written with four digits. -/
theorem hexText_four {n : Nat} (isUnit : n < 0x10000) :
    (Text.hexText 4 n).toList = [(n / 4096).digitChar, (n / 256 % 16).digitChar, (n / 16 % 16).digitChar,
      (n % 16).digitChar] := by
  have padded : (Text.hexText 4 n).toList =
      List.replicate (4 - (Nat.toDigits 16 n).length) '0' ++ Nat.toDigits 16 n := by
    simp [Text.hexText]
  have zero : '0' = Nat.digitChar 0 := rfl
  rw [padded]
  rcases Nat.lt_or_ge n 16 with small | large
  · rw [toDigits_last small, show n / 4096 = 0 by omega, show n / 256 % 16 = 0 by omega,
      show n / 16 % 16 = 0 by omega, show n % 16 = n by omega]
    rfl
  · rw [toDigits_step large]
    rcases Nat.lt_or_ge (n / 16) 16 with small | large
    · rw [toDigits_last small, show n / 4096 = 0 by omega, show n / 256 % 16 = 0 by omega,
        show n / 16 % 16 = n / 16 by omega]
      rfl
    · rw [toDigits_step large, show n / 16 / 16 = n / 256 by omega]
      rcases Nat.lt_or_ge (n / 256) 16 with small | large
      · rw [toDigits_last small, show n / 4096 = 0 by omega, show n / 256 % 16 = n / 256 by omega]
        rfl
      · rw [toDigits_step large, show n / 256 / 16 = n / 4096 by omega,
          toDigits_last (show n / 4096 < 16 by omega)]
        rfl

theorem unit?_hexText {n : Nat} (isUnit : n < 0x10000) (rest : List Char) :
    unit? ((Text.hexText 4 n).toList ++ rest) = some (n, rest) := by
  rw [hexText_four isUnit]
  simp only [List.cons_append, List.nil_append, unit?, hexDigit?_digitChar (Nat.mod_lt _ (by decide : 16 > 0)),
    hexDigit?_digitChar (show n / 4096 < 16 by omega), bind, Option.bind, pure, Option.some.injEq, Prod.mk.injEq,
    and_true]
  omega

/-! ## Characters -/

/-- The written form of a character is read back as this character, in front of a rest that is not empty. -/
def Reads (written : List Char) (c : Char) : Prop :=
  ∀ start fuel first rest, textChars start (fuel + 1) (written ++ first :: rest) = do
    let (others, rest) ← textChars start fuel (first :: rest)
    return (c :: others, rest)

theorem reads_mark (mark : Char) {c : Char} (notUnit : mark ≠ 'u') (isEscape : escaped? mark = some c) :
    Reads ['\\', mark] c := by
  intro start fuel first rest
  simp [textChars, isEscape]

theorem reads_plain {c : Char} (notQuote : c ≠ '"') (notBackslash : c ≠ '\\') (printable : 32 ≤ c.toNat) :
    Reads [c] c := by
  intro start fuel first rest
  rw [List.singleton_append, textChars]
  · rw [if_neg (by omega)]
  · simp [notQuote]
  · simp [notBackslash]

theorem unitChar_toNat (c : Char) : unitChar c.toNat = c := by
  have valid : c.toNat.isValidChar := c.valid
  rw [unitChar, if_pos valid, Char.ofNat_toNat]

theorem reads_unit {c : Char} (isBasic : c.toNat < 0x10000) : Reads (unitEscape c.toNat).toList c := by
  intro start fuel first rest
  have spelled : (unitEscape c.toNat).toList = '\\' :: 'u' :: (Text.hexText 4 c.toNat).toList := by
    simp [unitEscape]
  have valid : c.toNat < 0xd800 ∨ 0xdfff < c.toNat ∧ c.toNat < 0x110000 := c.valid
  have noPair : ¬((decide (0xd800 ≤ c.toNat) && decide (c.toNat < 0xdc00)) = true) := by
    simp only [Bool.and_eq_true, decide_eq_true_eq]
    omega
  have read : escapedUnit ('u' :: ((Text.hexText 4 c.toNat).toList ++ first :: rest)) =
      .ok (c, first :: rest) := by
    rw [escapedUnit, List.drop_one, List.tail_cons, unit?_hexText isBasic]
    simp only [if_neg noPair, unitChar_toNat]
  rw [spelled, List.cons_append, List.cons_append, textChars]
  simp only [read, bind, Except.bind]

theorem reads_pair {c : Char} (isBeyond : 0x10000 ≤ c.toNat) :
    Reads (unitEscape (0xd800 + (c.toNat - 0x10000) / 0x400) ++
      unitEscape (0xdc00 + (c.toNat - 0x10000) % 0x400)).toList c := by
  intro start fuel first rest
  have valid : c.toNat < 0xd800 ∨ 0xdfff < c.toNat ∧ c.toNat < 0x110000 := c.valid
  obtain ⟨high, isHigh⟩ : ∃ high, high = 0xd800 + (c.toNat - 0x10000) / 0x400 := ⟨_, rfl⟩
  obtain ⟨low, isLow⟩ : ∃ low, low = 0xdc00 + (c.toNat - 0x10000) % 0x400 := ⟨_, rfl⟩
  have highUnit : (decide (0xd800 ≤ high) && decide (high < 0xdc00)) = true := by
    simp only [Bool.and_eq_true, decide_eq_true_eq]
    omega
  have lowUnit : (decide (0xdc00 ≤ low) && decide (low < 0xe000)) = true := by
    simp only [Bool.and_eq_true, decide_eq_true_eq]
    omega
  have together : 0x10000 + (high - 0xd800) * 0x400 + (low - 0xdc00) = c.toNat := by omega
  have spelled : (unitEscape high ++ unitEscape low).toList ++ first :: rest =
      '\\' :: 'u' :: ((Text.hexText 4 high).toList ++
        '\\' :: 'u' :: ((Text.hexText 4 low).toList ++ first :: rest)) := by
    simp [unitEscape]
  have longer : ¬((Text.hexText 4 low).toList ++ first :: rest).length ≤ 4 := by
    simp [hexText_four (show low < 0x10000 by omega)]
  have read : escapedUnit ('u' :: ((Text.hexText 4 high).toList ++
      '\\' :: 'u' :: ((Text.hexText 4 low).toList ++ first :: rest))) = .ok (c, first :: rest) := by
    rw [escapedUnit, List.drop_one, List.tail_cons, unit?_hexText (by omega)]
    simp only [if_pos highUnit, if_neg longer, unit?_hexText (show low < 0x10000 by omega), if_pos lowUnit,
      together, Char.ofNat_toNat]
  rw [← isHigh, ← isLow, spelled, textChars]
  simp only [read, bind, Except.bind]

theorem reads_escapeChar (c : Char) : Reads (escapeChar c).toList c := by
  rw [escapeChar]
  split_ifs with isQuote isBackslash isFeed isReturn isTab isBack isForm isPlain isBasic
  · subst isQuote
    exact reads_mark '"' (by decide) rfl
  · subst isBackslash
    exact reads_mark '\\' (by decide) rfl
  · subst isFeed
    exact reads_mark 'n' (by decide) rfl
  · subst isReturn
    exact reads_mark 'r' (by decide) rfl
  · subst isTab
    exact reads_mark 't' (by decide) rfl
  · subst isBack
    exact reads_mark 'b' (by decide) rfl
  · subst isForm
    exact reads_mark 'f' (by decide) rfl
  · rw [String.toList_ofList]
    rw [Bool.and_eq_true, decide_eq_true_eq] at isPlain
    exact reads_plain isQuote isBackslash isPlain.1
  · exact reads_unit isBasic
  · exact reads_pair (by omega)

theorem textChars_escape {chars : List Char} (start : List Char) (rest : List Char) {fuel : Nat}
    (enough : chars.length < fuel) :
    textChars start fuel (chars.flatMap (fun c => (escapeChar c).toList) ++ '"' :: rest) =
      .ok (chars, rest) := by
  induction chars generalizing fuel with
  | nil =>
      cases fuel with
      | zero => simp at enough
      | succ fuel => rw [List.flatMap_nil, List.nil_append, textChars]
  | cons c others ih =>
      cases fuel with
      | zero => simp at enough
      | succ fuel =>
          obtain ⟨first, more, spelled⟩ : ∃ first more,
              others.flatMap (fun c => (escapeChar c).toList) ++ '"' :: rest = first :: more := by
            cases others.flatMap (fun c => (escapeChar c).toList) with
            | nil => exact ⟨_, _, rfl⟩
            | cons first more => exact ⟨_, _, rfl⟩
          rw [List.flatMap_cons, List.append_assoc, spelled, reads_escapeChar, ← spelled,
            ih (by simpa using enough)]
          rfl

/-- What is read as a character is not empty: else a closing quote would be read as this character. -/
theorem Reads.ne_empty {written : List Char} {c : Char} (reads : Reads written c) : written ≠ [] := by
  rintro rfl
  have := reads [] 0 '"' []
  simp [textChars, bind, Except.bind] at this

theorem toList_textLiteral (s : String) :
    (textLiteral s).toList = '"' :: (s.toList.flatMap (fun c => (escapeChar c).toList) ++ ['"']) := by
  simp [textLiteral, List.flatMap_map]

/-- A text is read back from its literal, whatever follows. -/
theorem text_textLiteral (s : String) (rest : List Char) :
    text ((textLiteral s).toList ++ rest) = .ok (s, rest) := by
  have longer : s.toList.length ≤ (s.toList.flatMap fun c => (escapeChar c).toList).length := by
    induction s.toList with
    | nil => simp
    | cons c others ih =>
        have := List.length_pos_iff.mpr (reads_escapeChar c).ne_empty
        simp only [List.flatMap_cons, List.length_append, List.length_cons]
        omega
  have spelled : (textLiteral s).toList ++ rest =
      '"' :: (s.toList.flatMap (fun c => (escapeChar c).toList) ++ '"' :: rest) := by
    rw [toList_textLiteral]
    simp
  rw [text, spelled, List.drop_one, List.tail_cons, textChars_escape]
  · simp [bind, Except.bind, pure, Except.pure]
  · simp only [List.length_append, List.length_cons]
    omega

/-! ## Integers -/

/-- What follows does not continue a number. -/
def EndsNumber (rest : List Char) : Prop :=
  ∀ c more, rest = c :: more → c.isDigit = false ∧ c ≠ '.' ∧ c ≠ 'e' ∧ c ≠ 'E'

theorem readDecimal_toDigits (n : Nat) : Text.readDecimal (Nat.toDigits 10 n) = n := by
  have read := Nat.ofDigitChars_toDigits (b := 10) (n := n) (by decide) (by decide)
  rwa [Nat.ofDigitChars_eq_foldl] at read

theorem head_toDigits {n : Nat} (positive : 0 < n) (more : List Char) : Nat.toDigits 10 n ≠ '0' :: more := by
  induction n using Nat.strongRecOn generalizing more with
  | ind n ih =>
      rcases Nat.lt_or_ge n 10 with small | large
      · rw [Nat.toDigits_of_lt_base small]
        intro same
        have isZero : n.digitChar = '0' := (List.cons.inj same).1
        rw [Nat.digitChar_eq_zero] at isZero
        omega
      · rw [Nat.toDigits_of_base_le (by decide) large]
        cases spelled : Nat.toDigits 10 (n / 10) with
        | nil => exact absurd spelled Nat.toDigits_ne_nil
        | cons first others =>
            intro same
            have isZero : first = '0' := (List.cons.inj same).1
            subst isZero
            exact ih (n / 10) (by omega) (by omega) others spelled

theorem EndsNumber.takeWhile {rest : List Char} (ends : EndsNumber rest) {digits : List Char}
    (areDigits : ∀ c ∈ digits, c.isDigit = true) :
    (digits ++ rest).takeWhile Char.isDigit = digits ∧ (digits ++ rest).dropWhile Char.isDigit = rest := by
  rw [List.takeWhile_append_of_pos areDigits, List.dropWhile_append_of_pos areDigits]
  cases rest with
  | nil => simp
  | cons c more => simp [(ends c more rfl).1]

theorem EndsNumber.fraction? {rest : List Char} (ends : EndsNumber rest) : fraction? rest = none := by
  cases rest with
  | nil => rfl
  | cons c more =>
      have notPoint := (ends c more rfl).2.1
      cases more with
      | nil => simp [Json.fraction?]
      | cons d more => simp [Json.fraction?, notPoint]

theorem EndsNumber.power? {rest : List Char} (ends : EndsNumber rest) : power? rest = none := by
  cases rest with
  | nil => rfl
  | cons c more =>
      have notMark := (ends c more rfl).2.2
      simp [Json.power?, notMark]

/-- A number is read back from its decimal digits: only zero starts with the digit zero. -/
theorem unsigned?_toDigits (negative : Bool) (n : Nat) {rest : List Char} (ends : EndsNumber rest) :
    unsigned? negative (Nat.toDigits 10 n ++ rest) = some (.int (if negative then -n else n), rest) := by
  have areDigits : ∀ c ∈ Nat.toDigits 10 n, c.isDigit = true := fun c within =>
    Nat.isDigit_of_mem_toDigits (by decide) (by decide) within
  cases spelled : Nat.toDigits 10 n with
  | nil => exact absurd spelled Nat.toDigits_ne_nil
  | cons first others =>
      have firstDigit : first.isDigit = true := areDigits first (by simp [spelled])
      have othersDigits : ∀ c ∈ others, c.isDigit = true := fun c within =>
        areDigits c (by simp [spelled, within])
      have whole : (if first = '0' then (['0'], others ++ rest)
          else (first :: (others ++ rest).takeWhile Char.isDigit, (others ++ rest).dropWhile Char.isDigit)) =
          (first :: others, rest) := by
        split_ifs with isZero
        · subst isZero
          have noMore : n = 0 := by
            by_contra positive
            exact head_toDigits (by omega) others spelled
          subst noMore
          have same : ['0'] = '0' :: others := spelled
          simp [(List.cons.inj same).2.symm]
        · rw [(ends.takeWhile othersDigits).1, (ends.takeWhile othersDigits).2]
      have read : Text.readDecimal (first :: others) = n := by rw [← spelled, readDecimal_toDigits]
      rw [List.cons_append, unsigned?]
      simp only [firstDigit, Bool.not_true, Bool.false_eq_true, if_false, whole, read, ends.fraction?,
        Option.map_none, Option.getD_none, ends.power?]

theorem exists_first_digit (n : Nat) : ∃ c more, Nat.toDigits 10 n = c :: more ∧ c.isDigit = true := by
  cases digits : Nat.toDigits 10 n with
  | nil => exact absurd digits Nat.toDigits_ne_nil
  | cons first others =>
      refine ⟨first, others, rfl, ?_⟩
      exact Nat.isDigit_of_mem_toDigits (b := 10) (n := n) (by decide) (by decide) (by simp [digits])

/-- No named value starts like the digits of a number. -/
theorem named_toDigits (n : Nat) (rest : List Char) (negative : Bool) :
    (named.findSome? fun (name, v) =>
      (Text.dropStart? name.toList ((if negative then ['-'] else []) ++ (Nat.toDigits 10 n ++ rest))).map
        fun rest => (v, rest)) = none := by
  obtain ⟨first, others, spelled, isDigit⟩ := exists_first_digit n
  have noLetter : first ≠ 'n' ∧ first ≠ 't' ∧ first ≠ 'f' ∧ first ≠ 'N' ∧ first ≠ 'I' ∧ first ≠ '-' := by
    refine ⟨?_, ?_, ?_, ?_, ?_, ?_⟩ <;> rintro rfl <;> exact absurd isDigit (by decide)
  obtain ⟨notN, notT, notF, notNaN, notI, notSign⟩ := noLetter
  rw [spelled]
  cases negative <;>
    simp [named, Text.dropStart?, notN.symm, notT.symm, notF.symm, notNaN.symm, notI.symm, notSign.symm]

theorem toList_ofNat (n : Nat) : (toString (Int.ofNat n)).toList = Nat.toDigits 10 n := by
  change (String.ofList (Nat.toDigits 10 n)).toList = _
  rw [String.toList_ofList]

theorem toList_negSucc (n : Nat) : (toString (Int.negSucc n)).toList = '-' :: Nat.toDigits 10 (n + 1) := by
  change ("-" ++ String.ofList (Nat.toDigits 10 (n + 1))).toList = _
  simp

theorem exists_first_int (n : Int) :
    ∃ c more, (toString n).toList = c :: more ∧ (c.isDigit = true ∨ c = '-') := by
  cases n with
  | ofNat n =>
      obtain ⟨c, more, spelled, isDigit⟩ := exists_first_digit n
      exact ⟨c, more, (toList_ofNat n).trans spelled, Or.inl isDigit⟩
  | negSucc n => exact ⟨'-', _, toList_negSucc n, Or.inr rfl⟩

/-- An integer is read back from its text. -/
theorem plain_int (n : Int) {rest : List Char} (ends : EndsNumber rest) :
    plain ((toString n).toList ++ rest) = .ok (.int n, rest) := by
  cases n with
  | ofNat n =>
      have noSign : ∀ more, Nat.toDigits 10 n ++ rest ≠ '-' :: more := by
        intro more same
        obtain ⟨c, others, spelled, isDigit⟩ := exists_first_digit n
        rw [spelled, List.cons_append, List.cons.injEq] at same
        rw [same.1] at isDigit
        exact absurd isDigit (by decide)
      have noName := named_toDigits n rest false
      have number := unsigned?_toDigits false n ends
      simp only [Bool.false_eq_true, if_false, List.nil_append] at noName number
      rw [toList_ofNat, plain]
      · rw [noName, number]
        rfl
      · exact noSign
  | negSucc n =>
      have noName := named_toDigits (n + 1) rest true
      have number := unsigned?_toDigits true (n + 1) ends
      simp only [if_true, List.singleton_append] at noName number
      rw [toList_negSucc, List.cons_append, plain, noName, number]
      rfl

end StyleRules.Json
