import ScriptForms.Proofs.Lexicon.Table
import ScriptForms.Proofs.Regex.LongestFirst

/-!
# Numbers are read as far as possible

A number is a whole number, or one with a point, digits and perhaps an exponent behind it
(`numbers`). The expression of the token tries the numbers with a point first. Its parts are told
apart by their first characters: a sign is no digit, and neither is a point or the letter of an
exponent. So each part matches as much as it can, and all ends of numbers with a point lie behind
those of the whole numbers that begin them (`longestFirst_numberLiteral`).
-/

open scoped Computability

namespace ScriptForms

namespace Lexicon

open Regex

/-! ### Numbers -/

/-- Whether a text has only decimal digits. -/
def AreDigits (text : List Char) : Prop :=
  ∀ c ∈ text, Text.isDecimalDigit c = true

/-- One or more decimal digits, with a minus sign in front or without. -/
def wholeNumbers : Language Char :=
  {text | ∃ digits, digits ≠ [] ∧ AreDigits digits ∧ (text = digits ∨ text = '-' :: digits)}

/-- What may follow the point of a number: digits, with an exponent behind them or without. -/
def fractions : Language Char :=
  {text | ∃ digits, AreDigits digits ∧
    (text = digits ∨ ∃ exponent ∈ wholeNumbers, text = digits ++ 'e' :: exponent)}

/-- The whole numbers, and the whole numbers with a point and a fraction. -/
def numbers : Language Char :=
  {text | text ∈ wholeNumbers ∨
    ∃ whole ∈ wholeNumbers, ∃ fraction ∈ fractions, text = whole ++ '.' :: fraction}

/-! ### The languages of the parts -/

theorem contains_digitSet (c : Char) : digitSet.contains c = Text.isDecimalDigit c := by
  simp [digitSet, CharSet.contains, CharRange.contains]

theorem recognizes_digits (min : Nat) : Recognizes (digits min) (runs digitSet min) :=
  recognizes_loop_chars digitSet min

/-- A run of the set is a text of digits of at least the given length. -/
theorem mem_runs_digitSet_iff {text : List Char} {min : Nat} :
    text ∈ runs digitSet min ↔ min ≤ text.length ∧ AreDigits text := by
  simp only [mem_runs_iff, contains_digitSet, AreDigits]

theorem recognizes_sign : Recognizes sign (1 + {['-']}) :=
  (recognizes_char '-').optional

/-- A whole number is a sign, if there is one, and one or more digits. -/
theorem sign_mul_digits : (1 + {['-']}) * runs digitSet 1 = wholeNumbers := by
  ext text
  rw [Language.mem_mul]
  constructor
  · rintro ⟨sign, hsign, digits, hdigits, rfl⟩
    obtain ⟨hlength, hall⟩ := mem_runs_digitSet_iff.1 hdigits
    refine ⟨digits, List.length_pos_iff.1 hlength, hall, ?_⟩
    rcases hsign with rfl | rfl
    · exact .inl rfl
    · exact .inr rfl
  · rintro ⟨digits, hnonempty, hall, htext⟩
    have hdigits : digits ∈ runs digitSet 1 :=
      mem_runs_digitSet_iff.2 ⟨List.length_pos_iff.2 hnonempty, hall⟩
    rcases htext with rfl | rfl
    · exact ⟨[], .inl rfl, text, hdigits, rfl⟩
    · exact ⟨['-'], .inr rfl, digits, hdigits, rfl⟩

theorem recognizes_wholeNumber : Recognizes wholeNumber wholeNumbers :=
  sign_mul_digits ▸ recognizes_sign.seq (recognizes_digits 1)

theorem recognizes_exponent : Recognizes (.loop .greedy 0 (some 1) (.seq (.char 'e') wholeNumber))
    (1 + {['e']} * wholeNumbers) :=
  ((recognizes_char 'e').seq recognizes_wholeNumber).optional

/-- A fraction is any number of digits and an exponent, if there is one. -/
theorem digits_mul_exponent :
    runs digitSet 0 * (1 + {['e']} * wholeNumbers) = fractions := by
  ext text
  rw [Language.mem_mul]
  constructor
  · rintro ⟨digits, hdigits, tail, htail, rfl⟩
    refine ⟨digits, (mem_runs_digitSet_iff.1 hdigits).2, ?_⟩
    rcases htail with rfl | ⟨_, rfl, exponent, hexponent, rfl⟩
    · exact .inl (List.append_nil digits)
    · exact .inr ⟨exponent, hexponent, rfl⟩
  · rintro ⟨digits, hall, htext⟩
    have hdigits : digits ∈ runs digitSet 0 := mem_runs_digitSet_iff.2 ⟨Nat.zero_le _, hall⟩
    rcases htext with rfl | ⟨exponent, hexponent, rfl⟩
    · exact ⟨text, hdigits, [], .inl rfl, List.append_nil text⟩
    · exact ⟨digits, hdigits, 'e' :: exponent, .inr ⟨['e'], rfl, exponent, hexponent, rfl⟩, rfl⟩

theorem recognizes_fraction : Recognizes fraction fractions :=
  digits_mul_exponent ▸ (recognizes_digits 0).seq recognizes_exponent

theorem recognizes_point : Recognizes (.seq (.char '.') fraction) ({['.']} * fractions) :=
  (recognizes_char '.').seq recognizes_fraction

/-- The language of the numbers with a point. -/
theorem recognizes_pointNumber :
    Recognizes (.seq sign (.seq (digits 1) (.seq (.char '.') fraction)))
      (wholeNumbers * ({['.']} * fractions)) := by
  rw [← sign_mul_digits, mul_assoc]
  exact recognizes_sign.seq ((recognizes_digits 1).seq recognizes_point)

theorem recognizes_numberLiteral : Recognizes numberLiteral numbers := by
  have hlanguage : wholeNumbers * ({['.']} * fractions) + wholeNumbers = numbers := by
    ext text
    rw [Language.mem_add, Language.mem_mul]
    constructor
    · rintro (⟨whole, hwhole, _, ⟨_, rfl, fraction, hfraction, rfl⟩, rfl⟩ | hwhole)
      · exact .inr ⟨whole, hwhole, fraction, hfraction, rfl⟩
      · exact .inl hwhole
    · rintro (hwhole | ⟨whole, hwhole, fraction, hfraction, rfl⟩)
      · exact .inr hwhole
      · exact .inl ⟨whole, hwhole, '.' :: fraction, ⟨['.'], rfl, fraction, hfraction, rfl⟩, rfl⟩
  exact hlanguage ▸ recognizes_pointNumber.alt recognizes_wholeNumber

/-! ### Longest matches -/

theorem areDigits_of_mem_runs {text : List Char} {min : Nat} (h : text ∈ runs digitSet min) :
    AreDigits text :=
  (mem_runs_digitSet_iff.1 h).2

/-- What begins with a run of digits begins with a digit. -/
theorem isDecimalDigit_head {text : List Char} {l : Language Char}
    (h : text ∈ runs digitSet 1 * l) :
    ∀ c ∈ text.head?, Text.isDecimalDigit c = true := by
  obtain ⟨digits, hdigits, rest, -, rfl⟩ := Language.mem_mul.1 h
  obtain ⟨hlength, hall⟩ := mem_runs_digitSet_iff.1 hdigits
  obtain ⟨d, digits, rfl⟩ := List.exists_cons_of_length_pos hlength
  intro c hc
  exact Option.some.inj hc ▸ hall d List.mem_cons_self

/-- A sign cannot be lengthened by a digit. -/
theorem separate_sign (l : Language Char) : Separate (1 + {['-']}) (runs digitSet 1 * l) := by
  have hsign : ∀ text ∈ (1 + {['-']} : Language Char), ∀ c ∈ text,
      ¬ Text.isDecimalDigit c = true := by
    rintro text (rfl | rfl) c hc
    · cases hc
    · rw [List.mem_singleton.1 hc]
      decide
  exact separate_of_forall_mem hsign fun text htext c hc ↦
    not_not_intro (isDecimalDigit_head htext c hc)

/-- Digits cannot be lengthened by what begins with none. -/
theorem separate_digits {min : Nat} {l : Language Char} {d : Char}
    (hl : ∀ text ∈ l, text = [] ∨ text.head? = some d) (hd : Text.isDecimalDigit d = false) :
    Separate (runs digitSet min) l := by
  refine separate_of_forall_mem (fun text ↦ areDigits_of_mem_runs) fun text htext c hc ↦ ?_
  rcases hl text htext with rfl | hhead
  · cases hc
  · rw [← Option.some.inj (hhead.symm.trans hc), hd]
    decide

theorem longestFirst_digits (min : Nat) : LongestFirst (digits min) :=
  longestFirst_loop_chars digitSet min

theorem longestFirst_sign : LongestFirst sign :=
  (longestFirst_chars _).optional (recognizes_char '-') (by rintro ⟨⟩)

theorem longestFirst_wholeNumber : LongestFirst wholeNumber := by
  have hseparate : Separate (1 + {['-']}) (runs digitSet 1) :=
    mul_one (runs digitSet 1) ▸ separate_sign 1
  exact longestFirst_sign.seq (longestFirst_digits 1) recognizes_sign
    (recognizes_digits 1) hseparate

/-- An exponent that is there is taken first, at its full length. -/
theorem longestFirst_exponent :
    LongestFirst (.loop .greedy 0 (some 1) (.seq (.char 'e') wholeNumber)) :=
  (longestFirst_wholeNumber.char_seq recognizes_wholeNumber 'e').optional
    ((recognizes_char 'e').seq recognizes_wholeNumber) (nil_notMem_char_mul 'e' _)

theorem longestFirst_fraction : LongestFirst fraction := by
  have hexponent : ∀ text ∈ 1 + {['e']} * wholeNumbers, text = [] ∨ text.head? = some 'e' := by
    rintro text (rfl | ⟨_, rfl, exponent, -, rfl⟩)
    · exact .inl rfl
    · exact .inr rfl
  exact (longestFirst_digits 0).seq longestFirst_exponent (recognizes_digits 0) recognizes_exponent
    (separate_digits hexponent (by decide))

theorem longestFirst_pointNumber :
    LongestFirst (.seq sign (.seq (digits 1) (.seq (.char '.') fraction))) := by
  have hpoint : ∀ text ∈ {['.']} * fractions, text = [] ∨ text.head? = some '.' := by
    rintro text ⟨_, rfl, fraction, -, rfl⟩
    exact .inr rfl
  have hdigits :=
    (longestFirst_digits 1).seq (longestFirst_fraction.char_seq recognizes_fraction '.')
    (recognizes_digits 1) recognizes_point (separate_digits hpoint (by decide))
  exact longestFirst_sign.seq hdigits recognizes_sign ((recognizes_digits 1).seq recognizes_point)
    (separate_sign _)

/-- A whole number holds no point, so it is never longer than a number with one. -/
theorem point_notMem_of_wholeNumber {text : List Char} (h : text ∈ wholeNumbers) : '.' ∉ text := by
  obtain ⟨digits, -, hall, htext⟩ := h
  have hdigits : '.' ∉ digits := fun hmem ↦ absurd (hall '.' hmem) (by decide)
  rcases htext with rfl | rfl
  · exact hdigits
  · simp [hdigits]

/-- A number with a point begins no whole number. -/
theorem longestFirst_numberLiteral : LongestFirst numberLiteral := by
  refine longestFirst_pointNumber.alt longestFirst_wholeNumber recognizes_pointNumber
    recognizes_wholeNumber ?_
  rintro _ ⟨whole, -, _, ⟨_, rfl, fraction, -, rfl⟩, rfl⟩ other hother hbegins
  exact point_notMem_of_wholeNumber hother (hbegins.subset (by simp))

/-- **Numbers are read by maximal munch.** The token of numbers matches the whole and the pointed
numbers, and no other text. At the beginning of a text it matches if some number begins the text,
and then the longest such number. -/
theorem number_is_longest_token :
    ∃ pattern, lexicon.get "xnum" = .ok pattern ∧
      (∀ text, isToken "xnum" text = .ok true ↔ text ∈ numbers) ∧
      (∀ text, (pattern.match? text).isSome = true ↔
        ∃ start, isToken "xnum" start = .ok true ∧ start <+: text) ∧
      ∀ text found, pattern.match? text = some found ↔
        ∃ start, isToken "xnum" start = .ok true ∧ start <+: text ∧
          (∀ other, isToken "xnum" other = .ok true → other <+: text →
            other.length ≤ start.length) ∧
          found = ⟨0, start.length, []⟩ := by
  have hmem : ("xnum", numberLiteral, 0) ∈ tokenExpressions := by simp [tokenExpressions]
  obtain ⟨pattern, hget, hregex, hgroups⟩ := exists_get_of_mem_tokenExpressions hmem
  have hrecognizes : Recognizes pattern.regex numbers := hregex ▸ recognizes_numberLiteral
  have hlongest : LongestFirst pattern.regex := hregex ▸ longestFirst_numberLiteral
  have htoken (text : List Char) : isToken "xnum" text = .ok true ↔ text ∈ numbers :=
    isToken_eq_ok_true_iff hget hrecognizes
  refine ⟨pattern, hget, htoken, fun text ↦ ?_, fun text found ↦ ?_⟩
  · simp only [Pattern.isSome_match?_iff hrecognizes, htoken]
  · simp only [htoken, ← Pattern.plainMatch_of_groupCount hgroups]
    exact Pattern.match?_eq_some_iff_of_longestFirst hrecognizes hlongest

end Lexicon

end ScriptForms
