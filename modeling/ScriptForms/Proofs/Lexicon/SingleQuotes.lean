import ScriptForms.Proofs.Lexicon.Table
import ScriptForms.Proofs.Regex.LongestFirst

/-!
# Strings in single quotes

Between single quotes a quote is written twice and every other character as it is. A quote that
closes a string and the first half of a doubled one look alike, so at a doubled quote the token
could also stop. Its loop does not stop there: one more round is tried first, and the ends of the
token come in the order of their distance (`longestFirst_quotedLiteral`). So the token ends at the
farthest quote that can close it, which is the quote with no other behind it
(`length_singleQuoted_le`).
-/

open scoped Computability

namespace ScriptForms

namespace Lexicon

open Regex

/-! ### Doubled quotes -/

/-- How a character is written between single quotes. -/
def doubledChar (c : Char) : List Char :=
  if c = '\x27' then ['\x27', '\x27'] else [c]

/-- A text with every single quote doubled. -/
def doubled (text : List Char) : List Char :=
  text.flatMap doubledChar

/-- A text with every single quote doubled, in single quotes. -/
def singleQuoted (text : List Char) : List Char :=
  '\x27' :: (doubled text ++ ['\x27'])

theorem doubledChar_of_ne {c : Char} (h : c ≠ '\x27') : doubledChar c = [c] :=
  if_neg h

theorem doubledChar_ne_nil (c : Char) : doubledChar c ≠ [] := by
  rw [doubledChar]
  split <;> exact List.cons_ne_nil _ _

theorem doubled_cons (c : Char) (text : List Char) :
    doubled (c :: text) = doubledChar c ++ doubled text :=
  List.flatMap_cons

/-- Texts that begin with written characters begin with the same character. -/
theorem eq_of_doubledChar_append {c d : Char} {first second : List Char}
    (h : doubledChar c ++ first <+: doubledChar d ++ second) : c = d ∧ first <+: second := by
  by_cases hc : c = '\x27'
  · subst hc
    by_cases hd : d = '\x27'
    · subst hd
      exact ⟨rfl, (List.prefix_append_right_inj _).1 h⟩
    · rw [doubledChar_of_ne hd] at h
      exact absurd (List.cons_prefix_cons.1 h).1.symm hd
  · rw [doubledChar_of_ne hc] at h
    by_cases hd : d = '\x27'
    · subst hd
      exact absurd (List.cons_prefix_cons.1 h).1 hc
    · rw [doubledChar_of_ne hd] at h
      exact List.cons_prefix_cons.1 h

/-- A written character does not begin at a quote that stands alone. -/
theorem not_begins_lone_quote {c : Char} {first rest : List Char}
    (hrest : rest.head? ≠ some '\x27') :
    ¬ doubledChar c ++ first <+: '\x27' :: rest := by
  intro h
  by_cases hc : c = '\x27'
  · subst hc
    obtain ⟨more, hmore⟩ := h
    have htail : '\x27' :: (first ++ more) = rest := (List.cons.inj hmore).2
    exact hrest (htail ▸ rfl)
  · rw [doubledChar_of_ne hc] at h
    exact hc (List.cons_prefix_cons.1 h).1

/-- Of the written texts at one place none is longer than the one behind which no quote stands. -/
theorem length_doubled_le {first second rest : List Char} (hrest : rest.head? ≠ some '\x27')
    (h : doubled first ++ ['\x27'] <+: doubled second ++ '\x27' :: rest) :
    (doubled first).length ≤ (doubled second).length := by
  induction second generalizing first with
  | nil =>
    cases first with
    | nil => exact Nat.le_refl _
    | cons c first =>
      rw [doubled_cons, List.append_assoc] at h
      exact absurd h (not_begins_lone_quote hrest)
  | cons d second ih =>
    cases first with
    | nil => exact Nat.zero_le _
    | cons c first =>
      rw [doubled_cons, doubled_cons, List.append_assoc, List.append_assoc] at h
      obtain ⟨rfl, hmore⟩ := eq_of_doubledChar_append h
      have hle := ih hmore
      rw [doubled_cons, doubled_cons, List.length_append, List.length_append]
      omega

/-- A quoted text in front of another is no longer than it, unless a further quote follows. -/
theorem length_singleQuoted_le {first second rest : List Char} (hrest : rest.head? ≠ some '\x27')
    (h : singleQuoted first <+: singleQuoted second ++ rest) :
    (singleQuoted first).length ≤ (singleQuoted second).length := by
  have hinside : doubled first ++ ['\x27'] <+: doubled second ++ '\x27' :: rest := by
    simpa [singleQuoted] using h
  have hle := length_doubled_le hrest hinside
  simp only [singleQuoted, List.length_cons, List.length_append, List.length_nil]
  omega

theorem doubled_injective : Function.Injective doubled := by
  intro first second h
  induction first generalizing second with
  | nil =>
    cases second with
    | nil => rfl
    | cons d second =>
      rw [doubled_cons] at h
      exact absurd (List.append_eq_nil_iff.1 h.symm).1 (doubledChar_ne_nil d)
  | cons c first ih =>
    cases second with
    | nil =>
      rw [doubled_cons] at h
      exact absurd (List.append_eq_nil_iff.1 h).1 (doubledChar_ne_nil c)
    | cons d second =>
      rw [doubled_cons, doubled_cons] at h
      have hbegins : doubledChar c ++ doubled first <+: doubledChar d ++ doubled second :=
        h ▸ List.prefix_rfl
      obtain ⟨rfl, -⟩ := eq_of_doubledChar_append hbegins
      rw [ih (List.append_cancel_left h)]

theorem singleQuoted_injective : Function.Injective singleQuoted := by
  intro first second h
  exact doubled_injective (List.append_cancel_right (List.cons.inj h).2)

/-! ### The language of the token -/

/-- The texts of one round of the loop. -/
def quoteUnits : Language Char :=
  {['\x27']} * {['\x27']} + letters unquotedSet

theorem recognizes_quoteUnit : Recognizes quoteUnit quoteUnits :=
  ((recognizes_char '\x27').seq (recognizes_char '\x27')).alt (recognizes_chars unquotedSet)

/-- One round is one written character. -/
theorem mem_quoteUnits_iff {text : List Char} : text ∈ quoteUnits ↔ ∃ c, text = doubledChar c := by
  have hset (c : Char) : unquotedSet.contains c = true ↔ c ≠ '\x27' := by
    simp [unquotedSet, CharSet.contains, contains_span_self]
  constructor
  · rintro (⟨_, rfl, _, rfl, rfl⟩ | ⟨c, hc, rfl⟩)
    · exact ⟨'\x27', rfl⟩
    · exact ⟨c, (doubledChar_of_ne ((hset c).1 hc)).symm⟩
  · rintro ⟨c, rfl⟩
    by_cases hc : c = '\x27'
    · subst hc
      exact .inl ⟨['\x27'], rfl, ['\x27'], rfl, rfl⟩
    · exact .inr ⟨c, (hset c).2 hc, doubledChar_of_ne hc⟩

theorem nil_notMem_quoteUnits : [] ∉ quoteUnits := by
  intro hnil
  obtain ⟨c, hc⟩ := mem_quoteUnits_iff.1 hnil
  exact doubledChar_ne_nil c hc.symm

/-- A sequence of units is what doubling makes of some text. -/
theorem mem_quoteUnits_kstar_iff {text : List Char} :
    text ∈ quoteUnits∗ ↔ ∃ inside, text = doubled inside := by
  constructor
  · rintro ⟨units, rfl, hunits⟩
    induction units with
    | nil => exact ⟨[], rfl⟩
    | cons unit units ih =>
      obtain ⟨hunit, hrest⟩ := List.forall_mem_cons.1 hunits
      obtain ⟨c, rfl⟩ := mem_quoteUnits_iff.1 hunit
      obtain ⟨inside, hinside⟩ := ih hrest
      exact ⟨c :: inside, by rw [List.flatten_cons, hinside, doubled_cons]⟩
  · rintro ⟨inside, rfl⟩
    rw [doubled, List.flatMap_def]
    refine Language.join_mem_kstar fun unit hunit ↦ ?_
    obtain ⟨c, -, rfl⟩ := List.mem_map.1 hunit
    exact mem_quoteUnits_iff.2 ⟨c, rfl⟩

/-- The expression takes exactly the texts in quotes, with doubled quotes inside. -/
theorem recognizes_quotedLiteral :
    Recognizes quotedLiteral {text | ∃ inside, text = singleQuoted inside} := by
  have hloop := recognizes_quoteUnit.loop nil_notMem_quoteUnits 0
  rw [pow_zero, one_mul] at hloop
  have hlanguage : {['\x27']} * (quoteUnits∗ * {['\x27']}) =
      ({text | ∃ inside, text = singleQuoted inside} : Language Char) := by
    ext text
    constructor
    · rintro ⟨_, rfl, _, ⟨inside, hinside, _, rfl, rfl⟩, rfl⟩
      obtain ⟨inside, rfl⟩ := mem_quoteUnits_kstar_iff.1 hinside
      exact ⟨inside, rfl⟩
    · rintro ⟨inside, rfl⟩
      have hdoubled : doubled inside ∈ quoteUnits∗ := mem_quoteUnits_kstar_iff.2 ⟨inside, rfl⟩
      exact ⟨['\x27'], rfl, doubled inside ++ ['\x27'], Language.append_mem_mul hdoubled rfl, rfl⟩
  exact hlanguage ▸ (recognizes_char '\x27').seq (hloop.seq (recognizes_char '\x27'))

/-! ### The order of its ends -/

/-- No round begins another. -/
theorem separate_quoteUnits : Separate quoteUnits quoteUnits := by
  intro start more other hstart hlonger hother hmore
  obtain ⟨c, rfl⟩ := mem_quoteUnits_iff.1 hstart
  obtain ⟨d, hd⟩ := mem_quoteUnits_iff.1 hlonger
  have hsame : doubledChar c ++ more <+: doubledChar d ++ [] := by rw [hd, List.append_nil]
  exact absurd (List.prefix_nil.1 (eq_of_doubledChar_append hsame).2) hmore

/-- Two quotes are tried as one unit before anything else. -/
theorem longestFirst_quoteUnit : LongestFirst quoteUnit := by
  have hquotes : LongestFirst (.seq (.char '\x27') (.char '\x27')) :=
    (longestFirst_chars _).seq_chars _
  refine hquotes.alt (longestFirst_chars unquotedSet)
    ((recognizes_char '\x27').seq (recognizes_char '\x27'))
    (recognizes_chars unquotedSet) ?_
  rintro _ ⟨_, rfl, _, rfl, rfl⟩ _ ⟨c, -, rfl⟩ hbegins
  have hle : 2 ≤ 1 := hbegins.length_le
  omega

theorem longestFirst_quotedLiteral : LongestFirst quotedLiteral := by
  have hloop : LongestFirst (.loop .greedy 0 none quoteUnit) :=
    longestFirst_quoteUnit.loop recognizes_quoteUnit nil_notMem_quoteUnits separate_quoteUnits 0
  exact (hloop.seq_chars _).char_seq
    ((recognizes_quoteUnit.loop nil_notMem_quoteUnits 0).seq (recognizes_char '\x27')) '\x27'

/-- **Strings in single quotes are texts with their quotes doubled.** The token matches a text as a
whole just if the text is some other in single quotes with every quote doubled, and there is only
one such other text. If anything but a quote stands behind such a string, the token matches the
string and nothing more. -/
theorem single_quoted_is_token :
    ∃ pattern, lexicon.get "sstr" = .ok pattern ∧
      (∀ text, isToken "sstr" text = .ok true ↔ ∃ inside, text = singleQuoted inside) ∧
      Function.Injective singleQuoted ∧
      ∀ inside rest, rest.head? ≠ some '\x27' →
        pattern.match? (singleQuoted inside ++ rest) =
          some ⟨0, (singleQuoted inside).length, []⟩ := by
  have hmem : ("sstr", quotedLiteral, 0) ∈ tokenExpressions := by simp [tokenExpressions]
  obtain ⟨pattern, hget, hregex, hgroups⟩ := exists_get_of_mem_tokenExpressions hmem
  have hrecognizes : Recognizes pattern.regex {text | ∃ inside, text = singleQuoted inside} :=
    hregex ▸ recognizes_quotedLiteral
  have hlongest : LongestFirst pattern.regex := hregex ▸ longestFirst_quotedLiteral
  refine ⟨pattern, hget, fun text ↦ isToken_eq_ok_true_iff hget hrecognizes, singleQuoted_injective,
    fun inside rest hrest ↦ ?_⟩
  rw [← Pattern.plainMatch_of_groupCount hgroups,
    Pattern.match?_eq_some_iff_of_longestFirst hrecognizes hlongest]
  refine ⟨singleQuoted inside, ⟨inside, rfl⟩, List.prefix_append _ _, ?_, rfl⟩
  rintro _ ⟨other, rfl⟩ hbegins
  exact length_singleQuoted_le hrest hbegins

/-- Two quotes are written as six, and all six are taken before a space. -/
theorem single_quoted_is_token_two_quotes :
    [' '].head? ≠ some '\x27' ∧ ∃ pattern, lexicon.get "sstr" = .ok pattern ∧
      pattern.match? (List.replicate 6 '\x27' ++ [' ']) = some ⟨0, 6, []⟩ := by
  obtain ⟨pattern, hget, -, -, hmatch⟩ := single_quoted_is_token
  exact ⟨by decide, pattern, hget, hmatch ['\x27', '\x27'] [' '] (by decide)⟩

end Lexicon

end ScriptForms
