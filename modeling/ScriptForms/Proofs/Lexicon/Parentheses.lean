import ScriptForms.Proofs.Lexicon.Table

/-!
# Balanced parentheses

A text leaves a number of parentheses open, its depth. `IsParenthesized limit text` says by depths
alone that the parenthesis at the beginning of a text is closed by its last character and not
before, and that the nesting never goes beyond a limit.

The expression of the token nests one loop for each level by hand. By induction on the levels, each
of them reads just the texts that are balanced within its own limit (`recognizes_nestedText`): a
balanced text is read from the left, and a parenthesis in it goes with the text up to the first
place where the depth falls back (`exists_closing`). A closed parenthesis begins no other one, so
there is only one place where a match can end.
-/

open scoped Computability

namespace ScriptForms

namespace Lexicon

open Regex

/-! ### Depth -/

/-- How many more parentheses a text opens than it closes. -/
def depth (text : List Char) : Int :=
  text.count '(' - text.count ')'

@[simp]
theorem depth_nil : depth [] = 0 :=
  rfl

@[simp]
theorem depth_append (first second : List Char) :
    depth (first ++ second) = depth first + depth second := by
  simp only [depth, List.count_append]
  omega

theorem depth_cons (c : Char) (text : List Char) : depth (c :: text) = depth [c] + depth text :=
  depth_append [c] text

@[simp]
theorem depth_opening (text : List Char) : depth ('(' :: text) = 1 + depth text :=
  depth_cons '(' text

@[simp]
theorem depth_closing (text : List Char) : depth (')' :: text) = depth text - 1 := by
  have hclosing : depth [')'] = -1 := rfl
  rw [depth_cons, hclosing]
  omega

/-- Whether a character is no parenthesis. -/
def IsPlain (c : Char) : Prop :=
  c ≠ '(' ∧ c ≠ ')'

theorem depth_plain {c : Char} (h : IsPlain c) (text : List Char) :
    depth (c :: text) = depth text := by
  simp [depth, h.1, h.2]

theorem opening_or_closing_or_plain (c : Char) : c = '(' ∨ c = ')' ∨ IsPlain c := by
  unfold IsPlain
  tauto

/-! ### Balanced texts -/

/-- Texts that close what they open, with at most `limit` parentheses open at a time. -/
def balanced (limit : Nat) : Language Char :=
  {text | depth text = 0 ∧ ∀ start, start <+: text → 0 ≤ depth start ∧ depth start ≤ limit}

/-- A text that starts with a parenthesis which its last character closes, and no character before
it, with at most `limit` parentheses open at a time. -/
structure IsParenthesized (limit : Nat) (text : List Char) : Prop where
  opens : text.head? = some '('
  closes : depth text = 0
  stays_open : ∀ start, start <+: text → start ≠ [] → start ≠ text → 0 < depth start
  within_limit : ∀ start, start <+: text → depth start ≤ limit

variable {limit : Nat} {text first second : List Char}

/-- A balanced text ends on the level where it began, and does not leave its limits in between. -/
theorem mem_balanced_iff :
    text ∈ balanced limit ↔
      depth text = 0 ∧ ∀ start, start <+: text → 0 ≤ depth start ∧ depth start ≤ limit :=
  Iff.rfl

theorem nil_mem_balanced (limit : Nat) : [] ∈ balanced limit := by
  refine ⟨rfl, fun start hstart ↦ ?_⟩
  rw [List.prefix_nil.1 hstart, depth_nil]
  omega

/-- The prefixes of a sequence are those of its first part, and those that go on from there. -/
theorem prefix_append_cases {start : List Char} (h : start <+: first ++ second) :
    start <+: first ∨ ∃ more, more <+: second ∧ start = first ++ more := by
  rcases List.prefix_or_prefix_of_prefix h (List.prefix_append first second) with
    hfirst | ⟨more, rfl⟩
  · exact .inl hfirst
  · exact .inr ⟨more, (List.prefix_append_right_inj first).1 h, rfl⟩

theorem append_mem_balanced (hfirst : first ∈ balanced limit) (hsecond : second ∈ balanced limit) :
    first ++ second ∈ balanced limit := by
  refine ⟨by rw [depth_append, hfirst.1, hsecond.1, Int.add_zero], fun start hstart ↦ ?_⟩
  rcases prefix_append_cases hstart with hstart | ⟨more, hmore, rfl⟩
  · exact hfirst.2 start hstart
  · rw [depth_append, hfirst.1, Int.zero_add]
    exact hsecond.2 more hmore

/-- Parentheses around a balanced text take one more level. -/
theorem enclosed_mem_balanced (h : text ∈ balanced limit) :
    '(' :: (text ++ [')']) ∈ balanced (limit + 1) := by
  obtain ⟨hdepth, hbounds⟩ := h
  have hwhole : depth ('(' :: (text ++ [')'])) = 0 := by
    rw [depth_opening, depth_append, depth_closing, depth_nil, hdepth]
    omega
  refine ⟨hwhole, fun start hstart ↦ ?_⟩
  rcases List.prefix_cons_iff.1 hstart with rfl | ⟨inside, rfl, hinside⟩
  · rw [depth_nil]
    omega
  · rcases List.prefix_concat_iff.1 hinside with rfl | hinside
    · rw [hwhole]
      omega
    · have hbound := hbounds inside hinside
      rw [depth_opening]
      omega

/-- A plain character in front makes no difference. -/
theorem cons_mem_balanced_iff {c : Char} (h : IsPlain c) :
    c :: text ∈ balanced limit ↔ text ∈ balanced limit := by
  simp only [mem_balanced_iff, depth_plain h]
  refine and_congr_right fun hdepth ↦ ⟨fun hbounds start hstart ↦ ?_, fun hbounds start hstart ↦ ?_⟩
  · exact depth_plain h start ▸ hbounds (c :: start) (List.cons_prefix_cons.2 ⟨rfl, hstart⟩)
  · rcases List.prefix_cons_iff.1 hstart with rfl | ⟨rest, rfl, hrest⟩
    · rw [depth_nil]
      omega
    · rw [depth_plain h]
      exact hbounds rest hrest

theorem closing_notMem_balanced (text : List Char) : ')' :: text ∉ balanced limit := by
  intro h
  have hbound := (h.2 [')'] (List.prefix_append [')'] text)).1
  rw [depth_closing, depth_nil] at hbound
  omega

/-- Without a level to go down to, there is no parenthesis to begin with. -/
theorem opening_notMem_balanced_zero (text : List Char) : '(' :: text ∉ balanced 0 := by
  intro h
  have hbound := (h.2 ['('] (List.prefix_append ['('] text)).2
  rw [depth_opening, depth_nil] at hbound
  omega

/-- If a text closes more than the `count` parentheses that are open before it and its own, one of
its characters closes the first of them. -/
theorem exists_closing {count : Int} (hcount : 0 ≤ count) (h : count + depth text < 0) :
    ∃ inside rest, text = inside ++ ')' :: rest ∧ count + depth inside = 0 ∧
      ∀ start, start <+: inside → 0 ≤ count + depth start := by
  induction text generalizing count with
  | nil =>
    rw [depth_nil] at h
    omega
  | cons c text ih =>
    rw [depth_cons] at h
    by_cases hnext : 0 ≤ count + depth [c]
    · obtain ⟨inside, rest, rfl, hinside, hopen⟩ := ih hnext (by omega)
      refine ⟨c :: inside, rest, rfl, by rw [depth_cons]; omega, fun start hstart ↦ ?_⟩
      rcases List.prefix_cons_iff.1 hstart with rfl | ⟨more, rfl, hmore⟩
      · rwa [depth_nil, Int.add_zero]
      · have hbound := hopen more hmore
        rw [depth_cons]
        omega
    · -- the depth falls by one, so this is the character
      rcases opening_or_closing_or_plain c with rfl | rfl | hplain
      · rw [depth_opening, depth_nil] at hnext
        omega
      · rw [depth_closing, depth_nil] at hnext
        refine ⟨[], text, rfl, by rw [depth_nil]; omega, fun start hstart ↦ ?_⟩
        rw [List.prefix_nil.1 hstart, depth_nil]
        omega
      · rw [depth_plain hplain, depth_nil] at hnext
        omega

/-- A parenthesis in a balanced text is closed there, and what stands inside and behind it is
balanced. -/
theorem exists_of_opening_mem_balanced (h : '(' :: text ∈ balanced (limit + 1)) :
    ∃ inside ∈ balanced limit, ∃ rest ∈ balanced (limit + 1), text = inside ++ ')' :: rest := by
  obtain ⟨hdepth, hbounds⟩ := h
  rw [depth_opening] at hdepth
  obtain ⟨inside, rest, rfl, hinside, hopen⟩ :=
    exists_closing (le_refl 0) (by omega : 0 + depth text < 0)
  rw [depth_append, depth_closing] at hdepth
  refine ⟨inside, ⟨by omega, fun start hstart ↦ ?_⟩, rest, ⟨by omega, fun start hstart ↦ ?_⟩, rfl⟩
  · have hopen := hopen start hstart
    have hbound := (hbounds ('(' :: start)
      (List.cons_prefix_cons.2 ⟨rfl, hstart.trans (List.prefix_append inside _)⟩)).2
    rw [depth_opening] at hbound
    omega
  · have hbound := hbounds ('(' :: (inside ++ ')' :: start)) (by simpa using hstart)
    rw [depth_opening, depth_append, depth_closing] at hbound
    omega

/-! ### The languages of the levels -/

theorem mem_runs_plainSet_iff : text ∈ runs plainSet 0 ↔ ∀ c ∈ text, IsPlain c := by
  simp [mem_runs_iff, plainSet, CharSet.contains, contains_span_self, IsPlain, and_comm]

/-- Without nesting, the balanced texts are those without parentheses. -/
theorem runs_plainSet_eq_balanced : runs plainSet 0 = balanced 0 := by
  ext text
  rw [mem_runs_plainSet_iff]
  induction text with
  | nil => simp [nil_mem_balanced]
  | cons c text ih =>
    rw [List.forall_mem_cons, ih]
    rcases opening_or_closing_or_plain c with rfl | rfl | hplain
    · exact ⟨fun h ↦ absurd rfl h.1.1, fun h ↦ absurd h (opening_notMem_balanced_zero text)⟩
    · exact ⟨fun h ↦ absurd rfl h.1.2, fun h ↦ absurd h (closing_notMem_balanced text)⟩
    · rw [cons_mem_balanced_iff hplain, and_iff_right hplain]

/-- A text without nesting is balanced at any limit. -/
theorem mem_balanced_of_mem_zero (h : text ∈ balanced 0) : text ∈ balanced limit := by
  obtain ⟨hdepth, hbounds⟩ := h
  refine ⟨hdepth, fun start hstart ↦ ?_⟩
  have hbound := hbounds start hstart
  omega

/-- One parenthesis of a level, with the plain text behind it. -/
def enclosed (limit : Nat) : Language Char :=
  {['(']} * (balanced limit * ({[')']} * runs plainSet 0))

/-- A piece of a level is a balanced text in parentheses and the plain text behind it. -/
theorem mem_enclosed_iff :
    text ∈ enclosed limit ↔
      ∃ inside ∈ balanced limit, ∃ plain ∈ runs plainSet 0, text =
        '(' :: (inside ++ ')' :: plain) := by
  constructor
  · rintro ⟨_, rfl, _, ⟨inside, hinside, _, ⟨_, rfl, plain, hplain, rfl⟩, rfl⟩, rfl⟩
    exact ⟨inside, hinside, plain, hplain, rfl⟩
  · rintro ⟨inside, hinside, plain, hplain, rfl⟩
    exact ⟨['('], rfl, inside ++ ')' :: plain,
      ⟨inside, hinside, ')' :: plain, ⟨[')'], rfl, plain, hplain, rfl⟩, rfl⟩, rfl⟩

theorem mem_balanced_of_plain (h : text ∈ runs plainSet 0) : text ∈ balanced limit :=
  mem_balanced_of_mem_zero (runs_plainSet_eq_balanced ▸ h)

/-- A piece may follow any balanced text. -/
theorem append_enclosed_mem_balanced {start piece : List Char}
    (hstart : start ∈ balanced (limit + 1))
    (hpiece : piece ∈ enclosed limit) : start ++ piece ∈ balanced (limit + 1) := by
  obtain ⟨inside, hinside, plain, hplain, rfl⟩ := mem_enclosed_iff.1 hpiece
  have hpiece : '(' :: (inside ++ ')' :: plain) = '(' :: (inside ++ [')']) ++ plain := by simp
  rw [hpiece]
  exact append_mem_balanced hstart
    (append_mem_balanced (enclosed_mem_balanced hinside) (mem_balanced_of_plain hplain))

/-- A balanced text is read from the left, a plain character or a whole parenthesis at a time. -/
theorem mem_level_of_mem_balanced (h : text ∈ balanced (limit + 1)) :
    text ∈ runs plainSet 0 * (enclosed limit)∗ := by
  induction hlength : text.length using Nat.strong_induction_on generalizing text with
  | h length ih =>
    cases text with
    | nil => exact ⟨[], mem_runs_plainSet_iff.2 (by simp), [], Language.nil_mem_kstar _, rfl⟩
    | cons c text =>
      rcases opening_or_closing_or_plain c with rfl | rfl | hc
      · obtain ⟨inside, hinside, rest, hrest, rfl⟩ := exists_of_opening_mem_balanced h
        have hshorter : rest.length < length := by
          rw [← hlength, List.length_cons, List.length_append, List.length_cons]
          omega
        obtain ⟨plain, hplain, pieces, hpieces, rfl⟩ := ih _ hshorter hrest rfl
        have hpiece := mem_enclosed_iff.2 ⟨inside, hinside, plain, hplain, rfl⟩
        have hle : enclosed limit * (enclosed limit)∗ ≤ (enclosed limit)∗ := mul_kstar_le_kstar
        refine ⟨[], mem_runs_plainSet_iff.2 (by simp), _,
          hle (Language.append_mem_mul hpiece hpieces), ?_⟩
        simp
      · exact absurd h (closing_notMem_balanced text)
      · have hshorter : text.length < length := hlength ▸ Nat.lt_succ_self _
        obtain ⟨plain, hplain, pieces, hpieces, rfl⟩ :=
          ih _ hshorter ((cons_mem_balanced_iff hc).1 h) rfl
        have hcons : c :: plain ∈ runs plainSet 0 :=
          mem_runs_plainSet_iff.2 (List.forall_mem_cons.2 ⟨hc, mem_runs_plainSet_iff.1 hplain⟩)
        exact ⟨c :: plain, hcons, pieces, hpieces, rfl⟩

/-- A level is plain text and pieces, so one more level of the expression is one more level of
nesting. -/
theorem level_eq_balanced (limit : Nat) :
    runs plainSet 0 * (enclosed limit)∗ = balanced (limit + 1) := by
  have hround : balanced (limit + 1) * enclosed limit ≤ balanced (limit + 1) := by
    rintro _ ⟨start, hstart, piece, hpiece, rfl⟩
    exact append_enclosed_mem_balanced hstart hpiece
  refine le_antisymm ?_ fun text ↦ mem_level_of_mem_balanced
  calc runs plainSet 0 * (enclosed limit)∗
    _ ≤ balanced (limit + 1) * (enclosed limit)∗ :=
      mul_le_mul_left (fun text ↦ mem_balanced_of_plain) _
    _ ≤ balanced (limit + 1) := mul_kstar_le_self hround

/-- By induction on the depth, each level of which is a level of the expression. -/
theorem recognizes_nestedText {next : Regex} {l : Language Char} (h : Recognizes next l) :
    Recognizes (nestedText limit next) (balanced limit * l) := by
  induction limit generalizing next l with
  | zero =>
    rw [nestedText, ← runs_plainSet_eq_balanced]
    exact (recognizes_loop_chars plainSet 0).seq h
  | succ limit ih =>
    have hplain : Recognizes plainText (runs plainSet 0) := recognizes_loop_chars plainSet 0
    have hround := (recognizes_char '(').seq (ih ((recognizes_char ')').seq hplain))
    have hloop := hround.loop (nil_notMem_char_mul '(' _) 0
    rw [pow_zero, one_mul] at hloop
    rw [nestedText, ← level_eq_balanced, mul_assoc]
    exact hplain.seq (hloop.seq h)

/-! ### Parenthesized texts -/

/-- Parentheses around a balanced text close at its very end only. -/
theorem isParenthesized_of_mem_balanced {inside : List Char} (h : inside ∈ balanced limit) :
    IsParenthesized (limit + 1) ('(' :: (inside ++ [')'])) where
  opens := rfl
  closes := (enclosed_mem_balanced h).1
  stays_open := by
    intro start hstart hnonempty hproper
    rcases List.prefix_cons_iff.1 hstart with rfl | ⟨more, rfl, hmore⟩
    · exact absurd rfl hnonempty
    · rcases List.prefix_concat_iff.1 hmore with rfl | hmore
      · exact absurd rfl hproper
      · have hbound := (h.2 more hmore).1
        rw [depth_opening]
        omega
  within_limit := fun start hstart ↦ ((enclosed_mem_balanced h).2 start hstart).2

/-- What stands between the outer parentheses is balanced, one level less deep. -/
theorem IsParenthesized.exists_inside (h : IsParenthesized (limit + 1) text) :
    ∃ inside ∈ balanced limit, text = '(' :: (inside ++ [')']) := by
  obtain ⟨tail, rfl⟩ := List.head?_eq_some_iff.1 h.opens
  have hcloses := h.closes
  rcases List.eq_nil_or_concat tail with rfl | ⟨inside, c, rfl⟩
  · rw [depth_opening, depth_nil] at hcloses
    omega
  · rw [List.concat_eq_append] at h hcloses ⊢
    have hinside (start : List Char) (hstart : start <+: inside) :
        0 < depth ('(' :: start) ∧ depth ('(' :: start) ≤ (limit + 1 : Nat) := by
      have hbegins : '(' :: start <+: '(' :: (inside ++ [c]) :=
        List.cons_prefix_cons.2 ⟨rfl, hstart.trans (List.prefix_append inside [c])⟩
      have hproper : '(' :: start ≠ '(' :: (inside ++ [c]) := by
        rintro hsame
        have hle := hstart.length_le
        have hlength := congrArg List.length hsame
        simp only [List.length_cons, List.length_append, List.length_nil] at hlength
        omega
      exact ⟨h.stays_open _ hbegins (List.cons_ne_nil _ _) hproper, h.within_limit _ hbegins⟩
    have hwhole := (hinside inside List.prefix_rfl).1
    rw [depth_opening] at hwhole
    rw [depth_opening, depth_append] at hcloses
    -- the last character closes a parenthesis
    rcases opening_or_closing_or_plain c with rfl | rfl | hc
    · rw [depth_opening, depth_nil] at hcloses
      omega
    · rw [depth_closing, depth_nil] at hcloses
      refine ⟨inside, ⟨by omega, fun start hstart ↦ ?_⟩, rfl⟩
      have hbound := hinside start hstart
      rw [depth_opening] at hbound
      omega
    · rw [depth_plain hc, depth_nil] at hcloses
      omega

/-- The expression takes exactly the texts in parentheses that are at most six deep. -/
theorem recognizes_parentheses : Recognizes parentheses {text | IsParenthesized 6 text} := by
  have hlanguage : {['(']} * (balanced 5 * {[')']}) =
      ({text | IsParenthesized 6 text} : Language Char) := by
    ext text
    constructor
    · rintro ⟨_, rfl, _, ⟨inside, hinside, _, rfl, rfl⟩, rfl⟩
      exact isParenthesized_of_mem_balanced hinside
    · intro h
      obtain ⟨inside, hinside, rfl⟩ := IsParenthesized.exists_inside h
      exact ⟨['('], rfl, inside ++ [')'], ⟨inside, hinside, [')'], rfl, rfl⟩, rfl⟩
  exact hlanguage ▸ (recognizes_char '(').seq (recognizes_nestedText (recognizes_char ')'))

/-- A closed parenthesis begins no other one. -/
theorem IsParenthesized.eq_of_begins (hfirst : IsParenthesized limit first)
    (hsecond : IsParenthesized limit second) (h : first <+: second) : first = second := by
  by_contra hproper
  have hnonempty : first ≠ [] := by
    rintro rfl
    cases hfirst.opens
  have hopen := hsecond.stays_open first h hnonempty hproper
  exact hopen.ne' hfirst.closes

/-- **The token of parentheses is bounded balance.** It matches the texts whose first character
opens a parenthesis that the last character closes, at most six deep, and no others. At the
beginning of a text it matches if such a text stands there, and then just up to the closing
parenthesis. -/
theorem parentheses_are_bounded_balance :
    ∃ pattern, lexicon.get "bpar" = .ok pattern ∧
      (∀ text, isToken "bpar" text = .ok true ↔ IsParenthesized 6 text) ∧
      ∀ text found, pattern.match? text = some found ↔
        ∃ group, IsParenthesized 6 group ∧ group <+: text ∧ found = ⟨0, group.length, []⟩ := by
  have hmem : ("bpar", parentheses, 0) ∈ tokenExpressions := by simp [tokenExpressions]
  obtain ⟨pattern, hget, hregex, hgroups⟩ := exists_get_of_mem_tokenExpressions hmem
  have hrecognizes : Recognizes pattern.regex {text | IsParenthesized 6 text} :=
    hregex ▸ recognizes_parentheses
  refine ⟨pattern, hget, fun text ↦ isToken_eq_ok_true_iff hget hrecognizes, fun text found ↦ ?_⟩
  simp only [← Pattern.plainMatch_of_groupCount hgroups]
  exact Pattern.match?_eq_some_iff_of_unique hrecognizes fun first hfirst second hsecond ↦
    IsParenthesized.eq_of_begins hfirst hsecond

end Lexicon

end ScriptForms
