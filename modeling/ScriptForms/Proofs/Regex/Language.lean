import Mathlib.Computability.Language
import ScriptForms.Pattern.Basic
import ScriptForms.Proofs.Regex.Ends

/-!
# Expressions that recognize a language

An expression without anchors, groups and lookahead takes no notice of what stands around a text.
`Recognizes r l` says that its matches at a place end behind just those texts of the language `l`
that follow there. This is proved along the structure of an expression; for a loop it takes a body
that never matches the empty text, so that neither the rule for empty rounds nor the fuel ends the
loop early.

A pattern that recognizes `l` matches the texts of `l` as a whole (`isSome_fullMatch?_iff`). It
matches at the beginning of a text if some text of `l` stands there (`isSome_match?_iff`). Which of
them it takes follows from the language alone if none begins with another
(`match?_eq_some_iff_of_unique`).
-/

open scoped Computability

namespace ScriptForms

namespace Regex

namespace Place

/-- What begins behind a text continues it. -/
theorem prefix_rest_advance_iff {place : Place} {text more : List Char} (h : text <+: place.rest) :
    more <+: (place.advance text.length).rest ↔ text ++ more <+: place.rest := by
  obtain ⟨rest, hrest⟩ := h
  rw [rest_advance hrest.symm, ← hrest, List.prefix_append_right_inj]

end Place

/-- The matches of `r` at a place end behind the texts of `l` that follow there, and capture
nothing. -/
def Recognizes (r : Regex) (l : Language Char) : Prop :=
  ∀ place stop, stop ∈ ends r place ↔
    ∃ text ∈ l, text <+: place.rest ∧ stop = place.advance text.length

variable {first second body : Regex} {l m : Language Char}

/-- Being behind a text of `l` and then behind one of `m` is being behind a text of `l * m`. -/
theorem exists_mul_iff {place stop : Place} :
    (∃ middle, (∃ text ∈ l, text <+: place.rest ∧ middle = place.advance text.length) ∧
      ∃ more ∈ m, more <+: middle.rest ∧ stop = middle.advance more.length) ↔
      ∃ text ∈ l * m, text <+: place.rest ∧ stop = place.advance text.length := by
  constructor
  · rintro ⟨middle, ⟨text, htext, hfollows, rfl⟩, more, hmore, hnext, rfl⟩
    refine ⟨text ++ more, Language.append_mem_mul htext hmore,
      (Place.prefix_rest_advance_iff hfollows).1 hnext, ?_⟩
    rw [Place.advance_advance, List.length_append]
  · rintro ⟨both, hboth, hfollow, rfl⟩
    obtain ⟨text, htext, more, hmore, rfl⟩ := Language.mem_mul.1 hboth
    have hfollows : text <+: place.rest := (List.prefix_append text more).trans hfollow
    refine ⟨place.advance text.length, ⟨text, htext, hfollows, rfl⟩, more, hmore,
      (Place.prefix_rest_advance_iff hfollows).2 hfollow, ?_⟩
    rw [Place.advance_advance, List.length_append]

theorem exists_one_iff {place stop : Place} :
    (∃ text ∈ (1 : Language Char), text <+: place.rest ∧ stop = place.advance text.length) ↔
      stop = place := by
  constructor
  · rintro ⟨text, rfl, -, hstop⟩
    exact hstop.trans (Place.advance_zero place)
  · rintro rfl
    exact ⟨[], Language.nil_mem_one, List.nil_prefix, (Place.advance_zero stop).symm⟩

/-! ### Sequences and alternatives -/

theorem Recognizes.seq (hfirst : Recognizes first l) (hsecond : Recognizes second m) :
    Recognizes (seq first second) (l * m) := by
  intro place stop
  rw [mem_ends_seq, ← exists_mul_iff]
  simp only [hfirst place, hsecond _ stop]

theorem Recognizes.alt (hfirst : Recognizes first l) (hsecond : Recognizes second m) :
    Recognizes (alt first second) (l + m) := by
  intro place stop
  simp only [mem_ends_alt, hfirst place stop, hsecond place stop, Language.mem_add, or_and_right,
    exists_or]

/-! ### Loops -/

/-- An optional part may also be empty. -/
theorem Recognizes.optional (hbody : Recognizes body l) :
    Recognizes (loop .greedy 0 (some 1) body) (1 + l) := by
  intro place stop
  rw [ends_optional, List.mem_append, List.mem_singleton, hbody place stop, ← exists_one_iff]
  simp only [Language.mem_add, or_and_right, exists_or]
  exact or_comm

/-- A number of rounds recognizes a power of the language. -/
theorem mem_roundEnds_iff (hbody : Recognizes body l) {count : Nat} {place stop : Place} :
    stop ∈ roundEnds (ends body) count place ↔
      ∃ text ∈ l ^ count, text <+: place.rest ∧ stop = place.advance text.length := by
  induction count generalizing place with
  | zero => rw [roundEnds, List.mem_singleton, pow_zero, exists_one_iff]
  | succ count ih =>
    rw [roundEnds, List.mem_flatMap, pow_succ', ← exists_mul_iff]
    simp only [hbody place, ih]

/-- A text that is not empty moves the place on. -/
theorem Recognizes.moves_on (h : Recognizes body l) (hne : [] ∉ l) {place stop : Place}
    (hstop : stop ∈ ends body place) :
    place.offset < stop.offset ∧ stop.rest.length < place.rest.length := by
  obtain ⟨text, htext, hfollows, rfl⟩ := (h place stop).1 hstop
  have hpositive : 0 < text.length := List.length_pos_iff.2 fun hnil ↦ hne (hnil ▸ htext)
  have hle := hfollows.length_le
  simp only [Place.advance, List.length_drop]
  omega

/-- A greedy loop without an upper bound stops behind any number of texts of its body. Each of them
moves the place on, so the fuel lasts. -/
theorem mem_greedyEnds_iff (hbody : Recognizes body l) (hne : [] ∉ l) {fuel : Nat}
    {last : Option Nat}
    {place stop : Place} (hfuel : place.rest.length < fuel) (hlast : last ≠ some place.offset) :
    stop ∈ greedyEnds (ends body) fuel none last place ↔
      ∃ text ∈ l∗, text <+: place.rest ∧ stop = place.advance text.length := by
  induction fuel generalizing last place with
  | zero => omega
  | succ fuel ih =>
    have hgoes : loopEnds none last place = false := by simp [loopEnds, hlast]
    have hround (middle : Place) (hmiddle : middle ∈ ends body place) :
        stop ∈ greedyEnds (ends body) fuel none (some place.offset) middle ↔
          ∃ text ∈ l∗, text <+: middle.rest ∧ stop = middle.advance text.length := by
      obtain ⟨hoffset, hlength⟩ := hbody.moves_on hne hmiddle
      exact ih (by omega) fun hsame ↦ hoffset.ne (Option.some.inj hsame)
    rw [greedyEnds, hgoes, if_neg (by decide), List.mem_append, List.mem_singleton,
      List.mem_flatMap,
      Option.map_none, ← Language.one_add_self_mul_kstar_eq_kstar]
    simp only [Language.mem_add, or_and_right, exists_or, exists_one_iff, ← exists_mul_iff,
      ← hbody place]
    rw [or_comm]
    exact or_congr_right (exists_congr fun middle ↦ and_congr_right (hround middle))

/-- A loop recognizes at least `min` rounds, if no round is empty. -/
theorem Recognizes.loop (hbody : Recognizes body l) (hne : [] ∉ l) (min : Nat) :
    Recognizes (loop .greedy min none body) (l ^ min * l∗) := by
  intro place stop
  rw [ends, List.mem_flatMap, ← exists_mul_iff]
  refine exists_congr fun middle ↦ and_congr (mem_roundEnds_iff hbody) ?_
  exact mem_greedyEnds_iff hbody hne (Nat.lt_succ_self _) (by simp)

/-! ### Characters -/

/-- The texts of one character of a set. -/
def letters (set : CharSet) : Language Char :=
  {text | ∃ c, set.contains c = true ∧ text = [c]}

/-- The texts of at least `min` characters, all of them in a set. -/
def runs (set : CharSet) (min : Nat) : Language Char :=
  {text | min ≤ text.length ∧ ∀ c ∈ text, set.contains c = true}

variable {set : CharSet} {text : List Char}

theorem mem_runs_iff {min : Nat} :
    text ∈ runs set min ↔ min ≤ text.length ∧ ∀ c ∈ text, set.contains c = true :=
  Iff.rfl

theorem recognizes_chars (set : CharSet) : Recognizes (chars set) (letters set) := by
  intro place stop
  rw [mem_ends_chars]
  constructor
  · rintro ⟨c, rest, hrest, hc, rfl⟩
    exact ⟨[c], ⟨c, hc, rfl⟩, hrest ▸ List.prefix_append [c] rest, rfl⟩
  · rintro ⟨_, ⟨c, hc, rfl⟩, ⟨rest, hrest⟩, rfl⟩
    exact ⟨c, rest, hrest.symm, hc, rfl⟩

theorem letters_char (c : Char) : letters ⟨false, [.span c c]⟩ = {[c]} := by
  have hchar (d : Char) : CharSet.contains ⟨false, [.span c c]⟩ d = true ↔ d = c := by
    simp [CharSet.contains, contains_span_self]
  ext text
  constructor
  · rintro ⟨d, hd, rfl⟩
    exact congrArg List.singleton ((hchar d).1 hd)
  · rintro rfl
    exact ⟨c, (hchar c).2 rfl, rfl⟩

theorem recognizes_char (c : Char) : Recognizes (char c) {[c]} :=
  letters_char c ▸ recognizes_chars _

theorem nil_notMem_letters : [] ∉ letters set := by
  rintro ⟨c, -, hnil⟩
  cases hnil

theorem nil_notMem_char_mul (c : Char) (l : Language Char) : [] ∉ ({[c]} * l : Language Char) := by
  rintro ⟨_, rfl, text, -, hnil⟩
  cases hnil

/-- A power of letters is told by its length and its characters. -/
theorem mem_letters_pow_iff {count : Nat} :
    text ∈ letters set ^ count ↔ text.length = count ∧ ∀ c ∈ text, set.contains c = true := by
  induction count generalizing text with
  | zero =>
    rw [pow_zero, Language.mem_one, List.length_eq_zero_iff]
    exact ⟨fun hnil ↦ ⟨hnil, by simp [hnil]⟩, And.left⟩
  | succ count ih =>
    rw [pow_succ', Language.mem_mul]
    constructor
    · rintro ⟨_, ⟨c, hc, rfl⟩, rest, hrest, rfl⟩
      obtain ⟨hlength, hall⟩ := ih.1 hrest
      exact ⟨congrArg Nat.succ hlength, List.forall_mem_cons.2 ⟨hc, hall⟩⟩
    · rintro ⟨hlength, hall⟩
      obtain ⟨c, rest, rfl⟩ := List.exists_cons_of_length_eq_add_one hlength
      obtain ⟨hc, hrest⟩ := List.forall_mem_cons.1 hall
      exact ⟨[c], ⟨c, hc, rfl⟩, rest, ih.2 ⟨Nat.succ.inj hlength, hrest⟩, rfl⟩

theorem mem_letters_kstar_iff : text ∈ (letters set)∗ ↔ ∀ c ∈ text, set.contains c = true := by
  rw [Language.kstar_eq_iSup_pow, Language.mem_iSup]
  simp only [mem_letters_pow_iff, exists_and_right, exists_eq', true_and]

/-- At least `min` letters are a run. -/
theorem letters_pow_mul_kstar (set : CharSet) (min : Nat) :
    letters set ^ min * (letters set)∗ = runs set min := by
  ext text
  simp only [Language.mem_mul, mem_letters_pow_iff, mem_letters_kstar_iff, mem_runs_iff]
  constructor
  · rintro ⟨start, ⟨rfl, hstart⟩, more, hmore, rfl⟩
    exact ⟨by simp, List.forall_mem_append.2 ⟨hstart, hmore⟩⟩
  · rintro ⟨hlength, hall⟩
    refine ⟨text.take min, ⟨List.length_take_of_le hlength, fun c hc ↦
      hall c (List.mem_of_mem_take hc)⟩,
      text.drop min, fun c hc ↦ hall c (List.mem_of_mem_drop hc), List.take_append_drop min text⟩

theorem recognizes_loop_chars (set : CharSet) (min : Nat) :
    Recognizes (loop .greedy min none (chars set)) (runs set min) :=
  letters_pow_mul_kstar set min ▸ (recognizes_chars set).loop nil_notMem_letters min

/-! ### Joined texts -/

theorem intercalate_cons (separator item : List Char) (items : List (List Char)) :
    separator.intercalate (item :: items) = item ++ items.flatMap (separator ++ ·) := by
  induction items generalizing item with
  | nil => simp [List.intercalate]
  | cons next items ih =>
    rw [List.intercalate_cons_cons, ih, List.flatMap_cons, List.append_assoc, List.append_assoc]

/-- Items with a separator before each of them. -/
theorem mem_singleton_mul_kstar_iff {separator : List Char} :
    text ∈ ({separator} * l)∗ ↔
      ∃ items : List (List Char), (∀ item ∈ items, item ∈ l) ∧
        text = items.flatMap (separator ++ ·) := by
  constructor
  · rintro ⟨pieces, rfl, hpieces⟩
    induction pieces with
    | nil => exact ⟨[], by simp, rfl⟩
    | cons piece pieces ih =>
      obtain ⟨hpiece, hrest⟩ := List.forall_mem_cons.1 hpieces
      obtain ⟨_, rfl, item, hitem, rfl⟩ := Language.mem_mul.1 hpiece
      obtain ⟨items, hitems, hflat⟩ := ih hrest
      refine ⟨item :: items, List.forall_mem_cons.2 ⟨hitem, hitems⟩, ?_⟩
      rw [List.flatten_cons, hflat, List.flatMap_cons]
  · rintro ⟨items, hitems, rfl⟩
    rw [List.flatMap_def]
    refine Language.join_mem_kstar fun piece hpiece ↦ ?_
    obtain ⟨item, hitem, rfl⟩ := List.mem_map.1 hpiece
    exact Language.append_mem_mul rfl (hitems item hitem)

/-- A text of `l` and any number of others, each behind a separator, are one or more texts of `l`
that are joined by it. -/
theorem mem_mul_kstar_iff {separator : List Char} :
    text ∈ l * ({separator} * l)∗ ↔
      ∃ items, items ≠ [] ∧ (∀ item ∈ items, item ∈ l) ∧ text = separator.intercalate items := by
  rw [Language.mem_mul]
  constructor
  · rintro ⟨item, hitem, rest, hrest, rfl⟩
    obtain ⟨items, hitems, rfl⟩ := mem_singleton_mul_kstar_iff.1 hrest
    exact ⟨item :: items, List.cons_ne_nil item items, List.forall_mem_cons.2 ⟨hitem, hitems⟩,
      (intercalate_cons separator item items).symm⟩
  · rintro ⟨items, hnonempty, hall, rfl⟩
    obtain ⟨item, items, rfl⟩ := List.exists_cons_of_ne_nil hnonempty
    obtain ⟨hitem, hitems⟩ := List.forall_mem_cons.1 hall
    exact ⟨item, hitem, items.flatMap (separator ++ ·),
      mem_singleton_mul_kstar_iff.2 ⟨items, hitems, rfl⟩,
        (intercalate_cons separator item items).symm⟩

/-! ### Groups -/

/-- The place with a text captured. -/
def Place.record (place : Place) (index : Nat) (text : List Char) : Place :=
  { place with captures := (index, text) :: place.captures }

/-- A group captures the text that was taken. -/
theorem Place.capture_advance {place : Place} (h : text <+: place.rest) (index : Nat) :
    place.capture (place.advance text.length) index =
      (place.advance text.length).record index text := by
  obtain ⟨rest, hrest⟩ := h
  simp [capture, record, advance, ← hrest]

/-- A group goes on behind a text of its language, which is captured. -/
theorem mem_ends_capture_seq_iff (h : Recognizes body l) {next : Regex} {index : Nat}
    {place stop : Place} :
    stop ∈ ends (.seq (capture index body) next) place ↔
      ∃ text ∈ l, text <+: place.rest ∧
        stop ∈ ends next ((place.advance text.length).record index text) := by
  rw [mem_ends_seq, ends]
  constructor
  · rintro ⟨_, hcaptured, hstop⟩
    obtain ⟨middle, hmiddle, rfl⟩ := List.mem_map.1 hcaptured
    obtain ⟨text, htext, hfollows, rfl⟩ := (h place middle).1 hmiddle
    exact ⟨text, htext, hfollows, Place.capture_advance hfollows index ▸ hstop⟩
  · rintro ⟨text, htext, hfollows, hstop⟩
    have hmiddle := (h place _).2 ⟨text, htext, hfollows, rfl⟩
    exact ⟨_, List.mem_map_of_mem hmiddle, Place.capture_advance hfollows index ▸ hstop⟩

end Regex

/-! ### Patterns -/

namespace Pattern

open Regex

variable {pattern : Pattern} {l : Language Char} {text : List Char}

/-- The match of the first `length` characters without groups. -/
def plainMatch (pattern : Pattern) (length : Nat) : Match :=
  ⟨0, length, List.replicate pattern.groupCount none⟩

theorem plainMatch_of_groupCount (h : pattern.groupCount = 0) (length : Nat) :
    pattern.plainMatch length = ⟨0, length, []⟩ := by
  rw [plainMatch, h, List.replicate_zero]

/-- A match without groups is told by its length. -/
theorem matchOf_advance (pattern : Pattern) (text : List Char) (count : Nat) :
    pattern.matchOf 0 ((beginning text).advance count) = pattern.plainMatch count := by
  simp [matchOf, beginning, Place.advance, plainMatch, List.map_const']

/-- A text matches as a whole exactly if it is in the language. -/
theorem isSome_fullMatch?_iff (h : Recognizes pattern.regex l) :
    (pattern.fullMatch? text).isSome = true ↔ text ∈ l := by
  rw [fullMatch?, Option.isSome_map, isSome_fullMatchAt_iff]
  constructor
  · rintro ⟨stop, hstop, hrest⟩
    obtain ⟨start, hstart, ⟨rest, hbegins⟩, rfl⟩ := (h _ stop).1 hstop
    have hnil : rest = [] := (Place.rest_advance hbegins.symm).symm.trans hrest
    have htext : start = text := by rw [← List.append_nil start, ← hnil]; exact hbegins
    exact htext ▸ hstart
  · intro htext
    refine ⟨(beginning text).advance text.length, (h _ _).2 ⟨text, htext, List.prefix_rfl, rfl⟩, ?_⟩
    exact List.drop_length

/-- A text matches at its beginning exactly if it begins with a text of the language. -/
theorem isSome_match?_iff (h : Recognizes pattern.regex l) :
    (pattern.match? text).isSome = true ↔ ∃ start ∈ l, start <+: text := by
  rw [match?, Option.isSome_map, matchAt_eq_head?, List.isSome_head?]
  constructor
  · intro hends
    obtain ⟨stop, hstop⟩ := List.exists_mem_of_ne_nil _ hends
    obtain ⟨start, hstart, hbegins, -⟩ := (h _ stop).1 hstop
    exact ⟨start, hstart, hbegins⟩
  · rintro ⟨start, hstart, hbegins⟩
    exact List.ne_nil_of_mem ((h _ _).2 ⟨start, hstart, hbegins, rfl⟩)

/-- What is matched at the beginning is a text of the language. -/
theorem exists_of_match?_eq_some (h : Recognizes pattern.regex l) {found : Match}
    (hfound : pattern.match? text = some found) :
    ∃ start ∈ l, start <+: text ∧ found = pattern.plainMatch start.length := by
  rw [match?, matchAt_eq_head?] at hfound
  obtain ⟨stop, hstop, rfl⟩ := Option.map_eq_some_iff.1 hfound
  obtain ⟨start, hstart, hbegins, rfl⟩ := (h _ stop).1 (List.mem_of_head? hstop)
  exact ⟨start, hstart, hbegins, matchOf_advance pattern text start.length⟩

/-- If no text of the language begins with another, the match is determined by the language. -/
theorem match?_eq_some_iff_of_unique (h : Recognizes pattern.regex l)
    (hunique : ∀ start ∈ l, ∀ other ∈ l, start <+: other → start = other) {found : Match} :
    pattern.match? text = some found ↔
      ∃ start ∈ l, start <+: text ∧ found = pattern.plainMatch start.length := by
  refine ⟨exists_of_match?_eq_some h, ?_⟩
  rintro ⟨start, hstart, hbegins, rfl⟩
  obtain ⟨found, hfound⟩ :=
    Option.isSome_iff_exists.1 ((isSome_match?_iff h).2 ⟨start, hstart, hbegins⟩)
  obtain ⟨other, hother, hotherbegins, rfl⟩ := exists_of_match?_eq_some h hfound
  have hsame : other = start := by
    rcases List.prefix_or_prefix_of_prefix hotherbegins hbegins with hle | hle
    · exact hunique other hother start hstart hle
    · exact (hunique start hstart other hother hle).symm
  rw [hfound, hsame]

end Pattern

end ScriptForms
