import ScriptForms.Proofs.Regex.Language

/-!
# Expressions that match as much as possible

Backtracking takes the first alternative that works, not the longest. `LongestFirst r` says that for
`r` this is no difference: wherever it is matched, its ends come in the order of their distance, the
farthest first.

For a sequence this asks for more than for its parts. A shorter match of the first part, tried
later, must not get farther than a longer one with the help of the second part. It does not if one
character tells the two apart (`Separate`): where the first part could go on, no text of the second
begins.

A pattern of this kind that recognizes a language takes the longest text of the language at the
beginning of its input (`match?_eq_some_iff_of_longestFirst`).
-/

open scoped Computability

namespace ScriptForms

namespace Regex

/-- The ends of the matches of `r` come in the order of their distance, the farthest first. -/
def LongestFirst (r : Regex) : Prop :=
  ∀ place, (ends r place).Pairwise fun first second ↦ second.offset < first.offset

/-- Where a text of `l` goes on to a longer one, no text of `m` but the empty one begins. -/
def Separate (l m : Language Char) : Prop :=
  ∀ start more other, start ∈ l → start ++ more ∈ l → other ∈ m → more ≠ [] → other ≠ [] →
    more.head? ≠ other.head?

variable {first second body : Regex} {l m : Language Char} {place : Place}

/-- An expression that recognizes a language never goes back. -/
theorem Recognizes.offset_le (h : Recognizes body l) {stop : Place}
    (hstop : stop ∈ ends body place) :
    place.offset ≤ stop.offset := by
  obtain ⟨text, -, -, rfl⟩ := (h place stop).1 hstop
  exact Nat.le_add_right _ _

/-- A text of `m` behind the nearer of two ends is empty: it would begin where the text up to the
farther end goes on. -/
theorem Separate.offset_lt (h : Separate l m) (hfirst : Recognizes first l) {near far stop : Place}
    (hnear : near ∈ ends first place) (hfar : far ∈ ends first place)
    (hlt : near.offset < far.offset)
    (hstop : ∃ text ∈ m, text <+: near.rest ∧ stop = near.advance text.length) :
    stop.offset < far.offset := by
  obtain ⟨start, hstart, hbegins, rfl⟩ := (hfirst place near).1 hnear
  obtain ⟨longer, hlonger, hlongerbegins, rfl⟩ := (hfirst place far).1 hfar
  obtain ⟨other, hother, hfollows, rfl⟩ := hstop
  have hlength : start.length < longer.length := Nat.lt_of_add_lt_add_left hlt
  obtain ⟨more, rfl⟩ := List.prefix_of_prefix_length_le hbegins hlongerbegins hlength.le
  rcases eq_or_ne other [] with rfl | hnonempty
  · exact hlt
  · have hmore : more ≠ [] := by
      rintro rfl
      simp at hlength
    -- both begin what follows `start`
    obtain ⟨rest, hrest⟩ := (Place.prefix_rest_advance_iff hbegins).2 hlongerbegins
    obtain ⟨otherrest, hotherrest⟩ := hfollows
    have hheads : more.head? = other.head? := by
      rw [← List.head?_append_of_ne_nil more hmore, hrest, ← hotherrest,
        List.head?_append_of_ne_nil other hnonempty]
    exact absurd hheads (h start more other hstart hlonger hother hmore hnonempty)

/-- Languages are separate if the characters of the one begin no text of the other. -/
theorem separate_of_forall_mem {p : Char → Prop} (hl : ∀ text ∈ l, ∀ c ∈ text, p c)
    (hm : ∀ text ∈ m, ∀ c ∈ text.head?, ¬ p c) : Separate l m := by
  rintro start more other - hlonger hother hmore - hsame
  obtain ⟨c, more, rfl⟩ := List.exists_cons_of_ne_nil hmore
  have hc : p c := hl _ hlonger c (List.mem_append_right start List.mem_cons_self)
  exact hm other hother c hsame.symm hc

/-- Single letters are never parts of each other. -/
theorem separate_letters (set : CharSet) (m : Language Char) : Separate (letters set) m := by
  rintro start more other ⟨c, -, rfl⟩ ⟨d, -, hlonger⟩ - hmore
  exact absurd (List.cons.inj hlonger).2 hmore

/-! ### Characters, sequences and alternatives -/

/-- A set has one end at most. -/
theorem longestFirst_chars (set : CharSet) : LongestFirst (chars set) := by
  intro place
  rw [ends]
  cases place.rest with
  | nil => exact List.Pairwise.nil
  | cons c rest =>
    dsimp only
    split
    · exact List.pairwise_singleton _ _
    · exact List.Pairwise.nil

/-- A sequence tries its longest text first if nothing of the second part can lengthen the first. -/
theorem LongestFirst.seq (hfirst : LongestFirst first) (hsecond : LongestFirst second)
    (hl : Recognizes first l) (hm : Recognizes second m) (hseparate : Separate l m) :
    LongestFirst (seq first second) := by
  intro place
  rw [ends, List.pairwise_flatMap]
  refine ⟨fun middle _ ↦ hsecond middle, (hfirst place).imp_of_mem ?_⟩
  intro far near hfar hnear hlt stop hstop other hother
  calc other.offset
    _ < far.offset := hseparate.offset_lt hl hnear hfar hlt ((hm near other).1 hother)
    _ ≤ stop.offset := hm.offset_le hstop

theorem LongestFirst.char_seq (hsecond : LongestFirst second)
    (hm : Recognizes second m) (c : Char) :
    LongestFirst (.seq (char c) second) :=
  (longestFirst_chars _).seq hsecond (recognizes_chars _) hm (separate_letters _ m)

/-- One character behind a match keeps the order of its ends, whatever the character is. -/
theorem LongestFirst.seq_chars (hfirst : LongestFirst first) (set : CharSet) :
    LongestFirst (.seq first (chars set)) := by
  intro place
  rw [ends, List.pairwise_flatMap]
  refine ⟨fun middle _ ↦ longestFirst_chars set middle, (hfirst place).imp ?_⟩
  intro far near hlt stop hstop other hother
  obtain ⟨-, -, -, -, rfl⟩ := mem_ends_chars.1 hstop
  obtain ⟨-, -, -, -, rfl⟩ := mem_ends_chars.1 hother
  show near.offset + 1 < far.offset + 1
  omega

/-- Alternatives may be tried in turn if no text of the first begins a text of the second. -/
theorem LongestFirst.alt (hfirst : LongestFirst first) (hsecond : LongestFirst second)
    (hl : Recognizes first l) (hm : Recognizes second m)
    (hlonger : ∀ text ∈ l, ∀ other ∈ m, ¬ text <+: other) : LongestFirst (alt first second) := by
  intro place
  rw [ends, List.pairwise_append]
  refine ⟨hfirst place, hsecond place, fun stop hstop other hother ↦ ?_⟩
  obtain ⟨text, htext, hbegins, rfl⟩ := (hl place stop).1 hstop
  obtain ⟨shorter, hshorter, hshorterbegins, rfl⟩ := (hm place other).1 hother
  refine Nat.add_lt_add_left (Nat.lt_of_not_le fun hle ↦ ?_) _
  exact hlonger text htext shorter hshorter (List.prefix_of_prefix_length_le hbegins
    hshorterbegins hle)

/-! ### Loops -/

/-- An optional part that is there is tried first. -/
theorem LongestFirst.optional (hbody : LongestFirst body) (hl : Recognizes body l) (hne : [] ∉ l) :
    LongestFirst (loop .greedy 0 (some 1) body) := by
  intro place
  rw [ends_optional, List.pairwise_append]
  refine ⟨hbody place, List.pairwise_singleton _ _, fun stop hstop other hother ↦ ?_⟩
  rw [List.mem_singleton.1 hother]
  exact (hl.moves_on hne hstop).1

/-- If no text of a language lengthens the first, no sequence of its texts does. -/
theorem Separate.kstar (h : Separate l m) : Separate l m∗ := by
  intro start more other hstart hlonger hother hmore hnonempty
  obtain ⟨pieces, rfl, hpieces⟩ := Language.mem_kstar_iff_exists_nonempty.1 hother
  cases pieces with
  | nil => exact absurd rfl hnonempty
  | cons piece pieces =>
    obtain ⟨hpiece, hpiecenonempty⟩ := hpieces piece List.mem_cons_self
    rw [List.flatten_cons, List.head?_append_of_ne_nil _ hpiecenonempty]
    exact h start more piece hstart hlonger hpiece hmore hpiecenonempty

theorem Separate.mono {n : Language Char} (h : Separate l m) (hle : ∀ text ∈ n, text ∈ m) :
    Separate l n :=
  fun start more other hstart hlonger hother ↦ h start more other hstart hlonger (hle other hother)

/-- By induction on the fuel: an end after more rounds comes first and lies further on. -/
theorem pairwise_greedyEnds (hbody : LongestFirst body) (hl : Recognizes body l) (hne : [] ∉ l)
    (hseparate : Separate l l) {fuel : Nat} {last : Option Nat} (hfuel : place.rest.length < fuel)
    (hlast : last ≠ some place.offset) :
    (greedyEnds (ends body) fuel none last place).Pairwise fun first second ↦
      second.offset < first.offset := by
  induction fuel generalizing last place with
  | zero => omega
  | succ fuel ih =>
    have hgoes : loopEnds none last place = false := by simp [loopEnds, hlast]
    have hround (middle : Place) (hmiddle : middle ∈ ends body place) :
        middle.rest.length < fuel ∧ some place.offset ≠ some middle.offset := by
      obtain ⟨hoffset, hlength⟩ := hl.moves_on hne hmiddle
      exact ⟨by omega, fun hsame ↦ hoffset.ne (Option.some.inj hsame)⟩
    have hfarther (middle : Place) (hmiddle : middle ∈ ends body place) (stop : Place)
        (hstop : stop ∈ greedyEnds (ends body) fuel none (some place.offset) middle) :
        ∃ text ∈ l∗, text <+: middle.rest ∧ stop = middle.advance text.length :=
      (mem_greedyEnds_iff hl hne (hround middle hmiddle).1 (hround middle hmiddle).2).1 hstop
    rw [greedyEnds, hgoes, if_neg (by decide), Option.map_none, List.pairwise_append,
      List.pairwise_flatMap]
    refine ⟨⟨fun middle hmiddle ↦ ih (hround middle hmiddle).1 (hround middle hmiddle).2,
      (hbody place).imp_of_mem ?_⟩, List.pairwise_singleton _ _, ?_⟩
    · intro far near hfar hnear hlt stop hstop other hother
      obtain ⟨text, -, -, rfl⟩ := hfarther far hfar stop hstop
      calc other.offset
        _ < far.offset :=
          hseparate.kstar.offset_lt hl hnear hfar hlt (hfarther near hnear other hother)
        _ ≤ (far.advance text.length).offset := Nat.le_add_right _ _
    · intro stop hstop other hother
      obtain ⟨middle, hmiddle, hstop⟩ := List.mem_flatMap.1 hstop
      obtain ⟨text, -, -, rfl⟩ := hfarther middle hmiddle stop hstop
      rw [List.mem_singleton.1 hother]
      exact (hl.moves_on hne hmiddle).1.trans_le (Nat.le_add_right _ _)

theorem ends_loop_succ (body : Regex) (min : Nat) (place : Place) :
    ends (loop .greedy (min + 1) none body) place =
      ends (.seq body (loop .greedy min none body)) place := by
  simp only [ends, roundEnds, List.flatMap_assoc, Option.map_none]

/-- A greedy loop tries the most rounds first. -/
theorem LongestFirst.loop (hbody : LongestFirst body) (hl : Recognizes body l) (hne : [] ∉ l)
    (hseparate : Separate l l) (min : Nat) : LongestFirst (loop .greedy min none body) := by
  induction min with
  | zero =>
    intro place
    rw [ends, roundEnds, List.flatMap_singleton]
    exact pairwise_greedyEnds hbody hl hne hseparate (Nat.lt_succ_self _) (by simp)
  | succ min ih =>
    have hle : l ^ min * l∗ ≤ l∗ := by
      calc l ^ min * l∗
        _ ≤ l∗ * l∗ := mul_le_mul_left pow_le_kstar l∗
        _ = l∗ := kstar_mul_kstar l
    intro place
    rw [ends_loop_succ]
    exact hbody.seq ih hl (hl.loop hne min) (hseparate.kstar.mono fun text htext ↦ hle htext) place

theorem longestFirst_loop_chars (set : CharSet) (min : Nat) :
    LongestFirst (loop .greedy min none (chars set)) :=
  (longestFirst_chars set).loop (recognizes_chars set) nil_notMem_letters
    (separate_letters set _) min

/-! ### The longest match -/

/-- The preferred match is the longest. -/
theorem LongestFirst.offset_le {r : Regex} (h : LongestFirst r) {stop other : Place}
    (hstop : r.matchAt place = some stop) (hother : other ∈ ends r place) :
    other.offset ≤ stop.offset := by
  rw [matchAt_eq_head?] at hstop
  obtain ⟨rest, hends⟩ := List.head?_eq_some_iff.1 hstop
  have hfirst : (stop :: rest).Pairwise fun first second ↦ second.offset < first.offset :=
    hends ▸ h place
  rcases List.mem_cons.1 (hends ▸ hother) with rfl | hlater
  · exact Nat.le_refl _
  · exact (List.rel_of_pairwise_cons hfirst hlater).le

end Regex

namespace Pattern

open Regex

variable {pattern : Pattern} {l : Language Char} {text : List Char} {found : Match}

/-- What is matched at the beginning is the longest text of the language there. -/
theorem exists_longest_of_match?_eq_some (h : Recognizes pattern.regex l)
    (hlongest : LongestFirst pattern.regex) (hfound : pattern.match? text = some found) :
    ∃ start ∈ l, start <+: text ∧ (∀ other ∈ l, other <+: text → other.length ≤ start.length) ∧
      found = pattern.plainMatch start.length := by
  obtain ⟨stop, hstop, rfl⟩ := Option.map_eq_some_iff.1 hfound
  have hmem : stop ∈ ends pattern.regex (beginning text) :=
    List.mem_of_head? (matchAt_eq_head? _ _ ▸ hstop)
  obtain ⟨start, hstart, hbegins, rfl⟩ := (h _ stop).1 hmem
  refine ⟨start, hstart, hbegins, fun other hother hotherbegins ↦ ?_,
    matchOf_advance pattern text start.length⟩
  have hle := hlongest.offset_le hstop ((h _ _).2 ⟨other, hother, hotherbegins, rfl⟩)
  exact Nat.le_of_add_le_add_left hle

/-- The match is the longest text of the language at the beginning. -/
theorem match?_eq_some_iff_of_longestFirst (h : Recognizes pattern.regex l)
    (hlongest : LongestFirst pattern.regex) :
    pattern.match? text = some found ↔
      ∃ start ∈ l, start <+: text ∧ (∀ other ∈ l, other <+: text → other.length ≤ start.length) ∧
        found = pattern.plainMatch start.length := by
  refine ⟨exists_longest_of_match?_eq_some h hlongest, ?_⟩
  rintro ⟨start, hstart, hbegins, hmost, rfl⟩
  obtain ⟨found, hfound⟩ :=
    Option.isSome_iff_exists.1 ((isSome_match?_iff h).2 ⟨start, hstart, hbegins⟩)
  obtain ⟨other, hother, hotherbegins, hothermost, rfl⟩ :=
    exists_longest_of_match?_eq_some h hlongest hfound
  have hlength : other.length = start.length :=
    Nat.le_antisymm (hmost other hother hotherbegins) (hothermost start hstart hbegins)
  rw [hfound, hlength]

end Pattern

end ScriptForms
