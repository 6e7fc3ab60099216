import ScriptForms.Regex.Match

/-!
# Matches without a choice

Matching hands every place where a match may end to a continuation. `Takes r text rest` says that
there is just one such place if `text` is followed by `rest`, the one behind `text`; `Fails r text`
says that there is none. Both hold for every continuation, so they compose along the structure of an
expression without any backtracking, and a loop of this kind does its rounds one by one
(`Takes.loop_seq`).
-/

namespace ScriptForms

namespace Regex

namespace Place

/-- Behind a text that was taken, the rest is left. -/
theorem rest_advance {place : Place} {text rest : List Char} (h : place.rest = text ++ rest) :
    (place.advance text.length).rest = rest := by
  rw [advance, h, List.drop_left]

theorem advance_advance (place : Place) (first second : Nat) :
    (place.advance first).advance second = place.advance (first + second) := by
  simp [advance, Nat.add_assoc, List.take_add, List.getLast?_append, Option.or_assoc]

theorem advance_zero (place : Place) : place.advance 0 = place := by
  simp [advance]

end Place

/-- The only match of `r` at a place where `text` is followed by `rest` ends behind `text`. -/
def Takes (r : Regex) (text rest : List Char) : Prop :=
  ∀ (α : Type) (k : Place → Option α) (place : Place), place.rest = text ++ rest →
    run r k place = k (place.advance text.length)

/-- There is no match of `r` at a place where `text` follows. -/
def Fails (r : Regex) (text : List Char) : Prop :=
  ∀ (α : Type) (k : Place → Option α) (place : Place), place.rest = text → run r k place = none

theorem orTry_none {α : Type} (first : Option α) : orTry first (fun _ ↦ none) = first := by
  cases first <;> rfl

variable {first second body next : Regex} {text rest : List Char}

/-! ### Characters -/

theorem takes_chars {set : CharSet} {c : Char} (h : set.contains c = true) (rest : List Char) :
    Takes (chars set) [c] rest := by
  intro α k place hrest
  have hplace : place.rest = c :: rest := hrest
  rw [run, hplace]
  exact if_pos h

theorem fails_chars {set : CharSet} {c : Char} (h : set.contains c = false) (rest : List Char) :
    Fails (chars set) (c :: rest) := by
  intro α k place hrest
  rw [run, hrest]
  exact if_neg (by rw [h]; decide)

theorem contains_span_self (c d : Char) : (CharRange.span c c).contains d = decide (d = c) := by
  rw [CharRange.contains, Bool.eq_iff_iff, Bool.and_eq_true, decide_eq_true_iff, decide_eq_true_iff,
    decide_eq_true_iff]
  exact ⟨fun h ↦ Char.le_antisymm h.2 h.1, fun h ↦ h ▸ ⟨Char.le_refl _, Char.le_refl _⟩⟩

theorem takes_char (c : Char) (rest : List Char) : Takes (char c) [c] rest :=
  takes_chars (by simp [CharSet.contains, contains_span_self]) rest

theorem fails_char {c d : Char} (h : d ≠ c) (rest : List Char) : Fails (char c) (d :: rest) :=
  fails_chars (by simp [CharSet.contains, contains_span_self, h]) rest

/-! ### Sequences and alternatives -/

theorem Takes.seq {after : List Char} (hfirst : Takes first text (after ++ rest))
    (hsecond : Takes second after rest) : Takes (seq first second) (text ++ after) rest := by
  intro α k place hrest
  rw [List.append_assoc] at hrest
  rw [run, hfirst _ _ place hrest, hsecond _ _ _ (Place.rest_advance hrest), Place.advance_advance,
    List.length_append]

theorem Fails.seq (hfirst : Fails first text) (second : Regex) : Fails (seq first second) text := by
  intro α k place hrest
  rw [run, hfirst _ _ place hrest]

theorem Takes.alt_left (hfirst : Takes first text rest) (hsecond : Fails second (text ++ rest)) :
    Takes (alt first second) text rest := by
  intro α k place hrest
  rw [run, hfirst _ k place hrest, hsecond _ k place hrest, orTry_none]

theorem Takes.alt_right (hfirst : Fails first (text ++ rest)) (hsecond : Takes second text rest) :
    Takes (alt first second) text rest := by
  intro α k place hrest
  rw [run, hfirst _ k place hrest]
  exact hsecond _ k place hrest

theorem Fails.alt (hfirst : Fails first text) (hsecond : Fails second text) :
    Fails (alt first second) text := by
  intro α k place hrest
  rw [run, hfirst _ k place hrest]
  exact hsecond _ k place hrest

/-! ### Loops -/

/-- `unit` is one round of `body` and nothing else, and no match of `next` starts there. -/
structure IsRound (body next : Regex) (unit : List Char) : Prop where
  ne_nil : unit ≠ []
  takes : ∀ rest, Takes body unit rest
  fails : ∀ rest, Fails next (unit ++ rest)

/-- A greedy loop goes through the rounds one by one. The offset grows in each of them, so the rule
for empty rounds never ends the loop. -/
theorem greedyRounds_eq {α : Type} {k : Place → Option α} {units : List (List Char)}
    (hunits : ∀ unit ∈ units, IsRound body next unit) (hend : Fails body rest) {fuel : Nat}
    (hfuel : units.length < fuel) {last : Option Nat} {place : Place}
    (hlast : last ≠ some place.offset) (hrest : place.rest = units.flatten ++ rest) :
    greedyRounds (run body) (run next k) fuel none last place =
      run next k (place.advance units.flatten.length) := by
  induction units generalizing fuel last place with
  | nil =>
    obtain ⟨fuel, rfl⟩ := Nat.exists_eq_succ_of_ne_zero (Nat.ne_zero_of_lt hfuel)
    have hgoes : loopEnds none last place = false := by simp [loopEnds, hlast]
    rw [greedyRounds, hgoes, hend _ _ place hrest]
    simp [orTry, Place.advance_zero]
  | cons unit units ih =>
    obtain ⟨fuel, rfl⟩ := Nat.exists_eq_succ_of_ne_zero (Nat.ne_zero_of_lt hfuel)
    have hround := hunits unit List.mem_cons_self
    have hpositive : 0 < unit.length := List.length_pos_iff.2 hround.ne_nil
    have hgoes : loopEnds none last place = false := by simp [loopEnds, hlast]
    rw [List.flatten_cons, List.append_assoc] at hrest
    have hnext : (place.advance unit.length).rest = units.flatten ++ rest :=
      Place.rest_advance hrest
    have hgrows : some place.offset ≠ some (place.advance unit.length).offset := by
      simp only [Place.advance, ne_eq, Option.some.injEq]
      omega
    have hrounds := ih (fun unit hunit ↦ hunits unit (List.mem_cons_of_mem _ hunit))
      (Nat.lt_of_succ_lt_succ hfuel) hgrows hnext
    rw [greedyRounds, hgoes, if_neg (by decide), hround.takes _ _ _ place hrest,
      Option.map_none, hrounds,
      hround.fails _ _ _ place hrest, Place.advance_advance, List.flatten_cons, List.length_append,
      orTry_none]

/-- There are at most as many rounds as characters, so the fuel of a loop lasts. -/
theorem length_le_length_flatten {units : List (List Char)} (h : ∀ unit ∈ units, unit ≠ []) :
    units.length ≤ units.flatten.length := by
  induction units with
  | nil => exact Nat.le_refl _
  | cons unit units ih =>
    have hunit : 0 < unit.length := List.length_pos_iff.2 (h unit List.mem_cons_self)
    have hrest := ih fun unit hmem ↦ h unit (List.mem_cons_of_mem _ hmem)
    rw [List.flatten_cons, List.length_append, List.length_cons]
    omega

/-- A greedy loop takes its rounds up to the place where `next` can go on. -/
theorem Takes.loop_seq {units : List (List Char)} {after : List Char}
    (hunits : ∀ unit ∈ units, IsRound body next unit) (hend : Fails body (after ++ rest))
    (hnext : Takes next after rest) :
    Takes (.seq (.loop .greedy 0 none body) next) (units.flatten ++ after) rest := by
  intro α k place hrest
  rw [List.append_assoc] at hrest
  have hfuel : units.length < place.rest.length + 1 := by
    have hle := length_le_length_flatten fun unit hunit ↦ (hunits unit hunit).ne_nil
    rw [hrest, List.length_append]
    omega
  rw [run, run, rounds, Option.map_none,
    greedyRounds_eq hunits hend hfuel (by simp) hrest,
    hnext _ k _ (Place.rest_advance hrest), Place.advance_advance, List.length_append]

end Regex

end ScriptForms
