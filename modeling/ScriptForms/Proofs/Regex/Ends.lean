import ScriptForms.Proofs.Regex.Takes

/-!
# The ends of matches

Matching tries the places where a match may end one after the other until its continuation accepts
one. `ends r place` lists these places, the preferred one first, without a continuation: a sequence
goes on from each end of its first part, alternatives are listed one behind the other, and a loop
lists what its next round leads to before or behind the place where it stops.

Running an expression is a search through this list (`run_eq_findSome?`), for expressions of every
kind. So the preferred match ends at its head (`matchAt_eq_head?`), and there is a match of the
whole text if one of its places is the end of the text (`isSome_fullMatchAt_iff`).
-/

namespace ScriptForms

namespace Regex

/-! ### Rounds -/

/-- The places behind exactly `count` rounds. -/
def roundEnds (step : Place → List Place) : Nat → Place → List Place
  | 0, place => [place]
  | count + 1, place => (step place).flatMap (roundEnds step count)

/-- The places behind more rounds, those of most rounds first. -/
def greedyEnds (step : Place → List Place) : Nat → Option Nat → Option Nat → Place → List Place
  | 0, _, _, place => [place]
  | fuel + 1, bound, last, place =>
    if loopEnds bound last place then [place]
    else
      (step place).flatMap (greedyEnds step fuel (bound.map (· - 1)) (some place.offset)) ++ [place]

/-- The places behind more rounds, those of fewest rounds first. -/
def reluctantEnds (step : Place → List Place) : Nat → Option Nat → Option Nat → Place → List Place
  | 0, _, _, place => [place]
  | fuel + 1, bound, last, place =>
    place ::
      if loopEnds bound last place then []
      else (step place).flatMap (reluctantEnds step fuel (bound.map (· - 1)) (some place.offset))

/-- The places where a match may end, the preferred one first. -/
def ends : Regex → Place → List Place
  | empty, place => [place]
  | chars set, place =>
    match place.rest with
    | c :: _ => if set.contains c then [place.advance 1] else []
    | [] => []
  | atStart, place => if place.offset = 0 then [place] else []
  | atEnd, place => if place.rest = [] ∨ place.rest = ['\n'] then [place] else []
  | atVeryEnd, place => if place.rest = [] then [place] else []
  | wordEdge false, place => if place.isWordEdge then [place] else []
  | wordEdge true, place => if place.isWordEdge || place.inEmptyText then [] else [place]
  | seq first second, place => (ends first place).flatMap (ends second)
  | alt first second, place => ends first place ++ ends second place
  | loop .greedy min max body, place =>
    (roundEnds (ends body) min place).flatMap fun place ↦
      greedyEnds (ends body) (place.rest.length + 1) (max.map (· - min)) none place
  | loop .reluctant min max body, place =>
    (roundEnds (ends body) min place).flatMap fun place ↦
      reluctantEnds (ends body) (place.rest.length + 1) (max.map (· - min)) none place
  | loop .possessive min max body, place =>
    match rounds (fun k place ↦ (ends body place).head?.bind k) min some place with
    | some place =>
      [possessiveRounds (fun place ↦ (ends body place).head?) (place.rest.length + 1)
        (max.map (· - min)) none place]
    | none => []
  | capture index body, place => (ends body place).map (place.capture · index)
  | backReference index, place =>
    match place.captures.lookup index with
    | some text => if text.isPrefixOf place.rest then [place.advance text.length] else []
    | none => []
  | lookahead false body, place =>
    match (ends body place).head? with
    | some found => [{ place with captures := found.captures }]
    | none => []
  | lookahead true body, place =>
    match (ends body place).head? with
    | some _ => []
    | none => [place]

/-! ### Running is searching -/

section Search

variable {α : Type}

theorem orTry_eq_or (first second : Option α) : orTry first (fun _ ↦ second) = first.or second := by
  cases first <;> rfl

theorem findSome?_singleton (k : Place → Option α) (place : Place) :
    [place].findSome? k = k place := by
  rw [List.findSome?_cons]
  cases k place <;> rfl

theorem findSome?_flatMap (k : Place → Option α) (next : Place → List Place) (places : List Place) :
    (places.flatMap next).findSome? k = places.findSome? fun place ↦ (next place).findSome? k := by
  induction places with
  | nil => rfl
  | cons place places ih =>
    rw [List.flatMap_cons, List.findSome?_append, ih, List.findSome?_cons]
    cases (next place).findSome? k <;> rfl

theorem findSome?_some (places : List Place) : places.findSome? some = places.head? := by
  cases places <;> rfl

theorem findSome?_ite {p : Prop} [Decidable p] (k : Place → Option α) (place : Place) :
    (if p then [place] else []).findSome? k = if p then k place else none := by
  split
  · exact findSome?_singleton k place
  · rfl

variable {step : (Place → Option α) → Place → Option α} {list : Place → List Place}

/-- A fixed number of rounds, by induction on the number. -/
theorem rounds_eq_findSome? (hstep : ∀ k place, step k place = (list place).findSome? k)
    (count : Nat)
    (k : Place → Option α) (place : Place) :
    rounds step count k place = (roundEnds list count place).findSome? k := by
  induction count generalizing place with
  | zero => exact (findSome?_singleton k place).symm
  | succ count ih =>
    have hrest : rounds step count k = fun place ↦
      (roundEnds list count place).findSome? k := funext ih
    rw [rounds, roundEnds, hstep, hrest, findSome?_flatMap]

/-- Greedy rounds, by induction on the fuel: going on is tried before stopping. -/
theorem greedyRounds_eq_findSome? (hstep : ∀ k place, step k place = (list place).findSome? k)
    (k : Place → Option α) (fuel : Nat) (bound last : Option Nat) (place : Place) :
    greedyRounds step k fuel bound last place =
      (greedyEnds list fuel bound last place).findSome? k := by
  induction fuel generalizing bound last place with
  | zero => exact (findSome?_singleton k place).symm
  | succ fuel ih =>
    have hrest : greedyRounds step k fuel (bound.map (· - 1)) (some place.offset) =
        fun next ↦
          (greedyEnds list fuel (bound.map (· - 1)) (some place.offset) next).findSome? k :=
      funext fun next ↦ ih _ _ next
    rw [greedyRounds, greedyEnds, hrest]
    split
    · exact (findSome?_singleton k place).symm
    · rw [hstep, orTry_eq_or, List.findSome?_append, findSome?_flatMap, findSome?_singleton]

/-- Reluctant rounds, by induction on the fuel: stopping is tried before going on. -/
theorem reluctantRounds_eq_findSome? (hstep : ∀ k place, step k place = (list place).findSome? k)
    (k : Place → Option α) (fuel : Nat) (bound last : Option Nat) (place : Place) :
    reluctantRounds step k fuel bound last place =
      (reluctantEnds list fuel bound last place).findSome? k := by
  induction fuel generalizing bound last place with
  | zero => exact (findSome?_singleton k place).symm
  | succ fuel ih =>
    have hrest : reluctantRounds step k fuel (bound.map (· - 1)) (some place.offset) =
        fun next ↦
          (reluctantEnds list fuel (bound.map (· - 1)) (some place.offset) next).findSome? k :=
      funext fun next ↦ ih _ _ next
    rw [reluctantRounds, reluctantEnds, hrest, orTry_eq_or, ← List.singleton_append,
      List.findSome?_append, findSome?_singleton]
    split
    · rfl
    · rw [hstep, findSome?_flatMap]

/-- Running an expression is searching the ends of its matches for one that the continuation
accepts. -/
theorem run_eq_findSome? (r : Regex) (k : Place → Option α) (place : Place) :
    run r k place = (ends r place).findSome? k := by
  induction r generalizing α place with
  | empty => exact (findSome?_singleton k place).symm
  | chars set =>
    rw [run, ends]
    cases place.rest with
    | nil => rfl
    | cons c rest => exact (findSome?_ite k (place.advance 1)).symm
  | atStart => exact (findSome?_ite k place).symm
  | atEnd => exact (findSome?_ite k place).symm
  | atVeryEnd => exact (findSome?_ite k place).symm
  | wordEdge negated =>
    cases negated with
    | false => exact (findSome?_ite k place).symm
    | true =>
      rw [run, ends]
      split
      · rfl
      · exact (findSome?_singleton k place).symm
  | seq first second ihfirst ihsecond =>
    have hsecond : run second k = fun place ↦ (ends second place).findSome? k := funext (ihsecond k)
    rw [run, ends, ihfirst, hsecond, findSome?_flatMap]
  | alt first second ihfirst ihsecond =>
    rw [run, ends, ihfirst, ihsecond, orTry_eq_or, List.findSome?_append]
  | loop greed min max body ih =>
    cases greed with
    | greedy =>
      rw [run, ends, rounds_eq_findSome? ih, findSome?_flatMap]
      simp only [greedyRounds_eq_findSome? ih]
    | reluctant =>
      rw [run, ends, rounds_eq_findSome? ih, findSome?_flatMap]
      simp only [reluctantRounds_eq_findSome? ih]
    | possessive =>
      have hbody : run body some = fun place ↦ (ends body place).head? := by
        funext place
        rw [ih, findSome?_some]
      rw [run, ends, hbody]
      cases rounds (fun k place ↦ (ends body place).head?.bind k) min some place with
      | none => rfl
      | some place => exact (findSome?_singleton k _).symm
  | capture index body ih => rw [run, ends, ih, List.findSome?_map]; rfl
  | backReference index =>
    rw [run, ends]
    cases place.captures.lookup index with
    | none => rfl
    | some text => exact (findSome?_ite k (place.advance text.length)).symm
  | lookahead negated body ih =>
    have hbody : run body some place = (ends body place).head? := by rw [ih, findSome?_some]
    cases negated with
    | false =>
      rw [run, ends, hbody]
      cases (ends body place).head? with
      | none => rfl
      | some found => exact (findSome?_singleton k _).symm
    | true =>
      rw [run, ends, hbody]
      cases (ends body place).head? with
      | none => exact (findSome?_singleton k place).symm
      | some found => rfl

end Search

/-- The preferred match ends at the first of the ends. -/
theorem matchAt_eq_head? (r : Regex) (place : Place) : r.matchAt place = (ends r place).head? := by
  rw [matchAt, run_eq_findSome?, findSome?_some]

/-- The whole text is matched if one of the ends is the end of the text. -/
theorem isSome_fullMatchAt_iff {r : Regex} {place : Place} :
    (r.fullMatchAt place).isSome = true ↔ ∃ stop ∈ ends r place, stop.rest = [] := by
  rw [fullMatchAt, run_eq_findSome?, List.findSome?_isSome_iff]
  simp

/-! ### Members -/

variable {first second body next : Regex} {place stop : Place}

theorem mem_ends_chars {set : CharSet} :
    stop ∈ ends (chars set) place ↔
      ∃ c rest, place.rest = c :: rest ∧ set.contains c = true ∧ stop = place.advance 1 := by
  rcases h : place.rest with - | ⟨c, rest⟩
  · simp [ends, h]
  · by_cases hc : set.contains c = true <;> simp [ends, h, hc]

theorem mem_ends_atStart : stop ∈ ends atStart place ↔ place.offset = 0 ∧ stop = place := by
  by_cases h : place.offset = 0 <;> simp [ends, h]

/-- The end of a text is also before a last line feed. -/
theorem mem_ends_atEnd :
    stop ∈ ends atEnd place ↔ (place.rest = [] ∨ place.rest = ['\n']) ∧ stop = place := by
  by_cases h : place.rest = [] ∨ place.rest = ['\n'] <;> simp [ends, h]

theorem mem_ends_seq :
    stop ∈ ends (seq first second) place ↔ ∃ middle ∈ ends first place, stop ∈ ends second middle :=
  List.mem_flatMap

theorem mem_ends_alt :
    stop ∈ ends (alt first second) place ↔ stop ∈ ends first place ∨ stop ∈ ends second place :=
  List.mem_append

/-- An optional part lists its own ends before the place where it is left out. -/
theorem ends_optional (body : Regex) (place : Place) :
    ends (loop .greedy 0 (some 1) body) place = ends body place ++ [place] := by
  have hstop (fuel : Nat) (last : Option Nat) :
      greedyEnds (ends body) fuel (some 0) last = fun place ↦ [place] := by
    funext place
    cases fuel <;> rfl
  have hround : greedyEnds (ends body) (place.rest.length + 1) (some 1) none place =
      (ends body place).flatMap
        (greedyEnds (ends body) place.rest.length (some 0) (some place.offset)) ++ [place] := rfl
  rw [ends, roundEnds, List.flatMap_singleton]
  exact hround.trans (by rw [hstop, List.flatMap_singleton'])

end Regex

end ScriptForms
