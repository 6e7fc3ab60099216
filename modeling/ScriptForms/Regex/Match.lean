import ScriptForms.Regex.Basic

/-!
# Matching

Matching with backtracking, in order of preference. `Regex.run r k p` matches `r` at the place `p`
and hands each place where a match may end to the continuation `k`, the preferred one first, until
`k` accepts one.

A repetition first does its least number of rounds. It then tries one more round as long as the
bound allows it and the last such round was not empty: a round that consumes nothing is done at most
once. The rounds beyond the least are bounded by the characters left plus one, so the fuel of the
loops never runs out before the rule above ends them.
-/

namespace ScriptForms

namespace Regex

/-- A place in a text, with what has been captured on the way to it. -/
structure Place where
  /-- How many characters stand before the place. -/
  offset : Nat
  /-- The character right before the place. -/
  previous : Option Char
  /-- The characters from the place on. -/
  rest : List Char
  /-- The captured texts, the latest first. -/
  captures : List (Nat × List Char)
  deriving DecidableEq, Repr

namespace Place

/-- The place `count` characters on. -/
def advance (place : Place) (count : Nat) : Place :=
  ⟨place.offset + count, (place.rest.take count).getLast?.or place.previous, place.rest.drop count,
    place.captures⟩

/-- The place `stop` with the text from `start` to it captured under `index`. -/
def capture (start stop : Place) (index : Nat) : Place :=
  { stop with
    captures := (index, start.rest.take (stop.offset - start.offset)) :: stop.captures }

/-- Whether a word starts or ends at the place. -/
def isWordEdge (place : Place) : Bool :=
  place.previous.any Text.isWordChar != place.rest.head?.any Text.isWordChar

/-- Whether the place lies in a text without characters. -/
def inEmptyText (place : Place) : Bool :=
  place.previous.isNone && place.rest.isEmpty

end Place

variable {α : Type}

/-- Tries `first`, and `second` if it fails. -/
@[inline]
def orTry (first : Option α) (second : Unit → Option α) : Option α :=
  match first with
  | some result => some result
  | none => second ()

/-- Exactly `count` rounds of `step`. -/
def rounds (step : (Place → Option α) → Place → Option α) :
    Nat → (Place → Option α) → Place → Option α
  | 0, k, place => k place
  | count + 1, k, place => step (rounds step count k) place

/-- Whether no further round may be tried at `place`: the bound is reached, or the last round
started here and consumed nothing. -/
def loopEnds (bound last : Option Nat) (place : Place) : Bool :=
  bound == some 0 || last == some place.offset

/-- More rounds as long as possible, then `k`. -/
def greedyRounds (step : (Place → Option α) → Place → Option α) (k : Place → Option α) :
    Nat → Option Nat → Option Nat → Place → Option α
  | 0, _, _, place => k place
  | fuel + 1, bound, last, place =>
    if loopEnds bound last place then k place
    else
      orTry (step (greedyRounds step k fuel (bound.map (· - 1)) (some place.offset)) place)
        fun _ ↦ k place

/-- `k` at once, then after one more round, and so on. -/
def reluctantRounds (step : (Place → Option α) → Place → Option α) (k : Place → Option α) :
    Nat → Option Nat → Option Nat → Place → Option α
  | 0, _, _, place => k place
  | fuel + 1, bound, last, place =>
    orTry (k place) fun _ ↦
      if loopEnds bound last place then none
      else step (reluctantRounds step k fuel (bound.map (· - 1)) (some place.offset)) place

/-- The place after as many rounds as possible, each of which is matched in the preferred way. -/
def possessiveRounds (step : Place → Option Place) :
    Nat → Option Nat → Option Nat → Place → Place
  | 0, _, _, place => place
  | fuel + 1, bound, last, place =>
    if loopEnds bound last place then place
    else
      match step place with
      | some next => possessiveRounds step fuel (bound.map (· - 1)) (some place.offset) next
      | none => place

/-- Matches at a place and hands the places where the match may end to `k`, until it accepts one. -/
def run {α : Type} : Regex → (Place → Option α) → Place → Option α
  | empty, k, place => k place
  | chars set, k, place =>
    match place.rest with
    | c :: _ => if set.contains c then k (place.advance 1) else none
    | [] => none
  | atStart, k, place => if place.offset = 0 then k place else none
  | atEnd, k, place => if place.rest = [] ∨ place.rest = ['\n'] then k place else none
  | atVeryEnd, k, place => if place.rest = [] then k place else none
  | wordEdge false, k, place => if place.isWordEdge then k place else none
  | wordEdge true, k, place => if place.isWordEdge || place.inEmptyText then none else k place
  | seq first second, k, place => run first (run second k) place
  | alt first second, k, place => orTry (run first k place) fun _ ↦ run second k place
  | loop .greedy min max body, k, place =>
    rounds (run body) min
      (fun place ↦
        greedyRounds (run body) k (place.rest.length + 1) (max.map (· - min)) none place)
      place
  | loop .reluctant min max body, k, place =>
    rounds (run body) min
      (fun place ↦
        reluctantRounds (run body) k (place.rest.length + 1) (max.map (· - min)) none place)
      place
  | loop .possessive min max body, k, place =>
    match rounds (fun k place ↦ (run body some place).bind k) min some place with
    | some place =>
      k (possessiveRounds (run body some) (place.rest.length + 1) (max.map (· - min)) none place)
    | none => none
  | capture index body, k, place => run body (fun stop ↦ k (place.capture stop index)) place
  | backReference index, k, place =>
    match place.captures.lookup index with
    | some text => if text.isPrefixOf place.rest then k (place.advance text.length) else none
    | none => none
  | lookahead false body, k, place =>
    match run body some place with
    | some found => k { place with captures := found.captures }
    | none => none
  | lookahead true body, k, place =>
    match run body some place with
    | some _ => none
    | none => k place

/-- The end of the preferred match at a place. -/
def matchAt (r : Regex) (place : Place) : Option Place :=
  run r some place

/-- The end of the preferred match at a place that goes on to the end of the text. -/
def fullMatchAt (r : Regex) (place : Place) : Option Place :=
  run r (fun stop ↦ if stop.rest = [] then some stop else none) place

/-- The leftmost match in `rest`, which stands after `offset` characters, the last of which is
`previous`: where it starts, and its end. -/
def searchFrom (r : Regex) : Nat → Option Char → List Char → Option (Nat × Place)
  | offset, previous, [] => (r.matchAt ⟨offset, previous, [], []⟩).map (offset, ·)
  | offset, previous, c :: rest =>
    orTry ((r.matchAt ⟨offset, previous, c :: rest, []⟩).map (offset, ·)) fun _ ↦
      searchFrom r (offset + 1) (some c) rest

end Regex

end ScriptForms
