import ScriptForms.Proofs.Lexicon.Symbols

/-!
# Keys of function definitions

The key of a function definition is written `defn name(params)`, or `defn name` without parameters,
and may end its line. Reading gives back the name and the parameters of every such key, and takes no
other line (`functionKey?_eq_some_iff`).

Reading is followed through the expression from left to right. The parameters are read as far as the
line goes, then back to the last parenthesis. That no other choice could have been made is a matter
of the written form alone: a line is written in one way only (`eq_of_isLineOf`).
-/

open scoped Computability

namespace ScriptForms

namespace Lexicon

open Regex Pattern

/-! ### Written keys -/

/-- The parameters in parentheses, or nothing. -/
def parameterText : Option (List Char) → List Char
  | some params => '(' :: (params ++ [')'])
  | none => []

/-- How the key of a function definition is written. -/
def writtenKey (name : List Char) (params : Option (List Char)) : List Char :=
  ['d', 'e', 'f', 'n', ' '] ++ (name ++ parameterText params)

/-- Whether a line holds just the given text, with a line feed at its end or without. -/
def IsLineOf (text line : List Char) : Prop :=
  line = text ∨ line = text ++ ['\n']

/-- Whether a key can be written: its name is a symbol, and its parameters are on one line. -/
def IsKey (name : List Char) (params : Option (List Char)) : Prop :=
  name ∈ symbols ∧ ∀ text ∈ params, '\n' ∉ text

/-- A line may have a line feed at its end. -/
theorem isLineOf_iff {text line : List Char} :
    IsLineOf text line ↔ ∃ rest, (rest = [] ∨ rest = ['\n']) ∧ line = text ++ rest := by
  simp [IsLineOf]

/-- No character of a symbol stands behind the name. -/
theorem takeWhile_parameterText (params : Option (List Char)) {rest : List Char}
    (hrest : rest = [] ∨ rest = ['\n']) :
    (parameterText params ++ rest).takeWhile isSymbolChar = [] := by
  cases params with
  | none => rcases hrest with rfl | rfl <;> rfl
  | some params => rfl

/-- The name is the run of symbol characters that the rest of the line starts with. -/
theorem takeWhile_name {name : List Char} (hname : name ∈ symbols) (params : Option (List Char))
    {rest : List Char} (hrest : rest = [] ∨ rest = ['\n']) :
    (name ++ (parameterText params ++ rest)).takeWhile isSymbolChar = name := by
  rw [List.takeWhile_append_of_pos (isSymbolChar_of_mem_symbols hname),
    takeWhile_parameterText params hrest, List.append_nil]

/-- The parameters can be read off the end of a line, whatever is in them. -/
theorem parameterText_append_inj {params others : Option (List Char)} {rest last : List Char}
    (hrest : rest = [] ∨ rest = ['\n']) (hlast : last = [] ∨ last = ['\n'])
    (h : parameterText params ++ rest = parameterText others ++ last) : params = others := by
  cases params with
  | none =>
    cases others with
    | none => rfl
    | some others => rcases hrest with rfl | rfl <;> simp [parameterText] at h
  | some params =>
    cases others with
    | none => rcases hlast with rfl | rfl <;> simp [parameterText] at h
    | some others =>
      have htexts : params ++ [')'] ++ rest = others ++ [')'] ++ last := by
        simpa [parameterText] using h
      have hends : rest = last := by
        have hlasts := congrArg List.getLast? htexts
        rcases hrest with rfl | rfl <;> rcases hlast with rfl | rfl <;> simp at hlasts ⊢
      rw [hends] at htexts
      rw [List.append_cancel_right (List.append_cancel_right htexts)]

/-- A line is written in one way. -/
theorem eq_of_isLineOf {line name other : List Char} {params others : Option (List Char)}
    (hname : name ∈ symbols) (hother : other ∈ symbols) (h : IsLineOf (writtenKey name params) line)
    (hagain : IsLineOf (writtenKey other others) line) : name = other ∧ params = others := by
  obtain ⟨rest, hrest, rfl⟩ := isLineOf_iff.1 h
  obtain ⟨last, hlast, hsame⟩ := isLineOf_iff.1 hagain
  have htexts : name ++ (parameterText params ++ rest) =
      other ++ (parameterText others ++ last) := by
    simpa [writtenKey] using hsame
  have hnames : name = other := by
    rw [← takeWhile_name hname params hrest, htexts, takeWhile_name hother others hlast]
  subst hnames
  exact ⟨rfl, parameterText_append_inj hrest hlast (List.append_cancel_left htexts)⟩

/-! ### Reading from left to right -/

/-- A literal is taken character by character. -/
theorem mem_ends_literal_iff {text : List Char} {next : Regex} {place stop : Place} :
    stop ∈ ends (literal text next) place ↔
      text <+: place.rest ∧ stop ∈ ends next (place.advance text.length) := by
  induction text generalizing place with
  | nil => simp [literal, Place.advance_zero]
  | cons c text ih =>
    have hliteral : literal (c :: text) next = .seq (.char c) (literal text next) := rfl
    have hadvance : (place.advance [c].length).advance text.length =
        place.advance (c :: text).length := by
      rw [Place.advance_advance, ← List.length_append, List.singleton_append]
    rw [hliteral, mem_ends_seq]
    constructor
    · rintro ⟨middle, hmiddle, hstop⟩
      obtain ⟨_, rfl, hc, rfl⟩ := (recognizes_char c place middle).1 hmiddle
      obtain ⟨htext, hstop⟩ := ih.1 hstop
      exact ⟨(Place.prefix_rest_advance_iff hc).1 htext, hadvance ▸ hstop⟩
    · rintro ⟨htext, hstop⟩
      have hc : [c] <+: place.rest := (List.prefix_append [c] text).trans htext
      exact ⟨_, (recognizes_char c place _).2 ⟨[c], rfl, hc, rfl⟩,
        ih.2 ⟨(Place.prefix_rest_advance_iff hc).2 htext, hadvance.symm ▸ hstop⟩⟩

/-- The point takes anything up to a line feed. -/
theorem recognizes_line : Recognizes (.loop .greedy 0 none .anyChar) {text | '\n' ∉ text} := by
  have hlanguage : runs ⟨true, [.span '\n' '\n']⟩ 0 = ({text | '\n' ∉ text} : Language Char) := by
    ext text
    have hchar (c : Char) : CharSet.contains ⟨true, [.span '\n' '\n']⟩ c = true ↔ c ≠ '\n' := by
      simp [CharSet.contains, contains_span_self]
    simp only [mem_runs_iff, Nat.zero_le, true_and, hchar]
    exact ⟨fun h hmem ↦ h _ hmem rfl, fun h c hc hsame ↦ h (hsame ▸ hc)⟩
  exact hlanguage ▸ recognizes_loop_chars _ 0

/-- Parameters end at any closing parenthesis in their line, and are captured without the
parentheses. -/
theorem mem_ends_parameters_iff {place stop : Place} :
    stop ∈ ends parameters place ↔
      ∃ params, '\n' ∉ params ∧ parameterText (some params) <+: place.rest ∧
        stop = (place.advance (parameterText (some params)).length).record 2 params := by
  have hadvance (params : List Char) :
      (((place.advance ['('].length).advance params.length).record 2 params).advance [')'].length =
        (place.advance (parameterText (some params)).length).record 2 params := by
    have hlength : parameterText (some params) = ['('] ++ params ++ [')'] := rfl
    rw [hlength, List.length_append, List.length_append, ← Place.advance_advance,
      ← Place.advance_advance]
    rfl
  have hparameters : parameters =
      literal ['('] (.seq (.capture 2 (.loop .greedy 0 none .anyChar)) (.char ')')) := rfl
  rw [hparameters, mem_ends_literal_iff, mem_ends_capture_seq_iff recognizes_line]
  constructor
  · rintro ⟨hopen, params, hparams, hfollows, hstop⟩
    obtain ⟨_, rfl, hclose, rfl⟩ := (recognizes_char ')' _ stop).1 hstop
    have hinside := (Place.prefix_rest_advance_iff hfollows).1 hclose
    exact ⟨params, hparams, (Place.prefix_rest_advance_iff hopen).1 hinside, hadvance params⟩
  · rintro ⟨params, hparams, hfollows, rfl⟩
    have hopen : ['('] <+: place.rest := (List.prefix_append ['('] (params ++ [')'])).trans hfollows
    have hinside := (Place.prefix_rest_advance_iff hopen).2 hfollows
    have hbegins := (List.prefix_append params [')']).trans hinside
    refine ⟨hopen, params, hparams, hbegins, (recognizes_char ')' _ _).2 ⟨[')'], rfl, ?_, ?_⟩⟩
    · exact (Place.prefix_rest_advance_iff hbegins).2 hinside
    · exact (hadvance params).symm

/-- The place with the parameters captured, if there are any. -/
def recordParameters (place : Place) : Option (List Char) → Place
  | some params => place.record 2 params
  | none => place

/-- Reading takes the parameters in parentheses, or nothing. -/
theorem mem_ends_optional_parameters_iff {place stop : Place} :
    stop ∈ ends (.loop .greedy 0 (some 1) parameters) place ↔
      ∃ params : Option (List Char), (∀ text ∈ params, '\n' ∉ text) ∧
        parameterText params <+: place.rest ∧
        stop = recordParameters (place.advance (parameterText params).length) params := by
  rw [ends_optional, List.mem_append, List.mem_singleton, mem_ends_parameters_iff]
  constructor
  · rintro (⟨params, hparams, hfollows, rfl⟩ | rfl)
    · exact ⟨some params, fun text htext ↦ Option.some.inj htext ▸ hparams, hfollows, rfl⟩
    · exact ⟨none, fun text htext ↦ absurd htext (by simp), List.nil_prefix,
        (Place.advance_zero stop).symm⟩
  · rintro ⟨params, hparams, hfollows, rfl⟩
    cases params with
    | none => exact .inr (Place.advance_zero place)
    | some params => exact .inl ⟨params, hparams params rfl, hfollows, rfl⟩

/-- The place behind a key at the beginning of a line. -/
def keyEnd (line name : List Char) (params : Option (List Char)) : Place :=
  recordParameters
    (((((beginning line).advance 5).advance name.length).record 1 name).advance
      (parameterText params).length)
    params

theorem rest_keyEnd (line name : List Char) (params : Option (List Char)) :
    (keyEnd line name params).rest = line.drop (writtenKey name params).length := by
  have hrecord (place : Place) : (recordParameters place params).rest = place.rest := by
    cases params <;> rfl
  have hlength : (writtenKey name params).length =
      5 + name.length + (parameterText params).length := by
    simp only [writtenKey, List.length_append, List.length_cons, List.length_nil]
    omega
  rw [keyEnd, hrecord, hlength, ← List.drop_drop, ← List.drop_drop]
  rfl

/-- At the end of a key, the groups hold the name and the parameters. -/
theorem lookup_captures_keyEnd (line name : List Char) (params : Option (List Char)) :
    (keyEnd line name params).captures.lookup 1 = some name ∧
      (keyEnd line name params).captures.lookup 2 = params := by
  cases params <;> exact ⟨rfl, rfl⟩

/-- The expression of keys ends behind the written keys that fill the line. -/
theorem mem_ends_functionKey_iff {line : List Char} {stop : Place} :
    stop ∈ ends functionKey (beginning line) ↔
      ∃ name params, IsKey name params ∧ IsLineOf (writtenKey name params) line ∧
        stop = keyEnd line name params := by
  rw [functionKey, mem_ends_seq]
  constructor
  · rintro ⟨_, hstart, hstop⟩
    obtain ⟨-, rfl⟩ := mem_ends_atStart.1 hstart
    obtain ⟨hdefn, hstop⟩ := mem_ends_literal_iff.1 hstop
    obtain ⟨name, hname, hfollows, hstop⟩ := (mem_ends_capture_seq_iff recognizes_symbol).1 hstop
    obtain ⟨middle, hmiddle, hstop⟩ := mem_ends_seq.1 hstop
    obtain ⟨params, hparams, hafter, rfl⟩ := mem_ends_optional_parameters_iff.1 hmiddle
    obtain ⟨hend, rfl⟩ := mem_ends_atEnd.1 hstop
    have hafter := (Place.prefix_rest_advance_iff hfollows).1 hafter
    obtain ⟨rest, rfl⟩ := (Place.prefix_rest_advance_iff hdefn).1 hafter
    have hrest : (keyEnd (writtenKey name params ++ rest) name params).rest = rest := by
      rw [rest_keyEnd, List.drop_left]
    exact ⟨name, params, ⟨hname, hparams⟩, isLineOf_iff.2 ⟨rest, hrest ▸ hend, rfl⟩, rfl⟩
  · rintro ⟨name, params, ⟨hname, hparams⟩, hline, rfl⟩
    obtain ⟨rest, hrest, rfl⟩ := isLineOf_iff.1 hline
    have hwritten : ['d', 'e', 'f', 'n', ' '] ++ (name ++ parameterText params) <+:
        (beginning (writtenKey name params ++ rest)).rest := List.prefix_append _ _
    have hdefn := (List.prefix_append ['d', 'e', 'f', 'n', ' '] _).trans hwritten
    have htail := (Place.prefix_rest_advance_iff hdefn).2 hwritten
    have hfollows := (List.prefix_append name _).trans htail
    have hafter := (Place.prefix_rest_advance_iff hfollows).2 htail
    have hend : (keyEnd (writtenKey name params ++ rest) name params).rest = rest := by
      rw [rest_keyEnd, List.drop_left]
    refine ⟨_, mem_ends_atStart.2 ⟨rfl, rfl⟩, mem_ends_literal_iff.2 ⟨hdefn, ?_⟩⟩
    refine (mem_ends_capture_seq_iff recognizes_symbol).2 ⟨name, hname, hfollows, ?_⟩
    refine mem_ends_seq.2 ⟨_, mem_ends_optional_parameters_iff.2 ⟨params, hparams, hafter, rfl⟩, ?_⟩
    exact mem_ends_atEnd.2 ⟨hend.symm ▸ hrest, rfl⟩

/-! ### What is read -/

/-- Reading a key looks up the groups at the first end of the expression. -/
theorem functionKey?_eq (line : List Char) :
    functionKey? line = (ends functionKey (beginning line)).head?.bind fun stop ↦
      (stop.captures.lookup 1).map fun name ↦ (name, stop.captures.lookup 2) := by
  have hmem : ("dfnk", functionKey, 2) ∈ tokenExpressions := by simp [tokenExpressions]
  obtain ⟨source, hget⟩ := exists_get?_of_mem_tokenExpressions hmem
  rw [functionKey?, lineMatch?, hget, Option.bind_some, match?, matchAt_eq_head?]
  cases (ends functionKey (beginning line)).head? with
  | none => rfl
  | some stop => rfl

/-- A key is found exactly in the lines of its written form. -/
theorem functionKey?_eq_some_iff {line name : List Char} {params : Option (List Char)} :
    functionKey? line = some (name, params) ↔
      IsKey name params ∧ IsLineOf (writtenKey name params) line := by
  -- whatever is read is a written form of the line
  have hread {stop : Place} (hstop : (ends functionKey (beginning line)).head? = some stop) :
      ∃ name params, IsKey name params ∧ IsLineOf (writtenKey name params) line ∧
        functionKey? line = some (name, params) := by
    obtain ⟨name, params, hkey, hline, rfl⟩ := mem_ends_functionKey_iff.1 (List.mem_of_head? hstop)
    obtain ⟨hname, hparams⟩ := lookup_captures_keyEnd line name params
    refine ⟨name, params, hkey, hline, ?_⟩
    rw [functionKey?_eq, hstop, Option.bind_some, hname, hparams, Option.map_some]
  constructor
  · intro hfound
    rcases hstop : (ends functionKey (beginning line)).head? with - | stop
    · rw [functionKey?_eq, hstop] at hfound
      cases hfound
    · obtain ⟨other, others, hkey, hline, hother⟩ := hread hstop
      cases hfound.symm.trans hother
      exact ⟨hkey, hline⟩
  · rintro ⟨hkey, hline⟩
    have hends := List.ne_nil_of_mem (mem_ends_functionKey_iff.2 ⟨name, params, hkey, hline, rfl⟩)
    obtain ⟨stop, hstop⟩ := Option.isSome_iff_exists.1 (List.isSome_head?.2 hends)
    obtain ⟨other, others, hother, hagain, hfound⟩ := hread hstop
    obtain ⟨rfl, rfl⟩ := eq_of_isLineOf hkey.1 hother.1 hline hagain
    exact hfound

/-- **Reading a key inverts writing it.** A key with parameters is read from a line just if the line
is written with that name and those parameters, and a key without parameters just if it is written
without. From every other line nothing is read. -/
theorem functionKey?_inverts_writing (line : List Char) :
    (∀ name params, functionKey? line = some (name, some params) ↔
      name ∈ symbols ∧ '\n' ∉ params ∧
        IsLineOf (['d', 'e', 'f', 'n', ' '] ++ name ++ ['('] ++ params ++ [')']) line) ∧
    (∀ name, functionKey? line = some (name, none) ↔
      name ∈ symbols ∧ IsLineOf (['d', 'e', 'f', 'n', ' '] ++ name) line) ∧
    (functionKey? line = none ↔
      ∀ name params, IsKey name params → ¬ IsLineOf (writtenKey name params) line) := by
  refine ⟨fun name params ↦ ?_, fun name ↦ ?_, ?_⟩
  · simp [functionKey?_eq_some_iff, IsKey, writtenKey, parameterText, and_assoc]
  · simp [functionKey?_eq_some_iff, IsKey, writtenKey, parameterText]
  · simp [Option.eq_none_iff_forall_ne_some, functionKey?_eq_some_iff]

end Lexicon

end ScriptForms
