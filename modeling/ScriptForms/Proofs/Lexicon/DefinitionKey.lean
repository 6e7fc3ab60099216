import ScriptForms.Proofs.Lexicon.Symbols

/-!
# Keys of definitions

The key of a definition is written `word =`: a word, one or more spaces and an equals sign, which a
line feed may follow. A `DefinitionKey` is such a line taken apart, down to the parts of the word.

A line can be taken apart in one way only (`DefinitionKey.line_injective`): the word goes on as long
as letters, digits and hyphens do, and the spaces as long as spaces do. So the choices that matching
makes on its way do not matter, and what is read from a line is the word of its only key
(`definitionKey?_eq_some_iff`).
-/

open scoped Computability

namespace ScriptForms

namespace Lexicon

open Regex Pattern

/-! ### Written keys -/

/-- The line of a definition's key, taken apart. -/
structure DefinitionKey where
  /-- What stands between the hyphens of the word. -/
  parts : List (List Char)
  parts_ne_nil : parts ≠ []
  /-- The parts are runs of ASCII letters and digits. -/
  isRun : ∀ part ∈ parts, part ≠ [] ∧ ∀ c ∈ part, c.isAlphanum = true
  /-- The number of spaces behind the word. -/
  spaces : Nat
  spaces_pos : 0 < spaces
  /-- Whether a line feed ends the line. -/
  lineFeed : Bool

namespace DefinitionKey

/-- The word that is defined. -/
def word (key : DefinitionKey) : List Char :=
  ['-'].intercalate key.parts

/-- What stands behind the equals sign. -/
def ending (key : DefinitionKey) : List Char :=
  if key.lineFeed then ['\n'] else []

/-- The key as it is written. -/
def line (key : DefinitionKey) : List Char :=
  key.word ++ (List.replicate key.spaces ' ' ++ '=' :: key.ending)

theorem word_mem_words (key : DefinitionKey) : key.word ∈ words :=
  ⟨key.parts, key.parts_ne_nil, key.isRun, rfl⟩

theorem ending_eq (key : DefinitionKey) : key.ending = [] ∨ key.ending = ['\n'] := by
  rw [ending]
  split
  · exact .inr rfl
  · exact .inl rfl

/-- Every word has a key with any spaces and any end of its line. -/
theorem exists_of_mem_words {text rest : List Char} {spaces : Nat} (htext : text ∈ words)
    (hspaces : 0 < spaces) (hrest : rest = [] ∨ rest = ['\n']) :
    ∃ key : DefinitionKey, key.word = text ∧ key.spaces = spaces ∧ key.ending = rest := by
  obtain ⟨parts, hnonempty, hparts, rfl⟩ := htext
  rcases hrest with rfl | rfl
  · exact ⟨⟨parts, hnonempty, hparts, spaces, hspaces, false⟩, rfl, rfl, rfl⟩
  · exact ⟨⟨parts, hnonempty, hparts, spaces, hspaces, true⟩, rfl, rfl, rfl⟩

/-! ### A line is taken apart in one way -/

/-- The parts of the word are found again at the hyphens. -/
theorem splitOn_word (key : DefinitionKey) : key.word.splitOn '-' = key.parts := by
  refine List.splitOn_intercalate '-' (fun part hpart hhyphen ↦ ?_) key.parts_ne_nil
  exact absurd ((key.isRun part hpart).2 '-' hhyphen) (by decide)

/-- The word is the run of symbol characters that the line starts with. -/
theorem takeWhile_line (key : DefinitionKey) : key.line.takeWhile isSymbolChar = key.word := by
  obtain ⟨spaces, hspaces⟩ := Nat.exists_eq_succ_of_ne_zero key.spaces_pos.ne'
  have hspace : isSymbolChar ' ' = false := by decide
  rw [line, List.takeWhile_append_of_pos (isSymbolChar_of_mem_words key.word_mem_words), hspaces,
    List.replicate_succ, List.cons_append, List.takeWhile_cons_of_neg (by rw [hspace]; decide),
      List.append_nil]

theorem takeWhile_space (spaces : Nat) (rest : List Char) :
    (List.replicate spaces ' ' ++ '=' :: rest).takeWhile (· == ' ') =
      List.replicate spaces ' ' := by
  have hspaces : ∀ c ∈ List.replicate spaces ' ', (c == ' ') = true := by
    intro c hc
    rw [List.eq_of_mem_replicate hc]
    decide
  rw [List.takeWhile_append_of_pos hspaces, List.takeWhile_cons_of_neg (by decide), List.append_nil]

/-- A line is the line of one key. -/
theorem line_injective : Function.Injective line := by
  intro key other h
  have hwords : key.word = other.word := by rw [← takeWhile_line key, h, takeWhile_line other]
  have hparts : key.parts = other.parts := by rw [← splitOn_word key, hwords, splitOn_word other]
  have hbehind : List.replicate key.spaces ' ' ++ '=' :: key.ending =
      List.replicate other.spaces ' ' ++ '=' :: other.ending := by
    rw [line, line, hwords] at h
    exact List.append_cancel_left h
  have hruns : List.replicate key.spaces ' ' = List.replicate other.spaces ' ' := by
    rw [← takeWhile_space key.spaces key.ending, hbehind, takeWhile_space]
  have hspaces : key.spaces = other.spaces := by simpa using congrArg List.length hruns
  have hendings : key.ending = other.ending := by
    rw [hruns] at hbehind
    exact (List.cons.inj (List.append_cancel_left hbehind)).2
  have hfeeds : key.lineFeed = other.lineFeed := by
    rw [ending, ending] at hendings
    cases hkey : key.lineFeed <;> cases hother : other.lineFeed <;> simp_all
  cases key
  cases other
  simp only [mk.injEq]
  exact ⟨hparts, hspaces, hfeeds⟩

end DefinitionKey

/-! ### Reading from left to right -/

/-- Runs of spaces are told apart by their lengths only. -/
theorem mem_runs_space_iff {text : List Char} :
    text ∈ runs ⟨false, [.span ' ' ' ']⟩ 1 ↔ ∃ spaces, 0 < spaces ∧
      text = List.replicate spaces ' ' := by
  have hset (c : Char) : CharSet.contains ⟨false, [.span ' ' ' ']⟩ c = true ↔ c = ' ' := by
    simp [CharSet.contains, contains_span_self]
  simp only [mem_runs_iff, hset]
  constructor
  · rintro ⟨hlength, hall⟩
    exact ⟨text.length, hlength, List.eq_replicate_iff.2 ⟨rfl, hall⟩⟩
  · rintro ⟨spaces, hspaces, rfl⟩
    rw [List.length_replicate]
    exact ⟨hspaces, fun c hc ↦ List.eq_of_mem_replicate hc⟩

/-- The equals sign is read where spaces lead to it and it ends the line. -/
theorem mem_ends_equalsSign_iff {place stop : Place} :
    stop ∈ ends equalsSign place ↔ ∃ spaces rest, 0 < spaces ∧ (rest = [] ∨ rest = ['\n']) ∧
      place.rest = List.replicate spaces ' ' ++ '=' :: rest ∧
        stop = place.advance (spaces + 1) := by
  have hspaces := recognizes_loop_chars ⟨false, [.span ' ' ' ']⟩ 1
  rw [equalsSign, mem_ends_seq]
  constructor
  · rintro ⟨middle, hmiddle, hstop⟩
    obtain ⟨text, htext, hfollows, rfl⟩ := (hspaces place middle).1 hmiddle
    obtain ⟨spaces, hpositive, rfl⟩ := mem_runs_space_iff.1 htext
    obtain ⟨sign, hsign, hend⟩ := mem_ends_seq.1 hstop
    obtain ⟨_, rfl, hequals, rfl⟩ := (recognizes_char '=' _ sign).1 hsign
    obtain ⟨hrest, rfl⟩ := mem_ends_atEnd.1 hend
    obtain ⟨rest, hwhole⟩ := (Place.prefix_rest_advance_iff hfollows).1 hequals
    rw [Place.advance_advance] at hrest ⊢
    have hplace : place.rest = List.replicate spaces ' ' ++ '=' :: rest := by
      simpa using hwhole.symm
    refine ⟨spaces, rest, hpositive, ?_, hplace, by simp⟩
    have hbehind : (place.advance ((List.replicate spaces ' ').length + ['='].length)).rest =
        rest := by
      rw [← List.length_append]
      exact Place.rest_advance hwhole.symm
    exact hbehind ▸ hrest
  · rintro ⟨spaces, rest, hpositive, hrest, hplace, rfl⟩
    have hfollows : List.replicate spaces ' ' <+: place.rest := hplace ▸ List.prefix_append _ _
    have hmiddle : (place.advance (List.replicate spaces ' ').length).rest = ['='] ++ rest :=
      Place.rest_advance hplace
    refine ⟨_, (hspaces place _).2 ⟨_, mem_runs_space_iff.2 ⟨spaces, hpositive, rfl⟩,
      hfollows, rfl⟩, ?_⟩
    refine mem_ends_seq.2 ⟨_, (recognizes_char '=' _ _).2 ⟨['='], rfl,
      hmiddle ▸ List.prefix_append _ _, rfl⟩, ?_⟩
    refine mem_ends_atEnd.2 ⟨(Place.rest_advance hmiddle).symm ▸ hrest, ?_⟩
    rw [Place.advance_advance, List.length_replicate]
    rfl

/-- The expression of keys matches the lines of keys, and captures the word. -/
theorem mem_ends_definitionKey_iff {line : List Char} {stop : Place} :
    stop ∈ ends definitionKey (beginning line) ↔
      ∃ key : DefinitionKey, key.line = line ∧
        stop = (((beginning line).advance key.word.length).record 1 key.word).advance
          (key.spaces + 1) := by
  rw [definitionKey, mem_ends_seq]
  constructor
  · rintro ⟨_, hstart, hstop⟩
    obtain ⟨-, rfl⟩ := mem_ends_atStart.1 hstart
    obtain ⟨text, htext, ⟨behind, hbehind⟩, hstop⟩ :=
      (mem_ends_capture_seq_iff recognizes_word).1 hstop
    obtain ⟨spaces, rest, hpositive, hrest, hequals, rfl⟩ := mem_ends_equalsSign_iff.1 hstop
    obtain ⟨key, rfl, rfl, rfl⟩ := DefinitionKey.exists_of_mem_words htext hpositive hrest
    have hplace : (((beginning line).advance key.word.length).record 1 key.word).rest = behind :=
      Place.rest_advance hbehind.symm
    rw [hplace] at hequals
    exact ⟨key, by rw [DefinitionKey.line, ← hequals, hbehind]; rfl, rfl⟩
  · rintro ⟨key, rfl, rfl⟩
    have hbehind : (((beginning key.line).advance key.word.length).record 1 key.word).rest =
        List.replicate key.spaces ' ' ++ '=' :: key.ending := Place.rest_advance rfl
    refine ⟨_, mem_ends_atStart.2 ⟨rfl, rfl⟩, (mem_ends_capture_seq_iff recognizes_word).2 ?_⟩
    exact ⟨key.word, key.word_mem_words, List.prefix_append _ _,
      mem_ends_equalsSign_iff.2 ⟨key.spaces, key.ending, key.spaces_pos,
        key.ending_eq, hbehind, rfl⟩⟩

/-! ### What is read -/

/-- Reading a key looks up the group at the first end of the expression. -/
theorem definitionKey?_eq (line : List Char) :
    definitionKey? line =
      (ends definitionKey (beginning line)).head?.bind fun stop ↦ stop.captures.lookup 1 := by
  have hmem : ("defk", definitionKey, 1) ∈ tokenExpressions := by simp [tokenExpressions]
  obtain ⟨source, hget⟩ := exists_get?_of_mem_tokenExpressions hmem
  rw [definitionKey?, lineMatch?, hget, Option.bind_some, match?, matchAt_eq_head?]
  cases (ends definitionKey (beginning line)).head? with
  | none => rfl
  | some stop => rfl

/-- The key that a line was written for is found in it. -/
theorem definitionKey?_line (key : DefinitionKey) : definitionKey? key.line = some key.word := by
  have hends := List.ne_nil_of_mem (mem_ends_definitionKey_iff.2 ⟨key, rfl, rfl⟩)
  obtain ⟨stop, hstop⟩ := Option.isSome_iff_exists.1 (List.isSome_head?.2 hends)
  obtain ⟨other, hline, rfl⟩ := mem_ends_definitionKey_iff.1 (List.mem_of_head? hstop)
  rw [definitionKey?_eq, hstop, DefinitionKey.line_injective hline]
  rfl

/-- A key is found exactly in the lines that are written for one. -/
theorem definitionKey?_eq_some_iff {line text : List Char} :
    definitionKey? line = some text ↔ ∃ key : DefinitionKey, key.word = text ∧ key.line = line := by
  constructor
  · intro hfound
    rw [definitionKey?_eq] at hfound
    obtain ⟨stop, hstop, hlookup⟩ := Option.bind_eq_some_iff.1 hfound
    obtain ⟨key, hline, rfl⟩ := mem_ends_definitionKey_iff.1 (List.mem_of_head? hstop)
    exact ⟨key, Option.some.inj hlookup, hline⟩
  · rintro ⟨key, rfl, rfl⟩
    exact definitionKey?_line key

/-- **Definition keys are recognised exactly.** The word that is read from a line is the word of a
key which is written so, and nothing is read just if the line is that of no key. A line is that of
one key at most, so its word, the parts of the word, the spaces and the line feed are all
determined. -/
theorem definitionKey?_inverts_writing :
    (∀ line text, definitionKey? line = some text ↔
      ∃ key : DefinitionKey, key.word = text ∧ key.line = line) ∧
    (∀ line, definitionKey? line = none ↔ ∀ key : DefinitionKey, key.line ≠ line) ∧
    Function.Injective DefinitionKey.line := by
  refine ⟨fun line text ↦ definitionKey?_eq_some_iff, fun line ↦ ?_, DefinitionKey.line_injective⟩
  rw [Option.eq_none_iff_forall_ne_some]
  constructor
  · intro hnone key hline
    exact hnone key.word (definitionKey?_eq_some_iff.2 ⟨key, rfl, hline⟩)
  · intro hnone text hfound
    obtain ⟨key, -, hline⟩ := definitionKey?_eq_some_iff.1 hfound
    exact hnone key hline

example : ∃ key : DefinitionKey, key.word = "a-1".toList ∧ key.line = "a-1  =\n".toList :=
  ⟨⟨[['a'], ['1']], by decide, by simp, 2, by decide, true⟩, by decide +kernel⟩

end Lexicon

end ScriptForms
