import ScriptForms.Proofs.Node.StringLiteral

/-!
# Reading written nodes

A reader for the texts that the printer writes. It goes through a text once, character by character,
and keeps the scalar under way, the items of the sequence it is in and those of the sequences around
it. A character of a token or of a string literal goes to the scalar under way; a delimiter first
ends a token (`settle`) and then opens or closes a sequence, starts a string literal, or does
nothing.

`Reads text nodes` says that `text` adds `nodes` to whatever has been read before. Texts compose:
what stands on both sides of a gap is read separately (`Reads.append`), and brackets turn the nodes
between them into one sequence (`Reads.enclose`).
-/

namespace ScriptForms

/-- Whether `c` ends a token: the blank, the line feed, the comma, the double quote and the
brackets. -/
def isDelimiter (c : Char) : Bool :=
  [' ', '\n', ',', '\x22', '(', ')', '[', ']', '\x7b', '\x7d'].contains c

/-- A text that is read as one token: it is not empty and nothing in it ends a token. -/
def IsToken (text : List Char) : Prop :=
  text ≠ [] ∧ text.any isDelimiter = false

instance (text : List Char) : Decidable (IsToken text) :=
  inferInstanceAs (Decidable (_ ∧ _))

/-- A text that only sets others apart: some blanks, line feeds and commas. -/
def IsGap (text : List Char) : Prop :=
  text ≠ [] ∧ text ⊆ [' ', '\n', ',']

/-- The scalar that is being read. -/
inductive Scalar where
  /-- The characters of a token so far; none of them if no token has begun. -/
  | token (text : List Char)
  /-- The string that a literal stands for so far. -/
  | string (text : List Char)
  /-- The same, right behind a backslash. -/
  | escape (text : List Char)

/-- What has been read of a text. -/
structure Reader where
  scalar : Scalar
  /-- The items of the sequence under way, the last one first. -/
  items : List Node
  /-- The items of the sequences around it, from the inside out. -/
  outer : List (List Node)

namespace Reader

/-- Nothing has been read. -/
def start : Reader :=
  ⟨.token [], [], []⟩

/-- Adds `nodes` to the sequence under way. -/
def add (nodes : List Node) (reader : Reader) : Reader :=
  ⟨.token [], nodes.reverse ++ reader.items, reader.outer⟩

/-- Ends the token under way. -/
def settle (reader : Reader) : Reader :=
  match reader.scalar with
  | .token (c :: text) => reader.add [.text .token (String.ofList (c :: text))]
  | _ => reader

/-- Opens a sequence. -/
def openSeq (reader : Reader) : Reader :=
  ⟨.token [], [], reader.items :: reader.outer⟩

/-- Closes the sequence under way. -/
def closeSeq (kind : SeqKind) (reader : Reader) : Reader :=
  match reader.outer with
  | [] => reader
  | items :: outer => ⟨.token [], .seq kind reader.items.reverse :: items, outer⟩

/-- Reads a delimiter when no scalar is under way. -/
def delimit (reader : Reader) : Char → Reader
  | '\x22' => ⟨.string [], reader.items, reader.outer⟩
  | '(' => reader.openSeq
  | '[' => reader.openSeq
  | '\x7b' => reader.openSeq
  | ')' => reader.closeSeq .list
  | ']' => reader.closeSeq .vector
  | '\x7d' => reader.closeSeq .map
  | _ => reader

/-- Reads a character. -/
def step (reader : Reader) (c : Char) : Reader :=
  match reader.scalar with
  | .token text =>
    if isDelimiter c then reader.settle.delimit c
    else ⟨.token (text ++ [c]), reader.items, reader.outer⟩
  | .string text =>
    if c = '\\' then ⟨.escape text, reader.items, reader.outer⟩
    else if c = '\x22' then reader.add [.text .string (String.ofList text)]
    else ⟨.string (text ++ [c]), reader.items, reader.outer⟩
  | .escape text =>
    ⟨.string (text ++ [if c = 'n' then '\n' else c]), reader.items, reader.outer⟩

/-- Reads a text. -/
def run (text : List Char) (reader : Reader) : Reader :=
  text.foldl step reader

@[simp] theorem run_cons (c : Char) (text : List Char) (reader : Reader) :
    reader.run (c :: text) = (reader.step c).run text := rfl

@[simp] theorem run_append (first second : List Char) (reader : Reader) :
    reader.run (first ++ second) = (reader.run first).run second :=
  List.foldl_append

/-- No scalar is under way. -/
def IsIdle (reader : Reader) : Prop :=
  reader.scalar = .token []

theorem isIdle_add (nodes : List Node) (reader : Reader) : (reader.add nodes).IsIdle := rfl

theorem IsIdle.settle {reader : Reader} (h : reader.IsIdle) : reader.settle = reader := by
  rw [Reader.settle, show reader.scalar = .token [] from h]

/-- A reader that ending a token leaves idle takes a delimiter behind that token. -/
theorem step_delimiter {reader : Reader} {c : Char} (hsettle : reader.settle.IsIdle)
    (hc : isDelimiter c = true) : reader.step c = reader.settle.delimit c := by
  cases hscalar : reader.scalar with
  | token text => simp only [step, hscalar, hc, if_true]
  -- inside a literal no token is under way to be ended, and the reader is not idle
  | string text =>
    have hsame : reader.settle = reader := by rw [settle, hscalar]
    rw [hsame, IsIdle, hscalar] at hsettle
    cases hsettle
  | escape text =>
    have hsame : reader.settle = reader := by rw [settle, hscalar]
    rw [hsame, IsIdle, hscalar] at hsettle
    cases hsettle

/-! ### Scalars -/

/-- A token goes on up to a delimiter. -/
theorem run_token {text : List Char} (h : text.any isDelimiter = false) (before : List Char)
    (items : List Node) (outer : List (List Node)) :
    run text ⟨.token before, items, outer⟩ = ⟨.token (before ++ text), items, outer⟩ := by
  induction text generalizing before with
  | nil => rw [List.append_nil]; rfl
  | cons c text ih =>
    obtain ⟨hc, htext⟩ : isDelimiter c = false ∧ text.any isDelimiter = false := by
      rwa [List.any_cons, Bool.or_eq_false_iff] at h
    have hstep : step ⟨.token before, items, outer⟩ c = ⟨.token (before ++ [c]), items, outer⟩ := by
      simp [step, hc]
    rw [run_cons, hstep, ih htext, List.append_assoc]
    rfl

/-- An escape inside a string stands for its character. -/
theorem run_escapeChar (c : Char) (before : List Char) (items : List Node)
    (outer : List (List Node)) :
    run (escapeChar c) ⟨.string before, items, outer⟩ =
      ⟨.string (before ++ [c]), items, outer⟩ := by
  unfold escapeChar
  split
  · rfl
  · rfl
  · rfl
  · next hbackslash hquote _ =>
      rw [run_cons, step]
      simp only [if_neg hbackslash, if_neg hquote]
      rfl

/-- By induction on the text: escapes are read one by one. -/
theorem run_escaped (text before : List Char) (items : List Node) (outer : List (List Node)) :
    run (escaped text) ⟨.string before, items, outer⟩ =
      ⟨.string (before ++ text), items, outer⟩ := by
  induction text generalizing before with
  | nil => rw [List.append_nil]; rfl
  | cons c text ih =>
    rw [escaped_cons, run_append, run_escapeChar, ih, List.append_assoc]
    rfl

end Reader

/-! ### Texts that are read as nodes -/

/-- Reading `text` adds `nodes`. Only a token may still be under way at its end. -/
def Reads (text : List Char) (nodes : List Node) : Prop :=
  ∀ reader : Reader, reader.IsIdle → (reader.run text).settle = reader.add nodes

theorem reads_nil : Reads [] [] := by
  intro reader hidle
  obtain ⟨scalar, items, outer⟩ := reader
  obtain rfl : scalar = .token [] := hidle
  rfl

/-- A token is read as one node with its text. -/
theorem reads_token {text : List Char} (h : IsToken text) :
    Reads text [.text .token (String.ofList text)] := by
  intro reader hidle
  obtain ⟨scalar, items, outer⟩ := reader
  obtain rfl : scalar = .token [] := hidle
  rw [Reader.run_token h.2, List.nil_append]
  obtain ⟨c, rest, rfl⟩ := List.exists_cons_of_ne_nil h.1
  rfl

/-- A string literal is read as its string. -/
theorem reads_string (text : List Char) :
    Reads ('\x22' :: (escaped text ++ ['\x22'])) [.text .string (String.ofList text)] := by
  intro reader hidle
  obtain ⟨scalar, items, outer⟩ := reader
  obtain rfl : scalar = .token [] := hidle
  have hopen : Reader.step ⟨.token [], items, outer⟩ '\x22' = ⟨.string [], items, outer⟩ := rfl
  rw [Reader.run_cons, hopen, Reader.run_append, Reader.run_escaped]
  rfl

/-- Reading a gap ends the token before it and does nothing else. -/
theorem Reader.run_gap {gap : List Char} (hgap : IsGap gap) {reader : Reader}
    (hsettle : reader.settle.IsIdle) : reader.run gap = reader.settle := by
  have hstep : ∀ c ∈ [' ', '\n', ','], ∀ {reader : Reader}, reader.settle.IsIdle →
      reader.step c = reader.settle := by
    intro c hc reader hsettle
    have hmem : c = ' ' ∨ c = '\n' ∨ c = ',' := by simpa using hc
    rcases hmem with rfl | rfl | rfl <;> exact step_delimiter hsettle rfl
  have hidle : ∀ {rest : List Char}, rest ⊆ [' ', '\n', ','] →
      reader.settle.run rest = reader.settle := by
    intro rest hrest
    induction rest with
    | nil => rfl
    | cons c rest ih =>
      have hsame := hsettle.settle
      rw [run_cons, hstep c (hrest List.mem_cons_self) (hsame.symm ▸ hsettle), hsame]
      exact ih fun d hd ↦ hrest (List.mem_cons_of_mem c hd)
  obtain ⟨c, rest, rfl⟩ := List.exists_cons_of_ne_nil hgap.1
  rw [run_cons, hstep c (hgap.2 List.mem_cons_self) hsettle]
  exact hidle fun d hd ↦ hgap.2 (List.mem_cons_of_mem c hd)

/-- What stands on both sides of a gap is read separately. -/
theorem Reads.append {first gap second : List Char} {before after : List Node}
    (hfirst : Reads first before) (hgap : IsGap gap) (hsecond : Reads second after) :
    Reads (first ++ gap ++ second) (before ++ after) := by
  intro reader hidle
  have hbefore := hfirst reader hidle
  have hsettle : (reader.run first).settle.IsIdle := by
    rw [hbefore]
    exact Reader.isIdle_add before reader
  rw [Reader.run_append, Reader.run_append, Reader.run_gap hgap hsettle, hbefore,
    hsecond _ (Reader.isIdle_add before reader)]
  simp [Reader.add]

/-- `opening` and `closing` stand around the items of a sequence of this kind. -/
structure Encloses (kind : SeqKind) (opening closing : Char) : Prop where
  isDelimiter_opening : isDelimiter opening = true
  isDelimiter_closing : isDelimiter closing = true
  delimit_opening : ∀ reader : Reader, reader.delimit opening = reader.openSeq
  delimit_closing : ∀ reader : Reader, reader.delimit closing = reader.closeSeq kind

theorem encloses_list : Encloses .list '(' ')' :=
  ⟨rfl, rfl, fun _ ↦ rfl, fun _ ↦ rfl⟩

theorem encloses_vector : Encloses .vector '[' ']' :=
  ⟨rfl, rfl, fun _ ↦ rfl, fun _ ↦ rfl⟩

theorem encloses_map : Encloses .map '\x7b' '\x7d' :=
  ⟨rfl, rfl, fun _ ↦ rfl, fun _ ↦ rfl⟩

/-- Brackets turn the nodes between them into one sequence. -/
theorem Reads.enclose {kind : SeqKind} {opening closing : Char} {text : List Char}
    {nodes : List Node}
    (h : Reads text nodes) (hbrackets : Encloses kind opening closing) :
    Reads (opening :: (text ++ [closing])) [.seq kind nodes] := by
  intro reader hidle
  have hopened : reader.step opening = reader.openSeq := by
    have hsettle : reader.settle.IsIdle := by rwa [hidle.settle]
    rw [Reader.step_delimiter hsettle hbrackets.isDelimiter_opening, hidle.settle,
      hbrackets.delimit_opening]
  have hinside := h reader.openSeq rfl
  have hclosed : (reader.openSeq.run text).step closing = reader.add [.seq kind nodes] := by
    have hsettle : (reader.openSeq.run text).settle.IsIdle := by
      rw [hinside]
      exact Reader.isIdle_add nodes reader.openSeq
    rw [Reader.step_delimiter hsettle hbrackets.isDelimiter_closing, hinside,
      hbrackets.delimit_closing]
    simp [Reader.closeSeq, Reader.add, Reader.openSeq]
  rw [Reader.run_cons, hopened, Reader.run_append, Reader.run_cons, hclosed]
  exact (Reader.isIdle_add _ reader).settle

/-- The nodes that a text is read as. -/
def readForms (text : List Char) : List Node :=
  (Reader.start.run text).settle.items.reverse

/-- What a text is read as is what reading it from the start gives. -/
theorem Reads.readForms_eq {text : List Char} {nodes : List Node} (h : Reads text nodes) :
    readForms text = nodes := by
  rw [readForms, h Reader.start rfl]
  simp [Reader.add, Reader.start]

end ScriptForms
