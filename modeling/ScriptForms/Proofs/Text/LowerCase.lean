import Mathlib.Data.List.Basic
import ScriptForms.Text.Blank
import ScriptForms.Text.CodePoints
import ScriptForms.Text.LowerCase

/-!
# What lower-casing keeps

Lower-casing gives characters that it leaves alone wherever they stand (`IsSettled`), so
lower-casing twice is lower-casing once (`toLower_toLower`). It neither makes nor removes blanks and
colons, so a text starts or ends with such a character just if its lower-case form does
(`any_head?_lowerAfter`, `any_getLast?_lowerAfter`).

Both are properties of the table of runs. They are found by evaluation (`isSound_of_mem`): each run
leads to a range of code points, which is compared with the ranges of all runs as a whole. Only
where two ranges overlap are the code points of a run looked at one by one.
-/

namespace ScriptForms.Text

/-! ### Ranges and runs -/

/-- Whether two closed ranges have no code point in common. -/
def apart (first second : Nat × Nat) : Bool :=
  Nat.blt first.2 second.1 || Nat.blt second.2 first.1

theorem not_mem_of_apart {first second : Nat × Nat} {n : Nat} (h : apart first second = true)
    (hle : first.1 ≤ n ∧ n ≤ first.2) : ¬ (second.1 ≤ n ∧ n ≤ second.2) := by
  rw [apart, Bool.or_eq_true, Nat.blt_eq, Nat.blt_eq] at h
  omega

/-- A character in a range that is apart from a table is not in the table. -/
theorem contains_eq_false_of_apart {table : RangeTable} {range : Nat × Nat} {c : Char}
    (h : table.all (apart range) = true) (hle : range.1 ≤ c.toNat ∧ c.toNat ≤ range.2) :
    table.contains c = false := by
  rw [RangeTable.contains, List.any_eq_false]
  intro other hother hmem
  rw [Bool.and_eq_true, decide_eq_true_iff, decide_eq_true_iff] at hmem
  exact not_mem_of_apart (List.all_eq_true.1 h other hother) hle hmem

namespace LowerRun

variable (run : LowerRun)

/-- The code point that `n` is lower-cased to. -/
def image (n : Nat) : Nat :=
  (n + run.shift).toNat

/-- The range of the code points of the run. -/
def source : Nat × Nat :=
  (run.first, run.last)

/-- The range of the code points that the run leads to. -/
def target : Nat × Nat :=
  (run.image run.first, run.image run.last)

/-- The code points of the run, one by one. -/
def members : List Nat :=
  (List.range ((run.last - run.first) / run.step + 1)).map fun k ↦ run.first + run.step * k

variable {run} {n : Nat}

/-- A run covers every `step`th code point from its first to its last. -/
theorem covers_iff :
    run.covers n = true ↔ (run.first ≤ n ∧ n ≤ run.last) ∧ (n - run.first) % run.step = 0 := by
  simp only [covers, Bool.and_eq_true, decide_eq_true_iff, beq_iff_eq]

theorem mem_members_of_covers (h : run.covers n = true) : n ∈ run.members := by
  obtain ⟨⟨hfirst, hlast⟩, hstep⟩ := covers_iff.1 h
  have hmul : run.step * ((n - run.first) / run.step) = n - run.first :=
    Nat.mul_div_cancel' (Nat.dvd_of_mod_eq_zero hstep)
  have hle : (n - run.first) / run.step ≤ (run.last - run.first) / run.step :=
    Nat.div_le_div_right (Nat.sub_le_sub_right hlast run.first)
  refine List.mem_map.2 ⟨(n - run.first) / run.step, List.mem_range.2 (Nat.lt_succ_of_le hle), ?_⟩
  omega

/-- The images of a run lie in its target. -/
theorem image_mem_target (h : run.covers n = true) :
    run.target.1 ≤ run.image n ∧ run.image n ≤ run.target.2 := by
  obtain ⟨⟨hfirst, hlast⟩, -⟩ := covers_iff.1 h
  simp only [target, image]
  omega

end LowerRun

/-! ### The table -/

/-- The blanks and the colon. -/
def separatorRanges : RangeTable :=
  (0x3A, 0x3A) :: blankRanges

/-- The two characters whose lower-case form is not in the table. -/
def specialRanges : RangeTable :=
  [(0x130, 0x130), (0x3A3, 0x3A3)]

/-- Whether the run leads from characters that are no separators to others, which no run covers. -/
def LowerRun.isSound (run : LowerRun) : Bool :=
  separatorRanges.all (apart run.source) && separatorRanges.all (apart run.target) &&
    specialRanges.all (apart run.target) && apart run.target (0xD800, 0xDFFF) &&
    Nat.blt run.target.2 0x110000 &&
    lowerRuns.all fun other ↦
      apart run.target other.source || run.members.all fun n ↦ !other.covers (run.image n)

/-- The evaluation, run by run. -/
theorem isSound_of_mem {run : LowerRun} (h : run ∈ lowerRuns) : run.isSound = true := by
  have hall : lowerRuns.all LowerRun.isSound = true := by decide +kernel
  exact List.all_eq_true.1 hall run h

/-! ### Characters -/

/-- Whether a character is a blank or a colon. -/
def isSeparator (c : Char) : Bool :=
  separatorRanges.contains c

/-- Lower-casing leaves the character alone, whatever stands around it. -/
def IsSettled (c : Char) : Prop :=
  c ≠ '\u03A3' ∧ c ≠ '\u0130' ∧ lowerChar c = c

instance (c : Char) : Decidable (IsSettled c) :=
  inferInstanceAs (Decidable (_ ∧ _ ∧ _))

theorem isSeparator_of_isBlank {c : Char} (h : isBlank c = true) : isSeparator c = true := by
  rw [isSeparator, separatorRanges, RangeTable.contains_cons]
  exact Bool.or_eq_true_iff.2 (.inr h)

/-- A character stays, or a run moves it. -/
theorem lowerChar_eq (c : Char) :
    lowerChar c = c ∨ ∃ run ∈ lowerRuns, run.covers c.toNat = true ∧
      lowerChar c = Char.ofNat (run.image c.toNat) := by
  unfold lowerChar
  cases hfind : lowerRuns.find? (·.covers c.toNat) with
  | none => exact .inl rfl
  | some run =>
    have hcovers := List.find?_some hfind
    exact .inr ⟨run, List.mem_of_find?_eq_some hfind, hcovers, rfl⟩

/-- A character of a run is no separator, nor is its lower-case form, and that form is settled. -/
theorem isSettled_image {run : LowerRun} (hrun : run ∈ lowerRuns) {c : Char}
    (h : run.covers c.toNat = true) :
    IsSettled (Char.ofNat (run.image c.toNat)) ∧ isSeparator c = false ∧
      isSeparator (Char.ofNat (run.image c.toNat)) = false := by
  have hsound := isSound_of_mem hrun
  simp only [LowerRun.isSound, Bool.and_eq_true] at hsound
  obtain ⟨⟨⟨⟨⟨hsource, htarget⟩, hspecial⟩, hsurrogate⟩, hlarge⟩, hruns⟩ := hsound
  have himage := LowerRun.image_mem_target h
  have hvalid : (run.image c.toNat).isValidChar := by
    have hbetween := not_mem_of_apart hsurrogate himage
    rw [Nat.blt_eq] at hlarge
    show run.image c.toNat < 0xD800 ∨ 0xDFFF < run.image c.toNat ∧ run.image c.toNat < 0x110000
    omega
  have hmem := himage
  rw [← toNat_ofNat hvalid] at hmem
  have hordinary := contains_eq_false_of_apart hspecial hmem
  refine ⟨⟨?_, ?_, ?_⟩, contains_eq_false_of_apart hsource (LowerRun.covers_iff.1 h).1,
    contains_eq_false_of_apart htarget hmem⟩
  · intro hsigma
    rw [hsigma] at hordinary
    exact absurd hordinary (by decide)
  · intro hdotted
    rw [hdotted] at hordinary
    exact absurd hordinary (by decide)
  · have hnone : lowerRuns.find? (·.covers (Char.ofNat (run.image c.toNat)).toNat) = none := by
      rw [List.find?_eq_none, toNat_ofNat hvalid]
      intro other hother hcovers
      rcases Bool.or_eq_true_iff.1 (List.all_eq_true.1 hruns other hother) with hapart | hmembers
      · exact not_mem_of_apart hapart himage (LowerRun.covers_iff.1 hcovers).1
      · have hfree := List.all_eq_true.1 hmembers _ (LowerRun.mem_members_of_covers h)
        rw [hcovers] at hfree
        cases hfree
    unfold lowerChar
    rw [hnone]

/-! ### Characters in their place -/

/-- The lower-case form of `c` between `before`, nearest first, and `rest`. -/
def lowerAt (before : List Char) (c : Char) (rest : List Char) : List Char :=
  if c = '\u03A3' then
    if meetsCased before && !meetsCased rest then ['\u03C2'] else ['\u03C3']
  else if c = '\u0130' then ['i', '\u0307']
  else [lowerChar c]

variable {before rest text : List Char} {c d : Char}

/-- A text is lower-cased character by character, with what stands before kept in mind. -/
theorem lowerAfter_cons (before : List Char) (c : Char) (rest : List Char) :
    lowerAfter before (c :: rest) = lowerAt before c rest ++ lowerAfter (c :: before) rest :=
  rfl

theorem lowerAt_ne_nil (before : List Char) (c : Char) (rest : List Char) :
    lowerAt before c rest ≠ [] := by
  rw [lowerAt]
  split
  · split <;> exact List.cons_ne_nil _ _
  · split <;> exact List.cons_ne_nil _ _

/-- A settled character stays, whatever stands around it. -/
theorem lowerAt_of_isSettled (h : IsSettled c) (before rest : List Char) :
    lowerAt before c rest = [c] := by
  rw [lowerAt, if_neg h.1, if_neg h.2.1, h.2.2]

/-- A character is lower-cased to settled characters: to itself, or from no separator to no
separators. -/
theorem mem_lowerAt (h : d ∈ lowerAt before c rest) :
    IsSettled d ∧ (d = c ∨ isSeparator c = false ∧ isSeparator d = false) := by
  rw [lowerAt] at h
  by_cases hsigma : c = '\u03A3'
  · subst hsigma
    have hd : d = '\u03C2' ∨ d = '\u03C3' := by
      rw [if_pos rfl] at h
      split at h
      · exact .inl (List.mem_singleton.1 h)
      · exact .inr (List.mem_singleton.1 h)
    rcases hd with rfl | rfl
    · exact ⟨by decide +kernel, .inr (by decide +kernel)⟩
    · exact ⟨by decide +kernel, .inr (by decide +kernel)⟩
  · rw [if_neg hsigma] at h
    by_cases hdotted : c = '\u0130'
    · subst hdotted
      rw [if_pos rfl, List.mem_cons, List.mem_singleton] at h
      rcases h with rfl | rfl
      · exact ⟨by decide +kernel, .inr (by decide +kernel)⟩
      · exact ⟨by decide +kernel, .inr (by decide +kernel)⟩
    · rw [if_neg hdotted, List.mem_singleton] at h
      subst h
      rcases lowerChar_eq c with hsame | ⟨run, hrun, hcovers, himage⟩
      · rw [hsame]
        exact ⟨⟨hsigma, hdotted, hsame⟩, .inl rfl⟩
      · rw [himage]
        obtain ⟨hsettled, hseparators⟩ := isSettled_image hrun hcovers
        exact ⟨hsettled, .inr hseparators⟩

/-- A property that only separators have is neither gained nor lost. -/
theorem eq_of_mem_lowerAt {p : Char → Bool} (hp : ∀ c, p c = true → isSeparator c = true)
    (h : d ∈ lowerAt before c rest) : p d = p c := by
  have hnone {c : Char} (hc : isSeparator c = false) : p c = false := by
    rw [← Bool.not_eq_true] at hc ⊢
    exact fun htrue ↦ hc (hp c htrue)
  rcases (mem_lowerAt h).2 with rfl | ⟨hc, hd⟩
  · rfl
  · rw [hnone hc, hnone hd]

/-! ### Texts -/

theorem lowerAfter_eq_nil_iff : lowerAfter before text = [] ↔ text = [] := by
  cases text with
  | nil => exact Iff.rfl
  | cons c rest => simp [lowerAfter_cons, lowerAt_ne_nil]

/-- Lower-casing leaves settled characters only. -/
theorem isSettled_of_mem_lowerAfter (h : d ∈ lowerAfter before text) : IsSettled d := by
  induction text generalizing before with
  | nil => cases h
  | cons c rest ih =>
    rw [lowerAfter_cons, List.mem_append] at h
    rcases h with hhere | hlater
    · exact (mem_lowerAt hhere).1
    · exact ih hlater

theorem lowerAfter_of_isSettled (h : ∀ c ∈ text, IsSettled c) (before : List Char) :
    lowerAfter before text = text := by
  induction text generalizing before with
  | nil => rfl
  | cons c rest ih =>
    obtain ⟨hc, hrest⟩ := List.forall_mem_cons.1 h
    rw [lowerAfter_cons, lowerAt_of_isSettled hc, ih hrest, List.singleton_append]

/-- Lower-casing changes nothing in a text that was lower-cased. -/
theorem toLower_toLower (text : List Char) : toLower (toLower text) = toLower text :=
  lowerAfter_of_isSettled (fun _ hc ↦ isSettled_of_mem_lowerAfter hc) []

/-- Lower-casing neither makes nor removes a separator at the front. -/
theorem any_head?_lowerAfter {p : Char → Bool} (hp : ∀ c, p c = true → isSeparator c = true)
    (before text : List Char) : (lowerAfter before text).head?.any p = text.head?.any p := by
  cases text with
  | nil => rfl
  | cons c rest =>
    obtain ⟨d, more, hlower⟩ := List.exists_cons_of_ne_nil (lowerAt_ne_nil before c rest)
    have hd : d ∈ lowerAt before c rest := hlower ▸ List.mem_cons_self
    rw [lowerAfter_cons, hlower]
    exact eq_of_mem_lowerAt hp hd

/-- Nor does it at the end. -/
theorem any_getLast?_lowerAfter {p : Char → Bool} (hp : ∀ c, p c = true → isSeparator c = true)
    (before text : List Char) : (lowerAfter before text).getLast?.any p = text.getLast?.any p := by
  induction text generalizing before with
  | nil => rfl
  | cons c rest ih =>
    rw [lowerAfter_cons]
    rcases eq_or_ne rest [] with rfl | hrest
    · have hlast := List.getLast?_eq_some_getLast (lowerAt_ne_nil before c [])
      rw [lowerAfter, List.append_nil, hlast]
      exact eq_of_mem_lowerAt hp (List.getLast_mem (lowerAt_ne_nil before c []))
    · rw [List.getLast?_append_of_ne_nil _ (lowerAfter_eq_nil_iff.not.2 hrest), ih,
        ← List.singleton_append,
        List.getLast?_append_of_ne_nil _ hrest]

end ScriptForms.Text
