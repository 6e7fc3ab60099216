import ScriptForms.Pattern.Named

/-!
# References and substitution

A text holds a reference if a dollar sign stands right in front of a letter (`HasReference`); the
name of the reference is the run of letters there. This module gives the equations of looking for
the first reference and of substituting all references to a name, and a measure that substitution
lowers.

The number of references is no such measure. A source may end in a dollar sign or begin with a
letter, so that substituting it forms new references where texts meet. But a text that is
substituted holds no reference itself. So along a stretch of dollar signs and letters, the reference
that is replaced leaves at most one block of letters behind, and the dollar signs that come with the
text stand behind that block. If a dollar sign counts as a power of `base` with the number of blocks
behind it as exponent, the one that is replaced outweighs all those that come in its place, provided
there are fewer of them than `base` (`potential_substitute_lt`).
-/

namespace ScriptForms

namespace Template

/-- Whether the text begins with a letter. -/
def startsWithLetter (text : List Char) : Bool :=
  text.head?.any Char.isAlpha

/-- Whether a dollar sign stands right in front of a letter. -/
def HasReference (text : List Char) : Prop :=
  ∃ before letter after, text = before ++ '$' :: letter :: after ∧ letter.isAlpha = true

/-! ### The first reference -/

theorem not_hasReference_nil : ¬HasReference [] := by
  rintro ⟨before, letter, after, h, -⟩
  exact List.append_ne_nil_of_right_ne_nil _ (List.cons_ne_nil _ _) h.symm

/-- A reference is there at the front, or further on. -/
theorem hasReference_cons_iff {c : Char} {rest : List Char} :
    HasReference (c :: rest) ↔ (c = '$' ∧ startsWithLetter rest = true) ∨ HasReference rest := by
  constructor
  · rintro ⟨before, letter, after, h, hletter⟩
    cases before with
    | nil =>
      cases h
      exact .inl ⟨rfl, hletter⟩
    | cons first before =>
      cases h
      exact .inr ⟨before, letter, after, rfl, hletter⟩
  · rintro (⟨rfl, hstart⟩ | ⟨before, letter, after, rfl, hletter⟩)
    · cases rest with
      | nil => cases hstart
      | cons letter after => exact ⟨[], letter, after, rfl, hstart⟩
    · exact ⟨c :: before, letter, after, rfl, hletter⟩

theorem not_hasReference_of_cons {c : Char} {rest : List Char} (h : ¬HasReference (c :: rest)) :
    ¬HasReference rest :=
  fun hrest ↦ h (hasReference_cons_iff.2 (.inr hrest))

/-- A dollar sign that begins no reference has no letter behind it. -/
theorem startsWithLetter_eq_false_of_dollar {rest : List Char} (h : ¬HasReference ('$' :: rest)) :
    startsWithLetter rest = false :=
  Bool.eq_false_iff.2 fun hstart ↦ h (hasReference_cons_iff.2 (.inl ⟨rfl, hstart⟩))

/-- The first reference is looked for from the left. -/
theorem firstReference_cons (c : Char) (rest : List Char) :
    firstReference? (c :: rest) =
      if c = '$' ∧ startsWithLetter rest = true then some (rest.takeWhile Char.isAlpha)
      else firstReference? rest :=
  rfl

/-- The search finds a reference exactly if there is one. -/
theorem firstReference_eq_none_iff {text : List Char} :
    firstReference? text = none ↔ ¬HasReference text := by
  induction text with
  | nil => exact ⟨fun _ ↦ not_hasReference_nil, fun _ ↦ rfl⟩
  | cons c rest ih =>
    rw [hasReference_cons_iff, not_or, ← ih, firstReference_cons]
    by_cases h : c = '$' ∧ startsWithLetter rest = true
    · rw [if_pos h]
      exact ⟨nofun, fun hnot ↦ absurd h hnot.1⟩
    · rw [if_neg h]
      exact ⟨fun hrest ↦ ⟨h, hrest⟩, fun hnot ↦ hnot.2⟩

theorem takeWhile_ne_nil_iff {text : List Char} :
    text.takeWhile Char.isAlpha ≠ [] ↔ startsWithLetter text = true := by
  cases text with
  | nil => exact ⟨fun h ↦ absurd rfl h, nofun⟩
  | cons c rest =>
    cases hc : c.isAlpha with
    | true =>
      rw [List.takeWhile_cons_of_pos hc]
      exact ⟨fun _ ↦ hc, fun _ ↦ List.cons_ne_nil _ _⟩
    | false =>
      rw [List.takeWhile_cons_of_neg (Bool.eq_false_iff.1 hc)]
      exact ⟨fun h ↦ absurd rfl h, fun h ↦ absurd (hc.symm.trans h) Bool.false_ne_true⟩

theorem ne_nil_of_firstReference {text name : List Char} (h : firstReference? text = some name) :
    name ≠ [] := by
  induction text with
  | nil => cases h
  | cons c rest ih =>
    rw [firstReference_cons] at h
    split at h
    · next hc =>
      cases h
      exact takeWhile_ne_nil_iff.2 hc.2
    · exact ih h

/-! ### Substitution -/

/-- Leaving characters out first is substituting in what is behind them. -/
theorem substituteAfter_eq (name value : List Char) (skip : Nat) (text : List Char) :
    substituteAfter name value skip text = substitute name value (text.drop skip) := by
  induction text generalizing skip with
  | nil => cases skip <;> rfl
  | cons c rest ih =>
    cases skip with
    | zero => rfl
    | succ skip => exact ih skip

/-- A reference to the name is replaced, and substitution goes on behind its letters. -/
theorem substitute_reference {name rest : List Char} (value : List Char)
    (h : rest.takeWhile Char.isAlpha = name) :
    substitute name value ('$' :: rest) =
      value ++ substitute name value (rest.dropWhile Char.isAlpha) := by
  have hdrop : rest.drop name.length = rest.dropWhile Char.isAlpha := by
    rw [← h]
    exact (congrArg (List.drop _) List.takeWhile_append_dropWhile.symm).trans List.drop_left
  rw [← hdrop, ← substituteAfter_eq]
  exact if_pos ⟨rfl, h⟩

/-- Any other character is kept. -/
theorem substitute_cons {name rest : List Char} {c : Char} (value : List Char)
    (h : ¬(c = '$' ∧ rest.takeWhile Char.isAlpha = name)) :
    substitute name value (c :: rest) = c :: substitute name value rest :=
  if_neg h

/-! ### The measure -/

/-- The number of blocks of letters in the stretch of dollar signs and letters that the text begins
with. -/
def blocks : List Char → Nat
  | [] => 0
  | c :: rest =>
    if c = '$' then blocks rest
    else if c.isAlpha then if startsWithLetter rest then blocks rest else blocks rest + 1
    else 0

/-- The dollar signs of the text, each counted as the power of `base` with the number of blocks
behind it. -/
def potential (base : Nat) : List Char → Nat
  | [] => 0
  | c :: rest => (if c = '$' then Nat.pow base (blocks rest) else 0) + potential base rest

@[simp] theorem blocks_dollar (rest : List Char) : blocks ('$' :: rest) = blocks rest :=
  rfl

/-- A dollar sign weighs a power of the base, by the number of blocks of letters behind it. -/
@[simp] theorem potential_dollar (base : Nat) (rest : List Char) :
    potential base ('$' :: rest) = Nat.pow base (blocks rest) + potential base rest :=
  rfl

/-- The measure treats three kinds of characters differently. -/
theorem dollar_or_letter_or_other (c : Char) :
    c = '$' ∨ c.isAlpha = true ∨ (c ≠ '$' ∧ c.isAlpha = false) := by
  by_cases hdollar : c = '$'
  · exact .inl hdollar
  · cases hc : c.isAlpha with
    | true => exact .inr (.inl rfl)
    | false => exact .inr (.inr ⟨hdollar, rfl⟩)

theorem ne_dollar_of_isAlpha {c : Char} (h : c.isAlpha = true) : c ≠ '$' := by
  rintro rfl
  cases h

/-- A block is counted at its last letter. -/
theorem blocks_letter {c : Char} (h : c.isAlpha = true) (rest : List Char) :
    blocks (c :: rest) = if startsWithLetter rest then blocks rest else blocks rest + 1 := by
  rw [blocks, if_neg (ne_dollar_of_isAlpha h), if_pos h]

/-- Anything but a letter or a dollar sign ends the count. -/
theorem blocks_other {c : Char} (hdollar : c ≠ '$') (h : c.isAlpha = false) (rest : List Char) :
    blocks (c :: rest) = 0 := by
  rw [blocks, if_neg hdollar, if_neg (Bool.eq_false_iff.1 h)]

theorem potential_cons_of_ne {c : Char} (h : c ≠ '$') (base : Nat) (rest : List Char) :
    potential base (c :: rest) = potential base rest := by
  rw [potential, if_neg h, Nat.zero_add]

theorem blocks_le_length (text : List Char) : blocks text ≤ text.length := by
  induction text with
  | nil => exact Nat.le_refl 0
  | cons c rest ih =>
    rcases dollar_or_letter_or_other c with rfl | hc | ⟨hdollar, hc⟩
    · exact Nat.le_succ_of_le ih
    · rw [blocks_letter hc, List.length_cons]
      split <;> omega
    · rw [blocks_other hdollar hc]
      exact Nat.zero_le _

/-- A bound on the potential by the length alone. -/
theorem potential_le {base : Nat} (hbase : 0 < base) (text : List Char) {bound : Nat}
    (hbound : text.length ≤ bound) :
    potential base text ≤ text.length * Nat.pow base bound := by
  induction text with
  | nil => exact Nat.zero_le _
  | cons c rest ih =>
    have hrest := ih (Nat.le_of_succ_le hbound)
    have hdollar : (if c = '$' then Nat.pow base (blocks rest) else 0) ≤ Nat.pow base bound := by
      split
      · exact Nat.pow_le_pow_right hbase
          (Nat.le_trans (blocks_le_length rest) (Nat.le_of_succ_le hbound))
      · exact Nat.zero_le _
    rw [potential, List.length_cons, Nat.succ_mul, Nat.add_comm]
    exact Nat.add_le_add hrest hdollar

/-- The letters of a reference are one block. -/
theorem blocks_dropWhile {rest : List Char} (h : startsWithLetter rest = true) :
    blocks rest = blocks (rest.dropWhile Char.isAlpha) + 1 := by
  induction rest with
  | nil => cases h
  | cons c rest ih =>
    have hc : c.isAlpha = true := h
    rw [blocks_letter hc, List.dropWhile_cons_of_pos hc]
    cases hrest : startsWithLetter rest with
    | true => exact ih hrest
    | false =>
      have hdrop : rest.dropWhile Char.isAlpha = rest := by
        cases rest with
        | nil => rfl
        | cons d rest => exact List.dropWhile_cons_of_neg (Bool.eq_false_iff.1 hrest)
      rw [hdrop]
      rfl

/-- Letters have no weight, so dropping them does not change the potential. -/
theorem potential_dropWhile (base : Nat) (rest : List Char) :
    potential base (rest.dropWhile Char.isAlpha) = potential base rest := by
  induction rest with
  | nil => rfl
  | cons c rest ih =>
    cases hc : c.isAlpha with
    | true => rw [List.dropWhile_cons_of_pos hc, ih, potential_cons_of_ne (ne_dollar_of_isAlpha hc)]
    | false => rw [List.dropWhile_cons_of_neg (Bool.eq_false_iff.1 hc)]

/-- In front of a text, a text without references adds at most the block that it begins with: any
later one stands behind a character that ends the stretch, or it would belong to a reference. -/
theorem blocks_append_le {value : List Char} (h : ¬HasReference value) (text : List Char) :
    blocks (value ++ text) ≤ blocks text + (startsWithLetter value).toNat := by
  induction value with
  | nil => exact Nat.le_refl _
  | cons c rest ih =>
    have hrest := ih (not_hasReference_of_cons h)
    rw [List.cons_append]
    rcases dollar_or_letter_or_other c with rfl | hc | ⟨hdollar, hc⟩
    · rw [startsWithLetter_eq_false_of_dollar h] at hrest
      exact hrest
    · have hstart : startsWithLetter (c :: rest) = true := hc
      rw [blocks_letter hc, hstart]
      cases hnext : startsWithLetter rest with
      | true =>
        have happend : startsWithLetter (rest ++ text) = true := by
          cases rest with
          | nil => cases hnext
          | cons d rest => exact hnext
        rw [hnext] at hrest
        rw [if_pos happend]
        exact hrest
      | false =>
        rw [hnext] at hrest
        split
        · exact Nat.le_succ_of_le hrest
        · exact Nat.succ_le_succ hrest
    · rw [blocks_other hdollar hc]
      exact Nat.zero_le _

/-- A value without references adds at most one weight for each of its characters. -/
theorem potential_append_le {base : Nat} (hbase : 0 < base) {value : List Char}
    (h : ¬HasReference value) (text : List Char) :
    potential base (value ++ text) ≤
      value.length * Nat.pow base (blocks text) + potential base text := by
  induction value with
  | nil => exact Nat.le_add_left _ _
  | cons c rest ih =>
    have hrest := ih (not_hasReference_of_cons h)
    rw [List.cons_append, List.length_cons, Nat.succ_mul]
    by_cases hdollar : c = '$'
    · subst hdollar
      have hblocks := blocks_append_le (not_hasReference_of_cons h) text
      rw [startsWithLetter_eq_false_of_dollar h] at hblocks
      have hpow := Nat.pow_le_pow_right hbase hblocks
      rw [potential_dollar]
      calc Nat.pow base (blocks (rest ++ text)) + potential base (rest ++ text)
        _ ≤ Nat.pow base (blocks text) +
            (rest.length * Nat.pow base (blocks text) + potential base text) :=
          Nat.add_le_add hpow hrest
        _ = rest.length * Nat.pow base (blocks text) + Nat.pow base (blocks text) +
            potential base text := by omega
    · rw [potential_cons_of_ne hdollar]
      omega

/-! ### One round of substitution -/

/-- What substitution keeps of a text as seen from the characters in front of it: `after` has no
more blocks and no higher potential than `before`, and a letter in front begins no new block. -/
structure Below (base : Nat) (after before : List Char) : Prop where
  starts : startsWithLetter before = true → startsWithLetter after = true
  blocks_le : blocks after ≤ blocks before
  potential_le : potential base after ≤ potential base before

/-- A dollar sign in front of less weighs no more. -/
theorem Below.weight_le {base : Nat} (hbase : 0 < base) {after before : List Char}
    (h : Below base after before) (c : Char) :
    (if c = '$' then Nat.pow base (blocks after) else 0) ≤
      if c = '$' then Nat.pow base (blocks before) else 0 := by
  split
  · exact Nat.pow_le_pow_right hbase h.blocks_le
  · exact Nat.le_refl _

theorem Below.cons {base : Nat} (hbase : 0 < base) {after before : List Char}
    (h : Below base after before) (c : Char) : Below base (c :: after) (c :: before) where
  starts := id
  blocks_le := by
    have hblocks := h.blocks_le
    rcases dollar_or_letter_or_other c with rfl | hc | ⟨hdollar, hc⟩
    · exact hblocks
    · rw [blocks_letter hc, blocks_letter hc]
      cases hbefore : startsWithLetter before with
      | true =>
        rw [h.starts hbefore]
        exact hblocks
      | false =>
        rw [if_neg Bool.false_ne_true]
        split <;> omega
    · rw [blocks_other hdollar hc]
      exact Nat.zero_le _
  potential_le := Nat.add_le_add (h.weight_le hbase c) h.potential_le

/-- The dollar sign of the reference outweighs all that come with the text in its place. -/
theorem potential_append_lt {base : Nat} {value after rest : List Char}
    (hvalue : ¬HasReference value) (hlength : value.length < base)
    (hstart : startsWithLetter rest = true)
    (h : Below base after (rest.dropWhile Char.isAlpha)) :
    potential base (value ++ after) < potential base ('$' :: rest) := by
  have hbase : 0 < base := Nat.lt_of_le_of_lt (Nat.zero_le _) hlength
  have hpow := Nat.pow_le_pow_right hbase h.blocks_le
  have hpos : 0 < Nat.pow base (blocks (rest.dropWhile Char.isAlpha)) := Nat.pow_pos hbase
  calc potential base (value ++ after)
    _ ≤ value.length * Nat.pow base (blocks after) + potential base after :=
      potential_append_le hbase hvalue after
    _ ≤ value.length * Nat.pow base (blocks (rest.dropWhile Char.isAlpha)) +
        potential base (rest.dropWhile Char.isAlpha) :=
      Nat.add_le_add (Nat.mul_le_mul_left _ hpow) h.potential_le
    _ < base * Nat.pow base (blocks (rest.dropWhile Char.isAlpha)) +
        potential base (rest.dropWhile Char.isAlpha) :=
      Nat.add_lt_add_right (Nat.mul_lt_mul_of_pos_right hlength hpos) _
    _ = potential base ('$' :: rest) := by
      rw [potential_dollar, blocks_dropWhile hstart, potential_dropWhile, Nat.mul_comm]
      rfl

/-- A value in place of a reference is below it: its characters are fewer than the base, and the
blocks behind are one less. -/
theorem Below.reference {base : Nat} {value after rest : List Char}
    (hvalue : ¬HasReference value) (hlength : value.length < base)
    (hstart : startsWithLetter rest = true)
    (h : Below base after (rest.dropWhile Char.isAlpha)) :
    Below base (value ++ after) ('$' :: rest) where
  starts := nofun
  blocks_le := by
    have hblocks := blocks_append_le hvalue after
    have hafter := h.blocks_le
    have hone := (startsWithLetter value).toNat_le
    rw [blocks_dollar, blocks_dropWhile hstart]
    omega
  potential_le := Nat.le_of_lt (potential_append_lt hvalue hlength hstart h)

/-- By induction on the text, with the skipped letters of a name in one step. -/
theorem below_substitute {base : Nat} {name value : List Char} (hname : name ≠ [])
    (hvalue : ¬HasReference value) (hlength : value.length < base) (text : List Char) :
    Below base (substitute name value text) text := by
  have hbase : 0 < base := Nat.lt_of_le_of_lt (Nat.zero_le _) hlength
  match text with
  | [] => exact ⟨id, Nat.le_refl _, Nat.le_refl _⟩
  | c :: rest =>
    by_cases h : c = '$' ∧ rest.takeWhile Char.isAlpha = name
    · obtain ⟨rfl, hrest⟩ := h
      have hstart : startsWithLetter rest = true := takeWhile_ne_nil_iff.1 (hrest ▸ hname)
      rw [substitute_reference value hrest]
      exact .reference hvalue hlength hstart
        (below_substitute hname hvalue hlength (rest.dropWhile Char.isAlpha))
    · rw [substitute_cons value h]
      exact (below_substitute hname hvalue hlength rest).cons hbase c
termination_by text.length
decreasing_by
  · exact Nat.lt_succ_of_le (List.dropWhile_sublist _).length_le
  · exact Nat.lt_succ_self _

/-- Substituting a text without references for the first reference lowers the potential. -/
theorem potential_substitute_lt {base : Nat} {text name value : List Char}
    (hvalue : ¬HasReference value) (hlength : value.length < base)
    (h : firstReference? text = some name) :
    potential base (substitute name value text) < potential base text := by
  have hname := ne_nil_of_firstReference h
  have hbelow := below_substitute hname hvalue hlength
  induction text with
  | nil => cases h
  | cons c rest ih =>
    rw [firstReference_cons] at h
    split at h
    · next hc =>
      obtain ⟨rfl, hstart⟩ := hc
      rw [substitute_reference value (Option.some.inj h)]
      exact potential_append_lt hvalue hlength hstart (hbelow _)
    · next hc =>
      have hkept : ¬(c = '$' ∧ rest.takeWhile Char.isAlpha = name) := fun hother ↦
        hc ⟨hother.1, takeWhile_ne_nil_iff.1 (hother.2 ▸ hname)⟩
      have hbase : 0 < base := Nat.lt_of_le_of_lt (Nat.zero_le _) hlength
      rw [substitute_cons value hkept]
      exact Nat.add_lt_add_of_le_of_lt ((hbelow rest).weight_le hbase c) (ih h)

end Template

end ScriptForms
