import ScriptForms.Text.Utf8

/-!
# Code points in texts of trees

The texts of trees may hold any code points, also surrogates that belong to no pair: an escape in
the written form of a tree can name them. There are no such characters. So in these texts a
surrogate stands as a mark with a stand-in behind it, the character of the private use area that
lies as far behind its beginning as the surrogate lies behind that of the surrogates, and the mark
itself stands twice. What a text consists of are its code points (`codePoints`), and it can be
encoded if none of them is a surrogate.
-/

namespace ScriptForms.Text

/-- Whether a code point is a surrogate. -/
def isSurrogate (code : Nat) : Bool :=
  0xD800 ≤ code && code < 0xE000

/-- The mark in front of stand-ins, which is the last of all characters. -/
def surrogateMark : Char :=
  Char.ofNat 0x10FFFF

/-- Whether a character stands for a surrogate, behind a mark. -/
def isStandIn (c : Char) : Bool :=
  0xE000 ≤ c.toNat && c.toNat < 0xE800

/-- A code point in a text. -/
def ofCodePoint (code : Nat) : List Char :=
  if code = surrogateMark.toNat then [surrogateMark, surrogateMark]
  else if isSurrogate code then [surrogateMark, Char.ofNat (code + 0x800)]
  else [Char.ofNat code]

/-- The code points of a text. A mark that stands before neither a mark nor a stand-in is there for
itself. -/
def codePoints : List Char → List Nat
  | [] => []
  | [c] => [c.toNat]
  | c :: d :: rest =>
    if c = surrogateMark ∧ d = surrogateMark then c.toNat :: codePoints rest
    else if c = surrogateMark ∧ isStandIn d then (d.toNat - 0x800) :: codePoints rest
    else c.toNat :: codePoints (d :: rest)

/-- The UTF-8 bytes of a code point, which must be no surrogate. -/
def encodeCodePoint? (code : Nat) : Option (List UInt8) :=
  if isSurrogate code then none else some (String.utf8EncodeChar (Char.ofNat code))

/-- The UTF-8 bytes of a text, if it holds no surrogate. -/
def encode? (text : List Char) : Option (List UInt8) :=
  ((codePoints text).mapM encodeCodePoint?).map List.flatten

/-! ### Texts and their code points -/

/-- Only a mark can belong together with the character behind it. -/
theorem codePoints_cons_of_ne {c : Char} (h : c ≠ surrogateMark) (rest : List Char) :
    codePoints (c :: rest) = c.toNat :: codePoints rest := by
  cases rest with
  | nil => rfl
  | cons d rest => rw [codePoints, if_neg fun hc ↦ h hc.1, if_neg fun hc ↦ h hc.1]

/-- A code point that is no surrogate has a character of its own. -/
theorem toNat_ofNat {code : Nat} (h : code.isValidChar) : (Char.ofNat code).toNat = code := by
  rw [Char.ofNat, dif_pos h]
  rfl

/-- A code point that is put in front of a text is found there. -/
theorem codePoints_ofCodePoint_append {code : Nat} (h : code < 0x110000) (rest : List Char) :
    codePoints (ofCodePoint code ++ rest) = code :: codePoints rest := by
  rw [ofCodePoint]
  split
  · next hmark =>
    rw [hmark]
    exact if_pos ⟨rfl, rfl⟩
  · next hmark =>
    split
    · next hsurrogate =>
      have hrange : 0xD800 ≤ code ∧ code < 0xE000 := by simpa [isSurrogate] using hsurrogate
      have hnat : (Char.ofNat (code + 0x800)).toNat = code + 0x800 :=
        toNat_ofNat (.inr ⟨by omega, by omega⟩)
      have hstandIn : isStandIn (Char.ofNat (code + 0x800)) = true := by
        simp only [isStandIn, hnat, Bool.and_eq_true, decide_eq_true_iff]
        omega
      have hne : Char.ofNat (code + 0x800) ≠ surrogateMark := by
        intro heq
        have hcode : code + 0x800 = 0x10FFFF := hnat.symm.trans (congrArg Char.toNat heq)
        omega
      rw [List.cons_append, List.cons_append, List.nil_append, codePoints,
        if_neg fun hc ↦ hne hc.2, if_pos ⟨rfl, hstandIn⟩, hnat, Nat.add_sub_cancel]
    · next hsurrogate =>
      have hrange : code < 0xD800 ∨ 0xE000 ≤ code := by
        rw [isSurrogate, Bool.and_eq_true, decide_eq_true_iff, decide_eq_true_iff] at hsurrogate
        omega
      have hnat : (Char.ofNat code).toNat = code := toNat_ofNat (by unfold Nat.isValidChar; omega)
      have hne : Char.ofNat code ≠ surrogateMark := fun heq ↦
        hmark (hnat.symm.trans (congrArg Char.toNat heq))
      rw [List.singleton_append, codePoints_cons_of_ne hne, hnat]

/-- A line feed behind a text is a code point of its own. -/
theorem codePoints_append_lineFeed (text : List Char) :
    codePoints (text ++ ['\n']) = codePoints text ++ ['\n'.toNat] := by
  fun_induction codePoints text with
  | case1 => rfl
  | case2 c =>
    rw [List.singleton_append, codePoints, if_neg fun hc ↦ absurd hc.2 (by decide),
      if_neg fun hc ↦ absurd hc.2 (by decide)]
    rfl
  | case3 c d rest hmarks ih =>
    rw [List.cons_append, List.cons_append, codePoints, if_pos hmarks, ih, List.cons_append]
  | case4 c d rest hmarks hstandIn ih =>
    rw [List.cons_append, List.cons_append, codePoints, if_neg hmarks, if_pos hstandIn, ih,
      List.cons_append]
  | case5 c d rest hmarks hstandIn ih =>
    rw [List.cons_append, List.cons_append, codePoints, if_neg hmarks, if_neg hstandIn,
      ← List.cons_append, ih, List.cons_append]

/-- A text with a line feed behind it can be encoded exactly if the text can. -/
theorem encode?_append_lineFeed_eq_none_iff (text : List Char) :
    encode? (text ++ ['\n']) = none ↔ encode? text = none := by
  rw [encode?, encode?, codePoints_append_lineFeed, Option.map_eq_none_iff, Option.map_eq_none_iff,
    List.mapM_append]
  cases (codePoints text).mapM encodeCodePoint? with
  | none => exact iff_of_true rfl rfl
  | some bytes => exact iff_of_false (Option.some_ne_none _) (Option.some_ne_none _)

end ScriptForms.Text
