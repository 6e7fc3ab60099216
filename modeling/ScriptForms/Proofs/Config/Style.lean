import Mathlib.Data.List.TakeWhile
import ScriptForms.Proofs.Config.Precedence
import ScriptForms.Proofs.Text.LowerCase

/-!
# Style names

A style is checked by trimming it, dropping the colons in front of it and lower-casing the rest,
each once and in this order. The result never starts with a colon and never ends with a blank. It
starts with a blank if one stands behind the colons (`startsBlank_bareStyle_iff`), since trimming is
over by then. Just such a style is not kept if it is checked again (`checkStyle_again_iff`).
-/

namespace ScriptForms

namespace Text

/-! ### Trimming -/

/-- Whether a text starts with a blank. -/
def startsBlank (text : List Char) : Bool :=
  text.head?.any isBlank

/-- Whether a text ends with a blank. -/
def endsBlank (text : List Char) : Bool :=
  text.getLast?.any isBlank

/-- What is left after characters of a kind were dropped does not start with one. -/
theorem any_head?_dropWhile (p : Char → Bool) (text : List Char) :
    (text.dropWhile p).head?.any p = false := by
  have hhead := List.head?_dropWhile_not p text
  cases h : (text.dropWhile p).head? with
  | none => rfl
  | some c =>
    rw [h] at hhead
    exact hhead

theorem dropWhile_eq_self {p : Char → Bool} {text : List Char} (h : text.head?.any p = false) :
    text.dropWhile p = text := by
  cases text with
  | nil => rfl
  | cons c text =>
    have hc : p c = false := h
    exact List.dropWhile_cons_of_neg (by rw [hc]; decide)

theorem endsBlank_trim (text : List Char) : endsBlank (trim text) = false := by
  rw [endsBlank, trim, trimRight, List.getLast?_reverse]
  exact any_head?_dropWhile isBlank _

/-- Trimming keeps a text that neither starts nor ends with a blank. -/
theorem trim_eq_self {text : List Char} (hstart : startsBlank text = false)
    (hend : endsBlank text = false) :
    trim text = text := by
  have hlast : text.reverse.head?.any isBlank = false := by
    rw [List.head?_reverse]
    exact hend
  rw [trim, trimLeft, dropWhile_eq_self hstart, trimRight, dropWhile_eq_self hlast,
    List.reverse_reverse]

/-- Trimming on the right only cuts off the end. -/
theorem trim_prefix_trimLeft (text : List Char) : trim text <+: trimLeft text := by
  rw [trim, trimRight, ← List.reverse_suffix, List.reverse_reverse]
  exact List.dropWhile_suffix isBlank

/-- What stands before a trimmed text is blank. -/
theorem exists_front_of_trim (text : List Char) :
    ∃ front back, (∀ c ∈ front, isBlank c = true) ∧ text = front ++ (trim text ++ back) := by
  obtain ⟨back, hback⟩ := trim_prefix_trimLeft text
  refine ⟨text.takeWhile isBlank, back, fun c ↦ List.mem_takeWhile_imp, ?_⟩
  rw [hback]
  exact List.takeWhile_append_dropWhile.symm

theorem startsBlank_trim (text : List Char) : startsBlank (trim text) = false := by
  obtain ⟨back, hback⟩ := trim_prefix_trimLeft text
  cases htrim : trim text with
  | nil => rfl
  | cons c rest =>
    have hhead := any_head?_dropWhile isBlank text
    rw [htrim] at hback
    rwa [← trimLeft, ← hback] at hhead

/-- Trimming a text that starts with a blank makes it shorter. -/
theorem length_trim_lt {text : List Char} (hstart : startsBlank text = true) :
    (trim text).length < text.length := by
  cases text with
  | nil => cases hstart
  | cons c text =>
    have hleft : trimLeft (c :: text) = trimLeft text := List.dropWhile_cons_of_pos hstart
    have hle := (trim_prefix_trimLeft (c :: text)).length_le
    rw [hleft] at hle
    have hrest : (trimLeft text).length ≤ text.length := (List.dropWhile_sublist isBlank).length_le
    rw [List.length_cons]
    omega

end Text

open Text

/-! ### Names -/

/-- What a style is made from: its text without blanks around it and then without colons in
front. -/
def bareStyle (text : String) : List Char :=
  (trim text.toList).dropWhile (· == ':')

theorem styleName_eq (text : String) : styleName text = toLower (bareStyle text) :=
  rfl

theorem endsBlank_bareStyle (text : String) : endsBlank (bareStyle text) = false := by
  rcases eq_or_ne (bareStyle text) [] with hnil | hne
  · rw [hnil]
    rfl
  · obtain ⟨colons, hcolons⟩ : bareStyle text <:+ trim text.toList := List.dropWhile_suffix _
    have hend := endsBlank_trim text.toList
    rwa [endsBlank, ← hcolons, List.getLast?_append_of_ne_nil colons hne] at hend

/-- The bare style is the trimmed text without the colons in front. -/
theorem exists_colons_of_trim (text : String) :
    ∃ count, trim text.toList = List.replicate count ':' ++ bareStyle text := by
  have hcolons : ∀ c ∈ (trim text.toList).takeWhile (· == ':'), c = ':' := by
    intro c hc
    have hcolon := List.mem_takeWhile_imp hc
    exact beq_iff_eq.1 hcolon
  refine ⟨((trim text.toList).takeWhile (· == ':')).length, ?_⟩
  rw [← List.eq_replicate_iff.2 ⟨rfl, hcolons⟩]
  exact List.takeWhile_append_dropWhile.symm

theorem length_bareStyle_le (text : String) : (bareStyle text).length ≤ (trim text.toList).length :=
  (List.dropWhile_sublist _).length_le

/-- The bare style has no characters that the text has not. -/
theorem mem_of_mem_bareStyle {text : String} {c : Char} (h : c ∈ bareStyle text) :
    c ∈ text.toList := by
  have htrim : c ∈ trim text.toList := (List.dropWhile_sublist _).subset h
  have hleft : c ∈ trimLeft text.toList := (trim_prefix_trimLeft text.toList).subset htrim
  exact (List.dropWhile_sublist _).subset hleft

/-- Neither end of a name becomes or ceases to be a blank or a colon in lower case. -/
theorem ends_styleName (text : String) :
    startsBlank (styleName text) = startsBlank (bareStyle text) ∧
      endsBlank (styleName text) = false ∧
      (styleName text).head?.any (· == ':') = false := by
  have hblank : ∀ c, isBlank c = true → isSeparator c = true := fun c ↦ isSeparator_of_isBlank
  have hcolon : ∀ c, (c == ':') = true → isSeparator c = true := by
    intro c hc
    rw [beq_iff_eq.1 hc]
    decide
  refine ⟨any_head?_lowerAfter hblank [] (bareStyle text), ?_, ?_⟩
  · exact (any_getLast?_lowerAfter hblank [] (bareStyle text)).trans (endsBlank_bareStyle text)
  · exact (any_head?_lowerAfter hcolon [] (bareStyle text)).trans (any_head?_dropWhile (· == ':') _)

/-! ### Blanks behind colons -/

/-- A blank stands right behind the colons in front of a text. There may be blanks before the
colons. -/
def BlankBehindColons (text : List Char) : Prop :=
  ∃ front count c rest, (∀ d ∈ front, isBlank d = true) ∧ isBlank c = true ∧
    text = front ++ (List.replicate (count + 1) ':' ++ c :: rest)

/-- A bare style that starts with a blank had it right behind the colons. -/
theorem blankBehindColons_of_startsBlank {text : String} (h : startsBlank (bareStyle text) = true) :
    BlankBehindColons text.toList := by
  obtain ⟨front, back, hfront, htext⟩ := exists_front_of_trim text.toList
  obtain ⟨count, htrim⟩ := exists_colons_of_trim text
  cases hbare : bareStyle text with
  | nil =>
    rw [hbare] at h
    cases h
  | cons c rest =>
    rw [hbare] at h htrim
    cases count with
    | zero =>
      -- without colons the blank would have been trimmed
      have hstart := startsBlank_trim text.toList
      rw [htrim] at hstart
      exact absurd (h.symm.trans hstart) (by decide)
    | succ count =>
      refine ⟨front, count, c, rest ++ back, hfront, h, ?_⟩
      rw [htrim, List.append_assoc, List.cons_append] at htext
      exact htext

/-- A blank right behind the colons is where the bare style starts, if it is not empty. -/
theorem startsBlank_of_blankBehindColons {text : String} (hne : bareStyle text ≠ [])
    (h : BlankBehindColons text.toList) : startsBlank (bareStyle text) = true := by
  obtain ⟨front, count, c, rest, hfront, hc, htext⟩ := h
  have hcolons : ∀ d ∈ List.replicate (count + 1) ':', (d == ':') = true :=
    fun d hd ↦ beq_iff_eq.2 (List.eq_of_mem_replicate hd)
  have hleft : trimLeft text.toList = List.replicate (count + 1) ':' ++ c :: rest := by
    rw [trimLeft, htext, List.dropWhile_append_of_pos hfront]
    exact List.dropWhile_cons_of_neg (by decide)
  have htrim := trim_prefix_trimLeft text.toList
  rw [hleft] at htrim
  rcases List.prefix_or_prefix_of_prefix htrim (List.prefix_append _ (c :: rest)) with
    hshort | ⟨more, hmore⟩
  · -- nothing but colons would be left
    exact absurd (List.dropWhile_eq_nil_iff.2 fun d hd ↦ hcolons d (hshort.subset hd)) hne
  · rw [← hmore, List.prefix_append_right_inj] at htrim
    rw [bareStyle, ← hmore, List.dropWhile_append_of_pos hcolons] at hne ⊢
    cases more with
    | nil => exact absurd rfl hne
    | cons d more =>
      obtain ⟨rfl, -⟩ := List.cons_prefix_cons.1 htrim
      have hcolon : ¬ (d == ':') = true := by
        intro hd
        rw [beq_iff_eq.1 hd] at hc
        exact absurd hc (by decide)
      have hdrop : (d :: more).dropWhile (· == ':') = d :: more := List.dropWhile_cons_of_neg hcolon
      rw [hdrop]
      exact hc

/-- What is left of a style starts with a blank just if a blank stands behind its colons. -/
theorem startsBlank_bareStyle_iff {text : String} (hne : bareStyle text ≠ []) :
    startsBlank (bareStyle text) = false ↔ ¬ BlankBehindColons text.toList := by
  rw [← Bool.not_eq_true, not_iff_not]
  exact ⟨blankBehindColons_of_startsBlank, startsBlank_of_blankBehindColons hne⟩

/-! ### Names that are checked again -/

/-- A name in lower case stays as it is just if it does not start with a blank. -/
theorem styleName_styleName_iff (text : String) :
    styleName (String.ofList (styleName text)) = styleName text ↔
      startsBlank (styleName text) = false := by
  obtain ⟨-, hend, hcolon⟩ := ends_styleName text
  have htext : (String.ofList (styleName text)).toList = styleName text := String.toList_ofList
  have hsettled : ∀ c ∈ bareStyle (String.ofList (styleName text)), IsSettled c := by
    intro c hc
    have hmem := mem_of_mem_bareStyle hc
    rw [htext] at hmem
    exact isSettled_of_mem_lowerAfter hmem
  have hlower : styleName (String.ofList (styleName text)) =
    bareStyle (String.ofList (styleName text)) :=
    lowerAfter_of_isSettled hsettled []
  rw [hlower]
  constructor
  · intro hsame
    by_contra hstart
    rw [Bool.not_eq_false] at hstart
    have hle := length_bareStyle_le (String.ofList (styleName text))
    have hlt := length_trim_lt hstart
    rw [hsame, htext] at hle
    omega
  · intro hstart
    rw [bareStyle, htext, trim_eq_self hstart hend, dropWhile_eq_self hcolon]

/-- A text is accepted as a style exactly if something is left of it. -/
theorem checkStyle_text_eq_ok_iff {text style : String} :
    checkStyle (some (.text text)) = .ok style ↔
      styleName text ≠ [] ∧ style = String.ofList (styleName text) := by
  rw [checkStyle]
  constructor
  · intro h
    split at h
    · cases h
    · exact ⟨by assumption, (Except.ok.inj h).symm⟩
  · rintro ⟨hne, rfl⟩
    exact if_neg hne

/-- An accepted style is accepted again and kept exactly if it starts with no blank. -/
theorem checkStyle_again_iff {text style : String}
    (h : checkStyle (some (.text text)) = .ok style) :
    checkStyle (some (.text style)) = .ok style ↔ startsBlank style.toList = false := by
  obtain ⟨hne, rfl⟩ := checkStyle_text_eq_ok_iff.1 h
  rw [checkStyle_text_eq_ok_iff, String.toList_ofList, ← styleName_styleName_iff]
  constructor
  · rintro ⟨-, hsame⟩
    have hlists := congrArg String.toList hsame
    rw [String.toList_ofList, String.toList_ofList] at hlists
    exact hlists.symm
  · intro hsame
    rw [hsame]
    exact ⟨hne, rfl⟩

/-- **Styles are bare names, except where a blank stands behind colons.** The style in checked
settings is not empty and in lower case, does not start with a colon and does not end with a blank.
It does not start with a blank either, unless one stands behind the colons in front of the text that
was given. Under the same condition the settings with this style in place of the text are accepted
again, with the same result. -/
theorem checked_style_is_bare_iff {settings : Settings} {config : Config} {text : String}
    (hstyle : settings.style = some (.text text)) (hcheck : settings.check = .ok config) :
    config.style ≠ "" ∧ toLower config.style.toList = config.style.toList ∧
      config.style.toList.head? ≠ some ':' ∧ endsBlank config.style.toList = false ∧
      (startsBlank config.style.toList = false ↔ ¬ BlankBehindColons text.toList) ∧
      ({ settings with style := some (.text config.style) }.check = .ok config ↔
        ¬ BlankBehindColons text.toList) := by
  obtain ⟨hformatter, hchecked, hcommand⟩ := Settings.check_eq_ok_iff.1 hcheck
  rw [hstyle] at hchecked
  obtain ⟨hne, hname⟩ := checkStyle_text_eq_ok_iff.1 hchecked
  have htext : config.style.toList = styleName text := by rw [hname, String.toList_ofList]
  obtain ⟨hstart, hend, hcolon⟩ := ends_styleName text
  have hbare : bareStyle text ≠ [] := lowerAfter_eq_nil_iff.not.1 hne
  have hblank : startsBlank config.style.toList = false ↔ ¬ BlankBehindColons text.toList := by
    rw [htext, hstart, startsBlank_bareStyle_iff hbare]
  have hagain : { settings with style := some (.text config.style) }.check = .ok config ↔
      checkStyle (some (.text config.style)) = .ok config.style := by
    rw [Settings.check_eq_ok_iff]
    exact ⟨fun h ↦ h.2.1, fun h ↦ ⟨hformatter, h, hcommand⟩⟩
  refine ⟨?_, ?_, ?_, htext ▸ hend, hblank, hagain.trans
    ((checkStyle_again_iff hchecked).trans hblank)⟩
  · intro hempty
    rw [hempty] at htext
    exact hne htext.symm
  · rw [htext, styleName_eq, toLower_toLower]
  · intro hhead
    rw [← htext, hhead] at hcolon
    cases hcolon

/-- A style with blanks around it, a colon in front and capital letters. -/
theorem checked_style_is_bare_iff_justified :
    let settings (text : String) : Settings := ⟨none, some (.text text), none⟩
    let config : Config := ⟨.zprint, "justified", "zprint"⟩
    (settings " :Justified ").check = .ok config ∧ ¬ BlankBehindColons " :Justified ".toList ∧
      (settings "justified").check = .ok config := by
  intro settings config
  have hcheck : (settings " :Justified ").check = .ok config := by decide +kernel
  obtain ⟨-, -, -, -, hstart, hagain⟩ := checked_style_is_bare_iff rfl hcheck
  have hblank : ¬ BlankBehindColons " :Justified ".toList := hstart.1 (by decide +kernel)
  exact ⟨hcheck, hblank, hagain.2 hblank⟩

/-- Blanks behind the colons stay. Such a style is another one if it is checked again, or none. -/
theorem check_keeps_blank_behind_colon :
    let settings (text : String) : Settings := ⟨none, some (.text text), none⟩
    (settings ": a").check = .ok ⟨.zprint, " a", "zprint"⟩ ∧ startsBlank " a".toList = true ∧
      (settings " a").check = .ok ⟨.zprint, "a", "zprint"⟩ ∧
      (settings ": :").check = .ok ⟨.zprint, " :", "zprint"⟩ ∧
      (settings " :").check = .error [.emptyStyle] := by
  decide +kernel

end ScriptForms
