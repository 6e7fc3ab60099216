import ScriptForms.Toml.Text

/-!
# Numbers in TOML

Whole numbers in decimal, hexadecimal, octal or binary digits, and floating-point numbers. One
underscore may stand between two digits.
-/

namespace ScriptForms.Toml

/-- The digits at the front and what follows; an underscore may stand before a digit, but not
first. -/
def digitRun (isDigit : Char → Bool) (cs : List Char) : List Char × List Char :=
  if cs.head?.any isDigit then go cs else ([], cs)
where
  /-- The digits behind a digit. -/
  go : List Char → List Char × List Char
    | [] => ([], [])
    | c :: rest =>
      if isDigit c then
        let (more, rest) := go rest
        (c :: more, rest)
      else if c == '_' && rest.head?.any isDigit then go rest
      else ([], c :: rest)

/-- The base that a letter behind a zero stands for. -/
def baseOfLetter? : Char → Option Nat
  | 'x' => some 16
  | 'o' => some 8
  | 'b' => some 2
  | _ => none

/-- A whole number in a base that is marked by a letter. -/
def basedInteger? : List Char → Option (Int × List Char)
  | '0' :: letter :: rest =>
    match baseOfLetter? letter with
    | none => none
    | some base =>
      let (digits, rest) := digitRun (fun c ↦ (Digits.value? c).any (· < base)) rest
      if digits.isEmpty then none else some (Digits.ofChars base digits, rest)
  | _ => none

/-- A sign at the front: whether it is a minus, and what follows. -/
def takeSign : List Char → Bool × List Char
  | '-' :: rest => (true, rest)
  | '+' :: rest => (false, rest)
  | cs => (false, cs)

/-- The fraction at the front: a point and digits. -/
def fraction? : List Char → Option (List Char × List Char)
  | '.' :: rest =>
    let (digits, rest) := digitRun Char.isDigit rest
    if digits.isEmpty then none else some (digits, rest)
  | _ => none

/-- The exponent at the front: a letter, maybe a sign, and digits. -/
def exponent? : List Char → Option (Int × List Char)
  | mark :: rest =>
    if mark = 'e' ∨ mark = 'E' then
      let (negative, rest) := takeSign rest
      let (digits, rest) := digitRun Char.isDigit rest
      let size : Int := Digits.ofChars 10 digits
      if digits.isEmpty then none else some (if negative then -size else size, rest)
    else none
  | [] => none

/-- A number in decimal digits. Only zero starts with a zero. -/
def decimal (cs : List Char) : Parsed Value :=
  let (negative, unsigned) := takeSign cs
  let (whole, rest) : List Char × List Char :=
    match unsigned with
    | '0' :: rest => (['0'], rest)
    | _ => digitRun Char.isDigit unsigned
  if whole.isEmpty then .error .invalidValue
  else
    let places := (fraction? rest).map Prod.fst
    let rest := ((fraction? rest).map Prod.snd).getD rest
    let power := (exponent? rest).map Prod.fst
    let rest := ((exponent? rest).map Prod.snd).getD rest
    if places.isSome || power.isSome then
      let places := places.getD []
      .ok (.float (.ofDecimal negative (Digits.ofChars 10 (whole ++ places))
        (power.getD 0 - places.length)), rest)
    else if Digits.maxCount < whole.length then .error .integerTooLong
    else
      let size : Int := Digits.ofChars 10 whole
      .ok (.integer (if negative then -size else size), rest)

/-- The words for floating-point numbers that have no digits. -/
def floatWords : List (List Char × Binary64) :=
  [("inf".toList, .infinite false), ("+inf".toList, .infinite false),
   ("-inf".toList, .infinite true), ("nan".toList, .nan), ("+nan".toList, .nan),
   ("-nan".toList, .nan)]

/-- The number at the front. -/
def number (cs : List Char) : Parsed Value :=
  match basedInteger? cs with
  | some (found, rest) => .ok (.integer found, rest)
  | none =>
    match floatWords.find? fun (word, _) ↦ word.isPrefixOf cs with
    | some (word, found) => .ok (.float found, cs.drop word.length)
    | none => decimal cs

end ScriptForms.Toml
