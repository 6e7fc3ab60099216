import ScriptForms.Number.Digits

/-!
# Dates and times

The dates and times that can be written in a settings file: a date, a time of day, or both, and then
maybe the offset from universal time. A text that has the form of a date may still name a day that
does not exist.
-/

namespace ScriptForms.Toml

/-- A day of the calendar. -/
structure Date where
  year : Nat
  month : Nat
  day : Nat
  deriving DecidableEq, Repr

/-- A time of day. -/
structure TimeOfDay where
  hour : Nat
  minute : Nat
  second : Nat
  microsecond : Nat
  deriving DecidableEq, Repr

/-- A date, a time of day, or both. -/
structure Moment where
  date : Option Date
  time : Option TimeOfDay
  /-- The minutes by which the time is ahead of universal time. -/
  offset : Option Int
  deriving DecidableEq, Repr

/-! ### Days -/

/-- Whether a year has a leap day. -/
def isLeapYear (year : Nat) : Bool :=
  year % 4 == 0 && (year % 100 != 0 || year % 400 == 0)

/-- The number of days of a month. -/
def daysInMonth (year month : Nat) : Nat :=
  if month = 2 then (if isLeapYear year then 29 else 28)
  else if month = 4 ∨ month = 6 ∨ month = 9 ∨ month = 11 then 30
  else 31

/-- Whether there is such a day. The calendar starts with the year one. -/
def Date.isReal (date : Date) : Bool :=
  0 < date.year && date.day ≤ daysInMonth date.year date.month

/-! ### Reading -/

/-- A number of exactly `count` digits that lies between two bounds, and the characters behind
it. -/
def fixedNumber? (count low high : Nat) (cs : List Char) : Option (Nat × List Char) :=
  let digits := cs.take count
  let found := Digits.ofChars 10 digits
  if digits.length = count ∧ digits.all Char.isDigit ∧ low ≤ found ∧ found ≤ high then
    some (found, cs.drop count)
  else none

/-- The characters behind an expected one. -/
def expect? (c : Char) : List Char → Option (List Char)
  | d :: rest => if c = d then some rest else none
  | [] => none

/-- A date in form, whether there is such a day or not. -/
def date? (cs : List Char) : Option (Date × List Char) := do
  let (year, cs) ← fixedNumber? 4 0 9999 cs
  let (month, cs) ← fixedNumber? 2 1 12 (← expect? '-' cs)
  let (day, cs) ← fixedNumber? 2 1 31 (← expect? '-' cs)
  return (⟨year, month, day⟩, cs)

/-- The millionths at the front, behind a point. Further digits do not count. -/
def microseconds (cs : List Char) : Nat × List Char :=
  match cs with
  | '.' :: rest =>
    let digits := rest.takeWhile Char.isDigit
    if digits.isEmpty then (0, cs)
    else (Digits.ofChars 10 ((digits ++ List.replicate 6 '0').take 6), rest.drop digits.length)
  | _ => (0, cs)

/-- A time of day. -/
def timeOfDay? (cs : List Char) : Option (TimeOfDay × List Char) := do
  let (hour, cs) ← fixedNumber? 2 0 23 cs
  let (minute, cs) ← fixedNumber? 2 0 59 (← expect? ':' cs)
  let (second, cs) ← fixedNumber? 2 0 59 (← expect? ':' cs)
  let (micro, cs) := microseconds cs
  return (⟨hour, minute, second, micro⟩, cs)

/-- An offset from universal time in hours and minutes. -/
def offsetSize? (cs : List Char) : Option (Nat × List Char) := do
  let (hour, cs) ← fixedNumber? 2 0 23 cs
  let (minute, cs) ← fixedNumber? 2 0 59 (← expect? ':' cs)
  return (60 * hour + minute, cs)

/-- The offset at the front, if there is one. -/
def offset (cs : List Char) : Option Int × List Char :=
  match cs with
  | 'Z' :: rest => (some 0, rest)
  | 'z' :: rest => (some 0, rest)
  | '+' :: rest =>
    match offsetSize? rest with
    | some (size, rest) => (some (size : Int), rest)
    | none => (none, cs)
  | '-' :: rest =>
    match offsetSize? rest with
    | some (size, rest) => (some (-(size : Int)), rest)
    | none => (none, cs)
  | _ => (none, cs)

/-- The time behind a date, if there is one. -/
def timeBehindDate? : List Char → Option (TimeOfDay × List Char)
  | c :: rest => if c = 'T' ∨ c = 't' ∨ c = ' ' then timeOfDay? rest else none
  | [] => none

/-- A moment in form, and the characters behind it. -/
def moment? (cs : List Char) : Option (Moment × List Char) :=
  match date? cs with
  | none => (timeOfDay? cs).map fun (time, rest) ↦ (⟨none, some time, none⟩, rest)
  | some (date, rest) =>
    match timeBehindDate? rest with
    | none => some (⟨some date, none, none⟩, rest)
    | some (time, rest) =>
      let (offset, rest) := offset rest
      some (⟨some date, some time, offset⟩, rest)

end ScriptForms.Toml
