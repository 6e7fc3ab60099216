/-!
# UTF-8

Decoding of UTF-8 with the place and the reason of the first offence. A lead byte announces how many
continuation bytes follow and which range the first of them must lie in; an offence covers the lead
byte and the continuation bytes that were right.
-/

namespace ScriptForms.Text

/-- Why bytes are not UTF-8. -/
inductive Utf8Reason where
  | invalidStart
  | invalidContinuation
  | unexpectedEnd
  deriving DecidableEq, Repr

/-- The wording of a reason. -/
def Utf8Reason.message : Utf8Reason → String
  | invalidStart => "invalid start byte"
  | invalidContinuation => "invalid continuation byte"
  | unexpectedEnd => "unexpected end of data"

/-- Bytes that are not UTF-8: the first offender, its place, and how many bytes the offence
covers. -/
structure Utf8Error where
  byte : UInt8
  offset : Nat
  count : Nat
  reason : Utf8Reason
  deriving DecidableEq, Repr

/-- The wording of an error. -/
def Utf8Error.message (e : Utf8Error) : String :=
  let hex := String.ofList (Nat.toDigits 16 e.byte.toNat)
  let place :=
    if e.count ≤ 1 then "byte 0x" ++ hex ++ " in position " ++ toString e.offset
    else "bytes in position " ++ toString e.offset ++ "-" ++ toString (e.offset + e.count - 1)
  "'utf-8' codec can't decode " ++ place ++ ": " ++ e.reason.message

/-- What a lead byte announces: the bits that it carries, the range of the next byte, and the number
of continuation bytes. -/
structure Lead where
  bits : Nat
  low : Nat
  high : Nat
  count : Nat

/-- What a byte that is not ASCII announces, if it can start a character. -/
def lead? (byte : Nat) : Option Lead :=
  if byte < 0xC2 then none
  else if byte < 0xE0 then some ⟨byte - 0xC0, 0x80, 0xBF, 1⟩
  else if byte < 0xF0 then
    some ⟨byte - 0xE0, if byte = 0xE0 then 0xA0 else 0x80, if byte = 0xED then 0x9F else 0xBF, 2⟩
  else if byte < 0xF5 then
    some ⟨byte - 0xF0, if byte = 0xF0 then 0x90 else 0x80, if byte = 0xF4 then 0x8F else 0xBF, 3⟩
  else none

/-- Reads `count` continuation bytes, the first of them between `low` and `high`. Gives the code
point, or the reason and how many continuation bytes were right. -/
def continuation : Nat → Nat → Nat → Nat → List UInt8 → Nat → Except (Utf8Reason × Nat) Nat
  | 0, _, _, bits, _, _ => .ok bits
  | _ + 1, _, _, _, [], right => .error (.unexpectedEnd, right)
  | count + 1, low, high, bits, byte :: rest, right =>
    if low ≤ byte.toNat ∧ byte.toNat ≤ high then
      continuation count 0x80 0xBF (bits * 64 + (byte.toNat - 0x80)) rest (right + 1)
    else .error (.invalidContinuation, right)

/-- Decodes bytes that stand after `offset` others and begin with `skip` continuation bytes of a
character that was read. -/
def decodeFrom : Nat → Nat → List UInt8 → Except Utf8Error (List Char)
  | _, _, [] => .ok []
  | offset, skip + 1, _ :: rest => decodeFrom (offset + 1) skip rest
  | offset, 0, byte :: rest =>
    if byte.toNat < 0x80 then
      (decodeFrom (offset + 1) 0 rest).map (Char.ofNat byte.toNat :: ·)
    else
      match lead? byte.toNat with
      | none => .error ⟨byte, offset, 1, .invalidStart⟩
      | some lead =>
        match continuation lead.count lead.low lead.high lead.bits rest 0 with
        | .error (reason, right) => .error ⟨byte, offset, right + 1, reason⟩
        | .ok code => (decodeFrom (offset + 1) lead.count rest).map (Char.ofNat code :: ·)

/-- Decodes UTF-8. -/
def decodeUtf8 (bytes : List UInt8) : Except Utf8Error (List Char) :=
  decodeFrom 0 0 bytes

/-- The UTF-8 bytes of a text. -/
def encodeUtf8 (cs : List Char) : List UInt8 :=
  cs.flatMap String.utf8EncodeChar

/-- A text with every line end, be it CR, LF or both, written as LF. -/
def unifyNewlines : List Char → List Char
  | '\r' :: '\n' :: rest => '\n' :: unifyNewlines rest
  | '\r' :: rest => '\n' :: unifyNewlines rest
  | c :: rest => c :: unifyNewlines rest
  | [] => []

end ScriptForms.Text
