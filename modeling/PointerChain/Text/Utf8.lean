import PointerChain.Text.Raw

/-!
# Decoding of UTF-8

Bytes are decoded one at a time. Between two characters there is nothing to remember; inside a
character, `Partial` holds what its first bytes have fixed. Overlong forms, surrogates and values
past the last code point are refused at the second byte, whose range the first byte determines.

* `decodeUtf8` decodes strictly.
* `decodeUtf8Passing` lets halves of surrogate pairs pass, each written in three bytes.
-/

namespace PointerChain.Text

/-- Why bytes are no text. -/
inductive DecodeReason where
  /-- No character starts with this byte. -/
  | invalidStart
  /-- The byte that follows does not continue the character. -/
  | invalidContinuation
  /-- The bytes end inside a character. -/
  | endOfData
  /-- The bytes do not fill the last unit. -/
  | truncated
  /-- The unit is no code point. -/
  | outOfRange
  deriving DecidableEq, Repr

/-- The wording of a reason. -/
def DecodeReason.message : DecodeReason → String
  | .invalidStart => "invalid start byte"
  | .invalidContinuation => "invalid continuation byte"
  | .endOfData => "unexpected end of data"
  | .truncated => "truncated data"
  | .outOfRange => "code point not in range(0x110000)"

/-- A stretch of bytes that is no text under an encoding. -/
structure DecodeFault where
  /-- The name of the encoding. -/
  encoding : String
  /-- The position of the first byte of the stretch. -/
  start : Nat
  /-- The position behind the stretch. -/
  stop : Nat
  /-- The first byte of the stretch. -/
  first : UInt8
  /-- What is wrong with it. -/
  reason : DecodeReason
  deriving DecidableEq, Repr

/-- The report of a stretch that cannot be decoded; a stretch of one byte is shown by value. -/
def DecodeFault.message (f : DecodeFault) : String :=
  let stretch :=
    if f.stop = f.start + 1 then
      "byte 0x" ++ paddedHex 2 f.first.toNat ++ " in position " ++ toString f.start
    else "bytes in position " ++ toString f.start ++ "-" ++ toString (f.stop - 1)
  "\x27" ++ f.encoding ++ "\x27 codec can\x27t decode " ++ stretch ++ ": " ++ f.reason.message

/-- A character of which some bytes have been read. -/
structure Partial where
  /-- The position of its first byte. -/
  start : Nat
  /-- Its first byte. -/
  first : UInt8
  /-- The value of the bits read so far. -/
  value : Nat
  /-- How many more bytes it takes. -/
  missing : Nat
  /-- The least next byte that continues it. -/
  low : UInt8
  /-- The greatest next byte that continues it. -/
  high : UInt8

/-- What the first byte of a character of several bytes fixes. -/
def Partial.ofLead? (start : Nat) (b : UInt8) : Option Partial :=
  if 0xc2 ≤ b ∧ b ≤ 0xdf then some ⟨start, b, b.toNat - 0xc0, 1, 0x80, 0xbf⟩
  else if b = 0xe0 then some ⟨start, b, 0, 2, 0xa0, 0xbf⟩
  else if b = 0xed then some ⟨start, b, 0xd, 2, 0x80, 0x9f⟩
  else if 0xe1 ≤ b ∧ b ≤ 0xef then some ⟨start, b, b.toNat - 0xe0, 2, 0x80, 0xbf⟩
  else if b = 0xf0 then some ⟨start, b, 0, 3, 0x90, 0xbf⟩
  else if 0xf1 ≤ b ∧ b ≤ 0xf3 then some ⟨start, b, b.toNat - 0xf0, 3, 0x80, 0xbf⟩
  else if b = 0xf4 then some ⟨start, b, 4, 3, 0x80, 0x8f⟩
  else none

/-- The character after one more byte. -/
def Partial.extend (p : Partial) (b : UInt8) : Partial :=
  { p with
    value := 64 * p.value + (b.toNat - 0x80)
    missing := p.missing - 1
    low := 0x80
    high := 0xbf }

/-- How far a decoder is. -/
inductive Progress where
  /-- It is between two characters. -/
  | between
  /-- It is inside a character. -/
  | inside (character : Partial)
  /-- It is inside a half of a surrogate pair that has passed, before so many more of its bytes. -/
  | passing (missing : Nat)

/-- The half of a surrogate pair that bytes start with, written like a character of three bytes. -/
def leadingHalf? : List UInt8 → Option Mark
  | a :: b :: c :: _ =>
    if a = 0xed ∧ 0xa0 ≤ b ∧ b ≤ 0xbf ∧ 0x80 ≤ c ∧ c ≤ 0xbf then
      some (Mark.ofPoint (0xd000 + 64 * (b.toNat - 0x80) + (c.toNat - 0x80)))
    else none
  | _ => none

/-- Decodes the bytes from a position on; the flag says whether halves of surrogate pairs pass. -/
def decodeUtf8From (passes : Bool) (position : Nat) :
    Progress → List UInt8 → Except DecodeFault (List Mark)
  | .between, [] | .passing _, [] => .ok []
  | .inside p, [] => .error ⟨"utf-8", p.start, position, p.first, .endOfData⟩
  | .passing missing, _ :: bs =>
    decodeUtf8From passes (position + 1)
      (if missing ≤ 1 then .between else .passing (missing - 1)) bs
  | .between, b :: bs =>
    if b < 0x80 then do
      let marks ← decodeUtf8From passes (position + 1) .between bs
      return .char (Char.ofNat b.toNat) :: marks
    else
      match if passes then leadingHalf? (b :: bs) else none with
      | some half => do
        let marks ← decodeUtf8From passes (position + 1) (.passing 2) bs
        return half :: marks
      | none =>
        match Partial.ofLead? position b with
        | none => .error ⟨"utf-8", position, position + 1, b, .invalidStart⟩
        | some p => decodeUtf8From passes (position + 1) (.inside p) bs
  | .inside p, b :: bs =>
    if p.low ≤ b ∧ b ≤ p.high then
      let q := p.extend b
      if q.missing = 0 then do
        let marks ← decodeUtf8From passes (position + 1) .between bs
        return .char (Char.ofNat q.value) :: marks
      else decodeUtf8From passes (position + 1) (.inside q) bs
    else .error ⟨"utf-8", p.start, position, p.first, .invalidContinuation⟩

/-- The text that bytes spell in UTF-8. -/
def decodeUtf8 (bytes : List UInt8) : Except DecodeFault (List Char) :=
  (decodeUtf8From false 0 .between bytes).map (·.map Mark.toChar)

/-- The raw text that bytes spell in UTF-8, in which halves of surrogate pairs pass. -/
def decodeUtf8Passing (bytes : List UInt8) : Except DecodeFault (List Mark) :=
  decodeUtf8From true 0 .between bytes

end PointerChain.Text
