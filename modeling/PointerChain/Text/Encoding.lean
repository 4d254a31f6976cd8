import PointerChain.Text.Utf8

/-!
# Encodings of documents

A document that comes as bytes may be encoded in UTF-8, UTF-16 or UTF-32. The encoding is told by a
byte order mark, or by where the zero bytes are among the first four, since a document starts with
ASCII characters.

* `Encoding.detect` tells the encoding and how long the mark is.
* `decodeDetected` decodes bytes accordingly; halves of surrogate pairs pass.
-/

namespace PointerChain.Text

/-- An encoding of documents. -/
inductive Encoding where
  /-- UTF-8. -/
  | utf8
  /-- UTF-16; the flag says whether the most significant byte comes first. -/
  | utf16 (big : Bool)
  /-- UTF-32; the flag says whether the most significant byte comes first. -/
  | utf32 (big : Bool)
  deriving DecidableEq, Repr

namespace Encoding

/-- The name of an encoding. -/
def name : Encoding → String
  | utf8 => "utf-8"
  | utf16 big => if big then "utf-16-be" else "utf-16-le"
  | utf32 big => if big then "utf-32-be" else "utf-32-le"

/-- The encoding of a document and the length of its byte order mark. -/
def detect : List UInt8 → Encoding × Nat
  | 0x00 :: 0x00 :: 0xfe :: 0xff :: _ => (utf32 true, 4)
  | 0xff :: 0xfe :: 0x00 :: 0x00 :: _ => (utf32 false, 4)
  | 0xfe :: 0xff :: _ => (utf16 true, 2)
  | 0xff :: 0xfe :: _ => (utf16 false, 2)
  | 0xef :: 0xbb :: 0xbf :: _ => (utf8, 3)
  | a :: b :: c :: d :: _ =>
    if a = 0 then (if b = 0 then (utf32 true, 0) else (utf16 true, 0))
    else if b = 0 then (if c = 0 ∧ d = 0 then (utf32 false, 0) else (utf16 false, 0))
    else (utf8, 0)
  | [a, b] => if a = 0 then (utf16 true, 0) else if b = 0 then (utf16 false, 0) else (utf8, 0)
  | _ => (utf8, 0)

end Encoding

/-- The number that bytes spell, in the given order. -/
def unitValue (big : Bool) (bytes : List UInt8) : Nat :=
  (if big then bytes else bytes.reverse).foldl (fun n b => 256 * n + b.toNat) 0

/-- Decodes UTF-16 from a position on, behind the first half of a surrogate pair or not. A half that
has no other one passes. -/
def decodeUtf16From (big : Bool) (position : Nat) :
    Option Nat → List UInt8 → Except DecodeFault (List Mark)
  | high, a :: b :: bs => do
    let n := unitValue big [a, b]
    let alone := (high.map Mark.ofPoint).toList
    if 0xd800 ≤ n && n < 0xdc00 then
      let marks ← decodeUtf16From big (position + 2) (some n) bs
      return alone ++ marks
    else
      let marks ← decodeUtf16From big (position + 2) none bs
      match high with
      | some h =>
        if 0xdc00 ≤ n && n < 0xe000 then
          return Mark.ofPoint (0x10000 + 0x400 * (h - 0xd800) + (n - 0xdc00)) :: marks
        else return alone ++ Mark.ofPoint n :: marks
      | none => return Mark.ofPoint n :: marks
  | _, [a] =>
    .error ⟨(Encoding.utf16 big).name, position, position + 1, a, .truncated⟩
  | high, [] => .ok (high.map Mark.ofPoint).toList

/-- Decodes UTF-32 from a position on. -/
def decodeUtf32From (big : Bool) (position : Nat) : List UInt8 → Except DecodeFault (List Mark)
  | [] => .ok []
  | a :: b :: c :: d :: bs => do
    let n := unitValue big [a, b, c, d]
    if 0x110000 ≤ n then
      throw ⟨(Encoding.utf32 big).name, position, position + 4, a, .outOfRange⟩
    let marks ← decodeUtf32From big (position + 4) bs
    return Mark.ofPoint n :: marks
  | a :: bs =>
    .error ⟨(Encoding.utf32 big).name, position, position + 1 + bs.length, a, .truncated⟩

/-- The raw text that bytes spell in the encoding that they show. -/
def decodeDetected (bytes : List UInt8) : Except DecodeFault (List Mark) :=
  let (encoding, mark) := Encoding.detect bytes
  let body := bytes.drop mark
  match encoding with
  | .utf8 => decodeUtf8Passing body
  | .utf16 big => decodeUtf16From big mark none body
  | .utf32 big => decodeUtf32From big mark body

end PointerChain.Text
