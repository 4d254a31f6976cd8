import PointerChain.Text.Quoted

/-!
# Raw texts

Documents can spell texts that are not made of characters alone: an escape may name half of a
surrogate pair, and the other half may be missing. A raw text is a row of marks, each a character or
such a half.

* Every text is a raw text; `Raw.text` leads back and puts the replacement character in place of
  halves. `Raw.text_ofString` says that a text survives the way there and back.
* `Raw.notAfter` is the order of code points.
* `Raw.quoted` shows a raw text between quotes.
* `Raw.encodeFault?` tells why a raw text cannot be the name of a file.
-/

namespace PointerChain.Text

/-- A character, or half of a surrogate pair without the other half. -/
inductive Mark where
  /-- A character. -/
  | char (c : Char)
  /-- A half, by its distance from the first one. -/
  | half (offset : Fin 0x800)
  deriving DecidableEq, Repr

namespace Mark

/-- The code point of a mark. -/
def point : Mark → Nat
  | char c => c.toNat
  | half offset => 0xd800 + offset

/-- The mark of a code point. -/
def ofPoint (n : Nat) : Mark :=
  if h : 0xd800 ≤ n ∧ n < 0xe000 then half ⟨n - 0xd800, by omega⟩ else char (Char.ofNat n)

/-- The character of a mark; a half is shown by the replacement character. -/
def toChar : Mark → Char
  | char c => c
  | half _ => '\ufffd'

/-- Whether a mark is half of a surrogate pair. -/
def isHalf : Mark → Bool
  | char _ => false
  | half _ => true

/-- A mark as it stands between quotes. -/
def quoted (quote : Char) : Mark → String
  | char c => quoteChar quote c
  | half offset => "\\u" ++ paddedHex 4 (half offset).point

end Mark

/-- A text in which halves of surrogate pairs may stand. -/
structure Raw where
  /-- The marks of the text. -/
  marks : List Mark
  deriving DecidableEq, Repr, Inhabited

/-- The marks of characters. -/
def marksOf (cs : List Char) : List Mark := cs.map .char

/-- The marks of characters are shown by these. -/
@[simp]
theorem map_toChar_char (cs : List Char) : (cs.map Mark.char).map Mark.toChar = cs := by
  have hshown : (Mark.toChar ∘ Mark.char) = id := rfl
  rw [List.map_map, hshown, List.map_id]

namespace Raw

/-- A text as a raw text. -/
def ofString (s : String) : Raw := ⟨marksOf s.toList⟩

instance : Coe String Raw := ⟨ofString⟩

/-- The text that shows a raw text. -/
def text (r : Raw) : String := String.ofList (r.marks.map Mark.toChar)

/-- A text that is taken as a raw text shows as itself. -/
@[simp]
theorem text_ofString (s : String) : (ofString s).text = s := by
  rw [text, ofString, marksOf, map_toChar_char, String.ofList_toList]

/-- Different texts are different raw texts. -/
theorem ofString_inj {s t : String} : ofString s = ofString t ↔ s = t :=
  ⟨fun h => by simpa using congrArg text h, fun h => h ▸ rfl⟩

/-- Two raw texts, one behind the other. -/
def append (r s : Raw) : Raw := ⟨r.marks ++ s.marks⟩

instance : Append Raw := ⟨append⟩

/-- The number of marks. -/
def length (r : Raw) : Nat := r.marks.length

@[simp]
theorem length_ofString (s : String) : (ofString s).length = s.length := by
  rw [length, ofString, marksOf, List.length_map, String.length_toList]

/-- Whether a raw text has no marks. -/
def isEmpty (r : Raw) : Bool := r.marks.isEmpty

/-- Whether a raw text does not come after another one in the order of code points. -/
def notAfter (r s : Raw) : Bool :=
  !decide (s.marks.map Mark.point < r.marks.map Mark.point)

/-- A raw text between quotes. -/
def quoted (r : Raw) : String :=
  let quote := quoteFor r.text.toList
  quote.toString ++ String.join (r.marks.map (Mark.quoted quote)) ++ quote.toString

end Raw

/-! ### Names of files -/

/-- Why a raw text cannot be written as bytes: the halves at some positions stand for none. -/
structure EncodeFault where
  /-- The position of the first such half. -/
  start : Nat
  /-- The position behind them. -/
  stop : Nat
  /-- The first such half. -/
  first : Mark
  deriving DecidableEq, Repr

/-- The report of a raw text that cannot be written; a single half is shown. -/
def EncodeFault.message (f : EncodeFault) : String :=
  let stretch :=
    if f.stop = f.start + 1 then
      "character \x27" ++ f.first.quoted '\x27' ++ "\x27 in position " ++ toString f.start
    else "characters in position " ++ toString f.start ++ "-" ++ toString (f.stop - 1)
  "\x27utf-8\x27 codec can\x27t encode " ++ stretch ++ ": surrogates not allowed"

/-- Whether a half stands for a byte that is not ASCII, which is what names of files use them for.
-/
def isByteHalf (offset : Fin 0x800) : Bool :=
  0x480 ≤ offset.val && offset.val < 0x500

/-- Why marks from a position on cannot be the name of a file. The halves next to the first one that
stands for no byte are blamed along with it. -/
def encodeFaultFrom? (position : Nat) : List Mark → Option EncodeFault
  | [] => none
  | .char _ :: marks => encodeFaultFrom? (position + 1) marks
  | .half offset :: marks =>
    if isByteHalf offset then encodeFaultFrom? (position + 1) marks
    else
      some ⟨position, position + 1 + (marks.takeWhile Mark.isHalf).length, .half offset⟩

/-- Why a raw text cannot be the name of a file. -/
def Raw.encodeFault? (r : Raw) : Option EncodeFault :=
  encodeFaultFrom? 0 r.marks

end PointerChain.Text
