import PointerChain.Text.Raw

/-!
# Paths

A path is a row of names between slashes. From a place, which is the row of names that leads there
from the root, each name of a path leads on: to a place below, back to the place above, or nowhere.

* `Place.follow` is where names lead.
* `Path.join` appends a path to another one.
* `Place.absolute` writes a path out from the root.
-/

namespace PointerChain.Host

open Text (Mark Raw)

/-- A name in a path. -/
abbrev Name := List Mark

/-- A path as it is written. -/
abbrev Path := Raw

/-- The place of a file or directory: the names that lead to it from the root. -/
abbrev Place := List Name

/-- The mark between the names of a path. -/
def slash : Mark := .char '/'

namespace Name

/-- Whether a name stays where it is. -/
def isIdle (name : Name) : Bool := name.isEmpty || name == [.char '.']

/-- The name that leads to the place above. -/
def back : Name := [.char '.', .char '.']

end Name

/-- The number of bytes of a mark in a path. -/
def markSize : Mark → Nat
  | .char c => c.utf8Size
  | .half _ => 1

/-- The number of bytes of marks in a path. -/
def byteSize (marks : List Mark) : Nat :=
  marks.foldl (fun size mark => size + markSize mark) 0

/-- The marks between the slashes of a row of marks. -/
def namesOf : List Mark → List Name
  | [] => [[]]
  | mark :: marks =>
    if mark = slash then [] :: namesOf marks
    else
      match namesOf marks with
      | [] => [[mark]]
      | name :: names => (mark :: name) :: names

namespace Path

/-- The names of a path. -/
def names (path : Path) : List Name := namesOf path.marks

/-- Whether a path starts at the root. -/
def isRooted (path : Path) : Bool := path.marks.head? == some slash

theorem isRooted_ofString {s : String} (h : '/' ∉ s.toList) : isRooted (s : Path) = false := by
  rw [isRooted, beq_eq_false_iff_ne]
  intro hhead
  have hmem : slash ∈ Text.marksOf s.toList := List.mem_of_head? hhead
  obtain ⟨c, hc, hslash⟩ := List.mem_map.mp hmem
  exact h (Mark.char.inj hslash ▸ hc)

/-- Appends a path to another one, which one that starts at the root replaces. -/
def join (path part : Path) : Path :=
  if part.isRooted || path.isEmpty then part
  else if path.marks.getLast? == some slash then ⟨path.marks ++ part.marks⟩
  else ⟨path.marks ++ slash :: part.marks⟩

/-- Whether a path holds a zero character, which no path of a file does. -/
def holdsZero (path : Path) : Bool := path.marks.contains (.char '\x00')

/-- Only a slash comes between a path and what is appended to it. -/
theorem holdsZero_join {path part : Path} (h : part.isRooted = false) :
    (path.join part).holdsZero = (path.holdsZero || part.holdsZero) := by
  unfold join
  rw [h, Bool.false_or]
  split
  next hempty =>
    have hmarks : path.marks = [] := List.isEmpty_iff.mp hempty
    simp [holdsZero, hmarks]
  next =>
    split
    next => simp [holdsZero]
    next => simp [holdsZero, slash]

@[simp]
theorem holdsZero_ofString (s : String) : holdsZero (s : Path) = s.toList.contains '\x00' := by
  simp [holdsZero, Raw.ofString, Text.marksOf]

/-- Half of a surrogate pair is not shown as a zero character. -/
theorem holdsZero_text (path : Path) : holdsZero (path.text : Path) = path.holdsZero := by
  have hmark (m : Mark) : '\x00' = m.toChar ↔ .char '\x00' = m := by
    cases m with
    | char c => simp [Mark.toChar]
    | half offset => simp [Mark.toChar]
  rw [holdsZero_ofString, Raw.text, String.toList_ofList, holdsZero]
  simp only [List.contains_eq_any_beq, List.any_map]
  congr 1
  funext m
  rw [Bool.eq_iff_iff]
  simpa using hmark m

end Path

namespace Place

/-- Where a name leads. Nothing is above the root. -/
def move (place : Place) (name : Name) : Place :=
  if name.isIdle then place
  else if name = Name.back then place.dropLast
  else place ++ [name]

/-- Where names lead. -/
def follow (place : Place) (names : List Name) : Place :=
  names.foldl move place

/-- Where a path starts: at the root or from a place. -/
def start (place : Place) (path : Path) : Place :=
  if path.isRooted then [] else place

/-- Where a path leads from a place. -/
def ofPath (place : Place) (path : Path) : Place :=
  (place.start path).follow path.names

/-- The slashes at the start of a path that is written out; just two of them stay two. -/
def rootMarks (marks : List Mark) : List Mark :=
  if (marks.takeWhile (· == slash)).length = 2 then [slash, slash] else [slash]

/-- A path written out from the root, with every name it takes. It ends in front of a zero
character. -/
def absolute (place : Place) (path : Path) : Path :=
  let marks := path.marks.takeWhile (· != .char '\x00')
  ⟨rootMarks marks ++ List.intercalate [slash] (place.ofPath ⟨marks⟩)⟩

end Place

end PointerChain.Host
