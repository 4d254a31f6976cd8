import PointerChain.Json.Basic
import PointerChain.Listing.Row

/-!
# The tree of a listing

Rows become items one by one. The directories that the next item may go into are kept open,
innermost first; an item of some level first closes all directories but so many of the outermost,
and then goes into the innermost one left. Closing a directory puts it into the one around it.

* `Item` is a directory with its children, or a file.
* `Builder.add` takes a row, `Builder.finish` closes all that is open.
* `forestOfRows` and `parse` build forests from rows and from a text.
-/

namespace PointerChain.Listing

/-- A directory or a file. -/
inductive Item where
  /-- A directory with what it holds. -/
  | directory (name : String) (children : List Item)
  /-- A file with its size and the time when it was last opened. -/
  | file (name : String) (size lastOpened : Option Int64)
  deriving Repr

/-- A forest that is being built; what is complete is kept backwards. -/
structure Builder where
  /-- The complete items outside all open directories. -/
  roots : List Item
  /-- The open directories with the complete items in them, innermost first. -/
  parents : List (String × List Item)

namespace Builder

/-- The forest without items. -/
def empty : Builder := ⟨[], []⟩

/-- Puts a complete item into the innermost open directory. -/
def attach (b : Builder) (item : Item) : Builder :=
  match b.parents with
  | [] => { b with roots := item :: b.roots }
  | (name, children) :: parents => { b with parents := (name, item :: children) :: parents }

/-- Closes the innermost open directory. -/
def closeOne (b : Builder) : Builder :=
  match b.parents with
  | [] => b
  | (name, children) :: parents =>
    attach { b with parents } (.directory name children.reverse)

/-- Closes so many open directories. -/
def close : Nat → Builder → Builder
  | 0, b => b
  | n + 1, b => close n b.closeOne

/-- Closes all open directories but so many of the outermost. -/
def closeTo (b : Builder) (level : Nat) : Builder :=
  close (b.parents.length - level) b

/-- Takes a row. -/
def add (b : Builder) (row : Row) : Builder :=
  let b := b.closeTo row.indent
  match row.label with
  | .directory name => { b with parents := (name, []) :: b.parents }
  | .file name size lastOpened => b.attach (.file name size lastOpened)

/-- Closes all that is open. -/
def finish (b : Builder) : List Item :=
  (b.closeTo 0).roots.reverse

end Builder

/-- The forest of a list of rows. -/
def forestOfRows (rows : List Row) : List Item :=
  (rows.foldl Builder.add Builder.empty).finish

/-- The forest of a listing. -/
def parse (text : String) : Except Fault (List Item) :=
  (Reading.ofText text).rows.map forestOfRows

/-- A number of an item as a document. -/
def numberDocument : Option Int64 → Json
  | some n => .integer n.toInt
  | none => .null

namespace Item

/-- The fields of an item as a document. -/
def document (kind name : String) (size lastOpened children : Json) : Json :=
  .object [("item_type", .string kind), ("name", .string name), ("size", size),
    ("last_opened", lastOpened), ("children", children)]

mutual

/-- An item as a document; a directory without children has null in their place. -/
def toDocument : Item → Json
  | directory name [] => document "directory" name .null .null .null
  | directory name (child :: children) =>
    document "directory" name .null .null (.array (toDocuments (child :: children)))
  | file name size lastOpened =>
    document "file" name (numberDocument size) (numberDocument lastOpened) .null

/-- Items as documents. -/
def toDocuments : List Item → List Json
  | [] => []
  | item :: items => toDocument item :: toDocuments items

end

end Item

/-- A forest as a document. -/
def forestDocument (items : List Item) : Json :=
  .array (Item.toDocuments items)

end PointerChain.Listing
