import PointerChain.Json.Inspect
import PointerChain.Json.Kind
import PointerChain.Module.Table
import PointerChain.Range
import PointerChain.Text.Numeral

/-!
# Entries of a module table

Callers describe a module in several ways: by a finished record, by a pair of name and base, or by
an object with the fields `modulename` and `base`. The base is an integer or a literal for one. All
entries of a table are read before the table is built, and the first one that makes no sense fails
the whole table.

* `Entry.read` reads one entry.
* `ModuleTable.ofEntries` builds a table.
* `Entry.listOfJson` sees any value as a list of entries.
-/

namespace PointerChain

/-- The field that holds the name of a module. -/
def nameField : String := "modulename"

/-- The field that holds the base of a module. -/
def baseField : String := "base"

/-- A description of a module. -/
inductive Entry where
  /-- A record, whose name is taken as it is. -/
  | record (name base : Json)
  /-- A row of values, which should be a name and a base. -/
  | row (items : List Json)
  /-- Any other value. -/
  | value (value : Json)

/-- Why an entry describes no module. -/
inductive EntryFault where
  /-- The base is a text but no literal of an integer. -/
  | invalidBase (text : String)
  /-- The base is neither an integer nor a text. -/
  | invalidBaseKind (kind : String)
  /-- The base does not fit into 64 bits. -/
  | baseOutOfRange (base : Int)
  /-- The entry is an object that lacks a field. -/
  | missingField (name : String)
  /-- The entry does not consist of two values. -/
  | notPair (shown : String)
  /-- The name is not a text. -/
  | invalidName (shown : String)
  deriving DecidableEq, Repr

/-- The report of an entry that describes no module. -/
def EntryFault.message : EntryFault → String
  | invalidBase text => "Invalid base address: " ++ text
  | invalidBaseKind kind => "Invalid base address type: " ++ kind
  | baseOutOfRange base => "Base address out of range: " ++ Text.signedHexText base
  | missingField name => "Module entry is missing the " ++ Text.quoted name ++ " key"
  | notPair shown => "Module entry is not a (name, base) pair: " ++ shown
  | invalidName shown => "Module name is not a string: " ++ shown

/-- Why there is no module table. -/
inductive TableError where
  /-- An entry describes no module. -/
  | entry (fault : EntryFault)
  /-- What would be shown of an entry holds an integer with too many digits. -/
  | unwritable
  /-- What should be a list of entries has no parts. -/
  | notIterable (kind : String)
  /-- A name is no text, so it has no lower-case form. -/
  | nameWithoutCase (kind : String)
  deriving DecidableEq, Repr

/-- The report of a table that cannot be built. -/
def TableError.message : TableError → String
  | entry fault => fault.message
  | unwritable => Text.unwritableText
  | notIterable kind => "\x27" ++ kind ++ "\x27 object is not iterable"
  | nameWithoutCase kind => attributeText kind "lower"

/-- What comes of an entry whose report shows a value. -/
def TableError.showing (shown : Json) (fault : EntryFault) : TableError :=
  if shown.isUnwritable then unwritable else entry fault

/-- The address that an integer is, if it fits into 64 bits. -/
def Address.ofInt? (n : Int) : Option Address :=
  if FitsUInt64 n then some (UInt64.ofNat n.toNat) else none

/-- The base that an integer is. -/
def baseOfInt (n : Int) : Except EntryFault Address :=
  match Address.ofInt? n with
  | some a => .ok a
  | none => .error (.baseOutOfRange n)

/-- The base that a value describes. -/
def readBase : Json → Except EntryFault Address
  | .string s =>
    match Text.readLiteral s.text with
    | .ok n => baseOfInt n
    | .error _ => .error (.invalidBase s.text)
  | .integer n => baseOfInt n
  | j => .error (.invalidBaseKind j.kindName)

/-- The module that a name and a base describe. -/
def readPair : Json → Json → Except TableError Module
  | .string name, base => do return ⟨name, ← (readBase base).mapError .entry⟩
  | name, _ => .error (.showing name (.invalidName name.inspect))

/-- The marks of a text, each as a text. -/
def charValues (s : Text.Raw) : List Json :=
  s.marks.map fun mark => .string ⟨[mark]⟩

namespace Entry

/-- The module that an entry describes. A record's name may not be a text; it is left as it is. -/
def read : Entry → Except TableError (Json × Address)
  | record name base => do return (name, ← (readBase base).mapError .entry)
  | row items =>
    match items with
    | [name, base] => named (readPair name base)
    | _ =>
      let shown := Json.inRoundBrackets (Json.inspectItems items)
      .error (.showing (.array items) (.notPair shown))
  | value j =>
    match j with
    | .object fields =>
      match Json.field? nameField fields with
      | none => .error (.entry (.missingField nameField))
      | some name =>
        match Json.field? baseField fields with
        | none => .error (.entry (.missingField baseField))
        | some base => named (readPair name base)
    | .array [name, base] => named (readPair name base)
    | .string s =>
      match charValues s with
      | [name, base] => named (readPair name base)
      | _ => .error (.entry (.notPair j.inspect))
    | _ => .error (.showing j (.notPair j.inspect))
where
  /-- A module as a name and a base. -/
  named (m : Except TableError Module) : Except TableError (Json × Address) :=
    m.map fun m => (.string m.name, m.base)

end Entry

namespace ModuleTable

/-- The module that a name and a base are; all names of a table must be texts. -/
def ofNamed : Json × Address → Except TableError Module
  | (.string name, base) => .ok ⟨name, base⟩
  | (name, _) => .error (.nameWithoutCase name.kindName)

/-- The table that a list of entries describes. -/
def ofEntries (entries : List Entry) : Except TableError ModuleTable := do
  let named ← entries.mapM Entry.read
  return ofList (← named.mapM ofNamed)

end ModuleTable

/-- The first module with the name that a value is. -/
def ModuleTable.lookUp (table : ModuleTable) (name : Json) : Except TableError (Option Module) :=
  match name with
  | .string name => .ok (table.find? name)
  | _ => .error (.nameWithoutCase name.kindName)

/-- The entries that a value consists of: the items of a list, the characters of a text, the names
of the fields of an object. -/
def Entry.listOfJson : Json → Except TableError (List Entry)
  | .array items => .ok (items.map .value)
  | .string s => .ok ((charValues s).map .value)
  | .object fields => .ok (fields.map fun field => .value (.string field.1))
  | j => .error (.notIterable j.kindName)

end PointerChain
