import PointerChain.Json.Reader
import PointerChain.Json.Schema
import PointerChain.Module.Entry
import PointerChain.Text.Lines
import PointerChain.Text.Utf8

/-!
# Module documents

A module table travels as a JSON document: a list of objects with the fields `modulename` and
`base`, or an object that holds such a list under `modules`. A document is checked against the
schema by a validator before its entries are read; the entries may still fail, since the schema
bounds neither the value of a base that is a text nor the spelling of one that is a whole number.

* `moduleBundle` is the schema.
* `ModuleTable.ofDocument` and `ModuleTable.toDocument` read and write documents.
* `ModuleTable.ofFile` reads the bytes of a file.
-/

namespace PointerChain

/-- The field that holds the list of modules. -/
def listField : String := "modules"

/-- The schema of module documents. -/
def moduleBundle : Json.Bundle where
  title := "ptrchain module table"
  description := "Ordered list of loaded modules and their base addresses"
  definitions :=
    [(baseField, .oneOf [.integer 0 0xffffffffffffffff, .matching .address]),
      ("module", .object [(nameField, .text 1), (baseField, .reference baseField)]
        [nameField, baseField]),
      (listField, .array (.reference "module"))]
  root := [.reference listField, .object [(listField, .reference listField)] [listField]]

/-- The name under which a schema is asked for. -/
def schemaFormat : String := "modules"

/-- Why there is no schema for a format. -/
inductive SchemaFault where
  /-- The file that would hold the schema, which is not there. -/
  | missing (file : String)
  /-- The format is of a kind that is no name. -/
  | kind (name : String)
  deriving DecidableEq, Repr

/-- The report of a schema that is not there, given the directory in which schemas are. -/
def SchemaFault.message (directory : String) : SchemaFault → String
  | missing file => "Schema for format not found: " ++ directory ++ "/" ++ file
  | kind name => concatenationText "str" name

/-- The schema of the format that a value names. -/
def schemaOf : Json → Except SchemaFault Json.Bundle
  | .string format =>
    if format = schemaFormat then .ok moduleBundle
    else .error (.missing ("schema-" ++ format.text ++ ".json"))
  | j => .error (.kind j.kindName)

/-- Why a module document gives no table. -/
inductive DocumentError where
  /-- The document does not match the schema. -/
  | mismatch
  /-- The check against the schema goes wrong. -/
  | unchecked (fault : Json.LibraryFault)
  /-- The document is an object without a list of modules. -/
  | noList
  /-- The table cannot be built. -/
  | table (error : TableError)
  /-- The file is no JSON document. -/
  | malformed (path : String) (fault : Json.Fault) (place : Json.Place)
  /-- The file holds an integer with too many digits. -/
  | tooManyDigits (count : Nat)
  /-- Values in the file are nested too deep. -/
  | tooDeep (kind : String)
  /-- The file is no text. -/
  | undecodable (fault : Text.DecodeFault)
  deriving DecidableEq, Repr

/-- The report of a document that gives no table. -/
def DocumentError.message : DocumentError → String
  | mismatch => "Module table does not match the module table schema"
  | unchecked fault => fault.message
  | noList => Text.quoted listField
  | table error => error.message
  | malformed path fault place =>
    "Module table " ++ path ++ " is not valid JSON: " ++
      (Json.ReadError.malformed fault place).message
  | tooManyDigits count => Text.tooManyDigitsText count
  | tooDeep kind => Json.tooDeepText kind
  | undecodable fault => fault.message

namespace ModuleTable

/-- The list of modules in a document. -/
def documentList : Json → Except DocumentError Json
  | .object fields =>
    match Json.field? listField fields with
    | some list => .ok list
    | none => .error .noList
  | j => .ok j

/-- The table that a document describes. -/
def ofDocument (validator : Json.Validator) (j : Json) : Except DocumentError ModuleTable :=
  match validator moduleBundle j with
  | .valid => do
    let list ← documentList j
    (Entry.listOfJson list >>= ofEntries).mapError .table
  | .invalid => .error .mismatch
  | .failed fault => .error (.unchecked fault)

/-- A module as an entry of a document. -/
def entryDocument (m : Module) : Json :=
  .object [(nameField, .string m.name), (baseField, .integer m.base.toNat)]

/-- A table as a document. -/
def toDocument (table : ModuleTable) : Json :=
  .array (table.modules.map entryDocument)

/-- The table that the bytes of a file describe, in which values may be nested only so deep. -/
def ofFile (validator : Json.Validator) (depth : Nat) (path : String) (bytes : List UInt8) :
    Except DocumentError ModuleTable := do
  let text ← (Text.decodeUtf8 bytes).mapError .undecodable
  match Json.readUnmarked depth (Text.marksOf (Text.joinNewlines text)) with
  | .ok j => ofDocument validator j
  | .error (.malformed fault place) => throw (.malformed path fault place)
  | .error (.tooManyDigits count) => throw (.tooManyDigits count)
  | .error (.tooDeep kind) => throw (.tooDeep kind)

end ModuleTable

end PointerChain
