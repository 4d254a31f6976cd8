import PointerChain.Json.Basic
import PointerChain.Text.Hex

/-!
# Schemas

The part of JSON Schema that module tables are described with. A schema may refer to named
definitions, each of which may refer to those before it, so a bundle of definitions is checked by
folding over it: every definition becomes a predicate under the predicates already there.

* `Schema.accepts` decides whether a value matches a schema under given definitions.
* `Bundle.accepts` does so for a bundle of definitions and its root schema.
* `Bundle.toJson` writes a bundle as a document.
* `Validator` is a library that checks documents; `Validator.Decides` says that it gives the verdict
  that JSON Schema asks for, `Validator.Sound` that it gives no other one.

Whole numbers count as integers whether or not they are written with a point.
-/

namespace PointerChain.Json

/-- The form that a text is asked to have. -/
inductive Pattern where
  /-- A number in base ten without leading zeros, or in base sixteen behind the marker `0x` or `0X`;
  one newline may follow. -/
  | address
  deriving DecidableEq, Repr

/-- A pattern as a regular expression. -/
def Pattern.expression : Pattern → String
  | address => "^(0[xX][0-9a-fA-F]+|[1-9][0-9]*|0)$"

/-- Whether a text is a number in base ten without leading zeros. -/
def isPlainDecimal : List Char → Bool
  | ['0'] => true
  | c :: cs => '1' ≤ c && c ≤ '9' && cs.all fun d => '0' ≤ d && d ≤ '9'
  | [] => false

/-- Whether a text is a number in base sixteen behind its marker. -/
def isMarkedHex : List Char → Bool
  | '0' :: x :: c :: cs =>
    (x == 'x' || x == 'X') && (c :: cs).all fun d => (Text.hexDigit? d).isSome
  | _ => false

/-- A text without the newline at its end, if it has one. -/
def dropFinalNewline (cs : List Char) : List Char :=
  if cs.getLast? = some '\n' then cs.dropLast else cs

/-- Whether a text has the form asked for. -/
def Pattern.admits : Pattern → List Char → Bool
  | address, cs =>
    let body := dropFinalNewline cs
    isPlainDecimal body || isMarkedHex body

/-- A schema. -/
inductive Schema where
  /-- A definition by name. -/
  | reference (name : String)
  /-- Exactly one of several schemas. -/
  | oneOf (options : List Schema)
  /-- An integer between two bounds, both included. -/
  | integer (minimum maximum : Int)
  /-- A text of at least a given length. -/
  | text (minLength : Nat)
  /-- A text of a given form. -/
  | matching (pattern : Pattern)
  /-- A list of values of one schema. -/
  | array (items : Schema)
  /-- An object in which some fields are described and some, always described, must be there. -/
  | object (properties : List (String × Schema)) (required : List String)

namespace Schema

/-- Predicates for the definitions at hand. -/
abbrev Definitions := List (String × (Json → Bool))

/-- The predicate of a definition; a name without definition admits nothing. -/
def Definitions.admits (defs : Definitions) (name : String) (j : Json) : Bool :=
  match defs.find? (·.1 = name) with
  | some (_, p) => p j
  | none => false

mutual

/-- Whether a value matches a schema. -/
def accepts (defs : Definitions) : Schema → Json → Bool
  | reference name, j => defs.admits name j
  | oneOf options, j => countAccepting defs options j == 1
  | integer minimum maximum, .integer n => minimum ≤ n && n ≤ maximum
  | integer minimum maximum, .real x =>
    match x.toInt? with
    | some n => minimum ≤ n && n ≤ maximum
    | none => false
  | text minLength, .string s => minLength ≤ s.length
  | matching pattern, .string s => pattern.admits s.text.toList
  | array items, .array values => values.all (accepts defs items)
  | object properties required, .object fields =>
    required.all (fun name => fields.any (·.1 = Text.Raw.ofString name)) &&
      acceptsFields defs properties fields
  | _, _ => false

/-- How many of several schemas a value matches. -/
def countAccepting (defs : Definitions) : List Schema → Json → Nat
  | [], _ => 0
  | s :: ss, j => (if accepts defs s j then 1 else 0) + countAccepting defs ss j

/-- Whether all fields that are described match their schemas. -/
def acceptsFields (defs : Definitions) : List (String × Schema) → List (Text.Raw × Json) → Bool
  | [], _ => true
  | (name, s) :: properties, fields =>
    (match field? name fields with
      | some j => accepts defs s j
      | none => true) && acceptsFields defs properties fields

end

mutual

/-- A schema as a document. -/
def toJson : Schema → Json
  | reference name => .object [("$ref", .string ("#/definitions/" ++ name))]
  | oneOf options => .object [("oneOf", .array (toJsonItems options))]
  | integer minimum maximum =>
    .object [("type", .string "integer"), ("minimum", .integer minimum),
      ("maximum", .integer maximum)]
  | text minLength =>
    .object [("type", .string "string"), ("minLength", .integer minLength)]
  | matching pattern =>
    .object [("type", .string "string"), ("pattern", .string pattern.expression)]
  | array items => .object [("type", .string "array"), ("items", toJson items)]
  | object properties required =>
    .object [("type", .string "object"), ("properties", .object (toJsonFields properties)),
      ("required", .array (required.map fun (name : String) => .string name))]

/-- Schemas as documents. -/
def toJsonItems : List Schema → List Json
  | [] => []
  | s :: ss => toJson s :: toJsonItems ss

/-- Named schemas as the fields of a document. -/
def toJsonFields : List (String × Schema) → List (Text.Raw × Json)
  | [] => []
  | (name, s) :: schemas => (↑name, toJson s) :: toJsonFields schemas

end

end Schema

/-- A schema with its title and the definitions that it refers to, each after those it uses. -/
structure Bundle where
  /-- What the documents are. -/
  title : String
  /-- What they hold. -/
  description : String
  /-- The named schemas. -/
  definitions : List (String × Schema)
  /-- The alternatives for a whole document, of which exactly one must match. -/
  root : List Schema

namespace Bundle

/-- The predicates of the definitions of a bundle. -/
def predicates (b : Bundle) : Schema.Definitions :=
  b.definitions.foldl (fun defs d => (d.1, d.2.accepts defs) :: defs) []

/-- Whether a document matches a bundle. -/
def accepts (b : Bundle) (j : Json) : Bool :=
  (Schema.oneOf b.root).accepts b.predicates j

/-- A bundle as a document. -/
def toJson (b : Bundle) : Json :=
  .object [("$schema", .string "http://json-schema.org/draft-07/schema#"),
    ("title", .string b.title), ("description", .string b.description),
    ("definitions", .object (Schema.toJsonFields b.definitions)),
    ("oneOf", .array (Schema.toJsonItems b.root))]

end Bundle

/-! ### Validators -/

/-- A fault of a library, by its kind and its report. -/
structure LibraryFault where
  /-- The kind of the fault. -/
  kind : String
  /-- The report of the fault. -/
  message : String
  deriving DecidableEq, Repr

/-- How a check of a document ends. -/
inductive Verdict where
  /-- The document matches the schema. -/
  | valid
  /-- The document does not match it. -/
  | invalid
  /-- The check itself goes wrong. -/
  | failed (fault : LibraryFault)
  deriving DecidableEq, Repr

/-- A library that checks documents against schemas. -/
abbrev Validator := Bundle → Json → Verdict

/-- A validator that gives its verdict on a document as JSON Schema defines it. -/
def Validator.Decides (validator : Validator) (b : Bundle) (j : Json) : Prop :=
  validator b j = if b.accepts j then .valid else .invalid

/-- A validator that gives no verdicts but those that JSON Schema defines. A check may go wrong. -/
def Validator.Sound (validator : Validator) (b : Bundle) : Prop :=
  ∀ j, validator.Decides b j ∨ ∃ fault, validator b j = .failed fault

/-- The validator that always decides. -/
def Bundle.validate : Validator := fun b j => if b.accepts j then .valid else .invalid

theorem Bundle.decides_validate (b : Bundle) (j : Json) : Validator.Decides validate b j := rfl

theorem Bundle.sound_validate (b : Bundle) : Validator.Sound validate b :=
  fun j => .inl (b.decides_validate j)

end PointerChain.Json
