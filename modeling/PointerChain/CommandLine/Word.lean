import PointerChain.CommandLine.Grammar

/-!
# Words of the command line

Each word is an argument, a switch, something that looks like a switch but is none, or the two
dashes behind which all words are arguments. A switch may carry text in the same word: a long one
behind an equals sign, a short one behind one or directly. Long switches may be abbreviated as long
as they can be told apart.

* `Grammar.word` says what a word is.
* `Grammar.words` says so for all words of a command line.
-/

namespace PointerChain.CommandLine

/-- Why arguments cannot be used. -/
inductive ArgumentFault where
  /-- A word abbreviates several switches. -/
  | ambiguous (word : String) (flags : List String)
  /-- A switch lacks its argument. -/
  | missingArgument (title : String)
  /-- A switch that takes no argument is given one. -/
  | ignoredArgument (title text : String)
  /-- An argument has no value. -/
  | invalidValue (title : String) (conversion : Conversion) (text : Text.Raw)
  /-- A value is none of the choices. -/
  | invalidChoice (title : String) (value : Json) (choices : List Json)
  /-- An operand is missing. -/
  | missingOperand (key : String)
  /-- Words are left over. -/
  | unrecognized (words : List String)

/-- The report of arguments that cannot be used. -/
def ArgumentFault.message : ArgumentFault → String
  | ambiguous word flags =>
    "ambiguous option: " ++ word ++ " could match " ++ ", ".intercalate flags
  | missingArgument title => "argument " ++ title ++ ": expected one argument"
  | ignoredArgument title text =>
    "argument " ++ title ++ ": ignored explicit argument " ++ Text.quoted text
  | invalidValue title conversion text =>
    "argument " ++ title ++ ": invalid " ++ conversion.name ++ " value: " ++ text.quoted
  | invalidChoice title value choices =>
    "argument " ++ title ++ ": invalid choice: " ++ value.inspect ++ " (choose from " ++
      ", ".intercalate (Json.inspectItems choices) ++ ")"
  | missingOperand key => "the following arguments are required: " ++ key
  | unrecognized words => "unrecognized arguments: " ++ " ".intercalate words

/-- The text that a short switch shares its word with. -/
structure SharedText where
  /-- Whether an equals sign stands in front of the text. -/
  isAssigned : Bool
  /-- The characters of the text. -/
  chars : List Char

/-- The text that follows a short switch in its word. -/
def SharedText.of? : List Char → Option SharedText
  | [] => none
  | '=' :: text => some ⟨true, text⟩
  | text => some ⟨false, text⟩

/-- What a word is. -/
inductive WordKind where
  /-- An argument or operand. -/
  | argument
  /-- The two dashes that end the switches. -/
  | ending
  /-- A long switch, with the text behind its equals sign. -/
  | long (switch : Switch) (text : Option (List Char))
  /-- A short switch, with the text that it shares the word with. -/
  | short (switch : Switch) (text : Option SharedText)
  /-- What looks like a switch and is none. -/
  | unknown

/-- A word of the command line. -/
structure Word where
  /-- The word as it was given. -/
  text : String
  /-- What it is. -/
  kind : WordKind

/-- Whether characters are a number with a minus sign: digits of any script, possibly with a point
before the last of them. One line feed may follow. -/
def isNegativeNumber : List Char → Bool
  | '-' :: cs =>
    let body := if cs.getLast? = some '\n' then cs.dropLast else cs
    let isDigit (c : Char) : Bool := (Text.decimalDigit? c).isSome
    match body.dropWhile isDigit with
    | [] => !body.isEmpty
    | '.' :: places => !places.isEmpty && places.all isDigit
    | _ => false
  | _ => false

/-- Splits a word at its first equals sign. -/
def splitEquals (cs : List Char) : List Char × Option (List Char) :=
  match cs.dropWhile (· != '=') with
  | [] => (cs, none)
  | _ :: text => (cs.takeWhile (· != '='), some text)

/-- What a word is that starts with a dash but stands for no switch: numbers and words with a space
in them are arguments. -/
def dashedKind (cs : List Char) : WordKind :=
  if isNegativeNumber cs || cs.contains ' ' then .argument else .unknown

namespace Grammar

/-- The flags that a word abbreviates, with their switches. -/
def completions (g : Grammar) (stem : List Char) : List (String × Switch) :=
  g.flags.filter fun flag => stem.isPrefixOf flag.1.toList

/-- What a word is that starts with two dashes. -/
def longKind (g : Grammar) (cs : List Char) : Except ArgumentFault WordKind :=
  match g.switch? (String.ofList cs) with
  | some s => .ok (.long s none)
  | none =>
    let (stem, text) := splitEquals cs
    match text, g.switch? (String.ofList stem) with
    | some text, some s => .ok (.long s (some text))
    | _, _ =>
      match g.completions stem with
      | [] => .ok (dashedKind cs)
      | [(_, s)] => .ok (.long s text)
      | flags => .error (.ambiguous (String.ofList cs) (flags.map (·.1)))

/-- What a word is. -/
def kind (g : Grammar) : List Char → Except ArgumentFault WordKind
  | '-' :: '-' :: cs => g.longKind ('-' :: '-' :: cs)
  | '-' :: c :: tail =>
    match g.switch? (String.ofList ['-', c]) with
    | some s => .ok (.short s (SharedText.of? tail))
    | none => .ok (dashedKind ('-' :: c :: tail))
  | _ => .ok .argument

/-- What a word is, with its text. -/
def word (g : Grammar) (s : String) : Except ArgumentFault Word :=
  (g.kind s.toList).map fun kind => ⟨s, kind⟩

/-- What the words of a command line are. -/
def words (g : Grammar) : List String → Except ArgumentFault (List Word)
  | [] => .ok []
  | s :: rest =>
    if s = "--" then .ok (⟨s, .ending⟩ :: rest.map fun text => ⟨text, .argument⟩)
    else do
      let first ← g.word s
      let others ← g.words rest
      return first :: others

end Grammar

end PointerChain.CommandLine
