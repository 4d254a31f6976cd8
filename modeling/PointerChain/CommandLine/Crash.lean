import PointerChain.CommandLine.Settings
import PointerChain.CommandLine.Verbosity
import PointerChain.Disassembly
import PointerChain.Failure

/-!
# Crashes

A crash ends a run without a report to the user. It comes from files that hold something unexpected,
and from settings in configurations, which may have values that no argument could have.
-/

namespace PointerChain.CommandLine

/-- Why a run crashes. -/
inductive Crash where
  /-- A file cannot be used. -/
  | file (fault : Host.Fault)
  /-- A file is no text. -/
  | undecodable (fault : Text.DecodeFault)
  /-- A file is no JSON document. -/
  | malformed (fault : Json.Fault) (place : Json.Place)
  /-- A file holds a number with too many digits. -/
  | tooManyDigits (digits : Nat)
  /-- Values in a file are nested too deep. -/
  | tooDeep (kind : String)
  /-- A module document cannot be checked. -/
  | library (fault : Json.LibraryFault)
  /-- A path holds a zero character. -/
  | zeroInPath
  /-- A path holds marks that no name of a file can hold. -/
  | unencodable (fault : Text.EncodeFault)
  /-- What stands for a file is a value of a kind that cannot do so. -/
  | pathKind (kind : String)
  /-- What stands for a file is a negative number. -/
  | negativeHandle
  /-- The verbosity cannot be counted up. -/
  | count (fault : CountFault)
  /-- A value is of a kind that cannot be compared with numbers. -/
  | order (kind : String)
  /-- The verbosity selects no level. -/
  | verbosity (fault : VerbosityFault)
  /-- There is nothing with such a name. -/
  | unknownName (name : Json)
  /-- A name is of a kind that cannot be looked up. -/
  | nameKind (kind : String)
  /-- A setting does not exist. -/
  | missingSetting (key : String)
  /-- Addresses cannot have the width. -/
  | width (fault : WidthFault)
  /-- The number of bytes is of a kind that cannot be added to an address. -/
  | lengthSum (kind : String)
  /-- The number of bytes is of a kind that cannot be a position. -/
  | lengthPosition
  /-- The number of bytes is of a kind that cannot be an amount. -/
  | lengthAmount (kind : String)
  /-- There is no such architecture. -/
  | architecture (fault : ArchitectureFault)
  /-- What was done cannot be recorded, as a number has too many digits. -/
  | unwritable
  /-- A request makes no sense to a reader. -/
  | request (fault : RequestFault)
  /-- What should be a list of entries of a module table is none. -/
  | table (error : TableError)
  deriving DecidableEq, Repr

/-- The text of a crash. -/
def Crash.message : Crash → String
  | file fault => fault.message
  | undecodable fault => fault.message
  | malformed fault place => (Json.ReadError.malformed fault place).message
  | tooManyDigits digits => Text.tooManyDigitsText digits
  | tooDeep kind => Json.tooDeepText kind
  | library fault => fault.message
  | zeroInPath => zeroInPathText
  | unencodable fault => fault.message
  | pathKind kind => "expected str, bytes or os.PathLike object, not " ++ kind
  | negativeHandle => "negative file descriptor"
  | count fault => fault.message
  | order kind => orderText "<" "int" kind
  | verbosity fault => fault.message
  | unknownName name => name.inspect
  | nameKind kind => unhashableText kind
  | missingSetting key => attributeText "Namespace" key
  | width fault => fault.message
  | lengthSum kind => operandText "+" "int" kind
  | lengthPosition => boundText
  | lengthAmount kind => "argument should be integer or None, not " ++ inQuotes kind
  | architecture fault => fault.message
  | unwritable => Text.unwritableText
  | request fault => fault.message
  | table error => error.message

end PointerChain.CommandLine
