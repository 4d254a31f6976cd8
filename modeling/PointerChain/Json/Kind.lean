/-!
# Values of the wrong kind

What is reported when a value is of a kind that does not suit its use, by the names of the kinds.
-/

namespace PointerChain

/-- A name between single quotes. -/
def inQuotes (name : String) : String := "\x27" ++ name ++ "\x27"

/-- What is reported of a value that consists of others and is looked up. -/
def unhashableText (kind : String) : String :=
  "unhashable type: " ++ inQuotes kind

/-- What is reported of a comparison between values of two kinds. -/
def orderText (sign left right : String) : String :=
  inQuotes sign ++ " not supported between instances of " ++ inQuotes left ++ " and " ++
    inQuotes right

/-- What is reported of an operation on values of two kinds. -/
def operandText (sign left right : String) : String :=
  "unsupported operand type(s) for " ++ sign ++ ": " ++ inQuotes left ++ " and " ++ inQuotes right

/-- What is reported of a value that is appended to one of another kind. -/
def concatenationText (kind other : String) : String :=
  "can only concatenate " ++ kind ++ " (not \"" ++ other ++ "\") to " ++ kind

/-- What is reported of an attribute that values of a kind lack. -/
def attributeText (kind name : String) : String :=
  inQuotes kind ++ " object has no attribute " ++ inQuotes name

/-- What is reported of a position of a kind that is none, in a sequence of a kind. -/
def positionText (sequence kind : String) : String :=
  sequence ++ " indices must be integers or slices, not " ++ kind

/-- What is reported of an end of a slice of a kind that is none. -/
def boundText : String := "slice indices must be integers or None or have an __index__ method"

/-- What is reported of a number that does not fit into a length. -/
def hugeLengthText : String := "cannot fit " ++ inQuotes "int" ++ " into an index-sized integer"

end PointerChain
