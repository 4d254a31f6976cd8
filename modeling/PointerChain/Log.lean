/-!
# Log records

What a run notes on the way: texts of a level of detail from a source. A console shows the records
of at least one level, which the number of requests for verbosity selects; a log file takes them
all.
-/

namespace PointerChain

/-- How important a record is. -/
inductive Level where
  /-- Something went wrong. -/
  | warning
  /-- What the run is about to do. -/
  | info
  /-- How the run does it. -/
  | debug
  /-- The first of four finer levels. -/
  | detail1
  /-- The second finer level. -/
  | detail2
  /-- The third finer level. -/
  | detail3
  /-- The finest level. -/
  | detail4
  deriving DecidableEq, Repr

namespace Level

/-- The number of a level; more important levels have greater numbers. -/
def toNat : Level → Nat
  | warning => 30
  | info => 20
  | debug => 10
  | detail1 => 9
  | detail2 => 8
  | detail3 => 7
  | detail4 => 6

/-- The name of a level. -/
def name : Level → String
  | warning => "WARNING"
  | info => "INFO"
  | debug => "DEBUG"
  | detail1 => "DETAIL 1"
  | detail2 => "DETAIL 2"
  | detail3 => "DETAIL 3"
  | detail4 => "DETAIL 4"

/-- The levels by the number of requests for verbosity. -/
def byVerbosity : List Level :=
  [warning, info, debug, detail1, detail2, detail3, detail4]

/-- The level for a number of requests: the most detailed one from six on. A number below zero
counts from the most detailed level back, and there is none for a number below that. -/
def ofVerbosity? (n : Int) : Option Level :=
  let size : Int := byVerbosity.length
  let k := min n (size - 1)
  let k := if k < 0 then k + size else k
  if k < 0 then none else byVerbosity[k.toNat]?

end Level

/-- A record of what a run did. -/
structure LogRecord where
  /-- The importance of the record. -/
  level : Level
  /-- The part of the program that wrote it. -/
  source : String
  /-- What was done. -/
  text : String
  deriving DecidableEq, Repr

namespace LogRecord

/-- A text filled up with spaces to a width. -/
def padded (width : Nat) (s : String) : String :=
  s ++ String.ofList (List.replicate (width - s.length) ' ')

/-- A record as the console shows it. -/
def consoleLine (r : LogRecord) : String :=
  padded 8 r.level.name ++ " " ++ padded 12 r.source ++ ": " ++ r.text ++ "\n"

/-- A record as a log file holds it, behind its time. -/
def fileLine (r : LogRecord) : String :=
  padded 12 r.source ++ " " ++ padded 8 r.level.name ++ " " ++ r.text ++ "\n"

end LogRecord

end PointerChain
