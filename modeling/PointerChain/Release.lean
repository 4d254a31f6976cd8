import PointerChain.Json.Inspect
import PointerChain.Json.Kind

/-!
# Releases

A release has three numbers. Releases with one first number keep what they offer, so a caller that
was written for a release runs on the same first number with the same or a later second one. A
caller may state these numbers by any values; they are compared as numbers and shown as they are.

* `requireRelease` checks what a caller requires.
-/

namespace PointerChain

/-- The numbers of a release. -/
structure Release where
  /-- Counts changes that break callers. -/
  major : Int
  /-- Counts additions. -/
  minor : Int
  /-- Counts changes that callers do not see. -/
  patch : Int
  deriving DecidableEq, Repr

/-- This release. -/
def Release.current : Release := ⟨1, 2, 0⟩

/-- The text of a release. -/
def Release.text (r : Release) : String :=
  ".".intercalate ([r.major, r.minor, r.patch].map toString)

/-- Why a caller cannot run on this release. -/
inductive ReleaseFault where
  /-- The first number differs from the one that is required. -/
  | incompatible (required : Json)
  /-- The second number is too small. -/
  | tooOld (major minor : Json)
  /-- The second number that is required is of a kind that cannot be compared with numbers. -/
  | order (kind : String)
  deriving DecidableEq, Repr

/-- The report of a caller that cannot run on this release. -/
def ReleaseFault.message : ReleaseFault → String
  | incompatible required =>
    "Framework interface version " ++ toString Release.current.major ++
      " is incompatible with required version " ++ required.shown
  | tooOld major minor =>
    "Framework interface version " ++ toString Release.current.major ++ "." ++
      toString Release.current.minor ++ " is an older revision than the required version " ++
      major.shown ++ "." ++ minor.shown
  | order kind => orderText ">" kind "int"

/-- Whether a value is greater than an integer, if it can be compared with one. -/
def exceeds? (n : Int) : Json → Option Bool
  | .integer m => some (decide (n < m))
  | .bool b => some (decide (n < if b then 1 else 0))
  | .real x => some (x.exceeds n)
  | _ => none

/-- Checks the numbers that a caller requires; those not given are not checked, nor is any behind
the second. -/
def requireRelease : List Json → Except ReleaseFault Unit
  | [] => .ok ()
  | major :: rest =>
    if major.toInt? ≠ some Release.current.major then .error (.incompatible major)
    else
      match rest with
      | [] => .ok ()
      | minor :: _ =>
        match exceeds? Release.current.minor minor with
        | none => .error (.order minor.kindName)
        | some true => .error (.tooOld major minor)
        | some false => .ok ()

end PointerChain
