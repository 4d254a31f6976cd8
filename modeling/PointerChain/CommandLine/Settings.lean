import PointerChain.Json.Inspect
import PointerChain.Json.Kind

/-!
# Settings

The settings of a run are named values. Each starts with a built-in value, which configurations may
override one after the other; a configuration only overrides settings that are there.

* `Settings.override` lays a configuration over settings.
* `find?_override` says what a setting is after that.
-/

namespace PointerChain.CommandLine

/-- Named values, each name once. -/
abbrev Settings := List (Text.Raw × Json)

/-- Why a setting cannot be counted up, by the kind of its value. -/
structure CountFault where
  /-- The kind of the value. -/
  kind : String
  deriving DecidableEq, Repr

/-- The report of a value that cannot be counted up. -/
def CountFault.message (f : CountFault) : String :=
  if f.kind = "str" ∨ f.kind = "list" then concatenationText f.kind "int"
  else operandText "+" f.kind "int"

/-- The value after one more count. Nothing counts as zero and a truth value as zero or one. -/
def countUp : Json → Except CountFault Json
  | .null => .ok (.integer 1)
  | .bool b => .ok (.integer (if b then 2 else 1))
  | .integer n => .ok (.integer (n + 1))
  | .real x => .ok (.real (x.addInt 1))
  | j => .error ⟨j.kindName⟩

namespace Settings

/-- The value of a setting, if there is such a setting. -/
def find? (settings : Settings) (key : Text.Raw) : Option Json :=
  Json.field? key settings

/-- The value of a setting; what is not there is null. -/
def get (settings : Settings) (key : Text.Raw) : Json :=
  (settings.find? key).getD .null

/-- Gives a setting a value. -/
def put (settings : Settings) (key : Text.Raw) (value : Json) : Settings :=
  Json.putField key value settings

/-- The settings with the values that a configuration has for them. -/
def override (settings configuration : Settings) : Settings :=
  settings.map fun (key, value) => (key, (configuration.find? key).getD value)

/-- A setting keeps its value unless the configuration has one; nothing else of a configuration
shows. -/
theorem find?_override (settings configuration : Settings) (key : Text.Raw) :
    (settings.override configuration).find? key =
      (settings.find? key).map fun value => (configuration.find? key).getD value := by
  simp only [find?]
  induction settings with
  | nil => rfl
  | cons setting settings ih =>
    obtain ⟨name, value⟩ := setting
    simp only [override, List.map_cons, Json.field?_cons] at ih ⊢
    by_cases h : name = key
    · simp [h, find?]
    · simpa [h] using ih

/-- The value that was put last is the one that is found. -/
theorem find?_put_self (settings : Settings) (key : Text.Raw) (value : Json) :
    (settings.put key value).find? key = some value :=
  Json.field?_putField_self key value settings

/-- Putting a value changes no other setting. -/
theorem find?_put_of_ne (settings : Settings) {key other : Text.Raw} (value : Json)
    (h : other ≠ key) : (settings.put key value).find? other = settings.find? other :=
  Json.field?_putField_of_ne h value settings

end Settings

end PointerChain.CommandLine
