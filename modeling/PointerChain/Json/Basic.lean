import PointerChain.Decimal.Binary64
import PointerChain.Text.Raw

/-!
# JSON values

The values of JSON documents: module tables, configurations and everything that a configuration may
put in place of an argument. Integers are exact; numbers with a point or an exponent are doubles.
Texts are raw, since documents can spell such. The fields of an object keep the order in which they
were first written.
-/

namespace PointerChain

open Decimal (Binary64)
open Text (Raw)

/-- A JSON value. -/
inductive Json where
  /-- The null value. -/
  | null
  /-- A truth value. -/
  | bool (value : Bool)
  /-- A number without point and exponent. -/
  | integer (value : Int)
  /-- A number with a point or an exponent. -/
  | real (value : Binary64)
  /-- A text. -/
  | string (value : Raw)
  /-- A list of values. -/
  | array (items : List Json)
  /-- Named values. -/
  | object (fields : List (Raw × Json))
  deriving Repr, Inhabited

namespace Json

mutual

/-- Decides whether two values are the same. -/
def decideEq : (a b : Json) → Decidable (a = b)
  | null, null => isTrue rfl
  | bool a, bool b =>
    if h : a = b then isTrue (by rw [h]) else isFalse fun e => h (by injection e)
  | integer a, integer b =>
    if h : a = b then isTrue (by rw [h]) else isFalse fun e => h (by injection e)
  | real a, real b =>
    if h : a = b then isTrue (by rw [h]) else isFalse fun e => h (by injection e)
  | string a, string b =>
    if h : a = b then isTrue (by rw [h]) else isFalse fun e => h (by injection e)
  | array as, array bs =>
    match decideEqItems as bs with
    | isTrue h => isTrue (by rw [h])
    | isFalse h => isFalse fun e => h (by injection e)
  | object as, object bs =>
    match decideEqFields as bs with
    | isTrue h => isTrue (by rw [h])
    | isFalse h => isFalse fun e => h (by injection e)
  | null, bool _ | null, integer _ | null, real _ | null, string _ | null, array _
  | null, object _ | bool _, null | bool _, integer _ | bool _, real _ | bool _, string _
  | bool _, array _ | bool _, object _ | integer _, null | integer _, bool _ | integer _, real _
  | integer _, string _ | integer _, array _ | integer _, object _ | real _, null | real _, bool _
  | real _, integer _ | real _, string _ | real _, array _ | real _, object _ | string _, null
  | string _, bool _ | string _, integer _ | string _, real _ | string _, array _
  | string _, object _ | array _, null | array _, bool _ | array _, integer _ | array _, real _
  | array _, string _ | array _, object _ | object _, null | object _, bool _ | object _, integer _
  | object _, real _ | object _, string _ | object _, array _ => isFalse nofun

/-- Decides whether two rows of values are the same. -/
def decideEqItems : (as bs : List Json) → Decidable (as = bs)
  | [], [] => isTrue rfl
  | [], _ :: _ | _ :: _, [] => isFalse nofun
  | a :: as, b :: bs =>
    match decideEq a b, decideEqItems as bs with
    | isTrue h, isTrue hs => isTrue (by rw [h, hs])
    | isFalse h, _ => isFalse fun e => h (by injection e)
    | _, isFalse hs => isFalse fun e => hs (by injection e)

/-- Decides whether two rows of fields are the same. -/
def decideEqFields : (as bs : List (Raw × Json)) → Decidable (as = bs)
  | [], [] => isTrue rfl
  | [], _ :: _ | _ :: _, [] => isFalse nofun
  | (x, a) :: as, (y, b) :: bs =>
    if hn : x = y then
      match decideEq a b, decideEqFields as bs with
      | isTrue h, isTrue hs => isTrue (by rw [hn, h, hs])
      | isFalse h, _ => isFalse fun e => h (by injection e with e; injection e)
      | _, isFalse hs => isFalse fun e => hs (by injection e)
    else isFalse fun e => hn (by injection e with e; injection e)

end

instance : DecidableEq Json := decideEq

/-- The name of the kind of a value, as error reports give it. -/
def kindName : Json → String
  | null => "NoneType"
  | bool _ => "bool"
  | integer _ => "int"
  | real _ => "float"
  | string _ => "str"
  | array _ => "list"
  | object _ => "dict"

/-- Whether a value counts as true: all do but null, false, zero and what is empty. -/
def holds : Json → Bool
  | null => false
  | bool b => b
  | integer n => n != 0
  | real x => !x.isZero
  | string s => !s.isEmpty
  | array items => !items.isEmpty
  | object fields => !fields.isEmpty

/-- The integer that a number or truth value equals. -/
def toInt? : Json → Option Int
  | bool b => some (if b then 1 else 0)
  | integer n => some n
  | real x => x.toInt?
  | _ => none

/-- Stores a field: a name that is present keeps its place and takes the new value. -/
def putField (name : Raw) (value : Json) : List (Raw × Json) → List (Raw × Json)
  | [] => [(name, value)]
  | field :: fields =>
    if field.1 = name then (name, value) :: fields else field :: putField name value fields

/-- The value of a field. -/
def field? (name : Raw) (fields : List (Raw × Json)) : Option Json :=
  (fields.find? (·.1 = name)).map (·.2)

@[simp]
theorem field?_nil (name : Raw) : field? name [] = none := rfl

/-- The first field with a name is the one that is found. -/
theorem field?_cons (name key : Raw) (value : Json) (fields : List (Raw × Json)) :
    field? name ((key, value) :: fields) =
      if key = name then some value else field? name fields := by
  by_cases h : key = name <;> simp [field?, h]

/-- The value that was stored last is the one that is found. -/
theorem field?_putField_self (name : Raw) (value : Json) (fields : List (Raw × Json)) :
    field? name (putField name value fields) = some value := by
  induction fields with
  | nil => simp [putField, field?_cons]
  | cons field fields ih =>
    obtain ⟨key, old⟩ := field
    by_cases h : key = name
    · simp [putField, field?_cons, h]
    · simpa [putField, field?_cons, h] using ih

/-- Storing a value changes no other field. -/
theorem field?_putField_of_ne {name other : Raw} (h : other ≠ name) (value : Json)
    (fields : List (Raw × Json)) :
    field? other (putField name value fields) = field? other fields := by
  induction fields with
  | nil => simp [putField, field?_cons, Ne.symm h]
  | cons field fields ih =>
    obtain ⟨key, old⟩ := field
    by_cases hk : key = name
    · subst hk; simp [putField, field?_cons, Ne.symm h]
    · simp [putField, field?_cons, hk, ih]

theorem any_eq_isSome_field? (name : Raw) (fields : List (Raw × Json)) :
    (fields.any fun field => decide (field.1 = name)) = (field? name fields).isSome := by
  induction fields with
  | nil => rfl
  | cons field fields ih =>
    rw [List.any_cons, ih, field?_cons]
    by_cases h : field.1 = name <;> simp [h]

/-- Where no name is repeated, every field is found. -/
theorem field?_of_mem {name : Raw} {value : Json} {fields : List (Raw × Json)}
    (hnodup : (fields.map Prod.fst).Nodup) (h : (name, value) ∈ fields) :
    field? name fields = some value := by
  induction fields with
  | nil => cases h
  | cons field fields ih =>
    obtain ⟨hfield, hnodup⟩ := List.nodup_cons.mp hnodup
    rw [field?_cons]
    rcases List.mem_cons.mp h with heq | hmem
    · obtain rfl := heq
      exact if_pos rfl
    · rw [if_neg, ih hnodup hmem]
      intro heq
      exact hfield (List.mem_map.mpr ⟨_, hmem, heq.symm⟩)

/-- The value of a field of an object. -/
def get? (j : Json) (name : Raw) : Option Json :=
  match j with
  | object fields => field? name fields
  | _ => none

end Json

end PointerChain
