import PointerChain.Memory.Buffer
import PointerChain.Proofs.Resolution.Substitution
import PointerChain.Proofs.Text.Unwritable

/-!
# The order of reads

A balanced expression is resolved as its substitution says, and so its reads follow its groups: each
group that holds an operand is read once, in the order of the closing brackets, and nothing is read
behind a failure.

* `Target.ReadsInTurn` says which reads are made for groups, and how they end.
* `resolveNested_eq_resolve` is the substitution of a whole expression.
-/

namespace PointerChain

namespace Target

/-- The address at which the pointer for a group is read: the value of its flat text. -/
def IsAddressOf (target : Target) (body : Forest) (a : Address) : Prop :=
  ∃ inner, (body.substitute target).result = .ok inner ∧
    PointerChain.evaluate target.modules ("[" ++ inner) = .ok a

/-- The reads for groups with the listed bodies, one after the other, and how they end. Behind a
failure nothing is read. -/
inductive ReadsInTurn (target : Target) :
    List Forest → List (Address × Nat) → Except ResolveError Unit → Prop
  /-- No group is left. -/
  | done : ReadsInTurn target [] [] (.ok ())
  /-- An operand has no value. -/
  | invalid (bodies : List Forest) (e : OperandError) :
      ReadsInTurn target bodies [] (.error (.operand e))
  /-- A group is read, and then those behind it. -/
  | answered {body : Forest} {bodies : List Forest} {a value : Address}
      {reads : List (Address × Nat)} {outcome : Except ResolveError Unit}
      (haddress : target.IsAddressOf body a)
      (hpointer : target.pointer a = .ok value)
      (hrest : ReadsInTurn target bodies reads outcome) :
      ReadsInTurn target (body :: bodies) ((a, pointerSize) :: reads) outcome
  /-- A group is asked for and gives no pointer. -/
  | failed {body : Forest} (bodies : List Forest) {a : Address} {e : ResolveError}
      (haddress : target.IsAddressOf body a) (hpointer : target.pointer a = .error e) :
      ReadsInTurn target (body :: bodies) [(a, pointerSize)] (.error e)

/-- A computation that reads for groups with the listed bodies in turn. -/
def Follows {α : Type} (target : Target) (bodies : List Forest) (x : Traced α) : Prop :=
  target.ReadsInTurn bodies x.reads (x.result.map fun _ => ())

end Target

variable {target : Target} {expression : String}

namespace Target.ReadsInTurn

variable {bodies bodies' : List Forest} {reads reads' : List (Address × Nat)}
  {outcome outcome' : Except ResolveError Unit}

/-- Behind reads that all succeed, reads go on. -/
theorem append_of_ok (h : target.ReadsInTurn bodies reads outcome) (hok : outcome = .ok ())
    (h' : target.ReadsInTurn bodies' reads' outcome') :
    target.ReadsInTurn (bodies ++ bodies') (reads ++ reads') outcome' := by
  induction h with
  | done => exact h'
  | invalid bodies e => cases hok
  | answered haddress hpointer _ ih => exact .answered haddress hpointer (ih hok)
  | failed bodies haddress hpointer => cases hok

/-- Behind a failure, further groups change nothing. -/
theorem append_of_error (h : target.ReadsInTurn bodies reads outcome) {e : ResolveError}
    (herror : outcome = .error e) (bodies' : List Forest) :
    target.ReadsInTurn (bodies ++ bodies') reads outcome := by
  induction h with
  | done => cases herror
  | invalid bodies e => exact .invalid _ e
  | answered haddress hpointer _ ih => exact .answered haddress hpointer (ih herror)
  | failed bodies haddress hpointer => exact .failed _ haddress hpointer

end Target.ReadsInTurn

namespace Target.Follows

variable {α β : Type} {bodies bodies' : List Forest}

theorem pure (a : α) : target.Follows [] (Pure.pure a : Traced α) := .done

/-- The groups of a sequence are those of its parts, in order. -/
theorem bind {x : Traced α} {f : α → Traced β} (hx : target.Follows bodies x)
    (hf : ∀ a, x.result = .ok a → target.Follows bodies' (f a)) :
    target.Follows (bodies ++ bodies') (x >>= f) := by
  unfold Follows at hx ⊢
  cases hresult : x.result with
  | ok a =>
    rw [Trace.reads_bind_of_ok hresult, Trace.bind_of_ok hresult]
    exact hx.append_of_ok (by rw [hresult]; rfl) (hf a hresult)
  | error e =>
    rw [Trace.reads_bind_of_error hresult, Trace.bind_of_error hresult]
    rw [hresult] at hx
    exact hx.append_of_error rfl bodies'

/-- Evaluating a flat expression reads nothing. -/
theorem evaluate (flat : String) : target.Follows [] (target.evaluate flat) := by
  cases h : PointerChain.evaluate target.modules flat with
  | ok a =>
    rw [evaluate_of_ok h]
    exact .done
  | error e =>
    rw [evaluate_of_error h]
    exact .invalid [] e

/-- A group is read once if it holds a word character, and not at all otherwise. -/
theorem replacement {body : Forest} {inner : String}
    (hinner : (body.substitute target).result = .ok inner) :
    target.Follows (if body.hasWord then [body] else []) (target.replacement ("[" ++ inner)) := by
  have hword : hasOperands ("[" ++ inner) = body.hasWord := by
    rw [← hasOperands_of_substitute hinner, hasOperands_bracket_append]
  rw [Target.replacement, hword]
  -- A read is the last thing to happen in a group, so it either answers the body or ends the run.
  by_cases hbody : body.hasWord = true
  · rw [if_pos hbody, if_pos hbody]
    cases h : PointerChain.evaluate target.modules ("[" ++ inner) with
    | ok a =>
      cases hpointer : target.pointer a with
      | ok value =>
        rw [dereference_of_ok h hpointer]
        exact .answered ⟨inner, hinner, h⟩ hpointer .done
      | error e =>
        rw [dereference_of_pointer_error h hpointer]
        exact .failed [] ⟨inner, hinner, h⟩ hpointer
    | error e =>
      rw [dereference_of_error h]
      exact .invalid [body] e
  · rw [if_neg hbody, if_neg hbody]
    exact .pure _

/-- A substitution reads for the groups that hold a word character, in order. -/
theorem substitute (f : Forest) : target.Follows f.readBodies (f.substitute target) := by
  -- Bodies are listed in front of their groups, as they are substituted first.
  induction f with
  | nil => exact .pure ""
  | text c plain rest ih =>
    rw [Forest.readBodies_text, ← rest.readBodies.append_nil]
    exact ih.bind fun t _ => .pure _
  | group body rest ihBody ihRest =>
    rw [Forest.readBodies_group]
    refine ihBody.bind fun inner hinner => (Follows.replacement hinner).bind fun replaced _ => ?_
    rw [← rest.readBodies.append_nil]
    exact ihRest.bind fun t _ => .pure _

theorem resolve (f : Forest) : target.Follows f.readBodies (f.resolve target) := by
  rw [← f.readBodies.append_nil]
  exact (Follows.substitute f).bind fun flat _ => .evaluate flat

end Target.Follows

/-! ### Memory of the process -/

section Reader

variable {reader : MemoryReader} (h : ∀ a : Address,
  reader.readPointer target.process a.toNat = target.reader.readPointer target.process a.toNat)

include h

/-- A dereference asks a reader for one pointer of the process. -/
theorem Target.dereference_congr (flat : String) :
    Target.dereference { target with reader } flat = target.dereference flat := by
  simp only [Target.dereference, Target.evaluate, Target.record, h]

theorem Forest.substitute_congr (f : Forest) :
    f.substitute { target with reader } = f.substitute target := by
  induction f with
  | nil => rfl
  | text c plain rest ih => rw [substitute, substitute, ih]
  | group body rest ihBody ihRest =>
    have hreplacement (enclosed : String) :
        Target.replacement { target with reader } enclosed = target.replacement enclosed := by
      rw [Target.replacement, Target.replacement, Target.dereference_congr h]
    simp only [substitute, ihBody, ihRest, hreplacement]

theorem Forest.resolve_congr (f : Forest) :
    f.resolve { target with reader } = f.resolve target := by
  rw [resolve, substitute_congr h]
  rfl

end Reader

/-! ### Whole expressions -/

/-- An expression whose brackets balance is, read in its only way as a forest, resolved by
substitution. Its groups that hold a word character are read in the order of their closing brackets,
once each and up to the first one that gives no pointer, and only pointers of the process are read.
The pointers are what the reader gives, as long as the process can be shown. -/
theorem resolveNested_eq_resolve (hstrict : target.strict = false)
    (hbalanced : checkBrackets expression = .ok ()) :
    (∃ f : Forest, (f.expression = expression ∧ ∀ g : Forest, g.expression = expression → g = f) ∧
      resolveNested target expression = f.resolve target ∧
      target.Follows f.readBodies (resolveNested target expression) ∧
      ∀ reader : MemoryReader,
        (∀ a : Address, reader.readPointer target.process a.toNat =
          target.reader.readPointer target.process a.toNat) →
        resolveNested { target with reader } expression = resolveNested target expression) ∧
    (target.process.isUnwritable = false → ∀ a : Address,
      target.pointer a = (target.reader.readPointer target.process a.toNat).mapError .read) := by
  obtain ⟨f, rfl⟩ := checkBrackets_eq_ok_iff.mp hbalanced
  have hlenient : target.strict = true → f.Worded := by simp [hstrict]
  refine ⟨⟨f, ⟨rfl, fun g hg => Forest.expression_injective hg⟩, ?_, ?_, fun reader h => ?_⟩,
    Target.pointer_of_writable⟩
  · exact resolveNested_expression hlenient
  · rw [resolveNested_expression hlenient]
    exact Target.Follows.resolve f
  · have hother : resolveNested { target with reader } f.expression =
        f.resolve { target with reader } := resolveNested_expression hlenient
    rw [hother, resolveNested_expression hlenient]
    exact f.resolve_congr h

/-- A process with one module and two pointers in its memory. -/
def sampleTarget : Target where
  process := (1 : Int)
  modules := ModuleTable.ofList [⟨"lib.so", 0x1000⟩]
  reader := (BufferMemory.ofPointers (1 : Int) [(0x1010, 0x2000), (0x2020, 0x3000)]).reader

/-- A nested group, an empty one and text around them are resolved by substitution. -/
theorem resolveNested_eq_resolve_sample :
    sampleTarget.strict = false ∧ checkBrackets "8+[[lib.so+0x10]+0x20]-[[ ]]" = .ok () ∧
      ∃ f : Forest, f.expression = "8+[[lib.so+0x10]+0x20]-[[ ]]" ∧
        resolveNested sampleTarget "8+[[lib.so+0x10]+0x20]-[[ ]]" = f.resolve sampleTarget := by
  have hbalanced : checkBrackets "8+[[lib.so+0x10]+0x20]-[[ ]]" = .ok () := by rfl
  obtain ⟨⟨f, ⟨hf, -⟩, hresolve, -⟩, -⟩ :=
    @resolveNested_eq_resolve sampleTarget _ rfl hbalanced
  exact ⟨rfl, hbalanced, f, hf, hresolve⟩

/-- A process that cannot be shown, with the same pointer at every address. -/
def unshownTarget : Target where
  process := Text.leastUnwritable
  modules := ModuleTable.ofList []
  reader := ⟨"fixed", fun _ _ _ => .ok [0, 0x20, 0, 0, 0, 0, 0, 0]⟩

theorem isUnwritable_unshownTarget : unshownTarget.process.isUnwritable = true := by
  rw [unshownTarget, ProcessId.isUnwritable_ofInt, Text.isUnwritable_leastUnwritable]

theorem pointer_unshownTarget (a : Address) : unshownTarget.pointer a = .error .unwritable :=
  Target.pointer_eq_error_iff.mpr (.inr ⟨⟨0x2000, rfl⟩, isUnwritable_unshownTarget, rfl⟩)

/-- A pointer is read for a group, and its number would take the place of the group; but the
resolution ends there, since the read cannot be recorded. -/
theorem resolveNested_unshown :
    unshownTarget.reader.readPointer unshownTarget.process 8 = .ok 0x2000 ∧
      checkBrackets "[8]" = .ok () ∧
      evaluate unshownTarget.modules (Text.upperHexText 0x2000 ++ "]") = .ok 0x2000 ∧
      (resolveNested unshownTarget "[8]").result = .error .unwritable := by
  have hmodules : unshownTarget.modules = ModuleTable.ofList [] := rfl
  have hvalue : evaluate unshownTarget.modules "8" = .ok 8 := by
    rw [hmodules]
    decide +kernel
  have hresolve := resolveNested_ofGroup_of_error (by simp) (by decide +kernel) hvalue
    (pointer_unshownTarget 8)
  refine ⟨rfl, rfl, ?_, ?_⟩
  · rw [hmodules]
    decide +kernel
  · rw [show "[8]" = "[" ++ "8" ++ "]" from rfl, hresolve]

end PointerChain
