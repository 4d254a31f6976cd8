import PointerChain.Text.Blank
import PointerChain.Text.WordChar

/-!
# Operands in a flat expression

A flat expression is a row of operands, each with an optional sign in front. An operand is a run of
word characters and hyphens that starts with a word character, followed by segments of word
characters that start with a dot each. All other characters are passed over.

A hyphen may be part of a name or a minus. It stays in the operand only if the whole run is a known
name; otherwise the run is cut before the hyphen behind its longest known name, or before its first
hyphen, and what follows is read again from that hyphen on.

* `nextRun?` finds the next run, with the sign in front of it.
* `Run.cut` decides where a run ends.
* `tokenize` reads all operands of an expression.
-/

namespace PointerChain

/-- The sign in front of an operand. -/
inductive Sign where
  /-- Adds the operand. -/
  | plus
  /-- Subtracts the operand. -/
  | minus
  deriving DecidableEq, Repr

/-- The character that a sign is written with. -/
def Sign.char : Sign → Char
  | plus => '+'
  | minus => '-'

/-- An operand with the sign in front of it. -/
structure Token where
  /-- The sign, if one was written. -/
  sign : Option Sign
  /-- The name or number. -/
  text : String
  deriving DecidableEq, Repr

namespace Expression

/-- The characters of an operand before its first dot. -/
def isNameChar (c : Char) : Bool :=
  Text.isWord c || c == '-'

/-- Splits off the dotted segments at the start: dots stay only in front of word characters. -/
def spanSegments : List Char → List Char × List Char
  | [] => ([], [])
  | [c] => if Text.isWord c then ([c], []) else ([], [c])
  | c :: d :: cs =>
    if Text.isWord c || (c == '.' && Text.isWord d) then
      let parts := spanSegments (d :: cs)
      (c :: parts.1, parts.2)
    else ([], c :: d :: cs)

/-- Splits off the run that continues an operand whose first character has been read. -/
def spanRun (cs : List Char) : List Char × List Char :=
  let segments := spanSegments (cs.dropWhile isNameChar)
  (cs.takeWhile isNameChar ++ segments.1, segments.2)

/-- A run of an expression that holds at least one operand. -/
structure Run where
  /-- The sign in front of it. -/
  sign : Option Sign
  /-- Its first character, which is a word character. -/
  first : Char
  /-- Its other characters. -/
  others : List Char
  /-- The expression behind it. -/
  rest : List Char
  deriving DecidableEq, Repr

/-- The run that starts behind blanks, its sign having been read. -/
def runBehind? (sign : Option Sign) (cs : List Char) : Option Run :=
  match Text.trimStart cs with
  | [] => none
  | c :: cs =>
    if Text.isWord c then
      let parts := spanRun cs
      some ⟨sign, c, parts.1, parts.2⟩
    else none

/-- The run at the start, behind an optional sign and blanks. -/
def runAt? : List Char → Option Run
  | '+' :: cs => runBehind? (some .plus) cs
  | '-' :: cs => runBehind? (some .minus) cs
  | cs => runBehind? none cs

/-- The next run of an expression. -/
def nextRun? : List Char → Option Run
  | [] => none
  | c :: cs => (runAt? (c :: cs)).or (nextRun? cs)

/-- Where the hyphens of a text are, in order, when so many characters are in front of it. -/
def hyphenPlaces (place : Nat) : List Char → List Nat
  | [] => []
  | c :: cs => if c = '-' then place :: hyphenPlaces (place + 1) cs else hyphenPlaces (place + 1) cs

/-- Where a run is cut, given which texts are known names: the number of characters behind the first
one that stay in the operand. -/
def Run.cutPlace (known : String → Bool) (run : Run) : Nat :=
  let isKnown (place : Nat) := known (String.ofList (run.first :: run.others.take place))
  match hyphenPlaces 0 run.others with
  | [] => run.others.length
  | first :: later =>
    -- The longest known name wins; without any, the first hyphen is a minus.
    if isKnown run.others.length then run.others.length
    else ((first :: later).reverse.find? isKnown).getD first

/-- Cuts a run, given which texts are known names. The parts are what follows the first character of
the operand, and what is to be read again. -/
def Run.cut (known : String → Bool) (run : Run) : List Char × List Char :=
  run.others.splitAt (run.cutPlace known)

/-! ### Nothing is lost -/

/-- The dotted segments and what is behind them make up the text. -/
theorem spanSegments_append (cs : List Char) :
    (spanSegments cs).1 ++ (spanSegments cs).2 = cs := by
  fun_induction spanSegments cs with
  | case4 c d cs h parts ih => simpa using ih
  | _ => simp

/-- A run and what is behind it make up the text. -/
theorem spanRun_append (cs : List Char) : (spanRun cs).1 ++ (spanRun cs).2 = cs := by
  simp [spanRun, List.append_assoc, spanSegments_append, List.takeWhile_append_dropWhile]

/-- The parts of a run make up the run. -/
theorem Run.cut_append (known : String → Bool) (run : Run) :
    (run.cut known).1 ++ (run.cut known).2 = run.others := by
  rw [Run.cut, List.splitAt_eq]
  exact List.take_append_drop _ _

/-- A run and what is behind it are not longer than the text behind its sign. -/
theorem length_of_runBehind? {sign : Option Sign} {cs : List Char} {run : Run}
    (h : runBehind? sign cs = some run) :
    run.others.length + run.rest.length < cs.length := by
  unfold runBehind? at h
  -- Blanks in front of the run only make the text shorter.
  have hle : (Text.trimStart cs).length ≤ cs.length := (List.dropWhile_suffix _).length_le
  split at h
  · simp at h
  · rename_i c ds hd
    split at h
    · obtain rfl := Option.some.inj h
      have := congrArg List.length (spanRun_append ds)
      rw [hd] at hle
      simp only [List.length_append, List.length_cons] at this hle ⊢
      omega
    · simp at h

/-- A run and what is behind it are not longer than the text that they are at the start of. -/
theorem length_of_runAt? {cs : List Char} {run : Run} (h : runAt? cs = some run) :
    run.others.length + run.rest.length < cs.length := by
  unfold runAt? at h
  split at h
  · have := length_of_runBehind? h; simp only [List.length_cons]; omega
  · have := length_of_runBehind? h; simp only [List.length_cons]; omega
  · exact length_of_runBehind? h

/-- A run and what is behind it are shorter than the text in which the run was found. -/
theorem length_of_nextRun? {cs : List Char} {run : Run} (h : nextRun? cs = some run) :
    run.others.length + run.rest.length < cs.length := by
  induction cs with
  | nil => simp [nextRun?] at h
  | cons c cs ih =>
    rw [nextRun?, Option.or_eq_some_iff] at h
    rcases h with h | ⟨-, h⟩
    · exact length_of_runAt? h
    · have := ih h; simp only [List.length_cons]; omega

/-- What is to be read behind an operand is shorter than what was read to find it. -/
theorem length_cut_append_rest {known : String → Bool} {cs : List Char} {run : Run}
    (h : nextRun? cs = some run) : ((run.cut known).2 ++ run.rest).length < cs.length := by
  have := length_of_nextRun? h
  have := congrArg List.length (run.cut_append known)
  simp only [List.length_append] at this ⊢
  omega

/-! ### All operands -/

/-- The operands of an expression in order, given which texts are known names. -/
def operands (known : String → Bool) (cs : List Char) : List Token :=
  match _h : nextRun? cs with
  | none => []
  | some run =>
    let parts := run.cut known
    ⟨run.sign, String.ofList (run.first :: parts.1)⟩ :: operands known (parts.2 ++ run.rest)
termination_by cs.length
decreasing_by exact length_cut_append_rest _h

end Expression

/-- The operands of an expression in order, given which texts are known names. -/
def tokenize (known : String → Bool) (expression : String) : List Token :=
  Expression.operands known expression.toList

/-- Whether an expression holds any operand. -/
def hasOperands (expression : String) : Bool :=
  (Expression.nextRun? expression.toList).isSome

end PointerChain
