import PointerChain.Expression.Token

/-!
# Where operands are found

The search for the next operand, read off one character at a time: a word character starts an
operand, blanks are passed over behind a sign, and all other characters are passed over everywhere.

* `isWord_eq_false_of_isBlank`: no character is both a blank and a word character.
* `hasOperands_eq_any`: an expression holds an operand exactly if it holds a word character.
* `operands_cons_of_skipped`: brackets and the like in front of an expression change no operand.
-/

namespace PointerChain

namespace Text

/-- No span of the one list meets a span of the other. -/
def Spans.apart (s t : Spans) : Bool :=
  s.all fun a => t.all fun b => decide (a.2 < b.1) || decide (b.2 < a.1)

/-- Of two lists of spans that do not meet, at most one covers a character. -/
theorem Spans.covers_eq_false_of_apart {s t : Spans} (h : s.apart t = true) {c : Char}
    (hs : s.covers c = true) : t.covers c = false := by
  rw [Bool.eq_false_iff]
  intro ht
  obtain ⟨a, ha, ha₁, ha₂⟩ := covers_iff.mp hs
  obtain ⟨b, hb, hb₁, hb₂⟩ := covers_iff.mp ht
  have hab := List.all_eq_true.mp (List.all_eq_true.mp h a ha) b hb
  simp only [Bool.or_eq_true, decide_eq_true_eq] at hab
  omega

/-- No character is both a blank and a word character. -/
theorem isWord_eq_false_of_isBlank {c : Char} (h : isBlank c = true) : isWord c = false := by
  -- Inside ASCII both are checked character by character, outside by the spans of the tables.
  by_cases hc : c.val < 128
  · have hascii : ∀ n < 128, isBlank (Char.ofNat n) = true → isWord (Char.ofNat n) = false := by
      decide +kernel
    have hc : c.toNat < 128 := by simpa using UInt32.lt_iff_toNat_lt.mp hc
    simpa using hascii c.toNat hc (by simpa using h)
  · rw [isWord_of_not_ascii hc]
    have happart : blankSpans.apart wordSpans = true := by decide +kernel
    exact Spans.covers_eq_false_of_apart happart h

end Text

namespace Expression

/-! ### The search for a run -/

@[simp] theorem runBehind?_nil (sign : Option Sign) : runBehind? sign [] = none := rfl

theorem runBehind?_cons_of_isWord (sign : Option Sign) {c : Char} (cs : List Char)
    (h : Text.isWord c = true) :
    runBehind? sign (c :: cs) = some ⟨sign, c, (spanRun cs).1, (spanRun cs).2⟩ := by
  have hblank : Text.isBlank c = false := by
    rw [Bool.eq_false_iff]
    intro hblank
    rw [Text.isWord_eq_false_of_isBlank hblank] at h
    cases h
  simp [runBehind?, Text.trimStart, hblank, h]

theorem runBehind?_cons_of_isBlank (sign : Option Sign) {c : Char} (cs : List Char)
    (h : Text.isBlank c = true) : runBehind? sign (c :: cs) = runBehind? sign cs := by
  simp [runBehind?, Text.trimStart, h]

theorem runBehind?_cons_of_stray (sign : Option Sign) {c : Char} (cs : List Char)
    (hword : Text.isWord c = false) (hblank : Text.isBlank c = false) :
    runBehind? sign (c :: cs) = none := by
  simp [runBehind?, Text.trimStart, hword, hblank]

theorem runAt?_cons_of_unsigned {c : Char} (cs : List Char) (hplus : c ≠ '+') (hminus : c ≠ '-') :
    runAt? (c :: cs) = runBehind? none (c :: cs) := by
  unfold runAt?
  split
  · simp_all
  · simp_all
  · rfl

/-- A text with a run behind its blanks holds a word character. -/
theorem any_isWord_of_runBehind? {sign : Option Sign} {cs : List Char} {run : Run}
    (h : runBehind? sign cs = some run) : cs.any Text.isWord = true := by
  induction cs with
  | nil => simp at h
  | cons c cs ih =>
    rw [List.any_cons, Bool.or_eq_true]
    by_cases hword : Text.isWord c = true
    · exact .inl hword
    · by_cases hblank : Text.isBlank c = true
      · rw [runBehind?_cons_of_isBlank _ _ hblank] at h
        exact .inr (ih h)
      · rw [Bool.not_eq_true] at hword hblank
        rw [runBehind?_cons_of_stray _ _ hword hblank] at h
        cases h

/-- A text that starts with a run, perhaps behind a sign, holds a word character. -/
theorem any_isWord_of_runAt? {cs : List Char} {run : Run} (h : runAt? cs = some run) :
    cs.any Text.isWord = true := by
  unfold runAt? at h
  split at h
  · rw [List.any_cons, any_isWord_of_runBehind? h, Bool.or_true]
  · rw [List.any_cons, any_isWord_of_runBehind? h, Bool.or_true]
  · exact any_isWord_of_runBehind? h

theorem ne_sign_of_isWord {c : Char} (h : Text.isWord c = true) : c ≠ '+' ∧ c ≠ '-' := by
  constructor
  · rintro rfl
    revert h
    decide
  · rintro rfl
    revert h
    decide

/-- The next run starts at a word character with which the text starts. -/
theorem nextRun?_cons_of_isWord {c : Char} (cs : List Char) (h : Text.isWord c = true) :
    nextRun? (c :: cs) = some ⟨none, c, (spanRun cs).1, (spanRun cs).2⟩ := by
  obtain ⟨hplus, hminus⟩ := ne_sign_of_isWord h
  rw [nextRun?, runAt?_cons_of_unsigned cs hplus hminus, runBehind?_cons_of_isWord none cs h,
    Option.some_or]

/-- There is a next run exactly if the text holds a word character. -/
theorem isSome_nextRun?_eq_any (cs : List Char) :
    (nextRun? cs).isSome = cs.any Text.isWord := by
  induction cs with
  | nil => rfl
  | cons c cs ih =>
    by_cases hword : Text.isWord c = true
    · rw [nextRun?_cons_of_isWord cs hword, List.any_cons, hword]
      rfl
    · -- A sign or a blank may still start a run, whose word character comes later.
      cases hrun : runAt? (c :: cs) with
      | none =>
        rw [Bool.not_eq_true] at hword
        rw [nextRun?, hrun, Option.none_or, ih, List.any_cons, hword, Bool.false_or]
      | some run =>
        rw [nextRun?, hrun, any_isWord_of_runAt? hrun]
        rfl

/-- A run starts at a word character, and what is split off behind it is the rest of the run. -/
theorem spanRun_of_runBehind? {sign : Option Sign} {cs : List Char} {run : Run}
    (h : runBehind? sign cs = some run) :
    Text.isWord run.first = true ∧ spanRun (run.others ++ run.rest) = (run.others, run.rest) := by
  unfold runBehind? at h
  split at h
  next => cases h
  next c ds _ =>
    split at h
    next hc =>
      obtain rfl := Option.some.inj h
      exact ⟨hc, by rw [spanRun_append]⟩
    next => cases h

theorem spanRun_of_nextRun? {cs : List Char} {run : Run} (h : nextRun? cs = some run) :
    Text.isWord run.first = true ∧ spanRun (run.others ++ run.rest) = (run.others, run.rest) := by
  induction cs with
  | nil => cases h
  | cons c cs ih =>
    rw [nextRun?, Option.or_eq_some_iff] at h
    obtain h | ⟨-, h⟩ := h
    · unfold runAt? at h
      split at h <;> exact spanRun_of_runBehind? h
    · exact ih h

/-- There is no next run exactly if the text holds no word character. -/
theorem nextRun?_eq_none_iff {cs : List Char} :
    nextRun? cs = none ↔ cs.any Text.isWord = false := by
  rw [← isSome_nextRun?_eq_any, Option.isSome_eq_false_iff, Option.isNone_iff_eq_none]

/-! ### The first operand -/

variable {known : String → Bool}

theorem operands_of_nextRun? {cs : List Char} {run : Run} (h : nextRun? cs = some run) :
    operands known cs = ⟨run.sign, String.ofList (run.first :: (run.cut known).1)⟩ ::
      operands known ((run.cut known).2 ++ run.rest) := by
  rw [operands]
  split
  next hnone => rw [h] at hnone; cases hnone
  next hsome => rw [h] at hsome; cases hsome; rfl

theorem operands_eq_nil_iff {cs : List Char} : operands known cs = [] ↔ nextRun? cs = none := by
  cases hrun : nextRun? cs with
  | some run => simp [operands_of_nextRun? hrun]
  | none =>
    rw [operands]
    split
    next => simp
    next hsome => rw [hrun] at hsome; cases hsome

/-! ### Characters that are passed over -/

/-- A character that has no part in any operand and in no sign. -/
structure IsSkipped (c : Char) : Prop where
  /-- It is no word character. -/
  not_word : Text.isWord c = false
  /-- It is no blank, so it parts signs from operands. -/
  not_blank : Text.isBlank c = false
  /-- It is no plus sign. -/
  ne_plus : c ≠ '+'
  /-- It is no minus sign. -/
  ne_minus : c ≠ '-'

theorem isSkipped_opening : IsSkipped '[' := by constructor <;> decide

theorem isSkipped_closing : IsSkipped ']' := by constructor <;> decide

/-- The next run is looked for behind characters that are passed over. -/
theorem nextRun?_cons_of_skipped {c : Char} (cs : List Char) (h : IsSkipped c) :
    nextRun? (c :: cs) = nextRun? cs := by
  rw [nextRun?, runAt?_cons_of_unsigned cs h.ne_plus h.ne_minus,
    runBehind?_cons_of_stray none cs h.not_word h.not_blank, Option.none_or]

/-- The operands of an expression are those behind the characters that are passed over. -/
theorem operands_cons_of_skipped (known : String → Bool) {c : Char} (cs : List Char)
    (h : IsSkipped c) : operands known (c :: cs) = operands known cs := by
  rw [operands, operands, nextRun?_cons_of_skipped cs h]

end Expression

/-- An expression holds an operand exactly if it holds a word character. -/
theorem hasOperands_eq_any (expression : String) :
    hasOperands expression = expression.toList.any Text.isWord :=
  Expression.isSome_nextRun?_eq_any expression.toList

/-- An opening bracket in front of a text adds no operand. -/
theorem hasOperands_bracket_append (text : String) :
    hasOperands ("[" ++ text) = hasOperands text := by
  have hopen : Text.isWord '[' = false := by decide
  simp [hasOperands_eq_any, hopen]

end PointerChain
