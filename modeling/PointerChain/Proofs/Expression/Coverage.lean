import Mathlib.Logic.ExistsUnique
import PointerChain.Expression.Value
import PointerChain.Proofs.Expression.Atom

/-!
# Which characters belong to operands

The operands of an expression lie on stretches of it, one behind the other. The gaps between them
hold no word character, and the last character of a gap that is no blank gives the operand behind
the gap its sign, if it is a sign. So every word character is part of exactly one operand, although
a run that is cut at a hyphen is read again from there.

* `exists_gap_of_nextRun?` says what stands in front of the next run.
* `Lays` puts operands on stretches one after the other, and `exists_lays` finds the stretches.
* `Covers` says the same of all stretches at once.
* `tokenize_covers` is about the operands under any table.
-/

namespace PointerChain

/-- A stretch of a text. -/
structure Stretch where
  /-- The place of its first character. -/
  start : Nat
  /-- The place behind its last character. -/
  stop : Nat
  deriving DecidableEq, Repr

namespace Stretch

/-- The characters on a stretch. -/
def of (s : Stretch) (cs : List Char) : List Char := (cs.take s.stop).drop s.start

/-- A place on a stretch. -/
def Holds (s : Stretch) (place : Nat) : Prop := s.start ≤ place ∧ place < s.stop

/-- What a text from a place on is made of lies on stretches from there. -/
theorem of_eq (front : List Char) {cs middle back : List Char} {place : Nat}
    (h : cs.drop place = front ++ (middle ++ back)) :
    of ⟨place + front.length, place + front.length + middle.length⟩ cs = middle := by
  have hdrop : cs.drop (place + front.length) = middle ++ back := by
    rw [← List.drop_drop, h, List.drop_left]
  rw [of, List.drop_take, Nat.add_sub_cancel_left, hdrop, List.take_left]

theorem mem_of {s : Stretch} {cs : List Char} {place : Nat} {c : Char}
    (hc : cs[place]? = some c) (h : s.Holds place) : c ∈ s.of cs := by
  apply List.mem_of_getElem? (i := place - s.start)
  rw [of, List.getElem?_drop, Nat.add_sub_cancel' h.1, List.getElem?_take_of_lt h.2, hc]

end Stretch

namespace Expression

/-! ### In front of a run -/

/-- The last character of a text that is no blank. -/
def lastSolid? (cs : List Char) : Option Char :=
  cs.reverse.find? fun c => !Text.isBlank c

/-- The sign in front of an operand, behind a gap: the last character of the gap that is no blank,
if it is a plus or a minus. -/
def Signs (gap : List Char) (sign : Option Sign) : Prop :=
  ∀ s, sign = some s ↔ lastSolid? gap = some s.char

theorem lastSolid?_cons (c : Char) (cs : List Char) :
    lastSolid? (c :: cs) =
      (lastSolid? cs).or (if Text.isBlank c then none else some c) := by
  rw [lastSolid?, List.reverse_cons, List.find?_append, lastSolid?, List.find?_singleton]
  cases Text.isBlank c <;> rfl

theorem lastSolid?_eq_none {cs : List Char} (h : ∀ c ∈ cs, Text.isBlank c = true) :
    lastSolid? cs = none := by
  rw [lastSolid?, List.find?_eq_none]
  intro c hc
  rw [h c (List.mem_reverse.mp hc)]
  decide

theorem signs_blank {gap : List Char} (h : ∀ c ∈ gap, Text.isBlank c = true) :
    Signs gap none := by
  intro s
  rw [lastSolid?_eq_none h]
  exact ⟨nofun, nofun⟩

theorem signs_sign_cons (sign : Sign) {gap : List Char} (h : ∀ c ∈ gap, Text.isBlank c = true) :
    Signs (sign.char :: gap) (some sign) := by
  intro s
  have hsolid : Text.isBlank sign.char = false := by cases sign <;> decide
  rw [lastSolid?_cons, lastSolid?_eq_none h, hsolid]
  cases sign <;> cases s <;> decide

/-- A run behind blanks has only blanks in front of it. -/
theorem exists_blanks_of_runBehind? {sign : Option Sign} {cs : List Char} {run : Run}
    (h : runBehind? sign cs = some run) :
    ∃ gap, cs = gap ++ run.first :: (run.others ++ run.rest) ∧ run.sign = sign ∧
      Text.isWord run.first = true ∧ ∀ c ∈ gap, Text.isBlank c = true := by
  unfold runBehind? at h
  split at h
  next => cases h
  next c ds htrim =>
    split at h
    next hword =>
      obtain rfl := Option.some.inj h
      refine ⟨cs.takeWhile Text.isBlank, ?_, rfl, hword, ?_⟩
      · rw [spanRun_append, ← htrim, Text.trimStart, List.takeWhile_append_dropWhile]
      · exact List.all_eq_true.mp List.all_takeWhile
    next => cases h

/-- Blanks in front of a word character do not hide the run that starts there. -/
theorem runBehind?_blanks_append (sign : Option Sign) {gap : List Char}
    (h : ∀ c ∈ gap, Text.isBlank c = true) {c : Char} (hc : Text.isWord c = true)
    (cs : List Char) :
    runBehind? sign (gap ++ c :: cs) = some ⟨sign, c, (spanRun cs).1, (spanRun cs).2⟩ := by
  induction gap with
  | nil => exact runBehind?_cons_of_isWord sign cs hc
  | cons d gap ih =>
    obtain ⟨hd, hgap⟩ := List.forall_mem_cons.mp h
    rw [List.cons_append, runBehind?_cons_of_isBlank _ _ hd, ih hgap]

/-- In front of a run at the start of a text are blanks, behind its sign if it has one. -/
theorem exists_gap_of_runAt? {cs : List Char} {run : Run} (h : runAt? cs = some run) :
    ∃ gap, cs = gap ++ run.first :: (run.others ++ run.rest) ∧ Text.isWord run.first = true ∧
      (∀ c ∈ gap, Text.isWord c = false) ∧ Signs gap run.sign := by
  -- Both signs are treated alike: the sign is the first character of the gap.
  have hsigned (sign : Sign) (ds : List Char) (h : runBehind? (some sign) ds = some run) :
      ∃ gap, sign.char :: ds = gap ++ run.first :: (run.others ++ run.rest) ∧
        Text.isWord run.first = true ∧ (∀ c ∈ gap, Text.isWord c = false) ∧
        Signs gap run.sign := by
    obtain ⟨gap, rfl, hsign, hword, hgap⟩ := exists_blanks_of_runBehind? h
    refine ⟨sign.char :: gap, rfl, hword, List.forall_mem_cons.mpr ⟨?_, ?_⟩, ?_⟩
    · cases sign <;> decide
    · exact fun c hc => Text.isWord_eq_false_of_isBlank (hgap c hc)
    · rw [hsign]
      exact signs_sign_cons sign hgap
  unfold runAt? at h
  split at h
  next ds => exact hsigned .plus ds h
  next ds => exact hsigned .minus ds h
  next =>
    obtain ⟨gap, hcs, hsign, hword, hgap⟩ := exists_blanks_of_runBehind? h
    refine ⟨gap, hcs, hword, fun c hc => Text.isWord_eq_false_of_isBlank (hgap c hc), ?_⟩
    rw [hsign]
    exact signs_blank hgap

/-- In front of the next run there are no word characters, and what is there gives the run its
sign. -/
theorem exists_gap_of_nextRun? {cs : List Char} {run : Run} (h : nextRun? cs = some run) :
    ∃ gap, cs = gap ++ run.first :: (run.others ++ run.rest) ∧ Text.isWord run.first = true ∧
      (∀ c ∈ gap, Text.isWord c = false) ∧ Signs gap run.sign := by
  induction cs with
  | nil => cases h
  | cons c cs ih =>
    rw [nextRun?, Option.or_eq_some_iff] at h
    obtain h | ⟨hnone, h⟩ := h
    · exact exists_gap_of_runAt? h
    obtain ⟨gap, rfl, hword, hgap, hsigns⟩ := ih h
    have hc : Text.isWord c = false := by
      rw [Bool.eq_false_iff]
      intro hc
      obtain ⟨hplus, hminus⟩ := ne_sign_of_isWord hc
      rw [runAt?_cons_of_unsigned _ hplus hminus, runBehind?_cons_of_isWord _ _ hc] at hnone
      cases hnone
    refine ⟨c :: gap, rfl, hword, List.forall_mem_cons.mpr ⟨hc, hgap⟩, fun s => ?_⟩
    rw [lastSolid?_cons, hsigns s]
    cases hsolid : lastSolid? gap with
    | some d => rw [Option.some_or]
    | none =>
      -- All of the gap are blanks, so a sign in front of them would have started a run.
      have hblank : ∀ d ∈ gap, Text.isBlank d = true := by
        intro d hd
        simpa using List.find?_eq_none.mp hsolid d (List.mem_reverse.mpr hd)
      have hne : c ≠ s.char := by
        rintro rfl
        have hrun := runBehind?_blanks_append (some s) hblank hword (run.others ++ run.rest)
        have hat := runAt?_sign_cons s (gap ++ run.first :: (run.others ++ run.rest))
        rw [hnone, hrun] at hat
        cases hat
      refine ⟨fun hsome => absurd hsome (Option.some_ne_none _).symm, fun hsign => ?_⟩
      rw [Option.none_or] at hsign
      split at hsign
      next => cases hsign
      next => exact absurd (Option.some.inj hsign) hne

/-! ### Stretches of operands -/

/-- An operand lies on a stretch, at or behind a place. -/
structure Occupies (cs : List Char) (place : Nat) (token : Token) (s : Stretch) : Prop where
  /-- The stretch does not start in front of the place. -/
  le_start : place ≤ s.start
  /-- It is not empty. -/
  start_lt_stop : s.start < s.stop
  /-- It does not end behind the text. -/
  stop_le : s.stop ≤ cs.length
  /-- The operand is what is written there. -/
  text_eq : token.text = String.ofList (s.of cs)
  /-- It starts with a word character. -/
  isWord_start : ∃ c, cs[s.start]? = some c ∧ Text.isWord c = true
  /-- What is between the place and the stretch gives the operand its sign. -/
  signs : Signs (Stretch.of ⟨place, s.start⟩ cs) token.sign

/-- Operands lie on stretches one behind the other, from a place on, with no word character between
them and none behind the last one. -/
inductive Spread (cs : List Char) : Nat → List Token → List Stretch → Prop
  | nil {place : Nat} (h : ∀ c ∈ cs.drop place, Text.isWord c = false) : Spread cs place [] []
  | cons {place : Nat} {token : Token} {s : Stretch} {tokens : List Token}
      {stretches : List Stretch} (hs : Occupies cs place token s)
      (hgap : ∀ c ∈ Stretch.of ⟨place, s.start⟩ cs, Text.isWord c = false)
      (hrest : Spread cs s.stop tokens stretches) :
      Spread cs place (token :: tokens) (s :: stretches)

variable {cs : List Char} {place : Nat}

theorem Spread.le_start {tokens : List Token} {stretches : List Stretch}
    (h : Spread cs place tokens stretches) : ∀ s ∈ stretches, place ≤ s.start := by
  induction h with
  | nil => exact List.forall_mem_nil _
  | cons hs _ _ ih =>
    have hlt := hs.start_lt_stop
    refine List.forall_mem_cons.mpr ⟨hs.le_start, fun t ht => ?_⟩
    have hle := ih t ht
    have hplace := hs.le_start
    omega

/-- The next run is cut down to an operand on a stretch. What was cut off is read again, so the rest
of the text starts behind the stretch. -/
theorem exists_occupies (known : String → Bool) {run : Run}
    (h : nextRun? (cs.drop place) = some run) :
    ∃ s, Occupies cs place ⟨run.sign, String.ofList (run.first :: (run.cut known).1)⟩ s ∧
      (∀ c ∈ Stretch.of ⟨place, s.start⟩ cs, Text.isWord c = false) ∧
      cs.drop s.stop = (run.cut known).2 ++ run.rest := by
  obtain ⟨gap, hgap, hword, hnot, hsigns⟩ := exists_gap_of_nextRun? h
  let body := run.first :: (run.cut known).1
  let s : Stretch := ⟨place + gap.length, place + gap.length + body.length⟩
  have hdrop : cs.drop place = gap ++ (body ++ ((run.cut known).2 ++ run.rest)) := by
    rw [hgap, ← run.cut_append known]
    simp [body]
  have hbody : s.of cs = body := Stretch.of_eq gap hdrop
  have hfront : Stretch.of ⟨place, s.start⟩ cs = gap := by
    simpa using Stretch.of_eq [] hdrop
  have hstart : cs.drop s.start = body ++ ((run.cut known).2 ++ run.rest) := by
    rw [← List.drop_drop, hdrop, List.drop_left]
  refine ⟨s, ⟨Nat.le_add_right _ _, ?_, ?_, by rw [hbody], ?_, hfront ▸ hsigns⟩, hfront ▸ hnot, ?_⟩
  · exact Nat.lt_add_of_pos_right (Nat.succ_pos _)
  · have hlength := congrArg List.length hdrop
    have hpos : 0 < body.length := Nat.succ_pos _
    simp only [List.length_drop, List.length_append] at hlength
    simp only [s]
    omega
  · refine ⟨run.first, ?_, hword⟩
    rw [← List.head?_drop, hstart]
    rfl
  · rw [← List.drop_drop, hstart, List.drop_left]

/-- The operands of a text from a place on lie on stretches of it. -/
theorem exists_spread (known : String → Bool) (cs : List Char) (place : Nat) :
    ∃ stretches, Spread cs place (operands known (cs.drop place)) stretches := by
  generalize hds : cs.drop place = ds
  fun_induction operands known ds generalizing place with
  | case1 ds hnone =>
    have hany : ds.any Text.isWord = false := by rw [← isSome_nextRun?_eq_any, hnone]; rfl
    exact ⟨[], .nil (by simpa [hds] using hany)⟩
  | case2 ds run hrun parts ih =>
    subst hds
    obtain ⟨s, hs, hgap, hrest⟩ := exists_occupies known hrun
    obtain ⟨stretches, hstretches⟩ := ih s.stop hrest
    exact ⟨s :: stretches, .cons hs hgap hstretches⟩

/-! ### All stretches at once -/

/-- The place behind the first so many stretches, which lie behind a place. -/
def placeBehind (place : Nat) (stretches : List Stretch) (count : Nat) : Nat :=
  ((stretches.take count).getLast?.map Stretch.stop).getD place

theorem placeBehind_cons_succ (place : Nat) (s : Stretch) (stretches : List Stretch)
    (count : Nat) :
    placeBehind place (s :: stretches) (count + 1) = placeBehind s.stop stretches count := by
  rw [placeBehind, List.take_succ_cons, List.getLast?_cons, placeBehind]
  cases (stretches.take count).getLast? <;> rfl

/-- Operands that take up stretches of a text and leave no word character out. -/
structure Covers (cs : List Char) (tokens : List Token) (stretches : List Stretch) : Prop where
  /-- There is a stretch for each operand. -/
  length_eq : stretches.length = tokens.length
  /-- Each operand lies on its stretch, behind the stretches of those in front of it. -/
  occupies : ∀ k token s, tokens[k]? = some token → stretches[k]? = some s →
    Occupies cs (placeBehind 0 stretches k) token s
  /-- Every word character lies on exactly one of the stretches. -/
  existsUnique_holds : ∀ place c, cs[place]? = some c → Text.isWord c = true →
    ∃! k : Nat, ∃ s : Stretch, stretches[k]? = some s ∧ s.Holds place

namespace Spread

variable {tokens : List Token} {stretches : List Stretch}

theorem length_eq (h : Spread cs place tokens stretches) :
    stretches.length = tokens.length := by
  induction h with
  | nil => rfl
  | cons _ _ _ ih => rw [List.length_cons, List.length_cons, ih]

theorem occupies (h : Spread cs place tokens stretches) {k : Nat} {token : Token} {s : Stretch}
    (htoken : tokens[k]? = some token) (hs : stretches[k]? = some s) :
    Occupies cs (placeBehind place stretches k) token s := by
  induction h generalizing k with
  | nil => cases hs
  | cons hfirst _ _ ih =>
    cases k with
    | zero =>
      obtain rfl := Option.some.inj htoken
      obtain rfl := Option.some.inj hs
      exact hfirst
    | succ k =>
      rw [placeBehind_cons_succ]
      exact ih htoken hs

/-- A word character from the place on lies on exactly one of the stretches. -/
theorem existsUnique_holds (h : Spread cs place tokens stretches) {found : Nat}
    (hle : place ≤ found) {c : Char} (hc : cs[found]? = some c) (hword : Text.isWord c = true) :
    ∃! k : Nat, ∃ s : Stretch, stretches[k]? = some s ∧ s.Holds found := by
  -- The stretches come in order, so what lies on the first one lies on none behind it.
  induction h with
  | nil h =>
    have hmem : c ∈ cs.drop _ := List.mem_of_getElem? (i := found - _) <| by
      rw [List.getElem?_drop, Nat.add_sub_cancel' hle, hc]
    rw [h c hmem] at hword
    cases hword
  | @cons place token s tokens stretches hs hgap hrest ih =>
    have hbehind : ∀ t ∈ stretches, s.stop ≤ t.start := hrest.le_start
    obtain hfront | hfront := Nat.lt_or_ge found s.start
    · -- The gap in front of the stretch holds no word character.
      rw [hgap c (Stretch.mem_of hc ⟨hle, hfront⟩)] at hword
      cases hword
    obtain hinside | hinside := Nat.lt_or_ge found s.stop
    · refine ⟨0, ⟨s, rfl, hfront, hinside⟩, ?_⟩
      rintro (_ | k) ⟨t, ht, hstart, -⟩
      · rfl
      · have hle := hbehind t (List.mem_of_getElem? ht)
        omega
    · obtain ⟨k, ⟨t, ht, hholds⟩, hunique⟩ := ih hinside
      refine ⟨k + 1, ⟨t, ht, hholds⟩, ?_⟩
      rintro (_ | l) ⟨u, hu, hstart, hstop⟩
      · obtain rfl := Option.some.inj hu
        omega
      · rw [hunique l ⟨u, hu, hstart, hstop⟩]

end Spread

/-- The operands of a text take up stretches of it and leave no word character out. -/
theorem exists_covers (known : String → Bool) (cs : List Char) :
    ∃ stretches, Covers cs (operands known cs) stretches := by
  obtain ⟨stretches, h⟩ := exists_spread known cs 0
  exact ⟨stretches, h.length_eq, fun k token s htoken hs => h.occupies htoken hs,
    fun place c hc hword => h.existsUnique_holds (Nat.zero_le _) hc hword⟩

end Expression

open Expression

/-- Under any table, the operands of an expression lie on stretches of it, one behind the other.
Every word character is part of exactly one of them, and each starts with a word character. The sign
of an operand is the last character in front of it that is no blank and comes behind the operand
before it, if this character is a plus or a minus. There are operands if and only if the expression
holds a word character, which does not depend on the table. -/
theorem tokenize_covers (table : ModuleTable) (expression : String) :
    (∃ stretches, Covers expression.toList (table.tokenize expression) stretches) ∧
      (hasOperands expression = true ↔ table.tokenize expression ≠ []) ∧
      (hasOperands expression = true ↔ ∃ c ∈ expression.toList, Text.isWord c = true) := by
  refine ⟨exists_covers table.hasName expression.toList, ?_, ?_⟩
  · rw [hasOperands, Option.isSome_iff_ne_none]
    exact (not_congr operands_eq_nil_iff).symm
  · rw [hasOperands_eq_any, List.any_eq_true]

end PointerChain
