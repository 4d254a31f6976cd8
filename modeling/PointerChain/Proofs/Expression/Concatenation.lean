import PointerChain.Proofs.Expression.Coverage
import PointerChain.Proofs.Expression.ExactSum

/-!
# Expressions with a plus sign between them

A plus sign is no part of an operand, and a sign in front of it belongs to nothing behind it. So the
operands of two expressions with a plus sign between them are those of the one and those of the
other, except that the first operand behind the plus sign may be given this sign. Its value is added
in any case, unless it had a sign of its own.

* `Expression.introduces_of_signs` finds a run behind any gap.
* `Expression.operands_append_plus` parts the operands in front of the plus sign from the others.
* `Expression.operands_plus_cons` says what the plus sign does to those behind it.
* `evaluate_append_plus` is about the values of the three expressions.
-/

namespace PointerChain

namespace Expression

variable {known : String → Bool} {gap front more back cs : List Char} {sign : Option Sign}
variable {run : Run}

/-! ### Runs in front of a plus sign -/

theorem spanSegments_append_of_endsRun (h : EndsRun more) (cs : List Char) :
    spanSegments (cs ++ more) = ((spanSegments cs).1, (spanSegments cs).2 ++ more) := by
  fun_induction spanSegments cs with
  | case1 => exact spanSegments_of_endsRun h
  | case2 c hc =>
    rw [List.singleton_append, spanSegments_cons_of_isWord hc, spanSegments_of_endsRun h]
    rfl
  | case3 c hc =>
    -- Even if this is a dot, no word character follows that it could stand in front of.
    cases more with
    | nil => simp [spanSegments, hc]
    | cons d more =>
      have hd : Text.isWord d = false := (Bool.or_eq_false_iff.mp (h d rfl).1).1
      simp [spanSegments, hc, hd]
  | case4 c d cs hgoes parts ih =>
    rw [List.cons_append, List.cons_append, spanSegments, if_pos hgoes]
    simp only [← List.cons_append, ih, parts]
  | case5 c d cs hstops =>
    rw [List.cons_append, List.cons_append, spanSegments, if_neg hstops]

/-- What ends a run is not part of it, wherever the run ends. -/
theorem spanRun_append_of_endsRun (h : EndsRun more) (cs : List Char) :
    spanRun (cs ++ more) = ((spanRun cs).1, (spanRun cs).2 ++ more) := by
  -- What is put behind starts with no character of a name, so a name that reaches the end of the
  -- text ends there.
  have htake : more.takeWhile isNameChar = [] := by
    cases more with
    | nil => rfl
    | cons c more => rw [List.takeWhile_cons_of_neg]; simp [(h c rfl).1]
  have hdrop : more.dropWhile isNameChar = more := by
    cases more with
    | nil => rfl
    | cons c more => rw [List.dropWhile_cons_of_neg]; simp [(h c rfl).1]
  have hname : (cs ++ more).takeWhile isNameChar = cs.takeWhile isNameChar := by
    rw [List.takeWhile_append, htake, List.append_nil]
    split
    next hlength => exact ((List.takeWhile_prefix _).eq_of_length hlength).symm
    next => rfl
  have hrest : (cs ++ more).dropWhile isNameChar = cs.dropWhile isNameChar ++ more := by
    rw [List.dropWhile_append, hdrop]
    split
    next hempty => rw [List.isEmpty_iff.mp hempty, List.nil_append]
    next => rfl
  rw [spanRun, hname, hrest, spanSegments_append_of_endsRun h]
  rfl

/-- A text has only one gap in front of its first word character. -/
theorem eq_of_gap_append_eq {gap gap' cs cs' : List Char} {c c' : Char}
    (hgap : ∀ d ∈ gap, Text.isWord d = false) (hc : Text.isWord c = true)
    (hgap' : ∀ d ∈ gap', Text.isWord d = false) (hc' : Text.isWord c' = true)
    (h : gap ++ c :: cs = gap' ++ c' :: cs') : gap = gap' ∧ c = c' ∧ cs = cs' := by
  have hspan (gap cs : List Char) (c : Char) (hgap : ∀ d ∈ gap, Text.isWord d = false)
      (hc : Text.isWord c = true) :
      (gap ++ c :: cs).takeWhile (fun d => !Text.isWord d) = gap := by
    rw [List.takeWhile_append_of_pos fun d hd => by simp [hgap d hd],
      List.takeWhile_cons_of_neg (by simp [hc]), List.append_nil]
  have heq : gap = gap' := by
    rw [← hspan gap cs c hgap hc, h, hspan gap' cs' c' hgap' hc']
  subst heq
  obtain ⟨rfl, rfl⟩ := List.cons.inj (List.append_cancel_left h)
  exact ⟨rfl, rfl, rfl⟩

theorem Signs.unique {sign' : Option Sign} (h : Signs gap sign) (h' : Signs gap sign') :
    sign = sign' :=
  Option.ext fun s => (h s).trans (h' s).symm

/-- A gap introduces the operand behind it with the sign that it gives to it. -/
theorem introduces_of_signs (hgap : ∀ c ∈ gap, Text.isWord c = false) (hsigns : Signs gap sign) :
    Introduces gap sign := by
  intro c cs hc
  have hsome : (nextRun? (gap ++ c :: cs)).isSome = true := by
    simp [isSome_nextRun?_eq_any, hc]
  obtain ⟨run, hrun⟩ := Option.isSome_iff_exists.mp hsome
  obtain ⟨gap', htext, hword, hgap', hsigns'⟩ := exists_gap_of_nextRun? hrun
  obtain ⟨rfl, rfl, rfl⟩ := eq_of_gap_append_eq hgap hc hgap' hword htext
  obtain rfl := hsigns.unique hsigns'
  rw [hrun, (spanRun_of_nextRun? hrun).2]

/-! ### Operands on both sides -/

/-- In front of the plus sign, the next run is what it would be without anything behind. -/
theorem nextRun?_append_plus (back : List Char) (h : nextRun? front = some run) :
    nextRun? (front ++ '+' :: back) = some { run with rest := run.rest ++ '+' :: back } := by
  obtain ⟨gap, rfl, hword, hgap, hsigns⟩ := exists_gap_of_nextRun? h
  rw [List.append_assoc, List.cons_append, introduces_of_signs hgap hsigns run.first _ hword,
    spanRun_append_of_endsRun (endsRun_plus back), (spanRun_of_nextRun? h).2]

theorem lastSolid?_append_plus (front gap : List Char) :
    lastSolid? (front ++ '+' :: gap) = lastSolid? ('+' :: gap) := by
  have hsolid : (lastSolid? ('+' :: gap)).isSome = true := by
    have hplus : Text.isBlank '+' = false := by decide
    rw [lastSolid?_cons, hplus]
    cases lastSolid? gap <;> rfl
  rw [lastSolid?, List.reverse_append, List.find?_append]
  exact Option.or_of_isSome hsolid

/-- Without an operand in front of the plus sign, nothing in front of it matters. -/
theorem nextRun?_append_plus_of_none (hfront : nextRun? front = none) (back : List Char) :
    nextRun? (front ++ '+' :: back) = nextRun? ('+' :: back) := by
  have hwords : front.any Text.isWord = false := nextRun?_eq_none_iff.mp hfront
  cases hrun : nextRun? ('+' :: back) with
  | none =>
    rw [nextRun?_eq_none_iff, List.any_append, hwords, nextRun?_eq_none_iff.mp hrun]
    rfl
  | some run =>
    obtain ⟨gap, htext, hword, hgap, hsigns⟩ := exists_gap_of_nextRun? hrun
    -- The gap in front of the run starts with the plus sign, which is no word character.
    obtain ⟨gap, rfl⟩ : ∃ rest, gap = '+' :: rest := by
      cases gap with
      | nil =>
        obtain ⟨hplus, -⟩ := List.cons.inj htext
        rw [← hplus] at hword
        exact absurd hword (by decide)
      | cons c rest => exact ⟨rest, by rw [(List.cons.inj htext).1]⟩
    have hlonger : Introduces (front ++ '+' :: gap) run.sign := by
      apply introduces_of_signs
      · intro c hc
        rw [List.mem_append] at hc
        exact hc.elim (fun hc => by simpa using List.any_eq_false.mp hwords c hc) (hgap c)
      · intro s
        rw [lastSolid?_append_plus, hsigns s]
    rw [htext, ← List.append_assoc, hlonger run.first _ hword, (spanRun_of_nextRun? hrun).2]

/-- The operands in front of a plus sign are those that are there without what follows. -/
theorem operands_append_plus (known : String → Bool) (front back : List Char) :
    operands known (front ++ '+' :: back) =
      operands known front ++ operands known ('+' :: back) := by
  fun_induction operands known front with
  | case1 front hnone =>
    rw [operands, operands, nextRun?_append_plus_of_none hnone]
    rfl
  | case2 front run hrun parts ih =>
    -- The run is cut as before, and what is cut off is read again in front of the plus sign.
    rw [operands_of_nextRun? (nextRun?_append_plus back hrun), List.cons_append, ← ih,
      List.append_assoc]
    rfl

/-- A plus sign in front of a gap without a sign is the sign of what comes behind the gap, or is
hidden by the gap. -/
theorem signs_plus_cons (h : Signs gap none) :
    ∃ sign, sign ≠ some Sign.minus ∧ Signs ('+' :: gap) sign := by
  cases hsolid : lastSolid? gap with
  | none =>
    have hblank : ∀ c ∈ gap, Text.isBlank c = true := by
      intro c hc
      simpa using List.find?_eq_none.mp hsolid c (List.mem_reverse.mpr hc)
    exact ⟨some .plus, by decide, signs_sign_cons .plus hblank⟩
  | some c =>
    refine ⟨none, by decide, fun s => ?_⟩
    rw [lastSolid?_cons, hsolid, Option.some_or, ← hsolid]
    exact h s

/-- A plus sign in front of an operand without a sign does not turn it into one that is
subtracted, and leaves all others as they are. -/
theorem operands_plus_cons (h : ∀ token ∈ (operands known back).head?, token.sign = none) :
    (operands known back = [] ∧ operands known ('+' :: back) = []) ∨
      ∃ sign text others, sign ≠ some Sign.minus ∧
        operands known back = ⟨none, text⟩ :: others ∧
        operands known ('+' :: back) = ⟨sign, text⟩ :: others := by
  have hplus : Text.isWord '+' = false := by decide
  cases hrun : nextRun? back with
  | none =>
    refine .inl ⟨operands_eq_nil_iff.mpr hrun, operands_eq_nil_iff.mpr ?_⟩
    rw [nextRun?_eq_none_iff, List.any_cons, hplus, nextRun?_eq_none_iff.mp hrun]
    rfl
  | some run =>
    rw [operands_of_nextRun? hrun] at h ⊢
    have hnone : run.sign = none := h _ rfl
    obtain ⟨gap, rfl, hword, hgap, hsigns⟩ := exists_gap_of_nextRun? hrun
    obtain ⟨sign, hne, hsign⟩ := signs_plus_cons (hnone ▸ hsigns)
    -- The same run is found behind the longer gap, with the sign that this gap gives to it.
    have hlonger := introduces_of_signs (List.forall_mem_cons.mpr ⟨hplus, hgap⟩) hsign run.first
      (run.others ++ run.rest) hword
    rw [(spanRun_of_nextRun? hrun).2] at hlonger
    refine .inr ⟨sign, _, _, hne, by rw [hnone], ?_⟩
    rw [← List.cons_append, operands_of_nextRun? hlonger]
    rfl

/-! ### Values on both sides -/

variable {table : ModuleTable}

/-- What is added to a sum is added to what operands are added to. -/
theorem addTokens_add (a b : Address) (tokens : List Token) :
    addTokens table (a + b) tokens = do
      let c ← addTokens table b tokens
      return a + c := by
  rw [addTokens_eq, addTokens_eq, bind_assoc]
  refine bind_congr fun values => ?_
  rw [pure_bind, UInt64.add_assoc]

/-- Of two rows of operands, of which the second one is not subtracted, the values are added. -/
theorem sumOf_append {tokens others : List Token} {text : String} (h : sign ≠ some Sign.minus) :
    sumOf table (tokens ++ ⟨sign, text⟩ :: others) = do
      let a ← sumOf table tokens
      let b ← sumOf table (⟨none, text⟩ :: others)
      return a + b := by
  have happly (a b : Address) : apply sign a b = a + b := by
    rcases sign with _ | _ | _
    · rfl
    · rfl
    · exact absurd rfl h
  cases tokens with
  | nil =>
    -- The first operand of all is taken as it is, whatever its sign.
    change sumOf table (⟨none, text⟩ :: others) = do
      let b ← sumOf table (⟨none, text⟩ :: others)
      return 0 + b
    simp only [UInt64.zero_add, bind_pure]
  | cons first tokens =>
    rw [List.cons_append, sumOf, sumOf, sumOf, bind_assoc]
    refine bind_congr fun a => ?_
    rw [addTokens, List.foldlM_append]
    refine bind_congr fun b => ?_
    rw [List.foldlM_cons, bind_assoc, bind_assoc]
    refine bind_congr fun c => ?_
    rw [pure_bind, happly]
    exact addTokens_add b c others

end Expression

open Expression

variable {table : ModuleTable} {front back : String}

theorem sumOf_tokenize_append_plus
    (h : ∀ token ∈ (table.tokenize back).head?, token.sign = none) :
    sumOf table (table.tokenize (front ++ "+" ++ back)) = do
      let a ← sumOf table (table.tokenize front)
      let b ← sumOf table (table.tokenize back)
      return a + b := by
  have hchars : (front ++ "+" ++ back).toList = front.toList ++ '+' :: back.toList := by simp
  have htokens : table.tokenize (front ++ "+" ++ back) =
      table.tokenize front ++ operands table.hasName ('+' :: back.toList) := by
    rw [ModuleTable.tokenize, tokenize, hchars, operands_append_plus]
    rfl
  rw [htokens]
  obtain ⟨hnone, hplus⟩ | ⟨sign, text, others, hne, hback, hplus⟩ := operands_plus_cons h
  · have hempty : table.tokenize back = [] := hnone
    rw [hplus, hempty, List.append_nil]
    change _ = sumOf table (table.tokenize front) >>= fun a => pure (a + 0)
    simp only [UInt64.add_zero, bind_pure]
  · have hfirst : table.tokenize back = ⟨none, text⟩ :: others := hback
    rw [hplus, hfirst, sumOf_append hne]

/-- The value of two expressions with a plus sign between them is the sum of their values, modulo
`2 ^ 64`, unless the second one starts with a sign of its own. It has a value exactly if both have
one; otherwise the operand is reported for which the first one fails, or else the second one. -/
theorem evaluate_append_plus
    (h : ∀ token ∈ (table.tokenize back).head?, token.sign = none) :
    (∀ c, evaluate table (front ++ "+" ++ back) = .ok c ↔
      ∃ a b, evaluate table front = .ok a ∧ evaluate table back = .ok b ∧
        c.toNat = (a.toNat + b.toNat) % 2 ^ 64) ∧
    (∀ operand fault,
      evaluate table (front ++ "+" ++ back) = .error ⟨front ++ "+" ++ back, operand, fault⟩ ↔
        evaluate table front = .error ⟨front, operand, fault⟩ ∨
          (∃ a, evaluate table front = .ok a) ∧
            evaluate table back = .error ⟨back, operand, fault⟩) := by
  simp only [evaluate_eq_ok_iff, evaluate_eq_error_iff, sumOf_tokenize_append_plus h]
  constructor
  · intro c
    constructor
    · intro hsum
      obtain ⟨a, ha, hsum⟩ := exists_of_bind_eq_ok hsum
      obtain ⟨b, hb, hsum⟩ := exists_of_bind_eq_ok hsum
      obtain rfl := Except.ok.inj hsum
      exact ⟨a, b, ha, hb, UInt64.toNat_add a b⟩
    · rintro ⟨a, b, ha, hb, hc⟩
      obtain rfl : c = a + b := UInt64.toNat_inj.mp (hc.trans (UInt64.toNat_add a b).symm)
      rw [ha, hb]
      rfl
  · intro operand fault
    rw [bind_eq_error_iff]
    refine or_congr_right ?_
    constructor
    · rintro ⟨a, ha, hsum⟩
      -- The addition itself cannot fail.
      exact ⟨⟨a, ha⟩, (bind_eq_error_iff.mp hsum).resolve_right nofun⟩
    · rintro ⟨⟨a, ha⟩, hback⟩
      exact ⟨a, ha, bind_eq_error_iff.mpr (.inl hback)⟩

/-- A sign and a blank in front of the plus sign and a bracket behind it do no harm, and the sum
wraps around. -/
theorem evaluate_append_plus_sample :
    (∀ token ∈ ((ModuleTable.ofList [⟨"Game-1.so", 0xfffffffffffffff0⟩]).tokenize
      "] 20 - 8.").head?, token.sign = none) ∧
    evaluate (.ofList [⟨"Game-1.so", 0xfffffffffffffff0⟩])
      ("game-1.so - " ++ "+" ++ "] 20 - 8.") = .ok 8 := by
  have hsign : ∀ token ∈ ((ModuleTable.ofList [⟨"Game-1.so", 0xfffffffffffffff0⟩]).tokenize
      "] 20 - 8.").head?, token.sign = none := by decide +kernel
  refine ⟨hsign, ((evaluate_append_plus hsign).1 8).mpr ⟨0xfffffffffffffff0, 0x18, ?_, ?_, ?_⟩⟩
  · decide +kernel
  · decide +kernel
  · decide

end PointerChain
