import Mathlib.Data.Set.Card
import PointerChain.Proofs.Expression.Layout

/-!
# Brackets and their partners

Two brackets are partners if what stands between them is balanced. The bracket check counts open
brackets only, and still decides whether every bracket has a partner: it stops at the first closing
bracket without one, or else reports at the end how many opening ones have none.

* `Matched` says which places hold partners, `LoneOpening` and `LoneClosing` which brackets have
  none.
* `openPlaces` are the places of the brackets that are open behind a text. `matched_iff` and
  `mem_openPlaces_iff` say that these are the brackets whose partner is still to come.
* `FirstFault` is what is wrong with the brackets of a text, and `checkBrackets_decides` says that
  this is what the bracket check reports.
-/

namespace PointerChain

/-! ### Partners -/

/-- The places `i` and `j` of a text hold an opening bracket and its partner: what stands between
them is balanced. -/
def Matched (cs : List Char) (i j : Nat) : Prop :=
  ∃ (before after : List Char) (body : Forest),
    cs = before ++ '[' :: (body.chars ++ ']' :: after) ∧
      before.length = i ∧ i + 1 + body.chars.length = j

/-- A place of a text holds an opening bracket that has no partner. -/
def LoneOpening (cs : List Char) (i : Nat) : Prop :=
  cs[i]? = some '[' ∧ ∀ j, ¬Matched cs i j

/-- A place of a text holds a closing bracket that has no partner. -/
def LoneClosing (cs : List Char) (j : Nat) : Prop :=
  cs[j]? = some ']' ∧ ∀ i, ¬Matched cs i j

/-! ### Open brackets -/

/-- The places of the brackets that are open behind a text, the last one first, when the text starts
at a place and brackets at other places are open already. A closing bracket closes the last one. -/
def openPlacesFrom (position : Nat) (places : List Nat) : List Char → List Nat
  | [] => places
  | '[' :: cs => openPlacesFrom (position + 1) (position :: places) cs
  | ']' :: cs => openPlacesFrom (position + 1) places.tail cs
  | _ :: cs => openPlacesFrom (position + 1) places cs

/-- The places of the brackets that are open behind a text, the last one first. -/
def openPlaces (cs : List Char) : List Nat := openPlacesFrom 0 [] cs

variable {position i j : Nat} {places : List Nat} {before after cs : List Char}

theorem openPlacesFrom_cons_of_plain {c : Char} (plain : c ≠ '[' ∧ c ≠ ']') (position : Nat)
    (places : List Nat) (cs : List Char) :
    openPlacesFrom position places (c :: cs) = openPlacesFrom (position + 1) places cs := by
  rw [openPlacesFrom]
  · exact plain.1
  · exact plain.2

theorem openPlacesFrom_append (position : Nat) (places : List Nat) (xs ys : List Char) :
    openPlacesFrom position places (xs ++ ys) =
      openPlacesFrom (position + xs.length) (openPlacesFrom position places xs) ys := by
  fun_induction openPlacesFrom position places xs with
  | case1 position places => rfl
  | case2 position places cs ih =>
    rw [List.cons_append, openPlacesFrom, ih, List.length_cons, Nat.add_right_comm, Nat.add_assoc]
  | case3 position places cs ih =>
    rw [List.cons_append, openPlacesFrom, ih, List.length_cons, Nat.add_right_comm, Nat.add_assoc]
  | case4 position places c cs hopen hclose ih =>
    rw [List.cons_append, openPlacesFrom_cons_of_plain ⟨hopen, hclose⟩, ih, List.length_cons,
      Nat.add_right_comm, Nat.add_assoc]

/-- A balanced text leaves open what was open. -/
theorem openPlacesFrom_chars (f : Forest) (position : Nat) (places : List Nat) :
    openPlacesFrom position places f.chars = places := by
  induction f generalizing position places with
  | nil => rfl
  | text c plain rest ih => rw [Forest.chars_text, openPlacesFrom_cons_of_plain plain, ih]
  | group body rest ihBody ihRest =>
    rw [Forest.chars_group, openPlacesFrom, openPlacesFrom_append, ihBody, openPlacesFrom, ihRest,
      List.tail_cons]

/-- Behind closing brackets that all lack a partner, nothing is open. -/
theorem openPlacesFrom_strayChars (fs : List Forest) (position : Nat) :
    openPlacesFrom position [] (Layout.strayChars fs) = [] := by
  induction fs generalizing position with
  | nil => rfl
  | cons f fs ih =>
    rw [Layout.strayChars_cons, openPlacesFrom_append, openPlacesFrom_chars, openPlacesFrom,
      List.tail_nil, ih]

/-- Opening brackets without a partner leave open what was open. -/
theorem suffix_openPlacesFrom_unclosedChars (fs : List Forest) (position : Nat)
    (places : List Nat) :
    places <:+ openPlacesFrom position places (Layout.unclosedChars fs) := by
  induction fs generalizing position places with
  | nil => exact List.suffix_rfl
  | cons f fs ih =>
    rw [Layout.unclosedChars_cons, openPlacesFrom, openPlacesFrom_append, openPlacesFrom_chars]
    exact (List.suffix_cons position places).trans (ih _ _)

/-! ### One more character -/

@[simp] theorem openPlaces_nil : openPlaces [] = [] := rfl

theorem openPlaces_concat_opening (cs : List Char) :
    openPlaces (cs ++ ['[']) = cs.length :: openPlaces cs := by
  rw [openPlaces, openPlacesFrom_append, Nat.zero_add]
  rfl

theorem openPlaces_concat_closing (cs : List Char) :
    openPlaces (cs ++ [']']) = (openPlaces cs).tail := by
  rw [openPlaces, openPlacesFrom_append]
  rfl

theorem openPlaces_concat_of_plain {c : Char} (plain : c ≠ '[' ∧ c ≠ ']') (cs : List Char) :
    openPlaces (cs ++ [c]) = openPlaces cs := by
  rw [openPlaces, openPlacesFrom_append, openPlacesFrom_cons_of_plain plain]
  rfl

/-- Behind an opening bracket and a balanced text, the bracket is the last one open. -/
theorem openPlaces_opening_append (before : List Char) (f : Forest) :
    openPlaces (before ++ '[' :: f.chars) = before.length :: openPlaces before := by
  rw [openPlaces, openPlacesFrom_append, openPlacesFrom, openPlacesFrom_chars, Nat.zero_add]
  rfl

/-- Behind the last bracket that is open, the text is balanced. -/
theorem exists_of_openPlaces_eq_cons (h : openPlaces cs = i :: places) :
    ∃ (before : List Char) (f : Forest),
      cs = before ++ '[' :: f.chars ∧ before.length = i ∧ openPlaces before = places := by
  obtain ⟨⟨strays, middle, unclosed⟩, rfl⟩ := Layout.exists_chars_eq cs
  rcases List.eq_nil_or_concat unclosed with rfl | ⟨gs, g, rfl⟩
  · -- Without an opening bracket that lacks a partner, nothing is open.
    rw [Layout.chars, Layout.unclosedChars_nil, List.append_nil, openPlaces, openPlacesFrom_append,
      openPlacesFrom_strayChars, openPlacesFrom_chars] at h
    exact absurd h (List.cons_ne_nil i places).symm
  · have hchars : Layout.chars ⟨strays, middle, gs.concat g⟩ =
        Layout.chars ⟨strays, middle, gs⟩ ++ '[' :: g.chars := by
      simp [Layout.chars, Layout.unclosedChars]
    rw [hchars, openPlaces_opening_append] at h
    obtain ⟨hplace, hplaces⟩ := List.cons.inj h
    exact ⟨_, g, hchars, hplace, hplaces⟩

/-- A closing bracket is the partner of the last bracket that is open in front of it. -/
theorem matched_iff (before after : List Char) (i : Nat) :
    Matched (before ++ ']' :: after) i before.length ↔ (openPlaces before).head? = some i := by
  constructor
  · rintro ⟨front, back, body, htext, rfl, hlength⟩
    -- The body is balanced and as long as the places say, which fixes where the text is split.
    have hsplit : before ++ ']' :: after = (front ++ '[' :: body.chars) ++ ']' :: back := by
      simpa using htext
    have hbefore : before = front ++ '[' :: body.chars := by
      refine List.append_inj_left hsplit ?_
      rw [List.length_append, List.length_cons]
      omega
    rw [hbefore, openPlaces_opening_append, List.head?_cons]
  · intro h
    obtain ⟨places, hplaces⟩ := List.head?_eq_some_iff.mp h
    obtain ⟨front, f, rfl, rfl, -⟩ := exists_of_openPlaces_eq_cons hplaces
    refine ⟨front, after, f, by simp, rfl, ?_⟩
    rw [List.length_append, List.length_cons]
    omega

/-! ### Open brackets have no partner -/

theorem of_mem_openPlacesFrom (h : i ∈ openPlacesFrom position places cs) :
    i ∈ places ∨ ∃ before after, cs = before ++ '[' :: after ∧ position + before.length = i := by
  -- A place from the text stays a place from the text when a character comes in front of it.
  have hcons {position : Nat} {c : Char} {cs : List Char} :
      (∃ before after, cs = before ++ '[' :: after ∧ position + 1 + before.length = i) →
        ∃ before after, c :: cs = before ++ '[' :: after ∧ position + before.length = i := by
    rintro ⟨before, after, rfl, rfl⟩
    exact ⟨c :: before, after, rfl, by rw [List.length_cons]; omega⟩
  fun_induction openPlacesFrom position places cs with
  | case1 position places => exact .inl h
  | case2 position places cs ih =>
    rcases ih h with h | h
    · obtain rfl | h := List.mem_cons.mp h
      · exact .inr ⟨[], cs, rfl, rfl⟩
      · exact .inl h
    · exact .inr (hcons h)
  | case3 position places cs ih => exact (ih h).imp List.mem_of_mem_tail hcons
  | case4 position places c cs hopen hclose ih => exact (ih h).imp_right hcons

theorem lt_length_of_mem_openPlaces (h : i ∈ openPlaces cs) : i < cs.length := by
  obtain h | ⟨before, after, rfl, rfl⟩ := of_mem_openPlacesFrom h
  · exact absurd h (List.not_mem_nil)
  · rw [List.length_append, List.length_cons]
    omega

/-- The brackets that are open behind a text are those without a partner in it. -/
theorem mem_openPlaces_iff : i ∈ openPlaces cs ↔ LoneOpening cs i := by
  constructor
  · intro h
    refine ⟨?_, ?_⟩
    · obtain h | ⟨before, after, rfl, rfl⟩ := of_mem_openPlacesFrom h
      · exact absurd h (List.not_mem_nil)
      · simp
    · -- A bracket that has been closed is not opened again further on.
      rintro j ⟨before, after, body, rfl, rfl, -⟩
      rw [openPlaces, openPlacesFrom_append, openPlacesFrom, openPlacesFrom_append,
        openPlacesFrom_chars, openPlacesFrom, List.tail_cons] at h
      obtain h | ⟨front, back, -, hplace⟩ := of_mem_openPlacesFrom h
      · exact absurd (lt_length_of_mem_openPlaces h) (Nat.lt_irrefl _)
      · omega
  · rintro ⟨hopen, hlone⟩
    obtain ⟨hlt, hget⟩ := List.getElem?_eq_some_iff.mp hopen
    have htext : cs = cs.take i ++ '[' :: cs.drop (i + 1) := by
      rw [← hget, List.getElem_cons_drop, List.take_append_drop]
    have hlength : (cs.take i).length = i := List.length_take_of_le (Nat.le_of_lt hlt)
    -- What follows the bracket has no closing bracket without a partner, which would be its own.
    obtain ⟨⟨strays, middle, unclosed⟩, hlayout⟩ := Layout.exists_chars_eq (cs.drop (i + 1))
    rcases strays with _ | ⟨f, fs⟩
    · rw [htext, openPlaces, openPlacesFrom_append, openPlacesFrom, hlength, ← hlayout,
        Layout.chars, Layout.strayChars_nil, List.nil_append, openPlacesFrom_append,
        openPlacesFrom_chars]
      exact (suffix_openPlacesFrom_unclosedChars _ _ _).mem (by simp)
    · have hpartner : Matched cs i (i + 1 + f.chars.length) := by
        refine ⟨cs.take i, Layout.chars ⟨fs, middle, unclosed⟩, f, ?_, hlength, rfl⟩
        rw [Layout.chars, Layout.strayChars_cons, List.append_assoc, List.cons_append] at hlayout
        rwa [Layout.chars, hlayout]
      exact absurd hpartner (hlone _)

theorem pairwise_openPlacesFrom (hplaces : places.Pairwise (· > ·))
    (hlt : ∀ i ∈ places, i < position) :
    (openPlacesFrom position places cs).Pairwise (· > ·) := by
  fun_induction openPlacesFrom position places cs with
  | case1 position places => exact hplaces
  | case2 position places cs ih =>
    refine ih (List.pairwise_cons.mpr ⟨hlt, hplaces⟩) fun i hi => ?_
    obtain rfl | hi := List.mem_cons.mp hi
    · exact Nat.lt_succ_self i
    · exact Nat.lt_succ_of_lt (hlt i hi)
  | case3 position places cs ih =>
    exact ih hplaces.tail fun i hi => Nat.lt_succ_of_lt (hlt i (List.mem_of_mem_tail hi))
  | case4 position places c cs hopen hclose ih =>
    exact ih hplaces fun i hi => Nat.lt_succ_of_lt (hlt i hi)

theorem nodup_openPlaces (cs : List Char) : (openPlaces cs).Nodup :=
  (pairwise_openPlacesFrom List.Pairwise.nil (by simp)).imp fun h => (Nat.ne_of_lt h).symm

/-- As many brackets are open behind a text as have no partner in it. -/
theorem ncard_loneOpening (cs : List Char) :
    {i | LoneOpening cs i}.ncard = (openPlaces cs).length := by
  have hset : {i | LoneOpening cs i} = ((openPlaces cs).toFinset : Set Nat) := by
    ext i
    simp [mem_openPlaces_iff]
  rw [hset, Set.ncard_coe_finset, List.toFinset_card_of_nodup (nodup_openPlaces cs)]

/-! ### The bracket check -/

/-- What is wrong with the brackets of a text, and at which place. -/
inductive FirstFault (cs : List Char) : Nat → BracketFault → Prop
  /-- A closing bracket has no partner, and it is the first one. -/
  | unmatched {j : Nat} (lone : LoneClosing cs j) (first : ∀ k < j, ¬LoneClosing cs k) :
      FirstFault cs j .unmatched
  /-- All closing brackets have partners, and so many opening ones have none. -/
  | unclosed {count : Nat} (closed : ∀ j, ¬LoneClosing cs j)
      (ncard : {i | LoneOpening cs i}.ncard = count) (ne_zero : count ≠ 0) :
      FirstFault cs cs.length (.unclosed count)

/-- At most one thing is reported of a text. -/
theorem FirstFault.unique {fault fault' : BracketFault} (h : FirstFault cs i fault)
    (h' : FirstFault cs j fault') : i = j ∧ fault = fault' := by
  rcases h with ⟨lone, first⟩ | ⟨closed, rfl, -⟩
  · rcases h' with ⟨lone', first'⟩ | ⟨closed, -, -⟩
    · have hle : j ≤ i := Nat.le_of_not_lt fun hlt => first' i hlt lone
      have hge : i ≤ j := Nat.le_of_not_lt fun hlt => first j hlt lone'
      exact ⟨Nat.le_antisymm hge hle, rfl⟩
    · exact absurd lone (closed _)
  · rcases h' with ⟨lone', -⟩ | ⟨-, rfl, -⟩
    · exact absurd lone' (closed _)
    · exact ⟨rfl, rfl⟩

/-- Where something is wrong, a bracket has no partner. -/
theorem FirstFault.exists_lone {fault : BracketFault} (h : FirstFault cs i fault) :
    (∃ j, LoneClosing cs j) ∨ ∃ k, LoneOpening cs k := by
  rcases h with ⟨lone, -⟩ | ⟨-, rfl, hne⟩
  · exact .inl ⟨i, lone⟩
  · exact .inr (Set.nonempty_of_ncard_ne_zero hne)

open Expression (bracketFault?)

/-- From behind a text whose closing brackets all have partners, the bracket check goes on with the
number of brackets that are open, and finds what is wrong with the whole text. -/
theorem firstFault_of_bracketFault? (before cs : List Char)
    (hclosed : ∀ j < before.length, ¬LoneClosing (before ++ cs) j) :
    match bracketFault? before.length (openPlaces before).length cs with
    | some (position, fault) => FirstFault (before ++ cs) position fault
    | none => (∀ j, ¬LoneClosing (before ++ cs) j) ∧ ∀ i, ¬LoneOpening (before ++ cs) i := by
  induction cs generalizing before with
  | nil =>
    rw [List.append_nil] at hclosed ⊢
    have hnone (j : Nat) : ¬LoneClosing before j := by
      intro h
      exact hclosed j (List.getElem?_eq_some_iff.mp h.1).1 h
    by_cases hopen : (openPlaces before).length = 0
    · rw [bracketFault?, if_pos hopen]
      refine ⟨hnone, fun i hi => ?_⟩
      rw [List.length_eq_zero_iff] at hopen
      rw [← mem_openPlaces_iff, hopen] at hi
      exact List.not_mem_nil hi
    · rw [bracketFault?, if_neg hopen]
      exact .unclosed hnone (ncard_loneOpening before) hopen
  | cons c cs ih =>
    have htext : before ++ c :: cs = (before ++ [c]) ++ cs := by simp
    have hlength : (before ++ [c]).length = before.length + 1 := by simp
    have hget : (before ++ c :: cs)[before.length]? = some c := by simp
    -- The check goes on behind the next character, unless this is a bracket that closes nothing.
    have hnext (h : ¬LoneClosing (before ++ c :: cs) before.length) :
        ∀ j < (before ++ [c]).length, ¬LoneClosing ((before ++ [c]) ++ cs) j := by
      intro j hj
      rw [← htext]
      obtain hlt | rfl := Nat.lt_or_eq_of_le (Nat.le_of_lt_succ (hlength ▸ hj))
      · exact hclosed j hlt
      · exact h
    have hplain (hc : c ≠ ']') : ¬LoneClosing (before ++ c :: cs) before.length := by
      intro h
      exact hc (Option.some.inj (hget.symm.trans h.1))
    by_cases hopen : c = '['
    · subst hopen
      have hrest := ih _ (hnext (hplain (by decide)))
      rwa [openPlaces_concat_opening, hlength, List.length_cons, ← htext] at hrest
    · by_cases hclose : c = ']'
      · subst hclose
        rcases hplaces : openPlaces before with _ | ⟨i, places⟩
        · -- Nothing is open: the check stops here, and all brackets further in front have partners.
          refine .unmatched ⟨hget, fun i hi => ?_⟩ hclosed
          rw [matched_iff, hplaces] at hi
          exact absurd hi (by simp)
        · -- The bracket closes the last one that is open.
          have hpartner : Matched (before ++ ']' :: cs) i before.length := by
            rw [matched_iff, hplaces, List.head?_cons]
          have hrest := ih _ (hnext fun h => h.2 i hpartner)
          rwa [openPlaces_concat_closing, hplaces, hlength, List.tail_cons, ← htext] at hrest
      · have hrest := ih _ (hnext (hplain hclose))
        rwa [openPlaces_concat_of_plain ⟨hopen, hclose⟩, hlength, ← htext,
          ← Forest.bracketFault?_cons_of_plain ⟨hopen, hclose⟩] at hrest

/-- The bracket check lets through exactly the expressions that are balanced. Of any other it
reports the first closing bracket without a partner, or, if there is none, at the end of the
expression the number of opening brackets that have no partner. -/
theorem checkBrackets_decides (expression : String) :
    (checkBrackets expression = .ok () ↔ ∃ f : Forest, f.expression = expression) ∧
      ∀ e, checkBrackets expression = .error e ↔
        e.expression = expression ∧ FirstFault expression.toList e.position e.fault := by
  have hfirst := firstFault_of_bracketFault? [] expression.toList (by simp)
  rw [List.nil_append, openPlaces_nil, List.length_nil, List.length_nil] at hfirst
  refine ⟨checkBrackets_eq_ok_iff, fun e => ?_⟩
  unfold checkBrackets
  rcases hfault : bracketFault? 0 0 expression.toList with _ | ⟨position, fault⟩
  · -- No bracket lacks a partner, so there is nothing to be reported.
    rw [hfault] at hfirst
    refine ⟨fun h => (nomatch h), fun ⟨_, h⟩ => ?_⟩
    obtain ⟨j, hlone⟩ | ⟨k, hlone⟩ := h.exists_lone
    · exact absurd hlone (hfirst.1 j)
    · exact absurd hlone (hfirst.2 k)
  · rw [hfault] at hfirst
    constructor
    · intro h
      obtain rfl := Except.error.inj h
      exact ⟨rfl, hfirst⟩
    · rintro ⟨hexpression, h⟩
      obtain ⟨rfl, rfl⟩ := hfirst.unique h
      rw [← hexpression]

/-- A later opening bracket does not make up for a closing one without a partner. -/
example : checkBrackets "a]b[" = .error ⟨"a]b[", 1, .unmatched⟩ := by rfl

end PointerChain
