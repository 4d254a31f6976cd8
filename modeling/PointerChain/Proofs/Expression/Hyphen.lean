import Mathlib.Data.List.Find
import PointerChain.Proofs.Expression.Coverage
import PointerChain.Proofs.Expression.Shape
import PointerChain.Proofs.Module.LookUp

/-!
# Hyphens in operands

A hyphen is part of an operand only if the operand is a known name. Which names are known matters
for no other texts: a name without a hyphen is looked up as well when a run is cut, but then the run
is cut at its first hyphen, as it would be if the name were unknown.

* `hyphen_mem_lower_iff`: lower case neither adds a hyphen to a text nor takes all of them away.
* `Run.known_cut` and `Run.cutPlace_congr` are about one run, `known_of_mem_operands` and
  `operands_congr` about all operands.
* `tokenize_hyphen` is about operands under a table.
-/

namespace PointerChain

namespace Text

/-! ### Hyphens and lower case -/

theorem ofNat_ne_hyphen {n : Nat} (h : '-'.toNat < n) : Char.ofNat n ≠ '-' := by
  intro heq
  by_cases hvalid : n.isValidChar
  · have hof : Char.ofNat n = Char.ofNatAux n hvalid := dif_pos hvalid
    have hn : n = '-'.toNat := congrArg Char.toNat (hof.symm.trans heq)
    omega
  · have hof : Char.ofNat n = '\x00' := dif_neg hvalid
    exact absurd (hof.symm.trans heq) (by decide)

/-- All lower-case letters of capitals outside ASCII have greater code points than the hyphen. -/
theorem ofNat_shift_ne_hyphen {s : LowerStep} (hs : s ∈ lowerSteps) {n : Nat}
    (h : s.covers n = true) : Char.ofNat (n + s.shift).toNat ≠ '-' := by
  have hsteps : ∀ s ∈ lowerSteps, ('-'.toNat : Int) < s.first + s.shift := by decide +kernel
  have hstep := hsteps s hs
  simp only [LowerStep.covers, Bool.and_eq_true, decide_eq_true_eq] at h
  apply ofNat_ne_hyphen
  omega

theorem hyphen_mem_lowerChar_iff (c : Char) : '-' ∈ lowerChar c ↔ c = '-' := by
  -- The ASCII half can be tried out. Beyond it characters are shifted in spans, and no span is
  -- shifted onto the hyphen.
  by_cases hascii : c.val < 128
  · have hletters : ∀ n < 128, '-' ∈ lowerChar (Char.ofNat n) ↔ Char.ofNat n = '-' := by
      decide +kernel
    have hc : c.toNat < 128 := by simpa using UInt32.lt_iff_toNat_lt.mp hascii
    simpa using hletters c.toNat hc
  · have hne : c ≠ '-' := by
      rintro rfl
      exact hascii (by decide)
    refine ⟨fun h => ?_, fun h => absurd h hne⟩
    rw [lowerChar, if_neg hascii] at h
    split at h
    next => exact absurd h (by decide)
    next =>
      split at h
      next s hs =>
        have hcovers : s.covers c.toNat = true := by simpa using List.find?_some hs
        have hshift := ofNat_shift_ne_hyphen (List.mem_of_find?_eq_some hs) hcovers
        exact absurd (List.mem_singleton.mp h).symm hshift
      next => exact (List.mem_singleton.mp h).symm

theorem hyphen_mem_lowerFrom_iff (before cs : List Char) :
    '-' ∈ lowerFrom before cs ↔ '-' ∈ cs := by
  induction cs generalizing before with
  | nil => rfl
  | cons c after ih =>
    rw [lowerFrom, List.mem_append, ih, List.mem_cons]
    refine or_congr ?_ Iff.rfl
    split
    next hc =>
      -- Neither sigma is a hyphen, in upper case or in lower case.
      subst hc
      split <;> decide
    next => rw [hyphen_mem_lowerChar_iff, eq_comm]

/-- A text has a hyphen if and only if it has one in lower case. -/
theorem hyphen_mem_lower_iff (s : String) : '-' ∈ (lower s).toList ↔ '-' ∈ s.toList := by
  rw [lower, String.toList_ofList, hyphen_mem_lowerFrom_iff]

end Text

namespace Expression

/-! ### One run -/

/-- The first hyphen of a text, and where the others are. -/
theorem exists_append_of_hyphenPlaces {start first : Nat} {later : List Nat} {cs : List Char}
    (h : hyphenPlaces start cs = first :: later) :
    ∃ front back, cs = front ++ '-' :: back ∧ '-' ∉ front ∧ first = start + front.length ∧
      later = hyphenPlaces (first + 1) back := by
  induction cs generalizing start with
  | nil => cases h
  | cons c cs ih =>
    rw [hyphenPlaces] at h
    split at h
    next hc =>
      obtain ⟨rfl, rfl⟩ := List.cons.inj h
      exact ⟨[], cs, by rw [hc, List.nil_append], List.not_mem_nil, rfl, rfl⟩
    next hc =>
      obtain ⟨front, back, rfl, hfront, rfl, hlater⟩ := ih h
      refine ⟨c :: front, back, rfl, ?_, ?_, hlater⟩
      · exact List.not_mem_cons_of_ne_of_not_mem (Ne.symm hc) hfront
      · rw [List.length_cons]
        omega

theorem hyphen_not_mem_of_hyphenPlaces {start : Nat} {cs : List Char}
    (h : hyphenPlaces start cs = []) : '-' ∉ cs := by
  induction cs generalizing start with
  | nil => exact List.not_mem_nil
  | cons c cs ih =>
    rw [hyphenPlaces] at h
    split at h
    next => cases h
    next hc => exact List.not_mem_cons_of_ne_of_not_mem (Ne.symm hc) (ih h)

variable {known known' : String → Bool}

/-- What a run is cut down to is a known name, if there is a hyphen behind its first character. -/
theorem Run.known_cut {run : Run} (h : '-' ∈ (run.cut known).1) :
    known (String.ofList (run.first :: (run.cut known).1)) = true := by
  rw [Run.cut, List.splitAt_eq] at h ⊢
  unfold cutPlace at h ⊢
  cases hplaces : hyphenPlaces 0 run.others with
  | nil => exact absurd (List.mem_of_mem_take h) (hyphen_not_mem_of_hyphenPlaces hplaces)
  | cons first later =>
    simp only [hplaces] at h ⊢
    split
    next hwhole => exact hwhole
    next hwhole =>
      rw [if_neg hwhole] at h
      generalize hfind : (first :: later).reverse.find? _ = found at h ⊢
      cases found with
      | some place =>
        have hknown := List.find?_some hfind
        exact hknown
      | none =>
        -- Without a known name in front of a hyphen, the run ends at the first hyphen.
        obtain ⟨front, back, hothers, hfront, rfl, -⟩ := exists_append_of_hyphenPlaces hplaces
        rw [Option.getD_none, hothers, Nat.zero_add, List.take_left] at h
        exact absurd h hfront

theorem getD_find?_concat (p : Nat → Bool) (places : List Nat) (place : Nat) :
    ((places ++ [place]).find? p).getD place = (places.find? p).getD place := by
  rw [List.find?_append, List.find?_singleton]
  cases places.find? p with
  | some found => rfl
  | none => cases p place <;> rfl

/-- Where a run is cut depends on the known names with hyphens only. -/
theorem Run.cutPlace_congr (h : ∀ s : String, '-' ∈ s.toList → known s = known' s) (run : Run) :
    run.cutPlace known = run.cutPlace known' := by
  unfold cutPlace
  cases hplaces : hyphenPlaces 0 run.others with
  | nil => rfl
  | cons first later =>
    obtain ⟨front, back, hothers, -, rfl, rfl⟩ := exists_append_of_hyphenPlaces hplaces
    -- Behind the first hyphen, whatever is looked up has a hyphen.
    have hagree (place : Nat) (hlt : front.length < place) :
        known (String.ofList (run.first :: run.others.take place)) =
          known' (String.ofList (run.first :: run.others.take place)) := by
      obtain ⟨more, rfl⟩ := Nat.exists_eq_add_of_lt hlt
      apply h
      rw [hothers, Nat.add_assoc, List.take_length_add_append]
      simp
    have hwhole := hagree run.others.length (by simp [hothers])
    simp only [List.reverse_cons, getD_find?_concat, hwhole]
    congr 2
    refine List.find?_congr fun place hplace => hagree place ?_
    obtain ⟨k, rfl, -⟩ := getElem?_of_mem_hyphenPlaces (List.mem_reverse.mp hplace)
    omega

/-! ### All operands -/

/-- An operand with a hyphen is a known name. -/
theorem known_of_mem_operands {cs : List Char} {token : Token} (h : token ∈ operands known cs)
    (hhyphen : '-' ∈ token.text.toList) : known token.text = true := by
  fun_induction operands known cs with
  | case1 => cases h
  | case2 cs run hrun parts ih =>
    obtain rfl | h := List.mem_cons.mp h
    · obtain ⟨-, -, hword, -⟩ := exists_gap_of_nextRun? hrun
      rw [String.toList_ofList] at hhyphen
      exact Run.known_cut (List.mem_of_ne_of_mem (ne_sign_of_isWord hword).2.symm hhyphen)
    · exact ih h

/-- The operands of a text depend on the known names with hyphens only. -/
theorem operands_congr (h : ∀ s : String, '-' ∈ s.toList → known s = known' s) (cs : List Char) :
    operands known cs = operands known' cs := by
  fun_induction operands known cs with
  | case1 cs hnone => exact (operands_eq_nil_iff.mpr hnone).symm
  | case2 cs run hrun parts ih =>
    have hparts : parts = run.cut known' := by
      simp only [parts, Run.cut, Run.cutPlace_congr h run]
    rw [operands_of_nextRun? hrun, ← hparts, ih]

end Expression

/-! ### Operands under a table -/

namespace ModuleTable

variable {table other : ModuleTable}

/-- A text that is the name of a module, without regard to case. -/
def Names (table : ModuleTable) (text : String) : Prop :=
  ∃ m ∈ table.modules, m.name.lower = Text.lower text

theorem hasName_iff {name : String} : table.hasName name = true ↔ table.Names name := by
  rw [hasName_eq, find?_eq, List.find?_isSome]
  simp [Names]

/-- The names of modules that have a hyphen, in lower case. -/
def hyphenatedNames (table : ModuleTable) : Set String :=
  {name | '-' ∈ name.toList ∧ ∃ m ∈ table.modules, m.name.lower = name}

/-- Which names with hyphens are known is read off their lower-case forms. -/
theorem hasName_eq_of_hyphenatedNames_eq (h : table.hyphenatedNames = other.hyphenatedNames)
    {name : String} (hhyphen : '-' ∈ name.toList) :
    table.hasName name = other.hasName name := by
  have hlower := (Text.hyphen_mem_lower_iff name).mpr hhyphen
  have hmem (t : ModuleTable) : t.hasName name = true ↔ Text.lower name ∈ t.hyphenatedNames := by
    rw [hasName_iff]
    exact ⟨fun hm => ⟨hlower, hm⟩, fun hm => hm.2⟩
  rw [Bool.eq_iff_iff, hmem, hmem, h]

end ModuleTable

open Expression

/-- An operand with a hyphen in it is the name of a module, and a hyphen that is part of no such
operand is outside of all operands. The operands depend on those names in the table that have a
hyphen, in lower case, and on no others; if there are none, they are those under the empty table. -/
theorem tokenize_hyphen (table : ModuleTable) (expression : String) :
    (∀ token ∈ table.tokenize expression, '-' ∈ token.text.toList → table.Names token.text) ∧
    (∃ stretches, Covers expression.toList (table.tokenize expression) stretches ∧
      ∀ place, expression.toList[place]? = some '-' →
        ∀ (k : Nat) (token : Token) (s : Stretch), (table.tokenize expression)[k]? = some token →
          stretches[k]? = some s → s.Holds place → table.Names token.text) ∧
    (∀ other : ModuleTable, table.hyphenatedNames = other.hyphenatedNames →
      table.tokenize expression = other.tokenize expression) ∧
    (table.hyphenatedNames = ∅ →
      table.tokenize expression = (∅ : ModuleTable).tokenize expression) := by
  have hnames : ∀ token ∈ table.tokenize expression, '-' ∈ token.text.toList →
      table.Names token.text := fun token htoken hhyphen =>
    ModuleTable.hasName_iff.mp (known_of_mem_operands htoken hhyphen)
  -- A table is asked only about texts that hold a hyphen.
  have hcongr (other : ModuleTable) (h : table.hyphenatedNames = other.hyphenatedNames) :
      table.tokenize expression = other.tokenize expression :=
    operands_congr (fun _ => ModuleTable.hasName_eq_of_hyphenatedNames_eq h) expression.toList
  obtain ⟨stretches, hcovers⟩ := exists_covers table.hasName expression.toList
  refine ⟨hnames, ⟨stretches, hcovers, ?_⟩, hcongr, fun hnone => hcongr ∅ ?_⟩
  · intro place hplace k token s htoken hs hholds
    have htext := (hcovers.occupies k token s htoken hs).text_eq
    apply hnames token (List.mem_of_getElem? htoken)
    rw [htext, String.toList_ofList]
    exact Stretch.mem_of hplace hholds
  · rw [hnone, eq_comm, Set.eq_empty_iff_forall_notMem]
    rintro name ⟨-, m, hm, -⟩
    exact List.not_mem_nil hm

/-- A hyphen of a name stays, one behind it is a minus. -/
example : (ModuleTable.ofList [⟨"Game-1.so", 0⟩]).tokenize "game-1.so-8" =
    [⟨none, "game-1.so"⟩, ⟨some .minus, "8"⟩] := by decide +kernel

end PointerChain
