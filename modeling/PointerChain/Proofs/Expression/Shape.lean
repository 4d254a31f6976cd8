import PointerChain.Proofs.Expression.Atom

/-!
# The shape of operands

Whatever an expression holds, each of its operands is a word character, word characters and hyphens,
and segments of word characters behind dots. A text of any other shape is no operand, whether or not
it is a name.

* `Run.exists_atom` says that a run has this shape, `Run.exists_atom_cut` that it keeps it where it
  is cut.
* `exists_atom_of_mem_operands` says so of all operands.
-/

namespace PointerChain

namespace Expression

/-! ### Runs -/

/-- What `spanSegments` splits off are word characters, and then segments behind dots. The word
characters in front are missing only if the text starts with none. -/
theorem exists_spanSegments_eq (cs : List Char) :
    ∃ (word : List Char) (segments : List (List Char)),
      (spanSegments cs).1 = word ++ segments.flatMap ('.' :: ·) ∧
      (∀ c ∈ word, Text.isWord c = true) ∧
      (∀ segment ∈ segments, segment ≠ [] ∧ ∀ c ∈ segment, Text.isWord c = true) ∧
      (word = [] ↔ ∀ c, cs.head? = some c → Text.isWord c = false) := by
  fun_induction spanSegments cs with
  | case1 => exact ⟨[], [], by simp⟩
  | case2 c h => exact ⟨[c], [], by simp [h]⟩
  | case3 c h => exact ⟨[], [], by simpa using h⟩
  | case4 c d cs h parts ih =>
    obtain ⟨word, segments, hparts, hword, hsegments, hhead⟩ := ih
    by_cases hc : Text.isWord c = true
    · refine ⟨c :: word, segments, ?_, List.forall_mem_cons.mpr ⟨hc, hword⟩, hsegments, ?_⟩
      · exact congrArg (c :: ·) hparts
      · simp [hc]
    · -- A dot opens a segment with the word characters that come next.
      simp only [hc, Bool.false_or, Bool.and_eq_true, beq_iff_eq] at h
      obtain ⟨rfl, hd⟩ := h
      have hne : word ≠ [] := fun hnil => by simp [hhead.mp hnil d rfl] at hd
      refine ⟨[], word :: segments, ?_, List.forall_mem_nil _,
        List.forall_mem_cons.mpr ⟨⟨hne, hword⟩, hsegments⟩, by simpa using hc⟩
      exact congrArg ('.' :: ·) hparts
  | case5 c d cs h =>
    rw [Bool.or_eq_true, not_or, Bool.not_eq_true] at h
    exact ⟨[], [], by simp [h.1]⟩

/-- A run behind its first character is a name and segments. -/
theorem exists_spanRun_eq {c : Char} (hc : Text.isWord c = true) (cs : List Char) :
    ∃ a : Atom, a.chars = c :: (spanRun cs).1 := by
  obtain ⟨word, segments, hparts, -, hsegments, hhead⟩ :=
    exists_spanSegments_eq (cs.dropWhile isNameChar)
  -- The segments start where the name cannot go on, so there are no word characters in front.
  have hnil : word = [] := by
    refine hhead.mpr fun d hd => ?_
    have hname := List.head?_dropWhile_not isNameChar cs
    rw [hd] at hname
    exact (Bool.or_eq_false_iff.mp hname).1
  rw [hnil, List.nil_append] at hparts
  have hname : ∀ d ∈ cs.takeWhile isNameChar, isNameChar d = true :=
    List.all_eq_true.mp List.all_takeWhile
  refine ⟨⟨c, cs.takeWhile isNameChar, segments, hc, hname, hsegments⟩, ?_⟩
  simp only [Atom.chars, Atom.others, spanRun, hparts]

/-- A run has the shape of an operand. -/
theorem exists_atom_of_nextRun? {cs : List Char} {run : Run} (h : nextRun? cs = some run) :
    ∃ a : Atom, a.chars = run.first :: run.others := by
  obtain ⟨hc, hspan⟩ := spanRun_of_nextRun? h
  obtain ⟨a, ha⟩ := exists_spanRun_eq hc (run.others ++ run.rest)
  exact ⟨a, by rw [ha, hspan]⟩

/-! ### Cuts -/

theorem getElem?_of_mem_hyphenPlaces {cs : List Char} {start place : Nat}
    (h : place ∈ hyphenPlaces start cs) : ∃ k, place = start + k ∧ cs[k]? = some '-' := by
  induction cs generalizing start with
  | nil => cases h
  | cons c cs ih =>
    have hlater (h : place ∈ hyphenPlaces (start + 1) cs) :
        ∃ k, place = start + k ∧ (c :: cs)[k]? = some '-' := by
      obtain ⟨k, rfl, hk⟩ := ih h
      exact ⟨k + 1, by omega, hk⟩
    rw [hyphenPlaces] at h
    split at h
    next hc =>
      obtain rfl | h := List.mem_cons.mp h
      · exact ⟨0, rfl, congrArg some hc⟩
      · exact hlater h
    next => exact hlater h

/-- A run is cut at its end or in front of a hyphen. -/
theorem Run.cutPlace_eq_length_or_mem (known : String → Bool) (run : Run) :
    run.cutPlace known = run.others.length ∨
      run.cutPlace known ∈ hyphenPlaces 0 run.others := by
  unfold cutPlace
  cases hplaces : hyphenPlaces 0 run.others with
  | nil => exact .inl rfl
  | cons first later =>
    dsimp only
    split
    next => exact .inl rfl
    next =>
      right
      cases hfind : (first :: later).reverse.find? fun place =>
          known (String.ofList (run.first :: run.others.take place)) with
      | none => exact List.mem_cons_self
      | some place => exact List.mem_reverse.mp (List.mem_of_find?_eq_some hfind)

/-- In front of one of its hyphens, what is left of an operand is a name without segments. -/
theorem exists_atom_take {a : Atom} {place : Nat} (h : a.others[place]? = some '-') :
    ∃ b : Atom, b.chars = a.first :: a.others.take place := by
  -- Segments have no hyphens, so it is one of the name.
  have hplace : place < a.name.length := by
    refine Decidable.byContradiction fun hplace => ?_
    rw [Atom.others, List.getElem?_append_right (Nat.le_of_not_lt hplace)] at h
    obtain ⟨segment, hsegment, hhyphen⟩ := List.mem_flatMap.mp (List.mem_of_getElem? h)
    obtain hdot | hhyphen := List.mem_cons.mp hhyphen
    · exact absurd hdot (by decide)
    · exact absurd ((a.isWord_of_mem segment hsegment).2 _ hhyphen) (by decide)
  refine ⟨⟨a.first, a.name.take place, [], a.isWord_first,
    fun c hc => a.isNameChar_of_mem c (List.mem_of_mem_take hc), Atom.isWord_of_mem_nil⟩, ?_⟩
  simp [Atom.chars, Atom.others, List.take_append_of_le_length (Nat.le_of_lt hplace)]

/-- What a run is cut down to has the shape of an operand, too. -/
theorem Run.exists_atom_cut {known : String → Bool} {run : Run} {a : Atom}
    (h : a.chars = run.first :: run.others) :
    ∃ b : Atom, b.chars = run.first :: (run.cut known).1 := by
  obtain ⟨hfirst, hothers⟩ := List.cons.inj h
  rw [Run.cut, List.splitAt_eq]
  obtain hlength | hmem := run.cutPlace_eq_length_or_mem known
  · exact ⟨a, by rw [hlength, List.take_length, h]⟩
  · obtain ⟨k, hk, hhyphen⟩ := getElem?_of_mem_hyphenPlaces hmem
    rw [Nat.zero_add] at hk
    rw [hk, ← hfirst, ← hothers]
    exact exists_atom_take (hothers ▸ hhyphen)

/-! ### All operands -/

/-- Every operand of a text has the shape of an operand. -/
theorem exists_atom_of_mem_operands {known : String → Bool} {cs : List Char} {token : Token}
    (h : token ∈ operands known cs) : ∃ a : Atom, a.text = token.text := by
  fun_induction operands known cs with
  | case1 => cases h
  | case2 cs run hrun parts ih =>
    obtain rfl | h := List.mem_cons.mp h
    · obtain ⟨a, ha⟩ := exists_atom_of_nextRun? hrun
      obtain ⟨b, hb⟩ : ∃ b : Atom, b.chars = run.first :: (run.cut known).1 :=
        Run.exists_atom_cut ha
      exact ⟨b, congrArg String.ofList hb⟩
    · exact ih h

end Expression

end PointerChain
