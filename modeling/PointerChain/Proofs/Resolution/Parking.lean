import PointerChain.Proofs.Expression.Partner
import PointerChain.Proofs.Resolution.ReadOrder

/-!
# What a pass has parked

The pass over an expression counts no brackets. It parks the text in front of an opening bracket
only if there is any, and a closing bracket takes up whatever was parked last. Still the parked
texts always belong to the brackets that are open: one each, except for a bracket at the very start
of the expression, in front of which there is nothing to park.

* `Parked` relates the places of the open brackets to the texts that were parked at them.
* `Scan.Mirrors` is the invariant of the pass: `Scan.Mirrors.step` keeps it for one character, and
  `mirrors_of_scan` has it behind every text that has been passed over.
* `scan_mirrors_open_brackets` says what follows for the number of the parked texts, and for the
  text that a closing bracket takes up.
-/

namespace PointerChain

variable {target : Target} {expression : String} {position i : Nat} {places : List Nat}
variable {pending : List String} {read onward : List Char} {s next : Scan} {c : Char}

/-! ### Parked texts -/

/-- Texts are parked for open brackets at some places, the last one first. Each is the text that the
pass had built up in front of the bracket, and below it is what was parked by then. -/
inductive Parked (target : Target) (expression : String) : List Nat → List String → Prop
  /-- No bracket is open. -/
  | nil : Parked target expression [] []
  /-- In front of a bracket at the start of the expression stands nothing. -/
  | first : Parked target expression [0] []
  /-- In front of any other bracket stands a text. -/
  | cons {i : Nat} {places : List Nat} {front : Scan}
      (hfront : (scan target expression 0 Scan.start (expression.toList.take i)).result = .ok front)
      (hcurrent : front.current ≠ "") (hrest : Parked target expression places front.pending) :
      Parked target expression (i :: places) (front.current :: front.pending)

namespace Parked

theorem ne_empty (h : Parked target expression places pending) : ∀ t ∈ pending, t ≠ "" := by
  induction h with
  | nil => simp
  | first => simp
  | cons hfront hcurrent hrest ih =>
    intro t ht
    obtain rfl | ht := List.mem_cons.mp ht
    · exact hcurrent
    · exact ih t ht

/-- If no bracket is open, nothing is parked. -/
theorem eq_nil (h : Parked target expression [] pending) : pending = [] := by
  cases h
  rfl

/-- Nothing stands in front of the first character. -/
theorem place_ne_zero {front : Scan}
    (hfront : (scan target expression 0 Scan.start (expression.toList.take i)).result = .ok front)
    (hcurrent : front.current ≠ "") : i ≠ 0 := by
  rintro rfl
  obtain rfl := Except.ok.inj hfront
  exact hcurrent rfl

/-- One text is parked for each open bracket that does not stand at the start. -/
theorem length_eq (h : Parked target expression places pending) :
    pending.length = (places.filter (· ≠ 0)).length := by
  induction h with
  | nil => rfl
  | first => rfl
  | cons hfront hcurrent hrest ih =>
    have hplace := place_ne_zero hfront hcurrent
    rw [List.length_cons, ih, List.filter_cons_of_pos (by simpa using hplace), List.length_cons]

/-- The state in front of the last open bracket: its text is the one that was parked last, unless
the bracket stands at the start, and it is what a closing bracket leads back to. -/
theorem exists_front (h : Parked target expression (i :: places) s.pending) :
    ∃ front,
      (scan target expression 0 Scan.start (expression.toList.take i)).result = .ok front ∧
        Parked target expression places front.pending ∧
        (s.pending = if i = 0 then [] else front.current :: front.pending) ∧
        ∀ t, s.resume t = ⟨front.pending, front.current ++ t ++ "]"⟩ := by
  obtain ⟨pending, current⟩ := s
  cases h with
  | first => exact ⟨Scan.start, rfl, .nil, rfl, fun t => by simp [Scan.resume, Scan.start]⟩
  | cons hfront hcurrent hrest =>
    exact ⟨_, hfront, hrest, by rw [if_neg (place_ne_zero hfront hcurrent)], fun t => rfl⟩

end Parked

/-! ### Closing brackets -/

/-- A closing bracket that is let through puts the replacement of the text behind the text that was
parked last. -/
theorem Scan.resume_of_closing (hcurrent : s.current ≠ "")
    (h : (s.closing target expression position).result = .ok next) :
    ∃ t, (target.replacement s.current).result = .ok t ∧ next = s.resume t := by
  have hgroup : target.strict = true → hasOperands s.current = true := by
    intro hstrict
    by_contra hnone
    have hrefused : s.closing target expression position =
        Trace.stop (.brackets ⟨expression, position, .emptyGroup⟩) := by
      simp [Scan.closing, hcurrent, hnone, hstrict]
    rw [hrefused] at h
    cases h
  rw [Scan.closing_eq_replacement s position hcurrent hgroup] at h
  obtain ⟨t, ht, hnext⟩ := Trace.result_bind_eq_ok_iff.mp h
  exact ⟨t, ht, (Except.ok.inj hnext).symm⟩

/-! ### The invariant -/

/-- The state of a pass behind a text: what is parked belongs to the brackets that are open, and
there is a text since the first character. -/
structure Scan.Mirrors (target : Target) (expression : String) (read : List Char) (s : Scan) :
    Prop where
  /-- The parked texts are those of the open brackets. -/
  parked : Parked target expression (openPlaces read) s.pending
  /-- The text is empty at the start only. -/
  current_eq_iff : s.current = "" ↔ read = []

namespace Scan.Mirrors

theorem start : Scan.start.Mirrors target expression [] := ⟨.nil, by simp [Scan.start]⟩

/-- At the start nothing is parked. -/
theorem pending_eq_nil (h : s.Mirrors target expression []) : s.pending = [] :=
  h.parked.eq_nil

/-- An opening bracket parks the text in front of it, unless it stands at the start. -/
theorem opening (h : s.Mirrors target expression read)
    (hread : expression.toList.take read.length = read)
    (hscan : (scan target expression 0 Scan.start read).result = .ok s) :
    s.opening.Mirrors target expression (read ++ ['[']) := by
  refine ⟨?_, by simp⟩
  rw [openPlaces_concat_opening, Scan.opening]
  by_cases hcurrent : s.current = ""
  · -- There is no text yet, so this is the first character.
    obtain rfl := h.current_eq_iff.mp hcurrent
    rw [if_pos (by simpa using hcurrent), h.pending_eq_nil]
    exact .first
  · rw [if_neg (by simpa using hcurrent)]
    exact .cons (by rw [hread, hscan]) hcurrent h.parked

/-- A closing bracket takes up the text that was parked for the last open bracket. -/
theorem closing (h : s.Mirrors target expression read)
    (hnext : (s.closing target expression position).result = .ok next) :
    next.Mirrors target expression (read ++ [']']) := by
  have hplaces := openPlaces_concat_closing read
  -- A bracket in front of which nothing was read is all the text there is.
  by_cases hcurrent : s.current = ""
  · obtain rfl := h.current_eq_iff.mp hcurrent
    rw [Scan.closing, if_pos (by simpa using hcurrent)] at hnext
    obtain rfl := Except.ok.inj hnext
    exact ⟨hplaces ▸ h.parked, by simp⟩
  · obtain ⟨t, -, rfl⟩ := Scan.resume_of_closing hcurrent hnext
    have hparked := h.parked
    rcases hopen : openPlaces read with _ | ⟨i, places⟩
    · -- A stray bracket finds nothing parked, and nothing is open behind it.
      rw [hopen] at hparked hplaces
      rw [Scan.resume, hparked.eq_nil]
      exact ⟨hplaces ▸ .nil, by simp⟩
    · rw [hopen] at hparked hplaces
      obtain ⟨front, -, hrest, -, hresume⟩ := hparked.exists_front
      rw [hresume]
      exact ⟨hplaces ▸ hrest, by simp⟩

/-- One character keeps the invariant. -/
theorem step (h : s.Mirrors target expression read)
    (hread : expression.toList.take read.length = read)
    (hscan : (scan target expression 0 Scan.start read).result = .ok s)
    (hnext : (s.step target expression position c).result = .ok next) :
    next.Mirrors target expression (read ++ [c]) := by
  by_cases hopen : c = '['
  · subst hopen
    rw [Scan.step_opening] at hnext
    obtain rfl := Except.ok.inj hnext
    exact h.opening hread hscan
  · by_cases hclose : c = ']'
    · subst hclose
      rw [Scan.step_closing] at hnext
      exact h.closing hnext
    · rw [Scan.step_of_plain ⟨hopen, hclose⟩] at hnext
      obtain rfl := Except.ok.inj hnext
      refine ⟨?_, by simp⟩
      rw [openPlaces_concat_of_plain ⟨hopen, hclose⟩]
      exact h.parked

end Scan.Mirrors

theorem scan_concat (position : Nat) (s : Scan) (cs : List Char) (c : Char) :
    scan target expression position s (cs ++ [c]) =
      scan target expression position s cs >>= fun next =>
        next.step target expression (position + cs.length) c := by
  rw [scan_append]
  exact bind_congr fun next => bind_pure _

/-- The invariant holds behind every text that has been passed over. -/
theorem mirrors_of_scan (hexpression : read <+: expression.toList)
    (hscan : (scan target expression 0 Scan.start read).result = .ok s) :
    s.Mirrors target expression read := by
  induction read using List.reverseRecOn generalizing s with
  | nil =>
    obtain rfl := Except.ok.inj hscan
    exact .start
  | append_singleton read c ih =>
    rw [scan_concat] at hscan
    obtain ⟨before, hbefore, hstep⟩ := Trace.result_bind_eq_ok_iff.mp hscan
    have hread : read <+: expression.toList := (List.prefix_append read [c]).trans hexpression
    exact (ih hread hbefore).step (List.prefix_iff_eq_take.mp hread).symm hbefore hstep

/-! ### Open brackets -/

/-- All brackets that are open count but one at the start. -/
theorem length_filter_openPlaces (read : List Char) :
    ((openPlaces read).filter (· ≠ 0)).length + (openPlaces read).count 0 =
      {i | LoneOpening read i}.ncard := by
  have hzero : (openPlaces read).count 0 =
      (openPlaces read).countP fun i => ¬decide (i ≠ 0) = true :=
    List.countP_congr fun i _ => by simp
  rw [ncard_loneOpening, hzero, ← List.countP_eq_length_filter, ← List.length_eq_countP_add_countP]

/-- What is parked behind a text that has been passed over mirrors the brackets that are open there:

* One text is parked for each of them, except for a bracket at the start of the expression. No
  parked text is empty, and neither is the text that is being built up.
* A closing bracket that has no partner finds nothing parked. Any other one leads back to what was
  parked in front of its partner, and puts the replacement of the group behind the text that stood
  there; unless its partner stands at the start, this text was the last one parked.
* Behind a balanced text nothing is parked. -/
theorem scan_mirrors_open_brackets (hexpression : read <+: expression.toList)
    (hscan : (scan target expression 0 Scan.start read).result = .ok s) :
    ((¬LoneOpening read 0 → s.pending.length = {i | LoneOpening read i}.ncard) ∧
        (LoneOpening read 0 → s.pending.length + 1 = {i | LoneOpening read i}.ncard)) ∧
      ((∀ t ∈ s.pending, t ≠ "") ∧ (read ≠ [] → s.current ≠ "")) ∧
      (∀ next, (s.step target expression read.length ']').result = .ok next →
        ((∀ i, ¬Matched (read ++ [']']) i read.length) → s.pending = [] ∧ next.pending = []) ∧
          ∀ i, Matched (read ++ [']']) i read.length →
            ∃ front t, (scan target expression 0 Scan.start (read.take i)).result = .ok front ∧
              (s.pending = if i = 0 then [] else front.current :: front.pending) ∧
              (target.replacement s.current).result = .ok t ∧
              next = ⟨front.pending, front.current ++ t ++ "]"⟩) ∧
      ((∃ f : Forest, f.chars = read) → s.pending = []) := by
  have hmirrors := mirrors_of_scan hexpression hscan
  have hparked := hmirrors.parked
  have hcount := length_filter_openPlaces read
  rw [← hparked.length_eq] at hcount
  refine ⟨⟨fun hlone => ?_, fun hlone => ?_⟩, ⟨hparked.ne_empty, ?_⟩, fun next hnext => ?_, ?_⟩
  · rw [← hcount, List.count_eq_zero_of_not_mem (mt mem_openPlaces_iff.mp hlone), Nat.add_zero]
  · rw [← hcount, List.count_eq_one_of_mem (nodup_openPlaces read) (mem_openPlaces_iff.mpr hlone)]
  · exact mt hmirrors.current_eq_iff.mp
  · have hmatched (i : Nat) := matched_iff read [] i
    refine ⟨fun hlone => ?_, fun i hi => ?_⟩
    · have hnone : openPlaces read = [] := by
        rw [← List.head?_eq_none_iff, Option.eq_none_iff_forall_ne_some]
        exact fun i hi => hlone i ((hmatched i).mpr hi)
      have hbehind := (hmirrors.closing hnext).parked
      rw [openPlaces_concat_closing, hnone, List.tail_nil] at hbehind
      rw [hnone] at hparked
      exact ⟨hparked.eq_nil, hbehind.eq_nil⟩
    · obtain ⟨places, hopen⟩ := List.head?_eq_some_iff.mp ((hmatched i).mp hi)
      have hlt : i < read.length := lt_length_of_mem_openPlaces (hopen ▸ List.mem_cons_self)
      -- There is an open bracket, so there is a text, and the bracket closes a group.
      have hcurrent : s.current ≠ "" := by
        rw [Ne, hmirrors.current_eq_iff, ← List.length_eq_zero_iff]
        omega
      have htake : read.take i = expression.toList.take i := by
        rw [List.prefix_iff_eq_take.mp hexpression, List.take_take, Nat.min_eq_left]
        simpa using Nat.le_of_lt hlt
      rw [hopen] at hparked
      obtain ⟨front, hfront, -, hpending, hresume⟩ := hparked.exists_front
      obtain ⟨t, ht, rfl⟩ := Scan.resume_of_closing hcurrent hnext
      exact ⟨front, t, htake ▸ hfront, hpending, ht, hresume t⟩
  · rintro ⟨f, rfl⟩
    rw [openPlaces, openPlacesFrom_chars] at hparked
    exact hparked.eq_nil

/-- Two brackets are open, the first one at the start, and one text is parked. The closing bracket
that comes next takes it up and puts a pointer behind it. -/
theorem scan_mirrors_open_brackets_sample :
    "[[lib.so+0x10".toList <+: "[[lib.so+0x10]+0x20]".toList ∧
      (scan sampleTarget "[[lib.so+0x10]+0x20]" 0 Scan.start "[[lib.so+0x10".toList).result =
        .ok ⟨["["], "[lib.so+0x10"⟩ ∧
      LoneOpening "[[lib.so+0x10".toList 0 ∧
      {i | LoneOpening "[[lib.so+0x10".toList i}.ncard = 2 ∧
      Matched ("[[lib.so+0x10".toList ++ [']']) 1 13 ∧
      ∃ front t, (scan sampleTarget "[[lib.so+0x10]+0x20]" 0 Scan.start ['[']).result = .ok front ∧
        (["["] : List String) = front.current :: front.pending ∧
        (sampleTarget.replacement "[lib.so+0x10").result = .ok t ∧
        (⟨[], "[0x2000]"⟩ : Scan) = ⟨front.pending, front.current ++ t ++ "]"⟩ := by
  have hread : "[[lib.so+0x10".toList <+: "[[lib.so+0x10]+0x20]".toList := by decide
  have hscan : (scan sampleTarget "[[lib.so+0x10]+0x20]" 0 Scan.start
      "[[lib.so+0x10".toList).result = .ok ⟨["["], "[lib.so+0x10"⟩ := by decide +kernel
  have hlone : LoneOpening "[[lib.so+0x10".toList 0 := mem_openPlaces_iff.mp (by decide)
  have hmatched : Matched ("[[lib.so+0x10".toList ++ [']']) 1 13 :=
    ⟨['['], [], .plain "lib.so+0x10".toList (by simp), rfl, rfl, rfl⟩
  have hnext : (Scan.step sampleTarget "[[lib.so+0x10]+0x20]" 13 ⟨["["], "[lib.so+0x10"⟩
      ']').result = .ok ⟨[], "[0x2000]"⟩ := by decide +kernel
  obtain ⟨⟨-, hcount⟩, -, hclosing, -⟩ := scan_mirrors_open_brackets hread hscan
  exact ⟨hread, hscan, hlone, (hcount hlone).symm, hmatched, (hclosing _ hnext).2 1 hmatched⟩

end PointerChain
