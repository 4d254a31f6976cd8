import PointerChain.Proofs.Resolution.ReadOrder

/-!
# Strict mode

Strict mode refuses expressions by what is written in them, whatever memory holds: an expression
whose brackets do not balance before anything is read, and a balanced one at the first closing
bracket of a group without a word character. Otherwise it changes nothing.

* `scan_strictly_of_find?` is the pass up to the first group without a word character.
* `resolveNested_strictly` compares whole resolutions.
-/

namespace PointerChain

namespace Target

/-- A target in strict mode. -/
def strictly (target : Target) : Target := { target with strict := true }

/-- A target outside strict mode. -/
def leniently (target : Target) : Target := { target with strict := false }

@[simp] theorem strict_strictly (target : Target) : target.strictly.strict = true := rfl

@[simp] theorem strict_leniently (target : Target) : target.leniently.strict = false := rfl

end Target

/-- Every group holds a word character exactly if no first one without is found. -/
theorem Forest.worded_iff_find? {f : Forest} :
    f.Worded ↔ f.groups.find? (fun g => !g.body.hasWord) = none := by
  simp [Worded, List.find?_eq_none]

variable {target : Target} {expression : String}

@[simp]
theorem Forest.substitute_strictly (f : Forest) :
    f.substitute target.strictly = f.substitute target := substitute_strict true f

@[simp]
theorem Forest.substitute_leniently (f : Forest) :
    f.substitute target.leniently = f.substitute target := substitute_strict false f

/-- A group without a word character is refused at its closing bracket. -/
theorem scan_strictly_group {body : Forest} (hworded : body.Worded) (hbody : body.hasWord = false)
    (position : Nat) (s : Scan) (cs : List Char) :
    scan target.strictly expression position s ('[' :: (body.chars ++ ']' :: cs)) =
      scan target.leniently expression position s ('[' :: body.chars) >>= fun _ =>
        Trace.stop (.brackets ⟨expression, position + 1 + body.chars.length, .emptyGroup⟩) := by
  have hlenient : scan target.leniently expression (position + 1) s.opening (body.chars ++ []) =
      body.substitute target.leniently >>= fun inner =>
        return ⟨s.opening.pending, "[" ++ inner⟩ := by
    rw [scan_chars_append (by simp) _ s.tidy_opening, Scan.current_opening]
    rfl
  rw [List.append_nil] at hlenient
  rw [scan, scan, Scan.step_opening, Scan.step_opening, pure_bind, pure_bind, hlenient,
    scan_chars_append (fun _ => hworded) _ s.tidy_opening, Scan.current_opening, bind_assoc,
    Forest.substitute_strictly, Forest.substitute_leniently]
  -- Up to the closing bracket both modes do the same; there the flat text turns out to hold no
  -- operand.
  refine Trace.bind_congr_of_ok fun inner hinner => ?_
  have hnone : hasOperands ("[" ++ inner) = false := by
    rw [hasOperands_bracket_append, hasOperands_of_substitute hinner, hbody]
  rw [scan, Scan.step_closing, pure_bind, Scan.closing, if_neg (by simp),
    hnone]
  rfl

/-- Up to the first group without a word character, strict mode changes nothing, and there the pass
is stopped. -/
theorem scan_strictly_of_find? {f : Forest} {g : Forest.Group}
    (h : f.groups.find? (fun g => !g.body.hasWord) = some g) (position : Nat) {s : Scan}
    (hs : s.Tidy) (cs : List Char) :
    scan target.strictly expression position s (f.chars ++ cs) =
      scan target.leniently expression position s g.before >>= fun _ =>
        Trace.stop (.brackets ⟨expression, position + g.before.length, .emptyGroup⟩) := by
  -- By induction on the forest; both modes take the same steps up to the group, so the state in
  -- front of it is the same.
  induction f generalizing g position s cs with
  | nil => simp [Forest.groups] at h
  | text c plain rest ih =>
    rw [Forest.groups, List.find?_map, Option.map_eq_some_iff] at h
    obtain ⟨g, hg, rfl⟩ := h
    rw [Forest.Group.before_behind, Forest.chars_text, List.cons_append, List.singleton_append,
      scan, scan, Scan.step_of_plain plain, Scan.step_of_plain plain, pure_bind, pure_bind,
      ih hg _ (hs.append _), List.length_cons, Nat.add_right_comm, Nat.add_assoc]
  | group body rest ihBody ihRest =>
    rw [Forest.groups, List.find?_append, Option.or_eq_some_iff] at h
    rcases h with h | ⟨hworded, h⟩
    · -- The group lies inside the body of the first one.
      rw [List.find?_map, Option.map_eq_some_iff] at h
      obtain ⟨g, hg, rfl⟩ := h
      rw [Forest.Group.before_behind, Forest.chars_group, List.cons_append, List.append_assoc,
        List.singleton_append, scan, scan, Scan.step_opening, Scan.step_opening, pure_bind,
        pure_bind, ihBody hg _ s.tidy_opening, List.length_cons, Nat.add_right_comm, Nat.add_assoc]
    · rw [List.find?_map, Option.map_eq_none_iff] at hworded
      have hworded : body.Worded := Forest.worded_iff_find?.mpr hworded
      rw [List.find?_cons] at h
      cases hbody : body.hasWord with
      | false =>
        -- The group is the first one.
        simp only [hbody, Bool.not_false, Option.some.injEq] at h
        subst h
        rw [Forest.chars_group, List.cons_append, List.append_assoc, List.cons_append,
          scan_strictly_group hworded hbody, Nat.add_right_comm, Nat.add_assoc]
        rfl
      | true =>
        -- The group lies behind the first one, which is passed over in both modes.
        simp only [hbody, Bool.not_true, List.find?_map, Option.map_eq_some_iff] at h
        obtain ⟨g, hg, rfl⟩ := h
        have hfirst : (Forest.group body .nil).Worded := by simp [hworded, hbody]
        have hchars : (Forest.group body rest).chars =
            (Forest.group body .nil).chars ++ rest.chars := by simp
        have hbefore : '[' :: (body.chars ++ [']']) = (Forest.group body .nil).chars := rfl
        rw [Forest.Group.before_behind, hbefore, hchars, List.append_assoc,
          scan_chars_append (fun _ => hfirst) _ hs, scan_chars_append (by simp) _ hs, bind_assoc,
          Forest.substitute_strictly, Forest.substitute_leniently]
        refine Trace.bind_congr_of_ok fun t ht => ?_
        rw [ihRest hg _ (hs.append t), List.length_append, Nat.add_assoc]

/-- The group that `find?` gives is the first one without a word character. -/
theorem Forest.hasWord_of_find? {f : Forest} {g : Forest.Group}
    (h : f.groups.find? (fun g => !g.body.hasWord) = some g) :
    g ∈ f.groups ∧ g.body.hasWord = false ∧
      ∀ g' ∈ f.groups, g'.before.length < g.before.length → g'.body.hasWord = true := by
  obtain ⟨hg, earlier, later, hgroups, hearlier⟩ := List.find?_eq_some_iff_append.mp h
  refine ⟨List.mem_of_find?_eq_some h, by simpa using hg, fun g' hg' hlt => ?_⟩
  rw [hgroups, List.mem_append, List.mem_cons] at hg'
  rcases hg' with hg' | rfl | hg'
  · simpa using hearlier g' hg'
  · exact absurd hlt (Nat.lt_irrefl _)
  · -- Groups that are listed later are closed later.
    have hpairwise := f.groups_pairwise
    rw [hgroups, List.pairwise_append, List.pairwise_cons] at hpairwise
    exact absurd hlt (Nat.lt_asymm (hpairwise.2.1.1 g' hg'))

/-! ### Whole expressions -/

theorem resolveNested_strictly_of_worded {f : Forest} (h : f.Worded) :
    resolveNested target.strictly f.expression = resolveNested target.leniently f.expression := by
  rw [resolveNested_expression fun _ => h, resolveNested_expression (by simp), Forest.resolve,
    Forest.resolve, Forest.substitute_strictly, Forest.substitute_leniently]
  rfl

theorem resolveNested_strictly_of_find? {f : Forest} {g : Forest.Group}
    (h : f.groups.find? (fun g => !g.body.hasWord) = some g) :
    resolveNested target.strictly f.expression =
      scan target.leniently f.expression 0 Scan.start g.before >>= fun _ =>
        Trace.stop (.brackets ⟨f.expression, g.before.length, .emptyGroup⟩) := by
  have hscan : scan target.strictly f.expression 0 Scan.start (f.chars ++ []) = _ :=
    scan_strictly_of_find? h 0 Scan.tidy_start []
  rw [List.append_nil, Nat.zero_add] at hscan
  rw [resolveNested_eq_bind fun _ => checkBrackets_eq_ok_iff.mpr ⟨f, rfl⟩,
    Forest.toList_expression, hscan, bind_assoc]
  rfl

/-- A resolution in strict mode, by what is written in the expression:

* Brackets that do not balance are refused before anything is read.
* If every group holds a word character, strict mode changes nothing.
* Otherwise the resolution goes as outside strict mode up to the closing bracket of the first group
  without a word character, and is refused there if it gets that far. -/
theorem resolveNested_strictly (target : Target) (expression : String) :
    ((∀ f : Forest, f.expression ≠ expression) →
      ∃ e, resolveNested target.strictly expression = Trace.stop (.brackets e)) ∧
    ∀ f : Forest, f.expression = expression →
      ((∀ g ∈ f.groups, g.body.hasWord = true) →
        resolveNested target.strictly expression = resolveNested target.leniently expression) ∧
      ((∃ g ∈ f.groups, g.body.hasWord = false) →
        ∃ g ∈ f.groups, g.body.hasWord = false ∧
          (∀ g' ∈ f.groups, g'.before.length < g.before.length → g'.body.hasWord = true) ∧
          (∃ tail, expression.toList = g.before ++ ']' :: tail) ∧
          ∃ onward : Scan → Traced Address,
            resolveNested target.leniently expression =
              scan target.leniently expression 0 Scan.start g.before >>= onward ∧
            resolveNested target.strictly expression =
              scan target.leniently expression 0 Scan.start g.before >>= fun _ =>
                Trace.stop (.brackets ⟨expression, g.before.length, .emptyGroup⟩)) := by
  refine ⟨fun hunbalanced => ?_, fun f hf => ⟨fun hworded => ?_, fun hempty => ?_⟩⟩
  · cases hcheck : checkBrackets expression with
    | ok =>
      obtain ⟨f, hf⟩ := checkBrackets_eq_ok_iff.mp hcheck
      exact absurd hf (hunbalanced f)
    | error e => exact ⟨e, resolveNested_of_error target.strict_strictly hcheck⟩
  · subst hf
    exact resolveNested_strictly_of_worded hworded
  · subst hf
    obtain ⟨g, hg⟩ : ∃ g, f.groups.find? (fun g => !g.body.hasWord) = some g := by
      rw [← Option.isSome_iff_exists, List.find?_isSome]
      simpa using hempty
    obtain ⟨hmem, hword, hfirst⟩ := Forest.hasWord_of_find? hg
    obtain ⟨tail, htail⟩ := Forest.exists_chars_eq_of_mem_groups hmem
    refine ⟨g, hmem, hword, hfirst, ⟨tail, by rw [Forest.toList_expression, htail]⟩, ?_⟩
    -- Outside strict mode, the pass goes on from the closing bracket.
    refine ⟨fun s => scan target.leniently f.expression g.before.length s (']' :: tail) >>=
      Scan.conclude target.leniently, ?_, resolveNested_strictly_of_find? hg⟩
    rw [resolveNested_eq_bind (by simp), Forest.toList_expression, htail, scan_append, bind_assoc,
      Nat.zero_add]

/-- The expression `[8]-`, and what follows it. -/
def sampleForest (rest : Forest) : Forest :=
  .group (.text '8' (by decide) .nil) (.text '-' (by decide) rest)

/-- A closing bracket alone is refused at once, a group with a word character is read as outside
strict mode, and behind it an empty group is refused. -/
theorem resolveNested_strictly_sample :
    (∃ e, resolveNested sampleTarget.strictly "]" = Trace.stop (.brackets e)) ∧
      resolveNested sampleTarget.strictly "[8]-" = resolveNested sampleTarget.leniently "[8]-" ∧
      ∃ g ∈ (sampleForest (.group (.group .nil .nil) .nil)).groups, g.body.hasWord = false ∧
        resolveNested sampleTarget.strictly "[8]-[[]]" =
          scan sampleTarget.leniently "[8]-[[]]" 0 Scan.start g.before >>= fun _ =>
            Trace.stop (.brackets ⟨"[8]-[[]]", g.before.length, .emptyGroup⟩) := by
  refine ⟨(resolveNested_strictly sampleTarget "]").1 fun f hf => ?_, ?_, ?_⟩
  · have hbalanced : checkBrackets "]" = .ok () := checkBrackets_eq_ok_iff.mpr ⟨f, hf⟩
    cases hbalanced
  · exact ((resolveNested_strictly sampleTarget "[8]-").2 (sampleForest .nil) rfl).1 (by decide)
  · have hempty : ∃ g ∈ (sampleForest (.group (.group .nil .nil) .nil)).groups,
        g.body.hasWord = false := by decide
    obtain ⟨g, hg, hword, -, -, -, -, h⟩ :=
      ((resolveNested_strictly sampleTarget "[8]-[[]]").2 _ rfl).2 hempty
    exact ⟨g, hg, hword, h⟩

end PointerChain
