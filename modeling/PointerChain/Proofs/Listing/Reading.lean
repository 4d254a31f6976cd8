import PointerChain.Proofs.Listing.Outline

/-!
# Forests of texts

A listing is read line by line, and only the lines that are understood count. They give the rows of
the listing, and the rows give the forest.

* `rowsOf` lists the rows of a text, `IsOverlong` says which fields cannot be read at all.
* `parse_eq` reads a text without such fields by its rows.
* `parse_outline` is the outline of the forest of a text: its rows in order, each as deep as it is
  indented but at most one deeper than a directory in front of it.
-/

namespace PointerChain.Listing

/-- A field that holds a number with more digits than are read. -/
def IsOverlong (field : List Char) : Prop :=
  (∀ c ∈ (Text.splitSign field).2, isDigit c = true) ∧
    Text.maxDigits < (Text.splitSign field).2.length

instance (field : List Char) : Decidable (IsOverlong field) :=
  @instDecidableAnd _ _ (List.decidableBAll _ _) (Nat.decLt _ _)

/-- A field that is not overlong is read, whatever it holds. -/
theorem exists_readNumber_eq {field : List Char} (h : ¬IsOverlong field) :
    ∃ n, readNumber field = .ok n := by
  unfold readNumber
  by_cases hdigits : ∀ c ∈ (Text.splitSign field).2, isDigit c = true
  · have hlength : ¬Text.maxDigits < (Text.splitSign field).2.length := fun hlength =>
      h ⟨hdigits, hlength⟩
    simp only [hlength, if_false]
    split
    next => exact ⟨_, rfl⟩
    next => exact ⟨_, rfl⟩
  · rw [← List.all_eq_true] at hdigits
    simp only [hdigits, Bool.not_false, Bool.or_true, if_true]
    exact ⟨_, rfl⟩

namespace Line

/-- The fields of a description that should hold numbers. -/
def numberFieldsOf (kind description : List Char) : List (List Char) :=
  if kind = ['f', 'i', 'l', 'e'] then
    match splitCommas description with
    | [_, size, lastOpened] => [size, lastOpened]
    | _ => []
  else []

/-- The fields of a line that should hold numbers. -/
def numberFields (line : List Char) : List (List Char) :=
  let content := Text.trimStart line
  match content.dropWhile (· != ':') with
  | [] => []
  | _ :: description => numberFieldsOf (content.takeWhile (· != ':')) description

/-- The row that a line gives, if it is understood. -/
def row? (line : List Char) : Option Row :=
  match read line with
  | .ok (.row r) => some r
  | _ => none

theorem exists_label?_eq {kind description : List Char}
    (h : ∀ field ∈ numberFieldsOf kind description, ¬IsOverlong field) :
    ∃ label, label? kind description = .ok label := by
  unfold label?
  unfold numberFieldsOf at h
  split
  next => exact ⟨_, rfl⟩
  next =>
    split
    next hfile =>
      rw [if_pos hfile] at h
      split
      next name size lastOpened hparts =>
        simp only [hparts, List.mem_cons, List.not_mem_nil, or_false, forall_eq_or_imp,
          forall_eq] at h
        obtain ⟨n, hn⟩ := exists_readNumber_eq h.1
        obtain ⟨m, hm⟩ := exists_readNumber_eq h.2
        rw [hn, hm]
        exact ⟨_, rfl⟩
      next => exact ⟨_, rfl⟩
    next => exact ⟨_, rfl⟩

/-- A line without overlong fields is read. -/
theorem exists_read_eq {line : List Char} (h : ∀ field ∈ numberFields line, ¬IsOverlong field) :
    ∃ x, read line = .ok x := by
  unfold read
  unfold numberFields at h
  dsimp only at h ⊢
  split
  next => exact ⟨_, rfl⟩
  next c description hsplit =>
    rw [hsplit] at h
    obtain ⟨label, hlabel⟩ := exists_label?_eq h
    rw [hlabel]
    cases label with
    | none => exact ⟨_, rfl⟩
    | some label => exact ⟨_, rfl⟩

end Line

/-- The rows of a text: what its lines give, as far as they are understood. -/
def rowsOf (text : String) : List Row :=
  (Text.splitLines text.toList).filterMap Line.row?

/-- No line of a text holds an overlong number. -/
def IsReadable (text : String) : Prop :=
  ∀ line ∈ Text.splitLines text.toList, ∀ field ∈ Line.numberFields line, ¬IsOverlong field

/-- Comments and lines that are skipped leave no row. -/
theorem rows_ofLines {lines : List (List Char)}
    (h : ∀ line ∈ lines, ∀ field ∈ Line.numberFields line, ¬IsOverlong field) :
    (Reading.ofLines lines).rows = .ok (lines.filterMap Line.row?) := by
  induction lines with
  | nil => rfl
  | cons line lines ih =>
    obtain ⟨x, hx⟩ := Line.exists_read_eq (h line List.mem_cons_self)
    have hlines := ih fun l hl => h l (List.mem_cons_of_mem line hl)
    rw [Reading.ofLines, List.filterMap_cons, Line.row?, hx]
    cases x with
    | comment => exact hlines
    | skipped => exact hlines
    | row row =>
      dsimp only
      rw [hlines]
      rfl

/-- A text without overlong numbers gives the forest of its rows. -/
theorem parse_eq {text : String} (h : IsReadable text) :
    parse text = .ok (forestOfRows (rowsOf text)) := by
  rw [parse, Reading.ofText, rows_ofLines h]
  rfl

/-! ### Depths in order -/

@[simp]
theorem map_label_settle (limit : Nat) (rows : List Row) :
    (settle limit rows).map Row.label = rows.map Row.label := by
  induction rows generalizing limit with
  | nil => rfl
  | cons row rows ih => rw [settle, List.map_cons, ih, List.map_cons, Row.within]

theorem getElem?_settle_zero (limit : Nat) (rows : List Row) :
    (settle limit rows)[0]? = rows[0]?.map (Row.within limit) := by
  cases rows <;> rfl

/-- Each row is placed below the limit that the row in front of it leaves. -/
theorem getElem?_settle_succ {limit k : Nat} {rows : List Row} {placed : Row}
    (h : (settle limit rows)[k]? = some placed) :
    (settle limit rows)[k + 1]? = rows[k + 1]?.map (Row.within placed.limitBehind) := by
  induction rows generalizing limit k with
  | nil => cases h
  | cons row rows ih =>
    rw [settle, List.getElem?_cons_succ, List.getElem?_cons_succ]
    cases k with
    | zero =>
      obtain rfl := Option.some.inj h
      exact getElem?_settle_zero _ rows
    | succ k => exact ih h

/-! ### Whole listings -/

/-- The forest of a text without overlong numbers. From top to bottom, it consists of the rows of
the text in order, and their depths follow from each other: the first item is not inside of
anything, and every further one is as deep as it is indented, but at most one deeper than a
directory in front of it, and at most as deep as a file in front of it. This determines the forest,
which so depends only on the lines that are understood. -/
theorem parse_outline {text : String} (h : IsReadable text) :
    ∃ forest, parse text = .ok forest ∧
      (Item.outlines 0 forest).map Row.label = (rowsOf text).map Row.label ∧
      (∀ first, (Item.outlines 0 forest)[0]? = some first → first.indent = 0) ∧
      (∀ k placed next row, (Item.outlines 0 forest)[k]? = some placed →
        (Item.outlines 0 forest)[k + 1]? = some next → (rowsOf text)[k + 1]? = some row →
          next.indent = min row.indent
            (if placed.label.isDirectory then placed.indent + 1 else placed.indent)) ∧
      (∀ other : List Item, Item.outlines 0 other = Item.outlines 0 forest → other = forest) ∧
      ∀ other : String, IsReadable other → rowsOf other = rowsOf text →
        parse other = .ok forest := by
  refine ⟨forestOfRows (rowsOf text), parse_eq h, ?_, ?_, ?_, fun other => Item.outlines_injective,
    fun other hother hrows => ?_⟩
  · rw [outlines_forestOfRows, map_label_settle]
  · intro first hfirst
    rw [outlines_forestOfRows, getElem?_settle_zero, Option.map_eq_some_iff] at hfirst
    obtain ⟨row, -, rfl⟩ := hfirst
    exact Nat.min_zero row.indent
  · intro k placed next row hplaced hnext hrow
    rw [outlines_forestOfRows] at hplaced hnext
    rw [getElem?_settle_succ hplaced, hrow] at hnext
    obtain rfl := Option.some.inj hnext
    rfl
  · rw [parse_eq hother, hrows]

/-- A listing with an indented first line, lines that are not understood and lines that are indented
too deep. -/
def sampleListing : String :=
  "  dir:lib\n      file:game.so,1048576,never\n        nothing\n    dir:arm\nfile:a,1\n file:b,2,3"

/-- Four of the six lines are understood, and no more items are in the forest. -/
theorem parse_outline_sample :
    IsReadable sampleListing ∧
      ∃ forest, parse sampleListing = .ok forest ∧
        (Item.outlines 0 forest).map Row.label =
          [.directory "lib", .file "game.so" (some 1048576) none, .directory "arm",
            .file "b" (some 2) (some 3)] ∧
        ∀ first, (Item.outlines 0 forest)[0]? = some first → first.indent = 0 := by
  have hreadable : IsReadable sampleListing := by
    unfold IsReadable
    decide +kernel
  have hrows : rowsOf sampleListing =
      [⟨1, .directory "lib"⟩, ⟨3, .file "game.so" (some 1048576) none⟩, ⟨2, .directory "arm"⟩,
        ⟨0, .file "b" (some 2) (some 3)⟩] := by decide +kernel
  obtain ⟨forest, hforest, hlabels, hfirst, -⟩ := parse_outline hreadable
  rw [hrows] at hlabels
  exact ⟨hreadable, forest, hforest, hlabels, hfirst⟩

end PointerChain.Listing
