import PointerChain.Proofs.Listing.Outline

/-!
# Printed forests

A forest is printed from top to bottom, one item a line, with two spaces for each level in front.
What is printed is a listing, and reading the listing gives the forest back.

* `Label.IsWritable` says which names can stand in a line.
* `printedLines` are the lines of a printed forest.
* `forestOfRows_outlines` builds a forest from its own outline.
* `Line.read_text` reads one line back, `parse_printedLines` all of them.
-/

namespace PointerChain.Listing

/-! ### Printing -/

/-- A number in the field of a line; without a number the field is empty. -/
def numberText : Option Int64 → String
  | none => ""
  | some n => toString n.toInt

namespace Label

/-- A label as it stands in a line. -/
def text : Label → String
  | directory name => "dir:" ++ name
  | file name size lastOpened =>
    "file:" ++ name ++ "," ++ numberText size ++ "," ++ numberText lastOpened

/-- A label whose name can stand in a line: it has no line boundary, and that of a file no comma
either. -/
def IsWritable : Label → Prop
  | directory name => ∀ c ∈ name.toList, Text.isLineEnd c = false
  | file name _ _ => ∀ c ∈ name.toList, Text.isLineEnd c = false ∧ c ≠ ','

end Label

/-- A row as a line, with two spaces for each level. -/
def Row.text (row : Row) : String :=
  String.ofList (List.replicate (2 * row.indent) ' ') ++ row.label.text

/-- The lines of a printed forest, one for each item from top to bottom. -/
def printedLines (forest : List Item) : List String :=
  (Item.outlines 0 forest).map Row.text

/-! ### Outlines as listings -/

/-- Rows that are placed as deep as they are indented, whenever the first one may be placed at a
depth. -/
def IsSettled (depth : Nat) (rows : List Row) : Prop :=
  ∀ limit, depth ≤ limit → settle limit rows = rows

theorem isSettled_nil (depth : Nat) : IsSettled depth [] := fun _ _ => rfl

namespace IsSettled

variable {depth : Nat} {rows : List Row}

theorem succ (h : IsSettled depth rows) : IsSettled (depth + 1) rows :=
  fun limit hlimit => h limit (Nat.le_of_succ_le hlimit)

/-- A row may come in front of rows that are settled at the depth that it allows. -/
theorem cons (row : Row) (h : IsSettled row.limitBehind rows) :
    IsSettled row.indent (row :: rows) := by
  intro limit hlimit
  have hwithin : row.within limit = row := by
    rw [Row.within, Nat.min_eq_left hlimit]
  rw [settle, hwithin, h _ (Nat.le_refl _)]

/-- The outline of a forest may come in front of settled rows. -/
theorem outlines_append (h : IsSettled depth rows) (items : List Item) :
    IsSettled depth (Item.outlines depth items ++ rows) := by
  induction items using Item.forestInduction generalizing depth rows with
  | nil => exact h
  | directory name children items ihChildren ihItems =>
    -- What comes behind the children is less deep than they are, so it is settled behind them too.
    have hbehind := ihChildren (ihItems h).succ
    rw [Item.outlines_directory_cons, List.cons_append, List.append_assoc]
    exact cons ⟨depth, .directory name⟩ hbehind
  | file name size lastOpened items ih =>
    rw [Item.outlines_file_cons, List.cons_append]
    exact cons ⟨depth, .file name size lastOpened⟩ (ih h)

end IsSettled

/-- A forest is built from its own outline. -/
theorem forestOfRows_outlines (forest : List Item) :
    forestOfRows (Item.outlines 0 forest) = forest := by
  have hsettled := (isSettled_nil 0).outlines_append forest 0 (Nat.le_refl 0)
  rw [List.append_nil] at hsettled
  apply Item.outlines_injective
  rw [outlines_forestOfRows, hsettled]

/-! ### Numbers -/

theorem digitsValue_toDigits (n : Nat) : digitsValue (Nat.toDigits 10 n) = n :=
  Text.ofDigits_toDigits n

theorem isDigit_of_mem_toDigits {n : Nat} {c : Char} (h : c ∈ Nat.toDigits 10 n) :
    isDigit c = true := by
  have hdigit := Nat.isDigit_of_mem_toDigits (by decide) (Nat.le_refl 10) h
  simpa [isDigit, Char.isDigit, Char.le_def] using hdigit

/-- Digits are no sign. -/
theorem splitSign_toDigits (n : Nat) :
    Text.splitSign (Nat.toDigits 10 n) = (false, Nat.toDigits 10 n) := by
  unfold Text.splitSign
  split
  next cs h =>
    have hdigit : isDigit '-' = true := isDigit_of_mem_toDigits (h ▸ List.mem_cons_self)
    exact absurd hdigit (by decide)
  next cs h =>
    have hdigit : isDigit '+' = true := isDigit_of_mem_toDigits (h ▸ List.mem_cons_self)
    exact absurd hdigit (by decide)
  next => rfl

/-- A field that holds a sign, or none, and the digits of a number of 64 bits. -/
theorem readNumber_of_splitSign {field : List Char} {negative : Bool} {n : Nat} {value : Int64}
    (hsplit : Text.splitSign field = (negative, Nat.toDigits 10 n))
    (hvalue : value.toInt = if negative then -(n : Int) else n) :
    readNumber field = .ok (some value) := by
  have hfits : FitsInt64 value.toInt := ⟨value.le_toInt, value.toInt_lt⟩
  have hempty : (Nat.toDigits 10 n).isEmpty = false := by
    simp [Nat.toDigits_ne_nil]
  have hdigits : (Nat.toDigits 10 n).all isDigit = true :=
    List.all_eq_true.mpr fun c hc => isDigit_of_mem_toDigits hc
  -- Twenty digits are enough for 64 bits, far below the greatest number of digits.
  have hlength : ¬Text.maxDigits < (Nat.toDigits 10 n).length := by
    have hlt : n < 10 ^ 20 := by
      rw [hvalue] at hfits
      unfold FitsInt64 at hfits
      split at hfits <;> omega
    have hle := (Nat.length_toDigits_le_iff (by decide) (by decide)).mpr hlt
    unfold Text.maxDigits
    omega
  rw [readNumber, hsplit]
  simp only [hempty, hdigits, hlength, digitsValue_toDigits, Bool.not_true, Bool.or_self,
    Bool.false_eq_true, if_false]
  rw [← hvalue, if_pos hfits, Int64.ofInt_toInt]

/-- What is written of a number reads back as the number. -/
theorem readNumber_numberText (n : Option Int64) :
    readNumber (numberText n).toList = .ok n := by
  cases n with
  | none => rfl
  | some n =>
    rw [numberText, Text.toList_toString]
    by_cases hsign : n.toInt < 0
    · have hvalue : n.toInt = -(n.toInt.natAbs : Int) := by omega
      rw [if_pos hsign]
      exact readNumber_of_splitSign rfl hvalue
    · have hvalue : n.toInt = n.toInt.natAbs := by omega
      rw [if_neg hsign]
      exact readNumber_of_splitSign (splitSign_toDigits _) hvalue

/-- Digits and signs part neither lines nor fields. -/
theorem apart_of_mem_numberText {n : Option Int64} {c : Char} (h : c ∈ (numberText n).toList) :
    Text.isLineEnd c = false ∧ c ≠ ',' := by
  cases n with
  | none => simp [numberText] at h
  | some n =>
    rcases Text.isDigit_or_eq_minus_of_mem_toString h with hdigit | rfl
    · have hall : ∀ k < 58, 48 ≤ k →
          Text.isLineEnd (Char.ofNat k) = false ∧ Char.ofNat k ≠ ',' := by decide
      simp only [Char.isDigit, Bool.and_eq_true, decide_eq_true_eq] at hdigit
      have hc := hall c.toNat (Nat.lt_succ_of_le hdigit.2) hdigit.1
      rwa [Char.ofNat_toNat] at hc
    · decide

/-! ### One line -/

namespace Label

/-- The word in front of the colon of a line. -/
def kind : Label → List Char
  | directory _ => ['d', 'i', 'r']
  | file .. => ['f', 'i', 'l', 'e']

/-- What is behind the colon of a line. -/
def description : Label → List Char
  | directory name => name.toList
  | file name size lastOpened =>
    List.intercalate [','] [name.toList, (numberText size).toList, (numberText lastOpened).toList]

theorem toList_text (label : Label) :
    label.text.toList = label.kind ++ ':' :: label.description := by
  cases label with
  | directory name => simp [text, kind, description]
  | file name size lastOpened => simp [text, kind, description]

end Label

namespace Line

variable {label : Label} {row : Row}

/-- A label is understood if its name can stand in a line. -/
theorem label?_description (h : label.IsWritable) :
    label? label.kind label.description = .ok (some label) := by
  cases label with
  | directory name =>
    rw [Label.kind, Label.description, label?, if_pos rfl, String.ofList_toList]
  | file name size lastOpened =>
    have hname : ',' ∉ name.toList := fun hmem => (h ',' hmem).2 rfl
    have hnumber : ∀ n, ',' ∉ (numberText n).toList := fun n hmem =>
      (apart_of_mem_numberText hmem).2 rfl
    -- Neither the name nor the numbers hold a comma, so the description is split where it was
    -- joined.
    have hparts : splitCommas (Label.file name size lastOpened).description =
        [name.toList, (numberText size).toList, (numberText lastOpened).toList] := by
      refine List.splitOn_intercalate ',' ?_ (List.cons_ne_nil _ _)
      simp [hname, hnumber]
    rw [Label.kind, label?, if_neg (by decide), if_pos rfl, hparts]
    dsimp only
    rw [readNumber_numberText, readNumber_numberText, String.ofList_toList]
    rfl

/-- Spaces in front of a label make up its level, and nothing else is in front of it. -/
theorem indent_replicate_append (n : Nat) (label : Label) :
    indent (List.replicate (2 * n) ' ' ++ label.text.toList) = n ∧
      Text.trimStart (List.replicate (2 * n) ' ' ++ label.text.toList) = label.text.toList := by
  have hspaces : ∀ p : Char → Bool, p ' ' = true →
      ∀ c ∈ List.replicate (2 * n) ' ', p c = true := by
    intro p hp c hc
    rwa [List.eq_of_mem_replicate hc]
  -- A label starts with a letter.
  obtain ⟨c, cs, hlabel, hspace, hblank⟩ : ∃ c cs, label.text.toList = c :: cs ∧
      (c == ' ') = false ∧ Text.isBlank c = false := by
    rw [Label.toList_text]
    cases label with
    | directory name => exact ⟨_, _, rfl, by decide, by decide⟩
    | file name size lastOpened => exact ⟨_, _, rfl, by decide, by decide⟩
  rw [hlabel, indent, Text.trimStart, List.takeWhile_append_of_pos (hspaces _ rfl),
    List.dropWhile_append_of_pos (hspaces _ (by decide)),
    List.takeWhile_cons_of_neg (by simp [hspace]), List.dropWhile_cons_of_neg (by simp [hblank])]
  simp

/-- A row is read from the line that it is printed as. -/
theorem read_text (h : row.label.IsWritable) : read row.text.toList = .ok (.row row) := by
  have hkind : ∀ c ∈ row.label.kind, (c != ':') = true := by
    cases row.label <;> simp [Label.kind]
  obtain ⟨hindent, hcontent⟩ := indent_replicate_append row.indent row.label
  rw [read, Row.text, String.toList_append, String.toList_ofList, hindent, hcontent,
    Label.toList_text, List.takeWhile_append_of_pos hkind, List.dropWhile_append_of_pos hkind]
  simp [label?_description h]
  rfl

end Line

/-- A label is written in one line. -/
theorem Label.isLineEnd_of_mem_text {label : Label} (h : label.IsWritable) :
    ∀ c ∈ label.text.toList, Text.isLineEnd c = false := by
  intro c hc
  cases label with
  | directory name =>
    have hkind : ∀ c ∈ "dir:".toList, Text.isLineEnd c = false := by simp [Text.isLineEnd]
    simp only [text, String.toList_append, List.mem_append] at hc
    rcases hc with hc | hc
    · exact hkind c hc
    · exact h c hc
  | file name size lastOpened =>
    have hkind : ∀ c ∈ "file:".toList, Text.isLineEnd c = false := by simp [Text.isLineEnd]
    have hcomma : ∀ c ∈ ",".toList, Text.isLineEnd c = false := by simp [Text.isLineEnd]
    simp only [text, String.toList_append, List.mem_append] at hc
    rcases hc with ((((hc | hc) | hc) | hc) | hc) | hc
    · exact hkind c hc
    · exact (h c hc).1
    · exact hcomma c hc
    · exact (apart_of_mem_numberText hc).1
    · exact hcomma c hc
    · exact (apart_of_mem_numberText hc).1

/-- A row is printed as one line, which is not empty. -/
theorem Row.text_isLine {row : Row} (h : row.label.IsWritable) :
    row.text.toList ≠ [] ∧ ∀ c ∈ row.text.toList, Text.isLineEnd c = false := by
  rw [text, String.toList_append, String.toList_ofList]
  refine ⟨?_, fun c hc => ?_⟩
  · rw [Label.toList_text]
    simp
  · rw [List.mem_append] at hc
    rcases hc with hc | hc
    · rw [List.eq_of_mem_replicate hc]
      decide
    · exact Label.isLineEnd_of_mem_text h c hc

/-! ### Whole listings -/

section Lines

variable {lines : List (List Char)}

/-- Lines that are each ended by a line feed. -/
theorem splitLines_flatMap_newline (h : ∀ line ∈ lines, ∀ c ∈ line, Text.isLineEnd c = false) :
    Text.splitLines (lines.flatMap (· ++ ['\n'])) = lines := by
  induction lines with
  | nil => rfl
  | cons line lines ih =>
    rw [List.flatMap_cons, List.append_assoc, List.singleton_append,
      Text.splitLines_append_newline (h line List.mem_cons_self),
      ih fun l hl => h l (List.mem_cons_of_mem line hl)]

/-- Lines with line feeds between them. None of them is empty, since an empty last one is lost. -/
theorem splitLines_intercalate_newline
    (h : ∀ line ∈ lines, line ≠ [] ∧ ∀ c ∈ line, Text.isLineEnd c = false) :
    Text.splitLines (List.intercalate ['\n'] lines) = lines := by
  induction lines with
  | nil => rfl
  | cons line lines ih =>
    obtain ⟨hne, hline⟩ := h line List.mem_cons_self
    have hlines := ih fun l hl => h l (List.mem_cons_of_mem line hl)
    cases lines with
    | nil =>
      rw [List.intercalate_singleton]
      exact Text.splitLines_of_forall_not hline hne
    | cons next lines =>
      rw [List.intercalate_cons_cons, List.append_assoc, List.singleton_append,
        Text.splitLines_append_newline hline, hlines]

end Lines

/-- Rows are read from the lines that they are printed as. -/
theorem rows_ofLines_text {rows : List Row} (h : ∀ row ∈ rows, row.label.IsWritable) :
    (Reading.ofLines (rows.map fun row => row.text.toList)).rows = .ok rows := by
  induction rows with
  | nil => rfl
  | cons row rows ih =>
    have hrow := Line.read_text (h row List.mem_cons_self)
    have hrows := ih fun r hr => h r (List.mem_cons_of_mem row hr)
    rw [List.map_cons, Reading.ofLines, hrow]
    dsimp only
    rw [hrows]
    rfl

/-- A text is read as the rows that its lines are printed from. -/
theorem parse_of_splitLines {text : String} {forest : List Item}
    (h : ∀ row ∈ Item.outlines 0 forest, row.label.IsWritable)
    (hlines : Text.splitLines text.toList = (printedLines forest).map String.toList) :
    parse text = .ok forest := by
  rw [parse, Reading.ofText, hlines, printedLines, List.map_map]
  simp only [Function.comp_def]
  rw [rows_ofLines_text h, Except.map, forestOfRows_outlines]

/-- Parsing undoes printing. A forest whose names can stand in lines is read back from its lines,
whether they only have line feeds between them or each of them is ended by one. -/
theorem parse_printedLines {forest : List Item}
    (h : ∀ row ∈ Item.outlines 0 forest, row.label.IsWritable) :
    parse ("\n".intercalate (printedLines forest)) = .ok forest ∧
      parse (String.join ((printedLines forest).map (· ++ "\n"))) = .ok forest := by
  have hlines : ∀ line ∈ (printedLines forest).map String.toList,
      line ≠ [] ∧ ∀ c ∈ line, Text.isLineEnd c = false := by
    intro line hline
    simp only [printedLines, List.mem_map] at hline
    obtain ⟨_, ⟨row, hrow, rfl⟩, rfl⟩ := hline
    exact Row.text_isLine (h row hrow)
  refine ⟨parse_of_splitLines h ?_, parse_of_splitLines h ?_⟩
  · have hfeed : "\n".toList = ['\n'] := by simp
    rw [String.toList_intercalate, hfeed, splitLines_intercalate_newline hlines]
  · have htext : (String.join ((printedLines forest).map (· ++ "\n"))).toList =
        ((printedLines forest).map String.toList).flatMap (· ++ ['\n']) := by
      simp [String.toList_join, List.flatMap_map]
    rw [htext, splitLines_flatMap_newline fun line hline => (hlines line hline).2]

/-- A forest of three levels. Names hold colons, commas and blanks or are empty, and numbers are the
least and the greatest one, or are left out. -/
def sampleForest : List Item :=
  [.directory " a:b,c " [.file "" (some Int64.minValue) (some Int64.maxValue), .directory "" [],
      .directory "d" [.file "e:f" none (some 0)]],
    .file "dir:g" none none]

/-- The forest is printed as six lines, and they are read back. -/
theorem parse_printedLines_sample :
    (∀ row ∈ Item.outlines 0 sampleForest, row.label.IsWritable) ∧
      printedLines sampleForest =
        ["dir: a:b,c ", "  file:,-9223372036854775808,9223372036854775807", "  dir:", "  dir:d",
          "    file:e:f,,0", "file:dir:g,,"] ∧
      parse ("\n".intercalate (printedLines sampleForest)) = .ok sampleForest ∧
      parse (String.join ((printedLines sampleForest).map (· ++ "\n"))) = .ok sampleForest := by
  have hwritable : ∀ row ∈ Item.outlines 0 sampleForest, row.label.IsWritable := by
    simp [sampleForest, Label.IsWritable, Text.isLineEnd]
  exact ⟨hwritable, by decide +kernel, parse_printedLines hwritable⟩

end PointerChain.Listing
