import Mathlib.Data.List.TakeWhile
import PointerChain.Proofs.Listing.Field
import PointerChain.Proofs.Outcome

/-!
# What listings describe

Each line of a listing says that there is some item, or it says nothing. The item of a file has the
numbers of its fields, and a field without a number takes nothing else from the listing.

* `Line.Says` relates a line to the item that it names.
* `Describes` relates the lines of a listing to the items of its forest from top to bottom.
* `parse_numbers` says which listings are read, that their forests are what they describe, and that
  the fields of a file make no difference to any other item.
-/

namespace PointerChain.Listing

/-! ### Lines -/

namespace Line

/-- A line that consists of blanks, a kind, a colon and a description. -/
structure Splits (line blanks kind description : List Char) : Prop where
  eq_append : line = blanks ++ (kind ++ ':' :: description)
  isBlank : ∀ c ∈ blanks, Text.isBlank c = true

/-- A line of a file, with a name, a size and a time. -/
structure IsFile (line blanks name size lastOpened : List Char) : Prop extends
    Splits line blanks ['f', 'i', 'l', 'e'] (List.intercalate [','] [name, size, lastOpened]) where
  not_mem : ∀ part ∈ [name, size, lastOpened], ',' ∉ part

/-- The item that a line names. -/
inductive Says : List Char → Label → Prop
  | directory {line blanks name : List Char} (h : Splits line blanks ['d', 'i', 'r'] name) :
      Says line (.directory (String.ofList name))
  | file {line blanks name sizeField lastOpenedField : List Char}
      {size lastOpened : Option Int64} (h : IsFile line blanks name sizeField lastOpenedField)
      (hsize : IsNumberOf sizeField size) (hlastOpened : IsNumberOf lastOpenedField lastOpened) :
      Says line (.file (String.ofList name) size lastOpened)

variable {line blanks kind description name size lastOpened field : List Char} {row : Row}

/-- The content of a line is its kind, the first colon and what is behind the colon. -/
theorem Splits.content (h : Splits line blanks kind description)
    (hkind : kind = ['d', 'i', 'r'] ∨ kind = ['f', 'i', 'l', 'e']) :
    (Text.trimStart line).takeWhile (· != ':') = kind ∧
      (Text.trimStart line).dropWhile (· != ':') = ':' :: description := by
  rw [h.eq_append, Text.trimStart, List.dropWhile_append_of_pos h.isBlank]
  rcases hkind with rfl | rfl
  · exact ⟨rfl, rfl⟩
  · exact ⟨rfl, rfl⟩

/-- A line with a colon in its content splits at the first one. -/
theorem exists_splits {c : Char}
    (h : (Text.trimStart line).dropWhile (· != ':') = c :: description) :
    ∃ blanks, Splits line blanks ((Text.trimStart line).takeWhile (· != ':')) description := by
  have hcolon : c = ':' := by
    have hhead := List.head?_dropWhile_not (· != ':') (Text.trimStart line)
    rw [h] at hhead
    simpa using hhead
  subst hcolon
  -- Both cuts, behind the blanks and in front of the colon, lose nothing.
  refine ⟨line.takeWhile Text.isBlank, ?_, fun c hc => List.mem_takeWhile_imp hc⟩
  rw [← h, List.takeWhile_append_dropWhile, Text.trimStart,
    List.takeWhile_append_dropWhile]

/-! ### Directories -/

/-- The line of a directory is read. -/
theorem Splits.read_directory (h : Splits line blanks ['d', 'i', 'r'] name) :
    read line = .ok (.row ⟨indent line, .directory (String.ofList name)⟩) := by
  obtain ⟨htake, hdrop⟩ := h.content (.inl rfl)
  simp only [read, htake, hdrop]
  rfl

/-! ### Files -/

/-- No part between commas holds a comma. -/
theorem not_mem_of_mem_splitCommas {cs part : List Char} (h : part ∈ splitCommas cs) :
    ',' ∉ part := by
  rw [splitCommas] at h
  induction cs generalizing part with
  | nil =>
    rw [List.splitOn_nil, List.mem_singleton] at h
    simp [h]
  | cons c cs ih =>
    rw [List.splitOn_cons_eq_if_modifyHead] at h
    split at h
    next =>
      rcases List.mem_cons.mp h with rfl | h
      · exact List.not_mem_nil
      · exact ih h
    next hc =>
      -- The first part becomes longer by a character that is no comma.
      obtain ⟨first, others, hparts⟩ := List.exists_cons_of_ne_nil (List.splitOn_ne_nil ',' cs)
      rw [hparts, List.modifyHead_cons] at h
      rw [hparts] at ih
      rcases List.mem_cons.mp h with rfl | h
      · rw [List.mem_cons, not_or]
        exact ⟨fun heq => hc (beq_iff_eq.mpr heq.symm), ih List.mem_cons_self⟩
      · exact ih (List.mem_cons_of_mem first h)

/-- A description with three parts is that of a file. -/
theorem Splits.isFile (h : Splits line blanks ['f', 'i', 'l', 'e'] description)
    (hparts : splitCommas description = [name, size, lastOpened]) :
    IsFile line blanks name size lastOpened := by
  have hdescription : List.intercalate [','] [name, size, lastOpened] = description := by
    rw [← hparts, splitCommas, List.intercalate_splitOn]
  exact ⟨hdescription ▸ h, fun part hpart => not_mem_of_mem_splitCommas (hparts ▸ hpart)⟩

namespace IsFile

theorem splitCommas_eq (h : IsFile line blanks name size lastOpened) :
    splitCommas (List.intercalate [','] [name, size, lastOpened]) = [name, size, lastOpened] :=
  List.splitOn_intercalate ',' h.not_mem (List.cons_ne_nil _ _)

/-- The line of a file is read if its fields are. -/
theorem read_eq (h : IsFile line blanks name size lastOpened) :
    read line = do
      let size ← readNumber size
      let lastOpened ← readNumber lastOpened
      return .row ⟨indent line, .file (String.ofList name) size lastOpened⟩ := by
  obtain ⟨htake, hdrop⟩ := h.content (.inr rfl)
  simp only [read, htake, hdrop, label?, h.splitCommas_eq]
  cases readNumber size with
  | error fault => rfl
  | ok size => cases readNumber lastOpened <;> rfl

theorem numberFields_eq (h : IsFile line blanks name size lastOpened) :
    numberFields line = [size, lastOpened] := by
  obtain ⟨htake, hdrop⟩ := h.content (.inr rfl)
  simp only [numberFields, htake, hdrop, numberFieldsOf, h.splitCommas_eq, if_true]

/-- What is read of the line of a file is its row, with the numbers of both fields. -/
theorem exists_numbers {x : Line} (h : IsFile line blanks name size lastOpened)
    (hread : read line = .ok x) :
    ∃ n m, (¬IsOverlong size ∧ IsNumberOf size n) ∧ (¬IsOverlong lastOpened ∧
      IsNumberOf lastOpened m) ∧ x = .row ⟨indent line, .file (String.ofList name) n m⟩ := by
  rw [h.read_eq] at hread
  obtain ⟨n, hsize, hread⟩ := exists_of_bind_eq_ok hread
  obtain ⟨m, hlastOpened, hread⟩ := exists_of_bind_eq_ok hread
  exact ⟨n, m, readNumber_eq_ok_iff.mp hsize, readNumber_eq_ok_iff.mp hlastOpened,
    (Except.ok.inj hread).symm⟩

/-- The level of a file does not depend on what is behind the blanks. -/
theorem indent_eq (h : IsFile line blanks name size lastOpened) :
    indent line = indent blanks := by
  rw [h.eq_append, indent, indent, List.takeWhile_append]
  -- If there are only spaces in front of the kind, counting them goes on to its first letter.
  split
  next hspaces =>
    have hall : blanks.takeWhile (· == ' ') = blanks :=
      (List.takeWhile_prefix _).eq_of_length hspaces
    simp [hall]
  next => rfl

end IsFile

/-- Only files have fields that should hold numbers. -/
theorem exists_isFile_of_mem_numberFields (h : field ∈ numberFields line) :
    ∃ blanks name size lastOpened, IsFile line blanks name size lastOpened ∧
      (field = size ∨ field = lastOpened) := by
  unfold numberFields at h
  dsimp only at h
  -- Of a line that is not blank the kind comes first, and only a file with three parts has numbers.
  split at h
  next => cases h
  next c description hdrop =>
    obtain ⟨blanks, hsplits⟩ := exists_splits hdrop
    unfold numberFieldsOf at h
    split at h
    next hkind =>
      split at h
      next name size lastOpened hparts =>
        rw [hkind] at hsplits
        exact ⟨blanks, name, size, lastOpened, hsplits.isFile hparts, by simpa using h⟩
      next => cases h
    next => cases h

/-! ### What lines say -/

theorem row?_eq_some_iff_read : row? line = some row ↔ read line = .ok (.row row) := by
  unfold row?
  split
  next r hread => rw [hread, Option.some_inj, Except.ok.injEq, Line.row.injEq]
  next hread => exact ⟨(fun h => nomatch h), fun h => absurd h (hread row)⟩

/-- A description is understood only if it is that of a directory, or that of a file with three
parts. -/
theorem kind_of_label? {label : Label} (h : label? kind description = .ok (some label)) :
    kind = ['d', 'i', 'r'] ∨ kind = ['f', 'i', 'l', 'e'] ∧
      ∃ name size lastOpened, splitCommas description = [name, size, lastOpened] := by
  unfold label? at h
  split at h
  next hkind => exact .inl hkind
  next =>
    split at h
    next hkind =>
      split at h
      next name size lastOpened hparts => exact .inr ⟨hkind, name, size, lastOpened, hparts⟩
      next => cases h
    next => cases h

/-- A line that gives a row is that of a directory or that of a file. -/
theorem splits_or_isFile_of_read (h : read line = .ok (.row row)) :
    (∃ blanks name, Splits line blanks ['d', 'i', 'r'] name) ∨
      ∃ blanks name size lastOpened, IsFile line blanks name size lastOpened := by
  unfold read at h
  dsimp only at h
  split at h
  next => cases h
  next c description hdrop =>
    obtain ⟨blanks, hsplits⟩ := exists_splits hdrop
    obtain ⟨label, hlabel, h⟩ := exists_of_bind_eq_ok h
    cases label with
    | none => cases h
    | some label =>
      rcases kind_of_label? hlabel with hkind | ⟨hkind, name, size, lastOpened, hparts⟩
      · exact .inl ⟨blanks, description, hkind ▸ hsplits⟩
      · rw [hkind] at hsplits
        exact .inr ⟨blanks, name, size, lastOpened, hsplits.isFile hparts⟩

/-- A line without overlong fields gives a row if it names an item, and the row is this item at the
level of the line. -/
theorem row?_eq_some_iff (h : ∀ field ∈ numberFields line, ¬IsOverlong field) :
    row? line = some row ↔ Says line row.label ∧ row.indent = indent line := by
  rw [row?_eq_some_iff_read]
  constructor
  · intro hread
    -- Each kind of line is read in one way only, so the row tells what the line says.
    rcases splits_or_isFile_of_read hread with ⟨blanks, name, hsplits⟩ |
      ⟨blanks, name, size, lastOpened, hfile⟩
    · rw [hsplits.read_directory] at hread
      obtain rfl := Line.row.inj (Except.ok.inj hread)
      exact ⟨.directory hsplits, rfl⟩
    · obtain ⟨n, m, ⟨-, hsize⟩, ⟨-, hlastOpened⟩, hrow⟩ := hfile.exists_numbers hread
      obtain rfl := Line.row.inj hrow
      exact ⟨.file hfile hsize hlastOpened, rfl⟩
  · obtain ⟨level, label⟩ := row
    rintro ⟨hitem, rfl⟩
    cases hitem with
    | directory hsplits => exact hsplits.read_directory
    | file hfile hsize hlastOpened =>
      rw [hfile.numberFields_eq] at h
      rw [hfile.read_eq, readNumber_eq_ok_iff.mpr ⟨h _ (by simp), hsize⟩,
        readNumber_eq_ok_iff.mpr ⟨h _ (by simp), hlastOpened⟩]
      rfl

/-- A line has no overlong fields if it is not that of a file with such fields. -/
theorem forall_numberFields_iff :
    (∀ field ∈ numberFields line, ¬IsOverlong field) ↔ ∀ blanks name size lastOpened,
      IsFile line blanks name size lastOpened → ¬IsOverlong size ∧ ¬IsOverlong lastOpened := by
  constructor
  · intro h blanks name size lastOpened hfile
    rw [hfile.numberFields_eq] at h
    exact ⟨h _ (by simp), h _ (by simp)⟩
  · intro h field hfield
    obtain ⟨blanks, name, size, lastOpened, hfile, rfl | rfl⟩ :=
      exists_isFile_of_mem_numberFields hfield
    · exact (h _ _ _ _ hfile).1
    · exact (h _ _ _ _ hfile).2

/-- A line with an overlong field is not read. -/
theorem not_isOverlong_of_read {x : Line} (h : read line = .ok x) :
    ∀ field ∈ numberFields line, ¬IsOverlong field := by
  rw [forall_numberFields_iff]
  intro blanks name size lastOpened hfile
  obtain ⟨n, m, ⟨hsize, -⟩, ⟨hlastOpened, -⟩, -⟩ := hfile.exists_numbers h
  exact ⟨hsize, hlastOpened⟩

end Line

/-! ### Listings -/

/-- The items that the lines of a listing name, from top to bottom. Lines may name none. -/
inductive Describes : List (List Char) → List Label → Prop
  | nil : Describes [] []
  | skip {line : List Char} {lines : List (List Char)} {labels : List Label}
      (hline : ∀ label, ¬Line.Says line label) (h : Describes lines labels) :
      Describes (line :: lines) labels
  | item {line : List Char} {lines : List (List Char)} {label : Label} {labels : List Label}
      (hline : Line.Says line label) (h : Describes lines labels) :
      Describes (line :: lines) (label :: labels)

/-- Lines without overlong fields describe the rows that they give. -/
theorem describes_rows {lines : List (List Char)}
    (h : ∀ line ∈ lines, ∀ field ∈ Line.numberFields line, ¬IsOverlong field) :
    Describes lines ((lines.filterMap Line.row?).map Row.label) := by
  induction lines with
  | nil => exact .nil
  | cons line lines ih =>
    have hlines := ih fun l hl => h l (List.mem_cons_of_mem line hl)
    have hline := h line List.mem_cons_self
    cases hrow : Line.row? line with
    | none =>
      -- A line that named an item would give the row of this item.
      rw [List.filterMap_cons_none hrow]
      refine .skip (fun label hitem => ?_) hlines
      have hsome : Line.row? line = some ⟨Line.indent line, label⟩ :=
        (Line.row?_eq_some_iff hline).mpr ⟨hitem, rfl⟩
      rw [hrow] at hsome
      cases hsome
    | some row =>
      rw [List.filterMap_cons_some hrow]
      exact .item ((Line.row?_eq_some_iff hline).mp hrow).1 hlines

/-- Lines with overlong fields give no rows. -/
theorem not_isOverlong_of_rows {lines : List (List Char)} {rows : List Row}
    (h : (Reading.ofLines lines).rows = .ok rows) :
    ∀ line ∈ lines, ∀ field ∈ Line.numberFields line, ¬IsOverlong field := by
  induction lines generalizing rows with
  | nil => exact List.forall_mem_nil _
  | cons line lines ih =>
    rw [Reading.ofLines] at h
    cases hline : Line.read line with
    | error fault =>
      rw [hline] at h
      cases h
    | ok x =>
      refine List.forall_mem_cons.mpr ⟨Line.not_isOverlong_of_read hline, ?_⟩
      -- Whatever the line is, there are rows only if the lines behind it give rows.
      rw [hline] at h
      cases x with
      | comment => exact ih h
      | skipped => exact ih h
      | row row =>
        obtain ⟨others, hothers, -⟩ := exists_of_map_eq_ok h
        exact ih hothers

variable {text text' : String}

/-- A text is read if and only if none of its fields is overlong. -/
theorem exists_parse_eq_iff : (∃ forest, parse text = .ok forest) ↔ IsReadable text := by
  constructor
  · rintro ⟨forest, h⟩
    obtain ⟨rows, hrows, -⟩ := exists_of_map_eq_ok h
    exact not_isOverlong_of_rows hrows
  · intro h
    exact ⟨_, parse_eq h⟩

/-! ### One file -/

/-- Rows leave a limit for what comes behind them. -/
theorem exists_settle_append (limit : Nat) (rows : List Row) :
    ∃ limit', ∀ rows', settle limit (rows ++ rows') = settle limit rows ++ settle limit' rows' := by
  induction rows generalizing limit with
  | nil => exact ⟨limit, fun rows' => rfl⟩
  | cons row rows ih =>
    obtain ⟨limit', h⟩ := ih (row.within limit).limitBehind
    refine ⟨limit', fun rows' => ?_⟩
    rw [List.cons_append, settle, h, settle, List.cons_append]

/-- What a file is named and which numbers it has makes no difference to where it and the other
items are placed. -/
theorem exists_outlines_file (rows rows' : List Row) (level : Nat) :
    ∃ above depth below, ∀ name size lastOpened,
      Item.outlines 0 (forestOfRows (rows ++ ⟨level, .file name size lastOpened⟩ :: rows')) =
        above ++ ⟨depth, .file name size lastOpened⟩ :: below := by
  obtain ⟨limit, h⟩ := exists_settle_append 0 rows
  refine ⟨settle 0 rows, min level limit, settle (min level limit) rows',
    fun name size lastOpened => ?_⟩
  rw [outlines_forestOfRows, h]
  rfl

/-- A file without overlong fields has its row among those of the text. -/
theorem rowsOf_eq_append {before after : List (List Char)}
    {line blanks name size lastOpened : List Char} {n m : Option Int64}
    (hlines : Text.splitLines text.toList = before ++ line :: after)
    (hfile : Line.IsFile line blanks name size lastOpened) (hsize : readNumber size = .ok n)
    (hlastOpened : readNumber lastOpened = .ok m) :
    rowsOf text = before.filterMap Line.row? ++
      ⟨Line.indent blanks, .file (String.ofList name) n m⟩ :: after.filterMap Line.row? := by
  have hread : Line.read line =
      .ok (.row ⟨Line.indent blanks, .file (String.ofList name) n m⟩) := by
    rw [hfile.read_eq, hsize, hlastOpened, hfile.indent_eq]
    rfl
  rw [rowsOf, hlines, List.filterMap_append,
    List.filterMap_cons_some (Line.row?_eq_some_iff_read.mpr hread)]

/-- Other fields of one file leave a text without overlong fields, unless they are overlong. -/
theorem IsReadable.other {before after : List (List Char)}
    {line line' blanks name size lastOpened : List Char} (h : IsReadable text)
    (hlines : Text.splitLines text.toList = before ++ line :: after)
    (hlines' : Text.splitLines text'.toList = before ++ line' :: after)
    (hfile : Line.IsFile line' blanks name size lastOpened) (hsize : ¬IsOverlong size)
    (hlastOpened : ¬IsOverlong lastOpened) : IsReadable text' := by
  unfold IsReadable at h ⊢
  rw [hlines, List.forall_mem_append, List.forall_mem_cons] at h
  rw [hlines', List.forall_mem_append, List.forall_mem_cons, hfile.numberFields_eq]
  refine ⟨h.1, ?_, h.2.2⟩
  simp [hsize, hlastOpened]

/-! ### Whole listings -/

/-- A listing is read if and only if none of its numbers is overlong, and its forest is what it
describes. The fields of one file, whatever they hold, decide on the numbers of this file only: with
other fields that are not overlong the listing is read as well, and all other items, their order and
all depths are the same. -/
theorem parse_numbers (text : String) :
    ((∃ forest, parse text = .ok forest) ↔ ∀ line ∈ Text.splitLines text.toList,
      ∀ blanks name size lastOpened, Line.IsFile line blanks name size lastOpened →
        ¬IsOverlong size ∧ ¬IsOverlong lastOpened) ∧
      ∀ forest, parse text = .ok forest →
        Describes (Text.splitLines text.toList) ((Item.outlines 0 forest).map Row.label) ∧
        ∀ (other : String) (before after : List (List Char))
          (line line' blanks name size size' lastOpened lastOpened' : List Char),
          Text.splitLines text.toList = before ++ line :: after →
          Text.splitLines other.toList = before ++ line' :: after →
          Line.IsFile line blanks name size lastOpened →
          Line.IsFile line' blanks name size' lastOpened' →
          ¬IsOverlong size' → ¬IsOverlong lastOpened' →
            ∃ forest' above depth below n m n' m', parse other = .ok forest' ∧
              IsNumberOf size n ∧ IsNumberOf lastOpened m ∧
              IsNumberOf size' n' ∧ IsNumberOf lastOpened' m' ∧
              Item.outlines 0 forest =
                above ++ ⟨depth, .file (String.ofList name) n m⟩ :: below ∧
              Item.outlines 0 forest' =
                above ++ ⟨depth, .file (String.ofList name) n' m'⟩ :: below := by
  refine ⟨exists_parse_eq_iff.trans (forall₂_congr fun line _ => Line.forall_numberFields_iff),
    fun forest hforest => ?_⟩
  have hreadable : IsReadable text := exists_parse_eq_iff.mp ⟨forest, hforest⟩
  obtain rfl : forestOfRows (rowsOf text) = forest :=
    Except.ok.inj ((parse_eq hreadable).symm.trans hforest)
  refine ⟨?_, ?_⟩
  · rw [outlines_forestOfRows, map_label_settle]
    exact describes_rows hreadable
  · intro other before after line line' blanks name size size' lastOpened lastOpened'
      hlines hlines' hfile hfile' hlength hlength'
    have hother := hreadable.other hlines hlines' hfile' hlength hlength'
    -- The text is read, so the fields that the file has there are not overlong either.
    have hfields := hreadable line (by simp [hlines])
    rw [hfile.numberFields_eq] at hfields
    obtain ⟨n, hn, hsize⟩ := exists_readNumber_isNumberOf (hfields size (by simp))
    obtain ⟨m, hm, hlastOpened⟩ := exists_readNumber_isNumberOf (hfields lastOpened (by simp))
    obtain ⟨n', hn', hsize'⟩ := exists_readNumber_isNumberOf hlength
    obtain ⟨m', hm', hlastOpened'⟩ := exists_readNumber_isNumberOf hlength'
    -- Both texts have the same rows in front of the file and behind it.
    obtain ⟨above, depth, below, houtlines⟩ := exists_outlines_file
      (before.filterMap Line.row?) (after.filterMap Line.row?) (Line.indent blanks)
    refine ⟨forestOfRows (rowsOf other), above, depth, below, n, m, n', m', parse_eq hother,
      hsize, hlastOpened, hsize', hlastOpened', ?_, ?_⟩
    · rw [rowsOf_eq_append hlines hfile hn hm, houtlines]
    · rw [rowsOf_eq_append hlines' hfile' hn' hm', houtlines]

/-- A size that does not fit in 64 bits is no number, and the directory keeps its file. -/
theorem parse_numbers_sample :
    ∃ forest forest' above depth below, parse "dir:lib\n  file:a,1,x" = .ok forest ∧
      parse "dir:lib\n  file:a,9223372036854775808,-07" = .ok forest' ∧
      Describes (Text.splitLines "dir:lib\n  file:a,1,x".toList)
        ((Item.outlines 0 forest).map Row.label) ∧
      Item.outlines 0 forest = above ++ ⟨depth, .file "a" (some 1) none⟩ :: below ∧
      Item.outlines 0 forest' = above ++ ⟨depth, .file "a" none (some (-7))⟩ :: below := by
  have hreadable : IsReadable "dir:lib\n  file:a,1,x" := by
    unfold IsReadable
    decide +kernel
  have hblank : ∀ c ∈ [' ', ' '], Text.isBlank c = true := by
    simp [show Text.isBlank ' ' = true by decide]
  have hfile : Line.IsFile "  file:a,1,x".toList [' ', ' '] ['a'] ['1'] ['x'] :=
    ⟨⟨by decide +kernel, hblank⟩, by simp⟩
  have hfile' : Line.IsFile "  file:a,9223372036854775808,-07".toList [' ', ' '] ['a']
      "9223372036854775808".toList "-07".toList := ⟨⟨by decide +kernel, hblank⟩, by simp⟩
  have hone : IsNumberOf ['1'] (some 1) := (readNumber_eq_ok_iff.mp (by decide +kernel)).2
  have hword : IsNumberOf ['x'] none := (readNumber_eq_ok_iff.mp (by decide +kernel)).2
  have hlarge : IsNumberOf "9223372036854775808".toList none :=
    (readNumber_eq_ok_iff.mp (by decide +kernel)).2
  have hminus : IsNumberOf "-07".toList (some (-7)) :=
    (readNumber_eq_ok_iff.mp (by decide +kernel)).2
  obtain ⟨forest, hforest⟩ := (parse_numbers "dir:lib\n  file:a,1,x").1.mpr fun line hline =>
    Line.forall_numberFields_iff.mp (hreadable line hline)
  obtain ⟨hdescribes, hother⟩ := (parse_numbers "dir:lib\n  file:a,1,x").2 forest hforest
  obtain ⟨forest', above, depth, below, n, m, n', m', hforest', hn, hm, hn', hm', hat, hat'⟩ :=
    hother "dir:lib\n  file:a,9223372036854775808,-07" ["dir:lib".toList] [] _ _ _ _ _ _ _ _
      (by decide +kernel) (by decide +kernel) hfile hfile' (by decide +kernel) (by decide +kernel)
  -- A field has one number at most, so the numbers are those that were found above.
  obtain rfl := hn.unique hone
  obtain rfl := hm.unique hword
  obtain rfl := hn'.unique hlarge
  obtain rfl := hm'.unique hminus
  exact ⟨forest, forest', above, depth, below, hforest, hforest', hdescribes, hat, hat'⟩

/-- The line of a file whose size is written with so many zeros and one more. -/
def zerosLine (k : Nat) : List Char :=
  ['f', 'i', 'l', 'e', ':', 'a', ','] ++ (List.replicate (k + 1) '0' ++ [',', '1'])

theorem isFile_zerosLine (k : Nat) :
    Line.IsFile (zerosLine k) [] ['a'] (List.replicate (k + 1) '0') ['1'] := by
  refine ⟨⟨?_, List.forall_mem_nil _⟩, ?_⟩
  · simp [zerosLine]
  · simp

theorem splitLines_zerosLine (k : Nat) : Text.splitLines (zerosLine k) = [zerosLine k] := by
  refine Text.splitLines_of_forall_not (fun c hc => ?_) (List.cons_ne_nil _ _)
  have hends : ∀ c ∈ ['f', 'i', 'l', 'e', ':', 'a', ',', '0', '1'], Text.isLineEnd c = false := by
    simp [Text.isLineEnd]
  simp only [zerosLine, List.mem_append, List.mem_replicate] at hc
  refine hends c ?_
  rcases hc with hc | ⟨-, rfl⟩ | hc
  · exact List.mem_append_left ['0', '1'] hc
  · simp
  · have hsub : [',', '1'] ⊆ ['f', 'i', 'l', 'e', ':', 'a', ',', '0', '1'] := by simp
    exact hsub hc

/-- However many zeros there are, the size is zero, but leading zeros count as digits. -/
theorem parse_zerosLine {k : Nat} (h : Text.maxDigits ≤ k) :
    Describes (Text.splitLines (zerosLine k)) [.file "a" (some 0) (some 1)] ∧
      parse (String.ofList (zerosLine k)) = .error ⟨k + 1⟩ := by
  have hlines := splitLines_zerosLine k
  have hfile := isFile_zerosLine k
  have hone : IsNumberOf ['1'] (some 1) := (readNumber_eq_ok_iff.mp (by decide +kernel)).2
  rw [hlines]
  refine ⟨.item (.file hfile (isNumberOf_replicate_zero k) hone) .nil, ?_⟩
  rw [parse, Reading.ofText, String.toList_ofList, hlines, Reading.ofLines, hfile.read_eq,
    readNumber_replicate_zero h]
  rfl

/-- A size of zero with one digit more than are read is a number, but the listing is not read. -/
theorem parse_numbers_overlong :
    Describes (Text.splitLines (zerosLine 4300)) [.file "a" (some 0) (some 1)] ∧
      parse (String.ofList (zerosLine 4300)) = .error ⟨4301⟩ :=
  parse_zerosLine (Nat.le_refl Text.maxDigits)

end PointerChain.Listing
