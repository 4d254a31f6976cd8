import PointerChain.Proofs.Listing.Reading

/-!
# Which directory holds an item

Items are told apart by their places: the rows of a listing are the items of its forest from top to
bottom. An item is held by the nearest directory in front of it that is still open there, and a
directory stays open as long as all that follows is indented deeper than the directory is placed.
Where directories are placed as deep as they are indented, this goes by indentation alone.

* `Item.holdersOf` lists, for each item of a forest, the place of the directory that holds it.
* `Encloses` says which directories are open at a row, `IsHolder` which one of them is the nearest.
* `holdersOf_parse` finds the holders of the items of a listing.
-/

namespace PointerChain.Listing

/-! ### Holders in a forest -/

namespace Item

mutual

/-- The places of the directories that hold an item and all that is in it, from top to bottom, given
the place of the item and that of the directory around it. -/
def holders (holder : Option Nat) (place : Nat) : Item → List (Option Nat)
  | directory _ children => holder :: holdersOf (some place) (place + 1) children
  | file .. => [holder]

/-- The places of the directories that hold the items of a forest and all that is in them, from top
to bottom. -/
def holdersOf (holder : Option Nat) (place : Nat) : List Item → List (Option Nat)
  | [] => []
  | item :: items =>
    let first := holders holder place item
    first ++ holdersOf holder (place + first.length) items

end

variable {depth place : Nat} {holder : Option Nat} {items : List Item}

theorem holdersOf_directory_cons (name : String) (children : List Item) :
    holdersOf holder place (directory name children :: items) =
      holder :: (holdersOf (some place) (place + 1) children ++
        holdersOf holder (place + ((holdersOf (some place) (place + 1) children).length + 1))
          items) := rfl

theorem holdersOf_file_cons (name : String) (size lastOpened : Option Int64) :
    holdersOf holder place (file name size lastOpened :: items) =
      holder :: holdersOf holder (place + 1) items := rfl

end Item

/-- The place of the last one of some rows that is less deep than a depth; the rows are listed the
last one first. -/
def lastAbove (depth : Nat) : List Row → Option Nat
  | [] => none
  | row :: earlier => if row.indent < depth then some earlier.length else lastAbove depth earlier

/-- For each row the place of the last row in front of it that is less deep, when rows in front of
all of them are listed, the last one first. -/
def lastAboves (earlier : List Row) : List Row → List (Option Nat)
  | [] => []
  | row :: rows => lastAbove row.indent earlier :: lastAboves (row :: earlier) rows

@[simp]
theorem length_lastAboves (earlier rows : List Row) :
    (lastAboves earlier rows).length = rows.length := by
  induction rows generalizing earlier with
  | nil => rfl
  | cons row rows ih => rw [lastAboves, List.length_cons, ih, List.length_cons]

theorem lastAboves_append (earlier rows rows' : List Row) :
    lastAboves earlier (rows ++ rows') =
      lastAboves earlier rows ++ lastAboves (rows.reverse ++ earlier) rows' := by
  induction rows generalizing earlier with
  | nil => rfl
  | cons row rows ih =>
    rw [List.cons_append, lastAboves, ih, lastAboves, List.cons_append, List.reverse_cons,
      List.append_assoc, List.singleton_append]

/-- Rows that are as deep or deeper are passed over. -/
theorem lastAbove_append_of_le {depth : Nat} {rows : List Row}
    (h : ∀ row ∈ rows, depth ≤ row.indent) (earlier : List Row) :
    lastAbove depth (rows ++ earlier) = lastAbove depth earlier := by
  induction rows with
  | nil => rfl
  | cons row rows ih =>
    rw [List.cons_append, lastAbove, if_neg (Nat.not_lt.mpr (h row List.mem_cons_self)),
      ih fun r hr => h r (List.mem_cons_of_mem row hr)]

namespace Item

variable {depth : Nat} {items : List Item}

theorem le_indent_of_mem_outlines {row : Row} (h : row ∈ outlines depth items) :
    depth ≤ row.indent := by
  induction items using forestInduction generalizing depth with
  | nil => cases h
  | directory name children items ihChildren ihItems =>
    rw [outlines_directory_cons, List.mem_cons, List.mem_append] at h
    rcases h with rfl | h | h
    · exact Nat.le_refl depth
    · exact Nat.le_of_succ_le (ihChildren h)
    · exact ihItems h
  | file name size lastOpened items ih =>
    rw [outlines_file_cons, List.mem_cons] at h
    rcases h with rfl | h
    · exact Nat.le_refl depth
    · exact ih h

/-- The holder of an item is the last one in front of it that is less deep. -/
theorem holdersOf_eq_lastAboves (earlier : List Row) :
    holdersOf (lastAbove depth earlier) earlier.length items =
      lastAboves earlier (outlines depth items) := by
  induction items using forestInduction generalizing depth earlier with
  | nil => rfl
  | directory name children items ihChildren ihItems =>
    have hinside := @ihChildren (depth + 1) (⟨depth, .directory name⟩ :: earlier)
    rw [lastAbove, if_pos (Nat.lt_succ_self depth), List.length_cons] at hinside
    -- Neither the directory nor what it holds is less deep than what comes behind it, so the
    -- holder is still the same there.
    have hholder : lastAbove depth ((outlines (depth + 1) children).reverse ++
        ⟨depth, .directory name⟩ :: earlier) = lastAbove depth earlier := by
      have hdeep : ∀ row ∈ (outlines (depth + 1) children).reverse, depth ≤ row.indent := by
        intro row hrow
        exact Nat.le_of_succ_le (le_indent_of_mem_outlines (List.mem_reverse.mp hrow))
      rw [lastAbove_append_of_le hdeep, lastAbove, if_neg (Nat.lt_irrefl depth)]
    have hplace : ((outlines (depth + 1) children).reverse ++
        ⟨depth, .directory name⟩ :: earlier).length =
          earlier.length + ((outlines (depth + 1) children).length + 1) := by
      simp only [List.length_append, List.length_reverse, List.length_cons]
      omega
    have hbehind := @ihItems depth ((outlines (depth + 1) children).reverse ++
      ⟨depth, .directory name⟩ :: earlier)
    rw [hholder, hplace] at hbehind
    rw [holdersOf_directory_cons, hinside, length_lastAboves, hbehind, outlines_directory_cons,
      lastAboves, lastAboves_append]
  | file name size lastOpened items ih =>
    have hbehind := @ih depth (⟨depth, .file name size lastOpened⟩ :: earlier)
    rw [lastAbove, if_neg (Nat.lt_irrefl depth), List.length_cons] at hbehind
    rw [holdersOf_file_cons, outlines_file_cons, lastAboves, hbehind]

end Item

/-! ### Open directories -/

/-- The indent of the row at a place. -/
def indentAt (rows : List Row) (k : Nat) : Nat := (rows[k]?.map Row.indent).getD 0

/-- The depth at which the row at a place is put. -/
def depthAt (rows : List Row) (k : Nat) : Nat := indentAt (settle 0 rows) k

/-- A directory in front of a row is still open there: the row itself and all rows between them are
indented deeper than the measure of the directory. -/
structure Encloses (measure : Nat → Nat) (rows : List Row) (j k : Nat) : Prop where
  lt : j < k
  isDirectory : ∃ row, rows[j]? = some row ∧ row.label.isDirectory = true
  measure_lt : ∀ m, j < m → m ≤ k → measure j < indentAt rows m

/-- The nearest directory that is still open at a row, or that there is none. -/
def IsHolder (measure : Nat → Nat) (rows : List Row) (k : Nat) : Option Nat → Prop
  | some j => Encloses measure rows j k ∧ ∀ j', Encloses measure rows j' k → j' ≤ j
  | none => ∀ j, ¬Encloses measure rows j k

variable {rows : List Row} {j k : Nat}

theorem indentAt_of_getElem? {row : Row} (h : rows[k]? = some row) :
    indentAt rows k = row.indent := by
  rw [indentAt, h]
  rfl

theorem depthAt_of_getElem? {placed : Row} (h : (settle 0 rows)[k]? = some placed) :
    depthAt rows k = placed.indent :=
  indentAt_of_getElem? h

theorem getElem?_lastAboves (earlier rows : List Row) (k : Nat) :
    (lastAboves earlier rows)[k]? =
      rows[k]?.map fun row => lastAbove row.indent ((rows.take k).reverse ++ earlier) := by
  induction rows generalizing earlier k with
  | nil => rfl
  | cons row rows ih =>
    cases k with
    | zero => rfl
    | succ k =>
      rw [lastAboves, List.getElem?_cons_succ, ih, List.getElem?_cons_succ, List.take_succ_cons,
        List.reverse_cons, List.append_assoc, List.singleton_append]

/-- What `lastAbove` finds among the first rows of a list: the last place that is less deep, if
there is one. -/
theorem lastAbove_take (depth : Nat) (hk : k ≤ rows.length) :
    (∀ j, lastAbove depth (rows.take k).reverse = some j →
      j < k ∧ indentAt rows j < depth ∧ ∀ m, j < m → m < k → depth ≤ indentAt rows m) ∧
    (lastAbove depth (rows.take k).reverse = none → ∀ m < k, depth ≤ indentAt rows m) := by
  -- The rows are looked at from the last one on, so the induction adds a row at the end.
  induction k with
  | zero => simp [lastAbove]
  | succ k ih =>
    obtain ⟨hsome, hnone⟩ := ih (Nat.le_of_succ_le hk)
    have hrow : rows[k]? = some rows[k] := List.getElem?_eq_getElem hk
    have hindent : indentAt rows k = rows[k].indent := indentAt_of_getElem? hrow
    have htake : (rows.take (k + 1)).reverse = rows[k] :: (rows.take k).reverse := by
      rw [List.take_add_one, hrow, Option.toList_some, List.reverse_append]
      rfl
    rw [htake, lastAbove]
    split
    next hlt =>
      refine ⟨fun j hj => ?_, fun hnone => nomatch hnone⟩
      have hjk : j = k := by
        rw [← Option.some.inj hj, List.length_reverse, List.length_take]
        omega
      subst hjk
      exact ⟨Nat.lt_succ_self j, by omega, fun m _ _ => by omega⟩
    next hle =>
      refine ⟨fun j hj => ?_, fun hfound m hm => ?_⟩
      · obtain ⟨hjk, hj, hbetween⟩ := hsome j hj
        refine ⟨by omega, hj, fun m hjm hm => ?_⟩
        by_cases hmk : m = k
        · subst hmk
          omega
        · exact hbetween m hjm (by omega)
      · by_cases hmk : m = k
        · subst hmk
          omega
        · exact hnone hfound m (by omega)

/-! ### Depths and open directories -/

theorem length_settle (limit : Nat) (rows : List Row) :
    (settle limit rows).length = rows.length := by
  rw [← List.length_map (f := Row.label), map_label_settle, List.length_map]

/-- A row behind another one is as deep as it is indented, within the limit that the other one
leaves. -/
theorem depthAt_succ (hk : k + 1 < rows.length) :
    ∃ row, rows[k]? = some row ∧
      depthAt rows (k + 1) = min (indentAt rows (k + 1))
        (if row.label.isDirectory then depthAt rows k + 1
          else depthAt rows k) := by
  have hsettled : k < (settle 0 rows).length := by
    rw [length_settle]
    omega
  have hplaced : (settle 0 rows)[k]? = some (settle 0 rows)[k] := List.getElem?_eq_getElem hsettled
  have hrow : rows[k]? = some rows[k] := List.getElem?_eq_getElem (Nat.lt_of_succ_lt hk)
  have hnext : rows[k + 1]? = some rows[k + 1] := List.getElem?_eq_getElem hk
  -- Settling a row moves it to another level and leaves its label.
  have hlabel : (settle 0 rows)[k].label = rows[k].label := by
    have hlabels := congrArg (·[k]?) (map_label_settle 0 rows)
    rw [List.getElem?_map, List.getElem?_map, hplaced, hrow] at hlabels
    exact Option.some.inj hlabels
  have hsucc := getElem?_settle_succ hplaced
  rw [hnext] at hsucc
  refine ⟨rows[k], hrow, ?_⟩
  rw [depthAt_of_getElem? hsucc, indentAt_of_getElem? hnext, depthAt_of_getElem? hplaced,
    Row.within, Row.limitBehind, hlabel]

theorem depthAt_le (hk : k < rows.length) :
    depthAt rows k ≤ indentAt rows k := by
  cases k with
  | zero =>
    have hzero := getElem?_settle_zero 0 rows
    rw [List.getElem?_eq_getElem hk] at hzero
    rw [depthAt_of_getElem? hzero, Row.within, Nat.min_zero]
    exact Nat.zero_le _
  | succ k =>
    obtain ⟨row, -, hdepth⟩ := depthAt_succ hk
    rw [hdepth]
    exact Nat.min_le_left _ _

/-- What comes behind an open directory is deeper than the directory. -/
theorem Encloses.depthAt_lt (h : Encloses (depthAt rows) rows j k)
    (hk : k < rows.length) : depthAt rows j < depthAt rows k := by
  obtain ⟨hlt, ⟨directory, hdirectory, hisDirectory⟩, hmeasure⟩ := h
  -- By induction on the distance; the directory itself opens the first level.
  induction k with
  | zero => cases hlt
  | succ k ih =>
    obtain ⟨row, hrow, hdepth⟩ := depthAt_succ hk
    have hindent := hmeasure (k + 1) hlt (Nat.le_refl _)
    by_cases hjk : j = k
    · subst hjk
      obtain rfl := Option.some.inj (hrow.symm.trans hdirectory)
      rw [if_pos hisDirectory] at hdepth
      omega
    · have hbefore := ih (Nat.lt_of_succ_lt hk) (by omega)
        fun m hjm hmk => hmeasure m hjm (Nat.le_succ_of_le hmk)
      split at hdepth <;> omega

/-- The last item in front of another one that is less deep is an open directory. -/
theorem encloses_of_depthAt (hk : k < rows.length) (hjk : j < k)
    (hlt : depthAt rows j < depthAt rows k)
    (hbetween : ∀ m, j < m → m < k → depthAt rows k ≤ depthAt rows m) :
    Encloses (depthAt rows) rows j k := by
  have hdeeper : ∀ m, j < m → m ≤ k → depthAt rows j < depthAt rows m := by
    intro m hjm hmk
    by_cases hm : m = k
    · rwa [hm]
    · have := hbetween m hjm (by omega)
      omega
  refine ⟨hjk, ?_, fun m hjm hmk => ?_⟩
  · -- Only a directory is followed by something deeper.
    have hnear : j + 1 < rows.length := by omega
    obtain ⟨row, hrow, hdepth⟩ := depthAt_succ hnear
    have hnext := hdeeper (j + 1) (Nat.lt_succ_self j) hjk
    refine ⟨row, hrow, Decidable.byContradiction fun hfile => ?_⟩
    rw [if_neg hfile] at hdepth
    omega
  · exact Nat.lt_of_lt_of_le (hdeeper m hjm hmk) (depthAt_le (by omega))

/-- The last item in front that is less deep is the nearest open directory. -/
theorem isHolder_lastAbove (hk : k < rows.length) :
    IsHolder (depthAt rows) rows k
      (lastAbove (depthAt rows k) ((settle 0 rows).take k).reverse) := by
  have hlength : k ≤ (settle 0 rows).length := by
    rw [length_settle]
    omega
  have hsome : ∀ j, lastAbove (depthAt rows k) ((settle 0 rows).take k).reverse = some j →
      j < k ∧ depthAt rows j < depthAt rows k ∧
        ∀ m, j < m → m < k → depthAt rows k ≤ depthAt rows m := (lastAbove_take _ hlength).1
  have hnone : lastAbove (depthAt rows k) ((settle 0 rows).take k).reverse = none →
      ∀ m < k, depthAt rows k ≤ depthAt rows m := (lastAbove_take _ hlength).2
  cases hlast : lastAbove (depthAt rows k) ((settle 0 rows).take k).reverse with
  | some j =>
    obtain ⟨hjk, hlt, hbetween⟩ := hsome j hlast
    -- Another directory around the row would be less deep, and nothing behind this place is.
    refine ⟨encloses_of_depthAt hk hjk hlt hbetween, fun j' hj' =>
      Nat.le_of_not_lt fun hlater => ?_⟩
    have hdeep := hbetween j' hlater hj'.lt
    have hless := hj'.depthAt_lt hk
    omega
  | none =>
    intro j hj
    have hdeep := hnone hlast j hj.lt
    have hless := hj.depthAt_lt hk
    omega

/-! ### Indentation -/

/-- All directories in front of a place are put as deep as they are indented. -/
def TidyBefore (rows : List Row) (k : Nat) : Prop :=
  ∀ j < k, ∀ row, rows[j]? = some row → row.label.isDirectory = true →
    depthAt rows j = indentAt rows j

theorem TidyBefore.encloses_iff (h : TidyBefore rows k) :
    Encloses (indentAt rows) rows j k ↔ Encloses (depthAt rows) rows j k := by
  constructor
  · rintro ⟨hjk, ⟨row, hrow, hdirectory⟩, hmeasure⟩
    refine ⟨hjk, ⟨row, hrow, hdirectory⟩, ?_⟩
    rwa [h j hjk row hrow hdirectory]
  · rintro ⟨hjk, ⟨row, hrow, hdirectory⟩, hmeasure⟩
    refine ⟨hjk, ⟨row, hrow, hdirectory⟩, ?_⟩
    rwa [← h j hjk row hrow hdirectory]

/-- Holders are determined by the directories that are open. -/
theorem IsHolder.congr {measure measure' : Nat → Nat} {holder : Option Nat} {k' : Nat}
    (h : IsHolder measure rows k holder)
    (hiff : ∀ j, Encloses measure' rows j k' ↔ Encloses measure rows j k) :
    IsHolder measure' rows k' holder := by
  cases holder with
  | some j => exact ⟨(hiff j).mpr h.1, fun j' hj' => h.2 j' ((hiff j').mp hj')⟩
  | none => exact fun j hj => h j ((hiff j).mp hj)

theorem IsHolder.unique {measure : Nat → Nat} {holder holder' : Option Nat}
    (h : IsHolder measure rows k holder) (h' : IsHolder measure rows k holder') :
    holder = holder' := by
  cases holder with
  | some j =>
    cases holder' with
    | some j' => exact congrArg some (Nat.le_antisymm (h'.2 j h.1) (h.2 j' h'.1))
    | none => exact absurd h.1 (h' j)
  | none =>
    cases holder' with
    | some j' => exact absurd h'.1 (h j')
    | none => rfl

/-- The same directories are open at two rows of one indent, if nothing between them is indented
less. -/
theorem encloses_iff_of_indentAt_eq {k' : Nat} (hkk' : k < k')
    (hindent : indentAt rows k = indentAt rows k')
    (hbetween : ∀ m, k < m → m < k' → indentAt rows k ≤ indentAt rows m) :
    Encloses (indentAt rows) rows j k' ↔ Encloses (indentAt rows) rows j k := by
  constructor
  · rintro ⟨hjk', hdirectory, hmeasure⟩
    -- A directory from the first row on is not indented less than the second one.
    have hjk : j < k := by
      refine Nat.lt_of_not_le fun hkj => ?_
      have hlast := hmeasure k' hjk' (Nat.le_refl k')
      by_cases hjk : j = k
      · subst hjk
        omega
      · have hj := hbetween j (by omega) hjk'
        omega
    exact ⟨hjk, hdirectory, fun m hjm hmk => hmeasure m hjm (by omega)⟩
  · rintro ⟨hjk, hdirectory, hmeasure⟩
    have hfirst := hmeasure k hjk (Nat.le_refl k)
    refine ⟨Nat.lt_trans hjk hkk', hdirectory, fun m hjm hmk' => ?_⟩
    by_cases hmk : m ≤ k
    · exact hmeasure m hjm hmk
    · by_cases hlast : m = k'
      · subst hlast
        omega
      · have hm := hbetween m (by omega) (by omega)
        omega

/-! ### Whole listings -/

/-- The holder of the item at a place is the nearest directory that is still open there, going by
the depths of directories. -/
theorem exists_getElem?_holdersOf (hk : k < rows.length) :
    ∃ holder, (Item.holdersOf none 0 (forestOfRows rows))[k]? = some holder ∧
      IsHolder (depthAt rows) rows k holder := by
  have hsettled : k < (settle 0 rows).length := by rwa [length_settle]
  have hholders : Item.holdersOf none 0 (forestOfRows rows) = lastAboves [] (settle 0 rows) := by
    rw [← outlines_forestOfRows]
    exact Item.holdersOf_eq_lastAboves []
  have hplaced : (settle 0 rows)[k]? = some (settle 0 rows)[k] := List.getElem?_eq_getElem hsettled
  have hdepth : depthAt rows k = (settle 0 rows)[k].indent := depthAt_of_getElem? hplaced
  refine ⟨_, ?_, isHolder_lastAbove hk⟩
  rw [hholders, getElem?_lastAboves, hplaced, hdepth, List.append_nil]
  rfl

/-- The items of a listing, from top to bottom, are held as follows.

* The holder of an item is the nearest directory in front of it that is less deep than all rows
  behind it, up to the row of the item, are indented; without such a directory, the item is not
  inside of anything.
* If the directories in front are as deep as they are indented, it is the nearest directory in front
  that is indented less than all rows behind it, up to the row of the item.
* In this case, two items of the same indent with nothing between them that is indented less have
  the same holder. -/
theorem holdersOf_parse {text : String} (h : IsReadable text) :
    ∃ forest, parse text = .ok forest ∧
      (Item.outlines 0 forest).map Row.label = (rowsOf text).map Row.label ∧
      (∀ k < (rowsOf text).length, ∃ holder,
        (Item.holdersOf none 0 forest)[k]? = some holder ∧
          IsHolder (depthAt (rowsOf text)) (rowsOf text) k holder ∧
          (TidyBefore (rowsOf text) k →
            IsHolder (indentAt (rowsOf text)) (rowsOf text) k holder)) ∧
      ∀ k k', k < k' → k' < (rowsOf text).length → TidyBefore (rowsOf text) k' →
        indentAt (rowsOf text) k = indentAt (rowsOf text) k' →
        (∀ m, k < m → m < k' → indentAt (rowsOf text) k ≤ indentAt (rowsOf text) m) →
          (Item.holdersOf none 0 forest)[k]? = (Item.holdersOf none 0 forest)[k']? := by
  refine ⟨forestOfRows (rowsOf text), parse_eq h, ?_, fun k hk => ?_,
    fun k k' hkk' hk' htidy hindent hbetween => ?_⟩
  · rw [outlines_forestOfRows, map_label_settle]
  · obtain ⟨holder, hholder, hopen⟩ := exists_getElem?_holdersOf hk
    exact ⟨holder, hholder, hopen, fun htidy => hopen.congr fun j => htidy.encloses_iff⟩
  · obtain ⟨holder, hholder, hopen⟩ := exists_getElem?_holdersOf (Nat.lt_trans hkk' hk')
    obtain ⟨holder', hholder', hopen'⟩ := exists_getElem?_holdersOf hk'
    have htidy' : TidyBefore (rowsOf text) k := fun j hj => htidy j (Nat.lt_trans hj hkk')
    have hindented : IsHolder (indentAt (rowsOf text)) (rowsOf text) k' holder' :=
      hopen'.congr fun j => htidy.encloses_iff
    -- Going by indents, the same directories are open at both.
    have hsame : IsHolder (indentAt (rowsOf text)) (rowsOf text) k' holder :=
      hopen.congr fun j =>
        (encloses_iff_of_indentAt_eq hkk' hindent hbetween).trans htidy'.encloses_iff
    rw [hholder, hholder', hsame.unique hindented]

/-- A tidy listing but for one file, which is indented too deep. -/
def tidyListing : String := "dir:lib\n  dir:arm\n        file:a,1,2\n  file:b,3,4"

/-- In a tidy listing, indentation alone says which items are siblings. -/
theorem holdersOf_parse_tidy :
    IsReadable tidyListing ∧ TidyBefore (rowsOf tidyListing) 3 ∧
      ∃ forest, parse tidyListing = .ok forest ∧
        (Item.holdersOf none 0 forest)[1]? = (Item.holdersOf none 0 forest)[3]? := by
  have hreadable : IsReadable tidyListing := by
    unfold IsReadable
    decide +kernel
  have hrows : rowsOf tidyListing =
      [⟨0, .directory "lib"⟩, ⟨1, .directory "arm"⟩, ⟨4, .file "a" (some 1) (some 2)⟩,
        ⟨1, .file "b" (some 3) (some 4)⟩] := by decide +kernel
  have htidy : TidyBefore (rowsOf tidyListing) 3 := by
    rw [hrows]
    intro j hj row hrow hdirectory
    have hj : j = 0 ∨ j = 1 ∨ j = 2 := by omega
    rcases hj with rfl | rfl | rfl
    · rfl
    · rfl
    · obtain rfl := Option.some.inj hrow
      cases hdirectory
  obtain ⟨forest, hforest, -, -, hsiblings⟩ := holdersOf_parse hreadable
  refine ⟨hreadable, htidy, forest, hforest, ?_⟩
  refine hsiblings 1 3 (by decide) (by rw [hrows]; decide) htidy (by rw [hrows]; rfl) ?_
  rw [hrows]
  intro m hm hm'
  obtain rfl : m = 2 := by omega
  decide

/-- A directory that is indented although nothing is around it. -/
def skewedListing : String := "  dir:a\n  file:b,1,2"

/-- Where a directory is indented deeper than it is put, items that follow at the same indent do not
become its siblings but go into it. -/
theorem holdersOf_parse_skewed :
    rowsOf skewedListing = [⟨1, .directory "a"⟩, ⟨1, .file "b" (some 1) (some 2)⟩] ∧
      IsHolder (indentAt (rowsOf skewedListing)) (rowsOf skewedListing) 1 none ∧
      ∃ forest, parse skewedListing = .ok forest ∧
        Item.holdersOf none 0 forest = [none, some 0] := by
  have hrows : rowsOf skewedListing =
      [⟨1, .directory "a"⟩, ⟨1, .file "b" (some 1) (some 2)⟩] := by decide +kernel
  have hreadable : IsReadable skewedListing := by
    unfold IsReadable
    decide +kernel
  have hforest : parse skewedListing = .ok [.directory "a" [.file "b" (some 1) (some 2)]] := by
    rw [parse_eq hreadable, hrows]
    rfl
  refine ⟨hrows, ?_, _, hforest, rfl⟩
  rw [hrows]
  rintro j ⟨hj, -, hmeasure⟩
  obtain rfl : j = 0 := by omega
  exact absurd (hmeasure 1 (by decide) (Nat.le_refl 1)) (by decide)

end PointerChain.Listing
