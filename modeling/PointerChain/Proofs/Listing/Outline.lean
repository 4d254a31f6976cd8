import PointerChain.Listing.Forest

/-!
# Outlines of forests

A forest, read from top to bottom, is a row of items with their depths: each directory stands in
front of what it holds. Such an outline is a listing in which every row is indented by its depth,
and it determines the forest.

* `Item.outlines` is the outline of a forest, `Item.outlines_injective` says that it determines it.
* `settle` takes the rows of any listing to the depths at which their items are placed.
* `Builder.outline_add` says what one row adds to a forest that is being built,
  `outlines_forestOfRows` is the outline of the forest of a listing.
-/

namespace PointerChain.Listing

namespace Item

mutual

/-- An item at a depth and all that it holds, from top to bottom. -/
def outline (depth : Nat) : Item → List Row
  | directory name children => ⟨depth, .directory name⟩ :: outlines (depth + 1) children
  | file name size lastOpened => [⟨depth, .file name size lastOpened⟩]

/-- Items at a depth and all that they hold, from top to bottom. -/
def outlines (depth : Nat) : List Item → List Row
  | [] => []
  | item :: items => outline depth item ++ outlines depth items

end

/-- A property of forests holds if it goes from what a directory holds, and from what comes behind
an item, to the forest that starts with the item. -/
@[elab_as_elim]
theorem forestInduction {motive : List Item → Prop} (nil : motive [])
    (directory : ∀ name children items, motive children → motive items →
      motive (directory name children :: items))
    (file : ∀ name size lastOpened items, motive items →
      motive (file name size lastOpened :: items)) : ∀ items, motive items
  | [] => nil
  | .directory name children :: items =>
    directory name children items (forestInduction nil directory file children)
      (forestInduction nil directory file items)
  | .file name size lastOpened :: items =>
    file name size lastOpened items (forestInduction nil directory file items)

variable {depth : Nat} {items items' : List Item}

@[simp] theorem outlines_nil : outlines depth [] = [] := rfl

@[simp]
theorem outlines_directory_cons (name : String) (children : List Item) :
    outlines depth (directory name children :: items) =
      ⟨depth, .directory name⟩ :: (outlines (depth + 1) children ++ outlines depth items) := rfl

@[simp]
theorem outlines_file_cons (name : String) (size lastOpened : Option Int64) :
    outlines depth (file name size lastOpened :: items) =
      ⟨depth, .file name size lastOpened⟩ :: outlines depth items := rfl

@[simp]
theorem outlines_append (depth : Nat) (items items' : List Item) :
    outlines depth (items ++ items') = outlines depth items ++ outlines depth items' := by
  induction items with
  | nil => rfl
  | cons item items ih => rw [List.cons_append, outlines, ih, outlines, List.append_assoc]

theorem outlines_singleton (depth : Nat) (item : Item) :
    outlines depth [item] = outline depth item := by
  rw [outlines, outlines_nil, List.append_nil]

/-! ### The outline determines the forest -/

/-- Rows that cannot belong to items of a depth: there are none, or the first one is placed less
deep. -/
def EndsAbove (depth : Nat) (rows : List Row) : Prop :=
  ∀ row, rows.head? = some row → row.indent < depth

/-- Behind the children of a directory comes an item next to the directory, or one further out. -/
theorem EndsAbove.outlines_append {rows : List Row} (h : EndsAbove depth rows)
    (items : List Item) : EndsAbove (depth + 1) (outlines depth items ++ rows) := by
  intro row hrow
  rcases items with _ | ⟨⟨name, children⟩ | ⟨name, size, lastOpened⟩, items⟩
  · exact Nat.lt_succ_of_lt (h row hrow)
  · obtain rfl := Option.some.inj hrow
    exact Nat.lt_succ_self depth
  · obtain rfl := Option.some.inj hrow
    exact Nat.lt_succ_self depth

/-- Where an outline ends can be told from the depths, so what is written determines the forest. -/
theorem eq_of_outlines_append_eq {rows rows' : List Row} (hrows : EndsAbove depth rows)
    (hrows' : EndsAbove depth rows')
    (h : outlines depth items ++ rows = outlines depth items' ++ rows') :
    items = items' ∧ rows = rows' := by
  -- If one outline ended where the other goes on, the row there would have to be at this depth and
  -- above it.
  induction items using forestInduction generalizing depth items' rows rows' with
  | nil =>
    rcases items' with _ | ⟨⟨name, children⟩ | ⟨name, size, lastOpened⟩, items'⟩
    · exact ⟨rfl, h⟩
    · exact absurd (hrows _ (congrArg List.head? h)) (Nat.lt_irrefl depth)
    · exact absurd (hrows _ (congrArg List.head? h)) (Nat.lt_irrefl depth)
  | directory name children items ihChildren ihItems =>
    rcases items' with _ | ⟨⟨name', children'⟩ | ⟨name', size', lastOpened'⟩, items'⟩
    · exact absurd (hrows' _ (congrArg List.head? h.symm)) (Nat.lt_irrefl depth)
    · simp only [outlines_directory_cons, List.cons_append, List.append_assoc, List.cons.injEq,
        Row.mk.injEq, Label.directory.injEq, true_and] at h
      obtain ⟨rfl, hbehind⟩ := h
      obtain ⟨rfl, hnext⟩ :=
        ihChildren (hrows.outlines_append items) (hrows'.outlines_append items') hbehind
      obtain ⟨rfl, hrest⟩ := ihItems hrows hrows' hnext
      exact ⟨rfl, hrest⟩
    · simp at h
  | file name size lastOpened items ih =>
    rcases items' with _ | ⟨⟨name', children'⟩ | ⟨name', size', lastOpened'⟩, items'⟩
    · exact absurd (hrows' _ (congrArg List.head? h.symm)) (Nat.lt_irrefl depth)
    · simp at h
    · simp only [outlines_file_cons, List.cons_append, List.cons.injEq, Row.mk.injEq,
        Label.file.injEq, true_and] at h
      obtain ⟨⟨rfl, rfl, rfl⟩, hnext⟩ := h
      obtain ⟨rfl, hrest⟩ := ih hrows hrows' hnext
      exact ⟨rfl, hrest⟩

/-- Forests with one outline are equal. -/
theorem outlines_injective (h : outlines depth items = outlines depth items') :
    items = items' := by
  have hnil : EndsAbove depth [] := fun row hrow => nomatch hrow
  refine (eq_of_outlines_append_eq hnil hnil ?_).1
  rw [List.append_nil, List.append_nil, h]

end Item

/-! ### Where rows are placed -/

/-- Whether a label is that of a directory. -/
def Label.isDirectory : Label → Bool
  | directory _ => true
  | file .. => false

namespace Row

/-- A row that is placed as deep as it is indented, but not below a limit. -/
def within (limit : Nat) (row : Row) : Row := { row with indent := min row.indent limit }

/-- How deep what comes behind a placed row can be: inside, if it is a directory. -/
def limitBehind (row : Row) : Nat :=
  if row.label.isDirectory then row.indent + 1 else row.indent

end Row

/-- Rows at the depths at which their items are placed, the first one not below a limit. -/
def settle (limit : Nat) : List Row → List Row
  | [] => []
  | row :: rows => row.within limit :: settle (row.within limit).limitBehind rows

namespace Builder

/-- The outline of open directories, innermost first, with the complete items in them. -/
def openOutline : List (String × List Item) → List Row
  | [] => []
  | (name, children) :: parents =>
    openOutline parents ++
      ⟨parents.length, .directory name⟩ :: Item.outlines (parents.length + 1) children.reverse

/-- The outline of a forest that is being built. -/
def outline (b : Builder) : List Row :=
  Item.outlines 0 b.roots.reverse ++ openOutline b.parents

@[simp]
theorem length_parents_attach (b : Builder) (item : Item) :
    (b.attach item).parents.length = b.parents.length := by
  unfold attach
  split
  next h => rw [h]
  next h => rw [h, List.length_cons, List.length_cons]

/-- A complete item comes last, inside the innermost open directory. -/
theorem outline_attach (b : Builder) (item : Item) :
    (b.attach item).outline = b.outline ++ item.outline b.parents.length := by
  obtain ⟨roots, parents⟩ := b
  rcases parents with _ | ⟨⟨name, children⟩, parents⟩
  · simp [attach, outline, openOutline, Item.outlines_singleton]
  · simp [attach, outline, openOutline, Item.outlines_singleton]

/-- Closing a directory moves nothing. -/
theorem outline_closeOne (b : Builder) : b.closeOne.outline = b.outline := by
  obtain ⟨roots, parents⟩ := b
  rcases parents with _ | ⟨⟨name, children⟩, parents⟩
  · rfl
  · rw [closeOne, outline_attach, Item.outline]
    simp [outline, openOutline]

theorem length_parents_closeOne (b : Builder) :
    b.closeOne.parents.length = b.parents.length - 1 := by
  obtain ⟨roots, parents⟩ := b
  rcases parents with _ | ⟨⟨name, children⟩, parents⟩
  · rfl
  · rw [closeOne, length_parents_attach, List.length_cons, Nat.add_sub_cancel]

theorem outline_close (n : Nat) (b : Builder) : (close n b).outline = b.outline := by
  induction n generalizing b with
  | zero => rfl
  | succ n ih => rw [close, ih, outline_closeOne]

theorem length_parents_close (n : Nat) (b : Builder) :
    (close n b).parents.length = b.parents.length - n := by
  induction n generalizing b with
  | zero => rfl
  | succ n ih => rw [close, ih, length_parents_closeOne, Nat.sub_sub, Nat.add_comm]

@[simp]
theorem outline_closeTo (b : Builder) (level : Nat) : (b.closeTo level).outline = b.outline :=
  outline_close _ b

@[simp]
theorem length_parents_closeTo (b : Builder) (level : Nat) :
    (b.closeTo level).parents.length = min level b.parents.length := by
  rw [closeTo, length_parents_close]
  omega

/-- A row comes last, as deep as it is indented but not below the innermost open directory. -/
theorem outline_add (b : Builder) (row : Row) :
    (b.add row).outline = b.outline ++ [row.within b.parents.length] := by
  obtain ⟨indent, name | ⟨name, size, lastOpened⟩⟩ := row
  · rw [← outline_closeTo b indent]
    simp [add, outline, openOutline, Row.within]
  · rw [add, outline_attach, outline_closeTo, length_parents_closeTo]
    rfl

/-- Behind a row, as many directories are open as what follows can be deep. -/
theorem length_parents_add (b : Builder) (row : Row) :
    (b.add row).parents.length = (row.within b.parents.length).limitBehind := by
  obtain ⟨indent, name | ⟨name, size, lastOpened⟩⟩ := row
  · simp [add, Row.within, Row.limitBehind, Label.isDirectory]
  · simp [add, Row.within, Row.limitBehind, Label.isDirectory]

/-- Rows come one behind the other, each as deep as the one in front of it allows. -/
theorem outline_foldl_add (b : Builder) (rows : List Row) :
    (rows.foldl add b).outline = b.outline ++ settle b.parents.length rows := by
  induction rows generalizing b with
  | nil => simp [settle]
  | cons row rows ih =>
    rw [List.foldl_cons, ih, outline_add, length_parents_add, settle, List.append_assoc,
      List.singleton_append]

theorem outlines_finish (b : Builder) : Item.outlines 0 b.finish = b.outline := by
  have hclosed : (b.closeTo 0).parents = [] := by
    rw [← List.length_eq_zero_iff, length_parents_closeTo, Nat.zero_min]
  rw [← outline_closeTo b 0, outline, hclosed]
  exact (List.append_nil _).symm

end Builder

/-- The outline of the forest of a listing consists of its rows, at the depths at which they are
placed. -/
theorem outlines_forestOfRows (rows : List Row) :
    Item.outlines 0 (forestOfRows rows) = settle 0 rows := by
  rw [forestOfRows, Builder.outlines_finish, Builder.outline_foldl_add]
  rfl

end PointerChain.Listing
