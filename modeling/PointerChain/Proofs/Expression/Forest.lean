import PointerChain.Expression.Bracket
import PointerChain.Text.WordChar

/-!
# Balanced expressions as forests

An expression whose brackets balance reads in exactly one way as a row of characters and groups,
where the body of a group is such a row again.

* `Forest` is such a row, `Forest.chars` writes it down.
* `Forest.chars_injective` says that what is written determines the forest.
* `Forest.bracketFault?_chars_append` says that the bracket check passes over a forest.
* `Forest.groups` lists the groups of a forest by their closing brackets, from left to right, and
  `Forest.Worded` says that each of them holds a word character.
-/

namespace PointerChain

/-- A balanced expression, from left to right. -/
inductive Forest where
  /-- The end of the expression. -/
  | nil
  /-- A character that is no bracket, and what follows it. -/
  | text (c : Char) (plain : c ≠ '[' ∧ c ≠ ']') (rest : Forest)
  /-- What stands between an opening bracket and the one that closes it, and what follows. -/
  | group (body rest : Forest)

namespace Forest

/-- The characters of a balanced expression. -/
def chars : Forest → List Char
  | nil => []
  | text c _ rest => c :: rest.chars
  | group body rest => '[' :: (body.chars ++ ']' :: rest.chars)

/-- A balanced expression, written down. -/
def expression (f : Forest) : String := String.ofList f.chars

@[simp] theorem chars_nil : nil.chars = [] := rfl

@[simp]
theorem chars_text (c : Char) (plain : c ≠ '[' ∧ c ≠ ']') (rest : Forest) :
    (text c plain rest).chars = c :: rest.chars := rfl

@[simp]
theorem chars_group (body rest : Forest) :
    (group body rest).chars = '[' :: (body.chars ++ ']' :: rest.chars) := rfl

@[simp]
theorem toList_expression (f : Forest) : f.expression.toList = f.chars :=
  String.toList_ofList

/-! ### Building forests -/

/-- A text without brackets. -/
def plain : (cs : List Char) → (∀ c ∈ cs, c ≠ '[' ∧ c ≠ ']') → Forest
  | [], _ => nil
  | c :: cs, h => text c (h c List.mem_cons_self) (plain cs fun d hd => h d (.tail c hd))

@[simp]
theorem chars_plain (cs : List Char) (h : ∀ c ∈ cs, c ≠ '[' ∧ c ≠ ']') :
    (plain cs h).chars = cs := by
  induction cs with
  | nil => rfl
  | cons c cs ih => rw [plain, chars_text, ih]

/-- Two balanced expressions, one behind the other. -/
def append : Forest → Forest → Forest
  | nil, g => g
  | text c plain rest, g => text c plain (rest.append g)
  | group body rest, g => group body (rest.append g)

@[simp]
theorem chars_append (f g : Forest) : (f.append g).chars = f.chars ++ g.chars := by
  induction f with
  | nil => rfl
  | text c plain rest ih => rw [append, chars_text, ih, chars_text, List.cons_append]
  | group body rest _ ih =>
    rw [append, chars_group, ih, chars_group, List.cons_append, List.append_assoc, List.cons_append]

/-! ### The forest of an expression is determined -/

/-- A text that a balanced expression cannot go on with: nothing, or a closing bracket. -/
private def Closes (cs : List Char) : Prop := ∀ c, cs.head? = some c → c = ']'

/-- Where a balanced expression is written in front of a closing bracket or the end, both the
expression and what is behind it are determined. -/
private theorem eq_of_chars_append_eq {f g : Forest} {cs ds : List Char} (hcs : Closes cs)
    (hds : Closes ds) (h : f.chars ++ cs = g.chars ++ ds) : f = g ∧ cs = ds := by
  -- By induction on one of the two, over all that may follow; the other one starts alike.
  induction f generalizing g cs ds with
  | nil =>
    cases g with
    | nil => exact ⟨rfl, h⟩
    | text c plain rest =>
      subst h
      exact absurd (hcs c rfl) plain.2
    | group body rest =>
      subst h
      exact absurd (hcs '[' rfl) (by decide)
  | text c plain rest ih =>
    cases g with
    | nil =>
      rw [chars_nil, List.nil_append] at h
      subst h
      exact absurd (hds c rfl) plain.2
    | text d _ rest' =>
      simp only [chars_text, List.cons_append, List.cons.injEq] at h
      obtain ⟨rfl, h⟩ := h
      obtain ⟨rfl, rfl⟩ := ih hcs hds h
      exact ⟨rfl, rfl⟩
    | group body rest' =>
      simp only [chars_text, chars_group, List.cons_append, List.cons.injEq] at h
      exact absurd h.1 plain.1
  | group body rest ihBody ihRest =>
    cases g with
    | nil =>
      rw [chars_nil, List.nil_append] at h
      subst h
      exact absurd (hds '[' rfl) (by decide)
    | text d plain rest' =>
      simp only [chars_text, chars_group, List.cons_append, List.cons.injEq] at h
      exact absurd h.1.symm plain.1
    | group body' rest' =>
      simp only [chars_group, List.cons_append, List.append_assoc, List.cons.injEq,
        true_and] at h
      -- The bodies stop at their closing brackets, and the rests follow these.
      obtain ⟨rfl, hrest⟩ := ihBody (by simp [Closes]) (by simp [Closes]) h
      obtain ⟨rfl, rfl⟩ := ihRest hcs hds (List.cons.inj hrest).2
      exact ⟨rfl, rfl⟩

/-- Different forests are written differently. -/
theorem chars_injective {f g : Forest} (h : f.chars = g.chars) : f = g := by
  have hnil : Closes [] := by simp [Closes]
  have h : f.chars ++ [] = g.chars ++ [] := by simpa using h
  exact (eq_of_chars_append_eq hnil hnil h).1

/-- Different forests are different expressions. -/
theorem expression_injective {f g : Forest} (h : f.expression = g.expression) : f = g :=
  chars_injective (by rw [← toList_expression, h, toList_expression])

/-! ### The bracket check -/

open Expression (bracketFault?)

/-- The bracket check passes over a character that is no bracket. -/
theorem bracketFault?_cons_of_plain {c : Char} (plain : c ≠ '[' ∧ c ≠ ']')
    (position depth : Nat) (cs : List Char) :
    bracketFault? position depth (c :: cs) = bracketFault? (position + 1) depth cs := by
  rw [bracketFault?]
  · exact plain.1
  · exact plain.2

/-- The bracket check passes over a balanced text. -/
theorem bracketFault?_chars_append (f : Forest) (position depth : Nat) (cs : List Char) :
    bracketFault? position depth (f.chars ++ cs) =
      bracketFault? (position + f.chars.length) depth cs := by
  induction f generalizing position depth cs with
  | nil => rfl
  | text c plain rest ih =>
    rw [chars_text, List.cons_append, bracketFault?_cons_of_plain plain, ih, List.length_cons,
      Nat.add_right_comm, Nat.add_assoc]
  | group body rest ihBody ihRest =>
    have hlength : position + (group body rest).chars.length =
        position + 1 + body.chars.length + 1 + rest.chars.length := by
      simp only [chars_group, List.length_cons, List.length_append]
      omega
    rw [hlength, chars_group, List.cons_append, List.append_assoc, bracketFault?, ihBody,
      List.cons_append, bracketFault?, ihRest]

/-! ### Word characters -/

/-- Whether a balanced expression holds a word character, however deep in brackets. -/
def hasWord (f : Forest) : Bool := f.chars.any Text.isWord

@[simp] theorem hasWord_nil : nil.hasWord = false := rfl

@[simp]
theorem hasWord_text (c : Char) (plain : c ≠ '[' ∧ c ≠ ']') (rest : Forest) :
    (text c plain rest).hasWord = (Text.isWord c || rest.hasWord) := rfl

@[simp]
theorem hasWord_group (body rest : Forest) :
    (group body rest).hasWord = (body.hasWord || rest.hasWord) := by
  have hopen : Text.isWord '[' = false := by decide
  have hclose : Text.isWord ']' = false := by decide
  simp [hasWord, hopen, hclose]

/-! ### Groups -/

/-- A group of an expression. -/
structure Group where
  /-- What stands in front of its opening bracket. -/
  outer : List Char
  /-- What stands between its brackets. -/
  body : Forest

namespace Group

/-- What stands in front of the closing bracket of a group. -/
def before (g : Group) : List Char := g.outer ++ '[' :: g.body.chars

/-- A group of an expression, taken as a group of the expression with more text in front. -/
def behind (cs : List Char) (g : Group) : Group := { g with outer := cs ++ g.outer }

@[simp] theorem body_behind (cs : List Char) (g : Group) : (g.behind cs).body = g.body := rfl

@[simp]
theorem before_behind (cs : List Char) (g : Group) : (g.behind cs).before = cs ++ g.before := by
  simp [before, behind]

end Group

/-- The groups of a balanced expression, in the order of their closing brackets. -/
def groups : Forest → List Group
  | nil => []
  | text c _ rest => rest.groups.map (Group.behind [c])
  | group body rest =>
    body.groups.map (Group.behind ['[']) ++
      ⟨[], body⟩ :: rest.groups.map (Group.behind ('[' :: (body.chars ++ [']'])))

/-- Every group of a balanced expression holds a word character. -/
def Worded (f : Forest) : Prop := ∀ g ∈ f.groups, g.body.hasWord = true

@[simp] theorem worded_nil : nil.Worded := by simp [Worded, groups]

@[simp]
theorem worded_text (c : Char) (plain : c ≠ '[' ∧ c ≠ ']') (rest : Forest) :
    (text c plain rest).Worded ↔ rest.Worded := by
  simp [Worded, groups]

@[simp]
theorem worded_group (body rest : Forest) :
    (group body rest).Worded ↔ body.Worded ∧ body.hasWord = true ∧ rest.Worded := by
  simp [Worded, groups, or_imp, forall_and]

theorem worded_plain (cs : List Char) (h : ∀ c ∈ cs, c ≠ '[' ∧ c ≠ ']') : (plain cs h).Worded := by
  induction cs with
  | nil => exact worded_nil
  | cons c cs ih =>
    rw [plain, worded_text]
    exact ih _

/-- The bodies of the groups that hold a word character, in the order of the closing brackets. -/
def readBodies (f : Forest) : List Forest :=
  (f.groups.filter (·.body.hasWord)).map (·.body)

theorem readBodies_text (c : Char) (plain : c ≠ '[' ∧ c ≠ ']') (rest : Forest) :
    (text c plain rest).readBodies = rest.readBodies := by
  simp [readBodies, groups, List.filter_map, Function.comp_def]

theorem readBodies_group (body rest : Forest) :
    (group body rest).readBodies =
      body.readBodies ++ ((if body.hasWord then [body] else []) ++ rest.readBodies) := by
  by_cases hbody : body.hasWord = true <;>
    simp [readBodies, groups, List.filter_map, Function.comp_def, hbody]

/-- The closing bracket of a group stands in the expression behind the body of the group. -/
theorem exists_chars_eq_of_mem_groups {f : Forest} {g : Group} (h : g ∈ f.groups) :
    ∃ tail, f.chars = g.before ++ ']' :: tail := by
  induction f generalizing g with
  | nil => simp [groups] at h
  | text c plain rest ih =>
    obtain ⟨g, hg, rfl⟩ := List.mem_map.mp h
    obtain ⟨tail, htail⟩ := ih hg
    exact ⟨tail, by simp [htail]⟩
  | group body rest ihBody ihRest =>
    rw [groups, List.mem_append, List.mem_cons] at h
    rcases h with h | rfl | h
    · obtain ⟨g, hg, rfl⟩ := List.mem_map.mp h
      obtain ⟨tail, htail⟩ := ihBody hg
      exact ⟨tail ++ ']' :: rest.chars, by simp [htail]⟩
    · exact ⟨rest.chars, by simp [Group.before]⟩
    · obtain ⟨g, hg, rfl⟩ := List.mem_map.mp h
      obtain ⟨tail, htail⟩ := ihRest hg
      exact ⟨tail, by simp [htail]⟩

/-- The closing bracket of a group lies inside the expression. -/
theorem length_before_lt_of_mem_groups {f : Forest} {g : Group} (h : g ∈ f.groups) :
    g.before.length < f.chars.length := by
  obtain ⟨tail, htail⟩ := exists_chars_eq_of_mem_groups h
  rw [htail, List.length_append, List.length_cons]
  omega

/-- Groups are listed from left to right, by their closing brackets. -/
theorem groups_pairwise (f : Forest) :
    f.groups.Pairwise fun g h => g.before.length < h.before.length := by
  induction f with
  | nil => exact List.Pairwise.nil
  | text c plain rest ih =>
    rw [groups, List.pairwise_map]
    exact ih.imp fun h => by simpa using h
  | group body rest ihBody ihRest =>
    rw [groups, List.pairwise_append, List.pairwise_map, List.pairwise_cons, List.pairwise_map]
    refine ⟨ihBody.imp fun h => by simpa using h, ⟨?_, ihRest.imp fun h => by simpa using h⟩, ?_⟩
    · intro h hmem
      obtain ⟨h, -, rfl⟩ := List.mem_map.mp hmem
      have hbody : (Group.mk [] body).before = '[' :: body.chars := rfl
      simp only [hbody, Group.before_behind, List.length_append, List.length_cons, List.length_nil]
      omega
    · intro g hg h hmem
      obtain ⟨g, hinner, rfl⟩ := List.mem_map.mp hg
      -- Groups inside the body are closed before the body ends.
      have hlt := length_before_lt_of_mem_groups hinner
      rw [List.mem_cons] at hmem
      rcases hmem with rfl | hmem
      · rw [Group.before_behind]
        exact Nat.succ_lt_succ hlt
      · obtain ⟨h, -, rfl⟩ := List.mem_map.mp hmem
        simp only [Group.before_behind, List.length_append, List.length_cons, List.length_nil]
        omega

end Forest

end PointerChain
