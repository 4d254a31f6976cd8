import PointerChain.Proofs.Expression.Operand
import PointerChain.Proofs.Text.Hex

/-!
# Operands between other texts

A text in the shape of an operand is read as one operand wherever it stands between other texts,
provided that its hyphens belong to a name and that what follows does not go on with it.

* `Atom` is a text in the shape of an operand, `Atom.numeral` is a number.
* `Expression.EndsRun` is what may follow; `Expression.Stops` are blanks, closing brackets and
  nothing.
* `operands_append_atom_append` reads an operand off the front of a text.
-/

namespace PointerChain

/-- A text in the shape of an operand: a word character, word characters and hyphens, and segments
of word characters with a dot in front of each. -/
structure Atom where
  /-- The first character. -/
  first : Char
  /-- The other characters up to the first dot. -/
  name : List Char
  /-- The segments behind the dots. -/
  segments : List (List Char)
  isWord_first : Text.isWord first = true
  isNameChar_of_mem : ∀ c ∈ name, Expression.isNameChar c = true
  isWord_of_mem : ∀ segment ∈ segments, segment ≠ [] ∧ ∀ c ∈ segment, Text.isWord c = true

namespace Atom

/-- The characters behind the first one. -/
def others (a : Atom) : List Char := a.name ++ a.segments.flatMap ('.' :: ·)

/-- The characters of an operand. -/
def chars (a : Atom) : List Char := a.first :: a.others

/-- An operand, written down. -/
def text (a : Atom) : String := String.ofList a.chars

@[simp]
theorem toList_text (a : Atom) : a.text.toList = a.chars :=
  String.toList_ofList

/-- Without a dot there are no segments. -/
theorem isWord_of_mem_nil : ∀ segment ∈ ([] : List (List Char)),
    segment ≠ [] ∧ ∀ c ∈ segment, Text.isWord c = true :=
  List.forall_mem_nil _

/-- A number in base sixteen: the marker and digits in either case. -/
def numeral (digits : List Char) (h : ∀ c ∈ digits, ∃ d, Text.IsHexDigit c d) : Atom where
  first := '0'
  name := 'x' :: digits
  segments := []
  isWord_first := by decide
  isNameChar_of_mem := by
    intro c hc
    rw [List.mem_cons] at hc
    rcases hc with rfl | hc
    · decide
    · obtain ⟨d, hd⟩ := h c hc
      simp [Expression.isNameChar, hd.isWord]
  isWord_of_mem := isWord_of_mem_nil

variable {digits : List Char} (h : ∀ c ∈ digits, ∃ d, Text.IsHexDigit c d)

theorem text_numeral : (numeral digits h).text = String.ofList ('0' :: 'x' :: digits) := by
  simp [text, chars, others, numeral]

theorem hyphen_not_mem_numeral : '-' ∉ (numeral digits h).chars := by
  simp only [chars, others, numeral, List.flatMap_nil, List.append_nil, List.mem_cons, not_or]
  refine ⟨by decide, by decide, fun hhyphen => ?_⟩
  obtain ⟨d, hd⟩ := h _ hhyphen
  exact absurd hd.isWord (by decide)

theorem isNameChar_or_eq_of_mem {a : Atom} {c : Char} (h : c ∈ a.chars) :
    Expression.isNameChar c = true ∨ c = '.' := by
  rw [chars, others, List.mem_cons, List.mem_append, List.mem_flatMap] at h
  rcases h with rfl | h | ⟨segment, hsegment, h⟩
  · simp [Expression.isNameChar, a.isWord_first]
  · exact .inl (a.isNameChar_of_mem c h)
  · rw [List.mem_cons] at h
    rcases h with h | h
    · exact .inr h
    · simp [Expression.isNameChar, (a.isWord_of_mem segment hsegment).2 c h]

/-- An operand holds no brackets. -/
theorem plain_of_mem {a : Atom} {c : Char} (h : c ∈ a.chars) : c ≠ '[' ∧ c ≠ ']' := by
  constructor
  · rintro rfl
    exact absurd (isNameChar_or_eq_of_mem h) (by decide)
  · rintro rfl
    exact absurd (isNameChar_or_eq_of_mem h) (by decide)

end Atom

namespace Expression

/-! ### Where a run ends -/

/-- A text that does not go on with an operand in front of it. -/
def EndsRun (cs : List Char) : Prop := ∀ c, cs.head? = some c → isNameChar c = false ∧ c ≠ '.'

theorem endsRun_plus (cs : List Char) : EndsRun ('+' :: cs) := by
  intro c hc
  obtain rfl := Option.some.inj hc
  decide

/-- A text that may follow an operand: nothing, or one that starts with a blank or a closing
bracket. -/
def Stops (cs : List Char) : Prop := ∀ c, cs.head? = some c → c = ' ' ∨ c = ']'

theorem stops_nil : Stops [] := by simp [Stops]

theorem stops_blank (cs : List Char) : Stops (' ' :: cs) := by simp [Stops]

theorem stops_closing (cs : List Char) : Stops (']' :: cs) := by simp [Stops]

theorem Stops.endsRun {cs : List Char} (h : Stops cs) : EndsRun cs := by
  intro c hc
  obtain rfl | rfl := h c hc <;> decide

theorem spanSegments_cons_of_isWord {c : Char} (h : Text.isWord c = true) (cs : List Char) :
    spanSegments (c :: cs) = (c :: (spanSegments cs).1, (spanSegments cs).2) := by
  cases cs with
  | nil => simp [spanSegments, h]
  | cons d cs => simp [spanSegments, h]

theorem spanSegments_append_of_isWord {segment : List Char}
    (h : ∀ c ∈ segment, Text.isWord c = true) (cs : List Char) :
    spanSegments (segment ++ cs) = (segment ++ (spanSegments cs).1, (spanSegments cs).2) := by
  induction segment with
  | nil => rfl
  | cons c segment ih =>
    rw [List.cons_append, spanSegments_cons_of_isWord (h c List.mem_cons_self),
      ih fun d hd => h d (List.mem_cons_of_mem c hd)]
    rfl

theorem spanSegments_dot_cons {d : Char} (h : Text.isWord d = true) (cs : List Char) :
    spanSegments ('.' :: d :: cs) =
      ('.' :: (spanSegments (d :: cs)).1, (spanSegments (d :: cs)).2) := by
  rw [spanSegments]
  simp [h]

theorem spanSegments_of_endsRun {cs : List Char} (h : EndsRun cs) : spanSegments cs = ([], cs) := by
  cases cs with
  | nil => rfl
  | cons c cs =>
    obtain ⟨hname, hdot⟩ := h c rfl
    have hword : Text.isWord c = false := (Bool.or_eq_false_iff.mp hname).1
    cases cs with
    | nil => simp [spanSegments, hword]
    | cons d cs => simp [spanSegments, hword, hdot]

/-- Segments are split off whole. -/
theorem spanSegments_flatMap_append {segments : List (List Char)}
    (h : ∀ segment ∈ segments, segment ≠ [] ∧ ∀ c ∈ segment, Text.isWord c = true)
    {cs : List Char} (hcs : EndsRun cs) :
    spanSegments (segments.flatMap ('.' :: ·) ++ cs) = (segments.flatMap ('.' :: ·), cs) := by
  induction segments with
  | nil => exact spanSegments_of_endsRun hcs
  | cons segment segments ih =>
    obtain ⟨hne, hword⟩ := h segment List.mem_cons_self
    -- The dot goes on only in front of a word character, so the segment is opened.
    obtain ⟨d, ds, rfl⟩ := List.exists_cons_of_ne_nil hne
    have hrest := ih fun s hs => h s (List.mem_cons_of_mem _ hs)
    have hsegment := spanSegments_append_of_isWord hword (segments.flatMap ('.' :: ·) ++ cs)
    rw [List.flatMap_cons, List.cons_append, List.cons_append, List.append_assoc, List.cons_append,
      spanSegments_dot_cons (hword d List.mem_cons_self), ← List.cons_append, hsegment, hrest]

/-- What follows the first character of an operand is split off whole. -/
theorem spanRun_others_append (a : Atom) {cs : List Char} (hcs : EndsRun cs) :
    spanRun (a.others ++ cs) = (a.others, cs) := by
  -- The name ends in front of a dot or of what follows, and neither goes on with it.
  have hhead : ∀ c, (a.segments.flatMap ('.' :: ·) ++ cs).head? = some c →
      isNameChar c = false := by
    intro c hc
    cases hsegments : a.segments with
    | nil =>
      rw [hsegments] at hc
      exact (hcs c hc).1
    | cons segment segments =>
      rw [hsegments] at hc
      obtain rfl := Option.some.inj hc
      decide
  have hsplit : ∀ ds : List Char, (∀ c, ds.head? = some c → isNameChar c = false) →
      ds.takeWhile isNameChar = [] ∧ ds.dropWhile isNameChar = ds := by
    intro ds hds
    cases ds with
    | nil => exact ⟨rfl, rfl⟩
    | cons d ds => simp [hds d rfl]
  obtain ⟨htake, hdrop⟩ := hsplit _ hhead
  rw [spanRun, Atom.others, List.append_assoc,
    List.takeWhile_append_of_pos a.isNameChar_of_mem,
    List.dropWhile_append_of_pos a.isNameChar_of_mem, htake, hdrop,
    spanSegments_flatMap_append a.isWord_of_mem hcs, List.append_nil]

/-! ### Where a run is cut -/

theorem hyphenPlaces_of_not_mem {cs : List Char} (h : '-' ∉ cs) (place : Nat) :
    hyphenPlaces place cs = [] := by
  induction cs generalizing place with
  | nil => rfl
  | cons c cs ih =>
    rw [List.mem_cons, not_or] at h
    rw [hyphenPlaces, if_neg (Ne.symm h.1), ih h.2]

/-- A run stays whole if it has no hyphens or is a known name. -/
theorem Run.cut_of_known {known : String → Bool} {run : Run}
    (h : '-' ∈ run.others → known (String.ofList (run.first :: run.others)) = true) :
    run.cut known = (run.others, []) := by
  have hplace : run.cutPlace known = run.others.length := by
    by_cases hhyphen : '-' ∈ run.others
    · unfold Run.cutPlace
      simp only [List.take_length, h hhyphen, if_true]
      split <;> rfl
    · rw [Run.cutPlace, hyphenPlaces_of_not_mem hhyphen]
  rw [Run.cut, hplace, List.splitAt_eq, List.take_length, List.drop_length]

/-! ### One operand -/

variable {known : String → Bool}

/-- A text that gives a sign to an operand behind it, and is no part of an operand itself. -/
def Introduces (front : List Char) (sign : Option Sign) : Prop :=
  ∀ (c : Char) (cs : List Char), Text.isWord c = true →
    nextRun? (front ++ c :: cs) = some ⟨sign, c, (spanRun cs).1, (spanRun cs).2⟩

theorem introduces_nil : Introduces [] none := fun _ cs h => nextRun?_cons_of_isWord cs h

theorem runAt?_sign_cons (sign : Sign) (cs : List Char) :
    runAt? (sign.char :: cs) = runBehind? (some sign) cs := by
  cases sign <;> rfl

theorem introduces_sign (sign : Sign) : Introduces [sign.char] (some sign) := by
  intro c cs h
  rw [List.singleton_append, nextRun?, runAt?_sign_cons, runBehind?_cons_of_isWord _ _ h,
    Option.some_or]

/-- How a sign is written between two operands; in front of the first one, there is none. -/
def leading : Option Sign → List Char
  | none => []
  | some sign => [' ', sign.char, ' ']

theorem introduces_leading (sign : Option Sign) : Introduces (leading sign) sign := by
  cases sign with
  | none => exact introduces_nil
  | some sign =>
    intro c cs h
    -- The blank in front starts nothing, and the one behind the sign is passed over.
    have hblank : Text.isBlank ' ' = true := by decide
    have hsign : Text.isWord sign.char = false ∧ Text.isBlank sign.char = false := by
      cases sign <;> decide
    rw [leading, List.cons_append, List.cons_append, List.singleton_append, nextRun?,
      runAt?_cons_of_unsigned _ (by decide) (by decide), runBehind?_cons_of_isBlank _ _ hblank,
      runBehind?_cons_of_stray _ _ hsign.1 hsign.2, Option.none_or, nextRun?, runAt?_sign_cons,
      runBehind?_cons_of_isBlank _ _ hblank, runBehind?_cons_of_isWord _ _ h, Option.some_or]

/-- An operand is read off the front of a text, with the sign in front of it. -/
theorem operands_append_atom_append {front : List Char} {sign : Option Sign}
    (hfront : Introduces front sign) {a : Atom} (ha : '-' ∈ a.chars → known a.text = true)
    {cs : List Char} (hcs : EndsRun cs) :
    operands known (front ++ (a.chars ++ cs)) = ⟨sign, a.text⟩ :: operands known cs := by
  have hrun := hfront a.first (a.others ++ cs) a.isWord_first
  rw [spanRun_others_append a hcs] at hrun
  rw [Atom.chars, List.cons_append, operands_of_nextRun? hrun, Run.cut_of_known]
  · rfl
  · exact fun h => ha (List.mem_cons_of_mem a.first h)

/-! ### Rows of operands -/

/-- A text that is read as a row of operands in front of whatever may follow an operand. -/
def Spells (known : String → Bool) (cs : List Char) (tokens : List Token) : Prop :=
  ∀ more, Stops more → operands known (cs ++ more) = tokens ++ operands known more

/-- A text that is read as one operand, behind any sign. -/
def SpellsOperand (known : String → Bool) (cs : List Char) (operand : String) : Prop :=
  ∀ sign, Spells known (leading sign ++ cs) [⟨sign, operand⟩]

theorem spellsOperand_atom {a : Atom} (ha : '-' ∈ a.chars → known a.text = true) :
    SpellsOperand known a.chars a.text := by
  intro sign more hmore
  rw [List.append_assoc]
  exact operands_append_atom_append (introduces_leading sign) ha hmore.endsRun

variable {cs ds : List Char} {tokens : List Token} {operand : String}

namespace Spells

/-- A text alone is read as the row that it spells. -/
theorem operands_eq (h : Spells known cs tokens) : operands known cs = tokens := by
  have hnil : operands known [] = [] := operands_eq_nil_iff.mpr rfl
  have hcs := h [] stops_nil
  rwa [List.append_nil, hnil, List.append_nil] at hcs

/-- A closing bracket changes no operand in front of it. -/
theorem closing (h : Spells known cs tokens) : Spells known (cs ++ [']']) tokens := by
  intro more _
  rw [List.append_assoc, List.singleton_append, h _ (stops_closing more),
    operands_cons_of_skipped known more isSkipped_closing]

/-- A row goes on with a sign and an operand. -/
theorem append (h : Spells known cs tokens) (hds : SpellsOperand known ds operand) (sign : Sign) :
    Spells known (cs ++ (leading (some sign) ++ ds)) (tokens ++ [⟨some sign, operand⟩]) := by
  intro more hmore
  rw [List.append_assoc, h, hds (some sign) more hmore, List.append_assoc]
  exact stops_blank _

end Spells

theorem SpellsOperand.closing (h : SpellsOperand known cs operand) :
    SpellsOperand known (cs ++ [']']) operand := by
  intro sign
  rw [← List.append_assoc]
  exact (h sign).closing

/-- A number is read as one operand, also with a closing bracket behind it. -/
theorem spellsOperand_upperHexText (n : Nat) :
    SpellsOperand known (Text.upperHexText n ++ "]").toList (Text.upperHexText n) := by
  let number := Atom.numeral (Text.upperDigits n) fun _ => Text.isHexDigit_of_mem_upperDigits
  have hnumber : SpellsOperand known number.chars number.text :=
    spellsOperand_atom fun h => absurd h (Atom.hyphen_not_mem_numeral _)
  rw [String.toList_append, Text.upperHexText_eq_ofList, ← Atom.text_numeral, Atom.toList_text]
  exact hnumber.closing

end Expression

theorem hasOperands_of_spells {known : String → Bool} {t : String} {tokens : List Token}
    (h : Expression.Spells known t.toList tokens) (hne : tokens ≠ []) : hasOperands t = true := by
  rw [hasOperands, Option.isSome_iff_ne_none]
  intro hnone
  apply hne
  rw [← h.operands_eq, Expression.operands_eq_nil_iff.mpr hnone]

end PointerChain
