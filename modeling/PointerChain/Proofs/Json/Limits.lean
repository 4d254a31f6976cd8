import Mathlib.Data.List.Infix
import PointerChain.Json.Reader

/-!
# The limits of reading

Reading stops at a fault, but also at a number with too many digits and at a value that is nested
too deep. A text in which it stops for one of these reasons shows it: the digits stand in the text
in a row, and the lists and objects that are open at the value have opened one after the other.

* `LongRun` and `openings` are what to look for in a text.
* `Stop.Explained` says what a text shows of a stop, and `ReadsWithin` what a part of a document
  shows that is read within a text.
* `within_reads` is about the parts that are read in turn: values, the items of a list and the
  fields of an object.
* `explained_of_readUnmarked` is about whole documents.
-/

namespace PointerChain.Json

open Text (Mark Raw)

/-! ### What a text shows -/

/-- Whether a mark opens a list or an object. -/
def isOpening (c : Mark) : Bool := c == .char '[' || c == .char '\x7b'

/-- How many lists and objects open in a text. -/
def openings (text : List Mark) : Nat := text.countP isOpening

/-- So many digits in a row are in a text, and they are too many for a number. -/
structure LongRun (text : List Mark) (count : Nat) : Prop where
  /-- They are too many. -/
  long : Text.maxDigits < count
  /-- They stand in a row. -/
  digits : ∃ digits, digits <:+: text ∧ digits.length = count ∧ digits.all isDigit = true

/-- What a text shows of a stop, where so many values may be nested in it. -/
def Stop.Explained (room : Nat) (text : List Mark) : Stop → Prop
  | .fault _ _ => True
  | .tooManyDigits count => LongRun text count
  | .tooDeep _ => room < openings text

/-- What a text shows of an error in reading all of it, where so many values may be nested in it. -/
def ReadError.Explained (depth : Nat) (text : List Mark) : ReadError → Prop
  | .malformed _ _ => True
  | .tooManyDigits count => LongRun text count
  | .tooDeep _ => depth < openings text

variable {α β : Type} {room : Nat} {cs cs' cs'' : List Mark} {c : Mark} {stop : Stop}

theorem LongRun.mono {count : Nat} (h : LongRun cs count) (hpart : cs <:+: cs') :
    LongRun cs' count := by
  obtain ⟨hlong, digits, hdigits, hlength, hall⟩ := h
  exact ⟨hlong, digits, hdigits.trans hpart, hlength, hall⟩

theorem openings_le_of_suffix (h : cs <:+ cs') : openings cs ≤ openings cs' :=
  h.sublist.countP_le

theorem openings_cons (hc : isOpening c = true) : openings (c :: cs) = openings cs + 1 :=
  List.countP_cons_of_pos hc

namespace Stop.Explained

theorem of_suffix (h : stop.Explained room cs) (hcs : cs <:+ cs') : stop.Explained room cs' := by
  cases stop with
  | fault => trivial
  | tooManyDigits count => exact LongRun.mono h hcs.isInfix
  | tooDeep kind => exact Nat.lt_of_lt_of_le h (openings_le_of_suffix hcs)

/-- A mark that opens makes up for the value more that may be nested outside. -/
theorem cons (h : stop.Explained (room - 1) cs) (hc : isOpening c = true) (hcs : cs <:+ cs') :
    stop.Explained room (c :: cs') := by
  cases stop with
  | fault => trivial
  | tooManyDigits count => exact LongRun.mono h (hcs.trans (List.suffix_cons c cs')).isInfix
  | tooDeep kind =>
    have hle : openings cs ≤ openings cs' := openings_le_of_suffix hcs
    have hlt : room - 1 < openings cs := h
    show room < openings (c :: cs')
    rw [openings_cons hc]
    omega

end Stop.Explained

/-! ### Parts within a text -/

/-- A part of a document is read within a text: what is left is an end of the text, and the text
explains a stop. -/
def ReadsWithin (room : Nat) (cs : List Mark) : Except Stop (α × Rest cs') → Prop
  | .ok (_, rest) => rest.1 <:+ cs
  | .error stop => stop.Explained room cs

namespace ReadsWithin

/-- One part behind the other. -/
theorem bind {x : Except Stop (α × Rest cs')} {f : α × Rest cs' → Except Stop (β × Rest cs'')}
    (h : ReadsWithin room cs x)
    (hf : ∀ a rest, rest.1 <:+ cs → ReadsWithin room cs (f (a, rest))) :
    ReadsWithin room cs (x >>= f) := by
  cases x with
  | ok value => exact hf value.1 value.2 h
  | error stop => exact h

variable {x : Except Stop (α × Rest cs'')}

theorem of_suffix (h : ReadsWithin room cs x) (hcs : cs <:+ cs') : ReadsWithin room cs' x := by
  cases x with
  | ok value => exact List.IsSuffix.trans h hcs
  | error stop => exact Stop.Explained.of_suffix h hcs

theorem cons (h : ReadsWithin (room - 1) cs x) (hc : isOpening c = true) (hcs : cs <:+ cs') :
    ReadsWithin room (c :: cs') x := by
  cases x with
  | ok value => exact (List.IsSuffix.trans h hcs).trans (List.suffix_cons c cs')
  | error stop => exact Stop.Explained.cons h hc hcs

end ReadsWithin

theorem skipGap_suffix (cs : List Mark) : skipGap cs <:+ cs :=
  List.dropWhile_suffix isGap

theorem suffix_of_skipGap (h : skipGap cs = c :: cs') : cs' <:+ cs :=
  (List.suffix_cons c cs').trans (h ▸ skipGap_suffix cs)

/-! ### Strings -/

theorem secondEscape?_cases (cs : List Mark) :
    (∃ fault left, secondEscape? cs = .error (.fault fault left)) ∨ secondEscape? cs = .ok none ∨
      ∃ n rest, secondEscape? cs = .ok (some (n, rest)) ∧ rest.1 <:+ cs := by
  unfold secondEscape?
  split
  next a b c d e rest =>
    cases fourDigits? a b c d with
    | none => exact .inl ⟨_, _, rfl⟩
    | some n => exact .inr (.inr ⟨_, _, rfl, List.suffix_append [_, _, _, _, _, _] (e :: rest)⟩)
  next => exact .inr (.inl rfl)

theorem within_numberedEscape (room : Nat) (cs : List Mark) :
    ReadsWithin room cs (numberedEscape cs) := by
  unfold numberedEscape
  split
  next a b c d e rest =>
    have hbehind : e :: rest <:+ a :: b :: c :: d :: e :: rest :=
      List.suffix_append [a, b, c, d] (e :: rest)
    cases fourDigits? a b c d with
    | none => trivial
    | some n =>
      dsimp only
      split
      next =>
        -- a second escape is left behind unless it is the other half of a pair
        rcases secondEscape?_cases (e :: rest) with ⟨fault, left, h⟩ | h | ⟨m, left, h, hleft⟩
        · rw [h]
          trivial
        · rw [h]
          exact hbehind
        · rw [h]
          dsimp only [Bind.bind, Except.bind]
          split
          next => exact hleft.trans hbehind
          next => exact hbehind
      next => exact hbehind
  next => trivial

theorem within_readString (room : Nat) (opening cs : List Mark) :
    ReadsWithin room cs (readString opening cs) := by
  fun_induction readString opening cs with
  | case1 | case3 | case6 | case7 => trivial
  | case2 rest => exact List.suffix_cons _ rest
  | case4 rest ih =>
    have hescape := (within_numberedEscape room rest).of_suffix
      (List.suffix_append [.char '\\', .char 'u'] rest)
    refine hescape.bind ?_
    rintro c ⟨behind, hlt⟩ hbehind
    refine ReadsWithin.bind ((ih behind hlt).of_suffix hbehind) ?_
    exact fun text left hleft => hleft
  | case5 letter rest _ c _ ih =>
    refine (ih.of_suffix (List.suffix_append [_, _] rest)).bind ?_
    exact fun text left hleft => hleft
  | case8 c rest _ _ _ _ goOn _ ih =>
    refine ReadsWithin.bind (ih.of_suffix (List.suffix_cons c rest)) ?_
    exact fun text left hleft => hleft

/-! ### Numbers and words -/

/-- Digits in front of a point that are too many for a number stand in a row. -/
theorem longRun_wholeDigits (h : Text.maxDigits < (wholeDigits cs).length) :
    LongRun cs (wholeDigits cs).length := by
  refine ⟨h, wholeDigits cs, ?_⟩
  unfold wholeDigits at h ⊢
  split
  next rest => exact absurd h (show ¬Text.maxDigits < 1 by decide)
  next =>
    have hfront : cs.takeWhile isDigit <+: cs := List.takeWhile_prefix isDigit
    exact ⟨hfront.isInfix, rfl, List.all_takeWhile⟩

theorem explained_of_scanNumber (room : Nat) (h : scanNumber cs = .error stop) :
    stop.Explained room cs := by
  unfold scanNumber at h
  extract_lets negative signs whole behindWhole fraction points power taken n integer goOn at h
  split at h
  next =>
    obtain rfl := Except.error.inj h
    trivial
  next =>
    unfold goOn at h
    dsimp only at h
    split at h
    next =>
      -- only an integer is refused for its digits, and they are behind its sign
      split at h
      next hlong =>
        obtain rfl := Except.error.inj h
        exact (longRun_wholeDigits hlong).mono (List.drop_suffix signs cs).isInfix
      next => cases h
    next => cases h

theorem within_readNumber (room : Nat) (cs : List Mark) :
    ReadsWithin room cs (readNumber cs) := by
  rw [readNumber]
  cases h : scanNumber cs with
  | error stop => exact explained_of_scanNumber room h
  | ok value =>
    dsimp only [Bind.bind, Except.bind]
    split
    next => exact List.drop_suffix _ cs
    next => trivial

theorem within_readScalar (room : Nat) (cs : List Mark) :
    ReadsWithin room cs (readScalar cs) := by
  unfold readScalar
  split
  next =>
    split
    next => exact List.drop_suffix _ cs
    next => trivial
  next => exact within_readNumber room cs

/-! ### Values -/

theorem within_readValue_array {rest : List Mark} (hroom : room ≠ 0)
    (hitems : ReadsWithin (room - 1) (skipGap rest) (readItems (room - 1) (skipGap rest) [])) :
    ReadsWithin room (.char '[' :: rest) (readValue room (.char '[' :: rest)) := by
  rw [readValue, if_neg hroom]
  split
  next left h => exact (suffix_of_skipGap h).trans (List.suffix_cons _ rest)
  next =>
    refine (hitems.cons rfl (skipGap_suffix rest)).bind ?_
    exact fun items left hleft => hleft

theorem within_readValue_object {rest : List Mark} (hroom : room ≠ 0)
    (hfields : ReadsWithin (room - 1) (skipGap rest) (readFields (room - 1) (skipGap rest) [])) :
    ReadsWithin room (.char '\x7b' :: rest) (readValue room (.char '\x7b' :: rest)) := by
  rw [readValue, if_neg hroom]
  split
  next left h => exact (suffix_of_skipGap h).trans (List.suffix_cons _ rest)
  next =>
    refine (hfields.cons rfl (skipGap_suffix rest)).bind ?_
    exact fun fields left hleft => hleft

/-- A list is read within a text if its values are. -/
theorem within_readItems (read : List Json) (hvalue : ReadsWithin room cs (readValue room cs))
    (hitems : ∀ (value : Json) (behind : List Mark), behind.length < cs.length → ∀ next,
      skipGap behind = .char ',' :: next →
        ReadsWithin room (skipGap next) (readItems room (skipGap next) (value :: read))) :
    ReadsWithin room cs (readItems room cs read) := by
  rw [readItems]
  refine hvalue.bind ?_
  rintro value ⟨behind, hlt⟩ hbehind
  dsimp only
  split
  next left h => exact (suffix_of_skipGap h).trans hbehind
  next next h =>
    have hnext : skipGap next <:+ cs :=
      (skipGap_suffix next).trans ((suffix_of_skipGap h).trans hbehind)
    refine ((hitems value behind hlt next h).of_suffix hnext).bind ?_
    exact fun items left hleft => hleft
  next => trivial

/-- An object is read within a text if its values are. -/
theorem within_readFields {rest : List Mark} (read : List (Raw × Json))
    (hvalue : ∀ behind : List Mark, behind.length < rest.length → ∀ next,
      skipGap behind = .char ':' :: next →
        ReadsWithin room (skipGap next) (readValue room (skipGap next)))
    (hfields : ∀ (name behind : List Mark), behind.length < rest.length → ∀ next,
      skipGap behind = .char ':' :: next → ∀ (value : Json) (left : List Mark),
        left.length < (skipGap next).length → ∀ next', skipGap left = .char ',' :: next' →
          ReadsWithin room (skipGap next')
            (readFields room (skipGap next') (putField ⟨name⟩ value read))) :
    ReadsWithin room (.char '"' :: rest) (readFields room (.char '"' :: rest) read) := by
  rw [readFields]
  have hname := (within_readString room (.char '"' :: rest) rest).of_suffix
    (List.suffix_cons (.char '"') rest)
  -- A name, a colon, a value, and then the end or a comma: each part is read from a suffix of what
  -- the part in front of it was read from.
  refine hname.bind ?_
  rintro name ⟨behind, hlt⟩ hbehind
  dsimp only
  split
  next next h =>
    have hnext : skipGap next <:+ .char '"' :: rest :=
      (skipGap_suffix next).trans ((suffix_of_skipGap h).trans hbehind)
    refine ReadsWithin.bind ((hvalue behind hlt next h).of_suffix hnext) ?_
    rintro value ⟨left, hlt'⟩ hleft
    dsimp only
    split
    next final h' => exact (suffix_of_skipGap h').trans hleft
    next next' h' =>
      have hnext' : skipGap next' <:+ .char '"' :: rest :=
        (skipGap_suffix next').trans ((suffix_of_skipGap h').trans hleft)
      have hrest := hfields name behind hlt next h value left hlt' next' h'
      refine ReadsWithin.bind (hrest.of_suffix hnext') ?_
      exact fun fields final hfinal => hfinal
    next => trivial
  next => trivial

/-- Values, fields and items are read within the text that they are read of. -/
theorem within_reads :
    (∀ room cs, ReadsWithin room cs (readValue room cs)) ∧
      (∀ room cs read, ReadsWithin room cs (readFields room cs read)) ∧
      ∀ room cs read, ReadsWithin room cs (readItems room cs read) := by
  -- the induction is on the parts as the reader calls for them, with the room that it has there
  refine @readValue.mutual_induct (fun room cs => ReadsWithin room cs (readValue room cs))
    (fun room cs read => ReadsWithin room cs (readFields room cs read))
    (fun room cs read => ReadsWithin room cs (readItems room cs read))
    ?nothing ?string ?deepArray ?array ?deepObject ?object ?scalar ?fields ?noName ?items
  case nothing =>
    intro room
    rw [readValue]
    trivial
  case string =>
    intro room rest
    rw [readValue]
    have htext := (within_readString room (.char '"' :: rest) rest).of_suffix
      (List.suffix_cons (.char '"') rest)
    refine htext.bind ?_
    exact fun text left hleft => hleft
  case deepArray =>
    intro rest _
    rw [readValue, if_pos rfl]
    exact Nat.lt_of_lt_of_eq (Nat.succ_pos _) (openings_cons rfl).symm
  case array =>
    intro room rest hroom ih
    exact within_readValue_array hroom (ih _ rfl)
  case deepObject =>
    intro rest _
    rw [readValue, if_pos rfl]
    exact Nat.lt_of_lt_of_eq (Nat.succ_pos _) (openings_cons rfl).symm
  case object =>
    intro room rest hroom ih
    exact within_readValue_object hroom (ih _ rfl)
  case scalar =>
    intro room c rest hstring harray hobject
    rw [readValue]
    · exact within_readScalar room (c :: rest)
    all_goals assumption
  case fields =>
    intro room read rest hvalue hfields
    exact within_readFields read hvalue hfields
  case noName =>
    intro room cs read hname
    rw [readFields]
    · trivial
    · exact hname
  case items =>
    intro room cs read hvalue hitems
    exact within_readItems read hvalue hitems

/-! ### Documents -/

theorem explained_of_readWhole {depth : Nat} {text : List Mark}
    (h : readWhole depth text = .error stop) : stop.Explained depth text := by
  have hvalue := within_reads.1 depth (skipGap text)
  unfold readWhole at h
  cases hread : readValue depth (skipGap text) with
  | error stop' =>
    rw [hread] at h hvalue
    obtain rfl := Except.error.inj h
    exact Stop.Explained.of_suffix hvalue (skipGap_suffix text)
  | ok value =>
    -- what stands behind the value is a fault, if it is anything
    rw [hread] at h
    dsimp only [Bind.bind, Except.bind] at h
    split at h
    next => cases h
    next =>
      obtain rfl := Except.error.inj h
      trivial

/-- A text shows the limit at which the reading of it ends. -/
theorem explained_of_readUnmarked {depth : Nat} {text : List Mark} {error : ReadError}
    (h : readUnmarked depth text = .error error) : error.Explained depth text := by
  unfold readUnmarked at h
  split at h
  next =>
    obtain rfl := Except.error.inj h
    trivial
  next =>
    -- Of the errors only the limits on digits and on nesting have to be explained.
    unfold read at h
    split at h
    next => cases h
    next =>
      obtain rfl := Except.error.inj h
      trivial
    next count hstop =>
      obtain rfl := Except.error.inj h
      exact explained_of_readWhole hstop
    next kind hstop =>
      obtain rfl := Except.error.inj h
      exact explained_of_readWhole hstop

end PointerChain.Json
