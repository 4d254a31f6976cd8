import Mathlib.Tactic.SplitIfs
import PointerChain.Json.Schema
import PointerChain.Proofs.Text.Hex
import PointerChain.Text.Numeral

/-!
# Plain literals

Most spellings of an integer are of no use in a document: signs, underscores, digits of other
scripts, blanks around. What is left are the plain literals, in base ten without leading zeros and
in base sixteen behind a marker, and one newline may follow.

* `IsPlain` relates a plain literal to its number, `Spells` allows for the newline.
* `isPlainDecimal_iff` and `isMarkedHex_iff` say which texts have the form.
* `admits_and_readLiteral_iff` says that the form and the reader together come to `Spells`.
-/

namespace PointerChain.Text

/-- A literal without sign, separators and blanks, with its number. -/
inductive IsPlain : List Char → Nat → Prop
  /-- The digits of a number in base ten, if there are not too many of them. -/
  | decimal (n : Nat) (h : (Nat.toDigits 10 n).length ≤ maxDigits) : IsPlain (Nat.toDigits 10 n) n
  /-- Digits in base sixteen, of either case and with leading zeros, behind the marker. -/
  | hexadecimal {x : Char} {digits : List Char} {n : Nat} (hmarker : x = 'x' ∨ x = 'X')
      (hdigits : readHex? digits = some n) : IsPlain ('0' :: x :: digits) n

/-- A text that is a plain literal, or one with a newline behind it. -/
def Spells (cs : List Char) (n : Nat) : Prop :=
  ∃ body, IsPlain body n ∧ (cs = body ∨ cs = body ++ ['\n'])

variable {c : Char} {cs : List Char} {n : Nat}

/-! ### Base ten -/

theorem digitChar_sub (h₀ : '0' ≤ c) (h₉ : c ≤ '9') :
    c.toNat - '0'.toNat < 10 ∧ Nat.digitChar (c.toNat - '0'.toNat) = c := by
  have hall : ∀ k < 58, 48 ≤ k → k - 48 < 10 ∧ Nat.digitChar (k - 48) = Char.ofNat k := by decide
  have hc := hall c.toNat (Nat.lt_succ_of_le h₉) h₀
  rwa [Char.ofNat_toNat] at hc

/-- Digits behind those of a positive number are those of a further number. -/
theorem exists_toDigits_append_eq {m : Nat} (hm : 0 < m) (h : ∀ d ∈ cs, '0' ≤ d ∧ d ≤ '9') :
    ∃ n, Nat.toDigits 10 m ++ cs = Nat.toDigits 10 n := by
  induction cs generalizing m with
  | nil => exact ⟨m, List.append_nil _⟩
  | cons c cs ih =>
    obtain ⟨h₀, h₉⟩ := h c List.mem_cons_self
    obtain ⟨hlt, hchar⟩ := digitChar_sub h₀ h₉
    -- The next digit belongs to the number in front, which stays positive.
    obtain ⟨n, hn⟩ := @ih (10 * m + (c.toNat - '0'.toNat)) (by omega)
      fun d hd => h d (List.mem_cons_of_mem c hd)
    refine ⟨n, ?_⟩
    rw [← hn, ← Nat.toDigits_append_toDigits (by decide) hm hlt, Nat.toDigits_of_lt_base hlt,
      hchar, List.append_assoc, List.singleton_append]

/-- The digits of a positive number start with no zero. -/
theorem exists_toDigits_eq_cons (h : 0 < n) :
    ∃ c cs, Nat.toDigits 10 n = c :: cs ∧ '1' ≤ c ∧ c ≤ '9' ∧ ∀ d ∈ cs, '0' ≤ d ∧ d ≤ '9' := by
  induction n using Nat.strongRecOn with
  | ind n ih =>
    -- The first digit is that of the quotient by ten, down to a single digit.
    by_cases hn : n < 10
    · have hdigits : ∀ d < 10, 0 < d → '1' ≤ Nat.digitChar d ∧ Nat.digitChar d ≤ '9' := by decide
      rw [Nat.toDigits_of_lt_base hn]
      exact ⟨_, [], rfl, (hdigits n hn h).1, (hdigits n hn h).2, by simp⟩
    · have hdigits : ∀ d < 10, '0' ≤ Nat.digitChar d ∧ Nat.digitChar d ≤ '9' := by decide
      obtain ⟨c, cs, hfront, h₁, h₉, hcs⟩ := ih (n / 10) (by omega) (by omega)
      rw [Nat.toDigits_of_base_le (by decide) (Nat.le_of_not_lt hn), hfront]
      refine ⟨c, cs ++ [Nat.digitChar (n % 10)], rfl, h₁, h₉, ?_⟩
      intro d hd
      rcases List.mem_append.mp hd with hd | hd
      · exact hcs d hd
      · rw [List.mem_singleton.mp hd]
        exact hdigits (n % 10) (Nat.mod_lt n (by decide))

theorem isPlainDecimal_cons : Json.isPlainDecimal (c :: cs) = true ↔
    c :: cs = ['0'] ∨ ('1' ≤ c ∧ c ≤ '9' ∧ ∀ d ∈ cs, '0' ≤ d ∧ d ≤ '9') := by
  by_cases hzero : c :: cs = ['0']
  · obtain ⟨rfl, rfl⟩ := List.cons.inj hzero
    decide
  · have hcons : c = '0' → cs = [] → False := fun hc hcs => hzero (by rw [hc, hcs])
    rw [Json.isPlainDecimal]
    · simp [hzero, and_assoc]
    · exact hcons

theorem isPlainDecimal_iff : Json.isPlainDecimal cs = true ↔ ∃ n, cs = Nat.toDigits 10 n := by
  constructor
  · intro h
    cases cs with
    | nil => cases h
    | cons c cs =>
      rcases isPlainDecimal_cons.mp h with hzero | ⟨h₁, h₉, hcs⟩
      · exact ⟨0, hzero⟩
      · have h₀ : '0' ≤ c := Char.le_trans (by decide) h₁
        obtain ⟨hlt, hchar⟩ := digitChar_sub h₀ h₉
        have hpos : 0 < c.toNat - '0'.toNat := by
          have : '1'.toNat ≤ c.toNat := h₁
          exact Nat.sub_pos_of_lt this
        obtain ⟨n, hn⟩ := exists_toDigits_append_eq hpos hcs
        refine ⟨n, ?_⟩
        rw [← hn, Nat.toDigits_of_lt_base hlt, hchar, List.singleton_append]
  · rintro ⟨n, rfl⟩
    rcases Nat.eq_zero_or_pos n with rfl | hpos
    · decide
    · obtain ⟨c, cs, hdigits, h⟩ := exists_toDigits_eq_cons hpos
      rw [hdigits, isPlainDecimal_cons]
      exact .inr h

/-! ### Base sixteen -/

theorem appendHex?_isSome (n : Nat) (cs : List Char) :
    (appendHex? n cs).isSome = cs.all fun c => (hexDigit? c).isSome := by
  induction cs generalizing n with
  | nil => rfl
  | cons c cs ih =>
    rw [appendHex?, List.all_cons]
    cases hexDigit? c with
    | none => rfl
    | some d => exact ih (16 * n + d)

theorem isSome_hexDigit?_of_readHex? (h : readHex? cs = some n) :
    ∀ c ∈ cs, (hexDigit? c).isSome = true := by
  cases cs with
  | nil => cases h
  | cons c cs =>
    apply List.all_eq_true.mp
    rw [← appendHex?_isSome 0 (c :: cs)]
    exact Option.isSome_of_mem h

theorem isMarkedHex_iff : Json.isMarkedHex cs = true ↔
    ∃ x digits n, cs = '0' :: x :: digits ∧ (x = 'x' ∨ x = 'X') ∧ readHex? digits = some n := by
  constructor
  · intro h
    unfold Json.isMarkedHex at h
    split at h
    next x c cs =>
      simp only [Bool.and_eq_true, Bool.or_eq_true, beq_iff_eq] at h
      have hsome := (appendHex?_isSome 0 (c :: cs)).trans h.2
      obtain ⟨n, hn⟩ := Option.isSome_iff_exists.mp hsome
      exact ⟨x, c :: cs, n, rfl, h.1, hn⟩
    next => cases h
  · rintro ⟨x, digits, n, rfl, hx, hdigits⟩
    cases digits with
    | nil => cases hdigits
    | cons c cs =>
      rw [Json.isMarkedHex, List.all_eq_true.mpr (isSome_hexDigit?_of_readHex? hdigits)]
      simpa using hx

/-! ### Reading digits -/

theorem digitBelow?_sixteen (c : Char) : digitBelow? 16 c = hexDigit? c := by
  have hbelow {low high : Char} (h : low ≤ c ∧ c ≤ high) : c.toNat ≤ high.toNat := h.2
  unfold digitBelow? hexDigit?
  dsimp only
  split_ifs with h₀ hlt h₁ hlt h₂ hlt hlt <;> first | rfl | exfalso
  · exact hlt (Nat.lt_of_le_of_lt (Nat.sub_le_sub_right (hbelow h₀) _) (by decide))
  · exact hlt (Nat.lt_of_le_of_lt (Nat.add_le_add_right (Nat.sub_le_sub_right (hbelow h₁) _) _)
      (by decide))
  · exact hlt (Nat.lt_of_le_of_lt (Nat.add_le_add_right (Nat.sub_le_sub_right (hbelow h₂) _) _)
      (by decide))
  · exact absurd hlt (by decide)

theorem digitBelow?_ten (h₀ : '0' ≤ c) (h₉ : c ≤ '9') :
    digitBelow? 10 c = some (c.toNat - '0'.toNat) := by
  have hrange : '0' ≤ c ∧ c ≤ '9' := ⟨h₀, h₉⟩
  simp only [digitBelow?, if_pos hrange, if_pos (digitChar_sub h₀ h₉).1]

/-- A run of digits alone has no underscores in it. -/
theorem separatedDigits?_of_forall {base : Nat} {value : Char → Nat}
    (h : ∀ c ∈ cs, digitBelow? base c = some (value c)) (hne : cs ≠ []) :
    separatedDigits? base cs = some (cs.map value) := by
  induction cs with
  | nil => exact absurd rfl hne
  | cons c cs ih =>
    have hc := h c List.mem_cons_self
    cases cs with
    | nil => rw [separatedDigits?, hc, Option.map_some, List.map_singleton]
    | cons c' cs =>
      have hdigits := ih (fun d hd => h d (List.mem_cons_of_mem c hd)) (List.cons_ne_nil c' cs)
      have hunderscore : c' ≠ '_' := by
        rintro rfl
        have hnone : digitBelow? base '_' = none := by simp [digitBelow?]
        have hsome := h '_' (List.mem_cons_of_mem c List.mem_cons_self)
        exact absurd (hnone.symm.trans hsome) (by simp)
      rw [separatedDigits?, hc, hdigits]
      · rfl
      · simp
      · simpa using hunderscore

theorem appendHex?_of_forall {value : Char → Nat} (h : ∀ c ∈ cs, hexDigit? c = some (value c)) :
    appendHex? n cs = some ((cs.map value).foldl (fun n d => 16 * n + d) n) := by
  induction cs generalizing n with
  | nil => rfl
  | cons c cs ih =>
    rw [appendHex?, h c List.mem_cons_self]
    exact ih fun d hd => h d (List.mem_cons_of_mem c hd)

/-- Behind a marker, what reads as a number is read as this number. -/
theorem readMarkedDigits_of_readHex? (h : readHex? cs = some n) :
    readMarkedDigits 16 cs = .ok n := by
  cases cs with
  | nil => cases h
  | cons c cs =>
    have hdigits : ∀ d ∈ c :: cs, hexDigit? d = some ((hexDigit? d).getD 0) := by
      intro d hd
      obtain ⟨value, hvalue⟩ :=
        Option.isSome_iff_exists.mp (isSome_hexDigit?_of_readHex? h d hd)
      rw [hvalue, Option.getD_some]
    have hread : separatedDigits? 16 (c :: cs) = some _ :=
      separatedDigits?_of_forall (fun d hd => (digitBelow?_sixteen d).trans (hdigits d hd))
        (List.cons_ne_nil c cs)
    have hvalue : ofDigits 16 ((c :: cs).map fun d => (hexDigit? d).getD 0) = n :=
      Option.some.inj ((appendHex?_of_forall hdigits).symm.trans h)
    -- An underscore may stand behind the marker, but what reads as a number has none.
    have hunderscore : c ≠ '_' := by
      rintro rfl
      exact absurd (hdigits '_' List.mem_cons_self) (by decide)
    unfold readMarkedDigits
    split
    next hcons => exact absurd (List.cons.inj hcons).1 hunderscore
    next =>
      rw [hread]
      exact congrArg Except.ok hvalue

/-- The digits of a number read back as the number, unless they are too many. -/
theorem readDecimalDigits_toDigits (n : Nat) :
    readDecimalDigits (Nat.toDigits 10 n) =
      if maxDigits < (Nat.toDigits 10 n).length then
        .error (.tooManyDigits (Nat.toDigits 10 n).length)
      else .ok n := by
  have hdigits : ∀ c ∈ Nat.toDigits 10 n, digitBelow? 10 c = some (c.toNat - '0'.toNat) := by
    intro c hc
    have hdigit := Nat.isDigit_of_mem_toDigits (by decide) (Nat.le_refl 10) hc
    simp only [Char.isDigit, Bool.and_eq_true, decide_eq_true_eq] at hdigit
    exact digitBelow?_ten hdigit.1 hdigit.2
  rw [readDecimalDigits, separatedDigits?_of_forall hdigits Nat.toDigits_ne_nil]
  simp only [List.length_map, ofDigits_toDigits]

theorem readUnsignedLiteral_toDigits (n : Nat) :
    readUnsignedLiteral (Nat.toDigits 10 n) = readDecimalDigits (Nat.toDigits 10 n) := by
  rcases Nat.eq_zero_or_pos n with rfl | hpos
  · rfl
  · -- No marker and no zero is in front, so this is a number in base ten.
    obtain ⟨c, cs, hdigits, h₁, -⟩ := exists_toDigits_eq_cons hpos
    have hzero : c ≠ '0' := by
      rintro rfl
      exact absurd h₁ (by decide)
    rw [hdigits]
    unfold readUnsignedLiteral
    split
    all_goals first
      | rfl
      | next hcons => exact absurd (List.cons.inj hcons).1 hzero

namespace IsPlain

variable {body : List Char}

theorem readUnsignedLiteral (h : IsPlain body n) : readUnsignedLiteral body = .ok n := by
  cases h with
  | decimal n h =>
    rw [readUnsignedLiteral_toDigits, readDecimalDigits_toDigits, if_neg (Nat.not_lt.mpr h)]
  | hexadecimal hmarker hdigits =>
    rcases hmarker with rfl | rfl
    · exact readMarkedDigits_of_readHex? hdigits
    · exact readMarkedDigits_of_readHex? hdigits

/-- A text of one of the two forms is a plain literal of the number that it is read as. -/
theorem of_read (hform : (Json.isPlainDecimal body || Json.isMarkedHex body) = true)
    (hread : Text.readUnsignedLiteral body = .ok n) : IsPlain body n := by
  rcases Bool.or_eq_true_iff.mp hform with hdecimal | hhex
  · obtain ⟨m, rfl⟩ := isPlainDecimal_iff.mp hdecimal
    rw [readUnsignedLiteral_toDigits, readDecimalDigits_toDigits] at hread
    split at hread
    next => cases hread
    next hlength =>
      obtain rfl := Except.ok.inj hread
      exact decimal m (Nat.not_lt.mp hlength)
  · obtain ⟨x, digits, m, rfl, hmarker, hdigits⟩ := isMarkedHex_iff.mp hhex
    have hplain : IsPlain ('0' :: x :: digits) m := hexadecimal hmarker hdigits
    obtain rfl := Except.ok.inj (hplain.readUnsignedLiteral.symm.trans hread)
    exact hplain

theorem form (h : IsPlain body n) :
    (Json.isPlainDecimal body || Json.isMarkedHex body) = true := by
  rw [Bool.or_eq_true_iff]
  cases h with
  | decimal n h => exact .inl (isPlainDecimal_iff.mpr ⟨n, rfl⟩)
  | hexadecimal hmarker hdigits => exact .inr (isMarkedHex_iff.mpr ⟨_, _, _, rfl, hmarker, hdigits⟩)

end IsPlain

/-! ### Reading literals -/

theorem isAlphanum_iff : c.isAlphanum = true ↔
    (('A'.val ≤ c.val ∧ c.val ≤ 'Z'.val) ∨ 'a'.val ≤ c.val ∧ c.val ≤ 'z'.val) ∨
      '0'.val ≤ c.val ∧ c.val ≤ '9'.val := by
  have hupper : c.isUpper = true ↔ 'A'.val ≤ c.val ∧ c.val ≤ 'Z'.val := decide_eq_true_iff
  have hlower : c.isLower = true ↔ 'a'.val ≤ c.val ∧ c.val ≤ 'z'.val :=
    Bool.and_eq_true_iff.trans (and_congr decide_eq_true_iff decide_eq_true_iff)
  have hdigit : c.isDigit = true ↔ '0'.val ≤ c.val ∧ c.val ≤ '9'.val :=
    Bool.and_eq_true_iff.trans (and_congr decide_eq_true_iff decide_eq_true_iff)
  have halpha : c.isAlpha = true ↔ c.isUpper = true ∨ c.isLower = true := Bool.or_eq_true_iff
  rw [← hupper, ← hlower, ← hdigit, ← halpha]
  exact Bool.or_eq_true_iff

theorem isAlphanum_of_hexDigit? (h : (hexDigit? c).isSome = true) : c.isAlphanum = true := by
  unfold hexDigit? at h
  rw [isAlphanum_iff]
  split_ifs at h with h₀ h₁ h₂
  · exact .inr h₀
  · exact .inl (.inr ⟨h₁.1, UInt32.le_trans h₁.2 (by decide)⟩)
  · exact .inl (.inl ⟨h₂.1, UInt32.le_trans h₂.2 (by decide)⟩)
  · cases h

theorem isAlphanum_of_form (h : (Json.isPlainDecimal cs || Json.isMarkedHex cs) = true)
    (hc : c ∈ cs) : c.isAlphanum = true := by
  rcases Bool.or_eq_true_iff.mp h with hdecimal | hhex
  · obtain ⟨n, rfl⟩ := isPlainDecimal_iff.mp hdecimal
    have hdigit := Nat.isDigit_of_mem_toDigits (by decide) (Nat.le_refl 10) hc
    rw [Char.isAlphanum, hdigit, Bool.or_true]
  · obtain ⟨x, digits, n, rfl, hmarker, hdigits⟩ := isMarkedHex_iff.mp hhex
    rcases List.mem_cons.mp hc with rfl | hc
    · decide
    · rcases List.mem_cons.mp hc with rfl | hc
      · rcases hmarker with rfl | rfl <;> decide
      · exact isAlphanum_of_hexDigit? (isSome_hexDigit?_of_readHex? hdigits c hc)

/-- ASCII letters and digits stand for themselves in a literal, and are neither blanks nor signs. -/
theorem asciiForm_of_isAlphanum (h : c.isAlphanum = true) :
    asciiForm c = c ∧ isNumeralBlank c = false ∧ c ≠ '-' ∧ c ≠ '+' ∧ c ≠ '\n' := by
  have hascii : c.toNat < 128 := by
    rw [isAlphanum_iff] at h
    rcases h with (⟨-, h⟩ | ⟨-, h⟩) | ⟨-, h⟩
    all_goals exact Nat.lt_of_le_of_lt h (by decide)
  have hall : ∀ k < 128, (Char.ofNat k).isAlphanum = true →
      asciiForm (Char.ofNat k) = Char.ofNat k ∧ isNumeralBlank (Char.ofNat k) = false ∧
        Char.ofNat k ≠ '-' ∧ Char.ofNat k ≠ '+' ∧ Char.ofNat k ≠ '\n' := by decide
  have hc := hall c.toNat hascii
  rw [Char.ofNat_toNat] at hc
  exact hc h

theorem dropWhile_of_forall_not {p : Char → Bool} (h : ∀ c ∈ cs, p c = false) :
    cs.dropWhile p = cs := by
  cases cs with
  | nil => rfl
  | cons c cs => rw [List.dropWhile_cons, h c List.mem_cons_self, if_neg Bool.false_ne_true]

variable {body : List Char}

/-- Of a text without blanks, with a newline behind it or not, trimming leaves the text. -/
theorem trimNumeral_of_forall_not (h : ∀ c ∈ body, isNumeralBlank c = false)
    (hcs : cs = body ∨ cs = body ++ ['\n']) : trimNumeral cs = body := by
  -- Only the newline may be trimmed, and only if it comes last.
  have hback : body.reverse.dropWhile isNumeralBlank = body.reverse :=
    dropWhile_of_forall_not fun c hc => h c (List.mem_reverse.mp hc)
  rcases hcs with rfl | rfl
  · rw [trimNumeral, dropWhile_of_forall_not h, hback, List.reverse_reverse]
  · cases body with
    | nil => rfl
    | cons c body =>
      have hfront : (c :: body ++ ['\n']).dropWhile isNumeralBlank = c :: body ++ ['\n'] := by
        rw [List.cons_append, List.dropWhile_cons, h c List.mem_cons_self,
          if_neg Bool.false_ne_true]
      have hnewline : isNumeralBlank '\n' = true := by decide
      rw [trimNumeral, hfront, List.reverse_append, List.reverse_singleton,
        List.singleton_append, List.dropWhile_cons, hnewline, if_pos rfl, hback,
        List.reverse_reverse]

/-- A text of ASCII letters and digits, with a newline behind it or not, is read without sign. -/
theorem readLiteral_of_isAlphanum {s : String} (h : ∀ c ∈ body, c.isAlphanum = true)
    (hs : s.toList = body ∨ s.toList = body ++ ['\n']) :
    readLiteral s = (readUnsignedLiteral body).map Nat.cast := by
  have hform (c : Char) (hc : c ∈ body) := asciiForm_of_isAlphanum (h c hc)
  have hbody : body.map asciiForm = body :=
    (List.map_congr_left fun c hc => (hform c hc).1).trans (List.map_id body)
  have hascii : s.toList.map asciiForm = body ∨ s.toList.map asciiForm = body ++ ['\n'] := by
    have hnewline : asciiForm '\n' = '\n' := by decide
    rcases hs with hs | hs
    · exact .inl (by rw [hs, hbody])
    · exact .inr (by rw [hs, List.map_append, hbody, List.map_singleton, hnewline])
  -- A sign would be no letter and no digit.
  have hsign : splitSign body = (false, body) := by
    unfold splitSign
    split
    next => exact absurd rfl (hform '-' List.mem_cons_self).2.2.1
    next => exact absurd rfl (hform '+' List.mem_cons_self).2.2.2.1
    next => rfl
  rw [readLiteral, readSigned, trimNumeral_of_forall_not (fun c hc => (hform c hc).2.1) hascii,
    hsign]
  dsimp only
  cases readUnsignedLiteral body <;> rfl

/-! ### Texts of the form -/

theorem eq_or_eq_dropFinalNewline_append (cs : List Char) :
    cs = Json.dropFinalNewline cs ∨ cs = Json.dropFinalNewline cs ++ ['\n'] := by
  unfold Json.dropFinalNewline
  split
  next h =>
    obtain ⟨body, rfl⟩ := List.getLast?_eq_some_iff.mp h
    rw [List.dropLast_concat]
    exact .inr rfl
  next => exact .inl rfl

theorem dropFinalNewline_eq (h : '\n' ∉ body) (hcs : cs = body ∨ cs = body ++ ['\n']) :
    Json.dropFinalNewline cs = body := by
  unfold Json.dropFinalNewline
  rcases hcs with rfl | rfl
  · exact if_neg fun hlast => h (List.mem_of_getLast? hlast)
  · rw [List.getLast?_concat, if_pos rfl, List.dropLast_concat]

/-- A text has the form that is asked for and is read as a number exactly if it spells the number.
-/
theorem admits_and_readLiteral_iff {s : String} :
    Json.Pattern.address.admits s.toList = true ∧ readLiteral s = .ok (n : Int) ↔
      Spells s.toList n := by
  constructor
  · rintro ⟨hadmits, hread⟩
    -- What has the form holds letters and digits only, so trimming takes off no more than the
    -- newline that the form allows.
    have hs := eq_or_eq_dropFinalNewline_append s.toList
    rw [readLiteral_of_isAlphanum (fun c hc => isAlphanum_of_form hadmits hc) hs] at hread
    refine ⟨_, IsPlain.of_read hadmits ?_, hs⟩
    cases hbody : readUnsignedLiteral (Json.dropFinalNewline s.toList) with
    | error fault =>
      rw [hbody] at hread
      cases hread
    | ok m =>
      rw [hbody] at hread
      rw [Int.ofNat.inj (Except.ok.inj hread)]
  · rintro ⟨body, hplain, hs⟩
    have halphanum (c : Char) (hc : c ∈ body) := isAlphanum_of_form hplain.form hc
    have hnewline : '\n' ∉ body := fun hmem => absurd (halphanum '\n' hmem) (by decide)
    constructor
    · rw [Json.Pattern.admits, dropFinalNewline_eq hnewline hs]
      exact hplain.form
    · rw [readLiteral_of_isAlphanum halphanum hs, hplain.readUnsignedLiteral]
      rfl

end PointerChain.Text
