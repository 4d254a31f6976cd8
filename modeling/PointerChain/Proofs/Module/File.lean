import PointerChain.Proofs.Json.Limits
import PointerChain.Proofs.Module.Document

/-!
# Module files

A file gives a table, or an error. Most errors are failures of the module table, and are reported as
such. Four of them are not, but come out as they arise below the table: bytes that are no text, a
number with too many digits, values that are nested too deep, and a check of the document that goes
wrong. All of this is about validators that give no wrong verdicts.

* `DocumentError.IsReported` and `DocumentError.Escapes` are the two kinds of errors.
* `ModuleTable.isReported_or_escapes` and `DocumentError.Escapes.ofFile_eq` say that an error is one
  or the other, and what the file holds where it escapes.
* `ModuleTable.ofFile_of_plain` is about files in which nothing reaches a limit.
-/

namespace PointerChain

open Text (Mark)

/-- The marks of a text in a file, with all newlines made one. -/
def fileMarks (text : List Char) : List Mark := Text.marksOf (Text.joinNewlines text)

/-- An error that is a failure of the module table. -/
inductive DocumentError.IsReported : DocumentError → Prop
  /-- The document does not match the schema. -/
  | mismatch : IsReported .mismatch
  /-- An entry describes no module. -/
  | entry (fault : EntryFault) : IsReported (.table (.entry fault))
  /-- The file is no document. -/
  | malformed (path : String) (fault : Json.Fault) (place : Json.Place) :
      IsReported (.malformed path fault place)

/-- An error of the file that is no failure of the module table. -/
inductive DocumentError.Escapes (validator : Json.Validator) (depth : Nat) (bytes : List UInt8) :
    DocumentError → Prop
  /-- The file is no text. -/
  | undecodable {fault : Text.DecodeFault} (htext : Text.decodeUtf8 bytes = .error fault) :
      Escapes validator depth bytes (.undecodable fault)
  /-- A number in the file has too many digits. -/
  | tooManyDigits {text : List Char} {count : Nat} (htext : Text.decodeUtf8 bytes = .ok text)
      (hread : Json.readUnmarked depth (fileMarks text) = .error (.tooManyDigits count)) :
      Escapes validator depth bytes (.tooManyDigits count)
  /-- Values in the file are nested too deep. -/
  | tooDeep {text : List Char} {kind : String} (htext : Text.decodeUtf8 bytes = .ok text)
      (hread : Json.readUnmarked depth (fileMarks text) = .error (.tooDeep kind)) :
      Escapes validator depth bytes (.tooDeep kind)
  /-- The check of the document goes wrong. -/
  | unchecked {text : List Char} {j : Json} {fault : Json.LibraryFault}
      (htext : Text.decodeUtf8 bytes = .ok text)
      (hread : Json.readUnmarked depth (fileMarks text) = .ok j)
      (hcheck : validator moduleBundle j = .failed fault) :
      Escapes validator depth bytes (.unchecked fault)

variable {validator : Json.Validator} {depth : Nat} {path : String} {bytes : List UInt8}
variable {text : List Char} {error : DocumentError}

theorem DocumentError.Escapes.not_isReported (h : error.Escapes validator depth bytes) :
    ¬error.IsReported := by
  cases h <;> exact nofun

/-- No error escapes from a text in which no number is too long and too little is open, if the check
of the document does not go wrong. -/
theorem DocumentError.not_escapes (htext : Text.decodeUtf8 bytes = .ok text)
    (hdigits : ∀ count, ¬Json.LongRun (fileMarks text) count)
    (hdepth : Json.openings (fileMarks text) ≤ depth)
    (hcheck : ∀ j, Json.readUnmarked depth (fileMarks text) = .ok j →
      validator.Decides moduleBundle j) :
    ¬error.Escapes validator depth bytes := by
  intro h
  cases h with
  | undecodable hfault => exact nomatch htext.symm.trans hfault
  | @tooManyDigits _ count htext' hread =>
    obtain rfl := Except.ok.inj (htext.symm.trans htext')
    exact hdigits count (Json.explained_of_readUnmarked hread)
  | tooDeep htext' hread =>
    obtain rfl := Except.ok.inj (htext.symm.trans htext')
    exact Nat.not_lt.mpr hdepth (Json.explained_of_readUnmarked hread)
  | unchecked htext' hread hfailed =>
    obtain rfl := Except.ok.inj (htext.symm.trans htext')
    have hdecides := hcheck _ hread
    rw [Json.Validator.Decides, hfailed] at hdecides
    split at hdecides <;> cases hdecides

namespace ModuleTable

theorem ofFile_of_text (validator : Json.Validator) (depth : Nat) (path : String)
    (htext : Text.decodeUtf8 bytes = .ok text) :
    ofFile validator depth path bytes =
      match Json.readUnmarked depth (fileMarks text) with
      | .ok j => ofDocument validator j
      | .error (.malformed fault place) => .error (.malformed path fault place)
      | .error (.tooManyDigits count) => .error (.tooManyDigits count)
      | .error (.tooDeep kind) => .error (.tooDeep kind) := by
  rw [ofFile, htext]
  rfl

theorem ofDocument_of_failed {j : Json} {fault : Json.LibraryFault}
    (h : validator moduleBundle j = .failed fault) :
    ofDocument validator j = .error (.unchecked fault) := by
  rw [ofDocument, h]

/-- Every error is reported, or it escapes. -/
theorem isReported_or_escapes (hsound : validator.Sound moduleBundle)
    (h : ofFile validator depth path bytes = .error error) :
    error.IsReported ∨ error.Escapes validator depth bytes := by
  cases htext : Text.decodeUtf8 bytes with
  | error fault =>
    rw [ofFile, htext] at h
    obtain rfl := Except.error.inj h
    exact .inr (.undecodable htext)
  | ok text =>
    rw [ofFile_of_text validator depth path htext] at h
    -- What is wrong with the document itself is reported. The limits of the reader and a check that
    -- goes wrong escape.
    split at h
    next j hread =>
      rcases hsound j with hdecides | ⟨fault, hfailed⟩
      · rcases refusal_of_ofDocument_eq_error hdecides h with rfl | ⟨fault, rfl⟩
        · exact .inl .mismatch
        · exact .inl (.entry fault)
      · rw [ofDocument_of_failed hfailed] at h
        obtain rfl := Except.error.inj h
        exact .inr (.unchecked htext hread hfailed)
    next fault place _ =>
      obtain rfl := Except.error.inj h
      exact .inl (.malformed path fault place)
    next count hread =>
      obtain rfl := Except.error.inj h
      exact .inr (.tooManyDigits htext hread)
    next kind hread =>
      obtain rfl := Except.error.inj h
      exact .inr (.tooDeep htext hread)

/-- A file in which nothing reaches a limit gives a table, or an error that is reported. -/
theorem ofFile_of_plain (hsound : validator.Sound moduleBundle) (path : String)
    (htext : Text.decodeUtf8 bytes = .ok text)
    (hdigits : ∀ count, ¬Json.LongRun (fileMarks text) count)
    (hdepth : Json.openings (fileMarks text) ≤ depth)
    (hcheck : ∀ j, Json.readUnmarked depth (fileMarks text) = .ok j →
      validator.Decides moduleBundle j) :
    (∃ table, ofFile validator depth path bytes = .ok table) ∨
      ∃ error, ofFile validator depth path bytes = .error error ∧ error.IsReported := by
  cases h : ofFile validator depth path bytes with
  | ok table => exact .inl ⟨table, rfl⟩
  | error error =>
    have hnot : ¬error.Escapes validator depth bytes :=
      DocumentError.not_escapes htext hdigits hdepth hcheck
    exact .inr ⟨error, rfl, (isReported_or_escapes hsound h).resolve_right hnot⟩

end ModuleTable

/-- An error that escapes is the one that the file gives, under any path. -/
theorem DocumentError.Escapes.ofFile_eq (h : error.Escapes validator depth bytes) (path : String) :
    ModuleTable.ofFile validator depth path bytes = .error error := by
  cases h with
  | undecodable htext =>
    rw [ModuleTable.ofFile, htext]
    rfl
  | tooManyDigits htext hread => rw [ModuleTable.ofFile_of_text _ _ path htext, hread]
  | tooDeep htext hread => rw [ModuleTable.ofFile_of_text _ _ path htext, hread]
  | unchecked htext hread hcheck =>
    rw [ModuleTable.ofFile_of_text _ _ path htext, hread]
    exact ModuleTable.ofDocument_of_failed hcheck

end PointerChain
