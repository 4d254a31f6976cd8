import PointerChain.Proofs.CommandLine.Disassembling
import PointerChain.Proofs.CommandLine.Loading
import PointerChain.Proofs.Module.File

/-!
# How loading a module file ends

A run that comes to load its module table from a file goes on with the table, or it ends right
there: with status 1 and a report, if the error is a failure of the module table, and in a crash
otherwise.

* `Session.ComesTo` says that a run comes to a part of it, and `LoadsTable` that it comes to load
  its module table.
* `moduleFile_ends` is about all files and about all runs that load them.
-/

namespace PointerChain.CommandLine

variable {α β : Type} {env opened started found : Environment} {line : List String}
  {settings : Settings} {command : Command}

/-! ### Parts that a run comes to -/

namespace Session

/-- A run that comes to a part: it does something, then the part, and then what the value of the
part calls for. -/
def ComesTo (x : Session Unit) (y : Session α) : Prop :=
  ∃ (notes : List Note) (behind : α → Session Unit),
    x = ⟨notes ++ (y >>= behind).events, (y >>= behind).result⟩

variable {x : Session β} {y : Session α} {z : Session Unit} {stop : Stop}

theorem comesTo_bind (y : Session α) (behind : α → Session Unit) : ComesTo (y >>= behind) y :=
  ⟨[], behind, rfl⟩

/-- What comes in front of the part gives a value. -/
theorem ComesTo.bind {b : β} {f : β → Session Unit} (hx : x.result = .ok b)
    (h : ComesTo (f b) y) : ComesTo (x >>= f) y := by
  obtain ⟨notes, behind, heq⟩ := h
  refine ⟨x.events ++ notes, behind, ?_⟩
  rw [Trace.bind_of_ok hx, heq, List.append_assoc]

theorem ComesTo.ite_report {c : Prop} [Decidable c] (text : String) (h : z.ComesTo y) :
    ComesTo (if c then report text >>= fun _ => z else z) y := by
  split
  · exact .bind rfl h
  · exact h

/-- A run ends where a part ends that it comes to. -/
theorem ComesTo.exists_of_error (h : z.ComesTo y) (hy : y.result = .error stop) :
    z.result = .error stop ∧ ∃ notes, z.events = notes ++ y.events := by
  obtain ⟨notes, behind, rfl⟩ := h
  rw [Trace.bind_of_error hy]
  exact ⟨rfl, notes, rfl⟩

end Session

/-- A report at the end is what the console shows last. -/
theorem exists_consoleText_reported (level : Level) (notes : List Note) (text : String) :
    ∃ shown, consoleText level (notes ++ [.reported text]) = shown ++ text := by
  induction notes generalizing level with
  | nil => exact ⟨"", congrArg ("" ++ ·) String.append_empty⟩
  | cons note notes ih =>
    -- the note may change the level, and puts something in front at most
    obtain ⟨level', front, hfront⟩ : ∃ level' front, ∀ more,
        consoleText level (note :: more) = front ++ consoleText level' more := by
      cases note with
      | reported t => exact ⟨level, t, fun _ => rfl⟩
      | recorded record => exact ⟨level, _, fun _ => rfl⟩
      | threshold level' => exact ⟨level', "", fun _ => String.empty_append.symm⟩
      | printed t => exact ⟨level, "", fun _ => String.empty_append.symm⟩
      | logFile path => exact ⟨level, "", fun _ => String.empty_append.symm⟩
    obtain ⟨shown, hshown⟩ := ih level'
    exact ⟨front ++ shown, by rw [List.cons_append, hfront, hshown, String.append_assoc]⟩

namespace Session.ComesTo

variable {z : Session Unit}

theorem ending_of_crash {records : List LogRecord} {c : Crash}
    (h : z.ComesTo (Session.recordAll records >>= fun _ => (Session.crash c : Session α))) :
    z.transcript.ending = .error c := by
  have hstop : (Session.recordAll records >>= fun _ =>
      (Session.crash c : Session α)).result = .error (.crash c) := rfl
  obtain ⟨hresult, -⟩ := h.exists_of_error hstop
  rw [Session.transcript, hresult]

/-- A run ends with status 1 where it comes to a failure, and shows its report last. -/
theorem transcript_of_fail {records : List LogRecord} {failure : Failure}
    (h : z.ComesTo (Session.recordAll records >>= fun _ => (Session.fail failure : Session α))) :
    z.transcript.ending = .ok 1 ∧ ∃ shown, z.transcript.console = shown ++ failure.report := by
  have hstop : (Session.recordAll records >>= fun _ =>
      (Session.fail failure : Session α)).result = .error (.exit 1) := rfl
  obtain ⟨hresult, notes, hevents⟩ := h.exists_of_error hstop
  refine ⟨by rw [Session.transcript, hresult], ?_⟩
  obtain ⟨shown, hshown⟩ := exists_consoleText_reported .warning
    (notes ++ records.map .recorded) failure.report
  refine ⟨shown, ?_⟩
  rw [Session.transcript, hevents, ← hshown, List.append_assoc]
  rfl

end Session.ComesTo

/-! ### Runs that load a module table -/

/-- A run gets ready for a command: the command line is read, the log is started, the verbosity
selects a level, and there is a command. -/
inductive GetsReady (env : Environment) (line : List String) :
    Environment → Command → Settings → Prop
  | intro {records : List LogRecord} {invocation : Invocation} {opened : Environment}
      {level : Level} {command : Command} {settings : Settings}
      (hinvocation : (invocationOf env line).result = .ok (records, invocation))
      (hlog : (startLog env (invocation.general.get "log")).result = .ok opened)
      (hlevel : Level.ofVerbosity (invocation.general.get "verbosity") = .ok level)
      (hcommand : (selectCommand invocation).result = .ok (command, settings)) :
      GetsReady env line (opened.keep records) command settings

/-- A run comes to load its module table, in an environment and with the settings of its command. -/
inductive LoadsTable (env : Environment) (line : List String) : Environment → Settings → Prop
  /-- There is a process, and something to resolve. -/
  | resolve {started : Environment} {settings : Settings} {process : ProcessId} {expression : Json}
      (hready : GetsReady env line started .resolve settings)
      (hprocess : (targetProcess .resolve settings).result = .ok process)
      (hexpression : (Session.setting settings "expression").result = .ok expression) :
      LoadsTable env line started settings
  /-- There is a process, a source of memory, and something to resolve. -/
  | disassemble {started found : Environment} {settings : Settings} {process : ProcessId}
      {source : Source} {expression : Json}
      (hready : GetsReady env line started .disassemble settings)
      (hprocess : (targetProcess .disassemble settings).result = .ok process)
      (hsource : (selectSource started settings).result = .ok (found, source))
      (hexpression : (Session.setting settings "expression").result = .ok expression) :
      LoadsTable env line found settings

theorem GetsReady.comesTo {y : Session α} (h : GetsReady env line started command settings)
    (hcommand : (runCommand started command settings).ComesTo y) : (run env line).ComesTo y := by
  obtain @⟨records, invocation, opened, level, _, _, hinvocation, hlog, hlevel, hselect⟩ := h
  unfold run
  have hthreshold : (Session.orCrash ((Level.ofVerbosity
      (invocation.general.get "verbosity")).mapError .verbosity)).result = .ok level := by
    rw [hlevel]
    rfl
  -- whether the run greets the user makes no difference to what it comes to
  refine .bind hinvocation (.ite_report _ ?_)
  refine .bind hlog (.bind hthreshold ?_)
  exact .bind rfl (.bind rfl (.bind hselect hcommand))

theorem LoadsTable.comesTo (h : LoadsTable env line found settings) :
    (run env line).ComesTo (loadModules found settings) := by
  cases h with
  | resolve hready hprocess hexpression =>
    refine hready.comesTo ?_
    unfold runCommand runResolve
    exact .bind hprocess (.bind hexpression (Session.comesTo_bind _ _))
  | disassemble hready hprocess hsource hexpression =>
    refine hready.comesTo ?_
    unfold runCommand runDisassemble
    exact .bind hprocess (.bind hsource (.bind hexpression (Session.comesTo_bind _ _)))

/-! ### The end of loading -/

variable {file : Json} {bytes : Host.Contents} {error : DocumentError}

theorem loadModules_of_error (hfile : settings.find? "modules" = some file) (hnull : file ≠ .null)
    (hcontents : env.contents file = .ok bytes)
    (h : ModuleTable.ofFile env.validator env.documentDepth file.shown bytes = .error error) :
    loadModules env settings =
      (Session.recordAll (documentRecords (.error error)) >>= fun _ =>
        Session.failDocument error) := by
  rw [loadModules, Session.setting, hfile]
  dsimp only
  rw [pure_bind]
  split
  next => exact absurd rfl hnull
  next =>
    rw [hcontents]
    dsimp only
    rw [h]

theorem failDocument_of_isReported (h : error.IsReported) :
    (Session.failDocument error : Session α) =
      Session.fail (.moduleTable [.string error.message]) := by
  cases h <;> rfl

theorem failDocument_of_escapes {validator : Json.Validator} {depth : Nat}
    (h : error.Escapes validator depth bytes) :
    ∃ c : Crash, c.message = error.message ∧
      (Session.failDocument error : Session α) = Session.crash c := by
  cases h with
  | undecodable => exact ⟨.undecodable _, rfl, rfl⟩
  | tooManyDigits => exact ⟨.tooManyDigits _, rfl, rfl⟩
  | tooDeep => exact ⟨.tooDeep _, rfl, rfl⟩
  | unchecked => exact ⟨.library _, rfl, rfl⟩

/-- How loading a module file ends, whatever bytes it holds, if documents are checked with no wrong
verdicts. It gives a table, or an error that is reported as a failure of the module table, or one
that escapes: the bytes are no text, the text has a number with too many digits or values that are
nested too deep, or the check of the document goes wrong. No error escapes from a text in which
there are never so many digits in a row, not so many lists and objects that open, and no document
whose check goes wrong. A run that loads the file ends with status 1 and the report for an error
that is reported, and in a crash with the text of the error for one that escapes. -/
theorem moduleFile_ends {validator : Json.Validator} (hsound : validator.Sound moduleBundle)
    (depth : Nat) (path : String) (bytes : Host.Contents) :
    (∀ error, ModuleTable.ofFile validator depth path bytes = .error error →
      error.IsReported ∨ error.Escapes validator depth bytes) ∧
    (∀ error : DocumentError, error.Escapes validator depth bytes →
      ModuleTable.ofFile validator depth path bytes = .error error ∧ ¬error.IsReported) ∧
    (∀ text, Text.decodeUtf8 bytes = .ok text →
      (∀ count, ¬Json.LongRun (fileMarks text) count) →
      Json.openings (fileMarks text) ≤ depth →
      (∀ j, Json.readUnmarked depth (fileMarks text) = .ok j → validator.Decides moduleBundle j) →
        (∃ table, ModuleTable.ofFile validator depth path bytes = .ok table) ∨
          ∃ error, ModuleTable.ofFile validator depth path bytes = .error error ∧
            error.IsReported) ∧
    ∀ env line found settings file, LoadsTable env line found settings →
      found.validator = validator → found.documentDepth = depth →
      settings.find? "modules" = some file → file ≠ .null → file.shown = path →
      found.contents file = .ok bytes →
      ∀ error, ModuleTable.ofFile validator depth path bytes = .error error →
        let t := (run env line).transcript
        (error.IsReported → t.ending = .ok 1 ∧
          ∃ shown, t.console =
            shown ++ (Failure.moduleTable [.string error.message]).report) ∧
        (error.Escapes validator depth bytes →
          ∃ c : Crash, t.ending = .error c ∧ c.message = error.message) := by
  refine ⟨?_, ?_, ?_, ?_⟩
  · intro error h
    exact ModuleTable.isReported_or_escapes hsound h
  · intro error h
    exact ⟨h.ofFile_eq path, h.not_isReported⟩
  · intro text htext hdigits hdepth hcheck
    exact ModuleTable.ofFile_of_plain hsound path htext hdigits hdepth hcheck
  · intro env line found settings file hloads hvalidator hdepth hfile hnull hpath hcontents error
      h t
    subst hvalidator hdepth hpath
    have hcomes := hloads.comesTo
    rw [loadModules_of_error hfile hnull hcontents h] at hcomes
    refine ⟨?_, ?_⟩
    · intro hreported
      rw [failDocument_of_isReported hreported] at hcomes
      exact hcomes.transcript_of_fail
    · intro hescapes
      obtain ⟨c, hmessage, hcrash⟩ := failDocument_of_escapes hescapes
      rw [hcrash] at hcomes
      exact ⟨c, hcomes.ending_of_crash, hmessage⟩

/-- A module file that holds one opening bracket is reported, and the run that loads it ends with
status 1. -/
theorem moduleFile_ends_sample :
    let error : DocumentError := .malformed "m.json" .expectedValue ⟨1, 1, 2⟩
    let t := (run (configuredEnvironment [("m.json", [0x5b])])
      ["resolve", "-p", "7", "-m", "m.json", "0"]).transcript
    ModuleTable.ofFile Json.Bundle.validate 10 "m.json" [0x5b] = .error error ∧
      t.ending = .ok 1 ∧
      ∃ shown, t.console = shown ++ (Failure.moduleTable [.string error.message]).report := by
  intro error t
  let env := configuredEnvironment [("m.json", [0x5b])]
  have hread : Json.readUnmarked 10 (fileMarks ['[']) =
      .error (.malformed .expectedValue ⟨1, 1, 2⟩) := by decide +kernel
  have hfile : ModuleTable.ofFile Json.Bundle.validate 10 "m.json" [0x5b] = .error error := by
    rw [ModuleTable.ofFile_of_text _ _ _ (show Text.decodeUtf8 [0x5b] = .ok ['['] from rfl), hread]
  obtain ⟨records, general, settings, hinvocation, hvalues⟩ :=
    @exists_invocationOf_eq_ok env _ ["resolve", "-p", "7", "-m", "m.json", "0"]
      (fun general settings => (["log", "verbosity"].map fun key => general.get (.ofString key),
        ["pid", "modules", "expression"].map fun key => settings.find? (.ofString key)))
      .resolve ([.null, .integer 0], [some (.integer 7), some (.string "m.json"),
        some (.string "0")]) (by decide +kernel)
  simp only [Prod.mk.injEq, List.map_cons, List.cons.injEq] at hvalues
  obtain ⟨⟨hlog, hlevel, -⟩, hprocess, hmodules, hexpression, -⟩ := hvalues
  -- No file is asked for to keep the log, and the verbosity is zero.
  have hready : GetsReady env ["resolve", "-p", "7", "-m", "m.json", "0"] (env.keep records)
      .resolve settings := by
    have hstart : (startLog env (general.get "log")).result = .ok env := by
      rw [hlog]
      rfl
    have hwarning : Level.ofVerbosity (general.get "verbosity") = .ok .warning := by
      rw [hlevel]
      rfl
    exact .intro hinvocation hstart hwarning rfl
  -- The process and the expression are settled before the table is loaded.
  have hloads : LoadsTable env ["resolve", "-p", "7", "-m", "m.json", "0"] (env.keep records)
      settings := by
    have htarget : (targetProcess .resolve settings).result = .ok ⟨.integer 7⟩ := by
      rw [targetProcess, Session.setting, hprocess]
      rfl
    have htext : (Session.setting settings "expression").result = .ok (.string "0") := by
      rw [Session.setting, hexpression]
      rfl
    exact .resolve hready htarget htext
  have hends := (moduleFile_ends (Json.Bundle.sound_validate moduleBundle) 10 "m.json" [0x5b]).2.2.2
    env _ _ settings _ hloads rfl rfl hmodules (by simp) rfl rfl error hfile
  exact ⟨hfile, hends.1 (.malformed _ _ _)⟩

/-- A module file that holds a byte that starts no character is not reported: its error is no
failure of the module table, and a run that loads the file crashes. -/
theorem moduleFile_ends_crashed :
    let fault : Text.DecodeFault := ⟨"utf-8", 0, 1, 0xff, .invalidStart⟩
    ModuleTable.ofFile Json.Bundle.validate 10 "m.json" [0xff] = .error (.undecodable fault) ∧
      ¬(DocumentError.undecodable fault).IsReported ∧
      (run (configuredEnvironment [("m.json", [0xff])])
          ["resolve", "-p", "7", "-m", "m.json", "0"]).transcript.ending =
        .error (.undecodable fault) := by
  intro fault
  exact ⟨rfl, nofun, by decide +kernel⟩

end PointerChain.CommandLine
