import PointerChain.CommandLine.Run
import PointerChain.Proofs.CommandLine.Origin
import PointerChain.Proofs.Outcome

/-!
# How loading a configuration ends

A run loads a default configuration, if it is there, and the one that is asked for. Whatever these
files hold, a configuration comes out, or the run ends right there: with the report that it was used
wrongly, or in a crash. The two files do not crash for the same reasons, since only the second one
is reported when it cannot be opened or holds no document.

* `Environment.DefaultsCrash` and `Environment.ConfigurationCrash` list the reasons for a crash,
  `Environment.ConfigurationReport` those for a report. `Environment.Defaults` and
  `Environment.Configuration` are what comes out otherwise.
* `Environment.defaults_or_crash` and `Environment.configuration_or_end` say that this is all that
  can happen.
* `invocationOf_of_not_asked` and `invocationOf_of_configuration` say how a run goes on.
* `run_loading` is about all files and command lines.
-/

namespace PointerChain.CommandLine

/-- The crash of a document that cannot be read. -/
def Crash.ofReadError : Json.ReadError → Crash
  | .malformed fault place => .malformed fault place
  | .tooManyDigits digits => .tooManyDigits digits
  | .tooDeep kind => .tooDeep kind

/-- A run that crashes before it shows anything. -/
def Transcript.crashed (c : Crash) : Transcript := ⟨"", "", none, .error c⟩

/-- A run that ends with the report that it was used wrongly and shows nothing else. -/
def Transcript.refused (program message : String) : Transcript :=
  ⟨"", program ++ ": error: " ++ message ++ "\n", none, .ok 2⟩

namespace Environment

/-- The bytes of the default configuration, which is there. -/
def DefaultsHold (env : Environment) (contents : Host.Contents) : Prop :=
  env.files.holds env.defaultsPath = true ∧ env.files.read env.defaultsPath = .ok contents

/-- Why the default configuration makes a run crash. -/
inductive DefaultsCrash (env : Environment) : Crash → Prop
  /-- It is there, but is no file that can be read. -/
  | file {fault : Host.Fault} (hholds : env.files.holds env.defaultsPath = true)
      (hread : env.files.read env.defaultsPath = .error fault) : DefaultsCrash env (.file fault)
  /-- It is no text in the encoding that it shows. -/
  | text {contents : Host.Contents} {fault : Text.DecodeFault} (hholds : env.DefaultsHold contents)
      (htext : Text.decodeDetected contents = .error fault) : DefaultsCrash env (.undecodable fault)
  /-- It is no document. -/
  | document {contents : Host.Contents} {marks : List Text.Mark} {error : Json.ReadError}
      (hholds : env.DefaultsHold contents) (htext : Text.decodeDetected contents = .ok marks)
      (hdocument : Json.read env.configurationDepth marks = .error error) :
      DefaultsCrash env (.ofReadError error)

/-- What comes out of the default configuration, with the records about it. -/
inductive Defaults (env : Environment) : List LogRecord → Settings → Prop
  /-- It is not there. -/
  | absent (hholds : env.files.holds env.defaultsPath = false) : Defaults env [] []
  /-- It is an object. -/
  | object {contents : Host.Contents} {marks : List Text.Mark} {fields : Settings}
      (hholds : env.DefaultsHold contents) (htext : Text.decodeDetected contents = .ok marks)
      (hdocument : Json.read env.configurationDepth marks = .ok (.object fields)) :
      Defaults env
        [ownRecord .info ("Loading default configuration options from " ++ env.defaultsPath.text),
          ownRecord .debug ("Loaded configuration: " ++ (Json.object fields).sorted.pretty)] fields
  /-- It is a document that is no object, and is ignored. -/
  | ignored {contents : Host.Contents} {marks : List Text.Mark} {j : Json}
      (hholds : env.DefaultsHold contents) (htext : Text.decodeDetected contents = .ok marks)
      (hdocument : Json.read env.configurationDepth marks = .ok j)
      (hobject : ∀ fields, j ≠ .object fields) :
      Defaults env
        [ownRecord .info ("Default configuration file " ++ env.defaultsPath.text ++
          " does not contain a dictionary")] []

/-- The text of the configuration that is asked for. -/
def ConfigurationHolds (env : Environment) (file : Json) (text : List Char) : Prop :=
  ∃ contents chars, env.contents file = .ok contents ∧ Text.decodeUtf8 contents = .ok chars ∧
    Text.joinNewlines chars = text

/-- Why the configuration that is asked for makes a run crash. -/
inductive ConfigurationCrash (env : Environment) (file : Json) : Crash → Prop
  /-- What stands for the file makes no sense. -/
  | file {c : Crash} (hfile : env.contents file = .error (.crash c)) : ConfigurationCrash env file c
  /-- It is no text in UTF-8. -/
  | text {contents : Host.Contents} {fault : Text.DecodeFault}
      (hfile : env.contents file = .ok contents)
      (htext : Text.decodeUtf8 contents = .error fault) :
      ConfigurationCrash env file (.undecodable fault)
  /-- It holds a number with too many digits, or values that are nested too deep. -/
  | document {text : List Char} {error : Json.ReadError}
      (hholds : env.ConfigurationHolds file text)
      (hdocument : Json.readUnmarked env.configurationDepth (Text.marksOf text) = .error error)
      (hlimit : ∀ fault place, error ≠ .malformed fault place) :
      ConfigurationCrash env file (.ofReadError error)

/-- Why the configuration that is asked for ends a run with a report. -/
inductive ConfigurationReport (env : Environment) (file : Json) : ConfigurationFault → Prop
  /-- The file cannot be opened. -/
  | file {fault : Host.Fault} (hfile : env.contents file = .error (.refused fault)) :
      ConfigurationReport env file (.refused fault)
  /-- It is no document. -/
  | document {text : List Char} {fault : Json.Fault} {place : Json.Place}
      (hholds : env.ConfigurationHolds file text)
      (hdocument : Json.readUnmarked env.configurationDepth (Text.marksOf text) =
        .error (.malformed fault place)) :
      ConfigurationReport env file (.malformed fault place)
  /-- It is a document that is no object. -/
  | kind {text : List Char} {j : Json} (hholds : env.ConfigurationHolds file text)
      (hdocument : Json.readUnmarked env.configurationDepth (Text.marksOf text) = .ok j)
      (hobject : ∀ fields, j ≠ .object fields) : ConfigurationReport env file .notObject

/-- The object that the configuration that is asked for is. -/
def Configuration (env : Environment) (file : Json) (fields : Settings) : Prop :=
  ∃ text, env.ConfigurationHolds file text ∧
    Json.readUnmarked env.configurationDepth (Text.marksOf text) = .ok (.object fields)

end Environment

variable {env : Environment} {file : Json} {line : List String} {c : Crash}

/-! ### The default configuration -/

theorem readDefaults_of_text {depth : Nat} {contents : Host.Contents} {marks : List Text.Mark}
    (htext : Text.decodeDetected contents = .ok marks) :
    readDefaults depth contents = (Json.read depth marks).mapError .ofReadError := by
  rw [readDefaults, htext]
  simp only [Except.mapError, bind, Except.bind]
  cases Json.read depth marks with
  | ok j => rfl
  | error error => cases error <;> rfl

theorem readDefaults_of_no_text {depth : Nat} {contents : Host.Contents}
    {fault : Text.DecodeFault} (htext : Text.decodeDetected contents = .error fault) :
    readDefaults depth contents = .error (.undecodable fault) := by
  rw [readDefaults, htext]
  rfl

theorem loadDefaults_of_hold {contents : Host.Contents} (h : env.DefaultsHold contents) :
    loadDefaults env = (readDefaults env.configurationDepth contents).map
      (defaultsOf env.defaultsPath) := by
  rw [loadDefaults, if_pos h.1, h.2]
  simp only [Except.mapError, bind, Except.bind]
  cases readDefaults env.configurationDepth contents with
  | ok j => rfl
  | error c => rfl

namespace Environment

theorem DefaultsCrash.loadDefaults (h : env.DefaultsCrash c) : loadDefaults env = .error c := by
  cases h with
  | file hholds hread =>
    rw [CommandLine.loadDefaults, if_pos hholds, hread]
    rfl
  | text hholds htext =>
    rw [loadDefaults_of_hold hholds, readDefaults_of_no_text htext]
    rfl
  | document hholds htext hdocument =>
    rw [loadDefaults_of_hold hholds, readDefaults_of_text htext, hdocument]
    rfl

theorem Defaults.loadDefaults {records : List LogRecord} {defaults : Settings}
    (h : env.Defaults records defaults) : loadDefaults env = .ok (records, defaults) := by
  cases h with
  | absent hholds =>
    rw [CommandLine.loadDefaults, hholds]
    rfl
  | object hholds htext hdocument =>
    rw [loadDefaults_of_hold hholds, readDefaults_of_text htext, hdocument]
    rfl
  | @ignored _ _ j hholds htext hdocument hobject =>
    rw [loadDefaults_of_hold hholds, readDefaults_of_text htext, hdocument]
    cases j with
    | object fields => exact absurd rfl (hobject fields)
    | null | bool _ | integer _ | real _ | string _ | array _ => rfl

/-- Whatever is there, a default configuration comes out or the run crashes. -/
theorem defaults_or_crash (env : Environment) :
    (∃ c, env.DefaultsCrash c) ∨ ∃ records defaults, env.Defaults records defaults := by
  -- The file is opened, decoded and read, in this order, and the first thing to go wrong crashes
  -- the run.
  cases hholds : env.files.holds env.defaultsPath with
  | false => exact .inr ⟨_, _, .absent hholds⟩
  | true =>
    cases hread : env.files.read env.defaultsPath with
    | error fault => exact .inl ⟨_, .file hholds hread⟩
    | ok contents =>
      cases htext : Text.decodeDetected contents with
      | error fault => exact .inl ⟨_, .text ⟨hholds, hread⟩ htext⟩
      | ok marks =>
        cases hdocument : Json.read env.configurationDepth marks with
        | error error => exact .inl ⟨_, .document ⟨hholds, hread⟩ htext hdocument⟩
        | ok j =>
          refine .inr ?_
          cases j with
          | object fields => exact ⟨_, _, .object ⟨hholds, hread⟩ htext hdocument⟩
          | null | bool _ | integer _ | real _ | string _ | array _ =>
            exact ⟨_, _, .ignored ⟨hholds, hread⟩ htext hdocument nofun⟩

end Environment

/-! ### The configuration that is asked for -/

theorem readConfiguration_of_text {depth : Nat} {contents : Host.Contents} {chars : List Char}
    (h : Text.decodeUtf8 contents = .ok chars) :
    readConfiguration depth contents =
      match Json.readUnmarked depth (Text.marksOf (Text.joinNewlines chars)) with
      | .ok (.object fields) => .ok (.ok fields)
      | .ok _ => .ok (.error .notObject)
      | .error (.malformed fault place) => .ok (.error (.malformed fault place))
      | .error error => .error (.ofReadError error) := by
  rw [readConfiguration, decoded, h]
  simp only [Except.map, Except.mapError, bind, Except.bind]
  cases Json.readUnmarked depth (Text.marksOf (Text.joinNewlines chars)) with
  | ok j => cases j <;> rfl
  | error error => cases error <;> rfl

namespace Environment

theorem Configuration.loadConfiguration {fields : Settings} (h : env.Configuration file fields) :
    loadConfiguration env file = pure fields := by
  obtain ⟨_, ⟨contents, chars, hfile, htext, rfl⟩, hdocument⟩ := h
  rw [CommandLine.loadConfiguration, hfile]
  dsimp only
  rw [readConfiguration_of_text htext, hdocument]
  rfl

theorem ConfigurationCrash.loadConfiguration (h : env.ConfigurationCrash file c) :
    loadConfiguration env file = Session.crash c := by
  cases h with
  | file hfile => rw [CommandLine.loadConfiguration, hfile]
  | text hfile htext =>
    rw [CommandLine.loadConfiguration, hfile]
    dsimp only
    rw [readConfiguration, decoded, htext]
    rfl
  | @document _ error hholds hdocument hlimit =>
    obtain ⟨contents, chars, hfile, htext, rfl⟩ := hholds
    rw [CommandLine.loadConfiguration, hfile]
    dsimp only
    rw [readConfiguration_of_text htext, hdocument]
    cases error with
    | malformed fault place => exact absurd rfl (hlimit fault place)
    | tooManyDigits digits => rfl
    | tooDeep kind => rfl

theorem ConfigurationReport.loadConfiguration {fault : ConfigurationFault}
    (h : env.ConfigurationReport file fault) :
    loadConfiguration env file = Session.refuse programName (fault.message file.shown) := by
  cases h with
  | file hfile => rw [CommandLine.loadConfiguration, hfile]
  | document hholds hdocument =>
    obtain ⟨contents, chars, hfile, htext, rfl⟩ := hholds
    rw [CommandLine.loadConfiguration, hfile]
    dsimp only
    rw [readConfiguration_of_text htext, hdocument]
    rfl
  | @kind _ j hholds hdocument hobject =>
    obtain ⟨contents, chars, hfile, htext, rfl⟩ := hholds
    rw [CommandLine.loadConfiguration, hfile]
    dsimp only
    rw [readConfiguration_of_text htext, hdocument]
    cases j with
    | object fields => exact absurd rfl (hobject fields)
    | null | bool _ | integer _ | real _ | string _ | array _ => rfl

/-- Whatever the file holds, a configuration comes out or the run ends. -/
theorem configuration_or_end (env : Environment) (file : Json) :
    (∃ c, env.ConfigurationCrash file c) ∨ (∃ fault, env.ConfigurationReport file fault) ∨
      ∃ fields, env.Configuration file fields := by
  -- A refused file and a malformed document are reported. Bytes that are no text and the limits on
  -- digits and nesting crash the run.
  cases hfile : env.contents file with
  | error fault =>
    cases fault with
    | refused fault => exact .inr (.inl ⟨_, .file hfile⟩)
    | crash c => exact .inl ⟨_, .file hfile⟩
  | ok contents =>
    cases htext : Text.decodeUtf8 contents with
    | error fault => exact .inl ⟨_, .text hfile htext⟩
    | ok chars =>
      have hholds : env.ConfigurationHolds file (Text.joinNewlines chars) :=
        ⟨contents, chars, hfile, htext, rfl⟩
      cases hdocument : Json.readUnmarked env.configurationDepth
          (Text.marksOf (Text.joinNewlines chars)) with
      | error error =>
        cases error with
        | malformed fault place => exact .inr (.inl ⟨_, .document hholds hdocument⟩)
        | tooManyDigits _ | tooDeep _ => exact .inl ⟨_, .document hholds hdocument nofun⟩
      | ok j =>
        cases j with
        | object fields => exact .inr (.inr ⟨fields, _, hholds, hdocument⟩)
        | null | bool _ | integer _ | real _ | string _ | array _ =>
          exact .inr (.inl ⟨_, .kind hholds hdocument nofun⟩)

end Environment

/-! ### Runs -/

theorem transcript_of_refuse {x : Session Unit} {program message : String}
    (h : x = (Session.refuse program message : Session Unit)) :
    x.transcript = .refused program message := by
  have hconsole : consoleText .warning x.events = program ++ ": error: " ++ message ++ "\n" := by
    rw [h]
    exact String.append_empty
  rw [Session.transcript, hconsole, h]
  rfl

/-- A run that ends while the command line is read leaves nothing else behind. -/
theorem run_of_invocationOf {notes : List Note} {stop : Stop}
    (h : invocationOf env line = ⟨notes, .error stop⟩) : run env line = ⟨notes, .error stop⟩ := by
  rw [run, h]
  rfl

section Readings

variable {records : List LogRecord} {defaults : Settings} {first : Invocation}

/-- A run without a configuration that is asked for goes on with the first reading. -/
theorem invocationOf_of_not_asked (h : loadDefaults env = .ok (records, defaults))
    (hfirst : Invocation.parse env.edition [defaults] line = .ok first)
    (hfile : (first.general.get "config").holds = false) :
    invocationOf env line = pure (records, first) := by
  rw [invocationOf, h]
  change (Session.ofParse (Invocation.parse env.edition [defaults] line) >>= _) = _
  rw [hfirst]
  change (if (first.general.get "config").holds then _ else _) = _
  rw [hfile]
  rfl

/-- A run with a configuration that is asked for loads it and reads the command line again. -/
theorem invocationOf_of_asked (h : loadDefaults env = .ok (records, defaults))
    (hfirst : Invocation.parse env.edition [defaults] line = .ok first)
    (hfile : first.general.get "config" = file) (hholds : file.holds = true) :
    invocationOf env line = do
      let configuration ← loadConfiguration env file
      let invocation ← Session.ofParse (Invocation.parse env.edition [defaults, configuration] line)
      return (records ++ [ownRecord .info ("Loading configuration from " ++ file.shown)],
        invocation) := by
  subst hfile
  rw [invocationOf, h]
  change (Session.ofParse (Invocation.parse env.edition [defaults] line) >>= _) = _
  rw [hfirst]
  change (if (first.general.get "config").holds then _ else _) = _
  rw [if_pos hholds]

/-- A run goes on with the second reading, over what comes out of the configuration. -/
theorem invocationOf_of_configuration {configuration : Settings}
    (h : loadDefaults env = .ok (records, defaults))
    (hfirst : Invocation.parse env.edition [defaults] line = .ok first)
    (hfile : first.general.get "config" = file) (hholds : file.holds = true)
    (hconfiguration : env.Configuration file configuration) :
    invocationOf env line = do
      let invocation ← Session.ofParse (Invocation.parse env.edition [defaults, configuration] line)
      return (records ++ [ownRecord .info ("Loading configuration from " ++ file.shown)],
        invocation) := by
  rw [invocationOf_of_asked h hfirst hfile hholds, hconfiguration.loadConfiguration]
  rfl

end Readings

/-! ### How loading ends -/

theorem transcript_of_defaultsCrash (h : env.DefaultsCrash c) :
    (run env line).transcript = .crashed c := by
  have hinvocation : invocationOf env line = Session.crash c := by
    rw [invocationOf, h.loadDefaults]
    rfl
  rw [run_of_invocationOf hinvocation]
  rfl

section Asked

variable {records : List LogRecord} {defaults : Settings} {first : Invocation}

theorem transcript_of_configurationCrash (hdefaults : env.Defaults records defaults)
    (hfirst : Invocation.parse env.edition [defaults] line = .ok first)
    (hfile : first.general.get "config" = file) (hholds : file.holds = true)
    (h : env.ConfigurationCrash file c) : (run env line).transcript = .crashed c := by
  have hinvocation := invocationOf_of_asked hdefaults.loadDefaults hfirst hfile hholds
  rw [h.loadConfiguration] at hinvocation
  rw [run_of_invocationOf hinvocation]
  rfl

theorem transcript_of_configurationReport {fault : ConfigurationFault}
    (hdefaults : env.Defaults records defaults)
    (hfirst : Invocation.parse env.edition [defaults] line = .ok first)
    (hfile : first.general.get "config" = file) (hholds : file.holds = true)
    (h : env.ConfigurationReport file fault) :
    (run env line).transcript = .refused programName (fault.message file.shown) := by
  have hinvocation := invocationOf_of_asked hdefaults.loadDefaults hfirst hfile hholds
  rw [h.loadConfiguration] at hinvocation
  exact transcript_of_refuse (run_of_invocationOf hinvocation)

end Asked

/-- How the loading of configurations ends, whatever the files hold and the command line says. The
default configuration crashes the run or comes out, and is empty where the file is no object. One
that is asked for then crashes the run, or ends it with a report and status 2, or comes out as an
object. A run crashes only for the listed reasons, and shows nothing then; otherwise it goes on with
what came out. -/
theorem run_loading (env : Environment) (line : List String) :
    (∃ c, env.DefaultsCrash c ∧ (run env line).transcript = .crashed c) ∨
      (∀ c, ¬env.DefaultsCrash c) ∧ ∃ records defaults, env.Defaults records defaults ∧
        loadDefaults env = .ok (records, defaults) ∧
        ∀ first, Invocation.parse env.edition [defaults] line = .ok first →
          let file := first.general.get "config"
          (file.holds = false → invocationOf env line = pure (records, first)) ∧
          (file.holds = true →
            (∃ c, env.ConfigurationCrash file c ∧ (run env line).transcript = .crashed c) ∨
            (∀ c, ¬env.ConfigurationCrash file c) ∧
              ((∃ fault, env.ConfigurationReport file fault ∧
                  (run env line).transcript = .refused programName (fault.message file.shown)) ∨
                ∃ configuration, env.Configuration file configuration ∧
                  invocationOf env line = do
                    let invocation ←
                      Session.ofParse (Invocation.parse env.edition [defaults, configuration] line)
                    return (records ++
                      [ownRecord .info ("Loading configuration from " ++ file.shown)],
                      invocation))) := by
  rcases env.defaults_or_crash with ⟨c, hcrash⟩ | ⟨records, defaults, hdefaults⟩
  case inl => exact .inl ⟨c, hcrash, transcript_of_defaultsCrash hcrash⟩
  case inr =>
    refine .inr ⟨?_, records, defaults, hdefaults, hdefaults.loadDefaults, ?_⟩
    · intro c hcrash
      exact nomatch hcrash.loadDefaults.symm.trans hdefaults.loadDefaults
    intro first hfirst file
    refine ⟨invocationOf_of_not_asked hdefaults.loadDefaults hfirst, fun hfile => ?_⟩
    -- A crash comes of loading, so it excludes the other ends, of which each is a value of loading.
    have hexcludes {x : Session Settings} (hload : loadConfiguration env file = x)
        (hx : ∀ c, x.result ≠ .error (.crash c)) : ∀ c, ¬env.ConfigurationCrash file c :=
      fun c hcrash => hx c (by rw [← hload, hcrash.loadConfiguration]; rfl)
    rcases env.configuration_or_end file with ⟨c, hcrash⟩ | ⟨fault, hreport⟩ | ⟨fields, hfields⟩
    · exact .inl ⟨c, hcrash, transcript_of_configurationCrash hdefaults hfirst rfl hfile hcrash⟩
    · refine .inr ⟨hexcludes hreport.loadConfiguration nofun, .inl ⟨fault, hreport, ?_⟩⟩
      exact transcript_of_configurationReport hdefaults hfirst rfl hfile hreport
    · refine .inr ⟨hexcludes hfields.loadConfiguration nofun, .inr ⟨fields, hfields, ?_⟩⟩
      exact invocationOf_of_configuration hdefaults.loadDefaults hfirst rfl hfile hfields

/-- An environment with some files and a source of memory that holds nothing. The default
configuration is the file `d`, values are nested ten deep at most, and no code is decoded. -/
def configuredEnvironment (files : List (Host.Path × Host.Contents)) : Environment where
  files := ({ workingPlace := [] } : Host.FileStore).putAll files
  sources := Origin.sources [("vm", .buffers [])]
  defaultsPath := "d"
  edition := .current
  configurationDepth := 10
  documentDepth := 10
  validator := Json.Bundle.validate
  disassembler _ _ _ _ := .ok []
  stamp := ""

/-- An opening brace alone is reported in a configuration that is asked for, but crashes a run as
its default configuration. A byte that starts no character is reported in neither. -/
theorem run_loading_crashed :
    (run (configuredEnvironment [("d", [0x7b])]) ["tree", "x"]).transcript =
        .crashed (.malformed .expectedName ⟨1, 1, 2⟩) ∧
      (run (configuredEnvironment [("c", [0x7b])]) ["-c", "c", "tree", "x"]).transcript =
        .refused programName ((ConfigurationFault.malformed .expectedName ⟨1, 1, 2⟩).message "c") ∧
      (run (configuredEnvironment [("c", [0xff])]) ["-c", "c", "tree", "x"]).transcript =
        .crashed (.undecodable ⟨"utf-8", 0, 1, 0xff, .invalidStart⟩) := by
  have hasked : ∃ first, Invocation.parse .current [[]] ["-c", "c", "tree", "x"] = .ok first ∧
      first.general.get "config" = .string "c" := by
    have hpath : (Invocation.parse .current [[]] ["-c", "c", "tree", "x"]).toOption.map
        (·.general.get "config") = some (.string "c") := by decide +kernel
    obtain ⟨first, hfirst, hconfig⟩ := Option.map_eq_some_iff.mp hpath
    exact ⟨first, eq_ok_of_toOption_eq_some hfirst, hconfig⟩
  refine ⟨?_, ?_, ?_⟩
  · let env := configuredEnvironment [("d", [0x7b])]
    have hhold : env.DefaultsHold [0x7b] := ⟨by decide +kernel, rfl⟩
    have hdocument : Json.read 10 (Text.marksOf ['\x7b']) =
        .error (.malformed .expectedName ⟨1, 1, 2⟩) := by decide +kernel
    have hcrash : env.DefaultsCrash (.malformed .expectedName ⟨1, 1, 2⟩) :=
      .document hhold rfl hdocument
    exact transcript_of_defaultsCrash hcrash
  · let env := configuredEnvironment [("c", [0x7b])]
    have hreport : env.ConfigurationReport (.string "c") (.malformed .expectedName ⟨1, 1, 2⟩) :=
      .document ⟨[0x7b], ['\x7b'], rfl, rfl, rfl⟩ (by decide +kernel)
    obtain ⟨first, hfirst, hconfig⟩ := hasked
    have hshown : (Json.string "c").shown = "c" := Text.Raw.text_ofString "c"
    rw [transcript_of_configurationReport (.absent (by decide +kernel)) hfirst hconfig rfl hreport,
      hshown]
  · let env := configuredEnvironment [("c", [0xff])]
    have hcrash : env.ConfigurationCrash (.string "c")
      (.undecodable ⟨"utf-8", 0, 1, 0xff, .invalidStart⟩) := .text rfl rfl
    obtain ⟨first, hfirst, hconfig⟩ := hasked
    exact transcript_of_configurationCrash (.absent (by decide +kernel)) hfirst hconfig rfl hcrash

end PointerChain.CommandLine
