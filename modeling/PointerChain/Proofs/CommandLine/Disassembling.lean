import PointerChain.Proofs.CommandLine.Origin
import PointerChain.Proofs.CommandLine.Quiet

/-!
# What a run disassembles

A run that disassembles asks a source of memory for a number of bytes once, at the address to which
its expression resolves, and prints what they decode to. As long as the number is not negative, it
prints nothing but the code that is there, all of it, or it fails.

* `Disassembles` says which texts a run may print, and `run_disassembles` that it prints no other.
* `run_disassembles_negative` is a run that is asked for a negative number of bytes and prints.
-/

namespace PointerChain.CommandLine

/-! ### Values of parts of runs -/

section Results

variable {α : Type} {process : ProcessId} {env env' : Environment} {settings : Settings}

theorem find?_of_setting {key : String} {value : Json}
    (h : (Session.setting settings key).result = .ok value) : settings.find? key = some value := by
  unfold Session.setting at h
  split at h
  next found hfound => rw [hfound, Except.ok.inj h]
  next => cases h

theorem find?_of_targetProcess {command : Command}
    (h : (targetProcess command settings).result = .ok process) :
    settings.find? "pid" = some process.value := by
  obtain ⟨value, hvalue, h⟩ := Trace.result_bind_eq_ok_iff.mp h
  split at h
  next => cases h
  next =>
    obtain rfl := Except.ok.inj h
    exact find?_of_setting hvalue

theorem mem_of_lookUp {entries : List (String × α)} {name : Json} {value : α}
    (h : lookUp entries name = .ok value) :
    ∃ key : String, name = .string key ∧ (key, value) ∈ entries := by
  unfold lookUp at h
  split at h
  next => cases h
  next => cases h
  next s =>
    split at h
    next key found hfind =>
      obtain rfl := Except.ok.inj h
      have hkey : s = key := by simpa using List.find?_some hfind
      exact ⟨key, congrArg Json.string hkey, List.mem_of_find?_eq_some hfind⟩
    next => cases h
  next => cases h

theorem result_of_orCrash {x : Except Crash α} {a : α} (h : (Session.orCrash x).result = .ok a) :
    x = .ok a := by
  cases x with
  | ok b => exact congrArg Except.ok (Except.ok.inj h)
  | error c => cases h

theorem result_of_ofTraced {x : Traced α} {a : α}
    (h : (Session.ofTraced process x).result = .ok a) : x.result = .ok a := by
  obtain ⟨_, -, h⟩ := Trace.result_bind_eq_ok_iff.mp h
  split at h
  next b hb => rw [hb, Except.ok.inj h]
  next => exact absurd h (Session.stops_failResolution _).result_ne_ok

theorem sources_keep (env : Environment) (records : List LogRecord) :
    (env.keep records).sources = env.sources := by
  unfold Environment.keep
  split <;> rfl

theorem env_of_record {records : List LogRecord} (h : (env.record records).result = .ok env') :
    env' = env.keep records := by
  obtain ⟨_, -, h⟩ := Trace.result_bind_eq_ok_iff.mp h
  exact (Except.ok.inj h).symm

theorem sources_of_openLog {path : Host.Path} (h : env.openLog path = .ok env') :
    env'.sources = env.sources := by
  obtain ⟨_, -, h⟩ := exists_of_bind_eq_ok h
  -- The log changes the files at most; a path that cannot be written to gives no environment.
  split at h
  next => rw [← Except.ok.inj h]
  next => rw [← Except.ok.inj h]
  next => cases h
  next => cases h

theorem sources_of_startLog {file : Json} (h : (startLog env file).result = .ok env') :
    env'.sources = env.sources := by
  unfold startLog at h
  split at h
  next => rw [Except.ok.inj h]
  next =>
    split at h
    next path =>
      obtain ⟨opened, hopened, h⟩ := Trace.result_bind_eq_ok_iff.mp h
      obtain ⟨_, -, h⟩ := Trace.result_bind_eq_ok_iff.mp h
      rw [env_of_record h, sources_keep, sources_of_openLog (result_of_orCrash hopened)]
    next => cases h

end Results

/-- What is recorded when a source of memory has been selected. -/
def sourceRecord (name : String) : LogRecord :=
  ownRecord .debug ("Using " ++ name ++ " memory reader")

variable {origins : List (String × Origin)} {env : Environment} {settings : Settings}

theorem result_of_selectSource {found : Environment} {source : Source}
    (hsources : env.sources = Origin.sources origins)
    (h : (selectSource env settings).result = .ok (found, source)) :
    ∃ (name : String) (origin : Origin),
      settings.find? "reader" = some (.string name) ∧ (name, origin) ∈ origins ∧
        found = env.keep [sourceRecord name] ∧ source = origin.source found.files := by
  obtain ⟨value, hvalue, h⟩ := Trace.result_bind_eq_ok_iff.mp h
  obtain ⟨kept, hkept, h⟩ := Trace.result_bind_eq_ok_iff.mp h
  obtain ⟨selected, hselected, h⟩ := Trace.result_bind_eq_ok_iff.mp h
  obtain ⟨rfl, rfl⟩ := Prod.mk.inj (Except.ok.inj h)
  obtain rfl := env_of_record hkept
  -- The record changes the files at most, so the sources are still those of the origins.
  obtain ⟨key, rfl, hmem⟩ := mem_of_lookUp (result_of_orCrash hselected)
  rw [sources_keep, hsources] at hmem
  obtain ⟨⟨name, origin⟩, horigin, heq⟩ := List.mem_map.mp hmem
  obtain ⟨rfl, rfl⟩ := Prod.mk.inj heq
  have hshown : (Json.string name).shown = name := Text.Raw.text_ofString name
  refine ⟨name, origin, find?_of_setting hvalue, horigin, ?_⟩
  rw [sourceRecord, hshown]
  exact ⟨rfl, rfl⟩

/-- The disassembly that a command prints: what the library decodes of the bytes that are at the
address to which the expression resolves, in the memory of the process, as many of them as the
settings ask for. -/
def Disassembles (origins : List (String × Origin)) (env : Environment) (settings : Settings)
    (text : String) : Prop :=
  ∃ (process : ProcessId) (name : String) (origin : Origin) (modules : ModuleTable)
    (expression : Json) (address : Address) (bytes : Bytes) (arch : Architecture),
    let found := env.keep [sourceRecord name]
    let target : Target := { process, modules, reader := (origin.source found.files).reader }
    settings.find? "pid" = some process.value ∧
      settings.find? "reader" = some (.string name) ∧ (name, origin) ∈ origins ∧
      (loadModules found settings).result = .ok modules ∧
      settings.find? "expression" = some expression ∧
      (resolve target 64 expression.shown).result = .ok address ∧
      byteCount? (settings.get "length") = some bytes.length ∧
      origin.Holds found.files process address bytes ∧
      Architecture.ofJson (settings.get "arch") = .ok arch ∧
      disassemble found.disassembler arch bytes address.toNat = .ok text

theorem failsOrPrints_runDisassemble
    (hsources : env.sources = Origin.sources origins)
    (hlength : ∀ n, settings.get "length" = .integer n → 0 ≤ n) :
    Session.FailsOrPrints (runDisassemble env settings) (Disassembles origins env settings) := by
  unfold runDisassemble
  refine .bind (Session.quiet_targetProcess _ _) fun process hprocess => ?_
  refine .bind (Session.quiet_selectSource _ _) fun (found, source) hsource => ?_
  refine .bind (Session.quiet_setting _ _) fun expression hexpression => ?_
  refine .bind (Session.quiet_loadModules _ _) fun modules hmodules => ?_
  refine .bind (Session.quiet_ofTraced _ _) fun address haddress => ?_
  obtain ⟨name, origin, hreader, hmem, rfl, rfl⟩ := result_of_selectSource hsources hsource
  -- Only a read that gives bytes lets the command go on to print.
  split
  next error _ => exact (Session.quiet_failRead _).failsOrPrints (Session.stops_failRead _)
  next c _ => exact (Session.quiet_crash _).failsOrPrints (Session.stops_crash _)
  next bytes hbytes =>
    refine .bind (Session.quiet_orCrash _) fun arch harch => ?_
    obtain ⟨hcount, hholds⟩ := Origin.holds_of_readAmount hlength hbytes
    split
    next fault _ => exact (Session.quiet_fail _).failsOrPrints (Session.stops_fail _)
    next text htext =>
      refine .bind (Session.quiet_recordAll _) fun _ _ => ?_
      refine Session.failsOrPrints_print ?_
      exact ⟨process, name, origin, modules, expression, address, bytes, arch,
        find?_of_targetProcess hprocess, hreader, hmem, hmodules, find?_of_setting hexpression,
        result_of_ofTraced haddress, hcount, hholds,
        eq_ok_of_mapError_eq_ok (result_of_orCrash harch), htext⟩

/-- A run that disassembles and is not asked for a negative number of bytes prints nothing and
fails, or it succeeds and prints the disassembly of exactly the bytes that it was asked for. -/
theorem run_disassembles {line : List String} {records : List LogRecord}
    {invocation : Invocation}
    (hsources : env.sources = Origin.sources origins)
    (hinvocation : (invocationOf env line).result = .ok (records, invocation))
    (hcommand : (selectCommand invocation).result = .ok (.disassemble, settings))
    (hlength : ∀ n, settings.get "length" = .integer n → 0 ≤ n) :
    let t := (run env line).transcript
    (t.printed = "" ∧ t.ending ≠ .ok 0) ∨
      (∃ started, (startLog env (invocation.general.get "log")).result = .ok started ∧
        Disassembles origins (started.keep records) settings t.printed) ∧ t.ending = .ok 0 := by
  have hquiet : Session.Quiet (invocationOf env line) :=
    ⟨Session.silent_invocationOf env line, by rw [hinvocation]; exact nofun⟩
  have hrun : Session.FailsOrPrints (run env line) fun text =>
      ∃ started, (startLog env (invocation.general.get "log")).result = .ok started ∧
        Disassembles origins (started.keep records) settings text := by
    refine .bind hquiet fun result hresult => ?_
    obtain rfl := Except.ok.inj (hresult.symm.trans hinvocation)
    -- Whether the run greets the user makes no difference to what it prints.
    refine .ite_report _ ?_
    refine .bind (Session.quiet_startLog _ _) fun started hstarted => ?_
    refine .bind (Session.quiet_orCrash _) fun level _ => ?_
    refine .bind (Session.quiet_note rfl) fun _ _ => ?_
    refine .bind (Session.quiet_record _ _) fun kept hkept => ?_
    obtain rfl := env_of_record hkept
    -- Neither the log nor the records change where memory comes from.
    have hkeep : (started.keep records).sources = env.sources :=
      (sources_keep started records).trans (sources_of_startLog hstarted)
    refine .bind (Session.quiet_selectCommand _) fun selected hselected => ?_
    obtain rfl := Except.ok.inj (hselected.symm.trans hcommand)
    have hprints := failsOrPrints_runDisassemble (hkeep.trans hsources) hlength
    exact hprints.imp fun text htext => ⟨started, hstarted, htext⟩
  exact hrun.transcript

/-- An invocation of which the command and what is read off the settings are known. -/
theorem exists_invocationOf_eq_ok {α : Type} {line : List String} (read : Settings → Settings → α)
    {command : Command} {value : α}
    (h : ((invocationOf env line).result.toOption.map fun found =>
      found.2.command.map fun c => (c.1, read found.2.general c.2)) =
        some (some (command, value))) :
    ∃ records general settings, (invocationOf env line).result =
        .ok (records, ⟨general, some (command, settings)⟩) ∧
      read general settings = value := by
  obtain ⟨⟨records, general, selected⟩, hinvocation, hselected⟩ := Option.map_eq_some_iff.mp h
  obtain ⟨⟨_, settings⟩, rfl, hsettings⟩ := Option.map_eq_some_iff.mp hselected
  obtain ⟨rfl, rfl⟩ := Prod.mk.inj hsettings
  exact ⟨records, general, settings, eq_ok_of_toOption_eq_some hinvocation, rfl⟩

/-- Memory files below a directory. -/
def codeOrigins : List (String × Origin) :=
  [("procfs", .processFiles { root := "proc", room := 64 })]

/-- Decodes two instructions of four bytes each and nothing else. -/
def decodeSample : Disassembler := fun arch bytes address _ =>
  let names : List (Bytes × String) :=
    [([0x1f, 0x20, 0x03, 0xd5], "nop"), ([0xc0, 0x03, 0x5f, 0xd6], "ret")]
  let here := UInt64.ofInt address
  match arch, names.find? (·.1 = bytes.take 4), names.find? (·.1 = bytes.drop 4) with
  | .arm64, some (_, first), some (_, second) => .ok [⟨here, first, ""⟩, ⟨here + 4, second, ""⟩]
  | .arm64, some (_, first), none => .ok [⟨here, first, ""⟩]
  | _, _, _ => .ok []

/-- A process whose memory file holds two instructions. -/
def codeEnvironment : Environment where
  files := ({ workingPlace := [] } : Host.FileStore).put "proc/7/mem"
    [0x1f, 0x20, 0x03, 0xd5, 0xc0, 0x03, 0x5f, 0xd6]
  sources := Origin.sources codeOrigins
  defaultsPath := "d"
  edition := .current
  configurationDepth := 10
  documentDepth := 10
  validator := Json.Bundle.validate
  disassembler := decodeSample
  stamp := ""

/-- Asked for the four bytes at the second instruction, a run prints this instruction. -/
theorem run_disassembles_sample :
    let t := (run codeEnvironment
      ["disassemble", "-p7", "--reader", "procfs", "--length", "4", "4"]).transcript
    ∃ env settings, settings.get "length" = .integer 4 ∧ t.printed = "0x4: ret \n" ∧
      Disassembles codeOrigins env settings t.printed := by
  intro t
  obtain ⟨records, general, settings, hinvocation, hlength⟩ :=
    @exists_invocationOf_eq_ok codeEnvironment _
      ["disassemble", "-p7", "--reader", "procfs", "--length", "4", "4"]
      (fun _ settings => settings.get "length") .disassemble (.integer 4) (by decide +kernel)
  have hprinted : t.printed = "0x4: ret \n" := by decide +kernel
  have hsources : codeEnvironment.sources = Origin.sources codeOrigins := rfl
  have hnumber : ∀ n, settings.get "length" = .integer n → 0 ≤ n := by
    intro n hn
    obtain rfl := Json.integer.inj (hlength.symm.trans hn)
    decide
  -- The run does not fail, since it prints something.
  obtain ⟨hnothing, -⟩ | ⟨⟨started, -, hprints⟩, -⟩ :=
    run_disassembles hsources hinvocation rfl hnumber
  · exact absurd (hprinted.symm.trans hnothing) (by decide)
  · exact ⟨_, settings, hlength, hprinted, hprints⟩

/-- Asked for a negative number of bytes, a run prints all the code there is and succeeds. -/
theorem run_disassembles_negative :
    let line := ["disassemble", "-p7", "--reader", "procfs", "--length=-1", "0"]
    let t := (run codeEnvironment line).transcript
    (∃ records general settings, (invocationOf codeEnvironment line).result =
        .ok (records, ⟨general, some (.disassemble, settings)⟩) ∧
      settings.get "length" = .integer (-1)) ∧
    t.printed = "0x0: nop \n0x4: ret \n" ∧ t.ending = .ok 0 := by
  intro line t
  refine ⟨?_, ?_, ?_⟩
  · exact exists_invocationOf_eq_ok (fun _ settings => settings.get "length") (by decide +kernel)
  · decide +kernel
  · decide +kernel

end PointerChain.CommandLine
