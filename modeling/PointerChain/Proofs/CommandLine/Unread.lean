import Mathlib.Data.List.Forall2
import PointerChain.Proofs.CommandLine.Disassembling

/-!
# Files that a command does not read

A run of a command looks at the log file, the module table and what its source of memory sees. What
any other file contains makes no difference to it.

* `Host.FileStore.AgreeOff` says that files are the same but for the contents of one of them.
* `Trace.Rel` says that two computations leave the same trace and end alike.
* `CommandLine.Origin.sources_congr` says that sources of memory see nothing of other files.
* `CommandLine.Environment.Unread` is what the parts of a run keep, and `CommandLine.run_congr` is
  about whole runs.
-/

namespace PointerChain

/-! ### Computations that end alike -/

/-- Computations with the same trace, which stop for the same reason or give values in a relation.
-/
inductive Trace.Rel {σ ε α β : Type} (R : α → β → Prop) : Trace σ ε α → Trace σ ε β → Prop
  /-- Both give a value. -/
  | value {events : List σ} {a : α} {b : β} (h : R a b) : Rel R ⟨events, .ok a⟩ ⟨events, .ok b⟩
  /-- Both stop. -/
  | stop {events : List σ} {e : ε} : Rel R ⟨events, .error e⟩ ⟨events, .error e⟩

namespace Trace.Rel

variable {σ ε α β γ δ : Type} {R : α → β → Prop} {Q : γ → δ → Prop}

theorem of_eq {x y : Trace σ ε α} (h : x = y) : Rel (· = ·) x y := by
  subst h
  obtain ⟨events, _ | _⟩ := x
  · exact .stop
  · exact .value rfl

theorem eq {x y : Trace σ ε α} (h : Rel (· = ·) x y) : x = y := by
  cases h with
  | value h => rw [h]
  | stop => rfl

theorem bind {x : Trace σ ε α} {y : Trace σ ε β} {f : α → Trace σ ε γ} {g : β → Trace σ ε δ}
    (hxy : Rel R x y) (hfg : ∀ a b, x.result = .ok a → R a b → Rel Q (f a) (g b)) :
    Rel Q (x >>= f) (y >>= g) := by
  cases hxy with
  | stop => exact .stop
  | @value events a b hab =>
    rw [bind_of_ok rfl, bind_of_ok rfl]
    have hrest := hfg a b rfl hab
    generalize f a = x, g b = y at hrest
    cases hrest with
    | value h => exact .value h
    | stop => exact .stop

end Trace.Rel

/-! ### Files -/

namespace Host

/-- What is at a place in files that may differ in the contents of the file there. -/
inductive Node.Alike (differ : Prop) : Node → Node → Prop
  /-- A file is there. -/
  | file {contents contents' : Contents} (h : ¬differ → contents = contents') :
      Alike differ (.file contents) (.file contents')
  /-- A directory is there. -/
  | directory : Alike differ .directory .directory
  /-- Nothing is there. -/
  | missing : Alike differ .missing .missing

namespace FileStore

/-- Files that are the same but for the contents of the one at a place. -/
structure AgreeOff (place : Place) (a b : FileStore) : Prop where
  /-- The working directory is the same. -/
  workingPlace : a.workingPlace = b.workingPlace
  /-- The directories are the same. -/
  directories : a.directories = b.directories
  /-- The same files are there, all but one with the same contents. -/
  files : List.Forall₂ (fun f g => f.1 = g.1 ∧ (f.1 ≠ place → f.2 = g.2)) a.files b.files

variable {place : Place} {a b : FileStore} {path : Path}

section Lists

variable {fs gs : List (Place × Contents)}

theorem any_isPrefixOf_congr (q : Place)
    (h : List.Forall₂ (fun f g => f.1 = g.1 ∧ (f.1 ≠ place → f.2 = g.2)) fs gs) :
    (fs.any fun f => q.isPrefixOf f.1) = gs.any fun g => q.isPrefixOf g.1 := by
  induction h with
  | nil => rfl
  | cons hfg _ ih => rw [List.any_cons, List.any_cons, ih, hfg.1]

theorem find?_agree (q : Place)
    (h : List.Forall₂ (fun f g => f.1 = g.1 ∧ (f.1 ≠ place → f.2 = g.2)) fs gs) :
    ((fs.find? (·.1 = q)).map (·.2) = none ∧ (gs.find? (·.1 = q)).map (·.2) = none) ∨
      ∃ x y, (fs.find? (·.1 = q)).map (·.2) = some x ∧ (gs.find? (·.1 = q)).map (·.2) = some y ∧
        (q ≠ place → x = y) := by
  induction h with
  | nil => exact .inl ⟨rfl, rfl⟩
  | @cons f g fs gs hfg _ ih =>
    obtain ⟨hplace, hsame⟩ := hfg
    by_cases hf : f.1 = q
    · refine .inr ⟨f.2, g.2, ?_, ?_, fun hq => hsame (hf ▸ hq)⟩
      · simp [hf]
      · simp [← hplace, hf]
    · simpa [← hplace, hf] using ih

end Lists

namespace AgreeOff

theorem refl (place : Place) (a : FileStore) : AgreeOff place a a where
  workingPlace := rfl
  directories := rfl
  files := List.forall₂_same.mpr fun _ _ => ⟨rfl, fun _ => rfl⟩

/-- A file that is stored anew is the same, or the one that may differ. -/
theorem put {contents contents' : Contents} (h : AgreeOff place a b)
    (hcontents : a.workingPlace.ofPath path ≠ place → contents = contents') :
    AgreeOff place (a.put path contents) (b.put path contents') where
  workingPlace := h.workingPlace
  directories := h.directories
  files := by
    simp only [FileStore.put, ← h.workingPlace]
    refine .cons ⟨rfl, hcontents⟩ ?_
    refine List.rel_filter ?_ h.files
    intro f g hfg
    simp only [hfg.1]

theorem hasDirectory (h : AgreeOff place a b) (q : Place) :
    a.hasDirectory q = b.hasDirectory q := by
  rw [FileStore.hasDirectory, FileStore.hasDirectory, h.workingPlace, h.directories,
    any_isPrefixOf_congr q h.files]

/-- The same places have a file, and all but one of them the same contents. -/
theorem contents? (h : AgreeOff place a b) (q : Place) :
    (a.contents? q = none ∧ b.contents? q = none) ∨
      ∃ x y, a.contents? q = some x ∧ b.contents? q = some y ∧ (q ≠ place → x = y) :=
  find?_agree q h.files

/-- The same kind of thing is at every place. -/
theorem node (h : AgreeOff place a b) (q : Place) :
    (a.node q).Alike (q = place) (b.node q) := by
  rw [FileStore.node, FileStore.node]
  rcases h.contents? q with ⟨ha, hb⟩ | ⟨x, y, ha, hb, hsame⟩
  · rw [ha, hb]
    dsimp only
    rw [h.hasDirectory]
    split
    · exact .directory
    · exact .missing
  · rw [ha, hb]
    exact .file hsame

/-- Names lead to the same, but for the contents of the file that may differ. -/
theorem follow (h : AgreeOff place a b) (q : Place) (names : List Name) :
    (∃ number, a.follow q names = .error number ∧ b.follow q names = .error number) ∨
      ∃ x y, a.follow q names = .ok x ∧ b.follow q names = .ok y ∧
        x.Alike (q.follow names = place) y := by
  induction names generalizing q with
  | nil => exact .inr ⟨_, _, rfl, rfl, h.node q⟩
  | cons name names ih =>
    have hnode := h.node q
    unfold FileStore.follow
    -- On the way it only matters whether a directory is there.
    cases hx : a.node q with
    | file contents =>
      rw [hx] at hnode
      generalize b.node q = y at hnode
      cases hnode
      exact .inl ⟨_, rfl, rfl⟩
    | missing =>
      rw [hx] at hnode
      generalize b.node q = y at hnode
      cases hnode
      exact .inl ⟨_, rfl, rfl⟩
    | directory =>
      rw [hx] at hnode
      generalize b.node q = y at hnode
      cases hnode
      dsimp only
      split
      · exact .inl ⟨_, rfl, rfl⟩
      · exact ih (q.move name)

theorem locate (h : AgreeOff place a b) (path : Path) :
    (∃ number, a.locate path = .error number ∧ b.locate path = .error number) ∨
      ∃ x y, a.locate path = .ok x ∧ b.locate path = .ok y ∧
        x.Alike (a.workingPlace.ofPath path = place) y := by
  unfold FileStore.locate
  split
  · exact .inl ⟨_, rfl, rfl⟩
  · split
    · exact .inl ⟨_, rfl, rfl⟩
    · rw [← h.workingPlace]
      exact h.follow _ _

theorem holds (h : AgreeOff place a b) (path : Path) : a.holds path = b.holds path := by
  rcases h.locate path with ⟨number, ha, hb⟩ | ⟨x, y, ha, hb, hxy⟩
  · rw [FileStore.holds, FileStore.holds, ha, hb]
  · rw [FileStore.holds, FileStore.holds, ha, hb]
    cases hxy <;> rfl

/-- What another file contains is the same. -/
theorem read (h : AgreeOff place a b) (hpath : a.workingPlace.ofPath path ≠ place) :
    a.read path = b.read path := by
  rcases h.locate path with ⟨number, ha, hb⟩ | ⟨x, y, ha, hb, hxy⟩
  · rw [FileStore.read, FileStore.read, ha, hb]
  · rw [FileStore.read, FileStore.read, ha, hb]
    cases hxy with
    | file hsame => rw [hsame hpath]
    | directory => rfl
    | missing => rfl

/-- Once the same is appended to a file, the files still differ at the one place at most. -/
theorem append (h : AgreeOff place a b) (path : Path) (contents : Contents) :
    AgreeOff place (a.append path contents) (b.append path contents) := by
  refine h.put fun hpath => ?_
  -- What the file was before is the same, and so is what it becomes.
  rw [← h.workingPlace]
  rcases h.contents? (a.workingPlace.ofPath path) with ⟨ha, hb⟩ | ⟨x, y, ha, hb, hsame⟩
  · rw [ha, hb]
  · rw [ha, hb, hsame hpath]

end AgreeOff

end FileStore

end Host

/-! ### Memory files -/

section Memory

variable {place : Host.Place} {fs gs : Host.FileStore}

/-- The reader of memory files sees nothing of a file that is no memory file. -/
theorem ProcessFiles.reader_congr {files : ProcessFiles} (h : fs.AgreeOff place gs)
    (hplace : ∀ process path, files.location process = .ok path →
      fs.workingPlace.ofPath path ≠ place) :
    files.reader fs = files.reader gs := by
  have hread : files.read fs = files.read gs := by
    funext process address length
    rw [ProcessFiles.read, ProcessFiles.read]
    cases hlocation : files.location process with
    | error fault => rfl
    | ok path =>
      simp only [Except.mapError, bind, Except.bind]
      rw [h.read (hplace process path hlocation)]
  rw [ProcessFiles.reader, ProcessFiles.reader, hread]

namespace CommandLine.Origin

theorem source_congr {origin : Origin} (h : fs.AgreeOff place gs)
    (hplace : ∀ files, origin = .processFiles files →
      ∀ process path, files.location process = .ok path →
        fs.workingPlace.ofPath path ≠ place) :
    origin.source fs = origin.source gs := by
  cases origin with
  | buffers memory => rfl
  | system reader kernel noBuffer => rfl
  | processFiles files =>
    rw [source, source, Source.ofProcessFiles, Source.ofProcessFiles,
      ProcessFiles.reader_congr h (hplace files rfl)]

/-- Sources of memory do not depend on a file that is no memory file of theirs. -/
theorem sources_congr {origins : List (String × Origin)} (h : fs.AgreeOff place gs)
    (hplace : ∀ name files, (name, Origin.processFiles files) ∈ origins →
      ∀ process path, files.location process = .ok path →
        fs.workingPlace.ofPath path ≠ place) :
    sources origins fs = sources origins gs := by
  refine List.map_congr_left fun o ho => ?_
  rw [source_congr h fun files hfiles => hplace o.1 files (hfiles ▸ ho)]

end CommandLine.Origin

end Memory

namespace CommandLine

open Host (FileStore Place Path)

namespace Environment

/-- What runs see of which one file may differ, and neither the sources of memory nor the module
table show this file. -/
structure Unread (place : Place) (modules : Json) (a b : Environment) : Prop where
  /-- The files are the same but for the one. -/
  files : a.files.AgreeOff place b.files
  /-- All else is the same. -/
  others : b = { a with files := b.files }
  /-- The sources of memory do not depend on the file. -/
  unseen : ∀ fs gs : FileStore, fs.AgreeOff place gs → a.sources fs = a.sources gs
  /-- The module table is another file. -/
  elsewhere : ∀ path, modules = .string path → a.files.workingPlace.ofPath path ≠ place

variable {place : Place} {modules : Json} {a b : Environment}

namespace Unread

theorem exists_files (h : Unread place modules a b) : ∃ files, b = { a with files } :=
  ⟨b.files, h.others⟩

theorem contents (h : Unread place modules a b) : a.contents modules = b.contents modules := by
  cases modules with
  | string path =>
    rw [Environment.contents, Environment.contents, contentsOfPath, contentsOfPath,
      h.files.read (h.elsewhere path rfl)]
  | null | bool _ | integer _ | real _ | array _ | object _ => rfl

/-- Records go to the same log file, which keeps what may differ of it. -/
theorem keep (h : Unread place modules a b) (records : List LogRecord) :
    Unread place modules (a.keep records) (b.keep records) := by
  obtain ⟨files, rfl⟩ := h.exists_files
  unfold Environment.keep
  dsimp only
  split
  · exact ⟨h.files.append _ _, rfl, h.unseen, h.elsewhere⟩
  · exact h

theorem rel_openLog (h : Unread place modules a b) (path : Path) :
    Trace.Rel (Unread place modules) (Session.orCrash (a.openLog path))
      (Session.orCrash (b.openLog path)) := by
  obtain ⟨files, rfl⟩ := h.exists_files
  have habsolute : files.absolute path = a.files.absolute path := by
    rw [FileStore.absolute, FileStore.absolute, h.files.workingPlace]
  unfold openLog
  dsimp only
  rw [habsolute]
  cases checkPath (a.files.absolute path) with
  | error c => exact .stop
  | ok u =>
    rcases h.files.locate (a.files.absolute path) with ⟨number, ha, hb⟩ | ⟨x, y, ha, hb, hxy⟩
    · rw [ha, hb]
      exact .stop
    · rw [ha, hb]
      -- Only a file that is not there yet is stored, and it is stored empty.
      cases hxy with
      | file _ => exact .value ⟨h.files, rfl, h.unseen, h.elsewhere⟩
      | directory => exact .stop
      | missing => exact .value ⟨h.files.put fun _ => rfl, rfl, h.unseen, h.elsewhere⟩

end Unread

end Environment

/-! ### Parts of runs -/

section Parts

variable {place : Place} {settings : Settings} {modules : Json} {a b : Environment}

theorem rel_record (h : a.Unread place modules b) (records : List LogRecord) :
    Trace.Rel (Environment.Unread place modules) (a.record records) (b.record records) :=
  (Trace.Rel.of_eq rfl).bind fun _ _ _ _ => .value (h.keep records)

theorem rel_startLog (h : a.Unread place modules b) (file : Json) :
    Trace.Rel (Environment.Unread place modules) (startLog a file) (startLog b file) := by
  unfold startLog
  split
  · exact .value h
  · split
    · refine (h.rel_openLog _).bind fun a' b' _ h' => ?_
      obtain ⟨files, rfl⟩ := h'.exists_files
      exact (Trace.Rel.of_eq rfl).bind fun _ _ _ _ => rel_record h' _
    · exact .stop

theorem rel_ite_report {c : Prop} [Decidable c] {x y : Session Unit} (text : String)
    (h : Trace.Rel (· = ·) x y) :
    Trace.Rel (· = ·) (if c then Session.report text >>= fun _ => x else x)
      (if c then Session.report text >>= fun _ => y else y) := by
  split
  · exact (Trace.Rel.of_eq rfl).bind fun _ _ _ _ => h
  · exact h

/-- The same module table is loaded, or the same fault is reported. -/
theorem loadModules_congr (h : a.Unread place (settings.get "modules") b) :
    loadModules a settings = loadModules b settings := by
  unfold loadModules
  refine Trace.bind_congr_of_ok fun file hfile => ?_
  have hmodules : settings.get "modules" = file := by
    rw [Settings.get, find?_of_setting hfile, Option.getD_some]
  cases file with
  | null => rfl
  | string _ | bool _ | integer _ | real _ | array _ | object _ =>
    dsimp only
    rw [← hmodules, h.contents]
    obtain ⟨files, rfl⟩ := h.exists_files
    rfl

/-- The same source is selected, since it sees nothing of the file. -/
theorem rel_selectSource (h : a.Unread place modules b) (settings : Settings) :
    Trace.Rel (fun x y => x.1.Unread place modules y.1 ∧ x.2 = y.2) (selectSource a settings)
      (selectSource b settings) := by
  refine (Trace.Rel.of_eq rfl).bind fun name _ _ hname => ?_
  subst hname
  refine (rel_record h _).bind fun a' b' _ h' => ?_
  have hsources : a'.sources a'.files = b'.sources b'.files := by
    obtain ⟨files, rfl⟩ := h'.exists_files
    exact h'.unseen _ _ h'.files
  rw [hsources]
  exact (Trace.Rel.of_eq rfl).bind fun _ _ _ heq => .value ⟨h', heq⟩

theorem runResolve_congr (h : a.Unread place (settings.get "modules") b) :
    runResolve a settings = runResolve b settings := by
  unfold runResolve
  rw [loadModules_congr h]
  refine Trace.bind_congr_of_ok fun process _ => ?_
  refine Trace.bind_congr_of_ok fun expression _ => ?_
  refine Trace.bind_congr_of_ok fun table _ => ?_
  refine ((rel_selectSource h settings).bind fun x y _ hxy => ?_).eq
  obtain ⟨env, source⟩ := x
  obtain ⟨env', source'⟩ := y
  obtain ⟨-, rfl⟩ := hxy
  exact .of_eq rfl

theorem runDisassemble_congr (h : a.Unread place (settings.get "modules") b) :
    runDisassemble a settings = runDisassemble b settings := by
  unfold runDisassemble
  refine Trace.bind_congr_of_ok fun process _ => ?_
  refine ((rel_selectSource h settings).bind fun x y _ hxy => ?_).eq
  obtain ⟨env, source⟩ := x
  obtain ⟨env', source'⟩ := y
  obtain ⟨henv, rfl⟩ := hxy
  dsimp only at henv ⊢
  rw [loadModules_congr henv]
  obtain ⟨files, rfl⟩ := henv.exists_files
  exact .of_eq rfl

theorem runCommand_congr (h : a.Unread place (settings.get "modules") b) {command : Command}
    (hcommand : command ≠ .tree) :
    runCommand a command settings = runCommand b command settings := by
  cases command with
  | resolve => exact runResolve_congr h
  | disassemble => exact runDisassemble_congr h
  | tree => exact absurd rfl hcommand

/-- The default configuration is the same if it is another file. -/
theorem loadDefaults_congr (h : a.files.AgreeOff place b.files)
    (hothers : b = { a with files := b.files })
    (hplace : a.files.workingPlace.ofPath a.defaultsPath ≠ place) :
    loadDefaults a = loadDefaults b := by
  rw [loadDefaults, h.holds, h.read hplace, hothers]
  rfl

/-- Runs in which the command line comes to the same go on alike, if what differs is one file that
their command does not read. -/
theorem run_congr (place : Place) {line line' : List String}
    (hinvocation : invocationOf a line = invocationOf b line')
    (hunread : ∀ records invocation, (invocationOf b line').result = .ok (records, invocation) →
      ∃ command settings, invocation.command = some (command, settings) ∧ command ≠ .tree ∧
        a.Unread place (settings.get "modules") b) :
    run a line = run b line' := by
  unfold run
  rw [hinvocation]
  refine Trace.bind_congr_of_ok fun found hfound => ?_
  obtain ⟨delayed, general, selected⟩ := found
  obtain ⟨command, settings, rfl, hcommand, h⟩ := hunread delayed _ hfound
  refine (rel_ite_report _ ?_).eq
  -- From the start of the log on, both runs keep what only one of them would not.
  refine (rel_startLog h _).bind fun a' b' _ h' => ?_
  refine (Trace.Rel.of_eq rfl).bind fun level _ _ hlevel => ?_
  subst hlevel
  refine (Trace.Rel.of_eq rfl).bind fun _ _ _ _ => ?_
  refine (rel_record h' _).bind fun a' b' _ h' => ?_
  exact .of_eq (runCommand_congr h' hcommand)

end Parts

end CommandLine

end PointerChain
