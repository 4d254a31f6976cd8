import PointerChain.CommandLine.Run

/-!
# Parts of runs that print nothing

Only the last part of a run prints. All parts before it leave records and reports at most, and those
that end the run early do so with a status other than zero or in a crash, except for a request for
help.

* `Session.Silent` and `Session.Quiet` say this of a part of a run, and `Silent.bind` and
  `Quiet.bind` put parts together.
* `Session.FailsOrPrints` is what becomes of a run whose parts but the last are quiet.
-/

namespace PointerChain.CommandLine

theorem printedText_append (notes notes' : List Note) :
    printedText (notes ++ notes') = printedText notes ++ printedText notes' := by
  induction notes with
  | nil => rw [List.nil_append, printedText, String.empty_append]
  | cons note notes ih =>
    cases note with
    | printed text => rw [List.cons_append, printedText, ih, printedText, String.append_assoc]
    -- No other note is printed.
    | reported _ | recorded _ | threshold _ | logFile _ =>
      rw [List.cons_append, printedText, ih, printedText]
      all_goals exact fun _ h => nomatch h

namespace Session

variable {α β : Type} {x : Session α} {f : α → Session β}

/-- A part of a run that prints nothing. -/
def Silent (x : Session α) : Prop := printedText x.events = ""

/-- A part of a run that prints nothing and does not end the run with status zero. -/
structure Quiet (x : Session α) : Prop where
  /-- It prints nothing. -/
  silent : Silent x
  /-- It does not end the run with status zero. -/
  result_ne : x.result ≠ .error (.exit 0)

theorem Silent.bind (hx : Silent x) (hf : ∀ a, x.result = .ok a → Silent (f a)) :
    Silent (x >>= f) := by
  cases h : x.result with
  | error stop =>
    rw [Trace.bind_of_error h]
    exact hx
  | ok a =>
    have hfront : printedText x.events = "" := hx
    have hbehind : printedText (f a).events = "" := hf a h
    rw [Trace.bind_of_ok h, Silent, printedText_append, hfront, hbehind, String.empty_append]

theorem Quiet.bind (hx : Quiet x) (hf : ∀ a, x.result = .ok a → Quiet (f a)) :
    Quiet (x >>= f) where
  silent := hx.silent.bind fun a ha => (hf a ha).silent
  result_ne := by
    cases h : x.result with
    | error stop =>
      rw [Trace.bind_of_error h]
      intro hstop
      exact hx.result_ne (h.trans (congrArg Except.error (Except.error.inj hstop)))
    | ok a =>
      rw [Trace.bind_of_ok h]
      exact (hf a h).result_ne

/-! ### Steps of runs -/

theorem quiet_pure (a : α) : Quiet (pure a) := ⟨rfl, nofun⟩

theorem quiet_note {note : Note} (h : printedText [note] = "") : Quiet (Trace.note note) :=
  ⟨h, nofun⟩

theorem quiet_report (text : String) : Quiet (report text) := quiet_note rfl

theorem quiet_crash (c : Crash) : Quiet (crash c : Session α) := ⟨rfl, nofun⟩

theorem quiet_exit {status : Nat} (h : status ≠ 0) :
    Quiet (Trace.stop (.exit status) : Session α) :=
  ⟨rfl, fun heq => h (Stop.exit.inj (Except.error.inj heq))⟩

theorem quiet_recordAll (records : List LogRecord) : Quiet (recordAll records) where
  silent := by
    induction records with
    | nil => rfl
    | cons record records ih => exact ih
  result_ne := nofun

theorem quiet_refuse (program message : String) : Quiet (refuse program message : Session α) :=
  (quiet_report _).bind fun _ _ => quiet_exit (by decide)

theorem quiet_fail (failure : Failure) : Quiet (fail failure : Session α) :=
  (quiet_report _).bind fun _ _ => quiet_exit (by decide)

theorem quiet_orCrash (x : Except Crash α) : Quiet (orCrash x) := by
  cases x with
  | ok a => exact quiet_pure a
  | error c => exact quiet_crash c

theorem quiet_setting (settings : Settings) (key : String) : Quiet (setting settings key) := by
  unfold setting
  split
  · exact quiet_pure _
  · exact quiet_crash _

/-! ### Invocations -/

theorem silent_ofParse (x : Except InvocationFault Invocation) : Silent (ofParse x) := by
  unfold ofParse
  split
  · exact (quiet_pure _).silent
  · exact (quiet_refuse _ _).silent
  · exact (quiet_crash _).silent
  · exact (quiet_crash _).silent
  · rfl

theorem quiet_loadConfiguration (env : Environment) (file : Json) :
    Quiet (loadConfiguration env file) := by
  unfold loadConfiguration
  dsimp only
  split
  · exact quiet_refuse _ _
  · exact quiet_crash _
  · refine (quiet_orCrash _).bind fun reading _ => ?_
    split
    · exact quiet_pure _
    · exact quiet_refuse _ _

/-- A request for help ends a run with status zero, so this part is silent and no more. -/
theorem silent_invocationOf (env : Environment) (line : List String) :
    Silent (invocationOf env line) := by
  refine (quiet_orCrash _).silent.bind fun loaded _ => ?_
  refine (silent_ofParse _).bind fun first _ => ?_
  dsimp only
  split
  · refine (quiet_loadConfiguration _ _).silent.bind fun configuration _ => ?_
    exact (silent_ofParse _).bind fun second _ => (quiet_pure _).silent
  · exact (quiet_pure _).silent

/-! ### In front of a command -/

theorem quiet_record (env : Environment) (records : List LogRecord) :
    Quiet (env.record records) :=
  (quiet_recordAll records).bind fun _ _ => quiet_pure _

theorem quiet_startLog (env : Environment) (file : Json) : Quiet (startLog env file) := by
  unfold startLog
  split
  · exact quiet_pure _
  · split
    · refine (quiet_orCrash _).bind fun env _ => ?_
      refine Quiet.bind ?_ fun _ _ => quiet_record _ _
      cases env.log with
      | none => exact quiet_pure _
      | some path => exact quiet_note rfl
    · exact quiet_crash _

theorem quiet_selectCommand (invocation : Invocation) : Quiet (selectCommand invocation) := by
  unfold selectCommand
  split
  · exact quiet_pure _
  · split
    · exact quiet_refuse _ _
    · exact (quiet_orCrash _).bind fun _ _ => quiet_pure _

/-! ### Targets of commands -/

theorem quiet_targetProcess (command : Command) (settings : Settings) :
    Quiet (targetProcess command settings) := by
  refine (quiet_setting _ _).bind fun value _ => ?_
  split
  · exact quiet_refuse _ _
  · exact quiet_pure _

theorem quiet_failTable (error : TableError) : Quiet (failTable error : Session α) := by
  unfold failTable
  split
  · exact quiet_fail _
  · exact quiet_crash _

theorem quiet_failDocument (error : DocumentError) : Quiet (failDocument error : Session α) := by
  unfold failDocument
  split
  · exact quiet_failTable _
  · exact quiet_crash _
  · exact quiet_crash _
  · exact quiet_crash _
  · exact quiet_crash _
  · exact quiet_crash _
  · exact quiet_fail _

theorem quiet_loadModules (env : Environment) (settings : Settings) :
    Quiet (loadModules env settings) := by
  refine (quiet_setting _ _).bind fun file _ => ?_
  split
  · exact (quiet_recordAll _).bind fun _ _ => quiet_pure _
  · split
    · exact quiet_refuse _ _
    · exact quiet_crash _
    · refine (quiet_recordAll _).bind fun _ _ => ?_
      split
      · exact quiet_pure _
      · exact quiet_failDocument _

theorem quiet_selectSource (env : Environment) (settings : Settings) :
    Quiet (selectSource env settings) := by
  refine (quiet_setting _ _).bind fun name _ => ?_
  refine (quiet_record _ _).bind fun env _ => ?_
  exact (quiet_orCrash _).bind fun source _ => quiet_pure _

theorem quiet_failReport (report : ReadReport) : Quiet (failReport report : Session α) :=
  (quiet_recordAll _).bind fun _ _ => quiet_fail _

theorem quiet_failRead (error : ReadError) : Quiet (failRead error : Session α) := by
  unfold failRead
  split
  · exact quiet_failReport _
  · exact quiet_crash _

theorem quiet_failResolution (error : ResolveError) :
    Quiet (failResolution error : Session α) := by
  unfold failResolution
  split
  · exact quiet_fail _
  · exact quiet_fail _
  · exact quiet_failRead _
  · exact quiet_failTable _
  · exact quiet_crash _
  · exact quiet_crash _

theorem quiet_ofTraced (process : ProcessId) (x : Traced α) : Quiet (ofTraced process x) := by
  refine (quiet_recordAll _).bind fun _ _ => ?_
  split
  · exact quiet_pure _
  · exact quiet_failResolution _

/-! ### Parts that end the run -/

/-- A part of a run that ends the run. -/
def Stops (x : Session α) : Prop := ∃ stop, x.result = .error stop

theorem Stops.result_ne_ok {a : α} (h : Stops x) : x.result ≠ .ok a := by
  obtain ⟨stop, hstop⟩ := h
  rw [hstop]
  exact nofun

/-- What comes behind any value may end a run as well. -/
theorem stops_bind (h : ∀ a, Stops (f a)) : Stops (x >>= f) := by
  cases hx : x.result with
  | error stop =>
    rw [Trace.bind_of_error hx]
    exact ⟨stop, rfl⟩
  | ok a =>
    rw [Trace.bind_of_ok hx]
    exact h a

theorem stops_crash (c : Crash) : Stops (crash c : Session α) := ⟨_, rfl⟩

theorem stops_fail (failure : Failure) : Stops (fail failure : Session α) :=
  stops_bind fun _ => ⟨_, rfl⟩

theorem stops_failTable (error : TableError) : Stops (failTable error : Session α) := by
  unfold failTable
  split
  · exact stops_fail _
  · exact stops_crash _

theorem stops_failReport (report : ReadReport) : Stops (failReport report : Session α) :=
  stops_bind fun _ => stops_fail _

theorem stops_failRead (error : ReadError) : Stops (failRead error : Session α) := by
  unfold failRead
  split
  · exact stops_failReport _
  · exact stops_crash _

theorem stops_failResolution (error : ResolveError) :
    Stops (failResolution error : Session α) := by
  unfold failResolution
  split
  · exact stops_fail _
  · exact stops_fail _
  · exact stops_failRead _
  · exact stops_failTable _
  · exact stops_crash _
  · exact stops_crash _

/-! ### Whole runs -/

/-- A run that prints nothing and ends neither by itself nor with status zero, or that ends by
itself and prints one of certain texts. -/
def FailsOrPrints (x : Session Unit) (texts : String → Prop) : Prop :=
  (printedText x.events = "" ∧ ∃ stop, x.result = .error stop ∧ stop ≠ .exit 0) ∨
    (texts (printedText x.events) ∧ x.result = .ok ())

variable {texts : String → Prop}

theorem failsOrPrints_print {text : String} (h : texts text) : FailsOrPrints (print text) texts :=
  .inr ⟨by simpa [print, Trace.note, printedText] using h, rfl⟩

theorem Quiet.failsOrPrints {x : Session Unit} (hx : Quiet x) (h : Stops x) :
    FailsOrPrints x texts := by
  obtain ⟨stop, hstop⟩ := h
  exact .inl ⟨hx.silent, stop, hstop, fun heq => hx.result_ne (heq ▸ hstop)⟩

/-- A quiet part in front of a run changes nothing about how the run fails or what it prints. -/
theorem FailsOrPrints.bind {f : α → Session Unit} (hx : Quiet x)
    (hf : ∀ a, x.result = .ok a → FailsOrPrints (f a) texts) : FailsOrPrints (x >>= f) texts := by
  cases h : x.result with
  | error stop =>
    -- The run ends in the quiet part, and so with a status other than zero.
    rw [Trace.bind_of_error h]
    exact .inl ⟨hx.silent, stop, rfl, fun hstop => hx.result_ne (hstop ▸ h)⟩
  | ok a =>
    have hevents : printedText (x.events ++ (f a).events) = printedText (f a).events := by
      rw [printedText_append, show printedText x.events = "" from hx.silent, String.empty_append]
    rw [Trace.bind_of_ok h, FailsOrPrints]
    dsimp only
    rw [hevents]
    exact hf a h

theorem FailsOrPrints.ite_report {c : Prop} [Decidable c] {x : Session Unit} (text : String)
    (h : FailsOrPrints x texts) :
    FailsOrPrints (if c then report text >>= fun _ => x else x) texts := by
  split
  · exact .bind (quiet_report _) fun _ _ => h
  · exact h

theorem FailsOrPrints.imp {texts' : String → Prop} {x : Session Unit} (h : FailsOrPrints x texts)
    (himp : ∀ text, texts text → texts' text) : FailsOrPrints x texts' := by
  rcases h with h | ⟨hprinted, hresult⟩
  · exact .inl h
  · exact .inr ⟨himp _ hprinted, hresult⟩

/-- What such a run leaves behind. -/
theorem FailsOrPrints.transcript {x : Session Unit} (h : FailsOrPrints x texts) :
    (x.transcript.printed = "" ∧ x.transcript.ending ≠ .ok 0) ∨
      (texts x.transcript.printed ∧ x.transcript.ending = .ok 0) := by
  rcases h with ⟨hprinted, stop, hresult, hstop⟩ | ⟨hprinted, hresult⟩
  · refine .inl ⟨hprinted, ?_⟩
    rw [Session.transcript, hresult]
    cases stop with
    | exit status => exact fun heq => hstop (congrArg Stop.exit (Except.ok.inj heq))
    | crash c => exact nofun
  · refine .inr ⟨hprinted, ?_⟩
    rw [Session.transcript, hresult]

end Session

end PointerChain.CommandLine
