import PointerChain.Proofs.Expression.Integer
import PointerChain.Proofs.Memory.Word
import PointerChain.Proofs.Module.Base
import PointerChain.Proofs.Resolution.ReadOrder

/-!
# Range of addresses

Whatever a reader gives, a resolution asks it for whole pointers at addresses of 64 bits only, and
gives an address of the width that was asked for.

* `Target.Consults` says how a computation makes use of a reader.
* `Target.consults_resolve` says that a resolution makes use of it in this way.
* `resolve_inRange` puts addresses that are read and the address that is given into their ranges.
-/

namespace PointerChain

/-- How a computation, given by what it does with any reader, makes use of that of a target. -/
structure Target.Consults {α : Type} (target : Target) (run : MemoryReader → Traced α) : Prop where
  /-- It reads pointers, each at the integer that a flat expression on the way stands for. -/
  address : ∀ r ∈ (run target.reader).reads,
    r.2 = pointerSize ∧ ∃ flat, Event.evaluated flat r.1 ∈ (run target.reader).events ∧
      target.modules.integer? flat = some (r.1.toNat : Int)
  /-- It asks for nothing else: only answers to these reads make a difference. -/
  congr : ∀ read : ProcessId → Int → Int → Except ReadError Bytes,
    (∀ r ∈ (run target.reader).reads,
      read target.process r.1.toNat r.2 = target.reader.read target.process r.1.toNat r.2) →
    run { target.reader with read } = run target.reader
  /-- It stops at a read that fails or does not give as many bytes as were asked for. -/
  stops : ∀ r ∈ (run target.reader).reads, ∀ e,
    target.reader.readExact target.process r.1.toNat r.2 = .error e →
      (run target.reader).result = .error (.read e)

variable {target : Target}

namespace Target.Consults

variable {α β : Type}

/-- A computation that reads nothing and is the same for all readers. -/
theorem of_reads_eq_nil {run : MemoryReader → Traced α} {x : Traced α} (hx : x.reads = [])
    (hrun : ∀ reader, run reader = x) : target.Consults run where
  address := by
    intro r hr
    rw [hrun, hx] at hr
    cases hr
  congr := by
    intro read _
    rw [hrun, hrun]
  stops := by
    intro r hr
    rw [hrun, hx] at hr
    cases hr

theorem pure (a : α) : target.Consults fun _ => (Pure.pure a : Traced α) :=
  of_reads_eq_nil rfl fun _ => rfl

/-- A sequence makes use of a reader as its parts do. -/
theorem bind {run : MemoryReader → Traced α} {next : α → MemoryReader → Traced β}
    (hrun : target.Consults run)
    (hnext : ∀ a, (run target.reader).result = .ok a → target.Consults (next a)) :
    target.Consults fun reader => run reader >>= fun a => next a reader := by
  -- Behind a failure there is no second part, so what holds of the first part is all there is.
  cases hresult : (run target.reader).result with
  | error e =>
    have hreads := Trace.reads_bind_of_error hresult fun a => next a target.reader
    refine ⟨fun r hr => ?_, fun read hagree => ?_, fun r hr e' he' => ?_⟩
    · rw [hreads] at hr
      rw [Trace.bind_of_error hresult]
      exact hrun.address r hr
    · rw [hreads] at hagree
      have hsame := hrun.congr read hagree
      rw [hsame, Trace.bind_of_error hresult, Trace.bind_of_error hresult]
    · rw [hreads] at hr
      have hstops := hrun.stops r hr e' he'
      rw [hresult] at hstops
      rw [Trace.bind_of_error hresult, Except.error.inj hstops]
  | ok a =>
    have hthen := hnext a hresult
    have hreads := Trace.reads_bind_of_ok hresult fun a => next a target.reader
    refine ⟨fun r hr => ?_, fun read hagree => ?_, fun r hr e' he' => ?_⟩
    · rw [hreads, List.mem_append] at hr
      rw [Trace.bind_of_ok hresult]
      rcases hr with hr | hr
      · obtain ⟨hsize, flat, hmem, hinteger⟩ := hrun.address r hr
        exact ⟨hsize, flat, List.mem_append_left _ hmem, hinteger⟩
      · obtain ⟨hsize, flat, hmem, hinteger⟩ := hthen.address r hr
        exact ⟨hsize, flat, List.mem_append_right _ hmem, hinteger⟩
    · -- The first part is the same with the other reader, so the same second part follows.
      rw [hreads] at hagree
      have hsame := hrun.congr read fun r hr => hagree r (List.mem_append_left _ hr)
      have hsameThen := hthen.congr read fun r hr => hagree r (List.mem_append_right _ hr)
      rw [hsame, Trace.bind_of_ok hresult, Trace.bind_of_ok hresult, hsameThen]
    · rw [hreads, List.mem_append] at hr
      rcases hr with hr | hr
      · -- A failed read in the first part would have been the end of it.
        have hstops := hrun.stops r hr e' he'
        rw [hresult] at hstops
        cases hstops
      · rw [Trace.bind_of_ok hresult]
        exact hthen.stops r hr e' he'

end Target.Consults

/-! ### One pointer -/

namespace Target

theorem events_dereference_of_evaluate {flat : String} {a : Address}
    (h : PointerChain.evaluate target.modules flat = .ok a) :
    (target.dereference flat).reads = [(a, pointerSize)] ∧
      Event.evaluated flat a ∈ (target.dereference flat).events := by
  cases hpointer : target.pointer a with
  | ok v =>
    rw [dereference_of_ok h hpointer]
    exact ⟨rfl, List.mem_cons_self⟩
  | error e =>
    rw [dereference_of_pointer_error h hpointer]
    exact ⟨rfl, List.mem_cons_self⟩

/-- Of a reader, only the pointer at the value of an expression counts. -/
theorem dereference_congr_of_evaluate {flat : String} {a : Address} {reader : MemoryReader}
    (h : PointerChain.evaluate target.modules flat = .ok a)
    (hpointer : reader.readPointer target.process (a.toNat : Int) =
      target.reader.readPointer target.process (a.toNat : Int)) :
    Target.dereference { target with reader } flat = target.dereference flat := by
  have hevaluate : Target.evaluate { target with reader } flat = ⟨[.evaluated flat a], .ok a⟩ :=
    evaluate_of_ok h
  rw [dereference, dereference, hevaluate, evaluate_of_ok h]
  refine Trace.bind_congr_of_ok fun b hb => ?_
  obtain rfl := Except.ok.inj hb
  rw [hpointer]
  rfl

/-- One pointer is read at the value of a flat expression. -/
theorem consults_dereference (flat : String) :
    target.Consults fun reader => Target.dereference { target with reader } flat := by
  -- A text without a value leads to no read; otherwise there is one read, at the value.
  cases heval : PointerChain.evaluate target.modules flat with
  | error e =>
    exact .of_reads_eq_nil rfl fun reader => dereference_of_error heval
  | ok a =>
    obtain ⟨hreads, hevaluated⟩ := events_dereference_of_evaluate heval
    refine ⟨fun r hr => ?_, fun read hagree => ?_, fun r hr e he => ?_⟩
    · obtain rfl := List.mem_singleton.mp (hreads ▸ hr)
      exact ⟨rfl, flat, hevaluated, ModuleTable.integer?_of_evaluate heval⟩
    · have hread := hagree (a, pointerSize) (hreads ▸ List.mem_singleton_self _)
      have hpointer : MemoryReader.readPointer { target.reader with read } target.process
          (a.toNat : Int) = target.reader.readPointer target.process (a.toNat : Int) := by
        simp only [MemoryReader.readPointer, MemoryReader.readExact, hread]
      exact dereference_congr_of_evaluate heval hpointer
    · obtain rfl := List.mem_singleton.mp (hreads ▸ hr)
      have hread : target.reader.readPointer target.process (a.toNat : Int) = .error e := by
        rw [MemoryReader.readPointer, he]
        rfl
      have hpointer : target.pointer a = .error (.read e) :=
        pointer_eq_error_iff.mpr (.inl ⟨e, hread, rfl⟩)
      rw [dereference_of_pointer_error heval hpointer]

end Target

/-! ### Whole expressions -/

section Expression

variable {expression : String}

theorem Scan.consults_closing (position : Nat) (s : Scan) :
    target.Consults fun reader => s.closing { target with reader } expression position := by
  -- Only a text with an operand is read at; in the other cases the reader is left alone.
  by_cases hempty : s.current.isEmpty = true
  · simp only [closing, if_pos hempty]
    exact .pure _
  by_cases hoperands : hasOperands s.current = true
  · simp only [closing, if_neg hempty, if_pos hoperands]
    exact (target.consults_dereference s.current).bind fun value _ => .pure _
  by_cases hstrict : target.strict = true
  · simp only [closing, if_neg hempty, if_neg hoperands, if_pos hstrict]
    exact .of_reads_eq_nil rfl fun _ => rfl
  · simp only [closing, if_neg hempty, if_neg hoperands, if_neg hstrict]
    exact .pure _

/-- One character leads to one read at most. -/
theorem Scan.consults_step (position : Nat) (s : Scan) (c : Char) :
    target.Consults fun reader => s.step { target with reader } expression position c := by
  by_cases hopening : c = '['
  · subst hopening
    exact .pure s.opening
  by_cases hclosing : c = ']'
  · subst hclosing
    exact s.consults_closing position
  · exact .of_reads_eq_nil rfl fun reader => step_of_plain ⟨hopening, hclosing⟩ s position

/-- A pass over an expression makes use of the reader as its steps do. -/
theorem consults_scan (position : Nat) (s : Scan) (cs : List Char) :
    target.Consults fun reader => scan { target with reader } expression position s cs := by
  -- By induction on the characters, over every state, since a step may lead to any.
  induction cs generalizing position s with
  | nil => exact .pure s
  | cons c cs ih =>
    exact (Scan.consults_step position s c).bind fun next _ => ih (position + 1) next

theorem Target.reads_evaluate (flat : String) : (target.evaluate flat).reads = [] := by
  cases heval : PointerChain.evaluate target.modules flat with
  | ok a => rw [evaluate_of_ok heval]; rfl
  | error e => rw [evaluate_of_error heval]; rfl

theorem Scan.consults_conclude (s : Scan) :
    target.Consults fun reader => Scan.conclude { target with reader } s := by
  have hreads : (s.conclude target).reads = [] := by
    rw [s.reads_conclude, target.reads_evaluate]
  exact .of_reads_eq_nil hreads fun _ => rfl

/-- Whether the pass over an expression is begun at all is decided without a reader. -/
theorem Target.resolveNested_passes_or_stops (target : Target) (expression : String) :
    (∀ reader, resolveNested { target with reader } expression =
      scan { target with reader } expression 0 Scan.start expression.toList >>=
        Scan.conclude { target with reader }) ∨
    ∃ e, ∀ reader,
      resolveNested { target with reader } expression = Trace.stop (.brackets e) := by
  by_cases hchecked : target.strict = true → checkBrackets expression = .ok ()
  · exact .inl fun reader => resolveNested_eq_bind hchecked
  · obtain ⟨hstrict, hfault⟩ := Classical.not_imp.mp hchecked
    cases hcheck : checkBrackets expression with
    | ok => exact absurd hcheck hfault
    | error e =>
      refine .inr ⟨e, fun reader => ?_⟩
      exact @resolveNested_of_error { target with reader } expression hstrict e hcheck

theorem Target.consults_resolveNested :
    target.Consults fun reader => resolveNested { target with reader } expression := by
  obtain hpass | ⟨e, hstop⟩ := target.resolveNested_passes_or_stops expression
  · simp only [hpass]
    exact (consults_scan 0 Scan.start expression.toList).bind fun s _ => s.consults_conclude
  · exact .of_reads_eq_nil rfl hstop

variable {bits : Int}

theorem isWidth_iff : isWidth bits = true ↔ bits % 8 = 0 ∧ 8 ≤ bits ∧ bits ≤ 64 := by
  simp [isWidth, and_assoc]

/-- An address of a supported width is a narrowed one of 64 bits, once that is recorded. -/
theorem resolve_of_isWidth (h : isWidth bits = true) :
    resolve target bits expression =
      resolveNested target expression >>= fun value =>
        target.record (.resolved expression value) >>= fun _ =>
          return narrow bits.toNat value := by
  rw [resolve, Width.ofInt, if_pos h]
  rfl

/-- An unsupported width is refused at once. -/
theorem resolve_of_not_isWidth (h : ¬ isWidth bits = true) :
    resolve target bits expression = Trace.stop (.width (.ofInt bits)) := by
  rw [resolve, Width.ofInt, if_neg h]
  rfl

theorem reads_record_resolved (bits : Int) (value : Address) :
    (target.record (.resolved expression value) >>= fun _ =>
      (return narrow bits.toNat value : Traced Address)).reads = [] := by
  rw [Target.record]
  split <;> rfl

theorem Target.consults_resolve (bits : Int) (expression : String) :
    target.Consults fun reader => resolve { target with reader } bits expression := by
  by_cases hwidth : isWidth bits = true
  · simp only [resolve_of_isWidth hwidth]
    exact target.consults_resolveNested.bind fun value _ =>
      .of_reads_eq_nil (reads_record_resolved bits value) fun _ => rfl
  · exact .of_reads_eq_nil rfl fun reader => resolve_of_not_isWidth hwidth

/-! ### Widths -/

theorem toNat_narrow (n : Nat) (a : Address) : (narrow n a).toNat = a.toNat % 2 ^ n := by
  have hlt : a.toNat % 2 ^ n < 2 ^ 64 := Nat.lt_of_le_of_lt (Nat.mod_le _ _) a.toNat_lt
  exact UInt64.toNat_ofNat_of_lt' hlt

theorem reads_resolve (h : isWidth bits = true) :
    (resolve target bits expression).reads = (resolveNested target expression).reads := by
  rw [resolve_of_isWidth h]
  cases hresult : (resolveNested target expression).result with
  | ok a =>
    rw [Trace.reads_bind_of_ok hresult, reads_record_resolved, List.append_nil]
  | error e => rw [Trace.reads_bind_of_error hresult]

/-- The narrowed address of a process that can be shown. -/
theorem result_resolve (h : isWidth bits = true) :
    (resolve target bits expression).result =
      (resolveNested target expression).result >>= fun a =>
        if target.process.isUnwritable then .error .unwritable
        else .ok (narrow bits.toNat a) := by
  rw [resolve_of_isWidth h]
  cases hresult : (resolveNested target expression).result with
  | ok a =>
    rw [Trace.bind_of_ok hresult, Target.record]
    change (Trace.bind _ _).result = if _ then _ else _
    split <;> rfl
  | error e =>
    rw [Trace.bind_of_error hresult]
    rfl

/-- An address of a supported width is that of 64 bits, modulo the bound of the width. -/
theorem map_toNat_result_resolve (h : isWidth bits = true) :
    (resolve target bits expression).result.map UInt64.toNat =
      (resolve target 64 expression).result.map fun full => full.toNat % 2 ^ bits.toNat := by
  have hfull : isWidth 64 = true := rfl
  rw [result_resolve h, result_resolve hfull]
  cases (resolveNested target expression).result with
  | error e => rfl
  | ok a =>
    cases target.process.isUnwritable with
    | true => rfl
    | false =>
      -- Narrowing to 64 bits changes nothing.
      have hnarrow : (narrow bits.toNat a).toNat = (narrow 64 a).toNat % 2 ^ bits.toNat := by
        rw [toNat_narrow, toNat_narrow, Nat.mod_eq_of_lt a.toNat_lt]
      exact congrArg Except.ok hnarrow

theorem lt_of_result_resolve (h : isWidth bits = true) {r : Address}
    (hr : (resolve target bits expression).result = .ok r) : r.toNat < 2 ^ bits.toNat := by
  rw [result_resolve h] at hr
  obtain ⟨a, -, hr⟩ := exists_of_bind_eq_ok hr
  split at hr
  · cases hr
  · obtain rfl := Except.ok.inj hr
    rw [toNat_narrow]
    exact Nat.mod_lt _ (Nat.two_pow_pos _)

/-- Addresses stay in range, whatever the modules, the reader and the expression are.

* Bases of modules are the integers that the entries of the table give, with nothing cut off.
* A flat expression stands for an integer of 64 bits.
* The reader is asked for pointers at such integers only, and only these answers count.
* A pointer is what its eight bytes spell, with nothing cut off.
* An answer that is too short or too long is reported, unless the process cannot be shown, and there
  is no address.
* An address of a supported width is that of 64 bits modulo the bound of the width, and it takes the
  same reads.
* An address of any other width is refused before anything is read. -/
theorem resolve_inRange (target : Target) (bits : Int) (expression : String) :
    (∀ entries, ModuleTable.ofEntries entries = .ok target.modules →
      (target.modules.modules.map fun m => some (m.base.toNat : Int)) = entries.map Entry.base?) ∧
    (∀ flat n, target.modules.integer? flat = some n → 0 ≤ n ∧ n < 2 ^ 64) ∧
    (target.Consults fun reader => resolve { target with reader } bits expression) ∧
    (∀ address v, target.reader.readPointer target.process address = .ok v →
      ∃ bytes, target.reader.read target.process address 8 = .ok bytes ∧ bytes.length = 8 ∧
        v.toNat = bytes.ofLittleEndian) ∧
    (∀ r ∈ (resolve target bits expression).reads, ∀ bytes,
      target.reader.read target.process r.1.toNat r.2 = .ok bytes → bytes.length ≠ 8 →
        (resolve target bits expression).result = .error (.read
          (if target.process.isUnwritable then .refused .unwritable else
            .failed ⟨target.reader.name, target.process, r.1.toNat,
              .wrongLength 8 bytes.length⟩))) ∧
    (bits % 8 = 0 ∧ 8 ≤ bits ∧ bits ≤ 64 →
      (resolve target bits expression).reads = (resolve target 64 expression).reads ∧
      ((resolve target bits expression).result.map UInt64.toNat =
        (resolve target 64 expression).result.map fun full => full.toNat % 2 ^ bits.toNat) ∧
      ∀ r, (resolve target bits expression).result = .ok r → r.toNat < 2 ^ bits.toNat) ∧
    (¬ (bits % 8 = 0 ∧ 8 ≤ bits ∧ bits ≤ 64) →
      resolve target bits expression = Trace.stop (.width (.ofInt bits))) := by
  have hconsults := target.consults_resolve bits expression
  refine ⟨fun entries => ModuleTable.map_base_ofEntries, fun flat n => ModuleTable.integer?_bounds,
    hconsults, fun address v => MemoryReader.exists_of_readPointer,
    fun r hr bytes hread hlength => ?_, fun hwidth => ?_, fun hwidth => ?_⟩
  · obtain ⟨hsize, -⟩ := hconsults.address r hr
    rw [hsize] at hread
    -- Only the process may be one that the report cannot show.
    have hreport : ReadReport.isUnwritable ⟨target.reader.name, target.process, r.1.toNat,
        .wrongLength 8 bytes.length⟩ = target.process.isUnwritable := Bool.or_false _
    refine hconsults.stops r hr _ ?_
    rw [hsize, MemoryReader.readExact_of_length_ne hread hlength, ← hreport]
    rfl
  · rw [← isWidth_iff] at hwidth
    have hfull : isWidth 64 = true := rfl
    refine ⟨?_, map_toNat_result_resolve hwidth, fun r => lt_of_result_resolve hwidth⟩
    rw [reads_resolve hwidth, reads_resolve hfull]
  · rw [← isWidth_iff] at hwidth
    exact resolve_of_not_isWidth hwidth

/-- A process whose reader has three bytes for everything. -/
def shortTarget : Target where
  process := (1 : Int)
  modules := ModuleTable.ofList []
  reader := ⟨"short", fun _ _ _ => .ok [1, 2, 3]⟩

/-- A base is kept as its literal spells it, an address is narrowed to one byte, and three bytes for
a pointer are reported. -/
theorem resolve_inRange_sample :
    (sampleTarget.modules.modules.map fun m => some (m.base.toNat : Int)) = [some 0x1000] ∧
      (resolve sampleTarget 8 "[lib.so+0x10]+0x123").result.map UInt64.toNat = .ok 0x23 ∧
      (resolve shortTarget 64 "[8]").result = .error (.read (.failed
        ⟨"short", (1 : Int), 8, .wrongLength 8 3⟩)) ∧
      (∃ shown, resolve sampleTarget 12 "8" = Trace.stop (.width (.unsupported shown))) := by
  have hentries : ModuleTable.ofEntries [.row [.string "lib.so", .string "0x1000"]] =
      .ok sampleTarget.modules := by decide +kernel
  obtain ⟨hbases, -, -, -, -, hwidth, -⟩ := resolve_inRange sampleTarget 8 "[lib.so+0x10]+0x123"
  obtain ⟨-, -, -, -, hshort, -⟩ := resolve_inRange shortTarget 64 "[8]"
  obtain ⟨-, -, -, -, -, -, hrefused⟩ := resolve_inRange sampleTarget 12 "8"
  have hreads : (resolve shortTarget 64 "[8]").reads = [(8, 8)] := by decide +kernel
  have hbase : Entry.base? (.row [.string "lib.so", .string "0x1000"]) = some 0x1000 := by
    decide +kernel
  refine ⟨?_, ?_, ?_, _, hrefused (by decide)⟩
  · rw [hbases _ hentries, List.map_cons, hbase]
    rfl
  · have hnested : (resolveNested sampleTarget "[lib.so+0x10]+0x123").result = .ok 0x2123 := by
      decide +kernel
    have hfull : isWidth 64 = true := rfl
    rw [(hwidth (by decide)).2.1, result_resolve hfull, hnested]
    rfl
  · exact hshort (8, 8) (by rw [hreads]; exact List.mem_singleton_self _) [1, 2, 3] rfl (by decide)

/-- Three bytes for a pointer are not reported if the process cannot be shown. -/
theorem resolve_inRange_unshown :
    let target : Target := { shortTarget with process := Text.leastUnwritable }
    target.reader.read target.process 8 8 = .ok [1, 2, 3] ∧
      (8, 8) ∈ (resolve target 64 "[8]").reads ∧
      ¬∃ report, (resolve target 64 "[8]").result = .error (.read (.failed report)) := by
  intro target
  have hprocess : target.process.isUnwritable = true := by
    rw [show target.process = Text.leastUnwritable from rfl, ProcessId.isUnwritable_ofInt,
      Text.isUnwritable_leastUnwritable]
  have hread : target.reader.readPointer target.process 8 = .error (.refused .unwritable) := by
    have hbytes : target.reader.read target.process 8 pointerSize = .ok [1, 2, 3] := rfl
    have hlength := MemoryReader.readExact_of_length_ne hbytes (by decide)
    rw [ReadReport.raised_of_unwritable hprocess] at hlength
    rw [MemoryReader.readPointer, hlength]
    rfl
  have hpointer : target.pointer 8 = .error (.read (.refused .unwritable)) :=
    Target.pointer_eq_error_iff.mpr (.inl ⟨_, hread, rfl⟩)
  have hmodules : target.modules = ModuleTable.ofList [] := rfl
  have hvalue : evaluate target.modules "8" = .ok 8 := by
    rw [hmodules]
    decide +kernel
  have hnested : resolveNested target "[8]" = _ :=
    resolveNested_ofGroup_of_error (by simp) (by decide +kernel) hvalue hpointer
  have hwidth : isWidth 64 = true := rfl
  have hresolve : resolve target 64 "[8]" = _ := resolve_of_isWidth hwidth
  rw [hnested, Trace.bind_of_error rfl] at hresolve
  refine ⟨rfl, ?_, ?_⟩
  · rw [hresolve]
    exact .head _
  · rw [hresolve]
    rintro ⟨report, hreport⟩
    cases hreport

end Expression

end PointerChain
