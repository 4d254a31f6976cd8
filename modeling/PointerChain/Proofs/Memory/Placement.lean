import Mathlib.Data.List.Induction
import Mathlib.Data.List.Nodup
import PointerChain.Proofs.Memory.Image

/-!
# Histories of placements

Buffers are placed one after the other, at places that are free and at places that are taken. Which
bytes a read gives depends on the whole history: a place keeps the rank that it got when it was
first taken, and it has the bytes that were placed there last.

* `Placements` is a history. `Placements.latest?` is what was last placed at a place, and
  `Placements.rank` is when the place was first taken.
* `Placements.Serves` says which region serves a read.
* `Placements.Records` says what a memory keeps of a history. `Records.add` is the step and
  `records_memory` the whole history.
* `read_placements` is about all reads after all histories.
-/

namespace PointerChain

variable {process : ProcessId} {address length : Int}

/-! ### Places -/

namespace Region

/-- Where a region is placed: what tells its process from others, and its first address. -/
def place (r : Region) : Json × Int := (r.process.key, r.offset)

/-- A region of a process that has all bytes of a range. -/
structure Covers (r : Region) (process : ProcessId) (address length : Int) : Prop where
  /-- The region is one of the process. -/
  process : r.process.isSame process = true
  /-- It starts in front of the range, or where the range starts. -/
  start : r.offset ≤ address
  /-- It ends behind the range, or where the range ends. -/
  stop : address + length ≤ r.offset + r.bytes.length

theorem holds_iff {r : Region} :
    r.holds process address length = true ↔ r.Covers process address length := by
  simp only [holds, Bool.and_eq_true, decide_eq_true_eq, and_assoc]
  constructor
  · rintro ⟨hprocess, hstart, hstop⟩
    exact ⟨hprocess, hstart, hstop⟩
  · intro h
    exact ⟨h.process, h.start, h.stop⟩

theorem place_eq_iff {r : Region} {offset : Int} :
    r.place = (process.key, offset) ↔ r.process.isSame process = true ∧ r.offset = offset := by
  rw [place, Prod.mk.injEq, ProcessId.isSame, decide_eq_true_eq]

end Region

theorem ProcessId.isSame_congr {p q : ProcessId} (h : p.key = q.key) (process : ProcessId) :
    p.isSame process = q.isSame process := by
  rw [isSame, isSame, h]

namespace BufferMemory

variable {memory : BufferMemory} {r : Region}

/-- The region that is found has all bytes of the range. -/
theorem covers_of_find? (h : memory.find? process address length = some r) :
    r ∈ memory ∧ r.Covers process address length := by
  unfold find? at h
  have hholds := List.find?_some h
  exact ⟨List.mem_of_find?_eq_some h, Region.holds_iff.mp hholds⟩

/-! ### One placement -/

/-- A region goes behind all others if its place is free, and otherwise takes the place of the one
that is there. -/
theorem add_cases (memory : BufferMemory) (r : Region) :
    ((∀ s ∈ memory, s.place ≠ r.place) ∧
      memory.add r.process r.offset r.bytes = memory ++ [r]) ∨
    ∃ before s after, memory = before ++ s :: after ∧ s.place = r.place ∧
      (∀ t ∈ before, t.place ≠ r.place) ∧
      memory.add r.process r.offset r.bytes = before ++ r :: after := by
  induction memory with
  | nil => exact .inl ⟨List.forall_mem_nil _, rfl⟩
  | cons s memory ih =>
    by_cases hs : s.place = r.place
    · refine .inr ⟨[], s, memory, rfl, hs, List.forall_mem_nil _, ?_⟩
      rw [add, if_pos (Region.place_eq_iff.mp hs), List.nil_append]
    · have hadd : add (s :: memory) r.process r.offset r.bytes =
          s :: add memory r.process r.offset r.bytes := by
        rw [add, if_neg (mt Region.place_eq_iff.mpr hs)]
      rw [hadd]
      rcases ih with ⟨hfree, heq⟩ | ⟨before, t, after, rfl, ht, hbefore, heq⟩
      · exact .inl ⟨List.forall_mem_cons.mpr ⟨hs, hfree⟩, congrArg (s :: ·) heq⟩
      · exact .inr ⟨s :: before, t, after, rfl, ht, List.forall_mem_cons.mpr ⟨hs, hbefore⟩,
          congrArg (s :: ·) heq⟩

/-- A search for what no region at the place has gives what it gave before. -/
theorem find?_add_of_not {p : Region → Bool} (hnew : p r = false)
    (hold : ∀ s ∈ memory, s.place = r.place → p s = false) :
    List.find? p (memory.add r.process r.offset r.bytes) = List.find? p memory := by
  rcases memory.add_cases r with ⟨-, heq⟩ | ⟨before, s, after, rfl, hs, -, heq⟩
  · rw [heq, List.find?_append, List.find?_singleton, hnew]
    exact Option.or_none
  · have hs : p s = false := hold s (by simp) hs
    rw [heq, List.find?_append, List.find?_append, List.find?_cons, List.find?_cons, hnew, hs]

/-- After a placement, the region is what is found at its place. -/
theorem find?_place_add (place : Json × Int) :
    List.find? (·.place = place) (memory.add r.process r.offset r.bytes) =
      if r.place = place then some r else List.find? (·.place = place) memory := by
  split
  next hplace =>
    subst hplace
    -- nothing in front of the region is at its place
    have hskip {before : List Region} (h : ∀ t ∈ before, t.place ≠ r.place) :
        List.find? (·.place = r.place) before = none := by
      simpa using h
    rcases memory.add_cases r with ⟨hfree, heq⟩ | ⟨before, s, after, rfl, -, hbefore, heq⟩
    · rw [heq, List.find?_append, hskip hfree, List.find?_singleton]
      simp
    · rw [heq, List.find?_append, hskip hbefore, List.find?_cons]
      simp
  next hplace =>
    refine find?_add_of_not (decide_eq_false hplace) ?_
    intro s _ hs
    exact decide_eq_false (hs ▸ hplace)

/-- A placement changes nothing about the places that are taken, but takes one more if it is free.
-/
theorem map_place_add : (memory.add r.process r.offset r.bytes).map Region.place =
    if r.place ∈ memory.map Region.place then memory.map Region.place
    else memory.map Region.place ++ [r.place] := by
  rcases memory.add_cases r with ⟨hfree, heq⟩ | ⟨before, s, after, rfl, hs, -, heq⟩
  · have hmem : r.place ∉ memory.map Region.place := by
      simpa [eq_comm] using hfree
    rw [if_neg hmem, heq, List.map_append, List.map_singleton]
  · rw [if_pos (by simp [hs]), heq, List.map_append, List.map_append, List.map_cons, List.map_cons,
      hs]

end BufferMemory

/-! ### Histories -/

/-- The regions that were placed, in order. -/
abbrev Placements := List Region

namespace Placements

/-- The memory after all placements. -/
def memory (placements : Placements) : BufferMemory := BufferMemory.addAll [] placements

/-- What was last placed at a place. -/
def latest? (placements : Placements) (place : Json × Int) : Option Region :=
  placements.reverse.find? (·.place = place)

/-- How many placements there were when a place was first taken. -/
def rank (placements : Placements) (place : Json × Int) : Nat :=
  placements.findIdx (·.place = place)

/-- The region that serves a read: of the regions that were placed last at their places and that
have all the bytes, it is the one whose place was taken first. -/
structure Serves (placements : Placements) (r : Region) (process : ProcessId)
    (address length : Int) : Prop where
  /-- It was placed last at its place. -/
  latest : placements.latest? r.place = some r
  /-- It has all the bytes. -/
  covers : r.Covers process address length
  /-- Its place was taken first. -/
  first : ∀ s, placements.latest? s.place = some s → s.Covers process address length →
    placements.rank r.place ≤ placements.rank s.place

variable {placements : Placements} {memory : BufferMemory} {r : Region}

theorem memory_append (placements more : Placements) :
    Placements.memory (placements ++ more) = placements.memory.addAll more :=
  List.foldl_append

theorem memory_concat (placements : Placements) (r : Region) :
    Placements.memory (placements ++ [r]) =
      placements.memory.add r.process r.offset r.bytes :=
  memory_append placements [r]

theorem mem_of_latest? {place : Json × Int} (h : placements.latest? place = some r) :
    r ∈ placements ∧ r.place = place := by
  constructor
  · simpa using List.mem_of_find?_eq_some h
  · simpa using List.find?_some h

theorem exists_latest? {place : Json × Int} (h : place ∈ placements.map Region.place) :
    ∃ r, placements.latest? place = some r := by
  obtain ⟨r, hr, hplace⟩ := List.mem_map.mp h
  refine Option.isSome_iff_exists.mp (List.find?_isSome.mpr ⟨r, ?_, decide_eq_true hplace⟩)
  exact List.mem_reverse.mpr hr

@[simp]
theorem latest?_concat (placements : Placements) (r : Region) (place : Json × Int) :
    latest? (placements ++ [r]) place =
      if r.place = place then some r else placements.latest? place := by
  by_cases h : r.place = place <;> simp [latest?, h]

/-- Placements elsewhere do not change what was last placed at a place. -/
theorem latest?_append_of_not_mem {more : Placements} {place : Json × Int}
    (h : place ∉ more.map Region.place) :
    latest? (placements ++ more) place = placements.latest? place := by
  have hmore : more.reverse.find? (·.place = place) = none := by
    simpa using h
  rw [latest?, List.reverse_append, List.find?_append, hmore, Option.none_or, latest?]

theorem rank_lt_length_iff {place : Json × Int} :
    placements.rank place < placements.length ↔ place ∈ placements.map Region.place := by
  rw [rank, List.findIdx_lt_length, List.mem_map]
  simp only [decide_eq_true_eq]

/-- Later placements do not change when a place was first taken. -/
theorem rank_append_of_mem {place : Json × Int} (h : place ∈ placements.map Region.place)
    (more : Placements) : rank (placements ++ more) place = placements.rank place := by
  rw [rank, List.findIdx_append]
  exact if_pos (rank_lt_length_iff.mpr h)

/-- A place that is not taken yet comes behind all that are. -/
theorem length_le_rank_append {place : Json × Int} (h : place ∉ placements.map Region.place)
    (more : Placements) : placements.length ≤ rank (placements ++ more) place := by
  have hrank : ¬placements.rank place < placements.length := mt rank_lt_length_iff.mp h
  rw [rank, List.findIdx_append]
  exact (if_neg hrank).symm ▸ Nat.le_add_left _ _

/-- What a memory keeps of a history: at each place what was last placed there, in the order in
which the places were first taken. -/
structure Records (placements : Placements) (memory : BufferMemory) : Prop where
  /-- What is at a place was placed there last. -/
  find?_place : ∀ place, List.find? (·.place = place) memory = placements.latest? place
  /-- A place is taken if something was placed there. -/
  mem_place : ∀ place, place ∈ memory.map Region.place ↔ place ∈ placements.map Region.place
  /-- The places are in the order of their ranks. -/
  ordered : (memory.map Region.place).Pairwise fun p q => placements.rank p < placements.rank q

theorem records_nil : Records [] [] where
  find?_place := fun _ => rfl
  mem_place := fun _ => Iff.rfl
  ordered := .nil

/-- One more placement. -/
theorem Records.add (h : Records placements memory) (r : Region) :
    Records (placements ++ [r]) (memory.add r.process r.offset r.bytes) where
  find?_place := by
    intro place
    rw [BufferMemory.find?_place_add, latest?_concat, h.find?_place]
  mem_place := by
    intro place
    rw [BufferMemory.map_place_add, List.map_append, List.mem_append, ← h.mem_place]
    split
    next hmem =>
      -- the place was taken before, so it is no new one
      constructor
      · exact .inl
      · rintro (hplace | hplace)
        · exact hplace
        · rwa [List.mem_singleton.mp hplace]
    next => rw [List.mem_append, List.map_singleton]
  ordered := by
    have hrank {place : Json × Int} (hplace : place ∈ memory.map Region.place) :
        rank (placements ++ [r]) place = placements.rank place :=
      rank_append_of_mem ((h.mem_place place).mp hplace) [r]
    have hordered : (memory.map Region.place).Pairwise fun p q =>
        rank (placements ++ [r]) p < rank (placements ++ [r]) q := by
      refine h.ordered.imp_of_mem ?_
      intro p q hp hq hlt
      rwa [hrank hp, hrank hq]
    rw [BufferMemory.map_place_add]
    split
    next => exact hordered
    next hmem =>
      -- the new place ranks behind all places that are taken
      refine List.pairwise_append.mpr ⟨hordered, List.pairwise_singleton _ _, ?_⟩
      intro p hp q hq
      obtain rfl := List.mem_singleton.mp hq
      have hbehind := length_le_rank_append (mt (h.mem_place r.place).mpr hmem) [r]
      have hfront := rank_lt_length_iff.mpr ((h.mem_place p).mp hp)
      rw [hrank hp]
      omega

/-- The memory after a whole history keeps what there is to keep of it. -/
theorem records_memory (placements : Placements) : Records placements placements.memory := by
  induction placements using List.reverseRecOn with
  | nil => exact records_nil
  | append_singleton placements r ih =>
    rw [memory_concat]
    exact ih.add r

namespace Records

variable (h : Records placements memory)

include h

/-- The regions that are there are those that were placed last at their places. -/
theorem mem_iff : r ∈ memory ↔ placements.latest? r.place = some r := by
  rw [← h.find?_place]
  constructor
  · intro hr
    have hnodup : (memory.map Region.place).Nodup :=
      h.ordered.imp fun hlt heq => absurd (heq ▸ hlt) (Nat.lt_irrefl _)
    obtain ⟨s, hs⟩ : ∃ s, List.find? (·.place = r.place) memory = some s :=
      Option.isSome_iff_exists.mp (List.find?_isSome.mpr ⟨r, hr, decide_eq_true rfl⟩)
    have hplace : s.place = r.place := by simpa using List.find?_some hs
    -- no other region is at the place
    rw [hs, List.inj_on_of_nodup_map hnodup (List.mem_of_find?_eq_some hs) hr hplace]
  · exact List.mem_of_find?_eq_some

/-- The region that is found serves the read. -/
theorem serves (hfind : memory.find? process address length = some r) :
    placements.Serves r process address length where
  latest := h.mem_iff.mp (BufferMemory.covers_of_find? hfind).1
  covers := (BufferMemory.covers_of_find? hfind).2
  first := by
    intro s hs hcovers
    obtain ⟨-, before, after, rfl, hbefore⟩ := List.find?_eq_some_iff_append.mp hfind
    have hordered := h.ordered
    rw [List.map_append, List.map_cons, List.pairwise_append, List.pairwise_cons] at hordered
    -- a region that has all the bytes does not stand in front of the one that is found
    rcases List.mem_append.mp (h.mem_iff.mpr hs) with hmem | hmem
    · exact absurd (Region.holds_iff.mpr hcovers) (by simpa using hbefore s hmem)
    · rcases List.mem_cons.mp hmem with rfl | hmem
      · exact Nat.le_refl _
      · exact Nat.le_of_lt (hordered.2.1.1 _ (List.mem_map_of_mem hmem))

/-- Where no region is found, none has all the bytes. -/
theorem not_covers (hfind : memory.find? process address length = none)
    (hr : placements.latest? r.place = some r) : ¬r.Covers process address length := by
  intro hcovers
  exact List.find?_eq_none.mp hfind r (h.mem_iff.mpr hr) (Region.holds_iff.mpr hcovers)

end Records

end Placements

/-! ### Reads -/

namespace BufferMemory

variable {memory : BufferMemory} {name : String} {bytes : Bytes} {r : Region}

/-- What is read is what the region that is found has in the range. -/
theorem read_eq_window (name : String) (hplain : process.compound = none) (h₀ : 0 ≤ length)
    (hfind : memory.find? process address length = some r) :
    memory.read name process address length =
      .ok (r.bytes.window (address - r.offset).toNat length.toNat) := by
  have hstart : 0 ≤ address - r.offset := Int.sub_nonneg.mpr (covers_of_find? hfind).2.start
  rw [read_of_find?_eq_some hplain hfind, r.bytes.slice_eq_window hstart h₀]

theorem isValid_iff (hplain : process.compound = none) :
    memory.isValid process address length = true ↔
      ∃ bytes, memory.read name process address length = .ok bytes := by
  rw [isValid, Option.isSome_iff_exists]
  constructor
  · rintro ⟨r, hfind⟩
    exact ⟨_, read_of_find?_eq_some hplain hfind⟩
  · rintro ⟨bytes, hread⟩
    exact (exists_find?_of_read hread).2

/-- A region at a free place changes no read that succeeded before. -/
theorem read_add_of_free (hfree : r.place ∉ memory.map Region.place)
    (h : memory.read name process address length = .ok bytes) :
    (memory.add r.process r.offset r.bytes).read name process address length = .ok bytes := by
  obtain ⟨hplain, s, hfind⟩ := exists_find?_of_read h
  -- the region goes behind all others, and so behind the one that served the read
  have hafter : (memory.add r.process r.offset r.bytes).find? process address length = some s := by
    rcases memory.add_cases r with ⟨-, heq⟩ | ⟨before, t, after, rfl, ht, -, -⟩
    · rw [find?] at hfind ⊢
      rw [heq, List.find?_append, hfind, Option.some_or]
    · exact absurd (by simp [ht]) hfree
  rw [read_of_find?_eq_some hplain hafter, ← h, read_of_find?_eq_some hplain hfind]

/-- No placement changes a read of another process. -/
theorem read_add_of_other (h : r.process.isSame process = false) :
    (memory.add r.process r.offset r.bytes).read name process address length =
      memory.read name process address length := by
  -- regions at the place of the region are of its process, and so of no use to the read
  have hold {s : Region} (hs : s.place = r.place) : s.process.isSame process = false := by
    rw [ProcessId.isSame_congr (congrArg Prod.fst hs) process, h]
  have hprocess : (memory.add r.process r.offset r.bytes).hasProcess process =
      memory.hasProcess process := by
    rw [hasProcess, hasProcess, ← List.isSome_find?, ← List.isSome_find?]
    exact congrArg Option.isSome (find?_add_of_not h fun s _ hs => hold hs)
  have hfind : (memory.add r.process r.offset r.bytes).find? process address length =
      memory.find? process address length := by
    refine find?_add_of_not ?_ ?_
    · rw [Region.holds, h, Bool.false_and, Bool.false_and]
    · intro s _ hs
      rw [Region.holds, hold hs, Bool.false_and, Bool.false_and]
  rw [read, read, hprocess, hfind]

end BufferMemory

namespace Placements

/-- What keeps a read that no region serves from being reported: the process cannot be shown, or
buffers were placed for it and the number of bytes cannot be written. -/
def Unreported (placements : Placements) (process : ProcessId) (length : Int) : Prop :=
  process.isUnwritable = true ∨
    (∃ r ∈ placements, r.process.isSame process = true) ∧ Text.isUnwritable length = true

variable {placements : Placements} {memory : BufferMemory}

/-- Something is known of a process if something was placed for it. -/
theorem Records.hasProcess_iff (h : placements.Records memory) :
    memory.hasProcess process = true ↔ ∃ r ∈ placements, r.process.isSame process = true := by
  have htransfer {rs ts : List Region} (hplaces : ∀ place, place ∈ rs.map Region.place →
      place ∈ ts.map Region.place) (hr : ∃ r ∈ rs, r.process.isSame process = true) :
      ∃ t ∈ ts, t.process.isSame process = true := by
    obtain ⟨r, hr, hsame⟩ := hr
    obtain ⟨t, ht, hplace⟩ := List.mem_map.mp (hplaces r.place (List.mem_map_of_mem hr))
    exact ⟨t, ht, by rw [ProcessId.isSame_congr (congrArg Prod.fst hplace), hsame]⟩
  rw [BufferMemory.hasProcess, List.any_eq_true]
  exact ⟨htransfer fun place => (h.mem_place place).mp,
    htransfer fun place => (h.mem_place place).mpr⟩

/-- What comes of a read that no region serves. -/
theorem Records.read_of_find?_eq_none (h : placements.Records memory) (name : String)
    (hplain : process.compound = none) (hfind : memory.find? process address length = none) :
    (placements.Unreported process length →
      memory.read name process address length = .error (.refused .unwritable)) ∧
    (¬placements.Unreported process length → ∃ cause, memory.read name process address length =
      .error (.failed ⟨name, process, address, cause⟩)) := by
  -- The length is noted only where something is known of the process.
  rw [Unreported, ← h.hasProcess_iff, BufferMemory.read, hplain]
  dsimp only
  cases hprocess : memory.hasProcess process with
  | true =>
    rw [if_pos rfl, hfind]
    dsimp only
    constructor
    · intro hun
      rw [ReadReport.raised, ReadReport.isUnwritable, if_pos]
      simpa [ReadCause.isUnwritable, Json.isUnwritable] using hun
    · intro hshown
      refine ⟨_, congrArg Except.error (ReadReport.raised_of_writable ?_)⟩
      simpa [ReadReport.isUnwritable, ReadCause.isUnwritable, Json.isUnwritable] using hshown
  | false =>
    rw [if_neg Bool.false_ne_true]
    constructor
    · intro hun
      rw [ReadReport.raised_of_unwritable (by simpa using hun)]
    · intro hshown
      refine ⟨_, congrArg Except.error (ReadReport.raised_of_writable ?_)⟩
      simpa [ReadReport.isUnwritable, ReadCause.isUnwritable] using hshown

/-- A read gives the bytes of the region that serves it, and fails if no region has them. -/
theorem Records.serves_or_fails (h : placements.Records memory) (name : String)
    (hplain : process.compound = none) (h₀ : 0 ≤ length) :
    (∃ r, placements.Serves r process address length ∧
      memory.read name process address length =
        .ok (r.bytes.window (address - r.offset).toNat length.toNat)) ∨
    (∀ r, placements.latest? r.place = some r → ¬r.Covers process address length) ∧
      (placements.Unreported process length →
        memory.read name process address length = .error (.refused .unwritable)) ∧
      (¬placements.Unreported process length → ∃ cause,
        memory.read name process address length =
          .error (.failed ⟨name, process, address, cause⟩)) := by
  cases hfind : memory.find? process address length with
  | some r =>
    exact .inl ⟨r, h.serves hfind, BufferMemory.read_eq_window name hplain h₀ hfind⟩
  | none =>
    exact .inr ⟨fun r => h.not_covers hfind, h.read_of_find?_eq_none name hplain hfind⟩

end Placements

/-- Reads after any history of placements. Of the regions that have all the bytes, each with what
was last placed at its place, the one whose place was taken first gives them; where there is no such
region, the read is reported, unless a number in the report or in what is noted with it cannot be
written. The reads that give bytes are those that are said to be valid. A placement of another
process changes no read, and one at a free place changes no read that succeeds. -/
theorem read_placements (placements : Placements) (name : String) (process : ProcessId)
    (hplain : process.compound = none) :
    let memory := placements.memory
    let reader := memory.reader name
    (∀ address length : Int, 0 ≤ length →
      (∃ r, placements.Serves r process address length ∧
        reader.read process address length =
          .ok (r.bytes.window (address - r.offset).toNat length.toNat)) ∨
      (∀ r, placements.latest? r.place = some r → ¬r.Covers process address length) ∧
        (placements.Unreported process length →
          reader.read process address length = .error (.refused .unwritable)) ∧
        (¬placements.Unreported process length → ∃ cause,
          reader.read process address length =
            .error (.failed ⟨reader.name, process, address, cause⟩))) ∧
    (∀ address length : Int, memory.isValid process address length = true ↔
      ∃ bytes, reader.read process address length = .ok bytes) ∧
    ∀ r : Region,
      let reader' := (memory.add r.process r.offset r.bytes).reader name
      (r.process.isSame process = false → ∀ address length : Int,
        reader'.read process address length = reader.read process address length) ∧
      (r.place ∉ placements.map Region.place → ∀ (address length : Int) (bytes : Bytes),
        reader.read process address length = .ok bytes →
          reader'.read process address length = .ok bytes) := by
  intro memory reader
  have hrecords : placements.Records memory := placements.records_memory
  refine ⟨?_, ?_, ?_⟩
  · intro address length h₀
    exact hrecords.serves_or_fails name hplain h₀
  · intro address length
    exact BufferMemory.isValid_iff hplain
  · intro r reader'
    refine ⟨fun hother address length => BufferMemory.read_add_of_other hother, ?_⟩
    intro hfree address length bytes
    exact BufferMemory.read_add_of_free (mt (hrecords.mem_place r.place).mp hfree)

/-- Buffers of two processes that overlap; the first place is taken again at the end. -/
def overlappingPlacements : Placements :=
  [⟨(1 : Int), 0x10, [1, 2, 3, 4]⟩, ⟨(1 : Int), 0x12, [9, 9, 9, 9]⟩, ⟨(2 : Int), 0x12, [8, 8]⟩,
    ⟨(1 : Int), 0x10, [5, 6, 7, 8]⟩]

/-- Two bytes that both places of process 1 have come from the place that was taken first, with what
was placed there at the end, also when they are covered once more. A read across the end of a buffer
is reported. -/
theorem read_placements_sample :
    let reader := overlappingPlacements.memory.reader
    (∃ r, overlappingPlacements.Serves r (1 : Int) 0x12 2 ∧ reader.read (1 : Int) 0x12 2 =
        .ok (r.bytes.window (0x12 - r.offset).toNat 2)) ∧
      ((overlappingPlacements.memory.add (1 : Int) 0x11 [0, 0, 0]).reader).read (1 : Int) 0x12 2 =
        .ok [7, 8] ∧
      (∃ cause, reader.read (1 : Int) 0x15 2 =
        .error (.failed ⟨"buffer", (1 : Int), 0x15, cause⟩)) := by
  intro reader
  obtain ⟨hreads, -, hplacement⟩ :=
    read_placements overlappingPlacements "buffer" (1 : Int) rfl
  refine ⟨?_, ?_, ?_⟩
  · refine (hreads 0x12 2 (by decide)).resolve_right ?_
    rintro ⟨hnone, -⟩
    exact hnone ⟨(1 : Int), 0x10, [5, 6, 7, 8]⟩ (by decide) ⟨rfl, by decide, by decide⟩
  · exact (hplacement ⟨(1 : Int), 0x11, [0, 0, 0]⟩).2 (by decide) 0x12 2 [7, 8] rfl
  · have hfails := (hreads 0x15 2 (by decide)).resolve_left ?_
    · exact hfails.2.2 (by rintro (h | ⟨-, h⟩) <;> revert h <;> decide)
    · rintro ⟨r, -, hread⟩
      exact nomatch (show reader.read (1 : Int) 0x15 2 = .error _ from rfl).symm.trans hread

/-- So many bytes are outside of all buffers, but that is not reported. -/
theorem read_leastUnwritable :
    let reader := overlappingPlacements.memory.reader
    0 ≤ Text.leastUnwritable ∧
      ¬∃ cause, reader.read (1 : Int) 0x10 Text.leastUnwritable =
        .error (.failed ⟨"buffer", (1 : Int), 0x10, cause⟩) := by
  intro reader
  have hten := Text.ten_le_leastUnwritable
  have hnone : overlappingPlacements.memory.find? (1 : Int) 0x10 Text.leastUnwritable = none := by
    have hsize : ∀ r ∈ overlappingPlacements.memory, r.offset + r.bytes.length < 0x10 + 10 := by
      decide
    refine List.find?_eq_none.mpr fun r hr hholds => ?_
    have hstop := (Region.holds_iff.mp hholds).stop
    have hlt := hsize r hr
    omega
  have hread := (overlappingPlacements.records_memory.read_of_find?_eq_none "buffer" rfl hnone).1
    (.inr ⟨⟨_, .head _, by decide⟩, Text.isUnwritable_leastUnwritable⟩)
  refine ⟨by omega, ?_⟩
  rintro ⟨cause, hfailed⟩
  cases hread.symm.trans hfailed

end PointerChain
