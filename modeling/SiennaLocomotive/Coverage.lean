import SiennaLocomotive.Modules

/-!
# Coverage: what `on_bb_instrument` inserts, and what the arena ends up holding

In coverage-guided mode the client registers `on_bb_instrument` with drmgr.  DynamoRIO calls it
for every instruction of every basic block it is about to place in its code cache; for the
block's first instruction the client looks up the block's module with `get_base_pc` and, if it
finds one, inserts a single `inc byte [&arena.map[offset]]` in front of it.  Every execution of
the block then bumps one 8-bit counter of the arena.

`FUZZ_ARENA_SIZE` is defined outside `src/`, so it is a parameter here, `fuzzArenaSize`, and the
arena is a map `Fin fuzzArenaSize → UInt8`.  The offset is computed in machine arithmetic —
a 64-bit pointer difference, a mask, a truncation to `uint16_t` — and `arenaOffset_toNat` shows
that for a power of two no larger than `2^16` this is `(a − b) mod FUZZ_ARENA_SIZE`, so the
store is always in bounds.

`instrumentBlock_eq` says what a block looks like after instrumentation: one increment, ahead of
its first instruction, or nothing; `getBasePc_of_first` says which module the increment is
relative to, the first tracked module that contains the block.  `CoverageState.run` replays a
sequence of module events and block executions, and `arena_run` counts what the arena holds
afterwards.

The model instruments a block each time it runs.  DynamoRIO instruments a block once and then
reuses it from the code cache; the two agree because `get_base_pc`'s answer for an address
never changes once a module containing it is tracked (`seen_modules` only grows), and code that
is unmapped is flushed from the cache.
-/

set_option autoImplicit false

namespace SiennaLocomotive

/-! ## The arena -/

/-- `sl2_arena`: the arena's id and its `FUZZ_ARENA_SIZE` 8-bit counters. -/
structure Arena (fuzzArenaSize : Nat) where
  /-- `id`, the arena id given on the command line. -/
  id : String
  /-- `map`. -/
  map : Fin fuzzArenaSize → UInt8

/-- `sl2_arena arena = {0}`. -/
def Arena.zero (fuzzArenaSize : Nat) : Arena fuzzArenaSize := ⟨"", fun _ => 0⟩

/-- One execution of `inc byte [&arena.map[offset]]`: the counter wraps at 256.  An offset past
the map would be an out-of-bounds store; it changes no counter here, and `arenaOffset_lt` shows
the client never computes one. -/
def Arena.inc {fuzzArenaSize : Nat} (a : Arena fuzzArenaSize) (offset : Nat) :
    Arena fuzzArenaSize :=
  { a with map := fun j => if j.val = offset then a.map j + 1 else a.map j }

theorem Arena.inc_map_toNat {fuzzArenaSize : Nat} (a : Arena fuzzArenaSize) (offset : Nat)
    (j : Fin fuzzArenaSize) :
    ((a.inc offset).map j).toNat = ((a.map j).toNat + if j.val = offset then 1 else 0) % 256 := by
  have hlt : (a.map j).toNat % 256 = (a.map j).toNat := Nat.mod_eq_of_lt (a.map j).toNat_lt
  by_cases h : j.val = offset
  · simp only [Arena.inc, if_pos h, UInt8.toNat_add]; rfl
  · simp only [Arena.inc, if_neg h, Nat.add_zero, hlt]

/-! ## The offset of a block -/

/-- `offset = (start_pc - base_pc) & (FUZZ_ARENA_SIZE - 1)`, stored in a `uint16_t`. -/
def arenaOffset (fuzzArenaSize : Nat) (startPc basePc : AppPc) : BitVec 16 :=
  ((startPc - basePc) &&& BitVec.ofNat 64 (fuzzArenaSize - 1)).setWidth 16

/-- For an arena of `2^k ≤ 2^16` cells, the machine offset is the distance from the module base
modulo the arena size. -/
theorem arenaOffset_toNat {k : Nat} (hk : k ≤ 16) {startPc basePc : AppPc}
    (hle : basePc ≤ startPc) :
    (arenaOffset (2 ^ k) startPc basePc).toNat = (startPc.toNat - basePc.toNat) % 2 ^ k := by
  have hmask : (2 ^ k - 1) % 2 ^ 64 = 2 ^ k - 1 :=
    Nat.mod_eq_of_lt (lt_of_lt_of_le (Nat.sub_lt (Nat.two_pow_pos k) Nat.one_pos)
      (Nat.pow_le_pow_right (by decide) (by omega)))
  have hsmall : (startPc.toNat - basePc.toNat) % 2 ^ k < 2 ^ 16 :=
    lt_of_lt_of_le (Nat.mod_lt _ (Nat.two_pow_pos k)) (Nat.pow_le_pow_right (by decide) hk)
  simp only [arenaOffset, BitVec.toNat_setWidth, BitVec.toNat_and, BitVec.toNat_ofNat, hmask,
    BitVec.toNat_sub_of_le hle, Nat.and_pow_two_sub_one_eq_mod, Nat.mod_eq_of_lt hsmall]

theorem arenaOffset_lt {k : Nat} (hk : k ≤ 16) {startPc basePc : AppPc}
    (hle : basePc ≤ startPc) : (arenaOffset (2 ^ k) startPc basePc).toNat < 2 ^ k := by
  rw [arenaOffset_toNat hk hle]
  exact Nat.mod_lt _ (Nat.two_pow_pos k)

/-- The base `get_base_pc` returns lies at or below the address it was asked about. -/
theorem getBasePc_le {seenModules : List ModuleData} {addr basePc : AppPc}
    (h : getBasePc seenModules addr = some basePc) : basePc ≤ addr := by
  obtain ⟨m, -, ha, rfl⟩ := getBasePc_eq_some h
  exact (drModuleContainsAddr_iff.1 ha).1

/-! ## Instrumenting a block -/

/-- What `on_bb_instrument` can insert. -/
inductive MetaInstr
  /-- `drreg_reserve_aflags`: save the flags the increment clobbers. -/
  | reserveAflags
  /-- `INSTR_CREATE_inc(..., OPND_CREATE_ABSMEM(&(arena.map[offset]), OPSZ_1))`. -/
  | incArena (offset : BitVec 16)
  /-- `drreg_unreserve_aflags`. -/
  | unreserveAflags
  deriving DecidableEq, Repr

/-- `on_bb_instrument`, called for one instruction of the block starting at `startPc`: what it
inserts in front of that instruction.  Only the block's first instruction gets anything, and only
when the block lies in a tracked module. -/
def onBbInstrument (fuzzArenaSize : Nat) (seenModules : List ModuleData) (startPc : AppPc)
    (isFirstInstr : Bool) : List MetaInstr :=
  if !isFirstInstr then []
  else
    match getBasePc seenModules startPc with
    | none => []
    | some basePc =>
      [.reserveAflags, .incArena (arenaOffset fuzzArenaSize startPc basePc), .unreserveAflags]

/-- An instruction of an instrumented block: one the client inserted, or one of the target's. -/
inductive BlockInstr (α : Type)
  /-- A meta-instruction of the client. -/
  | meta (i : MetaInstr)
  /-- An instruction of the target. -/
  | app (i : α)
  deriving DecidableEq, Repr

/-- drmgr's insertion pass over the instructions of a block: `on_bb_instrument` is asked about
each one, and its insertions go in front of it. -/
def instrumentFrom {α : Type} (fuzzArenaSize : Nat) (seenModules : List ModuleData)
    (startPc : AppPc) : Bool → List α → List (BlockInstr α)
  | _, [] => []
  | isFirst, x :: xs =>
    (onBbInstrument fuzzArenaSize seenModules startPc isFirst).map .meta ++
      .app x :: instrumentFrom fuzzArenaSize seenModules startPc false xs

/-- The block `first :: rest` starting at `startPc`, instrumented. -/
def instrumentBlock {α : Type} (fuzzArenaSize : Nat) (seenModules : List ModuleData)
    (startPc : AppPc) (first : α) (rest : List α) : List (BlockInstr α) :=
  instrumentFrom fuzzArenaSize seenModules startPc true (first :: rest)

theorem instrumentFrom_false {α : Type} (fuzzArenaSize : Nat) (seenModules : List ModuleData)
    (startPc : AppPc) (xs : List α) :
    instrumentFrom fuzzArenaSize seenModules startPc false xs = xs.map .app := by
  induction xs with
  | nil => rfl
  | cons x xs ih => simp [instrumentFrom, onBbInstrument, ih]

/-- **One increment per block, in front of its first instruction**, when the block lies in a
tracked module; nothing otherwise. -/
theorem instrumentBlock_eq {α : Type} (fuzzArenaSize : Nat) (seenModules : List ModuleData)
    (startPc : AppPc) (first : α) (rest : List α) :
    instrumentBlock fuzzArenaSize seenModules startPc first rest =
      (match getBasePc seenModules startPc with
        | none => []
        | some basePc =>
          [.meta .reserveAflags, .meta (.incArena (arenaOffset fuzzArenaSize startPc basePc)),
            .meta .unreserveAflags]) ++ (first :: rest).map .app := by
  simp only [instrumentBlock, instrumentFrom, onBbInstrument, instrumentFrom_false,
    Bool.not_true, if_false]
  cases getBasePc seenModules startPc <;> rfl

/-! ## Running instrumented code -/

/-- What a meta-instruction does to the arena. -/
def MetaInstr.exec {fuzzArenaSize : Nat} (a : Arena fuzzArenaSize) : MetaInstr → Arena fuzzArenaSize
  | .incArena offset => a.inc offset.toNat
  | _ => a

/-- An instrumented block runs from start to end: its increments bump the arena, and the
target's own instructions leave it alone. -/
def execBlock {α : Type} {fuzzArenaSize : Nat} (a : Arena fuzzArenaSize) :
    List (BlockInstr α) → Arena fuzzArenaSize
  | [] => a
  | .meta i :: is => execBlock (i.exec a) is
  | .app _ :: is => execBlock a is

theorem execBlock_map_app {α : Type} {fuzzArenaSize : Nat} (a : Arena fuzzArenaSize)
    (xs : List α) : execBlock a (xs.map .app) = a := by
  induction xs with
  | nil => rfl
  | cons x xs ih => exact ih

/-- Running an instrumented block is one increment of the block's cell, or nothing. -/
theorem execBlock_instrumentBlock {α : Type} {fuzzArenaSize : Nat} (a : Arena fuzzArenaSize)
    (seenModules : List ModuleData) (startPc : AppPc) (first : α) (rest : List α) :
    execBlock a (instrumentBlock fuzzArenaSize seenModules startPc first rest) =
      match getBasePc seenModules startPc with
      | none => a
      | some basePc => a.inc (arenaOffset fuzzArenaSize startPc basePc).toNat := by
  rw [instrumentBlock_eq]
  cases getBasePc seenModules startPc <;>
    simp only [List.nil_append, List.cons_append, execBlock, MetaInstr.exec, execBlock_map_app]

/-! ## A run -/

/-- What matters to coverage during a run: a module event, or the execution of a basic block,
which has at least one instruction. -/
inductive CoverageEvent (α : Type)
  /-- A module is loaded or unloaded. -/
  | module (e : ModuleEvent)
  /-- The block `first :: rest`, starting at `startPc`, runs. -/
  | block (startPc : AppPc) (first : α) (rest : List α)
  deriving DecidableEq, Repr

/-- The module map and the arena. -/
structure CoverageState (fuzzArenaSize : Nat) where
  /-- DynamoRIO's loaded modules and the client's `seen_modules`. -/
  modules : ModuleMap
  /-- `arena`. -/
  arena : Arena fuzzArenaSize

namespace CoverageState

variable {α : Type} {fuzzArenaSize : Nat}

/-- One event. -/
def step (s : CoverageState fuzzArenaSize) : CoverageEvent α → CoverageState fuzzArenaSize
  | .module e => { s with modules := s.modules.step e }
  | .block startPc first rest =>
    { s with arena :=
        execBlock s.arena (instrumentBlock fuzzArenaSize s.modules.seenModules startPc first rest) }

/-- A run. -/
def run (s : CoverageState fuzzArenaSize) (evs : List (CoverageEvent α)) :
    CoverageState fuzzArenaSize :=
  evs.foldl step s

/-- The cells the blocks of a run are charged to: for each executed block at `a` that lies in a
tracked module, `(a − b) mod FUZZ_ARENA_SIZE`, where `b` is the start of the first module of
`seen_modules` containing `a`; in execution order. -/
def blockOffsets : CoverageState fuzzArenaSize → List (CoverageEvent α) → List Nat
  | _, [] => []
  | s, .module e :: evs => blockOffsets (s.step (.module e : CoverageEvent α)) evs
  | s, .block a first rest :: evs =>
    ((s.modules.seenModules.find? fun m => drModuleContainsAddr m a).map
        fun m => (a.toNat - m.start.toNat) % fuzzArenaSize).toList ++
      blockOffsets (s.step (.block a first rest)) evs

/-- One block bumps its own cell, counted once, and no other. -/
theorem step_block_map_toNat {k : Nat} (hk : k ≤ 16) (s : CoverageState (2 ^ k)) (a : AppPc)
    (first : α) (rest : List α) (j : Fin (2 ^ k)) :
    (((s.step (.block a first rest)).arena.map j).toNat) =
      ((s.arena.map j).toNat +
        (((s.modules.seenModules.find? fun m => drModuleContainsAddr m a).map
          fun m => (a.toNat - m.start.toNat) % 2 ^ k).toList.count j.val)) % 256 := by
  simp only [step, execBlock_instrumentBlock, getBasePc]
  cases h : s.modules.seenModules.find? (fun m => drModuleContainsAddr m a) with
  | none => simp [Nat.mod_eq_of_lt (s.arena.map j).toNat_lt]
  | some m =>
    have hc : drModuleContainsAddr m a = true :=
      List.find?_some (p := fun m => drModuleContainsAddr m a) h
    have hle : m.start ≤ a := (drModuleContainsAddr_iff.1 hc).1
    rw [Option.map_some', Arena.inc_map_toNat, arenaOffset_toNat hk hle]
    simp [List.count_singleton', eq_comm]

/-- **What the arena holds after a run.**  For an arena of `2^k ≤ 2^16` cells, each cell is its
value at the start plus, modulo 256, the number of executed blocks charged to it. -/
theorem arena_run {k : Nat} (hk : k ≤ 16) (s : CoverageState (2 ^ k))
    (evs : List (CoverageEvent α)) (j : Fin (2 ^ k)) :
    ((s.run evs).arena.map j).toNat =
      ((s.arena.map j).toNat + (blockOffsets s evs).count j.val) % 256 := by
  induction evs generalizing s with
  | nil => simp [run, blockOffsets, Nat.mod_eq_of_lt (s.arena.map j).toNat_lt]
  | cons e evs ih =>
    cases e with
    | module e => exact ih _
    | block a first rest =>
      rw [run, List.foldl_cons, ← run, ih, step_block_map_toNat hk, blockOffsets,
        List.count_append, Nat.mod_add_mod, Nat.add_assoc]

end CoverageState

/-- **Coverage, end to end.**  For an arena of `2^k ≤ 2^16` cells: a block no tracked module
contains is left as it is; a block whose first containing module in `seen_modules` is `m` gets
exactly one increment, ahead of its first instruction, of the cell at its distance from `m`'s
start modulo the arena size, always inside the arena; and after any run of module events and block
executions each cell holds its starting value plus, modulo 256, the number of executed blocks
charged to it. -/
theorem coverage_counts_blocks {α : Type} {k : Nat} (hk : k ≤ 16) :
    (∀ (seenModules : List ModuleData) (startPc : AppPc) (first : α) (rest : List α),
      (∀ m ∈ seenModules, drModuleContainsAddr m startPc = false) →
        instrumentBlock (2 ^ k) seenModules startPc first rest = (first :: rest).map .app) ∧
    (∀ (pre post : List ModuleData) (m : ModuleData) (startPc : AppPc) (first : α)
      (rest : List α),
      (∀ m' ∈ pre, drModuleContainsAddr m' startPc = false) →
        drModuleContainsAddr m startPc = true →
          instrumentBlock (2 ^ k) (pre ++ m :: post) startPc first rest =
              [.meta .reserveAflags, .meta (.incArena (arenaOffset (2 ^ k) startPc m.start)),
                .meta .unreserveAflags] ++ (first :: rest).map .app ∧
            (arenaOffset (2 ^ k) startPc m.start).toNat =
              (startPc.toNat - m.start.toNat) % 2 ^ k ∧
            (arenaOffset (2 ^ k) startPc m.start).toNat < 2 ^ k) ∧
    (∀ (s : CoverageState (2 ^ k)) (evs : List (CoverageEvent α)) (j : Fin (2 ^ k)),
      ((s.run evs).arena.map j).toNat =
        ((s.arena.map j).toNat + (s.blockOffsets evs).count j.val) % 256) := by
  refine ⟨fun seenModules startPc first rest hnone => ?_,
    fun pre post m startPc first rest hpre hm => ?_, CoverageState.arena_run hk⟩
  · rw [instrumentBlock_eq, getBasePc_eq_none.2 hnone, List.nil_append]
  · have hle : m.start ≤ startPc := (drModuleContainsAddr_iff.1 hm).1
    rw [instrumentBlock_eq, getBasePc_of_first rfl hpre hm]
    exact ⟨rfl, arenaOffset_toNat hk hle, arenaOffset_lt hk hle⟩

/-- Coverage with a 64 KiB arena, the largest the client's `uint16_t` offset can address. -/
theorem coverage_counts_blocks_64k :
    16 ≤ 16 ∧
    (∀ (seenModules : List ModuleData) (startPc : AppPc) (first : Nat) (rest : List Nat),
      (∀ m ∈ seenModules, drModuleContainsAddr m startPc = false) →
        instrumentBlock (2 ^ 16) seenModules startPc first rest = (first :: rest).map .app) ∧
    (∀ (pre post : List ModuleData) (m : ModuleData) (startPc : AppPc) (first : Nat)
      (rest : List Nat),
      (∀ m' ∈ pre, drModuleContainsAddr m' startPc = false) →
        drModuleContainsAddr m startPc = true →
          instrumentBlock (2 ^ 16) (pre ++ m :: post) startPc first rest =
              [.meta .reserveAflags, .meta (.incArena (arenaOffset (2 ^ 16) startPc m.start)),
                .meta .unreserveAflags] ++ (first :: rest).map .app ∧
            (arenaOffset (2 ^ 16) startPc m.start).toNat =
              (startPc.toNat - m.start.toNat) % 2 ^ 16 ∧
            (arenaOffset (2 ^ 16) startPc m.start).toNat < 2 ^ 16) ∧
    (∀ (s : CoverageState (2 ^ 16)) (evs : List (CoverageEvent Nat)) (j : Fin (2 ^ 16)),
      ((s.run evs).arena.map j).toNat =
        ((s.arena.map j).toNat + (s.blockOffsets evs).count j.val) % 256) :=
  ⟨le_refl 16, coverage_counts_blocks (le_refl 16)⟩

end SiennaLocomotive
