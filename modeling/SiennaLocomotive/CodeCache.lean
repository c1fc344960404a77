import SiennaLocomotive.Coverage

/-!
# DynamoRIO's code cache, and why instrumenting a block at every run is the same

`CoverageState.run` instruments a basic block each time the block runs.  DynamoRIO does not: it
calls `on_bb_instrument` when it builds a block, keeps the instrumented copy in its code cache
under the block's tag (its start address), and runs that copy every later time without asking
`get_base_pc` again.  When a module is unmapped it flushes the copies that lie in it, and it may
drop any copy at any other time (cache management, code that was written to).

A cached increment was computed against `seen_modules` as it was when the block was built.  It
stays the increment `on_bb_instrument` would insert now, for two reasons:

* `seen_modules` only grows, at its end (`trackModule`), so `get_base_pc`'s answer for an address
  changes only when a newly tracked module contains it (`getBasePc_trackModule`);
* a cached block lies in a module that is still loaded, since the blocks of a module are flushed
  when it is unmapped; so a module loaded later, which overlaps no loaded module, does not
  contain it.

The second reason needs two facts about the target, which are the hypotheses of the
refinement: code runs only inside loaded modules, and loaded modules never overlap.

## What is here

* `CacheState` and `CacheState.step`: the module map, the arena and the code cache, under module
  events, block executions and evictions.
* `CacheInv`: every cached block is what `on_bb_instrument` would build for its tag now, and lies
  in a loaded module.  Each kind of event keeps it (`CacheInv.load`, `CacheInv.unload`,
  `CacheInv.runBlock`, `CacheInv.evict`).
* `CacheState.run_coverage` and, from an empty cache, `codeCache_refines`: **the cached run and
  the plain run agree**, in the module map and in every cell of the arena, whatever DynamoRIO
  evicts and when.
-/

set_option autoImplicit false

namespace SiennaLocomotive

/-! ## The events of a cached run -/

/-- What the code cache sees: an event of the target, or DynamoRIO dropping a cached block. -/
inductive CacheEvent (α : Type)
  /-- A module event or a block execution, as `CoverageState.run` replays them. -/
  | target (e : CoverageEvent α)
  /-- DynamoRIO deletes its copy of the block at `tag`. -/
  | evict (tag : AppPc)
  deriving DecidableEq, Repr

/-- The target's events of a cached run. -/
def CacheEvent.targetEvents {α : Type} : List (CacheEvent α) → List (CoverageEvent α)
  | [] => []
  | .target e :: evs => e :: targetEvents evs
  | .evict _ :: evs => targetEvents evs

/-- The module events of a run. -/
def CoverageEvent.moduleEvents {α : Type} : List (CoverageEvent α) → List ModuleEvent
  | [] => []
  | .module e :: evs => e :: moduleEvents evs
  | .block .. :: evs => moduleEvents evs

/-- Along the run of `evs` from `s`, every block starts inside a module loaded at that moment. -/
def ModuleMap.BlocksInLoaded {α : Type} : ModuleMap → List (CoverageEvent α) → Prop
  | _, [] => True
  | s, .module e :: evs => BlocksInLoaded (s.step e) evs
  | s, .block a _ _ :: evs =>
    (∃ m ∈ s.loaded, drModuleContainsAddr m a = true) ∧ BlocksInLoaded s evs

theorem ModuleMap.LoadsDisjoint.pairwise {s : ModuleMap} {evs : List ModuleEvent}
    (h : s.LoadsDisjoint evs) : s.loaded.Pairwise Disjoint := by
  cases evs with
  | nil => exact h
  | cons e evs => exact h.1

/-! ## `get_base_pc` as `seen_modules` grows -/

/-- Tracking a module that does not contain `addr` leaves `get_base_pc(addr)` alone. -/
theorem getBasePc_trackModule {seenModules : List ModuleData} {mod : ModuleData} {addr : AppPc}
    (h : drModuleContainsAddr mod addr = false) :
    getBasePc (trackModule seenModules mod) addr = getBasePc seenModules addr := by
  unfold trackModule; split
  · simp [getBasePc, List.find?_append, h]
  · rfl

/-- A block is instrumented according to `get_base_pc`'s answer for its start, and nothing
else of `seen_modules`. -/
theorem instrumentBlock_congr {α : Type} {fuzzArenaSize : Nat}
    {seenModules seenModules' : List ModuleData} {startPc : AppPc}
    (h : getBasePc seenModules startPc = getBasePc seenModules' startPc)
    (first : α) (rest : List α) :
    instrumentBlock fuzzArenaSize seenModules startPc first rest =
      instrumentBlock fuzzArenaSize seenModules' startPc first rest := by
  rw [instrumentBlock_eq, instrumentBlock_eq, h]

/-- Two blocks with the same start do the same to the arena, whatever their instructions. -/
theorem execBlock_instrumentBlock_congr {α : Type} {fuzzArenaSize : Nat}
    (a : Arena fuzzArenaSize) (seenModules : List ModuleData) (startPc : AppPc)
    (first first' : α) (rest rest' : List α) :
    execBlock a (instrumentBlock fuzzArenaSize seenModules startPc first rest) =
      execBlock a (instrumentBlock fuzzArenaSize seenModules startPc first' rest') := by
  rw [execBlock_instrumentBlock, execBlock_instrumentBlock]

/-! ## The cache -/

/-- The module map, the arena, and DynamoRIO's code cache: the instrumented copy of each block
built so far, under its tag. -/
structure CacheState (α : Type) (fuzzArenaSize : Nat) where
  /-- DynamoRIO's loaded modules and the client's `seen_modules`. -/
  modules : ModuleMap
  /-- `arena`. -/
  arena : Arena fuzzArenaSize
  /-- The cached blocks, by tag. -/
  cache : List (AppPc × List (BlockInstr α))

namespace CacheState

variable {α : Type} {fuzzArenaSize : Nat}

/-- The part of the state `CoverageState.run` keeps. -/
def coverage (s : CacheState α fuzzArenaSize) : CoverageState fuzzArenaSize :=
  ⟨s.modules, s.arena⟩

/-- The block `first :: rest` at `a` runs: the cached copy if there is one; otherwise DynamoRIO
builds the block, which is where `on_bb_instrument` runs, caches it, and runs it. -/
def runBlock (s : CacheState α fuzzArenaSize) (a : AppPc) (first : α) (rest : List α) :
    CacheState α fuzzArenaSize :=
  match s.cache.find? (fun p => p.1 == a) with
  | some p => { s with arena := execBlock s.arena p.2 }
  | none =>
    let block := instrumentBlock fuzzArenaSize s.modules.seenModules a first rest
    { s with cache := (a, block) :: s.cache, arena := execBlock s.arena block }

/-- One event.  An unmapped module takes its cached blocks with it. -/
def step (s : CacheState α fuzzArenaSize) : CacheEvent α → CacheState α fuzzArenaSize
  | .target (.module (.load mod)) => { s with modules := s.modules.step (.load mod) }
  | .target (.module (.unload mod)) =>
    { s with modules := s.modules.step (.unload mod),
             cache := s.cache.filter fun p => !drModuleContainsAddr mod p.1 }
  | .target (.block a first rest) => s.runBlock a first rest
  | .evict tag => { s with cache := s.cache.filter fun p => p.1 != tag }

/-- A run. -/
def run (s : CacheState α fuzzArenaSize) (evs : List (CacheEvent α)) :
    CacheState α fuzzArenaSize :=
  evs.foldl step s

theorem runBlock_modules (s : CacheState α fuzzArenaSize) (a : AppPc) (first : α)
    (rest : List α) : (s.runBlock a first rest).modules = s.modules := by
  unfold runBlock; split <;> rfl

/-- A process whose code cache is empty. -/
def init (modules : ModuleMap) (arena : Arena fuzzArenaSize) : CacheState α fuzzArenaSize :=
  ⟨modules, arena, []⟩

end CacheState

/-! ## The invariant -/

/-- What makes a cached block as good as a fresh one: it is what `on_bb_instrument` would build
for its tag against the current `seen_modules`, and it lies in a loaded module. -/
structure CacheInv {α : Type} {fuzzArenaSize : Nat} (s : CacheState α fuzzArenaSize) : Prop where
  /-- The cached copy is the current instrumentation of some block at its tag. -/
  current : ∀ p ∈ s.cache,
    ∃ first rest, p.2 = instrumentBlock fuzzArenaSize s.modules.seenModules p.1 first rest
  /-- The tag lies in a loaded module. -/
  inLoaded : ∀ p ∈ s.cache, ∃ m ∈ s.modules.loaded, drModuleContainsAddr m p.1 = true

namespace CacheInv

variable {α : Type} {fuzzArenaSize : Nat} {s : CacheState α fuzzArenaSize}

theorem init (modules : ModuleMap) (arena : Arena fuzzArenaSize) :
    CacheInv (CacheState.init modules arena : CacheState α fuzzArenaSize) :=
  ⟨nofun, nofun⟩

/-- Dropping cached blocks keeps the invariant. -/
theorem of_subset (hs : CacheInv s) {cache : List (AppPc × List (BlockInstr α))}
    (hc : ∀ p ∈ cache, p ∈ s.cache) : CacheInv { s with cache := cache } :=
  ⟨fun p hp => hs.current p (hc p hp), fun p hp => hs.inLoaded p (hc p hp)⟩

/-- A load that overlaps no loaded module changes no cached block's instrumentation. -/
theorem load (hs : CacheInv s) {mod : ModuleData}
    (hd : (s.modules.loaded ++ [mod]).Pairwise Disjoint) :
    CacheInv (s.step (.target (.module (.load mod)))) where
  current p hp := by
    obtain ⟨first, rest, hb⟩ := hs.current p hp
    obtain ⟨m, hm, ha⟩ := hs.inLoaded p hp
    have hout : drModuleContainsAddr mod p.1 = false := Bool.eq_false_iff.2 fun hc =>
      (List.pairwise_append.1 hd).2.2 m hm mod (List.mem_singleton_self mod) p.1 ⟨ha, hc⟩
    exact ⟨first, rest, hb.trans (instrumentBlock_congr (getBasePc_trackModule hout).symm _ _)⟩
  inLoaded p hp :=
    let ⟨m, hm, ha⟩ := hs.inLoaded p hp
    ⟨m, List.mem_append_left _ hm, ha⟩

/-- An unload keeps the invariant: the blocks in the module go with it. -/
theorem unload (hs : CacheInv s) (mod : ModuleData) :
    CacheInv (s.step (.target (.module (.unload mod)))) where
  current p hp := hs.current p (List.mem_filter.1 hp).1
  inLoaded p hp := by
    obtain ⟨hp, hout⟩ := List.mem_filter.1 hp
    obtain ⟨m, hm, ha⟩ := hs.inLoaded p hp
    have hne : m ≠ mod := by
      rintro rfl
      simp [ha] at hout
    exact ⟨m, (List.mem_erase_of_ne hne).2 hm, ha⟩

/-- Running a block keeps the invariant, if it starts inside a loaded module. -/
theorem runBlock (hs : CacheInv s) {a : AppPc}
    (ha : ∃ m ∈ s.modules.loaded, drModuleContainsAddr m a = true) (first : α)
    (rest : List α) : CacheInv (s.runBlock a first rest) := by
  unfold CacheState.runBlock
  split
  · exact ⟨hs.current, hs.inLoaded⟩
  · refine ⟨fun p hp => ?_, fun p hp => ?_⟩ <;> rcases List.mem_cons.1 hp with rfl | hp
    · exact ⟨first, rest, rfl⟩
    · exact hs.current p hp
    · exact ha
    · exact hs.inLoaded p hp

theorem evict (hs : CacheInv s) (tag : AppPc) : CacheInv (s.step (.evict tag)) :=
  hs.of_subset fun _ hp => (List.mem_filter.1 hp).1

end CacheInv

/-! ## The refinement -/

namespace CacheState

variable {α : Type} {fuzzArenaSize : Nat}

/-- Under the invariant, an event of the target does to the module map and the arena what
`CoverageState.step` does: a cached block bumps the cell a fresh one would. -/
theorem coverage_step {s : CacheState α fuzzArenaSize} (hs : CacheInv s) (e : CoverageEvent α) :
    (s.step (.target e)).coverage = s.coverage.step e := by
  cases e with
  | module e => cases e <;> rfl
  | block a first rest =>
    show (s.runBlock a first rest).coverage = _
    unfold runBlock
    split
    · next p hp =>
      obtain ⟨first', rest', hb⟩ := hs.current p (List.mem_of_find?_eq_some hp)
      have ha : p.1 = a := by simpa using List.find?_some hp
      simp only [coverage, CoverageState.step, hb, ha,
        execBlock_instrumentBlock_congr s.arena _ a first' first rest' rest]
    · rfl

/-- **The cached run refines the plain one.**  From a state with the invariant, along any run
whose loaded modules never overlap and whose blocks start inside loaded modules, the code cache
leaves the module map and the arena exactly as instrumenting every block at every run would,
whatever blocks DynamoRIO evicts and when. -/
theorem run_coverage (s : CacheState α fuzzArenaSize) (hs : CacheInv s)
    (evs : List (CacheEvent α))
    (hd : s.modules.LoadsDisjoint (CoverageEvent.moduleEvents (CacheEvent.targetEvents evs)))
    (hb : s.modules.BlocksInLoaded (CacheEvent.targetEvents evs)) :
    (s.run evs).coverage = s.coverage.run (CacheEvent.targetEvents evs) := by
  induction evs generalizing s with
  | nil => rfl
  | cons e evs ih =>
    rw [run, List.foldl_cons, ← run]
    cases e with
    | evict tag => exact ih _ (hs.evict tag) hd hb
    | target e =>
      rw [CacheEvent.targetEvents, CoverageState.run, List.foldl_cons, ← CoverageState.run,
        ← coverage_step hs e]
      cases e with
      | module e =>
        cases e with
        | load mod => exact ih _ (hs.load hd.2.pairwise) hd.2 hb
        | unload mod => exact ih _ (hs.unload mod) hd.2 hb
      | block a first rest =>
        have hm := runBlock_modules s a first rest
        exact ih _ (hs.runBlock hb.1 first rest) (by rw [step, hm]; exact hd)
          (by rw [step, hm]; exact hb.2)

end CacheState

/-- **The code cache changes no coverage.**  Starting from an empty cache, along any run whose
loaded modules never overlap and whose blocks start inside loaded modules, DynamoRIO's
instrument-once code cache ends with the same module map and the same arena as instrumenting
every block each time it runs, whatever blocks it evicts and when. -/
theorem codeCache_refines {α : Type} {fuzzArenaSize : Nat} (arena : Arena fuzzArenaSize)
    (evs : List (CacheEvent α))
    (hd : ModuleMap.init.LoadsDisjoint (CoverageEvent.moduleEvents (CacheEvent.targetEvents evs)))
    (hb : ModuleMap.init.BlocksInLoaded (CacheEvent.targetEvents evs)) :
    ((CacheState.init .init arena).run evs).coverage =
      (⟨.init, arena⟩ : CoverageState fuzzArenaSize).run (CacheEvent.targetEvents evs) :=
  CacheState.run_coverage _ (CacheInv.init _ _) evs hd hb

/-- A block of `pluginDll` runs three times around an eviction; then `pluginDll` is unmapped,
`otherDll` is mapped over part of its range, and a block of `otherDll` runs, charged to the stale
base `seen_modules` still holds for it. -/
def reloadRun : List (CacheEvent Nat) :=
  [.target (.module (.load pluginDll)), .target (.block 0x18000#64 0 []),
    .target (.block 0x18000#64 1 []), .evict 0x18000#64, .target (.block 0x18000#64 2 []),
    .target (.module (.unload pluginDll)), .target (.module (.load otherDll)),
    .target (.block 0x10000#64 0 [])]

theorem codeCache_refines_reloadRun :
    ModuleMap.init.LoadsDisjoint
        (CoverageEvent.moduleEvents (CacheEvent.targetEvents reloadRun)) ∧
      ModuleMap.init.BlocksInLoaded (CacheEvent.targetEvents reloadRun) ∧
      ((CacheState.init .init (Arena.zero 4)).run reloadRun).coverage =
        (⟨.init, Arena.zero 4⟩ : CoverageState 4).run (CacheEvent.targetEvents reloadRun) := by
  have hd : ModuleMap.init.LoadsDisjoint
      (CoverageEvent.moduleEvents (CacheEvent.targetEvents reloadRun)) := by
    simp [reloadRun, CacheEvent.targetEvents, CoverageEvent.moduleEvents, ModuleMap.LoadsDisjoint,
      ModuleMap.step, ModuleMap.init]
  have hb : ModuleMap.init.BlocksInLoaded (CacheEvent.targetEvents reloadRun) := by
    simp [reloadRun, CacheEvent.targetEvents, ModuleMap.BlocksInLoaded, ModuleMap.step,
      ModuleMap.init, drModuleContainsAddr, pluginDll, otherDll]
  exact ⟨hd, hb, codeCache_refines _ _ hd hb⟩

end SiennaLocomotive
