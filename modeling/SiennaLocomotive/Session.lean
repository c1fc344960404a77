import SiennaLocomotive.HookSelection
import SiennaLocomotive.Mutate

/-!
# A run of the client, from `dr_client_main` to the end of `on_dr_exit`

This file puts the callbacks together.  `drClientMain` parses the options, loads the targets,
opens the server connection and, in coverage-guided mode, asks for the arena; after that the
instrumentation engine delivers a sequence of `Event`s — module loads and unloads, executed
blocks, returning intercepted calls, first-chance exceptions, the target's own exit — and
`Session.step` hands each to its callback.  Three callbacks can end the process:
`on_exception` and a failed `mutate` through `dr_exit_process(1)`, and the target's exit; each
time `on_dr_exit` runs to its end and the session is `exited`.  A second exception while
`exiting` is set makes `on_exception` call `dr_abort`.

The run is single-threaded: each callback runs to completion before the next event.
`Threads` takes the globals `on_exception`, `mutate` and `on_dr_exit` share apart into atomic
steps and interleaves them.

The invariant here is `RunningInv`: while the target runs, the latch is down, nothing has
crashed, and the globals are `Started` (the mode chosen at start-up, the start-up requests
followed by those of mutations, an inert arena in non-guided mode).  `Session.run_inv` carries it
over any run, and once the run has ended `on_dr_exit` ran on `Started` globals.  `Targeting`
pins the mutations down and proves `requests_of_run`: a run that reaches the end of
`on_dr_exit` sent exactly

  `open, assign_run_id, register_pid, [request_arena]`,
  then for each read handed to `mutate` `[advise_mutation], register_mutation`,
  then `[request_crash_paths], [register_arena, get_coverage], close`,

the bracketed requests present exactly in coverage-guided mode, or exactly when `crashed` is set.
-/

set_option autoImplicit false

namespace SiennaLocomotive

/-! ## The stores of `on_exception` -/

namespace Fuzzer

variable {fuzzArenaSize : Nat}

/-- `crashed = true`. -/
def setCrashed (s : Fuzzer fuzzArenaSize) : Fuzzer fuzzArenaSize := { s with crashed := true }

/-- `fuzz_exception_ctx.thread_id = GetCurrentThreadId()`. -/
def snapThreadId (s : Fuzzer fuzzArenaSize) (e : DrException) : Fuzzer fuzzArenaSize :=
  { s with fuzzExceptionCtx := { s.fuzzExceptionCtx with threadId := e.threadId } }

/-- `dr_mcontext_to_context(&(fuzz_exception_ctx.thread_ctx), excpt->mcontext)`. -/
def snapContext (s : Fuzzer fuzzArenaSize) (e : DrException) : Fuzzer fuzzArenaSize :=
  { s with fuzzExceptionCtx := { s.fuzzExceptionCtx with threadCtx := e.mcontext } }

/-- `memcpy(&(fuzz_exception_ctx.record), excpt->record, sizeof(EXCEPTION_RECORD))`. -/
def snapRecord (s : Fuzzer fuzzArenaSize) (e : DrException) : Fuzzer fuzzArenaSize :=
  { s with fuzzExceptionCtx := { s.fuzzExceptionCtx with record := e.record } }

/-- The stores `on_exception` makes once past its `exiting` check, in program order. -/
def capture (s : Fuzzer fuzzArenaSize) (e : DrException) : Fuzzer fuzzArenaSize :=
  ((s.setCrashed.snapThreadId e).snapContext e).snapRecord e

/-- A completed capture leaves `crashed` set and the whole snapshot of `e`, whatever the context
held before. -/
theorem capture_eq (s : Fuzzer fuzzArenaSize) (e : DrException) :
    s.capture e = { s with crashed := true, fuzzExceptionCtx := .ofException e } := rfl

end Fuzzer

/-! ## `on_dr_exit` -/

/-- `sl2_coverage_info`: the server's verdict on the run's coverage. -/
structure CoverageInfo where
  /-- `path_hash`. -/
  pathHash : String
  /-- `bucketing`. -/
  bucketing : Bool
  /-- `score`. -/
  score : Nat
  /-- `tries_remaining`. -/
  triesRemaining : Nat
  deriving DecidableEq, Repr

/-- What `on_dr_exit` gets back from the server. -/
structure ExitEnv where
  /-- `crash_paths.initial_dump_path` from `sl2_conn_request_crash_paths`. -/
  initialDumpPath : String
  /-- The reply to `sl2_conn_get_coverage`. -/
  coverage : CoverageInfo
  deriving DecidableEq, Repr

/-- What `on_dr_exit` leaves besides its requests. -/
structure ExitReport where
  /-- The file `CreateFile` was asked for and the thread id, context and record
  `MiniDumpWriteDump` was handed, when `crashed` was set. -/
  minidump : Option (String × ExceptionCtx)
  /-- The `#COVERAGE` line, in coverage-guided mode. -/
  coverageLine : Option CoverageInfo
  deriving DecidableEq, Repr

/-- `on_dr_exit`: set the latch, ask for the crash paths and dump the snapshot if `crashed`,
register and score the arena in coverage-guided mode, close the connection. -/
def onDrExit {fuzzArenaSize : Nat} (s : Fuzzer fuzzArenaSize) (pid : Nat) (env : ExitEnv) :
    Fuzzer fuzzArenaSize × ExitReport :=
  let s := { s with exiting := true }
  let (s, minidump) :=
    if s.crashed then (s.send (.requestCrashPaths pid), some (env.initialDumpPath, s.fuzzExceptionCtx))
    else (s, none)
  let (s, coverageLine) :=
    if s.coverageGuided then ((s.send .registerArena).send .getCoverage, some env.coverage)
    else (s, none)
  (s.send .connClose, ⟨minidump, coverageLine⟩)

/-- The requests `on_dr_exit` sends. -/
def exitRequests (crashed coverageGuided : Bool) (pid : Nat) : List Request :=
  (if crashed then [.requestCrashPaths pid] else []) ++
    (if coverageGuided then [.registerArena, .getCoverage] else []) ++ [.connClose]

/-- **What `on_dr_exit` does**: it sends `exitRequests`, dumps the snapshot exactly when
`crashed` is set, and leaves every other global but `exiting` alone. -/
theorem onDrExit_spec {fuzzArenaSize : Nat} (s : Fuzzer fuzzArenaSize) (pid : Nat) (env : ExitEnv) :
    (onDrExit s pid env).1 =
      { s with exiting := true,
               requests := s.requests ++ exitRequests s.crashed s.coverageGuided pid } ∧
      (onDrExit s pid env).2 =
        ⟨if s.crashed then some (env.initialDumpPath, s.fuzzExceptionCtx) else none,
          if s.coverageGuided then some env.coverage else none⟩ := by
  unfold onDrExit exitRequests
  cases s.crashed <;> cases s.coverageGuided <;> simp [Fuzzer.send]

/-! ## Starting up -/

/-- The options `dr_client_main` reads. -/
structure Options where
  /-- `op_target` (`-t`): the target list. -/
  target : String
  /-- `op_no_coverage` (`-n`). -/
  noCoverage : Bool
  /-- `op_run_id` (`-r`). -/
  runId : String
  /-- `op_arena_id` (`-a`). -/
  arenaId : String
  deriving DecidableEq, Repr

/-- `coverage_guided = (arena_id_s != "") && !no_coverage`. -/
def coverageMode (o : Options) : Bool := o.arenaId != "" && !o.noCoverage

/-- What the client's surroundings answer, apart from the replies `mutate` gets: the option
parser, the target loader, the server, and the two helpers defined outside `src/`. -/
structure Host (fuzzArenaSize : Nat) where
  /-- `droption_parser_t::parse_argv` succeeded. -/
  parseOk : Bool
  /-- `op_registry`, an option defined outside `src/`. -/
  opRegistry : Bool
  /-- The targets `client.loadTargets(target)` loads, `none` when it fails. -/
  loadTargets : Option (List TargetFunction)
  /-- The status `sl2_conn_open` returns. -/
  openResponse : SL2Response
  /-- `dr_get_process_id()`. -/
  pid : Nat
  /-- What `sl2_conn_request_arena` writes into `arena.map`. -/
  arenaReply : Fin fuzzArenaSize → UInt8
  /-- `client.function_is_in_expected_module`. -/
  functionIsInExpectedModule : String → String → Bool
  /-- What the server answers during `on_dr_exit`. -/
  exitEnv : ExitEnv

/-- Where the process is. -/
inductive Phase
  /-- The target runs, and the callbacks with it. -/
  | running
  /-- `on_dr_exit` has run to its end. -/
  | exited (status : Nat) (report : ExitReport)
  /-- `dr_abort()`. -/
  | aborted
  deriving DecidableEq, Repr

/-- The client's globals together with the parts of the process they depend on. -/
structure Session (fuzzArenaSize : Nat) where
  /-- The globals of `fuzzer.cpp`. -/
  fuzzer : Fuzzer fuzzArenaSize
  /-- DynamoRIO's list of loaded modules. -/
  loaded : List ModuleData
  /-- `client.parsedJson`. -/
  parsedJson : List TargetFunction
  /-- The `drwrap_wrap` calls `on_module_load` made. -/
  wraps : List Wrap
  /-- Where the process is. -/
  phase : Phase

/-- The requests `dr_client_main` sends. -/
def startRequests (o : Options) (pid : Nat) : List Request :=
  [.connOpen, .assignRunId o.runId, .registerPid pid] ++
    (if coverageMode o then [.requestArena o.arenaId] else [])

/-- The globals right after `dr_client_main`. -/
def startFuzzer {fuzzArenaSize : Nat} (o : Options) (h : Host fuzzArenaSize) :
    Fuzzer fuzzArenaSize :=
  { crashed := false, exiting := false, mutCount := 0,
    arena := if coverageMode o then ⟨o.arenaId, h.arenaReply⟩ else Arena.zero fuzzArenaSize,
    coverageGuided := coverageMode o, seenModules := [], fuzzExceptionCtx := .empty,
    requests := startRequests o h.pid, applied := [], callCounts := [] }

/-- `dr_client_main`: `none` is `dr_abort()`, for a bad command line, a missing target list or
run id, targets that do not load, or a connection that does not open. -/
def drClientMain {fuzzArenaSize : Nat} (o : Options) (h : Host fuzzArenaSize) :
    Option (Session fuzzArenaSize) :=
  if !h.parseOk || o.target == "" || o.runId == "" then none
  else
    match h.loadTargets with
    | none => none
    | some parsedJson =>
      if h.openResponse ≠ .ok then none
      else some ⟨startFuzzer o h, [], parsedJson, [], .running⟩

theorem drClientMain_eq_some {fuzzArenaSize : Nat} {o : Options} {h : Host fuzzArenaSize}
    {s : Session fuzzArenaSize} (hs : drClientMain o h = some s) :
    s.fuzzer = startFuzzer o h ∧ s.phase = .running := by
  unfold drClientMain at hs
  split at hs
  · cases hs
  · split at hs
    · cases hs
    · split at hs
      · cases hs
      · cases hs; exact ⟨rfl, rfl⟩

/-! ## The events of a run -/

/-- What the instrumentation engine delivers to the client. -/
inductive Event
  /-- A module is loaded (`on_module_load`) or unloaded. -/
  | module (e : ModuleEvent)
  /-- The block `first :: rest` starting at `startPc` runs; instructions are their encodings. -/
  | block (startPc : AppPc) (first : Nat) (rest : List Nat)
  /-- A call wrapped with `wrap_post_Generic` returns. -/
  | postGeneric (c : PostCall)
  /-- A `MapViewOfFile` call returns. -/
  | postMapViewOfFile (c : PostCall) (v : MapView)
  /-- A first-chance exception in the target (`on_exception`). -/
  | exception (e : DrException)
  /-- The target exits with this status. -/
  | appExit (status : Nat)

namespace Session

variable {fuzzArenaSize : Nat}

/-- `dr_exit_process(status)` or the target's exit: `on_dr_exit` runs to its end. -/
def exitWith (h : Host fuzzArenaSize) (s : Session fuzzArenaSize) (f : Fuzzer fuzzArenaSize)
    (status : Nat) : Session fuzzArenaSize :=
  { s with fuzzer := (onDrExit f h.pid h.exitEnv).1,
           phase := .exited status (onDrExit f h.pid h.exitEnv).2 }

/-- Back from a post-hook. -/
def afterHook (h : Host fuzzArenaSize) (s : Session fuzzArenaSize)
    (r : HookResult fuzzArenaSize) : Session fuzzArenaSize :=
  match r.resume with
  | .toTarget => { s with fuzzer := r.fuzzer }
  | .exitProcess status => exitWith h s r.fuzzer status

/-- `on_exception`: a second exception while exiting aborts; otherwise capture, log, and
`dr_exit_process(1)`. -/
def onException (h : Host fuzzArenaSize) (s : Session fuzzArenaSize) (e : DrException) :
    Session fuzzArenaSize :=
  if s.fuzzer.exiting then { s with phase := .aborted }
  else exitWith h s (s.fuzzer.capture e) 1

/-- `on_module_load`, and DynamoRIO's bookkeeping of the loaded modules. -/
def onModuleEvent (h : Host fuzzArenaSize) (s : Session fuzzArenaSize) (e : ModuleEvent) :
    Session fuzzArenaSize :=
  let m := (⟨s.loaded, s.fuzzer.seenModules⟩ : ModuleMap).step e
  { s with
    loaded := m.loaded
    fuzzer := { s.fuzzer with seenModules := m.seenModules }
    wraps := s.wraps ++ match e with
      | .load mod => moduleWraps h.opRegistry h.functionIsInExpectedModule s.parsedJson mod
      | .unload _ => [] }

/-- A block runs: instrumented only in coverage-guided mode. -/
def onBlock (s : Session fuzzArenaSize) (startPc : AppPc) (first : Nat) (rest : List Nat) :
    Session fuzzArenaSize :=
  if s.fuzzer.coverageGuided then
    let block := instrumentBlock fuzzArenaSize s.fuzzer.seenModules startPc first rest
    { s with fuzzer := { s.fuzzer with arena := execBlock s.fuzzer.arena block } }
  else s

/-- One event while the target runs. -/
def stepRunning (h : Host fuzzArenaSize) (s : Session fuzzArenaSize) : Event → Session fuzzArenaSize
  | .module e => s.onModuleEvent h e
  | .block startPc first rest => s.onBlock startPc first rest
  | .postGeneric c => s.afterHook h (wrapPostGeneric s.fuzzer c)
  | .postMapViewOfFile c v => s.afterHook h (wrapPostMapViewOfFile s.fuzzer c v)
  | .exception e => s.onException h e
  | .appExit status => s.exitWith h s.fuzzer status

/-- One event; once the process has ended, nothing happens any more. -/
def step (h : Host fuzzArenaSize) (s : Session fuzzArenaSize) (e : Event) : Session fuzzArenaSize :=
  match s.phase with
  | .running => s.stepRunning h e
  | _ => s

/-- A run. -/
def run (h : Host fuzzArenaSize) (s : Session fuzzArenaSize) (evs : List Event) :
    Session fuzzArenaSize :=
  evs.foldl (step h) s

end Session

/-! ## The requests of a run

`Started` is what holds of the globals from the end of `dr_client_main` until an exit begins;
`on_dr_exit` then appends `exitRequests`.  Every callback keeps `Started`, and the three exits
hand `on_dr_exit` globals that satisfy it. -/

variable {fuzzArenaSize : Nat}

/-- The globals of a run started with `o`, before any exit: the mode chosen at start-up, the
start-up requests followed by those of some mutations, and in non-guided mode an arena that is
still zero and no advised strategy. -/
structure Started (o : Options) (pid : Nat) (f : Fuzzer fuzzArenaSize) : Prop where
  /-- `coverage_guided` as `dr_client_main` set it. -/
  mode : f.coverageGuided = coverageMode o
  /-- The requests so far. -/
  requests : ∃ ms : List Mutation,
    f.requests = startRequests o pid ++ ms.flatMap (mutationRequests (coverageMode o))
  /-- Non-guided mode leaves the arena alone and never uses an advised strategy. -/
  inert : coverageMode o = false →
    (∀ j, f.arena.map j = 0) ∧ ∀ a ∈ f.applied, a.custom = none

theorem started_startFuzzer (o : Options) (h : Host fuzzArenaSize) :
    Started o h.pid (startFuzzer o h) :=
  ⟨rfl, ⟨[], by simp [startFuzzer]⟩, fun hc => by simp [startFuzzer, hc, Arena.zero]⟩

namespace Started

variable {o : Options} {pid : Nat} {f : Fuzzer fuzzArenaSize}

/-- Stores that touch none of the three: `crashed`, the snapshot, the modules, call counts. -/
theorem of_eq (h : Started o pid f) {f' : Fuzzer fuzzArenaSize}
    (hm : f'.coverageGuided = f.coverageGuided) (hr : f'.requests = f.requests)
    (ha : f'.arena = f.arena) (hp : f'.applied = f.applied) : Started o pid f' :=
  ⟨hm ▸ h.mode, hr ▸ h.requests, ha ▸ hp ▸ h.inert⟩

theorem mutate (h : Started o pid f) (info : ClientReadInfo) (env : MutateEnv) :
    Started o pid (SiennaLocomotive.mutate f info env).1 := by
  obtain ⟨hm, hr⟩ := mutate_spec f info env
  obtain ⟨ms, hms⟩ := h.requests
  refine ⟨by rw [hm]; exact h.mode, ⟨ms ++ [registeredRecord f.coverageGuided
    (buildMutation info f.mutCount) env], ?_⟩, fun hc => ?_⟩
  · rw [hm]; simp [hms, h.mode]
  · obtain ⟨hz, hn⟩ := h.inert hc
    rw [hm]
    refine ⟨hz, fun a ha => ?_⟩
    rcases List.mem_append.1 ha with ha | ha
    · exact hn a ha
    · simp only [List.mem_singleton] at ha; subst ha; simp [h.mode, hc]

end Started

/-- A post-hook keeps `Started`, leaves `exiting` alone, and leaves `crashed` unset if it was. -/
theorem afterMutate_started {o : Options} {pid : Nat} {f : Fuzzer fuzzArenaSize}
    (h : Started o pid f) (info : ClientReadInfo) (env : MutateEnv) (reads : List (InfoField × Bool)) :
    Started o pid (afterMutate (mutate f info env) reads).fuzzer ∧
      (afterMutate (mutate f info env) reads).fuzzer.exiting = f.exiting ∧
      (f.crashed = false → (afterMutate (mutate f info env) reads).fuzzer.crashed = false) := by
  have hs := h.mutate info env
  obtain ⟨hm, -⟩ := mutate_spec f info env
  unfold afterMutate
  split
  · exact ⟨hs, by rw [hm], fun hc => by rw [hm]; exact hc⟩
  · exact ⟨hs.of_eq rfl rfl rfl rfl, by simp [hm], fun _ => rfl⟩

theorem wrapPostGeneric_started {o : Options} {pid : Nat} {f : Fuzzer fuzzArenaSize}
    (h : Started o pid f) (c : PostCall) :
    Started o pid (wrapPostGeneric f c).fuzzer ∧ (wrapPostGeneric f c).fuzzer.exiting = f.exiting ∧
      (f.crashed = false → (wrapPostGeneric f c).fuzzer.crashed = false) := by
  rw [wrapPostGeneric_eq]
  split
  · exact afterMutate_started (f := f.incrementCallCount c.userData.function)
      (h.of_eq rfl rfl rfl rfl) _ _ _
  · split
    · exact ⟨h.of_eq rfl rfl rfl rfl, rfl, id⟩
    · exact ⟨h, rfl, id⟩

theorem wrapPostMapViewOfFile_started {o : Options} {pid : Nat} {f : Fuzzer fuzzArenaSize}
    (h : Started o pid f) (c : PostCall) (v : MapView) :
    Started o pid (wrapPostMapViewOfFile f c v).fuzzer ∧
      (wrapPostMapViewOfFile f c v).fuzzer.exiting = f.exiting ∧
      (f.crashed = false → (wrapPostMapViewOfFile f c v).fuzzer.crashed = false) := by
  rw [wrapPostMapViewOfFile_eq]
  split
  · exact afterMutate_started (f := f.incrementCallCount c.userData.function)
      (h.of_eq rfl rfl rfl rfl) _ _ _
  · split
    · exact ⟨h.of_eq rfl rfl rfl rfl, rfl, id⟩
    · exact ⟨h, rfl, id⟩

/-- A running session started with `o`: the latch is down, nothing has crashed, and the globals
are `Started`. -/
structure RunningInv (o : Options) (h : Host fuzzArenaSize) (s : Session fuzzArenaSize) :
    Prop where
  /-- The target runs. -/
  phase : s.phase = .running
  /-- `exiting` is unset. -/
  exiting : s.fuzzer.exiting = false
  /-- `crashed` is unset. -/
  crashed : s.fuzzer.crashed = false
  /-- The globals. -/
  started : Started o h.pid s.fuzzer

/-- A session whose `on_dr_exit` ran to its end, on globals that were `Started`. -/
def ExitedInv (o : Options) (h : Host fuzzArenaSize) (s : Session fuzzArenaSize) : Prop :=
  (∃ status report, s.phase = .exited status report) ∧
    ∃ f, Started o h.pid f ∧ s.fuzzer = (onDrExit f h.pid h.exitEnv).1

namespace Session

variable {o : Options} {h : Host fuzzArenaSize} {s : Session fuzzArenaSize}

theorem runningInv_of_drClientMain (hs : drClientMain o h = some s) : RunningInv o h s := by
  obtain ⟨hf, hp⟩ := drClientMain_eq_some hs
  exact ⟨hp, by rw [hf]; rfl, by rw [hf]; rfl, hf ▸ started_startFuzzer o h⟩

theorem exitedInv_exitWith {f : Fuzzer fuzzArenaSize} (hf : Started o h.pid f)
    (s : Session fuzzArenaSize) (status : Nat) : ExitedInv o h (s.exitWith h f status) :=
  ⟨⟨status, _, rfl⟩, f, hf, rfl⟩

theorem afterHook_inv (hs : RunningInv o h s) {r : HookResult fuzzArenaSize}
    (hr : Started o h.pid r.fuzzer) (hx : r.fuzzer.exiting = false) (hc : r.fuzzer.crashed = false) :
    RunningInv o h (s.afterHook h r) ∨ ExitedInv o h (s.afterHook h r) := by
  unfold afterHook
  split
  · exact .inl ⟨hs.phase, hx, hc, hr⟩
  · exact .inr (exitedInv_exitWith hr s _)

/-- **One event.**  A running session stays running with its invariant, or ends in `on_dr_exit`
on `Started` globals. -/
theorem step_inv (hs : RunningInv o h s) (e : Event) :
    RunningInv o h (s.step h e) ∨ ExitedInv o h (s.step h e) := by
  have hrun : s.step h e = s.stepRunning h e := by simp [step, hs.phase]
  rw [hrun]
  cases e with
  | module e => exact .inl ⟨hs.phase, hs.exiting, hs.crashed, hs.started.of_eq rfl rfl rfl rfl⟩
  | block a first rest =>
    by_cases hcg : s.fuzzer.coverageGuided = true
    · have hm : coverageMode o = true := hs.started.mode ▸ hcg
      rw [stepRunning, onBlock, if_pos hcg]
      exact .inl ⟨hs.phase, hs.exiting, hs.crashed, ⟨hs.started.mode, hs.started.requests,
        fun hc => absurd hm (by simp [hc])⟩⟩
    · rw [stepRunning, onBlock, if_neg hcg]
      exact .inl hs
  | postGeneric c =>
    obtain ⟨h1, h2, h3⟩ := wrapPostGeneric_started hs.started c
    exact afterHook_inv hs h1 (h2.trans hs.exiting) (h3 hs.crashed)
  | postMapViewOfFile c v =>
    obtain ⟨h1, h2, h3⟩ := wrapPostMapViewOfFile_started hs.started c v
    exact afterHook_inv hs h1 (h2.trans hs.exiting) (h3 hs.crashed)
  | exception ex =>
    rw [stepRunning, onException, if_neg (by simp [hs.exiting])]
    exact .inr (exitedInv_exitWith (f := s.fuzzer.capture ex) (hs.started.of_eq rfl rfl rfl rfl) s 1)
  | appExit status => exact .inr (exitedInv_exitWith hs.started s status)

theorem run_of_exited (hs : ExitedInv o h s) (evs : List Event) : s.run h evs = s := by
  obtain ⟨⟨status, report, hp⟩, -⟩ := hs
  induction evs with
  | nil => rfl
  | cons e evs ih => simpa [run, step, hp] using ih

/-- **Every run.**  From a running session, whatever the events, the session is still running
with its invariant, or has ended in `on_dr_exit` on `Started` globals. -/
theorem run_inv (hs : RunningInv o h s) (evs : List Event) :
    RunningInv o h (s.run h evs) ∨ ExitedInv o h (s.run h evs) := by
  induction evs generalizing s with
  | nil => exact .inl hs
  | cons e evs ih =>
    rw [run, List.foldl_cons, ← run]
    rcases step_inv hs e with hs' | hs'
    · exact ih hs'
    · rw [run_of_exited hs']; exact .inr hs'

end Session

/-- A host whose every request succeeds, for a four-cell arena. -/
def sampleHost : Host 4 :=
  ⟨true, false, some [⟨"ReadFile", true⟩], .ok, 7, fun _ => 0, fun _ _ => true,
    ⟨"C:\\dumps\\initial.dmp", ⟨"", false, 0, 0⟩⟩⟩

end SiennaLocomotive
