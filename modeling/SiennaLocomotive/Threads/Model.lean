import SiennaLocomotive.Session

/-!
# The callbacks as atomic steps of concurrent threads

`Session` runs one callback at a time.  DynamoRIO, however, calls `on_exception` and the
post-hooks in whichever target thread faulted or returned from an intercepted call, and calls
`on_dr_exit` in the thread that ended the process, while the other threads go on.  The file
globals `crashed`, `exiting`, `fuzz_exception_ctx` and `mut_count` are shared between them with
no lock and no atomic.

This file takes those callbacks apart into their accesses to the four globals:

* `on_exception`: the load of `exiting`, then the stores to `crashed`, to
  `fuzz_exception_ctx.thread_id`, `thread_ctx` and `record`, then `dr_exit_process(1)`;
* a post-hook that calls `mutate`: the load of `mut_count`, the store of the loaded value plus
  one, then the rest of `mutate` as one step, and on failure the store `crashed = false` and
  `dr_exit_process(1)`;
* `on_dr_exit`: the store to `exiting`, the load of `crashed`, the load of
  `fuzz_exception_ctx` for `MiniDumpWriteDump`, then the arena and the connection.

A `World` holds the globals, every thread's position, and the log of the accesses so far (a
history kept for the statements, not a global of the client).  An `Action` is what the
scheduler lets happen next: a fault, a returning intercepted call, the target's exit, or the
next step of one thread.  Every interleaving of any number of threads is a list of actions.

Each access is one step.  That is exact for `exiting`, `crashed`, `mut_count` and
`fuzz_exception_ctx.thread_id`, each one aligned word.  `dr_mcontext_to_context` and the
`memcpy` of the record write many words each, which another thread's copy can interleave with;
here each is one store, so what this model says of a dumped context or record as a whole, rather
than of which stores were made and in what order, does not carry over to the client.

Two things come from DynamoRIO rather than from `src/`: the exit event runs once, in the thread
that first called `dr_exit_process` or in which the target exited, and any later caller is
stopped; and `dr_abort` ends the process at once.
-/

set_option autoImplicit false

namespace SiennaLocomotive

/-! ## Post-hooks -/

/-- A post-hook that runs when an intercepted call returns. -/
inductive PostHook
  /-- `wrap_post_Generic`. -/
  | generic (c : PostCall)
  /-- `wrap_post_MapViewOfFile`. -/
  | mapViewOfFile (c : PostCall) (v : MapView)
  deriving DecidableEq, Repr

namespace PostHook

variable {fuzzArenaSize : Nat}

/-- The intercepted call. -/
def call : PostHook → PostCall
  | .generic c => c
  | .mapViewOfFile c _ => c

/-- The hook, run to its end. -/
def run (s : Fuzzer fuzzArenaSize) : PostHook → HookResult fuzzArenaSize
  | .generic c => wrapPostGeneric s c
  | .mapViewOfFile c v => wrapPostMapViewOfFile s c v

/-- The record the hook hands `mutate`, if it calls `mutate`. -/
def mutateInfo : PostHook → Option ClientReadInfo
  | .generic c => if c.sane && c.targeted then some (clampToRead c.userData) else none
  | .mapViewOfFile c v =>
    if c.sane && v.mappedFileName.isSome && c.targeted then some (mapViewInfo c.userData v)
    else none

/-- The fields the hook's cleanup reads through `info`. -/
def cleanupReads : PostHook → List (InfoField × Bool)
  | .generic _ => [(.source, true), (.argHash, true)]
  | .mapViewOfFile _ _ => [(.argHash, true)]

/-- A hook that calls `mutate` bumps the call count, then ends as `mutate` decides. -/
theorem run_of_mutateInfo {h : PostHook} {info : ClientReadInfo} (hi : h.mutateInfo = some info)
    (s : Fuzzer fuzzArenaSize) :
    h.run s = afterMutate (mutate (s.incrementCallCount h.call.userData.function) info
      h.call.env) h.cleanupReads := by
  cases h with
  | generic c =>
    cases hs : c.sane <;> cases ht : c.targeted <;> simp [mutateInfo, hs, ht] at hi
    simp [run, call, cleanupReads, wrapPostGeneric_eq, hs, ht, hi]
  | mapViewOfFile c v =>
    cases hs : c.sane <;> cases hn : v.mappedFileName.isSome <;> cases ht : c.targeted <;>
      simp [mutateInfo, hs, hn, ht] at hi
    simp [run, call, cleanupReads, wrapPostMapViewOfFile_eq, hs, hn, ht, hi]

/-- A hook that does not call `mutate` returns to the target, having at most bumped the call
count. -/
theorem run_of_mutateInfo_none {h : PostHook} (hi : h.mutateInfo = none)
    (s : Fuzzer fuzzArenaSize) :
    (h.run s).fuzzer = (if h.call.sane then s.incrementCallCount h.call.userData.function else s) ∧
      (h.run s).resume = .toTarget := by
  cases h with
  | generic c =>
    cases hs : c.sane <;> cases ht : c.targeted <;>
      simp_all [mutateInfo, run, call, wrapPostGeneric_eq]
  | mapViewOfFile c v =>
    cases hs : c.sane <;> cases hn : v.mappedFileName.isSome <;> cases ht : c.targeted <;>
      simp_all [mutateInfo, run, call, wrapPostMapViewOfFile_eq]

end PostHook

/-! ## Threads and their accesses -/

/-- Where a thread stands between two of its atomic steps. -/
inductive ThreadPc
  /-- In the target's own code. -/
  | running
  /-- In `on_exception` for `e`, about to load `exiting`. -/
  | exceptionCheck (e : DrException)
  /-- About to store `crashed = true`. -/
  | exceptionCrashed (e : DrException)
  /-- About to store `fuzz_exception_ctx.thread_id`. -/
  | exceptionThreadId (e : DrException)
  /-- About to store `fuzz_exception_ctx.thread_ctx`. -/
  | exceptionContext (e : DrException)
  /-- About to copy the record into `fuzz_exception_ctx.record`. -/
  | exceptionRecord (e : DrException)
  /-- In a post-hook's `mutate(info)`, about to load `mut_count`. -/
  | mutateLoad (info : ClientReadInfo) (env : MutateEnv)
  /-- Having loaded `count`, about to store `count + 1` into `mut_count`. -/
  | mutateStore (info : ClientReadInfo) (env : MutateEnv) (count : UInt32)
  /-- About to run the rest of `mutate` with the record numbered `count`. -/
  | mutateRest (info : ClientReadInfo) (env : MutateEnv) (count : UInt32)
  /-- `mutate` failed: about to store `crashed = false`. -/
  | mutateFailed
  /-- About to call `dr_exit_process(status)`. -/
  | exitProcess (status : Nat)
  /-- In `on_dr_exit` for an exit with `status`, about to store `exiting = true`. -/
  | exitLatch (status : Nat)
  /-- About to load `crashed`. -/
  | exitCheck (status : Nat)
  /-- About to hand `fuzz_exception_ctx` to `MiniDumpWriteDump`. -/
  | exitDump (status : Nat)
  /-- About to register and score the arena and close the connection. -/
  | exitFinish (status : Nat)
  /-- Stopped by the process exit another thread began. -/
  | halted
  deriving DecidableEq, Repr

/-- An access to one of the four shared globals, tagged with the thread that made it. -/
inductive Access
  /-- `on_exception` for `e` loads `exiting`. -/
  | loadExiting (t : Nat) (e : DrException) (v : Bool)
  /-- A store to `crashed`. -/
  | storeCrashed (t : Nat) (v : Bool)
  /-- A store to `fuzz_exception_ctx.thread_id`. -/
  | storeThreadId (t : Nat) (v : Nat)
  /-- A store to `fuzz_exception_ctx.thread_ctx`. -/
  | storeThreadCtx (t : Nat) (v : Nat)
  /-- A store to `fuzz_exception_ctx.record`. -/
  | storeRecord (t : Nat) (v : ExceptionRecord)
  /-- The load half of `mut_count++`. -/
  | loadMutCount (t : Nat) (v : UInt32)
  /-- The store half of `mut_count++`: `loaded + 1` written over `overwritten`. -/
  | storeMutCount (t : Nat) (loaded overwritten : UInt32)
  /-- `on_dr_exit` stores `exiting = true`. -/
  | storeExiting (t : Nat)
  /-- `on_dr_exit` loads `crashed`. -/
  | loadCrashed (t : Nat) (v : Bool)
  /-- `on_dr_exit` loads `fuzz_exception_ctx` for the dump. -/
  | loadContext (t : Nat) (v : ExceptionCtx)
  deriving DecidableEq, Repr

/-- The thread that made an access. -/
def Access.thread : Access → Nat
  | .loadExiting t _ _ => t
  | .storeCrashed t _ => t
  | .storeThreadId t _ => t
  | .storeThreadCtx t _ => t
  | .storeRecord t _ => t
  | .loadMutCount t _ => t
  | .storeMutCount t _ _ => t
  | .storeExiting t => t
  | .loadCrashed t _ => t
  | .loadContext t _ => t

/-- What the scheduler lets happen next. -/
inductive Action
  /-- Thread `t` faults with `e`, and DynamoRIO calls `on_exception` in it. -/
  | raise (t : Nat) (e : DrException)
  /-- An intercepted call returns in thread `t`, and DynamoRIO calls its post-hook. -/
  | postHook (t : Nat) (hook : PostHook)
  /-- The target exits from thread `t` with `status`. -/
  | appExit (t : Nat) (status : Nat)
  /-- Thread `t` takes its next atomic step. -/
  | advance (t : Nat)
  deriving DecidableEq, Repr

/-- The thread an action happens in. -/
def Action.thread : Action → Nat
  | .raise t _ => t
  | .postHook t _ => t
  | .appExit t _ => t
  | .advance t => t

/-- The process: the globals, every thread's position, and the accesses made so far. -/
structure World (fuzzArenaSize : Nat) where
  /-- The globals of `fuzzer.cpp`. -/
  fuzzer : Fuzzer fuzzArenaSize
  /-- Each thread's position. -/
  pcs : Nat → ThreadPc
  /-- The thread DynamoRIO runs `on_dr_exit` in, once the process has begun to exit. -/
  exitThread : Option Nat
  /-- The file name and the snapshot `MiniDumpWriteDump` was handed, once it has been. -/
  minidump : Option (String × ExceptionCtx)
  /-- Whether the process still runs. -/
  phase : Phase
  /-- The accesses to the shared globals, oldest first. -/
  log : List Access

namespace World

variable {fuzzArenaSize : Nat}

/-- A process whose threads all run target code, with the globals `s`. -/
def init (s : Fuzzer fuzzArenaSize) : World fuzzArenaSize :=
  ⟨s, fun _ => .running, none, none, .running, []⟩

/-- Thread `t` moves to `pc`. -/
def move (w : World fuzzArenaSize) (t : Nat) (pc : ThreadPc) : World fuzzArenaSize :=
  { w with pcs := Function.update w.pcs t pc }

/-- Log an access. -/
def note (w : World fuzzArenaSize) (a : Access) : World fuzzArenaSize :=
  { w with log := w.log ++ [a] }

/-- Replace the globals. -/
def setFuzzer (w : World fuzzArenaSize) (s : Fuzzer fuzzArenaSize) : World fuzzArenaSize :=
  { w with fuzzer := s }

/-- `dr_exit_process(status)`, or the target's exit, in thread `t`: the first thread to get
here runs `on_dr_exit`; a later one is stopped. -/
def beginExit (w : World fuzzArenaSize) (t status : Nat) : World fuzzArenaSize :=
  match w.exitThread with
  | none => { w.move t (.exitLatch status) with exitThread := some t }
  | some _ => w.move t .halted

section Fields

variable (w : World fuzzArenaSize) (t : Nat)

@[simp] theorem move_fuzzer (pc : ThreadPc) : (w.move t pc).fuzzer = w.fuzzer := rfl
@[simp] theorem move_pcs (pc : ThreadPc) : (w.move t pc).pcs = Function.update w.pcs t pc := rfl
@[simp] theorem move_exitThread (pc : ThreadPc) : (w.move t pc).exitThread = w.exitThread := rfl
@[simp] theorem move_minidump (pc : ThreadPc) : (w.move t pc).minidump = w.minidump := rfl
@[simp] theorem move_phase (pc : ThreadPc) : (w.move t pc).phase = w.phase := rfl
@[simp] theorem move_log (pc : ThreadPc) : (w.move t pc).log = w.log := rfl

@[simp] theorem note_fuzzer (a : Access) : (w.note a).fuzzer = w.fuzzer := rfl
@[simp] theorem note_pcs (a : Access) : (w.note a).pcs = w.pcs := rfl
@[simp] theorem note_exitThread (a : Access) : (w.note a).exitThread = w.exitThread := rfl
@[simp] theorem note_minidump (a : Access) : (w.note a).minidump = w.minidump := rfl
@[simp] theorem note_phase (a : Access) : (w.note a).phase = w.phase := rfl
@[simp] theorem note_log (a : Access) : (w.note a).log = w.log ++ [a] := rfl

@[simp] theorem setFuzzer_fuzzer (s : Fuzzer fuzzArenaSize) : (w.setFuzzer s).fuzzer = s := rfl
@[simp] theorem setFuzzer_pcs (s : Fuzzer fuzzArenaSize) : (w.setFuzzer s).pcs = w.pcs := rfl
@[simp] theorem setFuzzer_exitThread (s : Fuzzer fuzzArenaSize) :
    (w.setFuzzer s).exitThread = w.exitThread := rfl
@[simp] theorem setFuzzer_minidump (s : Fuzzer fuzzArenaSize) :
    (w.setFuzzer s).minidump = w.minidump := rfl
@[simp] theorem setFuzzer_phase (s : Fuzzer fuzzArenaSize) : (w.setFuzzer s).phase = w.phase := rfl
@[simp] theorem setFuzzer_log (s : Fuzzer fuzzArenaSize) : (w.setFuzzer s).log = w.log := rfl

@[simp] theorem beginExit_fuzzer (status : Nat) : (w.beginExit t status).fuzzer = w.fuzzer := by
  unfold beginExit; split <;> rfl
@[simp] theorem beginExit_minidump (status : Nat) :
    (w.beginExit t status).minidump = w.minidump := by
  unfold beginExit; split <;> rfl
@[simp] theorem beginExit_phase (status : Nat) : (w.beginExit t status).phase = w.phase := by
  unfold beginExit; split <;> rfl
@[simp] theorem beginExit_log (status : Nat) : (w.beginExit t status).log = w.log := by
  unfold beginExit; split <;> rfl

/-- The process exit begins once: the first caller runs `on_dr_exit`, a later one stops. -/
theorem beginExit_eq (status : Nat) :
    (w.beginExit t status).exitThread = some (w.exitThread.getD t) ∧
      (w.beginExit t status).pcs =
        Function.update w.pcs t (if w.exitThread = none then .exitLatch status else .halted) := by
  unfold beginExit; split <;> simp_all

end Fields

/-! ## The steps -/

/-- The end of `on_dr_exit`: register and score the arena in coverage-guided mode, close the
connection; the process is over. -/
def finishExit (h : Host fuzzArenaSize) (w : World fuzzArenaSize) (status : Nat) :
    World fuzzArenaSize :=
  let (s, coverageLine) :=
    if w.fuzzer.coverageGuided then
      ((w.fuzzer.send .registerArena).send .getCoverage, some h.exitEnv.coverage)
    else (w.fuzzer, none)
  { w with fuzzer := s.send .connClose, phase := .exited status ⟨w.minidump, coverageLine⟩ }

/-- The end of `on_dr_exit` sends the arena requests in coverage-guided mode and the close, and
records the report; nothing else changes. -/
theorem finishExit_eq (h : Host fuzzArenaSize) (w : World fuzzArenaSize) (status : Nat) :
    w.finishExit h status =
      { w with
        fuzzer := { w.fuzzer with
          requests := w.fuzzer.requests ++
            ((if w.fuzzer.coverageGuided then [.registerArena, .getCoverage] else []) ++
              [.connClose]) }
        phase := .exited status ⟨w.minidump,
          if w.fuzzer.coverageGuided then some h.exitEnv.coverage else none⟩ } := by
  unfold finishExit
  cases hc : w.fuzzer.coverageGuided <;> simp [Fuzzer.send, hc]

/-- The next atomic step of thread `t`.  The copies of the context and of the record are one
step each, though the client makes them word by word. -/
def advance (h : Host fuzzArenaSize) (w : World fuzzArenaSize) (t : Nat) : World fuzzArenaSize :=
  match w.pcs t with
  | .running => w
  | .halted => w
  | .exceptionCheck e =>
    if w.fuzzer.exiting then { w.note (.loadExiting t e true) with phase := .aborted }
    else (w.move t (.exceptionCrashed e)).note (.loadExiting t e false)
  | .exceptionCrashed e =>
    ((w.setFuzzer w.fuzzer.setCrashed).move t (.exceptionThreadId e)).note (.storeCrashed t true)
  | .exceptionThreadId e =>
    ((w.setFuzzer (w.fuzzer.snapThreadId e)).move t (.exceptionContext e)).note
      (.storeThreadId t e.threadId)
  | .exceptionContext e =>
    ((w.setFuzzer (w.fuzzer.snapContext e)).move t (.exceptionRecord e)).note
      (.storeThreadCtx t e.mcontext)
  | .exceptionRecord e =>
    ((w.setFuzzer (w.fuzzer.snapRecord e)).move t (.exitProcess 1)).note (.storeRecord t e.record)
  | .mutateLoad info env =>
    (w.move t (.mutateStore info env w.fuzzer.mutCount)).note (.loadMutCount t w.fuzzer.mutCount)
  | .mutateStore info env count =>
    ((w.setFuzzer { w.fuzzer with mutCount := count + 1 }).move t (.mutateRest info env count)).note
      (.storeMutCount t count w.fuzzer.mutCount)
  | .mutateRest info env count =>
    let r := mutateFrom w.fuzzer (buildMutation info count) env
    (w.setFuzzer r.1).move t (if r.2 then .running else .mutateFailed)
  | .mutateFailed =>
    ((w.setFuzzer { w.fuzzer with crashed := false }).move t (.exitProcess 1)).note
      (.storeCrashed t false)
  | .exitProcess status => w.beginExit t status
  | .exitLatch status =>
    ((w.setFuzzer { w.fuzzer with exiting := true }).move t (.exitCheck status)).note
      (.storeExiting t)
  | .exitCheck status =>
    if w.fuzzer.crashed then
      ((w.setFuzzer (w.fuzzer.send (.requestCrashPaths h.pid))).move t (.exitDump status)).note
        (.loadCrashed t true)
    else (w.move t (.exitFinish status)).note (.loadCrashed t false)
  | .exitDump status =>
    ({ w with minidump := some (h.exitEnv.initialDumpPath, w.fuzzer.fuzzExceptionCtx) }.move t
      (.exitFinish status)).note (.loadContext t w.fuzzer.fuzzExceptionCtx)
  | .exitFinish status => w.finishExit h status

/-- A callback begins in thread `t`, if it runs target code. -/
def start (w : World fuzzArenaSize) (t : Nat) (f : World fuzzArenaSize → World fuzzArenaSize) :
    World fuzzArenaSize :=
  match w.pcs t with
  | .running => f w
  | _ => w

/-- A post-hook begins in thread `t`: one that calls `mutate` bumps the call count and goes on
to `mutate`'s steps; any other runs to its end at once, touching none of the shared globals. -/
def beginHook (w : World fuzzArenaSize) (t : Nat) (hook : PostHook) : World fuzzArenaSize :=
  match hook.mutateInfo with
  | some info =>
    (w.setFuzzer (w.fuzzer.incrementCallCount hook.call.userData.function)).move t
      (.mutateLoad info hook.call.env)
  | none => w.setFuzzer (hook.run w.fuzzer).fuzzer

@[simp] theorem beginHook_log (w : World fuzzArenaSize) (t : Nat) (hook : PostHook) :
    (w.beginHook t hook).log = w.log := by
  unfold beginHook; split <;> rfl

/-- One action; once the process is over, nothing happens any more. -/
def step (h : Host fuzzArenaSize) (w : World fuzzArenaSize) (a : Action) : World fuzzArenaSize :=
  match w.phase with
  | .running =>
    match a with
    | .raise t e => w.start t fun w => w.move t (.exceptionCheck e)
    | .postHook t hook => w.start t fun w => w.beginHook t hook
    | .appExit t status => w.start t fun w => w.beginExit t status
    | .advance t => w.advance h t
  | _ => w

/-- A run: the actions in the order the scheduler picked. -/
def run (h : Host fuzzArenaSize) (w : World fuzzArenaSize) (acts : List Action) :
    World fuzzArenaSize :=
  acts.foldl (step h) w

@[simp] theorem run_nil (h : Host fuzzArenaSize) (w : World fuzzArenaSize) : w.run h [] = w := rfl

@[simp] theorem run_cons (h : Host fuzzArenaSize) (w : World fuzzArenaSize) (a : Action)
    (acts : List Action) : w.run h (a :: acts) = (w.step h a).run h acts := rfl

theorem run_append (h : Host fuzzArenaSize) (w : World fuzzArenaSize) (acts acts' : List Action) :
    w.run h (acts ++ acts') = (w.run h acts).run h acts' :=
  List.foldl_append _ _ _ _

/-- Once the process is over, no action changes anything. -/
theorem step_of_ne_running {h : Host fuzzArenaSize} {w : World fuzzArenaSize}
    (hp : w.phase ≠ .running) (a : Action) : w.step h a = w := by
  unfold step; split
  · contradiction
  · rfl

theorem run_of_ne_running {h : Host fuzzArenaSize} {w : World fuzzArenaSize}
    (hp : w.phase ≠ .running) (acts : List Action) : w.run h acts = w := by
  induction acts with
  | nil => rfl
  | cons a acts ih => rw [run_cons, step_of_ne_running hp, ih]

/-- A property every step keeps holds along every run. -/
theorem run_induction {h : Host fuzzArenaSize} (P : World fuzzArenaSize → Prop)
    (hstep : ∀ w a, P w → P (w.step h a)) {w : World fuzzArenaSize} (hw : P w)
    (acts : List Action) : P (w.run h acts) := by
  induction acts generalizing w with
  | nil => exact hw
  | cons a acts ih => exact ih (hstep w a hw)

/-! ## What one step can change -/

/-- What a step of thread `t` can do besides moving `t`: append accesses of `t` to the log,
leave every other thread where it was, and keep an exit already begun with its thread. -/
structure Frame (t : Nat) (w w' : World fuzzArenaSize) : Prop where
  log_eq : ∃ l, w'.log = w.log ++ l ∧ ∀ x ∈ l, x.thread = t
  pcs_of_ne : ∀ u, u ≠ t → w'.pcs u = w.pcs u
  exitThread_of_some : ∀ u, w.exitThread = some u → w'.exitThread = some u

theorem Frame.refl (t : Nat) (w : World fuzzArenaSize) : Frame t w w :=
  ⟨⟨[], (List.append_nil _).symm, nofun⟩, fun _ _ => rfl, fun _ hu => hu⟩

/-- A step that moves thread `t` to `pc` and logs accesses of `t`. -/
theorem Frame.of_move {t : Nat} {w w' : World fuzzArenaSize} (l : List Access)
    (hl : w'.log = w.log ++ l) (ht : ∀ x ∈ l, x.thread = t) (pc : ThreadPc)
    (hpc : w'.pcs = Function.update w.pcs t pc) (hx : w'.exitThread = w.exitThread) :
    Frame t w w' :=
  ⟨⟨l, hl, ht⟩, fun _ hu => by rw [hpc, Function.update_noteq hu], fun _ hu => hx ▸ hu⟩

theorem Frame.beginExit (w : World fuzzArenaSize) (t status : Nat) :
    Frame t w (w.beginExit t status) :=
  ⟨⟨[], by simp, nofun⟩, fun _ hu => by simp [beginExit_eq, hu],
    fun _ hu => by simp [beginExit_eq, hu]⟩

theorem Frame.start {t : Nat} {w : World fuzzArenaSize}
    {f : World fuzzArenaSize → World fuzzArenaSize} (hf : Frame t w (f w)) :
    Frame t w (w.start t f) := by
  unfold World.start; split
  · exact hf
  · exact .refl t w

theorem advance_frame (h : Host fuzzArenaSize) (w : World fuzzArenaSize) (t : Nat) :
    Frame t w (w.advance h t) := by
  have one : ∀ x : Access, x.thread = t → ∀ y ∈ [x], y.thread = t := fun x hx y hy => by
    rw [List.mem_singleton.1 hy]; exact hx
  cases hpc : w.pcs t with
  | running | halted => simp only [advance, hpc]; exact .refl t w
  | exceptionCheck e =>
    simp only [advance, hpc]; split
    · exact ⟨⟨_, rfl, one _ rfl⟩, fun _ _ => rfl, fun _ hu => hu⟩
    · exact .of_move _ rfl (one _ rfl) _ rfl rfl
  | exceptionCrashed e | exceptionThreadId e | exceptionContext e | exceptionRecord e
  | mutateLoad info env | mutateStore info env count | mutateFailed | exitLatch status
  | exitDump status => simp only [advance, hpc]; exact .of_move _ rfl (one _ rfl) _ rfl rfl
  | mutateRest info env count =>
    simp only [advance, hpc]; exact .of_move [] (List.append_nil w.log).symm nofun _ rfl rfl
  | exitProcess status => simp only [advance, hpc]; exact .beginExit w t status
  | exitCheck status =>
    simp only [advance, hpc]; split <;> exact .of_move _ rfl (one _ rfl) _ rfl rfl
  | exitFinish status =>
    simp only [advance, hpc, finishExit_eq]
    exact ⟨⟨[], (List.append_nil w.log).symm, nofun⟩, fun _ _ => rfl, fun _ hu => hu⟩

/-- What every step can change, said once: the frame lemmas below all follow from it. -/
theorem step_frame (h : Host fuzzArenaSize) (w : World fuzzArenaSize) (a : Action) :
    Frame a.thread w (w.step h a) := by
  cases hp : w.phase with
  | running =>
    cases a with
    | raise t e =>
      simp only [step, hp]; exact .start (.of_move [] (List.append_nil w.log).symm nofun _ rfl rfl)
    | postHook t hook =>
      simp only [step, hp]; refine .start ?_
      unfold beginHook; split
      · exact .of_move [] (List.append_nil w.log).symm nofun _ rfl rfl
      · exact ⟨⟨[], (List.append_nil w.log).symm, nofun⟩, fun _ _ => rfl, fun _ hu => hu⟩
    | appExit t status => simp only [step, hp]; exact .start (.beginExit w t status)
    | advance t => simp only [step, hp]; exact advance_frame h w t
  | _ => simp only [step, hp]; exact .refl _ w

/-- The log only grows. -/
theorem step_log_extends (h : Host fuzzArenaSize) (w : World fuzzArenaSize) (a : Action) :
    w.log <+: (w.step h a).log := by
  obtain ⟨l, hl, -⟩ := (step_frame h w a).log_eq
  exact hl ▸ List.prefix_append _ _

theorem run_log_extends (h : Host fuzzArenaSize) (w : World fuzzArenaSize) (acts : List Action) :
    w.log <+: (w.run h acts).log := by
  induction acts generalizing w with
  | nil => exact List.prefix_refl _
  | cons a acts ih => exact (step_log_extends h w a).trans (ih _)

/-- A step logs only accesses of its own thread. -/
theorem step_log_thread (h : Host fuzzArenaSize) (w : World fuzzArenaSize) (a : Action) :
    ∃ l, (w.step h a).log = w.log ++ l ∧ ∀ x ∈ l, x.thread = a.thread :=
  (step_frame h w a).log_eq

/-- A step moves no thread but its own. -/
theorem step_pcs_of_ne (h : Host fuzzArenaSize) (w : World fuzzArenaSize) {a : Action} {u : Nat}
    (hu : u ≠ a.thread) : (w.step h a).pcs u = w.pcs u :=
  (step_frame h w a).pcs_of_ne u hu

/-- A run of other threads' actions leaves a thread where it was. -/
theorem run_pcs_of_ne (h : Host fuzzArenaSize) (w : World fuzzArenaSize) {acts : List Action}
    {u : Nat} (hu : ∀ a ∈ acts, u ≠ a.thread) : (w.run h acts).pcs u = w.pcs u := by
  induction acts generalizing w with
  | nil => rfl
  | cons a acts ih =>
    rw [run_cons, ih _ fun b hb => hu b (List.mem_cons_of_mem a hb),
      step_pcs_of_ne h w (hu a (List.mem_cons_self a acts))]

/-- The process exit, once begun, stays with its thread. -/
theorem step_exitThread {h : Host fuzzArenaSize} {w : World fuzzArenaSize} {u : Nat}
    (hu : w.exitThread = some u) (a : Action) : (w.step h a).exitThread = some u :=
  (step_frame h w a).exitThread_of_some u hu

theorem run_exitThread {h : Host fuzzArenaSize} {w : World fuzzArenaSize} {u : Nat}
    (hu : w.exitThread = some u) (acts : List Action) : (w.run h acts).exitThread = some u :=
  run_induction (fun w => w.exitThread = some u) (fun _ a hw => step_exitThread hw a) hu acts

/-- The worlds a process reaches from a start with every thread in target code. -/
def Reachable (h : Host fuzzArenaSize) (w : World fuzzArenaSize) : Prop :=
  ∃ s acts, (init s).run h acts = w

end World

end SiennaLocomotive
