import SiennaLocomotive.Threads.Serial

/-!
# The crash snapshot between threads

`on_exception` checks `exiting`, then stores `crashed = true` and the three parts of
`fuzz_exception_ctx` one after the other; `on_dr_exit` sets `exiting` and later hands
`fuzz_exception_ctx` to `MiniDumpWriteDump` if `crashed` is still set.  Nothing orders two
threads' captures, and a failed mutation stores `crashed = false`.  So:

* two exceptions whose checks both come before the latch interleave their stores, and the dump
  can carry the thread id of one exception with the context and record of the other; a failed
  mutation after a capture leaves `on_dr_exit` with no dump to write at all
  (`snapshot_overwritten`);
* what the latch does guarantee: once `exiting` is set and no capture is in flight, it stays
  set, every later `on_exception` aborts before storing anything, and the snapshot is frozen,
  so every dump written from then on is that snapshot (`settled_run`);
* a crash that is the only one to pass the check, in a run with no failed mutation, is dumped
  exactly, thread id, context and record all from it, when its own thread runs `on_dr_exit` or
  the thread that does sets the latch after the capture's last store (`single_capture_dump`).

The last holds in any interleaving with any number of other threads, which may intercept
calls, mutate, fault after the latch or exit; its proof follows the capturing thread stage by
stage (`Stage`) and the exit thread past its latch (`ExitStage`), under invariants every
reachable world has (`Wf`).  Under `Sole` a step moves `crashed` and the snapshot only towards
`e` (`step_snapshot`), so once complete the snapshot stays `e`'s (`snapped_step`).
-/

set_option autoImplicit false

namespace SiennaLocomotive

/-- The exception a thread is capturing, from its check of `exiting` to its last store. -/
def ThreadPc.capturing : ThreadPc → Option DrException
  | .exceptionCrashed e => some e
  | .exceptionThreadId e => some e
  | .exceptionContext e => some e
  | .exceptionRecord e => some e
  | _ => none

/-- A thread inside `on_dr_exit`. -/
def ThreadPc.inExit : ThreadPc → Bool
  | .exitLatch _ => true
  | .exitCheck _ => true
  | .exitDump _ => true
  | .exitFinish _ => true
  | _ => false

/-- An `on_exception` that found `exiting` clear and goes on to capture. -/
def Access.passesCheck : Access → Bool
  | .loadExiting _ _ false => true
  | _ => false

/-- A failed mutation's `crashed = false`. -/
def Access.clearsCrashed : Access → Bool
  | .storeCrashed _ false => true
  | _ => false

namespace World

variable {fuzzArenaSize : Nat}

/-! ## Invariants of every reachable world -/

/-- What every reachable world satisfies: a capture in flight has passed its check; the threads
inside `on_dr_exit` are exactly the exit thread; and a finished process reports the dump that
was written, from its exit thread's last step. -/
structure Wf (w : World fuzzArenaSize) : Prop where
  capture_logged : ∀ u e, (w.pcs u).capturing = some e → Access.loadExiting u e false ∈ w.log
  exitThread_of_inExit : ∀ u, (w.pcs u).inExit = true → w.exitThread = some u
  inExit_of_exitThread : ∀ u, w.exitThread = some u → (w.pcs u).inExit = true
  of_exited : ∀ status report, w.phase = .exited status report →
    report.minidump = w.minidump ∧ ∃ u, w.exitThread = some u ∧ w.pcs u = .exitFinish status

theorem wf_init (s : Fuzzer fuzzArenaSize) : Wf (init s) where
  capture_logged := by simp [init, ThreadPc.capturing]
  exitThread_of_inExit := by simp [init, ThreadPc.inExit]
  inExit_of_exitThread := by simp [init]
  of_exited := by simp [init]

namespace Wf

variable {w w' : World fuzzArenaSize}

/-- A step that moves one thread while the process runs on keeps the invariants, if the
thread's new position is justified: a capture only after its check, `on_dr_exit` only where it
was. -/
theorem of_move (hw : Wf w) {t : Nat} {pc : ThreadPc}
    (hpcs : w'.pcs = Function.update w.pcs t pc) (hlog : w.log <+: w'.log)
    (hx : w'.exitThread = w.exitThread) (hp : w'.phase = .running)
    (hcap : ∀ e, pc.capturing = some e → Access.loadExiting t e false ∈ w'.log)
    (hexit : pc.inExit = (w.pcs t).inExit) : Wf w' where
  capture_logged u e hu := by
    rw [hpcs, Function.update_apply] at hu
    split at hu
    · subst_vars; exact hcap e hu
    · exact hlog.subset (hw.capture_logged u e hu)
  exitThread_of_inExit u hu := by
    rw [hx]; rw [hpcs, Function.update_apply] at hu
    split at hu
    · subst_vars; exact hw.exitThread_of_inExit _ (hexit ▸ hu)
    · exact hw.exitThread_of_inExit u hu
  inExit_of_exitThread u hu := by
    rw [hpcs, Function.update_apply]; rw [hx] at hu
    split
    · subst_vars; rw [hexit]; exact hw.inExit_of_exitThread _ hu
    · exact hw.inExit_of_exitThread u hu
  of_exited := by simp [hp]

/-- The process exit begins in a thread neither capturing nor exiting. -/
theorem beginExit (hw : Wf w) (hp : w.phase = .running) {t : Nat} (status : Nat)
    (hc : (w.pcs t).capturing = none) (he : (w.pcs t).inExit = false) :
    Wf (w.beginExit t status) := by
  cases hx : w.exitThread with
  | none =>
    have hno : ∀ u, (w.pcs u).inExit = false := fun u => by
      cases hu : (w.pcs u).inExit
      · rfl
      · simp [hw.exitThread_of_inExit u hu] at hx
    refine ⟨?_, ?_, ?_, ?_⟩
    · intro u e hu
      simp only [World.beginExit, hx, move_pcs, Function.update_apply] at hu
      split at hu
      · cases hu
      · rw [beginExit_log]; exact hw.capture_logged u e hu
    · intro u hu
      simp only [World.beginExit, hx, move_pcs, Function.update_apply] at hu ⊢
      split at hu
      · subst_vars; rfl
      · simp [hno u] at hu
    · intro u hu
      simp only [World.beginExit, hx, Option.some.injEq] at hu
      subst hu
      simp [World.beginExit, hx, ThreadPc.inExit]
    · simp [hp]
  | some v =>
    have hb : w.beginExit t status = w.move t .halted := by simp [World.beginExit, hx]
    rw [hb]
    exact hw.of_move rfl (List.prefix_refl _) rfl hp (by simp [ThreadPc.capturing])
      (by rw [he]; rfl)

/-- A capture in flight moves on with the same exception, its check still in the log. -/
theorem capture_next (hw : Wf w) {t : Nat} {e : DrException} (hc : (w.pcs t).capturing = some e)
    (pc : ThreadPc) (hpc : pc.capturing = some e) (l : List Access) :
    ∀ e', pc.capturing = some e' → Access.loadExiting t e' false ∈ w.log ++ l := by
  intro e' he'
  rw [hpc, Option.some.injEq] at he'
  exact he' ▸ List.mem_append_left _ (hw.capture_logged t e hc)

/-- Every step keeps the invariants. -/
theorem step (hw : Wf w) (h : Host fuzzArenaSize) (a : Action) : Wf (w.step h a) := by
  cases hp : w.phase with
  | running =>
    cases a with
    | raise t e =>
      simp only [World.step, hp, start]; split
      · next hpc =>
        exact hw.of_move rfl (List.prefix_refl _) rfl hp (fun _ h => nomatch h)
          (by rw [hpc]; rfl)
      · exact hw
    | postHook t hook =>
      simp only [World.step, hp, start, beginHook]; split
      · next hpc =>
        split
        · exact hw.of_move rfl (List.prefix_refl _) rfl hp (fun _ h => nomatch h)
            (by rw [hpc]; rfl)
        · exact ⟨hw.capture_logged, hw.exitThread_of_inExit, hw.inExit_of_exitThread,
            by simp [hp]⟩
      · exact hw
    | appExit t status =>
      simp only [World.step, hp, start]; split
      · next hpc => exact hw.beginExit hp status (by rw [hpc]; rfl) (by rw [hpc]; rfl)
      · exact hw
    | advance t =>
      cases hpc : w.pcs t <;> simp only [World.step, hp, advance, hpc]
      case running | halted => exact hw
      case exceptionCheck e =>
        split
        · exact ⟨fun u e hu => List.mem_append_left _ (hw.capture_logged u e hu),
            hw.exitThread_of_inExit, hw.inExit_of_exitThread, by simp⟩
        · exact hw.of_move rfl (List.prefix_append _ _) rfl hp (by simp [ThreadPc.capturing])
            (by rw [hpc]; rfl)
      case exceptionCrashed e | exceptionThreadId e | exceptionContext e =>
        exact hw.of_move rfl (List.prefix_append _ _) rfl hp
          (hw.capture_next (by rw [hpc]; rfl) _ (by rfl) _) (by rw [hpc]; rfl)
      case exceptionRecord e | mutateLoad info env | mutateStore info env count | mutateFailed
        | exitLatch status =>
        exact hw.of_move rfl (List.prefix_append _ _) rfl hp (fun _ h => nomatch h)
          (by rw [hpc]; rfl)
      case exitDump status =>
        exact hw.of_move rfl (List.prefix_append _ _) rfl rfl (fun _ h => nomatch h)
          (by rw [hpc]; rfl)
      case exitCheck status =>
        split <;> exact hw.of_move rfl (List.prefix_append _ _) rfl hp (fun _ h => nomatch h)
          (by rw [hpc]; rfl)
      case mutateRest info env count =>
        exact hw.of_move rfl (List.prefix_refl _) rfl hp (by split <;> exact fun _ h => nomatch h)
          (by rw [hpc]; split <;> rfl)
      case exitProcess status => exact hw.beginExit hp status (by rw [hpc]; rfl) (by rw [hpc]; rfl)
      case exitFinish status =>
        rw [finishExit_eq]
        exact ⟨hw.capture_logged, hw.exitThread_of_inExit, hw.inExit_of_exitThread,
          fun st r hr => by
            simp only [Phase.exited.injEq] at hr
            obtain ⟨rfl, rfl⟩ := hr
            exact ⟨rfl, t, hw.exitThread_of_inExit t (by rw [hpc]; rfl), hpc⟩⟩
  | _ => simpa [World.step, hp] using hw

end Wf

theorem wf_run (h : Host fuzzArenaSize) (s : Fuzzer fuzzArenaSize) (acts : List Action) :
    Wf ((init s).run h acts) :=
  run_induction Wf (fun _ a hw => hw.step h a) (wf_init s) acts

/-! ## A single capture -/

/-- What `single_capture_dump` asks of a run, up to its current point: the check of `e` in `t`
is the only one passed, and no mutation has failed. -/
structure Sole (t : Nat) (e : DrException) (w : World fuzzArenaSize) : Prop where
  only : ∀ x ∈ w.log, x.passesCheck = true → x = .loadExiting t e false
  noClear : ∀ x ∈ w.log, x.clearsCrashed = false

/-- `Sole` of a later point of the run holds of every earlier one. -/
theorem Sole.of_run {h : Host fuzzArenaSize} {t : Nat} {e : DrException} {w : World fuzzArenaSize}
    (acts : List Action) (hs : Sole t e (w.run h acts)) : Sole t e w where
  only x hx := hs.only x ((run_log_extends h w acts).subset hx)
  noClear x hx := hs.noClear x ((run_log_extends h w acts).subset hx)

/-- Each field of the snapshot `ctx'` is that of `ctx` or `e`'s. -/
def Towards (e : DrException) (ctx ctx' : ExceptionCtx) : Prop :=
  (ctx'.threadId = ctx.threadId ∨ ctx'.threadId = e.threadId) ∧
    (ctx'.threadCtx = ctx.threadCtx ∨ ctx'.threadCtx = e.mcontext) ∧
    (ctx'.record = ctx.record ∨ ctx'.record = e.record)

/-- **What a step does to `crashed` and the snapshot under `Sole`**: only `t` changes them, and
only towards `e`: it sets `crashed`, or stores a field of `e`'s snapshot. -/
theorem step_snapshot {h : Host fuzzArenaSize} {w : World fuzzArenaSize} (hw : Wf w) {a : Action}
    {t : Nat} {e : DrException} (hs : Sole t e (w.step h a)) :
    ((w.step h a).fuzzer.crashed = w.fuzzer.crashed ∨
        a.thread = t ∧ (w.step h a).fuzzer.crashed = true) ∧
      ((w.step h a).fuzzer.fuzzExceptionCtx = w.fuzzer.fuzzExceptionCtx ∨
        a.thread = t ∧
          Towards e w.fuzzer.fuzzExceptionCtx (w.step h a).fuzzer.fuzzExceptionCtx) := by
  cases hp : w.phase with
  | running =>
    cases a with
    | raise u e' => simp only [World.step, hp, start]; split <;> simp
    | postHook u hook =>
      simp only [World.step, hp, start, beginHook]; split
      · split
        · simp
        · next hi =>
          rw [setFuzzer_fuzzer, (PostHook.run_of_mutateInfo_none hi w.fuzzer).1]
          split <;> simp
      · simp
    | appExit u status => simp only [World.step, hp, start]; split <;> simp
    | advance u =>
      have hcap : ∀ e', (w.pcs u).capturing = some e' → u = t ∧ e' = e := fun e' he' => by
        have := hs.only _ ((step_log_extends h w _).subset (hw.capture_logged u e' he')) rfl
        simp only [Access.loadExiting.injEq] at this
        exact ⟨this.1, this.2.1⟩
      cases hpc : w.pcs u with
      | exceptionCrashed e' =>
        obtain ⟨rfl, -⟩ := hcap e' (by rw [hpc]; rfl)
        simp [World.step, hp, advance, hpc, Fuzzer.setCrashed, Action.thread]
      | exceptionThreadId e' | exceptionContext e' | exceptionRecord e' =>
        obtain ⟨rfl, rfl⟩ := hcap e' (by rw [hpc]; rfl)
        simp [World.step, hp, advance, hpc, Fuzzer.snapThreadId, Fuzzer.snapContext,
          Fuzzer.snapRecord, Towards, Action.thread]
      | mutateFailed =>
        have := hs.noClear (.storeCrashed u false) (by simp [World.step, hp, advance, hpc])
        simp [Access.clearsCrashed] at this
      | exceptionCheck e' | exitCheck status =>
        simp only [World.step, hp, advance, hpc]; split <;> simp
      | mutateRest info env count => simp [World.step, hp, advance, hpc, mutateFrom_spec]
      | exitFinish status => simp [World.step, hp, advance, hpc, finishExit_eq]
      | _ => simp [World.step, hp, advance, hpc]
  | _ => simp [World.step, hp]

/-- `crashed` is set and the snapshot is all `e`'s. -/
def Snapped (e : DrException) (w : World fuzzArenaSize) : Prop :=
  w.fuzzer.crashed = true ∧ w.fuzzer.fuzzExceptionCtx = .ofException e

/-- Under `Sole`, once the snapshot is all `e`'s it stays so. -/
theorem snapped_step {h : Host fuzzArenaSize} {w : World fuzzArenaSize} (hw : Wf w) {a : Action}
    {t : Nat} {e : DrException} (hs : Sole t e (w.step h a)) (hsn : Snapped e w) :
    Snapped e (w.step h a) := by
  obtain ⟨hc, hx⟩ := step_snapshot hw hs
  obtain ⟨hc₀, hx₀⟩ := hsn
  refine ⟨hc.elim (·.trans hc₀) (·.2), ?_⟩
  rcases hx with hx | ⟨-, h₁, h₂, h₃⟩
  · exact hx.trans hx₀
  · rw [hx₀] at h₁ h₂ h₃
    cases hctx : (w.step h a).fuzzer.fuzzExceptionCtx
    simp only [hctx, ExceptionCtx.ofException, or_self] at h₁ h₂ h₃ ⊢
    rw [h₁, h₂, h₃]

/-- Only the exit thread writes the dump. -/
theorem step_minidump {h : Host fuzzArenaSize} {w : World fuzzArenaSize} (hw : Wf w) {a : Action}
    (hne : w.exitThread ≠ some a.thread) : (w.step h a).minidump = w.minidump := by
  cases hp : w.phase with
  | running =>
    cases a with
    | raise u e' => simp only [World.step, hp, start]; split <;> simp
    | postHook u hook =>
      simp only [World.step, hp, start, beginHook]; split
      · split <;> simp
      · simp
    | appExit u status => simp only [World.step, hp, start]; split <;> simp
    | advance u =>
      cases hpc : w.pcs u with
      | exitDump status => exact absurd (hw.exitThread_of_inExit u (by rw [hpc]; rfl)) hne
      | exceptionCheck e' | exitCheck status =>
        simp only [World.step, hp, advance, hpc]; split <;> simp
      | exitFinish status => simp [World.step, hp, advance, hpc, finishExit_eq]
      | _ => simp [World.step, hp, advance, hpc]
  | _ => simp [World.step, hp]

/-- How far thread `t` has got with `e` since its check passed, and what that says of the
globals: its stores so far, then the whole snapshot through `dr_exit_process(1)` and
`on_dr_exit`, and at the end the dump; or, if another thread began the exit first, the whole
snapshot while `t` waits to be stopped. -/
def Stage (h : Host fuzzArenaSize) (t : Nat) (e : DrException) (w : World fuzzArenaSize) : Prop :=
  match w.pcs t with
  | .exceptionCrashed e' => e' = e
  | .exceptionThreadId e' => e' = e ∧ w.fuzzer.crashed = true
  | .exceptionContext e' =>
    e' = e ∧ w.fuzzer.crashed = true ∧ w.fuzzer.fuzzExceptionCtx.threadId = e.threadId
  | .exceptionRecord e' =>
    e' = e ∧ w.fuzzer.crashed = true ∧ w.fuzzer.fuzzExceptionCtx.threadId = e.threadId ∧
      w.fuzzer.fuzzExceptionCtx.threadCtx = e.mcontext
  | .exitProcess status => status = 1 ∧ Snapped e w
  | .exitLatch status => status = 1 ∧ Snapped e w
  | .exitCheck status => status = 1 ∧ Snapped e w
  | .exitDump status => status = 1 ∧ Snapped e w
  | .exitFinish status =>
    status = 1 ∧ Snapped e w ∧ w.minidump = some (h.exitEnv.initialDumpPath, .ofException e)
  | .halted => Snapped e w
  | _ => False

theorem stage_congr {h : Host fuzzArenaSize} {t : Nat} {e : DrException}
    {w w' : World fuzzArenaSize} (hpc : w'.pcs t = w.pcs t)
    (hc : w'.fuzzer.crashed = w.fuzzer.crashed)
    (hx : w'.fuzzer.fuzzExceptionCtx = w.fuzzer.fuzzExceptionCtx)
    (hm : ∀ status, w.pcs t = .exitFinish status → w'.minidump = w.minidump) :
    Stage h t e w' ↔ Stage h t e w := by
  unfold Stage Snapped; rw [hpc, hc, hx]
  cases hq : w.pcs t with
  | exitFinish status => rw [hm status hq]
  | _ => exact Iff.rfl

theorem not_stage {h : Host fuzzArenaSize} {t : Nat} {e : DrException} {w : World fuzzArenaSize}
    {pc : ThreadPc} (hpc : w.pcs t = pc) (hc : pc.capturing = none) (he : pc.inExit = false)
    (hx : ∀ status, pc ≠ .exitProcess status) (hh : pc ≠ .halted) : ¬ Stage h t e w := by
  unfold Stage; rw [hpc]
  cases pc <;> simp_all [ThreadPc.capturing, ThreadPc.inExit]

/-- A step of `t` itself takes it to its next stage; its check of `e` is the step into the
first. -/
theorem stage_self {h : Host fuzzArenaSize} {w : World fuzzArenaSize} {a : Action}
    {t : Nat} {e : DrException} (hst : Access.loadExiting t e false ∈ w.log → Stage h t e w)
    (hs : Sole t e (w.step h a)) (ht : a.thread = t) :
    Access.loadExiting t e false ∈ (w.step h a).log → Stage h t e (w.step h a) := by
  intro hmem
  cases hp : w.phase with
  | running =>
    cases a with
    | raise u _ | postHook u _ | appExit u _ =>
      simp only [Action.thread] at ht; subst ht
      cases hpc : w.pcs u <;> simp only [World.step, hp, start, hpc] at hmem ⊢
      case running =>
        exact absurd (hst (by simpa using hmem)) (not_stage hpc rfl rfl nofun nofun)
      all_goals exact hst hmem
    | advance u =>
      simp only [Action.thread] at ht; subst ht
      cases hpc : w.pcs u with
      | exceptionCheck e' =>
        cases hx : w.fuzzer.exiting <;> simp only [World.step, hp, advance, hpc, hx] at hmem hs ⊢
        · have := hs.only (.loadExiting u e' false) (by simp) rfl
          simp only [Access.loadExiting.injEq, true_and] at this
          simp [Stage, this]
        · exact absurd (hst (by simpa using hmem)) (not_stage hpc rfl rfl nofun nofun)
      | exitProcess status =>
        have hst := hst (by simpa [World.step, hp, advance, hpc] using hmem)
        simp only [Stage, hpc] at hst
        obtain ⟨rfl, hsnap⟩ := hst
        cases hx : w.exitThread <;>
          simpa [World.step, hp, advance, hpc, World.beginExit, hx, Stage] using hsnap
      | exitCheck status =>
        have hst := hst (by
          cases hc : w.fuzzer.crashed <;> simpa [World.step, hp, advance, hpc, hc] using hmem)
        simp only [Stage, hpc, Snapped] at hst
        simp_all [World.step, advance, Stage, Snapped]
      | _ =>
        have hst := hst (by simpa [World.step, hp, advance, hpc] using hmem)
        clear hs hmem
        simp only [Stage, hpc] at hst <;>
          simp_all [World.step, advance, Stage, Snapped, Fuzzer.setCrashed, Fuzzer.snapThreadId,
            Fuzzer.snapContext, Fuzzer.snapRecord, ExceptionCtx.ofException, finishExit_eq]
  | _ => simp only [World.step, hp] at hmem ⊢; exact hst hmem

/-- One step keeps "once `t`'s check of `e` has passed, `t` is at a stage". -/
theorem stage_step {h : Host fuzzArenaSize} {w : World fuzzArenaSize} (hw : Wf w) (a : Action)
    {t : Nat} {e : DrException} (hst : Access.loadExiting t e false ∈ w.log → Stage h t e w)
    (hs : Sole t e (w.step h a)) :
    Access.loadExiting t e false ∈ (w.step h a).log → Stage h t e (w.step h a) := by
  by_cases ht : a.thread = t
  · exact stage_self hst hs ht
  · intro hmem
    obtain ⟨hc, hx⟩ := step_snapshot hw hs
    rw [stage_congr (step_pcs_of_ne h w (Ne.symm ht)) (hc.resolve_right fun h' => ht h'.1)
      (hx.resolve_right fun h' => ht h'.1) fun st hpc => step_minidump hw fun hx' =>
        ht (Option.some.inj (hx'.symm.trans (hw.exitThread_of_inExit t (by rw [hpc]; rfl))))]
    obtain ⟨l, hl, hthr⟩ := step_log_thread h w a
    rw [hl, List.mem_append] at hmem
    exact hst (hmem.resolve_right fun hin => ht (hthr _ hin).symm)

/-! ## The exit after the capture -/

/-- The first store of a record by `u` is `u`'s last capture step. -/
theorem step_storeRecord {h : Host fuzzArenaSize} {w : World fuzzArenaSize} {a : Action} {u : Nat}
    {x : ExceptionRecord} (hin : Access.storeRecord u x ∈ (w.step h a).log)
    (hout : Access.storeRecord u x ∉ w.log) :
    ∃ e', w.pcs u = .exceptionRecord e' ∧ (w.step h a).pcs u = .exitProcess 1 := by
  obtain ⟨l, hl, hthr⟩ := step_log_thread h w a
  have hu : u = a.thread := by
    rw [hl, List.mem_append] at hin
    exact hthr _ (hin.resolve_left hout)
  cases hp : w.phase with
  | running =>
    cases a with
    | raise v _ | postHook v _ | appExit v _ =>
      simp only [World.step, hp, start] at hin
      split at hin <;> simp [hout] at hin
    | advance v =>
      simp only [Action.thread] at hu; subst hu
      cases hpc : w.pcs u <;> simp only [World.step, hp, advance, hpc] at hin ⊢
      case exceptionRecord e' => exact ⟨e', rfl, by simp⟩
      case exceptionCheck e' | exitCheck status => split at hin <;> simp [hout] at hin
      all_goals simp [hout, finishExit_eq] at hin
  | _ => simp only [World.step, hp] at hin; exact absurd hin hout

/-- `t` has stored `e`'s record only once the snapshot was all `e`'s. -/
def Recorded (t : Nat) (e : DrException) (w : World fuzzArenaSize) : Prop :=
  Access.storeRecord t e.record ∈ w.log → Snapped e w

theorem recorded_step {h : Host fuzzArenaSize} {w : World fuzzArenaSize} (hw : Wf w) {a : Action}
    {t : Nat} {e : DrException} (hs : Sole t e (w.step h a))
    (hst : Access.loadExiting t e false ∈ (w.step h a).log → Stage h t e (w.step h a))
    (hrec : Recorded t e w) : Recorded t e (w.step h a) := by
  intro hin
  by_cases hold : Access.storeRecord t e.record ∈ w.log
  · exact snapped_step hw hs (hrec hold)
  · obtain ⟨e', hpc, hpc'⟩ := step_storeRecord hin hold
    have hchk := (step_log_extends h w a).subset (hw.capture_logged t e' (by rw [hpc]; rfl))
    have hst := hst (hs.only _ hchk rfl ▸ hchk)
    simp only [Stage, hpc'] at hst
    exact hst.2

/-- Every store of `exiting` in `log` comes after `t`'s store of `e`'s record. -/
def RecordFirst (t : Nat) (e : DrException) (log : List Access) : Prop :=
  ∀ l₁ l₂ u, log = l₁ ++ .storeExiting u :: l₂ → Access.storeRecord t e.record ∈ l₁

theorem RecordFirst.of_prefix {t : Nat} {e : DrException} {log log' : List Access}
    (h : RecordFirst t e log') (hl : log <+: log') : RecordFirst t e log := by
  obtain ⟨r, rfl⟩ := hl
  intro l₁ l₂ u hlog
  exact h l₁ (l₂ ++ r) u (by rw [hlog, List.append_assoc, List.cons_append])

/-- How far a thread `u` inside `on_dr_exit` has got past the latch, when `e`'s snapshot was
complete by then: the snapshot is `e`'s, and at the end the dump is. -/
def ExitStage (h : Host fuzzArenaSize) (e : DrException) (w : World fuzzArenaSize) (u : Nat) :
    Prop :=
  match w.pcs u with
  | .exitCheck _ | .exitDump _ => Snapped e w
  | .exitFinish _ => Snapped e w ∧ w.minidump = some (h.exitEnv.initialDumpPath, .ofException e)
  | _ => True

/-- Once every latch came after `t`'s store of `e`'s record, every thread in `on_dr_exit` is at
its `ExitStage`. -/
def Dumps (h : Host fuzzArenaSize) (t : Nat) (e : DrException) (w : World fuzzArenaSize) : Prop :=
  RecordFirst t e w.log → ∀ u, ExitStage h e w u

/-- A step of the exit thread itself: its latch comes after `t`'s record, so its check finds
`crashed` set and it dumps `e`'s snapshot. -/
theorem exitStage_self {h : Host fuzzArenaSize} {w : World fuzzArenaSize} {a : Action} {t : Nat}
    {e : DrException} (hrf : RecordFirst t e (w.step h a).log) (hrec : Recorded t e w)
    (hd : ExitStage h e w a.thread) (hsn : Snapped e w → Snapped e (w.step h a)) :
    ExitStage h e (w.step h a) a.thread := by
  cases hp : w.phase with
  | running =>
    cases a with
    | raise u _ =>
      unfold ExitStage at hd ⊢
      cases hpc : w.pcs u <;> simp only [Action.thread, World.step, hp, start, hpc] at hd ⊢
      case running => simp
      all_goals exact hd
    | postHook u hook =>
      unfold ExitStage at hd ⊢
      cases hpc : w.pcs u <;> simp only [Action.thread, World.step, hp, start, hpc] at hd ⊢
      case running => cases hi : hook.mutateInfo <;> simp [beginHook, hi, hpc]
      all_goals exact hd
    | appExit u status =>
      unfold ExitStage at hd ⊢
      cases hpc : w.pcs u <;> simp only [Action.thread, World.step, hp, start, hpc] at hd ⊢
      case running =>
        simp only [beginExit_eq, Function.update_same]
        by_cases hx : w.exitThread = none <;> simp [hx]
      all_goals exact hd
    | advance u =>
      simp only [Action.thread] at hd ⊢
      unfold ExitStage at hd ⊢
      cases hpc : w.pcs u <;> simp only [hpc] at hd
      case exitLatch status =>
        have hsnap : Snapped e w :=
          hrec (hrf w.log [] u (by simp [World.step, hp, advance, hpc]))
        have hnew : (w.step h (.advance u)).pcs u = .exitCheck status := by
          simp only [World.step, hp, advance, hpc, note_pcs, move_pcs, setFuzzer_pcs,
            Function.update_same]
        rw [hnew]; exact hsn hsnap
      case exitCheck status =>
        have hnew : (w.step h (.advance u)).pcs u = .exitDump status := by
          simp [World.step, hp, advance, hpc, hd.1]
        rw [hnew]; exact hsn hd
      case exitDump status =>
        have hnew : (w.step h (.advance u)).pcs u = .exitFinish status := by
          simp only [World.step, hp, advance, hpc, note_pcs, move_pcs, Function.update_same]
        have hm : (w.step h (.advance u)).minidump =
            some (h.exitEnv.initialDumpPath, .ofException e) := by
          simp [World.step, hp, advance, hpc, hd.2]
        rw [hnew]; exact ⟨hsn hd, hm⟩
      case exitFinish status =>
        have hnew : (w.step h (.advance u)).pcs u = .exitFinish status := by
          simp [World.step, hp, advance, hpc, finishExit_eq]
        have hm : (w.step h (.advance u)).minidump = w.minidump := by
          simp [World.step, hp, advance, hpc, finishExit_eq]
        rw [hnew, hm]; exact ⟨hsn hd.1, hd.2⟩
      case exceptionCheck e' =>
        by_cases hx : w.fuzzer.exiting = true <;> simp [World.step, hp, advance, hpc, hx]
      case exitProcess status =>
        simp only [World.step, hp, advance, hpc, beginExit_eq, Function.update_same]
        by_cases hx : w.exitThread = none <;> simp [hx]
      case mutateRest info env count =>
        simp only [World.step, hp, advance, hpc, move_pcs, setFuzzer_pcs, Function.update_same]
        by_cases hr : (mutateFrom w.fuzzer (buildMutation info count) env).2 = true <;> simp [hr]
      all_goals simp only [World.step, hp, advance, hpc, note_pcs, move_pcs, setFuzzer_pcs,
        Function.update_same]
  | _ => simp only [World.step, hp]; exact hd

theorem dumps_step {h : Host fuzzArenaSize} {w : World fuzzArenaSize} (hw : Wf w) {a : Action}
    {t : Nat} {e : DrException} (hs : Sole t e (w.step h a)) (hrec : Recorded t e w)
    (hd : Dumps h t e w) : Dumps h t e (w.step h a) := by
  intro hrf u
  have hd := hd (hrf.of_prefix (step_log_extends h w a)) u
  have hsn : Snapped e w → Snapped e (w.step h a) := snapped_step hw hs
  by_cases hu : u = a.thread
  · subst hu; exact exitStage_self hrf hrec hd hsn
  · unfold ExitStage at hd ⊢
    rw [step_pcs_of_ne h w hu]
    cases hpc : w.pcs u <;> simp only [hpc] at hd ⊢
    · exact hsn hd
    · exact hsn hd
    · refine ⟨hsn hd.1, ?_⟩
      rw [step_minidump hw fun hx => hu (Option.some.inj
        ((hw.exitThread_of_inExit u (by rw [hpc]; rfl)).symm.trans hx)), hd.2]

/-- **The capture along a run**, under `Sole` of its end: `t` is at its stage from its check
on, its record store finds the snapshot complete, and an exit latched after that store dumps
`e`'s snapshot. -/
theorem capture_run {h : Host fuzzArenaSize} {t : Nat} {e : DrException} {w : World fuzzArenaSize}
    (hw : Wf w) (hst : Access.loadExiting t e false ∈ w.log → Stage h t e w)
    (hrec : Recorded t e w) (hd : Dumps h t e w) (acts : List Action)
    (hs : Sole t e (w.run h acts)) :
    (Access.loadExiting t e false ∈ (w.run h acts).log → Stage h t e (w.run h acts)) ∧
      Recorded t e (w.run h acts) ∧ Dumps h t e (w.run h acts) := by
  induction acts generalizing w with
  | nil => exact ⟨hst, hrec, hd⟩
  | cons a acts ih =>
    have hs₁ := Sole.of_run acts hs
    have hst₁ := stage_step hw a hst hs₁
    exact ih (hw.step h a) hst₁ (recorded_step hw hs₁ hst₁ hrec) (dumps_step hw hs₁ hrec hd) hs

end World

/-- **A single crash is dumped exactly.**  In any reachable world, with any number of threads
interleaved in any order: if the check of `exiting` by `on_exception` for `e` in thread `t` is
the only one that passed, no mutation failed, the process exit was begun by `t` or its latch
came after `t`'s last capture store, and `on_dr_exit` has run to its end, then `crashed` is
set, the snapshot is `e`'s, and the dump handed `MiniDumpWriteDump` carries `e`'s thread id,
context and record; the exit status is 1 when `t` began the exit. -/
theorem single_capture_dump {fuzzArenaSize : Nat} {h : Host fuzzArenaSize}
    {w : World fuzzArenaSize} (hr : w.Reachable h) {t : Nat} {e : DrException} {status : Nat}
    {report : ExitReport} (hpass : w.log.filter Access.passesCheck = [.loadExiting t e false])
    (hclear : ∀ x ∈ w.log, x.clearsCrashed = false)
    (hexit : w.exitThread = some t ∨
      ∀ l₁ l₂ u, w.log = l₁ ++ .storeExiting u :: l₂ → Access.storeRecord t e.record ∈ l₁)
    (hend : w.phase = .exited status report) :
    (w.exitThread = some t → status = 1) ∧ w.fuzzer.crashed = true ∧
      w.fuzzer.fuzzExceptionCtx = .ofException e ∧
      report.minidump = some (h.exitEnv.initialDumpPath, .ofException e) := by
  obtain ⟨s, acts, rfl⟩ := hr
  have hs : World.Sole t e ((World.init s).run h acts) :=
    ⟨fun x hx hp => List.mem_singleton.1 (hpass ▸ List.mem_filter.2 ⟨hx, hp⟩), hclear⟩
  have hmem : Access.loadExiting t e false ∈ ((World.init s).run h acts).log :=
    (List.mem_filter.1 (hpass ▸ List.mem_singleton_self _ : _ ∈ List.filter _ _)).1
  obtain ⟨hst, -, hd⟩ := World.capture_run (World.wf_init s) (by simp [World.init])
    (by simp [World.Recorded, World.init]) (fun _ u => by simp [World.ExitStage, World.init])
    acts hs
  obtain ⟨hrep, u, hu, hpc⟩ := (World.wf_run h s acts).of_exited status report hend
  by_cases hut : u = t
  · subst hut
    have hst := hst hmem
    simp only [World.Stage, hpc] at hst
    obtain ⟨rfl, ⟨hc, hx⟩, hm⟩ := hst
    exact ⟨fun _ => rfl, hc, hx, hrep.trans hm⟩
  · have hne : ((World.init s).run h acts).exitThread ≠ some t := fun ht =>
      hut (Option.some.inj (hu.symm.trans ht))
    have hd := hd (hexit.resolve_left hne) u
    simp only [World.ExitStage, hpc] at hd
    obtain ⟨⟨hc, hx⟩, hm⟩ := hd
    exact ⟨fun ht => absurd ht hne, hc, hx, hrep.trans hm⟩

/-! ## Runs of two threads -/

/-- The globals right after `dr_client_main` for `sampleHost`, in non-guided mode. -/
def sampleStart : Fuzzer 4 := startFuzzer sampleOptions sampleHost

/-- An access violation at `0x401000`, in the thread with id 7. -/
def accessViolation : DrException := ⟨7, 100, ⟨0xC0000005, 0x401000#64⟩⟩

/-- An integer division by zero at `0x402000`, in the thread with id 9. -/
def divideByZero : DrException := ⟨9, 200, ⟨0xC0000094, 0x402000#64⟩⟩

/-- A sane, targeted `ReadFile` of 16 bytes; the server answers its registration with
`registerResponse`. -/
def sampleRead (registerResponse : SL2Response) : PostHook :=
  .generic ⟨⟨0, some "input.txt", 0, 16, some 16, 0x5000#64, none⟩, true, true, 1#64,
    ⟨.ok, 0, 3, registerResponse⟩⟩

/-- Thread 0 faults while thread 1 mutates a buffer with success; thread 0 captures, exits and
runs `on_dr_exit` to its end. -/
def crashDuringMutation : World 4 :=
  (World.init sampleStart).run sampleHost
    [.postHook 1 (sampleRead .ok), .advance 1, .raise 0 accessViolation, .advance 0, .advance 1,
      .advance 0, .advance 1, .advance 0, .advance 0, .advance 0, .advance 0, .advance 0,
      .advance 0, .advance 0, .advance 0]

theorem single_capture_dump_sample :
    crashDuringMutation.Reachable sampleHost ∧
      crashDuringMutation.log.filter Access.passesCheck = [.loadExiting 0 accessViolation false] ∧
      (∀ x ∈ crashDuringMutation.log, x.clearsCrashed = false) ∧
      crashDuringMutation.exitThread = some 0 ∧
      crashDuringMutation.phase =
        .exited 1 ⟨some (sampleHost.exitEnv.initialDumpPath, .ofException accessViolation), none⟩ ∧
      ((crashDuringMutation.exitThread = some 0 → 1 = 1) ∧
        crashDuringMutation.fuzzer.crashed = true ∧
        crashDuringMutation.fuzzer.fuzzExceptionCtx = .ofException accessViolation ∧
        some (sampleHost.exitEnv.initialDumpPath, ExceptionCtx.ofException accessViolation) =
          some (sampleHost.exitEnv.initialDumpPath, .ofException accessViolation)) := by
  have hr : crashDuringMutation.Reachable sampleHost := ⟨_, _, rfl⟩
  have hp : crashDuringMutation.log.filter Access.passesCheck =
      [.loadExiting 0 accessViolation false] := by decide
  have hc : ∀ x ∈ crashDuringMutation.log, x.clearsCrashed = false := by decide
  have hx : crashDuringMutation.exitThread = some 0 := by decide
  have he : crashDuringMutation.phase =
      .exited 1 ⟨some (sampleHost.exitEnv.initialDumpPath, .ofException accessViolation),
        none⟩ := by
    decide
  exact ⟨hr, hp, hc, hx, he, single_capture_dump hr hp hc (.inl hx) he⟩

/-- Thread 0 faults and completes its capture; thread 1, still in target code, then exits with
status 0 and runs `on_dr_exit` to its end while thread 0 waits at `dr_exit_process(1)`.  The dump
is thread 0's exception, the status thread 1's. -/
def lateExit : List Action :=
  [.raise 0 accessViolation, .advance 0, .advance 0, .advance 0, .advance 0, .advance 0,
    .appExit 1 0, .advance 1, .advance 1, .advance 1, .advance 1]

example : ((World.init sampleStart).run sampleHost lateExit).phase =
    .exited 0 ⟨some (sampleHost.exitEnv.initialDumpPath, .ofException accessViolation), none⟩ := by
  decide

/-- Two faults whose checks both come before the latch.  Thread 1 completes the capture of its
division by zero; thread 0, which had passed its check first, then stores its context and record
over it; thread 0 runs `on_dr_exit`. -/
def tornSnapshot : List Action :=
  [.raise 0 accessViolation, .raise 1 divideByZero, .advance 0, .advance 1, .advance 0, .advance 0,
    .advance 1, .advance 1, .advance 1, .advance 1, .advance 0, .advance 0, .advance 0, .advance 0,
    .advance 0, .advance 0, .advance 0]

/-- Thread 1's registration is refused; thread 0 faults and completes its capture; thread 1
then stores `crashed = false`; thread 0 runs `on_dr_exit`. -/
def clearedCrash : List Action :=
  [.postHook 1 (sampleRead .error), .advance 1, .advance 1, .advance 1, .raise 0 accessViolation,
    .advance 0, .advance 0, .advance 0, .advance 0, .advance 0, .advance 1, .advance 0, .advance 0,
    .advance 0, .advance 0]

/-- **Neither the snapshot nor `crashed` is safe after a capture.**  In `tornSnapshot` the dump
carries the thread id of the division by zero, whose capture was complete, with the context and
record of the access violation: it is neither exception.  In `clearedCrash` the capture of the
access violation is complete, yet `on_dr_exit` writes no dump. -/
theorem snapshot_overwritten :
    ((World.init sampleStart).run sampleHost tornSnapshot).phase =
        .exited 1 ⟨some (sampleHost.exitEnv.initialDumpPath,
          ⟨divideByZero.threadId, accessViolation.mcontext, accessViolation.record⟩), none⟩ ∧
      ((World.init sampleStart).run sampleHost clearedCrash).phase = .exited 1 ⟨none, none⟩ := by
  decide

namespace World

variable {fuzzArenaSize : Nat}

/-! ## The latch -/

/-- `exiting` is set and no capture is in flight. -/
def Settled (w : World fuzzArenaSize) : Prop :=
  w.fuzzer.exiting = true ∧ ∀ u, (w.pcs u).capturing = none

theorem capturing_update {pcs : Nat → ThreadPc} (hq : ∀ u, (pcs u).capturing = none) (t : Nat)
    {pc : ThreadPc} (hpc : pc.capturing = none) (u : Nat) :
    (Function.update pcs t pc u).capturing = none := by
  rw [Function.update_apply]; split
  · exact hpc
  · exact hq u

/-- What a step after the latch does: it keeps the latch and the quiet, leaves the snapshot
alone, writes at most the snapshot as the dump, and lets no check pass. -/
def SettledStep (h : Host fuzzArenaSize) (w w' : World fuzzArenaSize) : Prop :=
  Settled w' ∧ w'.fuzzer.fuzzExceptionCtx = w.fuzzer.fuzzExceptionCtx ∧
    (w'.minidump = w.minidump ∨
      w'.minidump = some (h.exitEnv.initialDumpPath, w.fuzzer.fuzzExceptionCtx)) ∧
    w'.log.countP Access.passesCheck = w.log.countP Access.passesCheck

/-- Beginning the process exit after the latch, in a callback or through `dr_exit_process`. -/
theorem settledStep_beginExit {h : Host fuzzArenaSize} {w : World fuzzArenaSize} (hs : Settled w)
    (u status : Nat) : SettledStep h w (w.beginExit u status) := by
  refine ⟨⟨by simp [hs.1], ?_⟩, by simp, .inl (by simp), by simp⟩
  rw [(beginExit_eq w u status).2]
  exact capturing_update hs.2 u (by split <;> rfl)

theorem settled_step {h : Host fuzzArenaSize} {w : World fuzzArenaSize} (hs : Settled w)
    (a : Action) : SettledStep h w (w.step h a) := by
  obtain ⟨hx, hq⟩ := hs
  cases hp : w.phase with
  | running =>
    cases a with
    | raise u e =>
      simp only [World.step, hp, start]; split
      · exact ⟨⟨hx, capturing_update hq u rfl⟩, rfl, .inl rfl, rfl⟩
      · exact ⟨⟨hx, hq⟩, rfl, .inl rfl, rfl⟩
    | postHook u hook =>
      simp only [World.step, hp, start, beginHook]; split
      · split
        · exact ⟨⟨hx, capturing_update hq u rfl⟩, rfl, .inl rfl, rfl⟩
        · next hi =>
          have hf := (PostHook.run_of_mutateInfo_none hi w.fuzzer).1
          refine ⟨⟨?_, hq⟩, ?_, .inl rfl, rfl⟩ <;> rw [setFuzzer_fuzzer, hf] <;> split <;> simp [hx]
      · exact ⟨⟨hx, hq⟩, rfl, .inl rfl, rfl⟩
    | appExit u status =>
      simp only [World.step, hp, start]; split
      · exact settledStep_beginExit ⟨hx, hq⟩ u status
      · exact ⟨⟨hx, hq⟩, rfl, .inl rfl, rfl⟩
    | advance u =>
      cases hpc : w.pcs u with
      | exceptionCrashed e | exceptionThreadId e | exceptionContext e | exceptionRecord e =>
        simpa [hpc, ThreadPc.capturing] using hq u
      | exceptionCheck e =>
        simp only [World.step, hp, advance, hpc]
        rw [if_pos hx]
        exact ⟨⟨hx, hq⟩, rfl, .inl rfl, by simp [Access.passesCheck]⟩
      | exitProcess status =>
        simp only [World.step, hp, advance, hpc]; exact settledStep_beginExit ⟨hx, hq⟩ u status
      | exitCheck status =>
        simp only [World.step, hp, advance, hpc]
        split <;> exact ⟨⟨by simp [hx], capturing_update hq u rfl⟩, rfl, .inl rfl,
          by simp [Access.passesCheck]⟩
      | exitDump status =>
        simp only [World.step, hp, advance, hpc]
        exact ⟨⟨hx, capturing_update hq u rfl⟩, rfl, .inr rfl, by simp [Access.passesCheck]⟩
      | exitFinish status =>
        simp only [World.step, hp, advance, hpc, finishExit_eq]
        exact ⟨⟨hx, hq⟩, rfl, .inl rfl, rfl⟩
      | mutateRest info env count =>
        simp only [World.step, hp, advance, hpc]
        refine ⟨⟨?_, capturing_update hq u (by split <;> rfl)⟩, ?_, .inl rfl, rfl⟩ <;>
          simp [mutateFrom_spec, hx]
      | running | halted =>
        simp only [World.step, hp, advance, hpc]; exact ⟨⟨hx, hq⟩, rfl, .inl rfl, rfl⟩
      | _ =>
        simp only [World.step, hp, advance, hpc]
        exact ⟨⟨by simp [hx], capturing_update hq u (by rfl)⟩, rfl, .inl rfl,
          by simp [Access.passesCheck]⟩
  | _ => simp only [World.step, hp]; exact ⟨⟨hx, hq⟩, rfl, .inl rfl, rfl⟩

/-- **The latch.**  Once `exiting` is set and no capture is in flight, in any interleaving from
then on: `exiting` stays set and no capture starts, since every `on_exception` that checks
aborts; the snapshot never changes; and a dump written from then on is that snapshot. -/
theorem settled_run (h : Host fuzzArenaSize) {w : World fuzzArenaSize} (hs : Settled w)
    (acts : List Action) :
    Settled (w.run h acts) ∧
      (w.run h acts).fuzzer.fuzzExceptionCtx = w.fuzzer.fuzzExceptionCtx ∧
      ((w.run h acts).minidump = w.minidump ∨
        (w.run h acts).minidump = some (h.exitEnv.initialDumpPath, w.fuzzer.fuzzExceptionCtx)) ∧
      (w.run h acts).log.countP Access.passesCheck = w.log.countP Access.passesCheck := by
  induction acts generalizing w with
  | nil => exact ⟨hs, rfl, .inl rfl, rfl⟩
  | cons a acts ih =>
    obtain ⟨hs₁, hx₁, hm₁, hc₁⟩ := settled_step (h := h) hs a
    obtain ⟨hs₂, hx₂, hm₂, hc₂⟩ := ih hs₁
    rw [run_cons]
    refine ⟨hs₂, hx₂.trans hx₁, ?_, hc₂.trans hc₁⟩
    rw [hx₁] at hm₂
    rcases hm₂ with hm₂ | hm₂
    · exact hm₂ ▸ hm₁
    · exact .inr hm₂

end World


/-- Thread 0 faults, captures, and sets the latch in `on_dr_exit`. -/
def latched : World 4 :=
  (World.init sampleStart).run sampleHost
    [.raise 0 accessViolation, .advance 0, .advance 0, .advance 0, .advance 0, .advance 0,
      .advance 0, .advance 0]

/-- After the latch: thread 0 checks `crashed` and writes the dump; thread 1 faults, and its
`on_exception` aborts. -/
def afterLatch : List Action := [.advance 0, .advance 0, .raise 1 divideByZero, .advance 1]

theorem settled_run_latched :
    World.Settled latched ∧
      World.Settled (latched.run sampleHost afterLatch) ∧
      (latched.run sampleHost afterLatch).fuzzer.fuzzExceptionCtx =
        latched.fuzzer.fuzzExceptionCtx ∧
      ((latched.run sampleHost afterLatch).minidump = latched.minidump ∨
        (latched.run sampleHost afterLatch).minidump =
          some (sampleHost.exitEnv.initialDumpPath, latched.fuzzer.fuzzExceptionCtx)) ∧
      (latched.run sampleHost afterLatch).log.countP Access.passesCheck =
        latched.log.countP Access.passesCheck := by
  have hs : World.Settled latched := by
    refine ⟨by decide, fun u => ?_⟩
    by_cases hu : u = 0
    · subst hu; decide
    · rw [latched, World.run_pcs_of_ne _ _ (by simp [Action.thread, hu])]; rfl
  exact ⟨hs, World.settled_run sampleHost hs afterLatch⟩

end SiennaLocomotive
