import SiennaLocomotive.Threads.Model

/-!
# One callback at a time: the threads model refines `Session`

`Session` runs each callback to its end before the next event; `Threads.Model` splits the same
callbacks into atomic steps.  This file connects the two: deliver an event to some thread and
let that thread alone step until its callback is over, and the globals and the phase come out as
`Session.step` computes them (`serial_step`); so a whole run of callbacks, delivered one at a
time, ends where the session's run ends (`serial_run`, `drClientMain_serial`).  Module events
and blocks are not part of the threads model, which follows only the callbacks that share
`crashed`, `exiting`, `fuzz_exception_ctx` and `mut_count`.

Each callback takes at most ten steps after the one that starts it: five for the capture in
`on_exception`, three for `mutate` and two more on its failure, one for `dr_exit_process`, and
four for `on_dr_exit`.  Steps of a thread back in target code, or of a process that is over,
change nothing, so `Event.serial` simply gives every callback ten.
-/

set_option autoImplicit false

namespace SiennaLocomotive

/-- The events of `Session` that the threads model has: the callbacks. -/
def Event.isCallback : Event → Bool
  | .exception _ => true
  | .postGeneric _ => true
  | .postMapViewOfFile _ _ => true
  | .appExit _ => true
  | _ => false

/-- The actions that deliver `ev` to thread `t` and let `t` run its callback to the end. -/
def Event.serial (t : Nat) : Event → List Action
  | .exception e => .raise t e :: List.replicate 10 (.advance t)
  | .postGeneric c => .postHook t (.generic c) :: List.replicate 10 (.advance t)
  | .postMapViewOfFile c v => .postHook t (.mapViewOfFile c v) :: List.replicate 10 (.advance t)
  | .appExit status => .appExit t status :: List.replicate 10 (.advance t)
  | _ => []

/-- Each event delivered to its thread, one callback at a time. -/
def serialize : List (Nat × Event) → List Action
  | [] => []
  | (t, ev) :: evs => ev.serial t ++ serialize evs

namespace World

variable {fuzzArenaSize : Nat} (h : Host fuzzArenaSize)

/-! ## One thread alone -/

/-- The steps of a thread in target code change nothing. -/
theorem run_advance_of_running {w : World fuzzArenaSize} {t : Nat} (hpc : w.pcs t = .running)
    (k : Nat) : w.run h (List.replicate k (.advance t)) = w := by
  induction k with
  | zero => rfl
  | succ k ih =>
    have hs : w.step h (.advance t) = w := by
      unfold step; split
      · simp [advance, hpc]
      · rfl
    rw [List.replicate_succ, run_cons, hs, ih]

/-- The four steps of `on_dr_exit` compute `onDrExit`. -/
theorem run_exit {w : World fuzzArenaSize} {t status : Nat} (hp : w.phase = .running)
    (hpc : w.pcs t = .exitLatch status) (hm : w.minidump = none) :
    (w.run h (List.replicate 4 (.advance t))).fuzzer = (onDrExit w.fuzzer h.pid h.exitEnv).1 ∧
      (w.run h (List.replicate 4 (.advance t))).phase =
        .exited status (onDrExit w.fuzzer h.pid h.exitEnv).2 := by
  obtain ⟨h₁, h₂⟩ := onDrExit_spec w.fuzzer h.pid h.exitEnv
  rw [h₁, h₂]
  cases hc : w.fuzzer.crashed <;>
    simp [List.replicate, step, hp, advance, hpc, hc, hm, finishExit_eq, exitRequests, Fuzzer.send]

/-- The five steps of an `on_exception` that finds `exiting` clear make the capture, and the
sixth, `dr_exit_process(1)`, begins the exit in the same thread. -/
theorem run_capture {w : World fuzzArenaSize} {t : Nat} {e : DrException}
    (hp : w.phase = .running) (hpc : w.pcs t = .exceptionCheck e)
    (hx : w.fuzzer.exiting = false) (he : w.exitThread = none) :
    w.run h (List.replicate 6 (.advance t)) =
      { w with
        fuzzer := w.fuzzer.capture e
        pcs := Function.update w.pcs t (.exitLatch 1)
        exitThread := some t
        log := w.log ++ [.loadExiting t e false, .storeCrashed t true,
          .storeThreadId t e.threadId, .storeThreadCtx t e.mcontext, .storeRecord t e.record] } := by
  simp [List.replicate, step, hp, advance, hpc, hx, he, beginExit, move, note, setFuzzer,
    Fuzzer.capture]

/-- The three steps of `mutate` compute `mutate`. -/
theorem run_mutate {w : World fuzzArenaSize} {t : Nat} {info : ClientReadInfo} {env : MutateEnv}
    (hp : w.phase = .running) (hpc : w.pcs t = .mutateLoad info env) :
    w.run h (List.replicate 3 (.advance t)) =
      { w with
        fuzzer := (mutate w.fuzzer info env).1
        pcs := Function.update w.pcs t
          (if (mutate w.fuzzer info env).2 then .running else .mutateFailed)
        log := w.log ++ [.loadMutCount t w.fuzzer.mutCount,
          .storeMutCount t w.fuzzer.mutCount w.fuzzer.mutCount] } := by
  simp [List.replicate, step, hp, advance, hpc, mutate, move, note, setFuzzer]

/-- After a failed `mutate`, `crashed = false` and `dr_exit_process(1)` begin the exit. -/
theorem run_mutateFailed {w : World fuzzArenaSize} {t : Nat} (hp : w.phase = .running)
    (hpc : w.pcs t = .mutateFailed) (he : w.exitThread = none) :
    w.run h (List.replicate 2 (.advance t)) =
      { w with
        fuzzer := { w.fuzzer with crashed := false }
        pcs := Function.update w.pcs t (.exitLatch 1)
        exitThread := some t
        log := w.log ++ [.storeCrashed t false] } := by
  simp [List.replicate, step, hp, advance, hpc, he, beginExit, move, note, setFuzzer]

/-! ## Between two callbacks -/

/-- A world between two callbacks that matches the session `s`: the same globals and phase,
and, while the process runs, every thread in target code, no exit begun and no dump. -/
def Serial (w : World fuzzArenaSize) (s : Session fuzzArenaSize) : Prop :=
  w.fuzzer = s.fuzzer ∧ w.phase = s.phase ∧
    (w.phase = .running → (∀ u, w.pcs u = .running) ∧ w.exitThread = none ∧ w.minidump = none)

variable {h}

/-- `on_dr_exit` run in thread `t` from a world between callbacks ends where `exitWith` does. -/
theorem serial_exit {w : World fuzzArenaSize} {s : Session fuzzArenaSize} {t status : Nat}
    {f : Fuzzer fuzzArenaSize} (hp : w.phase = .running) (hpc : w.pcs t = .exitLatch status)
    (hm : w.minidump = none) (hf : w.fuzzer = f) (k : Nat) :
    Serial (w.run h (List.replicate (4 + k) (.advance t))) (s.exitWith h f status) := by
  obtain ⟨h₁, h₂⟩ := run_exit h hp hpc hm
  rw [List.replicate_add, run_append, run_of_ne_running (by rw [h₂]; nofun), ← hf]
  exact ⟨h₁, h₂, by rw [h₂]; nofun⟩

/-- An exception delivered between callbacks: the session's `on_exception`. -/
theorem serial_exception {w : World fuzzArenaSize} {s : Session fuzzArenaSize} (hs : Serial w s)
    (hp : w.phase = .running) (t : Nat) (e : DrException) :
    Serial (w.run h (.raise t e :: List.replicate 10 (.advance t))) (s.onException h e) := by
  obtain ⟨hf, hph, hr⟩ := hs
  obtain ⟨hpcs, hx, hm⟩ := hr hp
  have hstart : w.step h (.raise t e) = w.move t (.exceptionCheck e) := by
    simp [step, hp, start, hpcs t]
  rw [run_cons, hstart]
  unfold Session.onException
  rw [← hf]
  cases hex : w.fuzzer.exiting
  · rw [if_neg (by simp), show 10 = 6 + (4 + 0) from rfl, List.replicate_add, run_append,
      run_capture h (e := e) (by simp [hp]) (by simp) (by simp [hex]) (by simp [hx])]
    exact serial_exit (by simp [hp]) (by simp) (by simp [hm]) rfl 0
  · have habort : (w.move t (.exceptionCheck e)).step h (.advance t) =
        { (w.move t (.exceptionCheck e)).note (.loadExiting t e true) with phase := .aborted } := by
      simp [step, hp, advance, hex]
    rw [if_pos rfl, List.replicate_succ, run_cons, habort, run_of_ne_running (by simp)]
    exact ⟨by simp [hf], by simp, nofun⟩

/-- A post-hook delivered between callbacks: the session's `afterHook` of the whole hook. -/
theorem serial_hook {w : World fuzzArenaSize} {s : Session fuzzArenaSize} (hs : Serial w s)
    (hp : w.phase = .running) (t : Nat) (hook : PostHook) :
    Serial (w.run h (.postHook t hook :: List.replicate 10 (.advance t)))
      (s.afterHook h (hook.run s.fuzzer)) := by
  obtain ⟨hf, hph, hr⟩ := hs
  obtain ⟨hpcs, hx, hm⟩ := hr hp
  rw [← hf]
  cases hi : hook.mutateInfo with
  | none =>
    obtain ⟨-, hres⟩ := PostHook.run_of_mutateInfo_none hi w.fuzzer
    have hstart : w.step h (.postHook t hook) = w.setFuzzer (hook.run w.fuzzer).fuzzer := by
      simp [step, hp, start, hpcs t, beginHook, hi]
    rw [run_cons, hstart, run_advance_of_running h (by simp [hpcs t])]
    simp only [Session.afterHook, hres]
    exact ⟨rfl, by simpa [hp] using hph, fun _ => ⟨by simpa using hpcs, by simpa using hx,
      by simpa using hm⟩⟩
  | some info =>
    rw [PostHook.run_of_mutateInfo hi]
    have hstart : w.step h (.postHook t hook) =
        (w.setFuzzer (w.fuzzer.incrementCallCount hook.call.userData.function)).move t
          (.mutateLoad info hook.call.env) := by
      simp [step, hp, start, hpcs t, beginHook, hi]
    have hpc : ((w.setFuzzer (w.fuzzer.incrementCallCount hook.call.userData.function)).move t
        (.mutateLoad info hook.call.env)).pcs t = .mutateLoad info hook.call.env := by simp
    rw [run_cons, hstart, show 10 = 3 + 7 from rfl, List.replicate_add, run_append,
      run_mutate h (by simp [hp]) hpc]
    cases hr₂ : (mutate (w.fuzzer.incrementCallCount hook.call.userData.function) info
      hook.call.env).2
    · rw [show 7 = 2 + (4 + 1) from rfl, List.replicate_add, run_append,
        run_mutateFailed h (by simp [hp]) (by simp [hr₂]) (by simp [hx])]
      simp only [afterMutate, hr₂, Bool.false_eq_true, if_false, Session.afterHook]
      exact serial_exit (by simp [hp]) (by simp) (by simp [hm]) rfl 1
    · rw [run_advance_of_running h (by simp [hr₂])]
      simp only [afterMutate, hr₂, if_true, Session.afterHook]
      refine ⟨rfl, by simpa [hp] using hph, fun _ => ⟨fun u => ?_, by simpa using hx,
        by simpa using hm⟩⟩
      by_cases hu : u = t
      · subst hu; simp [hr₂]
      · simp [hu, hpcs u]

/-- The target's exit between callbacks: the session's `exitWith`. -/
theorem serial_appExit {w : World fuzzArenaSize} {s : Session fuzzArenaSize} (hs : Serial w s)
    (hp : w.phase = .running) (t status : Nat) :
    Serial (w.run h (.appExit t status :: List.replicate 10 (.advance t)))
      (s.exitWith h s.fuzzer status) := by
  obtain ⟨hf, -, hr⟩ := hs
  obtain ⟨hpcs, hx, hm⟩ := hr hp
  have hstart : w.step h (.appExit t status) =
      { w.move t (.exitLatch status) with exitThread := some t } := by
    simp [step, hp, start, hpcs t, beginExit, hx]
  have hpc : ({ w.move t (.exitLatch status) with exitThread := some t } : World _).pcs t =
      .exitLatch status := by simp
  rw [run_cons, hstart]
  exact serial_exit (by simp [hp]) hpc (by simp [hm]) hf 6

/-- **One callback, alone in its thread, is one step of the session.** -/
theorem serial_step {w : World fuzzArenaSize} {s : Session fuzzArenaSize} (hs : Serial w s)
    (t : Nat) {ev : Event} (hev : ev.isCallback = true) :
    Serial (w.run h (ev.serial t)) (s.step h ev) := by
  cases hp : w.phase with
  | running =>
    have hsp : s.phase = .running := hs.2.1 ▸ hp
    simp only [Session.step, hsp]
    cases ev with
    | exception e => exact serial_exception hs hp t e
    | postGeneric c => exact serial_hook hs hp t (.generic c)
    | postMapViewOfFile c v => exact serial_hook hs hp t (.mapViewOfFile c v)
    | appExit status => exact serial_appExit hs hp t status
    | _ => simp [Event.isCallback] at hev
  | _ =>
    have hsp := hs.2.1
    rw [hp] at hsp
    rw [run_of_ne_running (by simp [hp])]
    simpa [Session.step, ← hsp] using hs

theorem serial_run {w : World fuzzArenaSize} {s : Session fuzzArenaSize} (hs : Serial w s)
    (evs : List (Nat × Event)) (hev : ∀ p ∈ evs, p.2.isCallback = true) :
    Serial (w.run h (serialize evs)) (s.run h (evs.map Prod.snd)) := by
  induction evs generalizing w s with
  | nil => exact hs
  | cons p evs ih =>
    obtain ⟨t, ev⟩ := p
    rw [serialize, run_append]
    exact ih (serial_step hs t (hev _ (List.mem_cons_self _ _)))
      fun q hq => hev q (List.mem_cons_of_mem _ hq)

end World

/-- **The threads model, run one callback at a time, is the session.**  From `dr_client_main`,
delivering each callback event to some thread and letting that thread alone run it to its end
gives the globals and the phase that `Session.run` gives for the same events. -/
theorem drClientMain_serial {fuzzArenaSize : Nat} (o : Options) (h : Host fuzzArenaSize)
    (s : Session fuzzArenaSize) (hstart : drClientMain o h = some s) (evs : List (Nat × Event))
    (hev : ∀ p ∈ evs, p.2.isCallback = true) :
    ((World.init s.fuzzer).run h (serialize evs)).fuzzer = (s.run h (evs.map Prod.snd)).fuzzer ∧
      ((World.init s.fuzzer).run h (serialize evs)).phase = (s.run h (evs.map Prod.snd)).phase := by
  have hs : World.Serial (World.init s.fuzzer) s :=
    ⟨rfl, (drClientMain_eq_some hstart).2.symm, fun _ => ⟨fun _ => rfl, rfl, rfl⟩⟩
  obtain ⟨hf, hp, -⟩ := World.serial_run hs evs hev
  exact ⟨hf, hp⟩


/-- The options of the sample runs: a target list and a run id, no arena. -/
def sampleOptions : Options := ⟨"targets.json", false, "run-1", ""⟩

/-- The session `dr_client_main` starts for `sampleOptions` and `sampleHost`. -/
def sampleSession : Session 4 :=
  ⟨startFuzzer sampleOptions sampleHost, [], [⟨"ReadFile", true⟩], [], .running⟩

/-- A targeted `ReadFile` returns in thread 1, then thread 0 faults. -/
def readThenFault : List (Nat × Event) :=
  [(1, .postGeneric ⟨⟨0, some "input.txt", 0, 16, some 16, 0x5000#64, none⟩, true, true, 1#64,
      ⟨.ok, 0, 3, .ok⟩⟩),
    (0, .exception ⟨7, 100, ⟨0xC0000005, 0x401000#64⟩⟩)]

theorem drClientMain_serial_sample :
    drClientMain sampleOptions sampleHost = some sampleSession ∧
      (∀ p ∈ readThenFault, p.2.isCallback = true) ∧
      ((World.init sampleSession.fuzzer).run sampleHost (serialize readThenFault)).fuzzer =
        (sampleSession.run sampleHost (readThenFault.map Prod.snd)).fuzzer ∧
      ((World.init sampleSession.fuzzer).run sampleHost (serialize readThenFault)).phase =
        (sampleSession.run sampleHost (readThenFault.map Prod.snd)).phase := by
  have hs : drClientMain sampleOptions sampleHost = some sampleSession := rfl
  have hev : ∀ p ∈ readThenFault, p.2.isCallback = true := by decide
  exact ⟨hs, hev, drClientMain_serial sampleOptions sampleHost sampleSession hs readThenFault hev⟩

end SiennaLocomotive
