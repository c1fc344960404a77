import Mathlib.Data.List.Nodup
import SiennaLocomotive.Session

/-!
# What a single-threaded run ends with

This file says what a run of the client leaves, for any options, server replies and events,
when the callbacks run one at a time.

## What is here

* `Session.Handled` — the events a run handled: all of them while the target runs; once it
  has ended, those up to and including the one that ended it (`Handled.unique`: the run
  determines them).  `Session.exists_handled` is the one induction over a run: what holds at the
  start and is carried forward by one event of a running session holds, after any run, of the
  events it handled.
* `outcome_of_run` — **how a run ends.**  `dr_abort` is never reached: `on_exception` finds
  `exiting` set only while `on_dr_exit` runs, and no callback runs then.  A run that has ended was
  ended by one event.  The dump is written exactly when that event is an exception, and then it
  carries that exception's thread id, context and record, with exit status 1; otherwise the
  status is the target's own, or 1 after the server refused the registration of a targeted
  call.
* `registered_numbering` — **the records are numbered in order**: the server receives records
  numbered `0, 1, 2, …` modulo `2^32`, and `mut_count` is their number; so no two share a number
  before `2^32` of them.  `Threads/Counter` shows how interleaved threads break this.
* `arena_of_run` — **the arena counts the blocks run before the exit.**  Nothing but
  `on_module_load` and the inserted increments touches `seen_modules`, the module list or the
  arena (`Session.stepRunning_frame`), so the session's coverage view is `CoverageState.run` of
  its module events and blocks (`Session.run_coverage`); the arena `on_dr_exit` registers holds
  the server's arena plus, in each cell, the blocks charged to it.
-/

set_option autoImplicit false

namespace SiennaLocomotive

variable {fuzzArenaSize : Nat}

/-! ## What the callbacks leave of coverage -/

/-- `f'` agrees with `f` on what coverage reads: the arena, `seen_modules`, and the mode. -/
structure Fuzzer.SameCoverage (f f' : Fuzzer fuzzArenaSize) : Prop where
  arena : f'.arena = f.arena
  seenModules : f'.seenModules = f.seenModules
  coverageGuided : f'.coverageGuided = f.coverageGuided

namespace Fuzzer.SameCoverage

theorem refl (f : Fuzzer fuzzArenaSize) : SameCoverage f f := ⟨rfl, rfl, rfl⟩

theorem trans {f f' f'' : Fuzzer fuzzArenaSize} (h : SameCoverage f f') (h' : SameCoverage f' f'') :
    SameCoverage f f'' :=
  ⟨h'.arena.trans h.arena, h'.seenModules.trans h.seenModules,
    h'.coverageGuided.trans h.coverageGuided⟩

theorem mutate (f : Fuzzer fuzzArenaSize) (info : ClientReadInfo) (env : MutateEnv) :
    SameCoverage f (SiennaLocomotive.mutate f info env).1 := by
  rw [(mutate_spec f info env).1]; exact ⟨rfl, rfl, rfl⟩

theorem afterMutate {f : Fuzzer fuzzArenaSize} {r : Fuzzer fuzzArenaSize × Bool}
    (h : SameCoverage f r.1) (reads : List (InfoField × Bool)) :
    SameCoverage f (SiennaLocomotive.afterMutate r reads).fuzzer := by
  unfold SiennaLocomotive.afterMutate
  split <;> exact ⟨h.arena, h.seenModules, h.coverageGuided⟩

theorem wrapPostGeneric (f : Fuzzer fuzzArenaSize) (c : PostCall) :
    SameCoverage f (SiennaLocomotive.wrapPostGeneric f c).fuzzer := by
  rw [wrapPostGeneric_eq]; split
  · exact afterMutate ((⟨rfl, rfl, rfl⟩ : SameCoverage f (f.incrementCallCount _)).trans
      (mutate _ _ _)) _
  · split <;> exact ⟨rfl, rfl, rfl⟩

theorem wrapPostMapViewOfFile (f : Fuzzer fuzzArenaSize) (c : PostCall) (v : MapView) :
    SameCoverage f (SiennaLocomotive.wrapPostMapViewOfFile f c v).fuzzer := by
  rw [wrapPostMapViewOfFile_eq]; split
  · exact afterMutate ((⟨rfl, rfl, rfl⟩ : SameCoverage f (f.incrementCallCount _)).trans
      (mutate _ _ _)) _
  · split <;> exact ⟨rfl, rfl, rfl⟩

theorem onDrExit (f : Fuzzer fuzzArenaSize) (pid : Nat) (env : ExitEnv) :
    SameCoverage f (SiennaLocomotive.onDrExit f pid env).1 := by
  rw [(onDrExit_spec f pid env).1]; exact ⟨rfl, rfl, rfl⟩

end Fuzzer.SameCoverage

/-- The module events and block executions among a run's events. -/
def Event.coverageEvents : List Event → List (CoverageEvent Nat)
  | [] => []
  | .module e :: evs => .module e :: coverageEvents evs
  | .block a first rest :: evs => .block a first rest :: coverageEvents evs
  | _ :: evs => coverageEvents evs

theorem Event.coverageEvents_cons (e : Event) (evs : List Event) :
    Event.coverageEvents (e :: evs) = Event.coverageEvents [e] ++ Event.coverageEvents evs := by
  cases e <;> rfl

theorem Event.coverageEvents_append (evs evs' : List Event) :
    Event.coverageEvents (evs ++ evs') = Event.coverageEvents evs ++ Event.coverageEvents evs' := by
  induction evs with
  | nil => rfl
  | cons e evs ih =>
    rw [List.cons_append, Event.coverageEvents_cons, ih, Event.coverageEvents_cons e evs,
      List.append_assoc]

theorem CoverageState.run_append {α : Type} (s : CoverageState fuzzArenaSize)
    (evs evs' : List (CoverageEvent α)) : s.run (evs ++ evs') = (s.run evs).run evs' :=
  List.foldl_append _ _ _ _

namespace Session

/-- The module map and the arena of a session: what `CoverageState.run` follows. -/
def coverage (s : Session fuzzArenaSize) : CoverageState fuzzArenaSize :=
  ⟨⟨s.loaded, s.fuzzer.seenModules⟩, s.fuzzer.arena⟩

theorem coverage_congr {s s' : Session fuzzArenaSize} (hl : s'.loaded = s.loaded)
    (hf : s.fuzzer.SameCoverage s'.fuzzer) : s'.coverage = s.coverage := by
  simp only [coverage, hl, hf.arena, hf.seenModules]

theorem step_of_ne_running {h : Host fuzzArenaSize} {s : Session fuzzArenaSize}
    (hp : s.phase ≠ .running) (e : Event) : s.step h e = s := by
  unfold step; split
  · contradiction
  · rfl

theorem run_of_ne_running {h : Host fuzzArenaSize} {s : Session fuzzArenaSize}
    (hp : s.phase ≠ .running) (evs : List Event) : s.run h evs = s := by
  induction evs with
  | nil => rfl
  | cons e evs ih => rw [run, List.foldl_cons, ← run, step_of_ne_running hp, ih]

theorem run_cons (h : Host fuzzArenaSize) (s : Session fuzzArenaSize) (e : Event)
    (evs : List Event) : s.run h (e :: evs) = (s.step h e).run h evs := rfl

theorem run_append_singleton (h : Host fuzzArenaSize) (s : Session fuzzArenaSize)
    (evs : List Event) (e : Event) : s.run h (evs ++ [e]) = (s.run h evs).step h e :=
  List.foldl_append _ _ _ _

/-- `pre` are the events of `evs` that a run from `s` handled: all of them while the target
runs; once the run has ended, those up to and including the one that ended it. -/
structure Handled (h : Host fuzzArenaSize) (s : Session fuzzArenaSize) (evs pre : List Event) :
    Prop where
  /-- The handled events come first. -/
  initial : pre <+: evs
  /-- While the target runs, every event was handled. -/
  all_of_running : (s.run h evs).phase = .running → pre = evs
  /-- Once the run has ended, the last handled event ended it. -/
  last_of_ended : (s.run h evs).phase ≠ .running →
    ∃ pre₀ e, pre = pre₀ ++ [e] ∧ (s.run h pre₀).phase = .running ∧
      (s.run h pre).phase ≠ .running

namespace Handled

variable {h : Host fuzzArenaSize} {s : Session fuzzArenaSize} {evs pre : List Event}

theorem nil (hp : s.phase = .running) : Handled h s [] [] :=
  ⟨List.prefix_refl _, fun _ => rfl, fun hne => absurd hp hne⟩

/-- An event that finds the target running is handled. -/
theorem snoc_running (e : Event) (hr : (s.run h evs).phase = .running) :
    Handled h s (evs ++ [e]) (evs ++ [e]) :=
  ⟨List.prefix_refl _, fun _ => rfl, fun hne => ⟨evs, e, rfl, hr, hne⟩⟩

/-- An event that comes after the end is not. -/
theorem snoc_ended (hh : Handled h s evs pre) (e : Event) (hr : (s.run h evs).phase ≠ .running) :
    Handled h s (evs ++ [e]) pre :=
  ⟨hh.initial.trans (List.prefix_append _ _),
    fun hr' => absurd (by rwa [run_append_singleton, step_of_ne_running hr] at hr') hr,
    fun _ => hh.last_of_ended hr⟩

/-- The handled events are determined by the run: once it has ended, no run of a prefix of
them that stops short of the last one has ended. -/
theorem unique (hh : Handled h s evs pre) {pre' : List Event} (hh' : Handled h s evs pre') :
    pre = pre' := by
  by_cases hr : (s.run h evs).phase = .running
  · rw [hh.all_of_running hr, hh'.all_of_running hr]
  have ended : ∀ {q q' : List Event}, (s.run h q).phase ≠ .running →
      (s.run h q').phase = .running → ¬ q <+: q' := by
    rintro q q' hq hq' ⟨t, rfl⟩
    rw [run, List.foldl_append, ← run, ← run, run_of_ne_running hq] at hq'
    exact hq hq'
  obtain ⟨p, e, rfl, hp, hne⟩ := hh.last_of_ended hr
  obtain ⟨p', e', rfl, hp', hne'⟩ := hh'.last_of_ended hr
  rcases List.prefix_or_prefix_of_prefix hh.initial hh'.initial with hq | hq
  · exact (List.prefix_concat_iff.1 hq).resolve_right (ended hne hp')
  · exact ((List.prefix_concat_iff.1 hq).resolve_right (ended hne' hp)).symm

end Handled

/-- **Every run lemma of a session, at once.**  A property of the handled events and the
session that holds at the start, and that one event from a running session carries forward,
holds after any run of the events it handled. -/
theorem exists_handled (h : Host fuzzArenaSize) {s : Session fuzzArenaSize}
    (I : List Event → Session fuzzArenaSize → Prop) (hp : s.phase = .running) (h0 : I [] s)
    (hstep : ∀ pre e (s' : Session fuzzArenaSize), s'.phase = .running → I pre s' →
      I (pre ++ [e]) (s'.step h e))
    (evs : List Event) : ∃ pre, Handled h s evs pre ∧ I pre (s.run h evs) := by
  induction evs using List.reverseRecOn with
  | nil => exact ⟨[], Handled.nil hp, h0⟩
  | append_singleton evs e ih =>
    obtain ⟨pre, hh, hi⟩ := ih
    rw [run_append_singleton]
    by_cases hr : (s.run h evs).phase = .running
    · obtain rfl := hh.all_of_running hr
      exact ⟨pre ++ [e], Handled.snoc_running e hr, hstep _ _ _ hr hi⟩
    · rw [step_of_ne_running hr]
      exact ⟨pre, hh.snoc_ended e hr, hi⟩

/-- `on_dr_exit` leaves the module list and what coverage reads alone. -/
theorem exitWith_frame (h : Host fuzzArenaSize) (s : Session fuzzArenaSize)
    {f : Fuzzer fuzzArenaSize} (hf : s.fuzzer.SameCoverage f) (status : Nat) :
    (s.exitWith h f status).loaded = s.loaded ∧
      s.fuzzer.SameCoverage (s.exitWith h f status).fuzzer :=
  ⟨rfl, hf.trans (.onDrExit f _ _)⟩

theorem afterHook_frame (h : Host fuzzArenaSize) (s : Session fuzzArenaSize)
    {r : HookResult fuzzArenaSize} (hf : s.fuzzer.SameCoverage r.fuzzer) :
    (s.afterHook h r).loaded = s.loaded ∧ s.fuzzer.SameCoverage (s.afterHook h r).fuzzer := by
  unfold afterHook; split
  · exact ⟨rfl, hf⟩
  · exact exitWith_frame h s hf _

/-- Every callback but `on_module_load` and the inserted increments leaves the module list,
`seen_modules`, the arena and the mode alone. -/
theorem stepRunning_frame (h : Host fuzzArenaSize) (s : Session fuzzArenaSize) (e : Event)
    (he : Event.coverageEvents [e] = []) :
    (s.stepRunning h e).loaded = s.loaded ∧ s.fuzzer.SameCoverage (s.stepRunning h e).fuzzer := by
  cases e with
  | module e => cases he
  | block a first rest => cases he
  | postGeneric c => exact afterHook_frame h s (.wrapPostGeneric s.fuzzer c)
  | postMapViewOfFile c v => exact afterHook_frame h s (.wrapPostMapViewOfFile s.fuzzer c v)
  | exception e =>
    show (s.onException h e).loaded = s.loaded ∧ s.fuzzer.SameCoverage (s.onException h e).fuzzer
    unfold onException; split
    · exact ⟨rfl, .refl _⟩
    · exact exitWith_frame h s (⟨rfl, rfl, rfl⟩ : s.fuzzer.SameCoverage (s.fuzzer.capture e)) 1
  | appExit status => exact exitWith_frame h s (.refl _) status

/-- One event of a running coverage-guided session does to its coverage view what
`CoverageState.step` does to the event's module event or block, and nothing otherwise. -/
theorem coverage_step (h : Host fuzzArenaSize) {s : Session fuzzArenaSize}
    (hp : s.phase = .running) (hc : s.fuzzer.coverageGuided = true) (e : Event) :
    (s.step h e).coverage = s.coverage.run (Event.coverageEvents [e]) ∧
      (s.step h e).fuzzer.coverageGuided = true := by
  have other : ∀ e, Event.coverageEvents [e] = [] →
      (s.stepRunning h e).coverage = s.coverage.run (Event.coverageEvents [e]) ∧
        (s.stepRunning h e).fuzzer.coverageGuided = true := fun e he => by
    obtain ⟨hl, hf⟩ := stepRunning_frame h s e he
    rw [he]; exact ⟨coverage_congr hl hf, hf.coverageGuided.trans hc⟩
  have hrun : s.step h e = s.stepRunning h e := by simp [step, hp]
  rw [hrun]
  cases e with
  | module e => exact ⟨rfl, hc⟩
  | block a first rest => rw [stepRunning, onBlock, if_pos hc]; exact ⟨rfl, hc⟩
  | postGeneric c => exact other _ rfl
  | postMapViewOfFile c v => exact other _ rfl
  | exception e => exact other _ rfl
  | appExit status => exact other _ rfl

/-- **The coverage view of a run.**  In coverage-guided mode, whatever the events, the session's
module list, `seen_modules` and arena are those `CoverageState.run` computes from the module
events and blocks among the events the run handled. -/
theorem run_coverage (h : Host fuzzArenaSize) (s : Session fuzzArenaSize)
    (hp : s.phase = .running) (hc : s.fuzzer.coverageGuided = true) (evs : List Event) :
    ∃ pre, Handled h s evs pre ∧
      (s.run h evs).coverage = s.coverage.run (Event.coverageEvents pre) := by
  obtain ⟨pre, hh, heq, -⟩ := exists_handled h (fun pre s' =>
      s'.coverage = s.coverage.run (Event.coverageEvents pre) ∧ s'.fuzzer.coverageGuided = true)
    hp ⟨rfl, hc⟩ (fun pre e s' hp' ⟨heq, hc'⟩ => by
      obtain ⟨hcov, hc''⟩ := coverage_step h hp' hc' e
      rw [hcov, heq, Event.coverageEvents_append, CoverageState.run_append]
      exact ⟨rfl, hc''⟩) evs
  exact ⟨pre, hh, heq⟩

theorem coverage_of_drClientMain {o : Options} {h : Host fuzzArenaSize} {s : Session fuzzArenaSize}
    (hs : drClientMain o h = some s) (hmode : coverageMode o = true) :
    s.coverage = ⟨.init, ⟨o.arenaId, h.arenaReply⟩⟩ ∧ s.fuzzer.coverageGuided = true := by
  unfold drClientMain at hs
  split at hs
  · cases hs
  · split at hs
    · cases hs
    · split at hs
      · cases hs
      · cases hs; simp [coverage, startFuzzer, hmode, ModuleMap.init]

end Session

/-- **The arena counts the blocks run before the exit.**  In coverage-guided mode, for an arena
of `2^k ≤ 2^16` cells, any options, server replies and events: the module list, `seen_modules`
and the arena are what `CoverageState.run` computes from the server's arena and the module
events and blocks the run handled — all of them while the target runs, those up to the exit
once it has ended, so in particular when `on_dr_exit` registers the arena — and each cell holds
the server's value plus, modulo 256, the number of those blocks charged to it. -/
theorem arena_of_run {k : Nat} (hk : k ≤ 16) (o : Options) (h : Host (2 ^ k))
    (s : Session (2 ^ k)) (hstart : drClientMain o h = some s) (hmode : coverageMode o = true)
    (evs : List Event) :
    ∃ pre, Session.Handled h s evs pre ∧
      (s.run h evs).coverage =
        (⟨.init, ⟨o.arenaId, h.arenaReply⟩⟩ : CoverageState (2 ^ k)).run
          (Event.coverageEvents pre) ∧
      ∀ j, ((s.run h evs).fuzzer.arena.map j).toNat =
        ((h.arenaReply j).toNat +
          ((⟨.init, ⟨o.arenaId, h.arenaReply⟩⟩ : CoverageState (2 ^ k)).blockOffsets
            (Event.coverageEvents pre)).count j.val) % 256 := by
  obtain ⟨hcov, hc⟩ := Session.coverage_of_drClientMain hstart hmode
  obtain ⟨pre, hh, heq⟩ :=
    Session.run_coverage h s (Session.runningInv_of_drClientMain hstart).phase hc evs
  rw [hcov] at heq
  refine ⟨pre, hh, heq, fun j => ?_⟩
  calc ((s.run h evs).fuzzer.arena.map j).toNat
      = (((s.run h evs).coverage).arena.map j).toNat := rfl
    _ = _ := by rw [heq, CoverageState.arena_run hk]

/-- Coverage-guided options. -/
def guidedOptions : Options := ⟨"targets.json", false, "run-1", "arena-1"⟩

/-- The session `dr_client_main` starts with `guidedOptions`. -/
def guidedSession : Session 4 :=
  ⟨startFuzzer guidedOptions sampleHost, [], [⟨"ReadFile", true⟩], [], .running⟩

/-- A tracked module loads, two of its blocks run, and the target exits. -/
def guidedRun : List Event :=
  [.module (.load pluginDll), .block 0x18000#64 0 [], .block 0x18010#64 1 [2], .appExit 0]

theorem arena_of_run_guided :
    2 ≤ 16 ∧ drClientMain guidedOptions sampleHost = some guidedSession ∧
      coverageMode guidedOptions = true ∧
      ∃ pre, Session.Handled sampleHost guidedSession guidedRun pre ∧
        (guidedSession.run sampleHost guidedRun).coverage =
          (⟨.init, ⟨guidedOptions.arenaId, sampleHost.arenaReply⟩⟩ :
            CoverageState (2 ^ 2)).run (Event.coverageEvents pre) ∧
        ∀ j, ((guidedSession.run sampleHost guidedRun).fuzzer.arena.map j).toNat =
          ((sampleHost.arenaReply j).toNat +
            ((⟨.init, ⟨guidedOptions.arenaId, sampleHost.arenaReply⟩⟩ :
                CoverageState (2 ^ 2)).blockOffsets (Event.coverageEvents pre)).count j.val) %
            256 :=
  ⟨by decide, rfl, rfl, arena_of_run (show 2 ≤ 16 by decide) guidedOptions sampleHost
    guidedSession rfl rfl guidedRun⟩

/-! ## How a run ends -/

/-- A post-hook that ends the process calls `dr_exit_process(1)`, after clearing `crashed`, and
only when `mutate` reported a failed registration. -/
theorem afterMutate_exit {r : Fuzzer fuzzArenaSize × Bool} {reads : List (InfoField × Bool)}
    {status : Nat} (h : (afterMutate r reads).resume = .exitProcess status) :
    status = 1 ∧ (afterMutate r reads).fuzzer.crashed = false ∧ r.2 = false := by
  unfold afterMutate at h ⊢
  split at h
  · cases h
  · rename_i hr; cases h; simp [hr]

/-- `mutate` reports a failed registration only when the server refused it. -/
theorem mutate_refused {f : Fuzzer fuzzArenaSize} {info : ClientReadInfo} {env : MutateEnv}
    (h : (mutate f info env).2 = false) : env.registerResponse = .error := by
  rw [(mutate_spec f info env).2] at h
  cases hr : env.registerResponse
  · simp [hr] at h
  · rfl

/-- `wrap_post_Generic` ends the process only for a sane, targeted call whose registration the
server refused. -/
theorem wrapPostGeneric_exit {f : Fuzzer fuzzArenaSize} {c : PostCall} {status : Nat}
    (h : (wrapPostGeneric f c).resume = .exitProcess status) :
    status = 1 ∧ (wrapPostGeneric f c).fuzzer.crashed = false ∧
      c.sane = true ∧ c.targeted = true ∧ c.env.registerResponse = .error := by
  rw [wrapPostGeneric_eq] at h ⊢
  split at h
  · rename_i hc
    obtain ⟨h1, h2, h3⟩ := afterMutate_exit h
    rw [if_pos hc]
    exact ⟨h1, h2, hc.1, hc.2, mutate_refused h3⟩
  · split at h <;> cases h

/-- `wrap_post_MapViewOfFile` ends the process only for a sane, targeted call that mapped a
file and whose registration the server refused. -/
theorem wrapPostMapViewOfFile_exit {f : Fuzzer fuzzArenaSize} {c : PostCall} {v : MapView}
    {status : Nat} (h : (wrapPostMapViewOfFile f c v).resume = .exitProcess status) :
    status = 1 ∧ (wrapPostMapViewOfFile f c v).fuzzer.crashed = false ∧ c.sane = true ∧
      v.mappedFileName.isSome = true ∧ c.targeted = true ∧ c.env.registerResponse = .error := by
  rw [wrapPostMapViewOfFile_eq] at h ⊢
  split at h
  · rename_i hc
    obtain ⟨h1, h2, h3⟩ := afterMutate_exit h
    rw [if_pos hc]
    exact ⟨h1, h2, hc.1, hc.2.1, hc.2.2, mutate_refused h3⟩
  · split at h <;> cases h

namespace Session

variable {o : Options} {h : Host fuzzArenaSize} {s : Session fuzzArenaSize}

/-- What `on_dr_exit` reports, run on the globals `f`. -/
theorem exitWith_exited (f : Fuzzer fuzzArenaSize) (st : Nat) {status : Nat}
    {report : ExitReport} (hend : (s.exitWith h f st).phase = .exited status report) :
    status = st ∧
      report.minidump = (if f.crashed then some (h.exitEnv.initialDumpPath, f.fuzzExceptionCtx)
        else none) ∧
      report.coverageLine = if f.coverageGuided then some h.exitEnv.coverage else none := by
  simp only [exitWith, Phase.exited.injEq] at hend
  obtain ⟨rfl, rfl⟩ := hend
  rw [(onDrExit_spec f h.pid h.exitEnv).2]
  exact ⟨rfl, rfl, rfl⟩

/-- A post-hook ends a running session only by asking for the exit, here with status 1 and no
dump. -/
theorem afterHook_exited (hs : RunningInv o h s) {r : HookResult fuzzArenaSize}
    (hr : Started o h.pid r.fuzzer)
    (hexit : ∀ st, r.resume = .exitProcess st → st = 1 ∧ r.fuzzer.crashed = false)
    {status : Nat} {report : ExitReport} (hend : (s.afterHook h r).phase = .exited status report) :
    r.resume = .exitProcess 1 ∧ status = 1 ∧ report.minidump = none ∧
      report.coverageLine = if coverageMode o then some h.exitEnv.coverage else none := by
  unfold afterHook at hend
  split at hend
  · rw [hs.phase] at hend; cases hend
  · rename_i st hst
    obtain ⟨rfl, hc⟩ := hexit st hst
    obtain ⟨hst', hm, hl⟩ := exitWith_exited r.fuzzer 1 hend
    exact ⟨hst, hst', by simp [hm, hc], by rw [hl, hr.mode]⟩

/-- **The event that ends a run.**  From a running session, an event that ends it is an
exception, dumped with its own snapshot and status 1; or the target's exit with its own status;
or, with status 1, a sane and targeted post-hook (for `MapViewOfFile`, one that mapped a file)
whose registration the server refused; neither of the last two is dumped. -/
theorem exit_cases (hs : RunningInv o h s) (e : Event) {status : Nat} {report : ExitReport}
    (hend : (s.step h e).phase = .exited status report) :
    ((∃ ex, e = .exception ex ∧ status = 1 ∧
        report.minidump = some (h.exitEnv.initialDumpPath, .ofException ex)) ∨
      (report.minidump = none ∧ (e = .appExit status ∨
        (status = 1 ∧ ∃ c, ((e = .postGeneric c ∧ c.sane = true ∧ c.targeted = true) ∨
          ∃ v, e = .postMapViewOfFile c v ∧ c.sane = true ∧ v.mappedFileName.isSome = true ∧
            c.targeted = true) ∧ c.env.registerResponse = .error)))) ∧
      report.coverageLine = if coverageMode o then some h.exitEnv.coverage else none := by
  have hrun : s.step h e = s.stepRunning h e := by simp [step, hs.phase]
  rw [hrun] at hend
  cases e with
  | module e =>
    have hp : (s.onModuleEvent h e).phase = .running := hs.phase
    rw [stepRunning, hp] at hend; cases hend
  | block a first rest =>
    have hp : (s.onBlock a first rest).phase = .running := by
      unfold onBlock; split <;> exact hs.phase
    rw [stepRunning, hp] at hend; cases hend
  | postGeneric c =>
    obtain ⟨hres, rfl, hm, hl⟩ := afterHook_exited hs (wrapPostGeneric_started hs.started c).1
      (fun _ hx => (wrapPostGeneric_exit hx).imp_right And.left) hend
    obtain ⟨-, -, hsn, ht, hreg⟩ := wrapPostGeneric_exit hres
    exact ⟨.inr ⟨hm, .inr ⟨rfl, c, .inl ⟨rfl, hsn, ht⟩, hreg⟩⟩, hl⟩
  | postMapViewOfFile c v =>
    obtain ⟨hres, rfl, hm, hl⟩ := afterHook_exited hs
      (wrapPostMapViewOfFile_started hs.started c v).1
      (fun _ hx => (wrapPostMapViewOfFile_exit hx).imp_right And.left) hend
    obtain ⟨-, -, hsn, hn, ht, hreg⟩ := wrapPostMapViewOfFile_exit hres
    exact ⟨.inr ⟨hm, .inr ⟨rfl, c, .inr ⟨v, rfl, hsn, hn, ht⟩, hreg⟩⟩, hl⟩
  | exception ex =>
    rw [stepRunning, onException, if_neg (by simp [hs.exiting])] at hend
    obtain ⟨rfl, hm, hl⟩ := exitWith_exited (s.fuzzer.capture ex) 1 hend
    exact ⟨.inl ⟨ex, rfl, rfl, hm⟩, by rw [hl, Fuzzer.capture_eq, hs.started.mode]⟩
  | appExit st =>
    obtain ⟨rfl, hm, hl⟩ := exitWith_exited s.fuzzer st hend
    exact ⟨.inr ⟨by simp [hm, hs.crashed], .inl rfl⟩, by rw [hl, hs.started.mode]⟩

/-- A run from a running session that has ended was ended by one of its events, reached from a
running session. -/
theorem run_ends (hs : RunningInv o h s) (evs : List Event) {status : Nat} {report : ExitReport}
    (hend : (s.run h evs).phase = .exited status report) :
    ∃ pre e post, evs = pre ++ e :: post ∧ RunningInv o h (s.run h pre) ∧
      s.run h evs = (s.run h pre).step h e := by
  induction evs generalizing s with
  | nil => rw [show s.run h [] = s from rfl, hs.phase] at hend; cases hend
  | cons e evs ih =>
    rcases step_inv hs e with hs' | hs'
    · obtain ⟨pre, e', post, rfl, hpre, heq⟩ := ih hs' hend
      exact ⟨e :: pre, e', post, rfl, hpre, heq⟩
    · exact ⟨[], e, evs, rfl, hs, run_of_exited hs' evs⟩

end Session

/-- **How a single-threaded run ends.**  For any options, server replies and events, a run that
`dr_client_main` started never reaches `dr_abort`.  If it has ended, one event ended it, reached
while the target ran; the minidump is written exactly when that event is an exception, with the
exception's own thread id, context and record and exit status 1; otherwise the status is the
target's own exit status, or 1 for a sane, targeted post-hook (for `MapViewOfFile`, one that
mapped a file) whose registration the server refused.  The
`#COVERAGE` line is reported exactly in coverage-guided mode. -/
theorem outcome_of_run (o : Options) (h : Host fuzzArenaSize) (s : Session fuzzArenaSize)
    (hstart : drClientMain o h = some s) (evs : List Event) :
    (s.run h evs).phase ≠ .aborted ∧
      ∀ status report, (s.run h evs).phase = .exited status report →
        ∃ pre e post, evs = pre ++ e :: post ∧ (s.run h pre).phase = .running ∧
          s.run h evs = (s.run h pre).step h e ∧
          ((∃ ex, e = .exception ex ∧ status = 1 ∧
              report.minidump = some (h.exitEnv.initialDumpPath, .ofException ex)) ∨
            (report.minidump = none ∧ (e = .appExit status ∨
              (status = 1 ∧ ∃ c, ((e = .postGeneric c ∧ c.sane = true ∧ c.targeted = true) ∨
                ∃ v, e = .postMapViewOfFile c v ∧ c.sane = true ∧
                  v.mappedFileName.isSome = true ∧ c.targeted = true) ∧
                c.env.registerResponse = .error)))) ∧
          report.coverageLine = if coverageMode o then some h.exitEnv.coverage else none := by
  have hs := Session.runningInv_of_drClientMain hstart
  refine ⟨fun hab => ?_, fun status report hend => ?_⟩
  · rcases Session.run_inv hs evs with hr | ⟨⟨st, r, hp⟩, -⟩
    · rw [hr.phase] at hab; cases hab
    · rw [hp] at hab; cases hab
  · obtain ⟨pre, e, post, rfl, hpre, heq⟩ := Session.run_ends hs evs hend
    rw [heq] at hend
    exact ⟨pre, e, post, rfl, hpre.phase, heq, Session.exit_cases hpre e hend⟩

/-- A first-chance access violation in thread 7. -/
def faultInModule : DrException := ⟨7, 100, ⟨0xC0000005, 0x18004#64⟩⟩

/-- A tracked module loads, one of its blocks runs, and faults. -/
def faultRun : List Event :=
  [.module (.load pluginDll), .block 0x18000#64 0 [], .exception faultInModule]

theorem outcome_of_run_fault :
    drClientMain guidedOptions sampleHost = some guidedSession ∧
      (guidedSession.run sampleHost faultRun).phase ≠ .aborted ∧
      ∀ status report, (guidedSession.run sampleHost faultRun).phase = .exited status report →
        ∃ pre e post, faultRun = pre ++ e :: post ∧
          (guidedSession.run sampleHost pre).phase = .running ∧
          guidedSession.run sampleHost faultRun =
            (guidedSession.run sampleHost pre).step sampleHost e ∧
          ((∃ ex, e = .exception ex ∧ status = 1 ∧
              report.minidump = some (sampleHost.exitEnv.initialDumpPath, .ofException ex)) ∨
            (report.minidump = none ∧ (e = .appExit status ∨
              (status = 1 ∧ ∃ c, ((e = .postGeneric c ∧ c.sane = true ∧ c.targeted = true) ∨
                ∃ v, e = .postMapViewOfFile c v ∧ c.sane = true ∧
                  v.mappedFileName.isSome = true ∧ c.targeted = true) ∧
                c.env.registerResponse = .error)))) ∧
          report.coverageLine =
            if coverageMode guidedOptions then some sampleHost.exitEnv.coverage else none :=
  ⟨rfl, outcome_of_run guidedOptions sampleHost guidedSession rfl faultRun⟩

/-! ## The numbering of the records -/

/-- The records registered so far are numbered `0, 1, …, k - 1` in order, and `mut_count` is `k`,
in 32-bit arithmetic. -/
def Numbered (f : Fuzzer fuzzArenaSize) : Prop :=
  ∃ k, (registeredMutations f.requests).map (fun m => m.mutCount.toNat) =
      (List.range k).map (· % 2 ^ 32) ∧ f.mutCount.toNat = k % 2 ^ 32

theorem registeredMutations_exitRequests (crashed coverageGuided : Bool) (pid : Nat) :
    registeredMutations (exitRequests crashed coverageGuided pid) = [] := by
  cases crashed <;> cases coverageGuided <;> rfl

namespace Numbered

variable {f f' : Fuzzer fuzzArenaSize}

theorem of_eq (hf : Numbered f)
    (hr : registeredMutations f'.requests = registeredMutations f.requests)
    (hm : f'.mutCount = f.mutCount) : Numbered f' := by
  rw [Numbered, hr, hm]; exact hf

/-- `mutate` registers the record numbered `mut_count` and bumps it. -/
theorem mutate (hf : Numbered f) (info : ClientReadInfo) (env : MutateEnv) :
    Numbered (SiennaLocomotive.mutate f info env).1 := by
  obtain ⟨k, hr, hm⟩ := hf
  rw [(mutate_spec f info env).1]
  refine ⟨k + 1, ?_, ?_⟩
  · simp only [registeredMutations_append, registeredMutations_mutationRequests, List.map_append,
      hr, List.range_succ]
    simp [registeredRecord, assignKind, buildMutation, hm]
  · show (f.mutCount + 1).toNat = _
    rw [UInt32.toNat_add, hm]
    show (k % 2 ^ 32 + 1) % 2 ^ 32 = (k + 1) % 2 ^ 32
    omega

theorem afterMutate {r : Fuzzer fuzzArenaSize × Bool} (hr : Numbered r.1)
    (reads : List (InfoField × Bool)) :
    Numbered (SiennaLocomotive.afterMutate r reads).fuzzer := by
  unfold SiennaLocomotive.afterMutate; split
  · exact hr
  · exact hr.of_eq rfl rfl

theorem wrapPostGeneric (hf : Numbered f) (c : PostCall) :
    Numbered (SiennaLocomotive.wrapPostGeneric f c).fuzzer := by
  rw [wrapPostGeneric_eq]; split
  · exact afterMutate
      ((hf.of_eq rfl rfl : Numbered (f.incrementCallCount c.userData.function)).mutate _ _) _
  · split
    · exact hf.of_eq rfl rfl
    · exact hf

theorem wrapPostMapViewOfFile (hf : Numbered f) (c : PostCall) (v : MapView) :
    Numbered (SiennaLocomotive.wrapPostMapViewOfFile f c v).fuzzer := by
  rw [wrapPostMapViewOfFile_eq]; split
  · exact afterMutate
      ((hf.of_eq rfl rfl : Numbered (f.incrementCallCount c.userData.function)).mutate _ _) _
  · split
    · exact hf.of_eq rfl rfl
    · exact hf

theorem onDrExit (hf : Numbered f) (pid : Nat) (env : ExitEnv) :
    Numbered (SiennaLocomotive.onDrExit f pid env).1 := by
  rw [(onDrExit_spec f pid env).1]
  exact hf.of_eq (by simp [registeredMutations_exitRequests]) rfl

end Numbered

namespace Session

variable {h : Host fuzzArenaSize} {s : Session fuzzArenaSize}

theorem exitWith_numbered (f : Fuzzer fuzzArenaSize) (hf : Numbered f) (st : Nat) :
    Numbered (s.exitWith h f st).fuzzer :=
  hf.onDrExit _ _

theorem afterHook_numbered {r : HookResult fuzzArenaSize}
    (hr : Numbered r.fuzzer) : Numbered (s.afterHook h r).fuzzer := by
  unfold afterHook; split
  · exact hr
  · exact exitWith_numbered _ hr _

/-- Every event keeps the numbering, whether the process runs or not. -/
theorem step_numbered (hs : Numbered s.fuzzer) (e : Event) : Numbered (s.step h e).fuzzer := by
  unfold step; split
  · cases e with
    | module e => exact hs.of_eq rfl rfl
    | block a first rest =>
      show Numbered (s.onBlock a first rest).fuzzer
      unfold onBlock; split
      · exact hs.of_eq rfl rfl
      · exact hs
    | postGeneric c => exact afterHook_numbered (hs.wrapPostGeneric c)
    | postMapViewOfFile c v => exact afterHook_numbered (hs.wrapPostMapViewOfFile c v)
    | exception ex =>
      show Numbered (s.onException h ex).fuzzer
      unfold onException; split
      · exact hs
      · exact exitWith_numbered (s.fuzzer.capture ex) (hs.of_eq rfl rfl) 1
    | appExit st => exact exitWith_numbered _ hs st
  · exact hs

theorem run_numbered (hs : Numbered s.fuzzer) (evs : List Event) :
    Numbered (s.run h evs).fuzzer := by
  induction evs generalizing s with
  | nil => exact hs
  | cons e evs ih => exact ih (step_numbered hs e)

end Session

/-- **The records are numbered in order.**  For any options, server replies and events, at every
point of a single-threaded run that `dr_client_main` started: the records registered with the
server are numbered `0, 1, …, k - 1` modulo `2^32`, in the order they were sent, and `mut_count`
is `k` modulo `2^32`; so while at most `2^32` records have been registered, no two share a
number. -/
theorem registered_numbering (o : Options) (h : Host fuzzArenaSize) (s : Session fuzzArenaSize)
    (hstart : drClientMain o h = some s) (evs : List Event) :
    ∃ k, (registeredMutations (s.run h evs).fuzzer.requests).map (fun m => m.mutCount.toNat) =
        (List.range k).map (· % 2 ^ 32) ∧
      (s.run h evs).fuzzer.mutCount.toNat = k % 2 ^ 32 ∧
      (k ≤ 2 ^ 32 →
        ((registeredMutations (s.run h evs).fuzzer.requests).map Mutation.mutCount).Nodup) := by
  have h0 : Numbered s.fuzzer := by
    rw [(drClientMain_eq_some hstart).1]
    refine ⟨0, ?_, rfl⟩
    unfold startFuzzer startRequests
    cases coverageMode o <;> rfl
  obtain ⟨k, hr, hm⟩ := Session.run_numbered (h := h) h0 evs
  refine ⟨k, hr, hm, fun hk => ?_⟩
  have hnodup : ((List.range k).map (· % 2 ^ 32)).Nodup :=
    (List.nodup_range k).map_on fun x hx y hy hxy => by
      simp only [List.mem_range] at hx hy
      rwa [Nat.mod_eq_of_lt (by omega), Nat.mod_eq_of_lt (by omega)] at hxy
  rw [← hr] at hnodup
  exact List.Nodup.of_map UInt32.toNat (by rw [List.map_map]; exact hnodup)

/-- A targeted `ReadFile` of 16 bytes whose mutation the server accepts. -/
def acceptedRead : PostCall :=
  ⟨⟨0, some "input.txt", 0, 16, some 16, 0x5000#64, none⟩, true, true, 16#64,
    ⟨.ok, 2, 3, .ok⟩⟩

/-- Two reads are mutated, with a block between them, and the target exits. -/
def twoReads : List Event :=
  [.postGeneric acceptedRead, .block 0x18000#64 0 [], .postGeneric acceptedRead, .appExit 0]

theorem registered_numbering_twoReads :
    drClientMain guidedOptions sampleHost = some guidedSession ∧
      ∃ k, (registeredMutations (guidedSession.run sampleHost twoReads).fuzzer.requests).map
            (fun m => m.mutCount.toNat) = (List.range k).map (· % 2 ^ 32) ∧
        (guidedSession.run sampleHost twoReads).fuzzer.mutCount.toNat = k % 2 ^ 32 ∧
        (k ≤ 2 ^ 32 → ((registeredMutations
          (guidedSession.run sampleHost twoReads).fuzzer.requests).map Mutation.mutCount).Nodup) :=
  ⟨rfl, registered_numbering guidedOptions sampleHost guidedSession rfl twoReads⟩

end SiennaLocomotive
