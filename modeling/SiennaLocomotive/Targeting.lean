import Mathlib.Data.List.Indexes
import SiennaLocomotive.Outcome
import SiennaLocomotive.Threads.Model

/-!
# Which calls a run fuzzes

A post-hook counts its call with `client.increment_call_count` once `is_sane_post_hook` accepts
it, and hands it to `mutate` when `is_function_targeted` also does (for `MapViewOfFile`, only
when `GetMappedFileName` found the mapped file).  `mutate` numbers its record with `mut_count`
and rewrites the buffer.  Nothing else in `fuzzer.cpp` touches the call counts, the buffers or
`mut_count`.  This file follows the three over a whole single-threaded run.

## What is here

* `Event.countedCall`, `Event.mutatedRead` and `Event.mutatedCall` — what one event
  contributes: the function a sane post-hook counts, and the read a sane, targeted post-hook
  hands to `mutate`, as the hook prepared it, with the replies `mutate` then gets.  All are read
  off `PostHook.mutateInfo` and `PostHook.run`; `mutationLog` is the requests `mutate` sends for
  the reads of a list of events.
* `Logged` — the call counts, the applied mutations, `mut_count` and the requests are what the
  events so far contribute, the `k`-th mutation numbered `k`; `Session.Logs` adds `on_dr_exit`,
  with `Session.step_logs` and `Session.run_logs`.
* `mutations_of_run` — **a run mutates exactly the reads it targets, in order**: from the
  session `dr_client_main` starts, the call counts are the functions of the sane post-hook calls
  the run handled, and the mutations applied to target buffers are, one for each sane, targeted
  call it handled, the record of its read numbered with its position, in 32-bit arithmetic.
  Module loads, blocks, exceptions and untargeted calls mutate nothing.
* `requests_of_run` — **the requests of a run**: the start-up requests, then for each read the
  run handed to `mutate` the advice request (coverage-guided mode only) and its record, then
  those of `on_dr_exit`.
-/

set_option autoImplicit false

namespace SiennaLocomotive

/-! ## What one event contributes -/

/-- The post-hook an event runs, if any. -/
def Event.hook : Event → Option PostHook
  | .postGeneric c => some (.generic c)
  | .postMapViewOfFile c v => some (.mapViewOfFile c v)
  | _ => none

/-- The function `client.increment_call_count` is called for: that of a sane post-hook call. -/
def Event.countedCall (e : Event) : Option Nat :=
  e.hook.bind fun k => if k.call.sane then some k.call.userData.function else none

/-- The read a post-hook hands to `mutate`, as the hook prepared it. -/
def Event.mutatedRead (e : Event) : Option ClientReadInfo :=
  e.hook.bind PostHook.mutateInfo

/-- The read a post-hook hands to `mutate`, with the replies `mutate` then gets. -/
def Event.mutatedCall (e : Event) : Option (ClientReadInfo × MutateEnv) :=
  e.hook.bind fun k => k.mutateInfo.map fun info => (info, k.call.env)

theorem Event.mutatedRead_eq (e : Event) : e.mutatedRead = e.mutatedCall.map Prod.fst := by
  unfold Event.mutatedRead Event.mutatedCall
  cases e.hook with
  | none => rfl
  | some k =>
    simp only [Option.some_bind]
    cases k.mutateInfo <;> rfl

theorem Event.filterMap_mutatedRead (pre : List Event) :
    pre.filterMap Event.mutatedRead = (pre.filterMap Event.mutatedCall).map Prod.fst := by
  rw [List.map_filterMap]
  exact congrArg (List.filterMap · pre) (funext Event.mutatedRead_eq)

/-- The requests `mutate` sends for the reads among `pre` that are handed to it: for the `k`-th,
`advise_mutation` in coverage-guided mode, then `register_mutation` with its record numbered
`k`, of the kind the mutation used. -/
def mutationLog (coverageGuided : Bool) (pre : List Event) : List Request :=
  ((pre.filterMap Event.mutatedCall).mapIdx fun i c =>
    mutationRequests coverageGuided
      (registeredRecord coverageGuided (buildMutation c.1 (UInt32.ofNat i)) c.2)).flatten

theorem mutationLog_append_none (coverageGuided : Bool) (pre : List Event) {e : Event}
    (he : e.mutatedCall = none) : mutationLog coverageGuided (pre ++ [e]) =
      mutationLog coverageGuided pre := by
  simp [mutationLog, List.filterMap_append, he]

theorem mutationLog_append_some (coverageGuided : Bool) (pre : List Event) {e : Event}
    {c : ClientReadInfo × MutateEnv} (he : e.mutatedCall = some c) :
    mutationLog coverageGuided (pre ++ [e]) = mutationLog coverageGuided pre ++
      mutationRequests coverageGuided (registeredRecord coverageGuided
        (buildMutation c.1 (UInt32.ofNat (pre.filterMap Event.mutatedCall).length)) c.2) := by
  simp [mutationLog, List.filterMap_append, he, List.mapIdx_append_one]

theorem PostHook.sane_of_mutateInfo {k : PostHook} {info : ClientReadInfo}
    (hi : k.mutateInfo = some info) : k.call.sane = true := by
  cases k with
  | generic c =>
    cases hs : c.sane
    · simp [PostHook.mutateInfo, hs] at hi
    · exact hs
  | mapViewOfFile c v =>
    cases hs : c.sane
    · simp [PostHook.mutateInfo, hs] at hi
    · exact hs

/-- `UInt32.ofNat` counts like `mut_count++`. -/
theorem uint32_ofNat_succ (k : Nat) : UInt32.ofNat k + 1 = UInt32.ofNat (k + 1) := by
  apply UInt32.toNat.inj
  rw [UInt32.toNat_add]
  simp [UInt32.toNat, UInt32.ofNat]

/-! ## The invariant -/

variable {fuzzArenaSize : Nat}

/-- The call counts, the applied mutations, `mut_count` and the requests after the events `pre`,
from globals that had sent the requests `start`. -/
structure Logged (start : List Request) (pre : List Event) (f : Fuzzer fuzzArenaSize) :
    Prop where
  /-- One count for each sane post-hook call, in order. -/
  callCounts : f.callCounts = pre.filterMap Event.countedCall
  /-- One mutation for each read handed to `mutate`, the `k`-th numbered `k`. -/
  applied : f.applied.map AppliedMutation.mutation =
    (pre.filterMap Event.mutatedRead).mapIdx fun i info => buildMutation info (UInt32.ofNat i)
  /-- `mut_count` is the number of those reads. -/
  mutCount : f.mutCount = UInt32.ofNat (pre.filterMap Event.mutatedRead).length
  /-- The requests `mutate` sent for them follow those sent before. -/
  requests : f.requests = start ++ mutationLog f.coverageGuided pre

namespace Logged

variable {start : List Request} {pre : List Event} {f f' : Fuzzer fuzzArenaSize}

theorem of_eq (hf : Logged start pre f) (hc : f'.callCounts = f.callCounts)
    (ha : f'.applied = f.applied) (hm : f'.mutCount = f.mutCount)
    (hr : f'.requests = f.requests) (hg : f'.coverageGuided = f.coverageGuided) :
    Logged start pre f' :=
  ⟨hc.trans hf.callCounts, by rw [ha, hf.applied], hm.trans hf.mutCount,
    by rw [hr, hg, hf.requests]⟩

/-- An event that hands nothing to `mutate` adds at most a call count. -/
theorem append_of_mutatedCall_none (hf : Logged start pre f) {e : Event}
    (hm : Event.mutatedCall e = none)
    (hc : f'.callCounts = (pre ++ [e]).filterMap Event.countedCall)
    (ha : f'.applied = f.applied) (hn : f'.mutCount = f.mutCount)
    (hr : f'.requests = f.requests) (hg : f'.coverageGuided = f.coverageGuided) :
    Logged start (pre ++ [e]) f' := by
  have hm' : Event.mutatedRead e = none := by rw [Event.mutatedRead_eq, hm]; rfl
  refine ⟨hc, ?_, ?_, ?_⟩
  · simpa [ha, List.filterMap_append, hm'] using hf.applied
  · simpa [hn, List.filterMap_append, hm'] using hf.mutCount
  · rw [hr, hg, hf.requests, mutationLog_append_none _ _ hm]

/-- An event that counts no call and hands nothing to `mutate` contributes nothing. -/
theorem skip (hf : Logged start pre f) (e : Event) (hc : Event.countedCall e = none)
    (hm : Event.mutatedCall e = none) : Logged start (pre ++ [e]) f :=
  hf.append_of_mutatedCall_none hm (by simp [hf.callCounts, List.filterMap_append, hc])
    rfl rfl rfl rfl

theorem skip_of_hook (hf : Logged start pre f) (e : Event) (he : e.hook = none) :
    Logged start (pre ++ [e]) f :=
  hf.skip e (by simp [Event.countedCall, he]) (by simp [Event.mutatedCall, he])

theorem afterMutate {r : Fuzzer fuzzArenaSize × Bool} (hr : Logged start pre r.1)
    (reads : List (InfoField × Bool)) :
    Logged start pre (SiennaLocomotive.afterMutate r reads).fuzzer := by
  unfold SiennaLocomotive.afterMutate; split
  · exact hr
  · exact hr.of_eq rfl rfl rfl rfl rfl

/-- A post-hook counts a sane call, and applies, numbers and registers the mutation of a
targeted one. -/
theorem hook (hf : Logged start pre f) {e : Event} {k : PostHook} (he : e.hook = some k) :
    Logged start (pre ++ [e]) (k.run f).fuzzer := by
  cases hi : k.mutateInfo with
  | none =>
    have hm : Event.mutatedCall e = none := by simp [Event.mutatedCall, he, hi]
    obtain ⟨hrun, -⟩ := PostHook.run_of_mutateInfo_none hi f
    rw [hrun]
    by_cases hs : k.call.sane = true
    · have hc : Event.countedCall e = some k.call.userData.function := by
        simp [Event.countedCall, he, hs]
      rw [if_pos hs]
      exact hf.append_of_mutatedCall_none hm (by simp [hf.callCounts, List.filterMap_append, hc])
        rfl rfl rfl rfl
    · rw [if_neg hs]
      exact hf.skip e (by simp [Event.countedCall, he, hs]) hm
  | some info =>
    have hm : Event.mutatedCall e = some (info, k.call.env) := by
      simp [Event.mutatedCall, he, hi]
    have hm' : Event.mutatedRead e = some info := by rw [Event.mutatedRead_eq, hm]; rfl
    have hc : Event.countedCall e = some k.call.userData.function := by
      simp [Event.countedCall, he, PostHook.sane_of_mutateInfo hi]
    have hn : f.mutCount = UInt32.ofNat (pre.filterMap Event.mutatedCall).length := by
      rw [hf.mutCount, Event.filterMap_mutatedRead, List.length_map]
    rw [PostHook.run_of_mutateInfo hi]
    refine afterMutate ⟨?_, ?_, ?_, ?_⟩ _ <;> rw [(mutate_spec _ info _).1]
    · simp [hf.callCounts, List.filterMap_append, hc]
    · simp [hf.applied, hf.mutCount, List.filterMap_append, hm', List.mapIdx_append_one]
    · simp [List.filterMap_append, hm', hf.mutCount, uint32_ofNat_succ]
    · simp [hf.requests, mutationLog_append_some _ _ hm, hn]

end Logged

/-- A post-hook leaves `exiting` alone. -/
theorem PostHook.run_exiting (k : PostHook) (f : Fuzzer fuzzArenaSize) :
    (k.run f).fuzzer.exiting = f.exiting := by
  cases hi : k.mutateInfo with
  | none =>
    rw [(PostHook.run_of_mutateInfo_none hi f).1]
    split <;> rfl
  | some info =>
    rw [PostHook.run_of_mutateInfo hi]
    unfold afterMutate; split <;> simp [(mutate_spec _ info _).1]

/-! ## The run -/

namespace Session

variable (h : Host fuzzArenaSize) {start : List Request} {pre : List Event}

/-- A session after the events `pre`, from globals that had sent the requests `start`: while
the target runs, `exiting` is unset and the globals are `Logged`; once the run has ended,
`on_dr_exit` ran on `Logged` globals. -/
def Logs (start : List Request) (pre : List Event) (s : Session fuzzArenaSize) : Prop :=
  (s.phase = .running ∧ s.fuzzer.exiting = false ∧ Logged start pre s.fuzzer) ∨
    (s.phase ≠ .running ∧ ∃ f, Logged start pre f ∧ s.fuzzer = (onDrExit f h.pid h.exitEnv).1)

theorem exitWith_logs {f : Fuzzer fuzzArenaSize} (s : Session fuzzArenaSize)
    (hf : Logged start pre f) (status : Nat) : Logs h start pre (s.exitWith h f status) :=
  .inr ⟨by simp [exitWith], f, hf, rfl⟩

theorem afterHook_logs {s : Session fuzzArenaSize} (hp : s.phase = .running)
    {r : HookResult fuzzArenaSize} (hx : r.fuzzer.exiting = false)
    (hr : Logged start pre r.fuzzer) : Logs h start pre (s.afterHook h r) := by
  unfold afterHook; split
  · exact .inl ⟨hp, hx, hr⟩
  · exact exitWith_logs h s hr _

/-- **One event.**  A running session adds what the event contributes, and nothing else; if
the event ends the run, `on_dr_exit` runs on the globals that result. -/
theorem step_logs {s : Session fuzzArenaSize} (hp : s.phase = .running)
    (hs : Logs h start pre s) (e : Event) : Logs h start (pre ++ [e]) (s.step h e) := by
  obtain ⟨-, hx, hs⟩ := hs.resolve_right fun ⟨hne, _⟩ => hne hp
  have hrun : s.step h e = s.stepRunning h e := by simp [step, hp]
  rw [hrun]
  cases e with
  | module e => exact .inl ⟨hp, hx, (hs.skip_of_hook (.module e) rfl).of_eq rfl rfl rfl rfl rfl⟩
  | block a first rest =>
    rw [stepRunning, onBlock]
    split
    · exact .inl ⟨hp, hx, (hs.skip_of_hook (.block a first rest) rfl).of_eq rfl rfl rfl rfl rfl⟩
    · exact .inl ⟨hp, hx, hs.skip_of_hook (.block a first rest) rfl⟩
  | postGeneric c =>
    exact afterHook_logs h hp ((PostHook.run_exiting (.generic c) s.fuzzer).trans hx)
      (hs.hook (k := .generic c) rfl)
  | postMapViewOfFile c v =>
    exact afterHook_logs h hp ((PostHook.run_exiting (.mapViewOfFile c v) s.fuzzer).trans hx)
      (hs.hook (k := .mapViewOfFile c v) rfl)
  | exception ex =>
    show Logs h start _ (s.onException h ex)
    rw [onException, if_neg (by simp [hx])]
    exact exitWith_logs h s
      ((hs.skip_of_hook (.exception ex) rfl).of_eq rfl rfl rfl rfl rfl :
        Logged start _ (s.fuzzer.capture ex)) 1
  | appExit status => exact exitWith_logs h s (hs.skip_of_hook (.appExit status) rfl) status

/-- **A run.**  Whatever the events, the session has logged the events it handled. -/
theorem run_logs (s : Session fuzzArenaSize) (hp : s.phase = .running)
    (hx : s.fuzzer.exiting = false) (hs : Logged start [] s.fuzzer) (evs : List Event) :
    ∃ pre, Handled h s evs pre ∧ Logs h start pre (s.run h evs) :=
  exists_handled h (Logs h start) hp (.inl ⟨hp, hx, hs⟩)
    (fun _ e _ hp' hs' => step_logs h hp' hs' e) evs

/-- What `on_dr_exit` leaves of the log: the call counts, the applied mutations and
`mut_count`. -/
theorem Logs.fields {s : Session fuzzArenaSize} (hs : Logs h start pre s) :
    s.fuzzer.callCounts = pre.filterMap Event.countedCall ∧
      s.fuzzer.applied.map AppliedMutation.mutation =
        (pre.filterMap Event.mutatedRead).mapIdx
          (fun i info => buildMutation info (UInt32.ofNat i)) ∧
      s.fuzzer.mutCount = UInt32.ofNat (pre.filterMap Event.mutatedRead).length := by
  rcases hs with ⟨-, -, hf⟩ | ⟨-, f, hf, hx⟩
  · exact ⟨hf.callCounts, hf.applied, hf.mutCount⟩
  · rw [hx, (onDrExit_spec f h.pid h.exitEnv).1]
    exact ⟨hf.callCounts, hf.applied, hf.mutCount⟩

end Session

theorem logged_of_drClientMain {o : Options} {h : Host fuzzArenaSize} {s : Session fuzzArenaSize}
    (hs : drClientMain o h = some s) : Logged (startRequests o h.pid) [] s.fuzzer := by
  rw [(drClientMain_eq_some hs).1]
  exact ⟨rfl, rfl, rfl, by simp [startFuzzer, mutationLog]⟩

/-- **A run mutates exactly the reads it targets, in order.**  From the session
`dr_client_main` starts, whatever the events and answers, with the events the run handled (all
of them while the target runs, those up to and including the one that ended it once it has
ended): the functions `increment_call_count` was called for are those of the sane post-hook
calls among them, in order; the mutations applied to target buffers are, one for each read a
sane, targeted call among them handed to `mutate`, the record of that read numbered with its
position among them; and `mut_count` is their number, all in 32-bit arithmetic. -/
theorem mutations_of_run (o : Options) (h : Host fuzzArenaSize) (s : Session fuzzArenaSize)
    (hstart : drClientMain o h = some s) (evs : List Event) :
    ∃ pre, Session.Handled h s evs pre ∧
      (s.run h evs).fuzzer.callCounts = pre.filterMap Event.countedCall ∧
      (s.run h evs).fuzzer.applied.map AppliedMutation.mutation =
        (pre.filterMap Event.mutatedRead).mapIdx
          (fun i info => buildMutation info (UInt32.ofNat i)) ∧
      (s.run h evs).fuzzer.mutCount = UInt32.ofNat (pre.filterMap Event.mutatedRead).length := by
  have hs := Session.runningInv_of_drClientMain hstart
  obtain ⟨pre, hh, hl⟩ :=
    Session.run_logs h s hs.phase hs.exiting (logged_of_drClientMain hstart) evs
  exact ⟨pre, hh, hl.fields⟩

theorem mutations_of_run_twoReads :
    drClientMain guidedOptions sampleHost = some guidedSession ∧
      ∃ pre, Session.Handled sampleHost guidedSession twoReads pre ∧
        (guidedSession.run sampleHost twoReads).fuzzer.callCounts =
          pre.filterMap Event.countedCall ∧
        (guidedSession.run sampleHost twoReads).fuzzer.applied.map AppliedMutation.mutation =
          (pre.filterMap Event.mutatedRead).mapIdx
            (fun i info => buildMutation info (UInt32.ofNat i)) ∧
        (guidedSession.run sampleHost twoReads).fuzzer.mutCount =
          UInt32.ofNat (pre.filterMap Event.mutatedRead).length :=
  ⟨rfl, mutations_of_run guidedOptions sampleHost guidedSession rfl twoReads⟩

/-- **The requests of a run.**  For any options, server replies and events, a run that
`dr_client_main` started and that reached the end of `on_dr_exit` sent, with the events it
handled (those up to and including the one that ended it): the start-up requests
(`request_arena` exactly in coverage-guided mode); then for each read handed to `mutate`, the
`k`-th numbered `k`, `advise_mutation` (exactly in coverage-guided mode) and `register_mutation`
of its record; then `request_crash_paths` exactly when `crashed` is set, `register_arena` and
`get_coverage` exactly in coverage-guided mode, and `close`.  `coverage_guided` is the mode
`dr_client_main` chose, at every point of the run; in non-guided mode the arena is still zero
and every mutation went through `do_mutation`. -/
theorem requests_of_run (o : Options) (h : Host fuzzArenaSize) (s : Session fuzzArenaSize)
    (evs : List Event) (hstart : drClientMain o h = some s) (status : Nat) (report : ExitReport)
    (hend : (s.run h evs).phase = .exited status report) :
    ∃ pre, Session.Handled h s evs pre ∧
      (∀ k, (s.run h (evs.take k)).fuzzer.coverageGuided = coverageMode o) ∧
      (s.run h evs).fuzzer.requests =
        startRequests o h.pid ++ mutationLog (coverageMode o) pre ++
          exitRequests (s.run h evs).fuzzer.crashed (coverageMode o) h.pid ∧
      (coverageMode o = false →
        (∀ j, (s.run h evs).fuzzer.arena.map j = 0) ∧
          ∀ a ∈ (s.run h evs).fuzzer.applied, a.custom = none) := by
  have hs := Session.runningInv_of_drClientMain hstart
  have hmode : ∀ evs', (s.run h evs').fuzzer.coverageGuided = coverageMode o := fun evs' => by
    rcases Session.run_inv hs evs' with hr | ⟨-, f, hf, hx⟩
    · exact hr.started.mode
    · rw [hx, (onDrExit_spec f h.pid h.exitEnv).1]; exact hf.mode
  obtain ⟨pre, hh, hl⟩ :=
    Session.run_logs h s hs.phase hs.exiting (logged_of_drClientMain hstart) evs
  obtain ⟨-, f, hf, hx⟩ := hl.resolve_left fun ⟨hp, _⟩ => by rw [hend] at hp; cases hp
  have hspec := (onDrExit_spec f h.pid h.exitEnv).1
  have hfm : f.coverageGuided = coverageMode o := by rw [← hmode evs, hx, hspec]
  refine ⟨pre, hh, fun k => hmode _, by rw [hx, hspec]; simp [hf.requests, hfm], fun hc => ?_⟩
  rcases Session.run_inv hs evs with hr | ⟨-, f', hf', hx'⟩
  · exact absurd (hr.phase.symm.trans hend) (by simp)
  · rw [hx', (onDrExit_spec f' h.pid h.exitEnv).1]; exact hf'.inert hc

theorem requests_of_run_twoReads :
    drClientMain guidedOptions sampleHost = some guidedSession ∧
      (guidedSession.run sampleHost twoReads).phase =
        .exited 0 ⟨none, some sampleHost.exitEnv.coverage⟩ ∧
      ∃ pre, Session.Handled sampleHost guidedSession twoReads pre ∧
        (∀ k, (guidedSession.run sampleHost (twoReads.take k)).fuzzer.coverageGuided =
          coverageMode guidedOptions) ∧
        (guidedSession.run sampleHost twoReads).fuzzer.requests =
          startRequests guidedOptions sampleHost.pid ++
            mutationLog (coverageMode guidedOptions) pre ++
            exitRequests (guidedSession.run sampleHost twoReads).fuzzer.crashed
              (coverageMode guidedOptions) sampleHost.pid ∧
        (coverageMode guidedOptions = false →
          (∀ j, (guidedSession.run sampleHost twoReads).fuzzer.arena.map j = 0) ∧
            ∀ a ∈ (guidedSession.run sampleHost twoReads).fuzzer.applied, a.custom = none) :=
  ⟨rfl, rfl, requests_of_run guidedOptions sampleHost guidedSession twoReads rfl 0
    ⟨none, some sampleHost.exitEnv.coverage⟩ rfl⟩

end SiennaLocomotive
