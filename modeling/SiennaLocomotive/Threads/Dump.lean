import SiennaLocomotive.Threads.Capture

/-!
# What a dump can hold, in any interleaving

`Threads/Capture` pins the dump down when one capture is the only one, and shows two captures
can mix.  This file says what holds of every interleaving, with no hypothesis on the run: the
client dumps nothing unless an exception passed its check, and the thread id it dumps is one
such exception's.

The stores into `fuzz_exception_ctx` are made by a thread capturing an exception whose check of
`exiting` passed (`Wf.capture_logged`); `crashed = true` is stored only by such a thread; and
`on_dr_exit` dumps only after loading `crashed` set.  So:

* `DumpInv`: `crashed` is set only after some check passed; the snapshot's thread id is the zero
  of a fresh run or was stored from an exception whose check passed; a thread about to dump
  comes after some check passed; a dump that was written went to the path the server gave, with
  such a thread id.  Every step keeps it, given `Wf` (`DumpInv.step`).
* `dump_from_checked` — **no dump without a crash, and no thread id in it that no crash
  produced**, from the start `dr_client_main` makes, in any interleaving.
* The zero is needed: in `halfWritten` the target exits while a faulting thread is between its
  store of `crashed` and its store of the thread id, and the dump is the zero snapshot of a fresh
  run.

The thread id is one aligned word, stored at once.  The context and the record are copied word
by word, and `World.advance` makes each copy one step, so this file says nothing of them.
-/

set_option autoImplicit false

namespace SiennaLocomotive

namespace World

variable {fuzzArenaSize : Nat}

/-! ## Snapshots taken from passed checks -/

/-- Some `on_exception`, for an exception satisfying `P`, passed its check of `exiting`. -/
def Checked (log : List Access) (P : DrException → Prop) : Prop :=
  ∃ t e, Access.loadExiting t e false ∈ log ∧ P e

theorem Checked.mono {log log' : List Access} {P : DrException → Prop} (h : Checked log P)
    (hl : log <+: log') : Checked log' P :=
  let ⟨t, e, hm, hp⟩ := h
  ⟨t, e, hl.subset hm, hp⟩

/-- The thread id of `ctx` is the zero of a fresh run, or was stored from an exception whose
`on_exception` passed its check. -/
def IdFromChecked (log : List Access) (ctx : ExceptionCtx) : Prop :=
  ctx.threadId = 0 ∨ Checked log fun e => ctx.threadId = e.threadId

theorem IdFromChecked.mono {log log' : List Access} {ctx : ExceptionCtx}
    (h : IdFromChecked log ctx) (hl : log <+: log') : IdFromChecked log' ctx :=
  h.imp_right (·.mono hl)

/-- What every world reached from a fresh start satisfies. -/
structure DumpInv (h : Host fuzzArenaSize) (w : World fuzzArenaSize) : Prop where
  /-- `crashed` is set only after some check passed. -/
  crashed : w.fuzzer.crashed = true → Checked w.log fun _ => True
  /-- The snapshot's thread id is a zero or what a passed check stored. -/
  snapshot : IdFromChecked w.log w.fuzzer.fuzzExceptionCtx
  /-- A thread about to dump comes after some check passed. -/
  dumping : ∀ u status, w.pcs u = .exitDump status → Checked w.log fun _ => True
  /-- A dump went to the server's path, with such a thread id, after some check passed. -/
  minidump : ∀ path ctx, w.minidump = some (path, ctx) →
    path = h.exitEnv.initialDumpPath ∧ IdFromChecked w.log ctx ∧ Checked w.log fun _ => True

theorem exitDump_update {pcs : Nat → ThreadPc} {t : Nat} {pc : ThreadPc}
    (hpc : ∀ status, pc ≠ .exitDump status) (u status : Nat)
    (h : Function.update pcs t pc u = .exitDump status) : pcs u = .exitDump status := by
  rw [Function.update_apply] at h
  split at h
  · exact absurd h (hpc status)
  · exact h

namespace DumpInv

variable {h : Host fuzzArenaSize} {w w' : World fuzzArenaSize}

theorem init (s : Fuzzer fuzzArenaSize) (hc : s.crashed = false)
    (hx : s.fuzzExceptionCtx = .empty) : DumpInv h (World.init s) where
  crashed hc' := by simp [World.init, hc] at hc'
  snapshot := by rw [World.init, hx]; exact .inl rfl
  dumping _ _ hu := by cases hu
  minidump _ _ hm := by cases hm

/-- A step that stores into `crashed` or the snapshot only what a passed check justifies, writes
no dump, and starts no dump that no passed check justifies. -/
theorem of_store (hi : DumpInv h w) (hlog : w.log <+: w'.log)
    (hc : w'.fuzzer.crashed = true → Checked w'.log fun _ => True)
    (hx : IdFromChecked w'.log w'.fuzzer.fuzzExceptionCtx) (hm : w'.minidump = w.minidump)
    (hd : ∀ u status, w'.pcs u = .exitDump status →
      w.pcs u = .exitDump status ∨ Checked w'.log fun _ => True) : DumpInv h w' where
  crashed := hc
  snapshot := hx
  dumping u st hu := (hd u st hu).elim (fun hu => (hi.dumping u st hu).mono hlog) id
  minidump p ctx hp :=
    let ⟨h1, h2, h3⟩ := hi.minidump p ctx (hm ▸ hp)
    ⟨h1, h2.mono hlog, h3.mono hlog⟩

/-- A step that leaves `crashed` unset if it was, the snapshot and the dump alone, and starts
no dump. -/
theorem frame (hi : DumpInv h w) (hlog : w.log <+: w'.log)
    (hc : w'.fuzzer.crashed = true → w.fuzzer.crashed = true)
    (hx : w'.fuzzer.fuzzExceptionCtx = w.fuzzer.fuzzExceptionCtx) (hm : w'.minidump = w.minidump)
    (hd : ∀ u status, w'.pcs u = .exitDump status → w.pcs u = .exitDump status) :
    DumpInv h w' :=
  hi.of_store hlog (fun h' => (hi.crashed (hc h')).mono hlog)
    (by rw [hx]; exact hi.snapshot.mono hlog) hm fun u st hu => .inl (hd u st hu)

/-- **Every step keeps the invariant.** -/
theorem step (hi : DumpInv h w) (hw : Wf w) (a : Action) : DumpInv h (w.step h a) := by
  cases hp : w.phase with
  | running =>
    cases a with
    | raise t e =>
      simp only [World.step, hp, start]; split
      · exact hi.frame (List.prefix_refl _) id rfl rfl (exitDump_update nofun)
      · exact hi
    | postHook t hook =>
      simp only [World.step, hp, start, beginHook]; split
      · split
        · exact hi.frame (List.prefix_refl _) id rfl rfl (exitDump_update nofun)
        · next hn =>
          obtain ⟨hf, -⟩ := PostHook.run_of_mutateInfo_none hn w.fuzzer
          exact hi.frame (List.prefix_refl _) (by rw [setFuzzer_fuzzer, hf]; split <;> exact id)
            (by rw [setFuzzer_fuzzer, hf]; split <;> rfl) rfl fun _ _ => id
      · exact hi
    | appExit t status =>
      simp only [World.step, hp, start]; split
      · exact hi.frame (by simp) (by simp) (by simp) (by simp)
          (by rw [(beginExit_eq w t status).2]; exact exitDump_update (by split <;> nofun))
      · exact hi
    | advance t =>
      cases hpc : w.pcs t <;> simp only [World.step, hp, advance, hpc]
      case running | halted => exact hi
      case exceptionCheck e =>
        split
        · exact hi.frame (List.prefix_append _ _) id rfl rfl fun _ _ => id
        · exact hi.frame (List.prefix_append _ _) id rfl rfl (exitDump_update nofun)
      case exceptionCrashed e =>
        have hc := hw.capture_logged t e (by rw [hpc]; rfl)
        exact hi.of_store (List.prefix_append _ _)
          (fun _ => ⟨t, e, List.mem_append_left _ hc, trivial⟩)
          (hi.snapshot.mono (List.prefix_append _ _)) rfl
          fun u st hu => .inl (exitDump_update (by nofun) u st hu)
      case exceptionThreadId e =>
        have hc := hw.capture_logged t e (by rw [hpc]; rfl)
        exact hi.of_store (List.prefix_append _ _)
          (fun hc' => (hi.crashed hc').mono (List.prefix_append _ _))
          (.inr ⟨t, e, List.mem_append_left _ hc, rfl⟩) rfl
          fun u st hu => .inl (exitDump_update (by nofun) u st hu)
      case exceptionContext e | exceptionRecord e =>
        exact hi.of_store (List.prefix_append _ _)
          (fun hc' => (hi.crashed hc').mono (List.prefix_append _ _))
          (hi.snapshot.mono (List.prefix_append _ _)) rfl
          fun u st hu => .inl (exitDump_update (by nofun) u st hu)
      case mutateLoad info env | mutateStore info env count | exitLatch status =>
        exact hi.frame (List.prefix_append _ _) id rfl rfl (exitDump_update nofun)
      case mutateFailed =>
        exact hi.frame (List.prefix_append _ _) nofun rfl rfl (exitDump_update nofun)
      case mutateRest info env count =>
        obtain ⟨hf, -⟩ := mutateFrom_spec w.fuzzer (buildMutation info count) env
        exact hi.frame (List.prefix_refl _) (by simp [hf]) (by simp [hf]) rfl
          (exitDump_update (by split <;> nofun))
      case exitProcess status =>
        exact hi.frame (by simp) (by simp) (by simp) (by simp)
          (by rw [(beginExit_eq w t status).2]; exact exitDump_update (by split <;> nofun))
      case exitCheck status =>
        split
        · next hc =>
          exact hi.of_store (List.prefix_append _ _)
            (fun _ => (hi.crashed hc).mono (List.prefix_append _ _))
            (hi.snapshot.mono (List.prefix_append _ _)) rfl fun u st hu => by
              rw [note_pcs, move_pcs, Function.update_apply] at hu
              split at hu
              · exact .inr ((hi.crashed hc).mono (List.prefix_append _ _))
              · exact .inl hu
        · exact hi.frame (List.prefix_append _ _) id rfl rfl (exitDump_update nofun)
      case exitDump status =>
        have hlog := List.prefix_append w.log [.loadContext t w.fuzzer.fuzzExceptionCtx]
        refine ⟨fun hc' => (hi.crashed hc').mono hlog, hi.snapshot.mono hlog,
          fun u st hu => (hi.dumping u st (exitDump_update (by nofun) u st hu)).mono hlog, ?_⟩
        rintro p ctx ⟨⟩
        exact ⟨rfl, hi.snapshot.mono hlog, (hi.dumping t status hpc).mono hlog⟩
      case exitFinish status =>
        rw [finishExit_eq]
        exact hi.frame (List.prefix_refl _) id rfl rfl fun _ _ => id
  | _ => simp only [World.step, hp]; exact hi

end DumpInv

theorem dumpInv_run (h : Host fuzzArenaSize) (s : Fuzzer fuzzArenaSize) (hc : s.crashed = false)
    (hx : s.fuzzExceptionCtx = .empty) (acts : List Action) :
    DumpInv h ((World.init s).run h acts) :=
  (run_induction (fun w => Wf w ∧ DumpInv h w)
    (fun _ a hw => ⟨hw.1.step h a, hw.2.step hw.1 a⟩) ⟨wf_init s, .init s hc hx⟩ acts).2

end World

/-- **No dump without a crash, and no thread id in it that no crash produced.**  From the
globals `dr_client_main` sets up, in any interleaving of any steps of any number of threads: a
dump that `on_dr_exit` wrote went to the path the server gave, some `on_exception` passed its
check of `exiting` before it, and the dumped thread id is either the zero of a fresh run or was
stored from an exception whose `on_exception` passed its check. -/
theorem dump_from_checked {fuzzArenaSize : Nat} (o : Options) (h : Host fuzzArenaSize)
    (s : Session fuzzArenaSize) (hstart : drClientMain o h = some s) (acts : List Action)
    (path : String) (ctx : ExceptionCtx)
    (hdump : ((World.init s.fuzzer).run h acts).minidump = some (path, ctx)) :
    path = h.exitEnv.initialDumpPath ∧
      (∃ t e, Access.loadExiting t e false ∈ ((World.init s.fuzzer).run h acts).log) ∧
      (ctx.threadId = 0 ∨ ∃ t e, Access.loadExiting t e false ∈
        ((World.init s.fuzzer).run h acts).log ∧ ctx.threadId = e.threadId) := by
  have hf := (drClientMain_eq_some hstart).1
  obtain ⟨hp, hx, t, e, hm, -⟩ := (World.dumpInv_run h s.fuzzer (by rw [hf]; rfl)
    (by rw [hf]; rfl) acts).minidump path ctx hdump
  exact ⟨hp, ⟨t, e, hm⟩, hx⟩

/-- Thread 1 faults and stores `crashed`; before it stores the thread id, thread 0 exits, finds
`crashed` set and dumps the snapshot, still the zero of a fresh run. -/
def halfWritten : List Action :=
  [.raise 1 accessViolation, .advance 1, .advance 1, .appExit 0 0, .advance 0, .advance 0,
    .advance 0, .advance 0]

theorem dump_from_checked_halfWritten :
    drClientMain sampleOptions sampleHost = some sampleSession ∧
      ((World.init sampleSession.fuzzer).run sampleHost halfWritten).minidump =
        some (sampleHost.exitEnv.initialDumpPath, .empty) ∧
      (sampleHost.exitEnv.initialDumpPath = sampleHost.exitEnv.initialDumpPath ∧
        (∃ t e, Access.loadExiting t e false ∈
          ((World.init sampleSession.fuzzer).run sampleHost halfWritten).log) ∧
        (ExceptionCtx.empty.threadId = 0 ∨ ∃ t e, Access.loadExiting t e false ∈
          ((World.init sampleSession.fuzzer).run sampleHost halfWritten).log ∧
            ExceptionCtx.empty.threadId = e.threadId)) := by
  have hs : drClientMain sampleOptions sampleHost = some sampleSession := rfl
  have hd : ((World.init sampleSession.fuzzer).run sampleHost halfWritten).minidump =
      some (sampleHost.exitEnv.initialDumpPath, .empty) := by
    decide
  exact ⟨hs, hd, dump_from_checked _ _ _ hs _ _ _ hd⟩

end SiennaLocomotive
