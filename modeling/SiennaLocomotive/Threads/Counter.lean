import Mathlib.Data.List.Nodup
import SiennaLocomotive.Threads.Capture

/-!
# `mut_count++` between threads

`mutate` numbers its record with `mut_count++`, a load of the global followed by a separate
store, with no lock and no atomic.  Two post-hooks in two threads can both load the same value,
both store its successor, and both register a record with the same counter
(`registeredCounters_duplicate`): one increment is lost.

What the code does guarantee is what a lock or an atomic increment would enforce: if no store of
`mut_count` overwrites a value other than the one its thread loaded (`Access.lostUpdate`), and
there are fewer than `2 ^ 32` increments, then no two registered records share a counter, in any
interleaving of any number of threads (`registeredCounters_nodup`).  The proof follows the
counters a run hands out: with no lost update, the `k`-th store writes `c₀ + k + 1`, so the
values handed out are `c₀, …, c₀ + k - 1`, distinct while `k < 2 ^ 32`; each of them is held by
at most one thread between its store and its registration, and registered at most once.
-/

set_option autoImplicit false

namespace SiennaLocomotive

/-- The counter a thread holds from its store of `mut_count` to the registration of its
record. -/
def ThreadPc.heldCount : ThreadPc → Option UInt32
  | .mutateRest _ _ count => some count
  | _ => none

/-- The store half of a `mut_count++`. -/
def Access.isCountStore : Access → Bool
  | .storeMutCount .. => true
  | _ => false

/-- A store of `mut_count` over a value other than the one its thread loaded: the increment
another thread made in between is lost. -/
def Access.lostUpdate : Access → Bool
  | .storeMutCount _ loaded overwritten => loaded != overwritten
  | _ => false

namespace World

variable {fuzzArenaSize : Nat}

/-- The counters of the mutation records sent with `sl2_conn_register_mutation`, in order. -/
def registeredCounters (w : World fuzzArenaSize) : List UInt32 :=
  (registeredMutations w.fuzzer.requests).map Mutation.mutCount

/-- The number of increments of `mut_count` so far. -/
def countStores (w : World fuzzArenaSize) : Nat := w.log.countP Access.isCountStore

/-! ## What a step does to the counters -/

theorem heldCount_update (pcs : Nat → ThreadPc) (t : Nat) (pc : ThreadPc) (u : Nat) :
    (Function.update pcs t pc u).heldCount = if u = t then pc.heldCount else (pcs u).heldCount := by
  rw [Function.update_apply]; split <;> rfl

theorem heldCount_update_of_none {pcs : Nat → ThreadPc} {t : Nat} {pc : ThreadPc}
    (h₁ : (pcs t).heldCount = none) (h₂ : pc.heldCount = none) (u : Nat) :
    (Function.update pcs t pc u).heldCount = (pcs u).heldCount := by
  rw [heldCount_update]; split <;> simp_all

/-- A step that leaves `mut_count`, the registered counters, the number of increments and the
counters the threads hold as they were. -/
structure CounterFrame (w w' : World fuzzArenaSize) : Prop where
  mutCount : w'.fuzzer.mutCount = w.fuzzer.mutCount
  registered : w'.registeredCounters = w.registeredCounters
  stores : w'.countStores = w.countStores
  held : ∀ u, (w'.pcs u).heldCount = (w.pcs u).heldCount

theorem counterFrame_step {w : World fuzzArenaSize} {s : Fuzzer fuzzArenaSize} {t : Nat}
    {pc : ThreadPc} {x : Access} (hm : s.mutCount = w.fuzzer.mutCount)
    (hr : registeredMutations s.requests = registeredMutations w.fuzzer.requests)
    (hpc : (w.pcs t).heldCount = none) (hpc' : pc.heldCount = none) (hx : x.isCountStore = false) :
    CounterFrame w (((w.setFuzzer s).move t pc).note x) :=
  ⟨hm, by simp [registeredCounters, hr], by simp [countStores, hx],
    heldCount_update_of_none hpc hpc'⟩

/-- **What a step does to the counters**: nothing, or one thread's store of `mut_count`, or one
thread's registration of the record numbered with the counter it holds. -/
theorem step_counter (h : Host fuzzArenaSize) (w : World fuzzArenaSize) (a : Action) :
    CounterFrame w (w.step h a) ∨
      (∃ t info env count, w.pcs t = .mutateStore info env count ∧
        (w.step h a).fuzzer.mutCount = count + 1 ∧
        (w.step h a).registeredCounters = w.registeredCounters ∧
        (w.step h a).log = w.log ++ [.storeMutCount t count w.fuzzer.mutCount] ∧
        ∀ u, ((w.step h a).pcs u).heldCount = if u = t then some count else (w.pcs u).heldCount) ∨
      (∃ t count, (w.pcs t).heldCount = some count ∧
        (w.step h a).fuzzer.mutCount = w.fuzzer.mutCount ∧
        (w.step h a).registeredCounters = w.registeredCounters ++ [count] ∧
        (w.step h a).countStores = w.countStores ∧
        ∀ u, ((w.step h a).pcs u).heldCount = if u = t then none else (w.pcs u).heldCount) := by
  cases hp : w.phase with
  | running =>
    cases a with
    | raise t e =>
      left; simp only [step, hp, start]; split
      · next hpc => exact ⟨rfl, rfl, rfl, heldCount_update_of_none (by simp [hpc, ThreadPc.heldCount]) rfl⟩
      · exact ⟨rfl, rfl, rfl, fun _ => rfl⟩
    | postHook t hook =>
      left; simp only [step, hp, start]; split
      · next hpc =>
        have hn : (w.pcs t).heldCount = none := by simp [hpc, ThreadPc.heldCount]
        unfold beginHook; split
        · exact ⟨rfl, rfl, rfl, heldCount_update_of_none hn rfl⟩
        · next hi =>
          obtain ⟨hf, -⟩ := PostHook.run_of_mutateInfo_none hi w.fuzzer
          refine ⟨?_, ?_, rfl, fun _ => rfl⟩ <;> simp only [setFuzzer_fuzzer, hf] <;> split <;> rfl
      · exact ⟨rfl, rfl, rfl, fun _ => rfl⟩
    | appExit t status =>
      left; simp only [step, hp, start]; split
      · next hpc =>
        refine ⟨by simp, by simp [registeredCounters], by simp [countStores], ?_⟩
        rw [(beginExit_eq w t status).2]
        exact heldCount_update_of_none (by simp [hpc, ThreadPc.heldCount])
          (by split <;> rfl)
      · exact ⟨rfl, rfl, rfl, fun _ => rfl⟩
    | advance t =>
      generalize hw' : w.step h (.advance t) = w'
      cases hpc : w.pcs t <;> simp only [step, hp, advance, hpc] at hw' <;> subst hw'
      case running | halted => exact .inl ⟨rfl, rfl, rfl, fun _ => rfl⟩
      case exceptionCheck e =>
        left; split
        · exact ⟨rfl, rfl, by simp [countStores, Access.isCountStore], fun _ => rfl⟩
        · exact counterFrame_step (s := w.fuzzer) rfl rfl (by rw [hpc]; rfl) rfl rfl
      case exceptionCrashed e | exceptionThreadId e | exceptionContext e | exceptionRecord e
        | mutateLoad info env | mutateFailed | exitLatch status =>
        exact .inl (counterFrame_step rfl rfl (by rw [hpc]; rfl) rfl rfl)
      case mutateStore info env count =>
        refine .inr (.inl ⟨t, info, env, count, hpc, rfl, rfl, rfl, fun u => ?_⟩)
        rw [note_pcs, move_pcs, heldCount_update]; rfl
      case mutateRest info env count =>
        obtain ⟨hf, -⟩ := mutateFrom_spec w.fuzzer (buildMutation info count) env
        refine .inr (.inr ⟨t, count, by rw [hpc]; rfl, by simp [hf], ?_, rfl, fun u => ?_⟩)
        · simp only [registeredCounters, move_fuzzer, setFuzzer_fuzzer, hf,
            registeredMutations_append, registeredMutations_mutationRequests, List.map_append]
          rfl
        · rw [move_pcs, heldCount_update]; split <;> (try split) <;> rfl
      case exitProcess status =>
        refine .inl ⟨by simp, by simp [registeredCounters], by simp [countStores], ?_⟩
        rw [(beginExit_eq w t status).2]
        exact heldCount_update_of_none (by rw [hpc]; rfl) (by split <;> rfl)
      case exitCheck status =>
        left; split
        · exact counterFrame_step rfl (by simp [registeredMutations]) (by rw [hpc]; rfl) rfl rfl
        · exact counterFrame_step (s := w.fuzzer) rfl rfl (by rw [hpc]; rfl) rfl rfl
      case exitDump status =>
        exact .inl ⟨rfl, rfl, by simp [countStores, Access.isCountStore],
          heldCount_update_of_none (by rw [hpc]; rfl) rfl⟩
      case exitFinish status =>
        left; rw [finishExit_eq]
        refine ⟨rfl, ?_, rfl, fun _ => rfl⟩
        split <;> simp [registeredCounters, registeredMutations]
  | _ => left; simp only [step, hp]; exact ⟨rfl, rfl, rfl, fun _ => rfl⟩

/-! ## The counters a run hands out -/

/-- `v` is one of the first `k` counters handed out from `c₀`: `c₀ + i` for some `i < k`, in
32-bit arithmetic. -/
def Issued (c₀ : UInt32) (k : Nat) (v : UInt32) : Prop :=
  ∃ i < k, v.toNat = (c₀.toNat + i) % 2 ^ 32

theorem Issued.succ {c₀ : UInt32} {k : Nat} {v : UInt32} (h : Issued c₀ k v) :
    Issued c₀ (k + 1) v :=
  let ⟨i, hi, hv⟩ := h; ⟨i, by omega, hv⟩

/-- The next counter has not been handed out yet, while fewer than `2 ^ 32` have been. -/
theorem not_issued {c₀ : UInt32} {k : Nat} {v : UInt32} (hk : k < 2 ^ 32)
    (hv : v.toNat = (c₀.toNat + k) % 2 ^ 32) : ¬ Issued c₀ k v := by
  rintro ⟨i, hi, hv'⟩
  omega

/-- The invariant of a run that began with `mut_count = c₀` and no record registered:
`mut_count` is `c₀` plus the number of increments, and every counter registered or held by a
thread has been handed out, by one thread, and registered at most once. -/
structure CounterInv (c₀ : UInt32) (w : World fuzzArenaSize) : Prop where
  mutCount_eq : w.fuzzer.mutCount.toNat = (c₀.toNat + w.countStores) % 2 ^ 32
  registered_issued : ∀ v ∈ w.registeredCounters, Issued c₀ w.countStores v
  held_issued : ∀ u v, (w.pcs u).heldCount = some v → Issued c₀ w.countStores v
  registered_nodup : w.registeredCounters.Nodup
  held_not_registered : ∀ u v, (w.pcs u).heldCount = some v → v ∉ w.registeredCounters
  held_unique : ∀ u u' v, (w.pcs u).heldCount = some v → (w.pcs u').heldCount = some v → u = u'

theorem counterInv_init (s : Fuzzer fuzzArenaSize) (hs : registeredMutations s.requests = []) :
    CounterInv s.mutCount (init s) where
  mutCount_eq := by simp [countStores, init, Nat.mod_eq_of_lt (UInt32.toNat_lt _)]
  registered_issued := by simp [registeredCounters, init, hs]
  held_issued := by simp [init, ThreadPc.heldCount]
  registered_nodup := by simp [registeredCounters, init, hs]
  held_not_registered := by simp [init, ThreadPc.heldCount]
  held_unique := by simp [init, ThreadPc.heldCount]

namespace CounterInv

variable {c₀ : UInt32} {w w' : World fuzzArenaSize}

theorem of_frame (hi : CounterInv c₀ w) (hf : CounterFrame w w') : CounterInv c₀ w' where
  mutCount_eq := by rw [hf.mutCount, hf.stores]; exact hi.mutCount_eq
  registered_issued := by rw [hf.registered, hf.stores]; exact hi.registered_issued
  held_issued u v := by rw [hf.held, hf.stores]; exact hi.held_issued u v
  registered_nodup := by rw [hf.registered]; exact hi.registered_nodup
  held_not_registered u v := by rw [hf.held, hf.registered]; exact hi.held_not_registered u v
  held_unique u u' v := by rw [hf.held, hf.held]; exact hi.held_unique u u' v

/-- A store of `mut_count` that loses no update hands out a fresh counter. -/
theorem of_store (hi : CounterInv c₀ w) {t : Nat} {count : UInt32}
    (hcount : count = w.fuzzer.mutCount) (hk : w.countStores + 1 < 2 ^ 32)
    (hm : w'.fuzzer.mutCount = count + 1) (hr : w'.registeredCounters = w.registeredCounters)
    (hs : w'.countStores = w.countStores + 1)
    (hh : ∀ u, (w'.pcs u).heldCount = if u = t then some count else (w.pcs u).heldCount) :
    CounterInv c₀ w' := by
  have hfresh : ¬ Issued c₀ w.countStores count :=
    not_issued (by omega) (hcount ▸ hi.mutCount_eq)
  have hnew : Issued c₀ (w.countStores + 1) count :=
    ⟨w.countStores, by omega, hcount ▸ hi.mutCount_eq⟩
  refine ⟨?_, ?_, ?_, ?_, ?_, ?_⟩
  · rw [hm, hs, UInt32.toNat_add, hcount, hi.mutCount_eq]
    show ((c₀.toNat + w.countStores) % 2 ^ 32 + 1) % 2 ^ 32 =
      (c₀.toNat + (w.countStores + 1)) % 2 ^ 32
    omega
  · rw [hr, hs]; exact fun v hv => (hi.registered_issued v hv).succ
  · intro u v hv
    rw [hh] at hv; rw [hs]
    split at hv
    · cases hv; exact hnew
    · exact (hi.held_issued u v hv).succ
  · rw [hr]; exact hi.registered_nodup
  · intro u v hv
    rw [hh] at hv; rw [hr]
    split at hv
    · cases hv; exact fun hmem => hfresh (hi.registered_issued _ hmem)
    · exact hi.held_not_registered u v hv
  · intro u u' v hv hv'
    rw [hh] at hv hv'
    split at hv <;> split at hv'
    · subst_vars; rfl
    · cases hv; exact absurd (hi.held_issued _ _ hv') hfresh
    · cases hv'; exact absurd (hi.held_issued _ _ hv) hfresh
    · exact hi.held_unique u u' v hv hv'

/-- The registration of a held counter keeps the registered counters distinct. -/
theorem of_register (hi : CounterInv c₀ w) {t : Nat} {count : UInt32}
    (ht : (w.pcs t).heldCount = some count) (hm : w'.fuzzer.mutCount = w.fuzzer.mutCount)
    (hr : w'.registeredCounters = w.registeredCounters ++ [count])
    (hs : w'.countStores = w.countStores)
    (hh : ∀ u, (w'.pcs u).heldCount = if u = t then none else (w.pcs u).heldCount) :
    CounterInv c₀ w' := by
  refine ⟨?_, ?_, ?_, ?_, ?_, ?_⟩
  · rw [hm, hs]; exact hi.mutCount_eq
  · intro v hv
    rw [hr, List.mem_append, List.mem_singleton] at hv; rw [hs]
    rcases hv with hv | rfl
    · exact hi.registered_issued v hv
    · exact hi.held_issued t _ ht
  · intro u v hv
    rw [hh] at hv; rw [hs]
    split at hv
    · cases hv
    · exact hi.held_issued u v hv
  · rw [hr, List.nodup_append]
    exact ⟨hi.registered_nodup, List.nodup_singleton _,
      fun _ hx hy => hi.held_not_registered t count ht (List.mem_singleton.1 hy ▸ hx)⟩
  · intro u v hv
    rw [hh] at hv; rw [hr, List.mem_append, List.mem_singleton]
    split at hv
    · cases hv
    · rintro (hmem | rfl)
      · exact hi.held_not_registered u v hv hmem
      · exact ‹¬u = t› (hi.held_unique u t _ hv ht)
  · intro u u' v hv hv'
    rw [hh] at hv hv'
    split at hv
    · cases hv
    · split at hv'
      · cases hv'
      · exact hi.held_unique u u' v hv hv'

/-- One step keeps the invariant, provided the step loses no update and hands out fewer than
`2 ^ 32` counters in all. -/
theorem step (hi : CounterInv c₀ w) (h : Host fuzzArenaSize) (a : Action)
    (hl : ∀ x ∈ (w.step h a).log, x.lostUpdate = false)
    (hc : (w.step h a).countStores < 2 ^ 32) : CounterInv c₀ (w.step h a) := by
  rcases step_counter h w a with hf | ⟨t, -, -, count, -, hm, hr, hlog, hh⟩ |
    ⟨t, count, ht, hm, hr, hs, hh⟩
  · exact hi.of_frame hf
  · have hs : (w.step h a).countStores = w.countStores + 1 := by
      simp [countStores, hlog, Access.isCountStore]
    have hcount : count = w.fuzzer.mutCount := by
      have := hl (.storeMutCount t count w.fuzzer.mutCount) (by simp [hlog])
      simpa [Access.lostUpdate] using this
    exact hi.of_store hcount (hs ▸ hc) hm hr hs hh
  · exact hi.of_register ht hm hr hs hh

theorem run (hi : CounterInv c₀ w) (h : Host fuzzArenaSize) (acts : List Action)
    (hl : ∀ x ∈ (w.run h acts).log, x.lostUpdate = false)
    (hc : (w.run h acts).countStores < 2 ^ 32) : CounterInv c₀ (w.run h acts) := by
  induction acts generalizing w with
  | nil => exact hi
  | cons a acts ih =>
    have hp := run_log_extends h (w.step h a) acts
    exact ih (hi.step h a (fun x hx => hl x (hp.subset hx)) ((hp.countP_le _).trans_lt hc)) hl hc

end CounterInv

end World

/-! ## Distinct counters, and how they fail -/

/-- **No two registered records share a counter**, in any interleaving of any number of threads,
provided no store of `mut_count` loses another thread's increment and fewer than `2 ^ 32`
increments are made. -/
theorem registeredCounters_nodup {fuzzArenaSize : Nat} (h : Host fuzzArenaSize)
    (s : Fuzzer fuzzArenaSize) (hs : registeredMutations s.requests = []) (acts : List Action)
    (hlost : ∀ x ∈ ((World.init s).run h acts).log, x.lostUpdate = false)
    (hcount : ((World.init s).run h acts).countStores < 2 ^ 32) :
    ((World.init s).run h acts).registeredCounters.Nodup :=
  ((World.counterInv_init s hs).run h acts hlost hcount).registered_nodup

/-- Two threads take turns through `mut_count++`: each loads after the other's store. -/
def takingTurns : List Action :=
  [.postHook 0 (sampleRead .ok), .postHook 1 (sampleRead .ok), .advance 0, .advance 0, .advance 1,
    .advance 0, .advance 1, .advance 1]

theorem registeredCounters_nodup_sample :
    registeredMutations sampleStart.requests = [] ∧
      (∀ x ∈ ((World.init sampleStart).run sampleHost takingTurns).log, x.lostUpdate = false) ∧
      ((World.init sampleStart).run sampleHost takingTurns).countStores < 2 ^ 32 ∧
      ((World.init sampleStart).run sampleHost takingTurns).registeredCounters.Nodup := by
  have hs : registeredMutations sampleStart.requests = [] := by decide
  have hl : ∀ x ∈ ((World.init sampleStart).run sampleHost takingTurns).log,
      x.lostUpdate = false := by decide
  have hc : ((World.init sampleStart).run sampleHost takingTurns).countStores < 2 ^ 32 := by
    decide
  exact ⟨hs, hl, hc, registeredCounters_nodup sampleHost sampleStart hs _ hl hc⟩

/-- Two threads both load `mut_count` before either stores. -/
def interleavedIncrements : List Action :=
  [.postHook 0 (sampleRead .ok), .postHook 1 (sampleRead .ok), .advance 0, .advance 1, .advance 0,
    .advance 1, .advance 0, .advance 1]

/-- **A lost update.**  Two threads both load `mut_count = 0` before either stores: both store
`1`, the second over the first's, and both register a record numbered `0`, after only two
increments. -/
theorem registeredCounters_duplicate :
    ((World.init sampleStart).run sampleHost interleavedIncrements).registeredCounters = [0, 0] ∧
      ((World.init sampleStart).run sampleHost interleavedIncrements).log =
        [.loadMutCount 0 0, .loadMutCount 1 0, .storeMutCount 0 0 0, .storeMutCount 1 0 1] := by
  decide

end SiennaLocomotive
