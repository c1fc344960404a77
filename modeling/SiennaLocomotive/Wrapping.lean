import SiennaLocomotive.Outcome

/-!
# The functions a run wraps

`on_module_load` calls `drwrap_wrap` once for each function it hooks in a module that has just
loaded (`moduleWraps`).  Over a whole run those calls pile up in the session, and nothing else
ever changes them or the target list `client.parsedJson` they are chosen by.  This file follows
them from one module to the whole run.

## What is here

* `SelectedWrap` — what the hook-selection half of `on_module_load` asks of a wrap: a function
  of `pre_hooks` with its own pre-hook, in its expected module, accepted by the selection loop,
  at the address the module exports it at, with the post-hook `post_hooks` gives it.
  `mem_moduleWraps` and `SelectedWrap.mem_moduleWraps` show that the wraps of one module are the
  mitigations and exactly the selected wraps.
* `Session.run_wraps` — after any run, the wraps are those of the load events the run handled
  (`Session.Handled`), in order, chosen by the target list the session started with.
* `wraps_of_run` — **the client wraps only what the target list selects, and all of it**: from
  the session `dr_client_main` starts, every `drwrap_wrap` call of a run is a mitigation or a
  selected wrap in a module whose load the run handled, and every selected wrap in such a module
  was made, whatever was unloaded since.
-/

set_option autoImplicit false

namespace SiennaLocomotive

/-! ## The wraps of one module -/

/-- The functions the `__fastfail` and Application Verifier mitigations wrap, whatever the
target list says. -/
def mitigationNames : List String :=
  ["IsProcessorFeaturePresent", "UnhandledExceptionFilter", "VerifierStopMessage",
    "VerifierStopMessageEx"]

/-- What the selection loop of `on_module_load` asks of a wrap of `mod`. -/
structure SelectedWrap (opRegistry : Bool) (functionIsInExpectedModule : String → String → Bool)
    (parsedJson : List TargetFunction) (mod : ModuleData) (w : Wrap) : Prop where
  /-- The function is in `pre_hooks`, with this pre-hook. -/
  preHook : (w.functionName, w.preHook) ∈ preHooks opRegistry
  /-- `client.function_is_in_expected_module`. -/
  expected : functionIsInExpectedModule w.functionName mod.preferredName = true
  /-- The loop over `client.parsedJson` ends with `hook` set. -/
  selected : hookDecision parsedJson w.functionName = true
  /-- `towrap`, which is not `NULL`. -/
  towrap : drGetProcAddress mod w.functionName = some w.towrap
  /-- `post_hooks[function_name]`. -/
  postHook : w.postHook = some (postHookOf w.functionName)

section OneModule

variable {opRegistry : Bool} {functionIsInExpectedModule : String → String → Bool}
  {parsedJson : List TargetFunction} {mod : ModuleData} {w : Wrap}

/-- A wrap of one module is a mitigation or a selected wrap. -/
theorem mem_moduleWraps
    (hw : w ∈ moduleWraps opRegistry functionIsInExpectedModule parsedJson mod) :
    w.functionName ∈ mitigationNames ∨
      SelectedWrap opRegistry functionIsInExpectedModule parsedJson mod w := by
  simp only [moduleWraps, List.mem_append, List.mem_filterMap] at hw
  rcases hw with (hw | hw) | ⟨⟨f, p⟩, hp, hw⟩
  case inl.inl | inl.inr =>
    left
    split at hw
    · simp only [List.mem_cons, List.not_mem_nil, or_false] at hw
      rcases hw with rfl | rfl <;> simp [mitigationNames]
    · cases hw
  case inr =>
    right
    split at hw
    · next hsel =>
      obtain ⟨addr, ha, rfl⟩ := Option.map_eq_some'.1 hw
      simp only [Bool.and_eq_true] at hsel
      exact ⟨hp, hsel.1, hsel.2, ha, rfl⟩
    · cases hw

/-- Every selected wrap of a module is made when it loads. -/
theorem SelectedWrap.mem_moduleWraps
    (hw : SelectedWrap opRegistry functionIsInExpectedModule parsedJson mod w) :
    w ∈ moduleWraps opRegistry functionIsInExpectedModule parsedJson mod := by
  simp only [moduleWraps, List.mem_append, List.mem_filterMap]
  refine .inr ⟨(w.functionName, w.preHook), hw.preHook, ?_⟩
  simp only [hw.expected, hw.selected, Bool.and_self, if_true, hw.towrap, Option.map_some',
    ← hw.postHook]

end OneModule

/-! ## The wraps of a run -/

/-- The `drwrap_wrap` calls one event makes: those of `on_module_load` for a load, none else. -/
def Event.loadWraps {fuzzArenaSize : Nat} (h : Host fuzzArenaSize)
    (parsedJson : List TargetFunction) : Event → List Wrap
  | .module (.load mod) => moduleWraps h.opRegistry h.functionIsInExpectedModule parsedJson mod
  | _ => []

theorem Event.mem_loadWraps {fuzzArenaSize : Nat} {h : Host fuzzArenaSize}
    {parsedJson : List TargetFunction} {w : Wrap} {e : Event}
    (hw : w ∈ Event.loadWraps h parsedJson e) : ∃ mod, e = .module (.load mod) ∧
      w ∈ moduleWraps h.opRegistry h.functionIsInExpectedModule parsedJson mod := by
  cases e with
  | module e =>
    cases e with
    | load mod => exact ⟨mod, rfl, hw⟩
    | unload mod => cases hw
  | _ => cases hw

namespace Session

variable {fuzzArenaSize : Nat} (h : Host fuzzArenaSize)

theorem afterHook_wraps (s : Session fuzzArenaSize) (r : HookResult fuzzArenaSize) :
    (s.afterHook h r).parsedJson = s.parsedJson ∧ (s.afterHook h r).wraps = s.wraps := by
  unfold afterHook; split <;> exact ⟨rfl, rfl⟩

/-- Only a load adds wraps, and no callback changes the target list. -/
theorem stepRunning_wraps (s : Session fuzzArenaSize) (e : Event) :
    (s.stepRunning h e).parsedJson = s.parsedJson ∧
      (s.stepRunning h e).wraps = s.wraps ++ Event.loadWraps h s.parsedJson e := by
  cases e with
  | module e => cases e <;> exact ⟨rfl, rfl⟩
  | block a first rest =>
    simp only [stepRunning, onBlock, Event.loadWraps, List.append_nil]
    split <;> exact ⟨rfl, rfl⟩
  | postGeneric c => simpa [Event.loadWraps] using afterHook_wraps h s _
  | postMapViewOfFile c v => simpa [Event.loadWraps] using afterHook_wraps h s _
  | exception e =>
    simp only [stepRunning, onException, Event.loadWraps, List.append_nil]
    split <;> exact ⟨rfl, rfl⟩
  | appExit status => exact ⟨rfl, (List.append_nil _).symm⟩

/-- **The wraps of a run.**  Whatever the events, the target list stays the one the session
started with, and the wraps are those of the load events the run handled. -/
theorem run_wraps (s : Session fuzzArenaSize) (hp : s.phase = .running) (evs : List Event) :
    ∃ pre, Handled h s evs pre ∧ (s.run h evs).parsedJson = s.parsedJson ∧
      (s.run h evs).wraps = s.wraps ++ pre.flatMap (Event.loadWraps h s.parsedJson) :=
  exists_handled h (fun pre s' => s'.parsedJson = s.parsedJson ∧
      s'.wraps = s.wraps ++ pre.flatMap (Event.loadWraps h s.parsedJson))
    hp ⟨rfl, (List.append_nil _).symm⟩ (fun pre e s' hp' ⟨hj, hw⟩ => by
      have hstep : s'.step h e = s'.stepRunning h e := by simp [step, hp']
      obtain ⟨hj', hw'⟩ := stepRunning_wraps h s' e
      dsimp only
      rw [hstep, hj', hw', hw, hj, List.flatMap_append, List.flatMap_singleton,
        List.append_assoc]
      exact ⟨rfl, rfl⟩) evs

end Session

theorem wraps_of_drClientMain {fuzzArenaSize : Nat} {o : Options} {h : Host fuzzArenaSize}
    {s : Session fuzzArenaSize} (hs : drClientMain o h = some s) : s.wraps = [] := by
  unfold drClientMain at hs
  split at hs
  · cases hs
  · split at hs
    · cases hs
    · split at hs
      · cases hs
      · cases hs; rfl

/-- **The client wraps only what the target list selects, and all of it.**  From the session
`dr_client_main` starts, whatever the events and answers, with the events the run handled (all
of them while the target runs, those up to and including the one that ended it once it has
ended): every `drwrap_wrap` call the run made is a mitigation or a selected wrap of a module
loaded by one of those events, and every selected wrap of such a module was made, even if the
module was unloaded since. -/
theorem wraps_of_run {fuzzArenaSize : Nat} (o : Options) (h : Host fuzzArenaSize)
    (s : Session fuzzArenaSize) (hstart : drClientMain o h = some s) (evs : List Event) :
    ∃ pre, Session.Handled h s evs pre ∧
      (∀ w ∈ (s.run h evs).wraps, w.functionName ∈ mitigationNames ∨
        ∃ mod, Event.module (.load mod) ∈ pre ∧
          SelectedWrap h.opRegistry h.functionIsInExpectedModule s.parsedJson mod w) ∧
      (∀ mod, Event.module (.load mod) ∈ pre → ∀ w,
        SelectedWrap h.opRegistry h.functionIsInExpectedModule s.parsedJson mod w →
          w ∈ (s.run h evs).wraps) := by
  obtain ⟨pre, hh, -, hw⟩ :=
    Session.run_wraps h s (Session.runningInv_of_drClientMain hstart).phase evs
  rw [hw, wraps_of_drClientMain hstart, List.nil_append]
  refine ⟨pre, hh, fun w hm => ?_, fun mod hl w hs => ?_⟩
  · obtain ⟨e, he, hm⟩ := List.mem_flatMap.1 hm
    obtain ⟨mod, rfl, hm⟩ := Event.mem_loadWraps hm
    exact (mem_moduleWraps hm).imp_right fun hs => ⟨mod, he, hs⟩
  · exact List.mem_flatMap.2 ⟨_, hl, hs.mem_moduleWraps⟩

/-- A `KERNEL32.DLL` that exports `ReadFile` and `recv`. -/
def kernel32Dll : ModuleData :=
  ⟨0x70000#64, 0x80000#64, "C:\\Windows\\System32\\KERNEL32.DLL", "KERNEL32.DLL",
    [("ReadFile", 0x71000#64), ("recv", 0x72000#64)]⟩

theorem wraps_of_run_kernel32 :
    drClientMain guidedOptions sampleHost = some guidedSession ∧
      ∃ pre, Session.Handled sampleHost guidedSession [.module (.load kernel32Dll)] pre ∧
        (∀ w ∈ (guidedSession.run sampleHost [.module (.load kernel32Dll)]).wraps,
          w.functionName ∈ mitigationNames ∨ ∃ mod, Event.module (.load mod) ∈ pre ∧
            SelectedWrap sampleHost.opRegistry sampleHost.functionIsInExpectedModule
              guidedSession.parsedJson mod w) ∧
        (∀ mod, Event.module (.load mod) ∈ pre → ∀ w,
          SelectedWrap sampleHost.opRegistry sampleHost.functionIsInExpectedModule
            guidedSession.parsedJson mod w →
            w ∈ (guidedSession.run sampleHost [.module (.load kernel32Dll)]).wraps) := by
  have hs : drClientMain guidedOptions sampleHost = some guidedSession := rfl
  exact ⟨hs, wraps_of_run _ _ _ hs _⟩

end SiennaLocomotive
