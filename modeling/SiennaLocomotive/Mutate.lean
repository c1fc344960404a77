import SiennaLocomotive.Coverage

/-!
# `mutate` and the two post-hooks that call it

When an intercepted read returns, its post-hook runs: `wrap_post_Generic` for the byte-buffer
reads, `wrap_post_MapViewOfFile` for mapped views.  If the call is one the user targeted, the
hook calls `mutate`, which numbers the mutation with `mut_count++`, asks the server for a
strategy (coverage-guided mode) or lets `do_mutation` pick one, rewrites the buffer in place, and
registers the mutation with the server.  A registration the server refuses ends the run:
`crashed = false; dr_exit_process(1)`.

`Fuzzer` collects the file-level globals these functions share, with `sl2_conn` recorded as the
list of requests sent on it; the mutations applied to target buffers and the functions whose
call count `client.increment_call_count` bumped are recorded the same way.  The verdicts of
`client.is_sane_post_hook` and `client.is_function_targeted`, the server's replies and the
results of the system calls are inputs (`PostCall`, `MutateEnv`, `MapView`), so every theorem
holds for every one of them.

Three things the code does that its own comments do not lead one to expect:

* `mutate` ignores the status `sl2_conn_advise_mutation` returns, so a failed advice request is
  followed by a mutation with whatever strategy the uninitialised `advice` held, and the hook
  returns to the target (`wrapPostGeneric_after_refused_advice`);
* on the path where `is_sane_post_hook` rejects, `goto cleanup` jumps over `info = user_data`,
  and the cleanup then reads `info->source` and `info->argHash` through a pointer that was never
  assigned (`wrapPostGeneric_unassigned_and_unclamped`);
* `wrap_post_Generic` clamps the length only through `lpNumberOfBytesRead`; for `recv` and
  `_read`, which report their count as the return value, the requested count is mutated
  whatever the call returned.
-/

set_option autoImplicit false

namespace SiennaLocomotive

/-! ## The globals -/

/-- A mutation applied to a target buffer. -/
structure AppliedMutation where
  /-- The record handed to the mutator. -/
  mutation : Mutation
  /-- `some k` for `do_mutation_custom(&mutation, k)`, `none` for `do_mutation(&mutation)`. -/
  custom : Option UInt32
  deriving DecidableEq, Repr

/-- The globals of `fuzzer.cpp` that the callbacks share. -/
structure Fuzzer (fuzzArenaSize : Nat) where
  /-- `crashed`. -/
  crashed : Bool
  /-- `exiting`. -/
  exiting : Bool
  /-- `mut_count`. -/
  mutCount : UInt32
  /-- `arena`. -/
  arena : Arena fuzzArenaSize
  /-- `coverage_guided`. -/
  coverageGuided : Bool
  /-- `seen_modules[0..nmodules)`. -/
  seenModules : List ModuleData
  /-- `fuzz_exception_ctx`. -/
  fuzzExceptionCtx : ExceptionCtx
  /-- `sl2_conn`: the requests sent on it, oldest first. -/
  requests : List Request
  /-- The mutations applied to target buffers, oldest first. -/
  applied : List AppliedMutation
  /-- The functions `client.increment_call_count` was called for, oldest first. -/
  callCounts : List Nat

namespace Fuzzer

variable {fuzzArenaSize : Nat}

/-- Send a request on `sl2_conn`. -/
def send (s : Fuzzer fuzzArenaSize) (r : Request) : Fuzzer fuzzArenaSize :=
  { s with requests := s.requests ++ [r] }

/-- `client.increment_call_count(function)`. -/
def incrementCallCount (s : Fuzzer fuzzArenaSize) (function : Nat) : Fuzzer fuzzArenaSize :=
  { s with callCounts := s.callCounts ++ [function] }

/-- Rewrite a target buffer: `do_mutation` (`none`) or `do_mutation_custom` (`some k`). -/
def apply (s : Fuzzer fuzzArenaSize) (m : Mutation) (custom : Option UInt32) :
    Fuzzer fuzzArenaSize :=
  { s with applied := s.applied ++ [⟨m, custom⟩] }

@[simp] theorem send_requests (s : Fuzzer fuzzArenaSize) (r : Request) :
    (s.send r).requests = s.requests ++ [r] := rfl

@[simp] theorem send_mutCount (s : Fuzzer fuzzArenaSize) (r : Request) :
    (s.send r).mutCount = s.mutCount := rfl

@[simp] theorem send_crashed (s : Fuzzer fuzzArenaSize) (r : Request) :
    (s.send r).crashed = s.crashed := rfl

@[simp] theorem send_exiting (s : Fuzzer fuzzArenaSize) (r : Request) :
    (s.send r).exiting = s.exiting := rfl

@[simp] theorem send_arena (s : Fuzzer fuzzArenaSize) (r : Request) :
    (s.send r).arena = s.arena := rfl

@[simp] theorem send_coverageGuided (s : Fuzzer fuzzArenaSize) (r : Request) :
    (s.send r).coverageGuided = s.coverageGuided := rfl

@[simp] theorem send_seenModules (s : Fuzzer fuzzArenaSize) (r : Request) :
    (s.send r).seenModules = s.seenModules := rfl

@[simp] theorem send_fuzzExceptionCtx (s : Fuzzer fuzzArenaSize) (r : Request) :
    (s.send r).fuzzExceptionCtx = s.fuzzExceptionCtx := rfl

@[simp] theorem send_applied (s : Fuzzer fuzzArenaSize) (r : Request) :
    (s.send r).applied = s.applied := rfl

@[simp] theorem incrementCallCount_requests (s : Fuzzer fuzzArenaSize) (f : Nat) :
    (s.incrementCallCount f).requests = s.requests := rfl

@[simp] theorem incrementCallCount_callCounts (s : Fuzzer fuzzArenaSize) (f : Nat) :
    (s.incrementCallCount f).callCounts = s.callCounts ++ [f] := rfl

@[simp] theorem incrementCallCount_applied (s : Fuzzer fuzzArenaSize) (f : Nat) :
    (s.incrementCallCount f).applied = s.applied := rfl

@[simp] theorem incrementCallCount_mutCount (s : Fuzzer fuzzArenaSize) (f : Nat) :
    (s.incrementCallCount f).mutCount = s.mutCount := rfl

@[simp] theorem incrementCallCount_crashed (s : Fuzzer fuzzArenaSize) (f : Nat) :
    (s.incrementCallCount f).crashed = s.crashed := rfl

@[simp] theorem incrementCallCount_exiting (s : Fuzzer fuzzArenaSize) (f : Nat) :
    (s.incrementCallCount f).exiting = s.exiting := rfl

@[simp] theorem incrementCallCount_arena (s : Fuzzer fuzzArenaSize) (f : Nat) :
    (s.incrementCallCount f).arena = s.arena := rfl

@[simp] theorem incrementCallCount_coverageGuided (s : Fuzzer fuzzArenaSize) (f : Nat) :
    (s.incrementCallCount f).coverageGuided = s.coverageGuided := rfl

@[simp] theorem incrementCallCount_seenModules (s : Fuzzer fuzzArenaSize) (f : Nat) :
    (s.incrementCallCount f).seenModules = s.seenModules := rfl

@[simp] theorem incrementCallCount_fuzzExceptionCtx (s : Fuzzer fuzzArenaSize) (f : Nat) :
    (s.incrementCallCount f).fuzzExceptionCtx = s.fuzzExceptionCtx := rfl

@[simp] theorem apply_requests (s : Fuzzer fuzzArenaSize) (m : Mutation) (k : Option UInt32) :
    (s.apply m k).requests = s.requests := rfl

@[simp] theorem apply_applied (s : Fuzzer fuzzArenaSize) (m : Mutation) (k : Option UInt32) :
    (s.apply m k).applied = s.applied ++ [⟨m, k⟩] := rfl

@[simp] theorem apply_mutCount (s : Fuzzer fuzzArenaSize) (m : Mutation) (k : Option UInt32) :
    (s.apply m k).mutCount = s.mutCount := rfl

@[simp] theorem apply_crashed (s : Fuzzer fuzzArenaSize) (m : Mutation) (k : Option UInt32) :
    (s.apply m k).crashed = s.crashed := rfl

@[simp] theorem apply_exiting (s : Fuzzer fuzzArenaSize) (m : Mutation) (k : Option UInt32) :
    (s.apply m k).exiting = s.exiting := rfl

@[simp] theorem apply_arena (s : Fuzzer fuzzArenaSize) (m : Mutation) (k : Option UInt32) :
    (s.apply m k).arena = s.arena := rfl

@[simp] theorem apply_coverageGuided (s : Fuzzer fuzzArenaSize) (m : Mutation)
    (k : Option UInt32) : (s.apply m k).coverageGuided = s.coverageGuided := rfl

@[simp] theorem apply_seenModules (s : Fuzzer fuzzArenaSize) (m : Mutation) (k : Option UInt32) :
    (s.apply m k).seenModules = s.seenModules := rfl

@[simp] theorem apply_fuzzExceptionCtx (s : Fuzzer fuzzArenaSize) (m : Mutation)
    (k : Option UInt32) : (s.apply m k).fuzzExceptionCtx = s.fuzzExceptionCtx := rfl

end Fuzzer

/-! ## `mutate` -/

/-- What the server and the mutator answer during one `mutate`. -/
structure MutateEnv where
  /-- The status `sl2_conn_advise_mutation` returns. -/
  adviceResponse : SL2Response
  /-- `advice.strategy` afterwards: the advised strategy, or whatever the uninitialised `advice`
  held if the request failed. -/
  adviceStrategy : UInt32
  /-- The strategy `do_mutation` picks on its own. -/
  ownStrategy : UInt32
  /-- The status `sl2_conn_register_mutation` returns. -/
  registerResponse : SL2Response
  deriving DecidableEq, Repr

/-- The record `mutate` builds, numbered `count`. -/
def buildMutation (info : ClientReadInfo) (count : UInt32) : Mutation :=
  ⟨info.function, count, 0, info.source, info.position, info.nNumberOfBytesToRead, info.lpBuffer⟩

/-- `do_mutation` and `do_mutation_custom` (`common/mutation.hpp`, outside `src/`) rewrite the
buffer in place and fill in the record's kind, which `mutate` leaves at 0 ("we don't know the
mutation type yet"): the strategy they used. -/
def assignKind (m : Mutation) (strategy : UInt32) : Mutation := { m with type := strategy.toNat }

/-- `mutate` after `mut_count++`: advise (coverage-guided mode), mutate the buffer, register the
record as the mutator left it.  The result is `mutate`'s return value. -/
def mutateFrom {fuzzArenaSize : Nat} (s : Fuzzer fuzzArenaSize) (m : Mutation) (env : MutateEnv) :
    Fuzzer fuzzArenaSize × Bool :=
  let (s, m) :=
    if s.coverageGuided then
      ((s.send .adviseMutation).apply m (some env.adviceStrategy), assignKind m env.adviceStrategy)
    else (s.apply m none, assignKind m env.ownStrategy)
  (s.send (.registerMutation m), env.registerResponse == .ok)

/-- `mutate(info)`. -/
def mutate {fuzzArenaSize : Nat} (s : Fuzzer fuzzArenaSize) (info : ClientReadInfo)
    (env : MutateEnv) : Fuzzer fuzzArenaSize × Bool :=
  mutateFrom { s with mutCount := s.mutCount + 1 } (buildMutation info s.mutCount) env

/-- The record `mutateFrom` registers. -/
def registeredRecord (coverageGuided : Bool) (m : Mutation) (env : MutateEnv) : Mutation :=
  assignKind m (if coverageGuided then env.adviceStrategy else env.ownStrategy)

/-- What `mutateFrom` sends: the advice request in coverage-guided mode, then the record. -/
def mutationRequests (coverageGuided : Bool) (m : Mutation) : List Request :=
  (if coverageGuided then [.adviseMutation] else []) ++ [.registerMutation m]

@[simp] theorem registeredMutations_mutationRequests (coverageGuided : Bool) (m : Mutation) :
    registeredMutations (mutationRequests coverageGuided m) = [m] := by
  cases coverageGuided <;> rfl

/-- What `mutateFrom` does: the advice request in coverage-guided mode and the record, and one
mutation applied to the buffer; nothing else changes. -/
theorem mutateFrom_spec {fuzzArenaSize : Nat} (s : Fuzzer fuzzArenaSize) (m : Mutation)
    (env : MutateEnv) :
    (mutateFrom s m env).1 =
      { s with
        requests := s.requests ++ mutationRequests s.coverageGuided
          (registeredRecord s.coverageGuided m env)
        applied := s.applied ++ [⟨m, if s.coverageGuided then some env.adviceStrategy else none⟩] } ∧
      (mutateFrom s m env).2 = (env.registerResponse == .ok) := by
  unfold mutateFrom registeredRecord mutationRequests
  cases hc : s.coverageGuided <;> simp [Fuzzer.send, Fuzzer.apply, assignKind, hc]

/-- **What `mutate` does**, in one place: it bumps `mut_count`, sends the advice request only in
coverage-guided mode and then the record numbered with the old count, applies exactly one
mutation (`do_mutation_custom` with the advised strategy in coverage-guided mode, `do_mutation`
otherwise) over the requested length, and returns whether the registration succeeded. -/
theorem mutate_spec {fuzzArenaSize : Nat} (s : Fuzzer fuzzArenaSize) (info : ClientReadInfo)
    (env : MutateEnv) :
    (mutate s info env).1 =
      { s with
        mutCount := s.mutCount + 1
        requests := s.requests ++ mutationRequests s.coverageGuided
          (registeredRecord s.coverageGuided (buildMutation info s.mutCount) env)
        applied := s.applied ++ [⟨buildMutation info s.mutCount,
          if s.coverageGuided then some env.adviceStrategy else none⟩] } ∧
      (mutate s info env).2 = (env.registerResponse == .ok) := by
  simp [mutate, mutateFrom_spec]

/-! ## `wrap_post_Generic` -/

/-- How a hook hands control back. -/
inductive Resume
  /-- It returns, and the target carries on. -/
  | toTarget
  /-- It calls `dr_exit_process(status)`, which does not return. -/
  | exitProcess (status : Nat)
  deriving DecidableEq, Repr

/-- The fields of `client_read_info` the cleanup code reads through `info`. -/
inductive InfoField
  | source
  | argHash
  deriving DecidableEq, Repr

/-- What a post-hook sees of one intercepted call. -/
structure PostCall where
  /-- `user_data`: the record the pre-hook allocated. -/
  userData : ClientReadInfo
  /-- `client.is_sane_post_hook(wrapcxt, user_data, &drcontext)`. -/
  sane : Bool
  /-- `client.is_function_targeted(info)`. -/
  targeted : Bool
  /-- `drwrap_get_retval(wrapcxt)`: what the call returned. -/
  retval : BitVec 64
  /-- The replies `mutate` would get. -/
  env : MutateEnv
  deriving DecidableEq, Repr

/-- What a post-hook leaves behind. -/
structure HookResult (fuzzArenaSize : Nat) where
  /-- The globals afterwards. -/
  fuzzer : Fuzzer fuzzArenaSize
  /-- Whether the target carries on. -/
  resume : Resume
  /-- Each read of a field through `info`, with whether `info` had been assigned. -/
  infoReads : List (InfoField × Bool)

/-- `*(info->lpNumberOfBytesRead) < info->nNumberOfBytesToRead` shrinks the count to what the
call reported; "we should never read more bytes than we request". -/
def clampToRead (info : ClientReadInfo) : ClientReadInfo :=
  match info.lpNumberOfBytesRead with
  | some k => if k < info.nNumberOfBytesToRead then { info with nNumberOfBytesToRead := k } else info
  | none => info

/-- The end of a post-hook: on a failed mutation `crashed = false; dr_exit_process(1)`, which
never reaches the cleanup; otherwise back to the target through `cleanup`, whose reads through
`info` are `reads`. -/
def afterMutate {fuzzArenaSize : Nat} (r : Fuzzer fuzzArenaSize × Bool)
    (reads : List (InfoField × Bool)) : HookResult fuzzArenaSize :=
  if r.2 then ⟨r.1, .toTarget, reads⟩ else ⟨{ r.1 with crashed := false }, .exitProcess 1, []⟩

/-- `wrap_post_Generic`. -/
def wrapPostGeneric {fuzzArenaSize : Nat} (s : Fuzzer fuzzArenaSize) (c : PostCall) :
    HookResult fuzzArenaSize :=
  if !c.sane then
    -- `goto cleanup` skips `info = user_data`; the cleanup reads through the unassigned `info`
    ⟨s, .toTarget, [(.source, false), (.argHash, false)]⟩
  else
    let info := c.userData
    let s := s.incrementCallCount info.function
    if !c.targeted then ⟨s, .toTarget, [(.source, true), (.argHash, true)]⟩
    else afterMutate (mutate s (clampToRead info) c.env) [(.source, true), (.argHash, true)]

/-- `mutate` runs only for a sane, targeted call, after `increment_call_count`, and with the
requested count clamped to the count reported through `lpNumberOfBytesRead`. -/
theorem wrapPostGeneric_eq {fuzzArenaSize : Nat} (s : Fuzzer fuzzArenaSize) (c : PostCall) :
    wrapPostGeneric s c =
      if c.sane ∧ c.targeted then
        afterMutate (mutate (s.incrementCallCount c.userData.function) (clampToRead c.userData)
          c.env) [(.source, true), (.argHash, true)]
      else if c.sane then
        ⟨s.incrementCallCount c.userData.function, .toTarget, [(.source, true), (.argHash, true)]⟩
      else ⟨s, .toTarget, [(.source, false), (.argHash, false)]⟩ := by
  unfold wrapPostGeneric
  cases c.sane <;> cases c.targeted <;> rfl

/-- The length `mutate` is called with never exceeds a count reported through
`lpNumberOfBytesRead`, nor the requested one. -/
theorem clampToRead_le (info : ClientReadInfo) :
    (clampToRead info).nNumberOfBytesToRead ≤ info.nNumberOfBytesToRead ∧
      ∀ k, info.lpNumberOfBytesRead = some k → (clampToRead info).nNumberOfBytesToRead ≤ k := by
  unfold clampToRead
  split
  · rename_i k hk
    split <;> simp [hk] <;> omega
  · rename_i hk
    simp [hk]

/-! ## `wrap_post_MapViewOfFile` -/

/-- What `wrap_post_MapViewOfFile` learns from the system about the view. -/
structure MapView where
  /-- `drwrap_get_retval(wrapcxt)`: the address of the view. -/
  view : AppPc
  /-- `memory_info.RegionSize` from `dr_virtual_query` on the view. -/
  regionSize : Nat
  /-- What `GetMappedFileName` writes, or `none` when it fails. -/
  mappedFileName : Option String
  deriving DecidableEq, Repr

/-- `wrap_post_MapViewOfFile`. -/
def wrapPostMapViewOfFile {fuzzArenaSize : Nat} (s : Fuzzer fuzzArenaSize) (c : PostCall)
    (v : MapView) : HookResult fuzzArenaSize :=
  if !c.sane then
    -- `goto cleanup` skips `info = user_data`; the cleanup reads through the unassigned `info`
    ⟨s, .toTarget, [(.argHash, false)]⟩
  else
    let s := s.incrementCallCount c.userData.function
    let info : ClientReadInfo := { c.userData with lpBuffer := v.view }
    let info : ClientReadInfo := if info.nNumberOfBytesToRead = 0 then
        { info with nNumberOfBytesToRead := v.regionSize } else info
    -- `info->source = hash_ctx.fileName`, which stays empty when `GetMappedFileName` fails
    let info : ClientReadInfo := { info with source := some (v.mappedFileName.getD "") }
    if v.mappedFileName.isSome && c.targeted then
      afterMutate (mutate s info c.env) [(.argHash, true)]
    else ⟨s, .toTarget, [(.argHash, true)]⟩

/-- The record `wrap_post_MapViewOfFile` hands `mutate`: the view, the requested length or the
region's size when none was given, and the mapped file as its source. -/
def mapViewInfo (info : ClientReadInfo) (v : MapView) : ClientReadInfo :=
  { info with
    lpBuffer := v.view
    nNumberOfBytesToRead :=
      if info.nNumberOfBytesToRead = 0 then v.regionSize else info.nNumberOfBytesToRead
    source := some (v.mappedFileName.getD "") }

theorem wrapPostMapViewOfFile_eq {fuzzArenaSize : Nat} (s : Fuzzer fuzzArenaSize) (c : PostCall)
    (v : MapView) :
    wrapPostMapViewOfFile s c v =
      if c.sane ∧ v.mappedFileName.isSome ∧ c.targeted then
        afterMutate (mutate (s.incrementCallCount c.userData.function) (mapViewInfo c.userData v)
          c.env) [(.argHash, true)]
      else if c.sane then
        ⟨s.incrementCallCount c.userData.function, .toTarget, [(.argHash, true)]⟩
      else ⟨s, .toTarget, [(.argHash, false)]⟩ := by
  unfold wrapPostMapViewOfFile mapViewInfo
  cases c.sane <;> cases c.targeted <;> cases v.mappedFileName <;>
    by_cases h : c.userData.nNumberOfBytesToRead = 0 <;> simp [h]

/-! ## What the post-hooks guarantee, and where they fall short -/

/-- **A mutation is applied only to a sane, targeted call**, after its call count was bumped,
and over no more bytes than were requested or than the call reported through
`lpNumberOfBytesRead`. -/
theorem wrapPostGeneric_applied {fuzzArenaSize : Nat} (s : Fuzzer fuzzArenaSize) (c : PostCall) :
    (wrapPostGeneric s c).fuzzer.applied = s.applied ∨
      (c.sane = true ∧ c.targeted = true ∧
        ∃ a, (wrapPostGeneric s c).fuzzer.applied = s.applied ++ [a] ∧
          (wrapPostGeneric s c).fuzzer.callCounts = s.callCounts ++ [c.userData.function] ∧
          a.mutation.bufsize ≤ c.userData.nNumberOfBytesToRead ∧
          ∀ k, c.userData.lpNumberOfBytesRead = some k → a.mutation.bufsize ≤ k) := by
  rw [wrapPostGeneric_eq]
  split
  · rename_i h
    obtain ⟨hm, -⟩ := mutate_spec (s.incrementCallCount c.userData.function)
      (clampToRead c.userData) c.env
    refine .inr ⟨h.1, h.2, ⟨buildMutation (clampToRead c.userData) s.mutCount,
      if s.coverageGuided then some c.env.adviceStrategy else none⟩, ?_, ?_,
      clampToRead_le c.userData⟩ <;>
      unfold afterMutate <;> split <;> simp [hm]
  · split <;> simp

/-- **A refused advice request does not end the run.**  In coverage-guided mode, a sane,
targeted call whose advice request fails and whose registration succeeds returns to the target,
after its buffer was rewritten by `do_mutation_custom` with whatever strategy the uninitialised
`advice` held. -/
theorem wrapPostGeneric_after_refused_advice {fuzzArenaSize : Nat} (s : Fuzzer fuzzArenaSize)
    (info : ClientReadInfo) (retval : BitVec 64) (garbage ownStrategy : UInt32) :
    (wrapPostGeneric { s with coverageGuided := true }
        ⟨info, true, true, retval, ⟨.error, garbage, ownStrategy, .ok⟩⟩).resume = .toTarget ∧
      (wrapPostGeneric { s with coverageGuided := true }
        ⟨info, true, true, retval, ⟨.error, garbage, ownStrategy, .ok⟩⟩).fuzzer.applied =
        s.applied ++ [⟨buildMutation (clampToRead info) s.mutCount, some garbage⟩] := by
  simp [wrapPostGeneric_eq, afterMutate, mutate_spec]

/-- **Two reads the post-hooks should not make.**  A rejected call makes the cleanup read
`info->source` and `info->argHash` through the unassigned `info`; and a `recv` that asked for 100
bytes and returned 40, reporting no count through `lpNumberOfBytesRead`, has all 100 bytes
mutated. -/
theorem wrapPostGeneric_unassigned_and_unclamped {fuzzArenaSize : Nat} (s : Fuzzer fuzzArenaSize)
    (c : PostCall) (info : ClientReadInfo) (env : MutateEnv) :
    (wrapPostGeneric s { c with sane := false }).infoReads =
        [(.source, false), (.argHash, false)] ∧
      ((wrapPostGeneric s ⟨{ info with nNumberOfBytesToRead := 100, lpNumberOfBytesRead := none },
          true, true, 40#64, { env with registerResponse := .ok }⟩).fuzzer.applied.getLast?.map
            fun a => a.mutation.bufsize) = some 100 := by
  refine ⟨rfl, ?_⟩
  simp [wrapPostGeneric_eq, afterMutate, mutate_spec, clampToRead, buildMutation]

end SiennaLocomotive
