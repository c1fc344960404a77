import Mathlib.Data.Fintype.Basic
import Mathlib.Data.String.Basic

/-!
# The fuzzer client's vocabulary

`src/fuzzer/fuzzer.cpp` is a DynamoRIO client.  It is loaded into the target process, intercepts
the target's reads (`ReadFile`, `recv`, `MapViewOfFile`, …), mutates the bytes those reads hand
back, reports every mutation to a control server over `sl2_conn`, counts basic-block executions
in a coverage arena, and writes a minidump when the target crashes.  Everything it remembers
lives in a handful of file-level globals, and the DynamoRIO callbacks read and write them.

This file fixes the data those callbacks exchange, with the field names the C++ uses:

* addresses (`app_pc`) are `BitVec 64`, so that the pointer arithmetic of `on_bb_instrument`
  wraps as it does on the machine;
* `ModuleData` is the part of DynamoRIO's `module_data_t` the client reads, and
  `drModuleContainsAddr` is what `dr_module_contains_addr` answers for a Windows module, which
  occupies one contiguous range;
* `ClientReadInfo` is the record a pre-hook hands its post-hook, and `Mutation` the
  `sl2_mutation` that `mutate` builds from it;
* `Request` lists the calls the client makes on its server connection, each with the argument
  the client passes that the server sees: the run id, the process id, the arena id, the
  mutation record.

Nothing here is the client's logic yet; `Modules`, `Coverage`, `HookSelection`, `Mutate`,
`Session` and `Threads` are.
-/

set_option autoImplicit false

namespace SiennaLocomotive

/-- `app_pc`: an address in the target process. -/
abbrev AppPc := BitVec 64

/-- `SL2_MAX_MODULES`: how many modules `seen_modules` has room for. -/
def sl2MaxModules : Nat := 1024

/-! ## Modules -/

/-- The part of DynamoRIO's `module_data_t` the client reads. -/
structure ModuleData where
  /-- `start`: the lowest address of the module. -/
  start : AppPc
  /-- `end`: one past its highest address. -/
  endPc : AppPc
  /-- `full_path`, as `on_module_load` tests it. -/
  fullPath : String
  /-- `dr_module_preferred_name(mod)`. -/
  preferredName : String
  /-- The export table `dr_get_proc_address(mod->handle, name)` looks names up in. -/
  exports : List (String × AppPc)
  deriving DecidableEq, Repr

/-- `dr_get_proc_address(mod->handle, name)`; `none` is `NULL`. -/
def drGetProcAddress (m : ModuleData) (name : String) : Option AppPc := m.exports.lookup name

/-- `dr_module_contains_addr`: a Windows module is the one range `[start, end)`. -/
def drModuleContainsAddr (m : ModuleData) (addr : AppPc) : Bool :=
  decide (m.start ≤ addr) && decide (addr < m.endPc)

theorem drModuleContainsAddr_iff {m : ModuleData} {addr : AppPc} :
    drModuleContainsAddr m addr = true ↔ m.start ≤ addr ∧ addr < m.endPc := by
  simp [drModuleContainsAddr]

/-- Two modules whose ranges share no address. -/
def Disjoint (m m' : ModuleData) : Prop :=
  ∀ addr, ¬ (drModuleContainsAddr m addr = true ∧ drModuleContainsAddr m' addr = true)

theorem Disjoint.symm {m m' : ModuleData} (h : Disjoint m m') : Disjoint m' m :=
  fun addr ha => h addr ⟨ha.2, ha.1⟩

/-! ## Targets, intercepted reads and mutations -/

/-- An entry `targetFunction` of the target list `client.parsedJson`, as far as the fuzzer
reads it. -/
structure TargetFunction where
  /-- `functionName`. -/
  functionName : String
  /-- `selected`: the user asked for this function to be fuzzed. -/
  selected : Bool
  deriving DecidableEq, Repr

/-- `client_read_info`: what a pre-hook records about an intercepted read for its post-hook.
Pointers that may be `NULL` are `Option`s; `lpNumberOfBytesRead` is the value it points to once
the call has returned. -/
structure ClientReadInfo where
  /-- `function`: which hooked function this is, as its enumerator. -/
  function : Nat
  /-- `source`: the file, key or socket the bytes came from. -/
  source : Option String
  /-- `position`: the offset of the read in its source. -/
  position : Nat
  /-- `nNumberOfBytesToRead`: how many bytes the caller asked for. -/
  nNumberOfBytesToRead : Nat
  /-- `*lpNumberOfBytesRead`, when the call reports the count it produced through a pointer. -/
  lpNumberOfBytesRead : Option Nat
  /-- `lpBuffer`: where the bytes are. -/
  lpBuffer : AppPc
  /-- `argHash`: the hash of the call's arguments. -/
  argHash : Option String
  deriving DecidableEq, Repr

/-- `sl2_mutation`: the record of one mutation, as sent to the server. -/
structure Mutation where
  /-- `(uint32_t)info->function`. -/
  function : Nat
  /-- The value of `mut_count` this mutation was numbered with. -/
  mutCount : UInt32
  /-- The mutation type; `mutate` leaves it `0` ("we don't know the mutation type yet"). -/
  type : Nat
  /-- `info->source`. -/
  source : Option String
  /-- `info->position`. -/
  position : Nat
  /-- `info->nNumberOfBytesToRead`: how many bytes are mutated. -/
  bufsize : Nat
  /-- `info->lpBuffer`. -/
  buffer : AppPc
  deriving DecidableEq, Repr

/-- `SL2Response`: the server's verdict on a request. -/
inductive SL2Response
  | ok
  | error
  deriving DecidableEq, Repr

/-! ## Exceptions -/

/-- The part of `EXCEPTION_RECORD` the client reads; `memcpy` copies all of it. -/
structure ExceptionRecord where
  /-- `ExceptionCode`. -/
  exceptionCode : UInt32
  /-- `ExceptionAddress`. -/
  exceptionAddress : AppPc
  deriving DecidableEq, Repr

/-- What `on_exception` is handed (`dr_exception_t`), together with the id of the faulting
thread, which it reads with `GetCurrentThreadId`. -/
structure DrException where
  /-- `GetCurrentThreadId()` in the faulting thread. -/
  threadId : Nat
  /-- `excpt->mcontext`: the register state, as an opaque value. -/
  mcontext : Nat
  /-- `*excpt->record`. -/
  record : ExceptionRecord
  deriving DecidableEq, Repr

/-- `sl2_exception_ctx`: the snapshot `on_exception` takes and `on_dr_exit` dumps. -/
structure ExceptionCtx where
  /-- `thread_id`. -/
  threadId : Nat
  /-- `thread_ctx`, filled by `dr_mcontext_to_context`. -/
  threadCtx : Nat
  /-- `record`, a copy of the exception record. -/
  record : ExceptionRecord
  deriving DecidableEq, Repr

/-- The zero-initialised `fuzz_exception_ctx` of a fresh run. -/
def ExceptionCtx.empty : ExceptionCtx := ⟨0, 0, ⟨0, 0⟩⟩

/-- The snapshot of `e` that a completed `on_exception` leaves in `fuzz_exception_ctx`. -/
def ExceptionCtx.ofException (e : DrException) : ExceptionCtx := ⟨e.threadId, e.mcontext, e.record⟩

/-! ## The server connection -/

/-- A request the client sends on `sl2_conn`. -/
inductive Request
  /-- `sl2_conn_open`. -/
  | connOpen
  /-- `sl2_conn_assign_run_id`. -/
  | assignRunId (runId : String)
  /-- `sl2_conn_register_pid(pid, false)`. -/
  | registerPid (pid : Nat)
  /-- `sl2_conn_request_arena`. -/
  | requestArena (arenaId : String)
  /-- `sl2_conn_advise_mutation`. -/
  | adviseMutation
  /-- `sl2_conn_register_mutation`, with the record sent. -/
  | registerMutation (m : Mutation)
  /-- `sl2_conn_request_crash_paths`. -/
  | requestCrashPaths (pid : Nat)
  /-- `sl2_conn_register_arena`. -/
  | registerArena
  /-- `sl2_conn_get_coverage`. -/
  | getCoverage
  /-- `sl2_conn_close`. -/
  | connClose
  deriving DecidableEq, Repr

/-- The mutation records among the requests, in the order they were sent. -/
def registeredMutations : List Request → List Mutation
  | [] => []
  | .registerMutation m :: rs => m :: registeredMutations rs
  | _ :: rs => registeredMutations rs

@[simp] theorem registeredMutations_nil : registeredMutations [] = [] := rfl

@[simp] theorem registeredMutations_append (rs rs' : List Request) :
    registeredMutations (rs ++ rs') = registeredMutations rs ++ registeredMutations rs' := by
  induction rs with
  | nil => rfl
  | cons r rs ih => cases r <;> simp [registeredMutations, ih]

@[simp] theorem registeredMutations_registerMutation (m : Mutation) :
    registeredMutations [.registerMutation m] = [m] := rfl

end SiennaLocomotive
