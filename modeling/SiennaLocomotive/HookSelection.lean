import SiennaLocomotive.Basic

/-!
# Which functions `on_module_load` wraps

For every module that loads, `on_module_load` walks its table `pre_hooks` of hookable functions
and decides, for each, whether the user's target list `client.parsedJson` asks for it.  The
decision is a loop over the whole list that sets a flag `hook`:

* an entry that is selected and carries the function's name sets `hook`;
* for the two registry variants `RegQueryValueExW` and `RegQueryValueExA` there is a second
  branch: any *other* selected entry clears `hook` again, unless it is named
  `RegQueryValueEx`, in which case `hook` is left as it is.

For every other function the second branch never fires, and `hookDecision_of_not_registry`
shows the loop computes "some selected entry has this name", a fact about the set of selected
names.  For the registry variants `hookDecision_registry` shows what the loop computes instead:
the verdict of the *last* selected entry not named `RegQueryValueEx`.  So the generic name
never turns a variant on, and whether a variant is wrapped depends on where unrelated selected
entries sit in the list (`hookDecision_registry_alias`).
-/

set_option autoImplicit false

namespace SiennaLocomotive

/-! ## The tables -/

/-- `pre_hooks` as `on_module_load` fills it: each hookable function with the pre-hook
`SL2_PRE_HOOK1`/`SL2_PRE_HOOK2` registers for it (`wrap_pre_<name>`).  The registry variants are
there only with `op_registry`. -/
def preHooks (opRegistry : Bool) : List (String × String) :=
  [("ReadFile", "ReadFile"), ("InternetReadFile", "InternetReadFile"),
    ("ReadEventLogA", "ReadEventLog"), ("ReadEventLogW", "ReadEventLog")] ++
  (if opRegistry then
    [("RegQueryValueExW", "RegQueryValueEx"), ("RegQueryValueExA", "RegQueryValueEx")]
  else []) ++
  [("WinHttpWebSocketReceive", "WinHttpWebSocketReceive"), ("WinHttpReadData", "WinHttpReadData"),
    ("recv", "recv"), ("fread_s", "fread_s"), ("fread", "fread"), ("_read", "_read"),
    ("MapViewOfFile", "MapViewOfFile")]

/-- `post_hooks[function_name]`: `wrap_post_MapViewOfFile` for `MapViewOfFile`, which needs the
mapped address only the return value carries, and `wrap_post_Generic` for the rest. -/
def postHookOf (functionName : String) : String :=
  if functionName = "MapViewOfFile" then "MapViewOfFile" else "Generic"

/-- The two functions the registry branch of the loop is about. -/
def isRegistryVariant (functionName : String) : Bool :=
  functionName == "RegQueryValueExW" || functionName == "RegQueryValueExA"

/-! ## The selection loop -/

/-- One iteration of `for (targetFunction t : client.parsedJson)`: the new value of `hook`. -/
def selectStep (functionName : String) (hook : Bool) (t : TargetFunction) : Bool :=
  if t.selected && t.functionName == functionName then true
  else if t.selected && isRegistryVariant functionName then
    if t.functionName != "RegQueryValueEx" then false else hook
  else hook

/-- The value of `hook` after the loop, which starts it at `false`. -/
def hookDecision (parsedJson : List TargetFunction) (functionName : String) : Bool :=
  parsedJson.foldl (selectStep functionName) false

/-- Some selected entry carries this name. -/
def namesSelected (parsedJson : List TargetFunction) (functionName : String) : Bool :=
  parsedJson.any fun t => t.selected && t.functionName == functionName

theorem foldl_selectStep_of_not_registry {functionName : String}
    (h : isRegistryVariant functionName = false) (parsedJson : List TargetFunction) (hook : Bool) :
    parsedJson.foldl (selectStep functionName) hook =
      (hook || namesSelected parsedJson functionName) := by
  induction parsedJson generalizing hook with
  | nil => simp [namesSelected]
  | cons t ts ih =>
    rw [List.foldl_cons, ih]
    cases ht : (t.selected && t.functionName == functionName)
    · have hs : selectStep functionName hook t = hook := by simp [selectStep, ht, h]
      simp [hs, namesSelected, ht]
    · simp [selectStep, ht, namesSelected]

/-- **Outside the registry, the loop is a membership test.**  A function other than the two
registry variants is wrapped exactly when some selected entry carries its name — which depends
only on the set of selected names. -/
theorem hookDecision_of_not_registry {functionName : String}
    (h : isRegistryVariant functionName = false) (parsedJson : List TargetFunction) :
    hookDecision parsedJson functionName = namesSelected parsedJson functionName := by
  simp [hookDecision, foldl_selectStep_of_not_registry h]

/-- `ReadFile` is wrapped when a selected entry names it, wherever that entry stands. -/
theorem hookDecision_of_not_registry_readFile :
    isRegistryVariant "ReadFile" = false ∧
      hookDecision [⟨"ReadFile", true⟩, ⟨"recv", true⟩, ⟨"fread", false⟩] "ReadFile" =
        namesSelected [⟨"ReadFile", true⟩, ⟨"recv", true⟩, ⟨"fread", false⟩] "ReadFile" := by
  have h : isRegistryVariant "ReadFile" = false := by decide
  exact ⟨h, hookDecision_of_not_registry h _⟩

/-- The selected entries that the registry branch listens to: all but those named
`RegQueryValueEx`, which leave `hook` alone. -/
def registryVoters (parsedJson : List TargetFunction) : List TargetFunction :=
  parsedJson.filter fun t => t.selected && t.functionName != "RegQueryValueEx"

/-- An entry the registry branch ignores leaves `hook` alone; one it listens to decides it. -/
theorem selectStep_registry {functionName : String} (h : isRegistryVariant functionName = true)
    (hook : Bool) (t : TargetFunction) :
    selectStep functionName hook t =
      if t.selected && t.functionName != "RegQueryValueEx" then t.functionName == functionName
      else hook := by
  have hne : functionName ≠ "RegQueryValueEx" := by
    rintro rfl; simp [isRegistryVariant] at h
  by_cases hs : t.selected = true
  · by_cases hf : t.functionName = functionName
    · simp [selectStep, hs, hf, hne]
    · by_cases hg : t.functionName = "RegQueryValueEx" <;>
        simp [selectStep, hs, hf, hg, h, Ne.symm hne]
  · simp [selectStep, hs]

theorem foldl_selectStep_registry {functionName : String}
    (h : isRegistryVariant functionName = true) (parsedJson : List TargetFunction) (hook : Bool) :
    parsedJson.foldl (selectStep functionName) hook =
      match (registryVoters parsedJson).getLast? with
      | none => hook
      | some t => t.functionName == functionName := by
  induction parsedJson using List.reverseRecOn with
  | nil => rfl
  | append_singleton ts t ih =>
    rw [List.foldl_append, List.foldl_cons, List.foldl_nil, selectStep_registry h, ih]
    unfold registryVoters
    rw [List.filter_append, List.filter_singleton]
    cases hv : (t.selected && t.functionName != "RegQueryValueEx") <;> simp [hv]

/-- **For the registry variants, the last word wins.**  `RegQueryValueExW` or `RegQueryValueExA`
is wrapped exactly when the last selected entry not named `RegQueryValueEx` carries its name. -/
theorem hookDecision_registry {functionName : String}
    (h : isRegistryVariant functionName = true) (parsedJson : List TargetFunction) :
    hookDecision parsedJson functionName =
      match (registryVoters parsedJson).getLast? with
      | none => false
      | some t => t.functionName == functionName :=
  foldl_selectStep_registry h parsedJson false

/-- With `RegQueryValueExW` selected before `RegQueryValueEx`, the last entry the registry
branch listens to is `RegQueryValueExW` itself. -/
theorem hookDecision_registry_explicit :
    isRegistryVariant "RegQueryValueExW" = true ∧
      hookDecision [⟨"RegQueryValueExW", true⟩, ⟨"RegQueryValueEx", true⟩] "RegQueryValueExW" =
        match (registryVoters [⟨"RegQueryValueExW", true⟩, ⟨"RegQueryValueEx", true⟩]).getLast? with
        | none => false
        | some t => t.functionName == "RegQueryValueExW" := by
  have h : isRegistryVariant "RegQueryValueExW" = true := by decide
  exact ⟨h, hookDecision_registry h _⟩

/-- The generic name `RegQueryValueEx` selected on its own wraps neither variant, and a variant
selected explicitly is dropped by any unrelated selected entry listed after it, though not by
one listed before it. -/
theorem hookDecision_registry_alias :
    hookDecision [⟨"RegQueryValueEx", true⟩] "RegQueryValueExW" = false ∧
      hookDecision [⟨"RegQueryValueExW", true⟩, ⟨"ReadFile", true⟩] "RegQueryValueExW" = false ∧
      hookDecision [⟨"ReadFile", true⟩, ⟨"RegQueryValueExW", true⟩] "RegQueryValueExW" = true := by
  decide

/-! ## The wrapping -/

/-- One `drwrap_wrap(towrap, pre_hook, post_hook)` call: the function, its address, and the
names of its two hooks (`none` for no post-hook). -/
structure Wrap where
  /-- The wrapped function. -/
  functionName : String
  /-- `towrap`. -/
  towrap : AppPc
  /-- `wrap_pre_<preHook>`. -/
  preHook : String
  /-- `wrap_post_<postHook>`, if any. -/
  postHook : Option String
  deriving DecidableEq, Repr

/-- The hooking half of `on_module_load` for the module `mod`: the `__fastfail` and Application
Verifier mitigations, then every function of `pre_hooks` that lies in its expected module, that
the target list selects, and that the module exports.  `functionIsInExpectedModule` is
`client.function_is_in_expected_module`, which is defined outside `src/`. -/
def moduleWraps (opRegistry : Bool) (functionIsInExpectedModule : String → String → Bool)
    (parsedJson : List TargetFunction) (mod : ModuleData) : List Wrap :=
  let modName := mod.preferredName
  let towrap (name : String) : AppPc := (drGetProcAddress mod name).getD 0
  (if modName.toUpper = "KERNELBASE.DLL" then
    [⟨"IsProcessorFeaturePresent", towrap "IsProcessorFeaturePresent", "IsProcessorFeaturePresent",
        some "IsProcessorFeaturePresent"⟩,
      ⟨"UnhandledExceptionFilter", towrap "UnhandledExceptionFilter", "UnhandledExceptionFilter",
        none⟩]
  else []) ++
  (if modName = "VERIFIER.DLL" then
    [⟨"VerifierStopMessage", towrap "VerifierStopMessage", "VerifierStopMessage", none⟩,
      ⟨"VerifierStopMessageEx", towrap "VerifierStopMessageEx", "VerifierStopMessage", none⟩]
  else []) ++
  (preHooks opRegistry).filterMap fun (functionName, preHook) =>
    if functionIsInExpectedModule functionName modName && hookDecision parsedJson functionName then
      (drGetProcAddress mod functionName).map fun addr =>
        ⟨functionName, addr, preHook, some (postHookOf functionName)⟩
    else none

end SiennaLocomotive
