import SiennaLocomotive.Basic

/-!
# Tracking modules, and finding the module an address belongs to

Coverage is counted per module: a basic block at address `a` is charged to arena cell
`(a − base) mod FUZZ_ARENA_SIZE`, where `base` is the start of the module containing `a`.  The
client learns about modules from DynamoRIO's load event, `on_module_load`, which copies each
module worth covering into the fixed array `seen_modules`; `get_base_pc` scans that array.

Two things about this are easy to get wrong, and both are the subject of this file.

* **Capacity.**  `on_module_load` stores a module only while `nmodules < SL2_MAX_MODULES - 1`,
  so the array never fills: `trackAll_eq` shows that the modules tracked are exactly the first
  `SL2_MAX_MODULES - 1` eligible ones, in load order, and `storeIndex_lt` that no store goes past
  the array.  One slot of the 1024 is never used, although `get_base_pc`'s comment expects
  tracking to stop "when nmodules == SL2_MAX_MODULES".
* **Unloads.**  The client registers no unload event, so `seen_modules` keeps a module after it
  is gone.  When no tracked module is unloaded and the loaded modules are pairwise disjoint,
  `getBasePc_of_keepsTracked` says `get_base_pc` finds the one loaded, tracked module containing
  the address; `getBasePc_after_reload` shows what happens otherwise: a module loaded over the
  range of an unloaded one is charged to the old module's base.

`seen_modules[0..nmodules)` is modelled as the list of its live entries, so `nmodules` is that
list's length and a store appends at index `nmodules`.
-/

set_option autoImplicit false

namespace SiennaLocomotive

/-! ## Which modules are worth covering -/

/-- `_strnicmp(a, b, n) == 0`: the first `n` characters agree up to ASCII case. -/
def strnicmpEq (a b : String) (n : Nat) : Bool :=
  (a.toList.take n).map Char.toLower == (b.toList.take n).map Char.toLower

/-- `strstr(hay, needle) != NULL`: `needle` occurs in `hay`. -/
def strstr (hay needle : String) : Bool :=
  hay.toList.tails.any needle.toList.isPrefixOf

/-- The instrumentation's own DLLs, which `on_module_load` never tracks. -/
def instrumentationDlls : List String :=
  ["dynamorio.dll", "drreg.dll", "drwrap.dll", "drmgr.dll", "fuzzer.dll"]

/-- The path half of `on_module_load`'s test: not under `C:\Windows\` in any case, and none of
the instrumentation's DLLs. -/
def isEligible (fullPath : String) : Bool :=
  !strnicmpEq "C:\\Windows\\" fullPath 11 && instrumentationDlls.all fun d => !strstr fullPath d

/-! ## `on_module_load`: the store into `seen_modules` -/

/-- The index `on_module_load` stores `mod` at, `nmodules`, when it stores it at all: while
`nmodules < SL2_MAX_MODULES - 1` and the module is eligible. -/
def storeIndex (seenModules : List ModuleData) (mod : ModuleData) : Option Nat :=
  if seenModules.length < sl2MaxModules - 1 ∧ isEligible mod.fullPath = true then
    some seenModules.length
  else none

/-- `seen_modules[nmodules++] = dr_copy_module_data(mod)`, when `storeIndex` says so. -/
def trackModule (seenModules : List ModuleData) (mod : ModuleData) : List ModuleData :=
  if (storeIndex seenModules mod).isSome then seenModules ++ [mod] else seenModules

/-- The tracking half of a sequence of `on_module_load` calls. -/
def trackAll (seenModules : List ModuleData) (mods : List ModuleData) : List ModuleData :=
  mods.foldl trackModule seenModules

theorem storeIndex_eq_some {seenModules : List ModuleData} {mod : ModuleData} {i : Nat} :
    storeIndex seenModules mod = some i ↔
      i = seenModules.length ∧ seenModules.length < sl2MaxModules - 1 ∧
        isEligible mod.fullPath = true := by
  unfold storeIndex
  split
  · rename_i h; simp [h.1, h.2, eq_comm]
  · rename_i h; exact iff_of_false (by simp) fun ⟨_, h1, h2⟩ => h ⟨h1, h2⟩

/-- No store goes past the end of `seen_modules`. -/
theorem storeIndex_lt {seenModules : List ModuleData} {mod : ModuleData} {i : Nat}
    (h : storeIndex seenModules mod = some i) : i < sl2MaxModules := by
  obtain ⟨rfl, hlt, -⟩ := storeIndex_eq_some.1 h
  omega

theorem trackModule_eq {seenModules : List ModuleData} (h : seenModules.length ≤ sl2MaxModules - 1)
    (mod : ModuleData) :
    trackModule seenModules mod =
      if isEligible mod.fullPath then (seenModules ++ [mod]).take (sl2MaxModules - 1)
      else seenModules := by
  unfold trackModule storeIndex
  by_cases he : isEligible mod.fullPath = true
  · rcases Nat.lt_or_ge seenModules.length (sl2MaxModules - 1) with hlt | hge
    · have hle : (seenModules ++ [mod]).length ≤ sl2MaxModules - 1 := by simp; omega
      simp [he, hlt, List.take_of_length_le hle]
    · have heq : seenModules.length = sl2MaxModules - 1 := by omega
      simp [he, heq, List.take_append_of_le_length (le_of_eq heq.symm)]
  · simp [he]

theorem take_append_take {α : Type} (l ys : List α) (c : Nat) :
    (l.take c ++ ys).take c = (l ++ ys).take c := by
  rcases Nat.lt_or_ge l.length c with h | h
  · rw [List.take_of_length_le h.le]
  · rw [List.take_append_of_le_length (by simp; omega), List.take_append_of_le_length h,
      List.take_take, min_self]

/-- **What `seen_modules` holds.**  After any sequence of loads, the tracked modules are the
first `SL2_MAX_MODULES - 1` eligible ones, in load order. -/
theorem trackAll_eq (seenModules mods : List ModuleData)
    (h : seenModules.length ≤ sl2MaxModules - 1) :
    trackAll seenModules mods =
      (seenModules ++ mods.filter fun m => isEligible m.fullPath).take (sl2MaxModules - 1) := by
  induction mods generalizing seenModules with
  | nil => simp [trackAll, List.take_of_length_le h]
  | cons mod mods ih =>
    have hlen : (trackModule seenModules mod).length ≤ sl2MaxModules - 1 := by
      rw [trackModule_eq h]; split <;> simp [h]
    rw [trackAll, List.foldl_cons, ← trackAll, ih _ hlen, trackModule_eq h, List.filter_cons]
    split
    · rw [take_append_take, List.append_assoc, List.singleton_append]
    · rfl

/-! ## `get_base_pc` -/

/-- `get_base_pc`: the start of the first module of `seen_modules[0..nmodules)` that contains
`addr`.  `none` is the `NULL` it returns when there is none; no module is mapped at address 0,
so a module's `start` is never mistaken for `NULL`. -/
def getBasePc (seenModules : List ModuleData) (addr : AppPc) : Option AppPc :=
  (seenModules.find? fun m => drModuleContainsAddr m addr).map ModuleData.start

theorem getBasePc_eq_none {seenModules : List ModuleData} {addr : AppPc} :
    getBasePc seenModules addr = none ↔
      ∀ m ∈ seenModules, drModuleContainsAddr m addr = false := by
  simp [getBasePc, List.find?_eq_none]

/-- What `get_base_pc` returns is the start of a tracked module containing the address. -/
theorem getBasePc_eq_some {seenModules : List ModuleData} {addr base : AppPc}
    (h : getBasePc seenModules addr = some base) :
    ∃ m ∈ seenModules, drModuleContainsAddr m addr = true ∧ m.start = base := by
  obtain ⟨m, hm, rfl⟩ := Option.map_eq_some'.1 h
  exact ⟨m, List.mem_of_find?_eq_some hm, by simpa using List.find?_some hm, rfl⟩

/-- When the tracked module containing the address is unique, `get_base_pc` finds it. -/
theorem getBasePc_of_unique {seenModules : List ModuleData} {addr : AppPc} {m : ModuleData}
    (hm : m ∈ seenModules) (ha : drModuleContainsAddr m addr = true)
    (hu : ∀ m' ∈ seenModules, drModuleContainsAddr m' addr = true → m' = m) :
    getBasePc seenModules addr = some m.start := by
  cases h : getBasePc seenModules addr with
  | none => exact absurd ha (by simp [getBasePc_eq_none.1 h m hm])
  | some base =>
    obtain ⟨m', hm', ha', rfl⟩ := getBasePc_eq_some h
    rw [hu m' hm' ha']

/-- `get_base_pc` answers with the first tracked module that contains the address. -/
theorem getBasePc_of_first {seenModules pre post : List ModuleData} {m : ModuleData}
    {addr : AppPc} (hs : seenModules = pre ++ m :: post)
    (hpre : ∀ m' ∈ pre, drModuleContainsAddr m' addr = false)
    (hm : drModuleContainsAddr m addr = true) : getBasePc seenModules addr = some m.start := by
  have hnone : pre.find? (fun m' => drModuleContainsAddr m' addr) = none :=
    List.find?_eq_none.2 fun x hx => by simp [hpre x hx]
  rw [getBasePc, hs, List.find?_append, hnone, Option.none_or, List.find?_cons, hm]
  rfl

/-- Among pairwise disjoint modules, at most one contains a given address. -/
theorem eq_of_contains {mods : List ModuleData} (hd : mods.Pairwise Disjoint) {m m' : ModuleData}
    (hm : m ∈ mods) (hm' : m' ∈ mods) {addr : AppPc} (ha : drModuleContainsAddr m addr = true)
    (ha' : drModuleContainsAddr m' addr = true) : m = m' := by
  by_contra hne
  exact hd.forall (fun _ _ => Disjoint.symm) hm hm' hne addr ⟨ha, ha'⟩

/-! ## The module map of a run

DynamoRIO keeps the list of loaded modules; the client keeps `seen_modules`.  A load event
reaches both, an unload event only DynamoRIO's list: the client registers no unload handler. -/

/-- DynamoRIO's module events. -/
inductive ModuleEvent
  /-- A module is mapped; DynamoRIO calls `on_module_load`. -/
  | load (mod : ModuleData)
  /-- A module is unmapped. -/
  | unload (mod : ModuleData)
  deriving DecidableEq, Repr

/-- The modules of the process: DynamoRIO's loaded list, and the client's `seen_modules`. -/
structure ModuleMap where
  /-- The modules mapped right now. -/
  loaded : List ModuleData
  /-- `seen_modules[0..nmodules)`. -/
  seenModules : List ModuleData
  deriving DecidableEq, Repr

namespace ModuleMap

/-- A fresh process: nothing loaded, nothing tracked. -/
def init : ModuleMap := ⟨[], []⟩

/-- One module event. -/
def step (s : ModuleMap) : ModuleEvent → ModuleMap
  | .load mod => ⟨s.loaded ++ [mod], trackModule s.seenModules mod⟩
  | .unload mod => ⟨s.loaded.erase mod, s.seenModules⟩

/-- A run of module events from `s`. -/
def run (s : ModuleMap) (evs : List ModuleEvent) : ModuleMap := evs.foldl step s

/-- The modules a sequence of events loads, in order. -/
def loads : List ModuleEvent → List ModuleData
  | [] => []
  | .load mod :: evs => mod :: loads evs
  | .unload _ :: evs => loads evs

/-- Unloads do not matter to `seen_modules`: it is the tracking of the loads alone. -/
theorem run_seenModules (s : ModuleMap) (evs : List ModuleEvent) :
    (s.run evs).seenModules = trackAll s.seenModules (loads evs) := by
  induction evs generalizing s with
  | nil => rfl
  | cons e evs ih => cases e <;> exact ih _

/-- Along the run of `evs` from `s`, the modules loaded at any one moment are pairwise
disjoint. -/
def LoadsDisjoint : ModuleMap → List ModuleEvent → Prop
  | s, [] => s.loaded.Pairwise Disjoint
  | s, e :: evs => s.loaded.Pairwise Disjoint ∧ LoadsDisjoint (s.step e) evs

/-- No event of the run unloads a module that `seen_modules` holds. -/
def KeepsTracked : ModuleMap → List ModuleEvent → Prop
  | _, [] => True
  | s, .load mod :: evs => KeepsTracked (s.step (.load mod)) evs
  | s, .unload mod :: evs => mod ∉ s.seenModules ∧ KeepsTracked (s.step (.unload mod)) evs

/-- Every tracked module is still loaded. -/
def TrackedLoaded (s : ModuleMap) : Prop := ∀ m ∈ s.seenModules, m ∈ s.loaded

theorem trackedLoaded_step {s : ModuleMap} (h : TrackedLoaded s) {e : ModuleEvent}
    (hk : ∀ mod, e = .unload mod → mod ∉ s.seenModules) : TrackedLoaded (s.step e) := by
  intro m hm
  cases e with
  | load mod =>
    simp only [step, trackModule] at hm ⊢
    split at hm
    · rcases List.mem_append.1 hm with hm | hm
      · exact List.mem_append_left _ (h m hm)
      · exact List.mem_append_right _ hm
    · exact List.mem_append_left _ (h m hm)
  | unload mod =>
    have hne : m ≠ mod := fun he => hk mod rfl (he ▸ hm)
    exact (List.mem_erase_of_ne hne).2 (h m hm)

/-- The end of a run that keeps its tracked modules and its loaded modules disjoint: the
tracked modules are loaded, and pairwise disjoint. -/
theorem run_trackedLoaded (s : ModuleMap) (evs : List ModuleEvent) (h : TrackedLoaded s)
    (hk : KeepsTracked s evs) (hd : LoadsDisjoint s evs) :
    TrackedLoaded (s.run evs) ∧ (s.run evs).loaded.Pairwise Disjoint := by
  induction evs generalizing s with
  | nil => exact ⟨h, hd⟩
  | cons e evs ih =>
    cases e with
    | load mod => exact ih _ (trackedLoaded_step h (by simp)) hk hd.2
    | unload mod =>
      exact ih _ (trackedLoaded_step h (by rintro _ ⟨⟩; exact hk.1)) hk.2 hd.2

/-- **The tracked modules of a run.**  Whatever loads and unloads happen, `seen_modules` holds
the first `SL2_MAX_MODULES - 1` eligible modules loaded, in load order. -/
theorem run_init_seenModules (evs : List ModuleEvent) :
    (init.run evs).seenModules =
      ((loads evs).filter fun m => isEligible m.fullPath).take (sl2MaxModules - 1) := by
  rw [run_seenModules, trackAll_eq _ _ (by simp [init])]
  rfl

end ModuleMap

/-! ## `get_base_pc` over a run -/

/-- **`get_base_pc` finds the loaded module an address is in**, provided no tracked module has
been unloaded: along any such run whose loaded modules are pairwise disjoint at every moment, it
returns the start of the loaded, tracked module containing the address, and `NULL` exactly when
no loaded, tracked module contains it. -/
theorem getBasePc_of_keepsTracked (evs : List ModuleEvent)
    (hk : ModuleMap.KeepsTracked .init evs) (hd : ModuleMap.LoadsDisjoint .init evs)
    (addr : AppPc) :
    (∀ m ∈ (ModuleMap.init.run evs).loaded, m ∈ (ModuleMap.init.run evs).seenModules →
        drModuleContainsAddr m addr = true →
        getBasePc (ModuleMap.init.run evs).seenModules addr = some m.start) ∧
      (getBasePc (ModuleMap.init.run evs).seenModules addr = none ↔
        ∀ m ∈ (ModuleMap.init.run evs).loaded, m ∈ (ModuleMap.init.run evs).seenModules →
          drModuleContainsAddr m addr = false) := by
  obtain ⟨hl, hdisj⟩ := ModuleMap.run_trackedLoaded .init evs (by simp [ModuleMap.TrackedLoaded,
    ModuleMap.init]) hk hd
  refine ⟨fun m _ hm ha => getBasePc_of_unique hm ha fun m' hm' ha' =>
    eq_of_contains hdisj (hl m' hm') (hl m hm) ha' ha, ?_⟩
  rw [getBasePc_eq_none]
  exact ⟨fun h m _ hm => h m hm, fun h m hm => h m (hl m hm) hm⟩

/-- A plugin DLL mapped at `[0x10000, 0x20000)`. -/
def pluginDll : ModuleData := ⟨0x10000#64, 0x20000#64, "D:\\app\\plugin.dll", "plugin.dll", []⟩

/-- Another DLL, mapped later over part of the range `pluginDll` occupied. -/
def otherDll : ModuleData := ⟨0x8000#64, 0x20000#64, "D:\\app\\other.dll", "other.dll", []⟩

/-- One tracked module, still loaded. -/
theorem getBasePc_of_keepsTracked_load :
    ModuleMap.KeepsTracked .init [.load pluginDll] ∧
      ModuleMap.LoadsDisjoint .init [.load pluginDll] ∧
      ((∀ m ∈ (ModuleMap.init.run [.load pluginDll]).loaded,
          m ∈ (ModuleMap.init.run [.load pluginDll]).seenModules →
          drModuleContainsAddr m 0x18000#64 = true →
          getBasePc (ModuleMap.init.run [.load pluginDll]).seenModules 0x18000#64 =
            some m.start) ∧
        (getBasePc (ModuleMap.init.run [.load pluginDll]).seenModules 0x18000#64 = none ↔
          ∀ m ∈ (ModuleMap.init.run [.load pluginDll]).loaded,
            m ∈ (ModuleMap.init.run [.load pluginDll]).seenModules →
            drModuleContainsAddr m 0x18000#64 = false)) := by
  have hd : ModuleMap.LoadsDisjoint .init [.load pluginDll] := by
    simp [ModuleMap.LoadsDisjoint, ModuleMap.step, ModuleMap.init]
  exact ⟨trivial, hd, getBasePc_of_keepsTracked [.load pluginDll] trivial hd 0x18000#64⟩

/-- **A stale entry.**  A tracked module is unloaded and another is loaded over part of its
range: the loaded modules are disjoint at every moment, the new module is tracked and contains
`0x10000`, yet `get_base_pc` answers with the unloaded module's base, which `seen_modules` still
holds. -/
theorem getBasePc_after_reload :
    ModuleMap.LoadsDisjoint .init [.load pluginDll, .unload pluginDll, .load otherDll] ∧
      ModuleMap.init.run [.load pluginDll, .unload pluginDll, .load otherDll] =
        ⟨[otherDll], [pluginDll, otherDll]⟩ ∧
      drModuleContainsAddr otherDll 0x10000#64 = true ∧
      getBasePc [pluginDll, otherDll] 0x10000#64 = some pluginDll.start := by
  refine ⟨?_, by decide, by decide, by decide⟩
  simp [ModuleMap.LoadsDisjoint, ModuleMap.step, ModuleMap.init]

/-! ## Filling `seen_modules` -/

/-- The `i`-th of a family of distinct eligible DLLs, 64 KiB apart. -/
def sampleDll (i : Nat) : ModuleData :=
  ⟨BitVec.ofNat 64 ((i + 1) * 0x10000), BitVec.ofNat 64 ((i + 1) * 0x10000 + 0x8000),
    ⟨['D', ':', '\\', 'l', 'i', 'b', '\\'] ++ List.replicate i 'a' ++ ['.', 'd', 'l', 'l']⟩,
    "lib.dll", []⟩

theorem strstr_subset {hay needle : String} (h : strstr hay needle = true) :
    ∀ c ∈ needle.toList, c ∈ hay.toList := by
  simp only [strstr, List.any_eq_true, List.mem_tails] at h
  obtain ⟨t, ht, hp⟩ := h
  exact fun c hc => ht.subset ((List.isPrefixOf_iff_prefix.1 hp).subset hc)

theorem isEligible_sampleDll (i : Nat) : isEligible (sampleDll i).fullPath = true := by
  have hpath : (sampleDll i).fullPath.toList ⊆ ['D', ':', '\\', 'l', 'i', 'b', 'a', '.', 'd'] :=
    List.append_subset.2 ⟨List.append_subset.2 ⟨by decide,
      (List.replicate_subset_singleton i 'a').trans (by decide)⟩, by decide⟩
  have hout : ∀ c, c ∉ ['D', ':', '\\', 'l', 'i', 'b', 'a', '.', 'd'] → ∀ d, c ∈ d.toList →
      strstr (sampleDll i).fullPath d = false :=
    fun c hc d hd => Bool.eq_false_iff.2 fun h => hc (hpath (strstr_subset h c hd))
  have hwin : strnicmpEq "C:\\Windows\\" (sampleDll i).fullPath 11 = false := by
    simp [strnicmpEq, sampleDll, String.toList]
  simp only [isEligible, hwin, instrumentationDlls, List.all_cons, List.all_nil,
    hout 'y' (by decide) "dynamorio.dll" (by decide), hout 'r' (by decide) "drreg.dll" (by decide),
    hout 'r' (by decide) "drwrap.dll" (by decide), hout 'r' (by decide) "drmgr.dll" (by decide),
    hout 'f' (by decide) "fuzzer.dll" (by decide)]
  rfl

/-- After `SL2_MAX_MODULES` eligible loads, only `SL2_MAX_MODULES - 1` modules are tracked. -/
theorem trackAll_sampleDlls :
    (trackAll [] ((List.range sl2MaxModules).map sampleDll)).length = sl2MaxModules - 1 := by
  rw [trackAll_eq _ _ (by simp), List.nil_append,
    List.filter_eq_self.2 fun m hm => by
      obtain ⟨i, -, rfl⟩ := List.mem_map.1 hm
      exact isEligible_sampleDll i]
  simp [sl2MaxModules]

end SiennaLocomotive
