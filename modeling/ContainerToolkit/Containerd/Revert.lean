import ContainerToolkit.Containerd.Update

/-!
# `ContainerToolkit.Containerd.Revert` — what `RevertConfig` removes, and what it leaves

One `RemoveRuntime` only deletes: the inlined default when it runs the runtime's binary, the runtime's
entry, `default_runtime_name` when it names the runtime, the tables above the entry that this leaves
empty, and a `version` left alone (`removeRuntime_of_deletePath`). So it creates nothing, leaves every
path apart from those alone (`removeRuntime_getPath_of_diverge`), and ends *settled*: no empty table
above the runtimes and no lone `version` (`removeRuntime_settled`). A settled config without the runtime
and without a default naming it is a fixed point (`removeRuntime_of_absent`).

Over `RevertConfig`'s loop these give, for every config and every option:

* `revertConfig_removes`: the toolkit's runtimes are gone, and so are the default pointers at them;
* `revertConfig_frame`: other runtimes, other top-level sections and default pointers at other runtimes
  stay;
* `revertConfig_idempotent`: a second `RevertConfig` changes nothing;
* `revertConfig_eq_self_iff`: the configs it leaves as they are, exactly the settled ones holding none of
  the toolkit's runtimes and no `default_runtime_name` naming one.
-/

namespace ContainerToolkit.Containerd

open Toml

/-! ## Pruning -/

/-- Pruning an empty table leaves every path apart from it or strictly below it as it was. -/
theorem getPath_pruneEmpty {t : Tree} {p q : List String} (h : diverge p q ∨ ∃ r, r ≠ [] ∧ q = p ++ r) :
    (pruneEmpty t p).getPath q = t.getPath q := by
  unfold pruneEmpty
  split
  · rename_i hp
    have hp0 : p ≠ [] := by rintro rfl; simp [Tree.getPath, getIn] at hp
    rcases h with h | ⟨r, hr, rfl⟩
    · exact Tree.getPath_deletePath_of_diverge h t
    · rw [Tree.getPath_deletePath_append hp0, Tree.getPath_append hp0, hp]
      obtain _ | ⟨k, r⟩ := r
      · exact absurd rfl hr
      · simp [Value.at]
  · rfl

theorem getPath_pruneEmpty_below {t : Tree} {p q : List String} (h : p <+: q) (hne : p ≠ q) :
    (pruneEmpty t p).getPath q = t.getPath q := by
  obtain ⟨r, rfl⟩ := h
  exact getPath_pruneEmpty (.inr ⟨r, by rintro rfl; simp at hne, rfl⟩)

/-- After pruning, the table at `p` is not an empty one. -/
theorem getPath_pruneEmpty_self (t : Tree) (p : List String) :
    (pruneEmpty t p).getPath p ≠ some (.tree []) := by
  unfold pruneEmpty
  split
  · rename_i hp
    have hp0 : p ≠ [] := by rintro rfl; simp [Tree.getPath, getIn] at hp
    rw [Tree.getPath_deletePath_self hp0]
    simp
  · assumption

theorem pruneEmpty_of_ne {t : Tree} {p : List String} (h : t.getPath p ≠ some (.tree [])) :
    pruneEmpty t p = t := by
  unfold pruneEmpty
  split
  · contradiction
  · rfl

/-- A path apart from, or strictly below, every ancestor is unchanged by pruning them all. -/
theorem getPath_pruneAncestors {t : Tree} {q : List String}
    (h : ∀ a ∈ runtimeAncestors, diverge a q ∨ ∃ r, r ≠ [] ∧ q = a ++ r) :
    (runtimeAncestors.foldl pruneEmpty t).getPath q = t.getPath q := by
  generalize runtimeAncestors = as at h ⊢
  induction as generalizing t with
  | nil => rfl
  | cons a as ih =>
    rw [List.foldl_cons, ih (fun a' ha' => h a' (List.mem_cons_of_mem _ ha')),
      getPath_pruneEmpty (h a (List.mem_cons_self _ _))]

/-- **After pruning, no ancestor is an empty table**: each is pruned after every table below it. -/
theorem pruneAncestors_no_empty (t : Tree) :
    ∀ a ∈ runtimeAncestors, (runtimeAncestors.foldl pruneEmpty t).getPath a ≠ some (.tree []) := by
  simp only [runtimeAncestors, List.foldl_cons, List.foldl_nil, List.mem_cons, List.mem_singleton,
    List.not_mem_nil, or_false]
  rintro a (rfl | rfl | rfl | rfl) <;>
    (try simp (disch := decide) only [getPath_pruneEmpty_below]) <;> exact getPath_pruneEmpty_self _ _

/-- Pruning ancestors that are not empty tables changes nothing. -/
theorem pruneAncestors_of_settled {t : Tree} (h : ∀ a ∈ runtimeAncestors, t.getPath a ≠ some (.tree [])) :
    runtimeAncestors.foldl pruneEmpty t = t := by
  generalize runtimeAncestors = as at h ⊢
  induction as with
  | nil => rfl
  | cons a as ih =>
    rw [List.foldl_cons, pruneEmpty_of_ne (h a (List.mem_cons_self _ _))]
    exact ih (fun a' ha' => h a' (List.mem_cons_of_mem _ ha'))

/-- A document `pruneTables` leaves as it is: no empty table above the runtimes, and not `version`
    alone. -/
def Settled (t : Tree) : Prop :=
  (∀ a ∈ runtimeAncestors, t.getPath a ≠ some (.tree [])) ∧ t.keys ≠ ["version"]

/-- A path that holds a table or nothing: deletions keep it so. -/
def TableOrNone (t : Tree) (q : List String) : Prop :=
  t.getPath q = none ∨ ∃ sub, t.getPath q = some (.tree sub)

theorem TableOrNone.deletePath {t : Tree} {q : List String} (p : List String) (h : TableOrNone t q) :
    TableOrNone (t.deletePath p) q := by
  rcases h with h | ⟨sub, h⟩
  · exact .inl (Tree.getPath_deletePath_of_none p h)
  · exact Tree.getPath_deletePath_table p h

/-- What every deletion keeps, `pruneTables` keeps. -/
theorem pruneTables_of_deletePath {P : Tree → Prop} (hdel : ∀ t p, P t → P (t.deletePath p)) {t : Tree}
    (h : P t) : P (pruneTables t) := by
  have hprune : P (runtimeAncestors.foldl pruneEmpty t) := by
    generalize runtimeAncestors = as
    induction as generalizing t with
    | nil => exact h
    | cons a as ih => exact ih (by unfold pruneEmpty; split; exacts [hdel _ _ h, h])
  unfold pruneTables
  dsimp only
  split
  exacts [hdel _ _ hprune, hprune]

/-- `pruneTables` leaves a path alone that parts from `version` and lies apart from, or strictly
    below, every table it may drop. -/
theorem getPath_pruneTables {t : Tree} {q : List String} (hv : diverge ["version"] q)
    (ha : ∀ a ∈ runtimeAncestors, diverge a q ∨ ∃ r, r ≠ [] ∧ q = a ++ r) :
    (pruneTables t).getPath q = t.getPath q := by
  unfold pruneTables
  dsimp only
  split <;> simp only [Tree.getPath_deletePath_of_diverge hv, getPath_pruneAncestors ha]

theorem keys_deletePath_version {t : Tree} (h : t.keys = ["version"]) :
    (t.deletePath ["version"]).keys = [] := by
  obtain ⟨⟨k, v⟩, es, he, hk, hes⟩ := List.map_eq_cons_iff.mp h
  rw [List.map_eq_nil_iff] at hes
  simp only at hk
  simp [Tree.keys, Tree.deletePath, he, hk, hes, deleteIn, erase]

/-- **`pruneTables` ends settled.** -/
theorem pruneTables_settled (t : Tree) : Settled (pruneTables t) := by
  have hv : ∀ a ∈ runtimeAncestors, diverge ["version"] a := by simp [runtimeAncestors, diverge]
  unfold pruneTables
  dsimp only
  split
  · rename_i h
    refine ⟨fun a ha => ?_, by simp [keys_deletePath_version h]⟩
    rw [Tree.getPath_deletePath_of_diverge (hv a ha)]
    exact pruneAncestors_no_empty t a ha
  · exact ⟨pruneAncestors_no_empty t, by assumption⟩

theorem pruneTables_of_settled {t : Tree} (h : Settled t) : pruneTables t = t := by
  unfold pruneTables
  dsimp only
  rw [pruneAncestors_of_settled h.1, if_neg h.2]

theorem getPath_pruneTables_of_none {t : Tree} {q : List String} (h : t.getPath q = none) :
    (pruneTables t).getPath q = none :=
  pruneTables_of_deletePath (P := fun t => t.getPath q = none) (fun _ p h => Tree.getPath_deletePath_of_none p h) h

/-! ## One `RemoveRuntime` -/

theorem getPath_deleteDefaultRuntime {t : Tree} {name : String} {q : List String}
    (h : defaultRunsRuntime t name = true → diverge defaultRuntimePath q) :
    (deleteDefaultRuntime t name).getPath q = t.getPath q := by
  unfold deleteDefaultRuntime
  split
  exacts [Tree.getPath_deletePath_of_diverge (h ‹_›) t, rfl]

theorem getPath_deleteDefaultRuntimeName {t : Tree} {name : String} {q : List String}
    (h : t.stringAt defaultRuntimeNamePath = some name → diverge defaultRuntimeNamePath q) :
    (deleteDefaultRuntimeName t name).getPath q = t.getPath q := by
  unfold deleteDefaultRuntimeName
  split
  exacts [Tree.getPath_deletePath_of_diverge (h ‹_›) t, rfl]

theorem getPath_deleteDefaultRuntimeName_of_none {t : Tree} (name : String) {q : List String}
    (h : t.getPath q = none) : (deleteDefaultRuntimeName t name).getPath q = none := by
  unfold deleteDefaultRuntimeName
  split
  exacts [Tree.getPath_deletePath_of_none _ h, h]

/-- A runtime without an entry runs nothing the default could run. -/
theorem defaultRunsRuntime_of_none {t : Tree} {name : String} (h : t.getPath (runtimePath name) = none) :
    defaultRunsRuntime t name = false := by
  unfold defaultRunsRuntime Tree.stringAt
  rw [Tree.getPath_append (by simp [runtimePath]), h]
  rfl

/-- The paths `RemoveRuntime` may delete, each apart from the others. -/
theorem diverge_removed_paths (name : String) (s : List String) :
    diverge defaultRuntimePath (runtimePath name ++ s) ∧ diverge defaultRuntimeNamePath (runtimePath name ++ s) ∧
      diverge (runtimePath name) (defaultRuntimePath ++ s) ∧ diverge (runtimePath name) defaultRuntimeNamePath ∧
      diverge defaultRuntimeNamePath (defaultRuntimePath ++ s) ∧ diverge defaultRuntimePath defaultRuntimeNamePath := by
  simp [runtimePath, defaultRuntimePath, defaultRuntimeNamePath, diverge]

section Step
variable {c : Config} {name : String}

@[simp] theorem removeRuntime_runtimeType : (ConfigV1.removeRuntime c name).runtimeType = c.runtimeType := by
  unfold ConfigV1.removeRuntime; dsimp only

@[simp] theorem removeRuntime_useDefaultRuntimeName :
    (ConfigV1.removeRuntime c name).useDefaultRuntimeName = c.useDefaultRuntimeName := by
  unfold ConfigV1.removeRuntime; dsimp only

theorem removeRuntime_tree : (ConfigV1.removeRuntime c name).tree =
    pruneTables (deleteDefaultRuntimeName ((deleteDefaultRuntime c.tree name).deletePath (runtimePath name)) name) := by
  unfold ConfigV1.removeRuntime; dsimp only

/-- **`RemoveRuntime` only deletes**: what every deletion keeps, it keeps. -/
theorem removeRuntime_of_deletePath {P : Tree → Prop} (hdel : ∀ t p, P t → P (t.deletePath p))
    (h : P c.tree) : P (ConfigV1.removeRuntime c name).tree := by
  have hite : ∀ {b : Prop} [Decidable b] {t : Tree} (p : List String), P t → P (if b then t.deletePath p else t) :=
    fun p h => by split; exacts [hdel _ p h, h]
  rw [removeRuntime_tree]
  unfold deleteDefaultRuntimeName deleteDefaultRuntime
  exact pruneTables_of_deletePath hdel (hite _ (hdel _ _ (hite _ h)))

/-- `default_runtime_name` is tested on what the config held: the two deletions before it are
    elsewhere. -/
theorem stringAt_defaultRuntimeName_before :
    ((deleteDefaultRuntime c.tree name).deletePath (runtimePath name)).stringAt defaultRuntimeNamePath =
      c.tree.stringAt defaultRuntimeNamePath := by
  obtain ⟨-, -, -, hr, -, hd⟩ := diverge_removed_paths name []
  unfold Tree.stringAt
  rw [Tree.getPath_deletePath_of_diverge hr, getPath_deleteDefaultRuntime (fun _ => hd)]

/-- **`RemoveRuntime` frame.** A path apart from the runtime's entry, from `version`, from each default
    pointer it deletes, and apart from or strictly below each table it may drop, reads as before. -/
theorem removeRuntime_getPath_of_diverge {q : List String}
    (hd : defaultRunsRuntime c.tree name = true → diverge defaultRuntimePath q)
    (hr : diverge (runtimePath name) q)
    (hn : c.tree.stringAt defaultRuntimeNamePath = some name → diverge defaultRuntimeNamePath q)
    (hv : diverge ["version"] q) (ha : ∀ a ∈ runtimeAncestors, diverge a q ∨ ∃ r, r ≠ [] ∧ q = a ++ r) :
    (ConfigV1.removeRuntime c name).tree.getPath q = c.tree.getPath q := by
  rw [removeRuntime_tree, getPath_pruneTables hv ha,
    getPath_deleteDefaultRuntimeName (by rw [stringAt_defaultRuntimeName_before]; exact hn),
    Tree.getPath_deletePath_of_diverge hr, getPath_deleteDefaultRuntime hd]

/-- **The runtime's entry is gone.** -/
theorem removeRuntime_getPath_runtime : (ConfigV1.removeRuntime c name).tree.getPath (runtimePath name) = none := by
  rw [removeRuntime_tree]
  exact getPath_pruneTables_of_none (getPath_deleteDefaultRuntimeName_of_none _
    (Tree.getPath_deletePath_self (by simp [runtimePath]) _))

theorem removeRuntime_defaultRunsRuntime_self : defaultRunsRuntime (ConfigV1.removeRuntime c name).tree name = false :=
  defaultRunsRuntime_of_none removeRuntime_getPath_runtime

/-- **The inlined default goes when it runs the runtime's binary.** -/
theorem removeRuntime_default_of_runs (h : defaultRunsRuntime c.tree name = true) :
    (ConfigV1.removeRuntime c name).tree.getPath defaultRuntimePath = none := by
  rw [removeRuntime_tree]
  refine getPath_pruneTables_of_none (getPath_deleteDefaultRuntimeName_of_none _
    (Tree.getPath_deletePath_of_none _ ?_))
  unfold deleteDefaultRuntime
  rw [if_pos h]
  exact Tree.getPath_deletePath_self (by simp [defaultRuntimePath]) _

/-- Otherwise all of it stays. -/
theorem removeRuntime_default_of_not_runs (h : defaultRunsRuntime c.tree name = false) (s : List String) :
    (ConfigV1.removeRuntime c name).tree.getPath (defaultRuntimePath ++ s) = c.tree.getPath (defaultRuntimePath ++ s) := by
  obtain ⟨-, -, hr, -, hn, -⟩ := diverge_removed_paths name s
  exact removeRuntime_getPath_of_diverge (fun h' => absurd h' (by simp [h])) hr (fun _ => hn)
    (by simp [defaultRuntimePath, diverge]) (by simp [runtimeAncestors, defaultRuntimePath, diverge])

/-- **`default_runtime_name` goes when it names the runtime.** -/
theorem removeRuntime_defaultName_of_eq (h : c.tree.stringAt defaultRuntimeNamePath = some name) :
    (ConfigV1.removeRuntime c name).tree.getPath defaultRuntimeNamePath = none := by
  rw [removeRuntime_tree]
  refine getPath_pruneTables_of_none ?_
  unfold deleteDefaultRuntimeName
  rw [stringAt_defaultRuntimeName_before, if_pos h]
  exact Tree.getPath_deletePath_self (by simp [defaultRuntimeNamePath]) _

/-- Otherwise it stays. -/
theorem removeRuntime_defaultName_of_ne (h : c.tree.stringAt defaultRuntimeNamePath ≠ some name) :
    (ConfigV1.removeRuntime c name).tree.getPath defaultRuntimeNamePath = c.tree.getPath defaultRuntimeNamePath := by
  obtain ⟨-, -, -, hr, -, hd⟩ := diverge_removed_paths name []
  exact removeRuntime_getPath_of_diverge (fun _ => hd) hr (fun h' => absurd h' h)
    (by simp [defaultRuntimeNamePath, diverge]) (by simp [runtimeAncestors, defaultRuntimeNamePath, diverge])

/-- The entry of another runtime stays, all of it. -/
theorem removeRuntime_getPath_other {n : String} (hn : n ≠ name) (s : List String) :
    (ConfigV1.removeRuntime c name).tree.getPath (runtimePath n ++ s) = c.tree.getPath (runtimePath n ++ s) := by
  obtain ⟨hd, hdn, -⟩ := diverge_removed_paths n s
  exact removeRuntime_getPath_of_diverge (fun _ => hd) (by simp [runtimePath, diverge, Ne.symm hn])
    (fun _ => hdn) (by simp [runtimePath, diverge]) (by simp [runtimeAncestors, runtimePath, diverge])

/-- Whether the default runs another runtime is as before, when it did not run this one. -/
theorem removeRuntime_defaultRunsRuntime {n : String} (hn : n ≠ name) (h : defaultRunsRuntime c.tree name = false) :
    defaultRunsRuntime (ConfigV1.removeRuntime c name).tree n = defaultRunsRuntime c.tree n := by
  unfold defaultRunsRuntime Tree.stringAt
  rw [removeRuntime_getPath_other hn, removeRuntime_default_of_not_runs h]

/-- **`RemoveRuntime` ends settled.** -/
theorem removeRuntime_settled : Settled (ConfigV1.removeRuntime c name).tree := by
  rw [removeRuntime_tree]
  exact pruneTables_settled _

/-- **`RemoveRuntime` of a runtime that is not there changes nothing** in a settled config whose
    `default_runtime_name` does not name it. -/
theorem removeRuntime_of_absent (hs : Settled c.tree) (hr : c.tree.getPath (runtimePath name) = none)
    (hn : c.tree.stringAt defaultRuntimeNamePath ≠ some name) : ConfigV1.removeRuntime c name = c := by
  unfold ConfigV1.removeRuntime deleteDefaultRuntimeName deleteDefaultRuntime
  rw [defaultRunsRuntime_of_none hr]
  simp only [Bool.false_eq_true, if_false, Tree.deletePath_of_getPath_none hr, hn, pruneTables_of_settled hs]

end Step

/-! ## `RevertConfig`'s loop -/

section Loop
variable {c : Config}

@[simp] theorem removeRuntimes_nil : removeRuntimes c [] = c := List.foldl_nil

@[simp] theorem removeRuntimes_cons (name : String) (names : List String) :
    removeRuntimes c (name :: names) = removeRuntimes (ConfigV1.removeRuntime c name) names := List.foldl_cons _ _

@[simp] theorem removeRuntimes_runtimeType (names : List String) :
    (removeRuntimes c names).runtimeType = c.runtimeType := by
  induction names generalizing c with
  | nil => rfl
  | cons name names ih => rw [removeRuntimes_cons, ih, removeRuntime_runtimeType]

@[simp] theorem removeRuntimes_useDefaultRuntimeName (names : List String) :
    (removeRuntimes c names).useDefaultRuntimeName = c.useDefaultRuntimeName := by
  induction names generalizing c with
  | nil => rfl
  | cons name names ih => rw [removeRuntimes_cons, ih, removeRuntime_useDefaultRuntimeName]

theorem removeRuntimes_of_deletePath {P : Tree → Prop} (hdel : ∀ t p, P t → P (t.deletePath p))
    (names : List String) (h : P c.tree) : P (removeRuntimes c names).tree := by
  induction names generalizing c with
  | nil => rwa [removeRuntimes_nil]
  | cons name names ih => rw [removeRuntimes_cons]; exact ih (removeRuntime_of_deletePath hdel h)

/-- **`RevertConfig` creates nothing.** -/
theorem removeRuntimes_getPath_of_none {names : List String} {q : List String} (h : c.tree.getPath q = none) :
    (removeRuntimes c names).tree.getPath q = none :=
  removeRuntimes_of_deletePath (P := fun t => t.getPath q = none)
    (fun _ p h => Tree.getPath_deletePath_of_none p h) names h

theorem removeRuntimes_tableOrNone {names : List String} {q : List String} (h : TableOrNone c.tree q) :
    TableOrNone (removeRuntimes c names).tree q :=
  removeRuntimes_of_deletePath (P := fun t => TableOrNone t q) (fun _ p h => h.deletePath p) names h

/-- **The loop's frame**: what no step may delete reads as before. -/
theorem removeRuntimes_getPath_of_diverge {names : List String} {q : List String}
    (hr : ∀ name ∈ names, diverge (runtimePath name) q) (hd : diverge defaultRuntimePath q)
    (hn : diverge defaultRuntimeNamePath q) (hv : diverge ["version"] q)
    (ha : ∀ a ∈ runtimeAncestors, diverge a q ∨ ∃ r, r ≠ [] ∧ q = a ++ r) :
    (removeRuntimes c names).tree.getPath q = c.tree.getPath q := by
  induction names generalizing c with
  | nil => rfl
  | cons name names ih =>
    rw [removeRuntimes_cons, ih (fun n h => hr n (List.mem_cons_of_mem _ h)),
      removeRuntime_getPath_of_diverge (fun _ => hd) (hr name (List.mem_cons_self _ _)) (fun _ => hn) hv ha]

theorem removeRuntimes_getPath_runtime {names : List String} {name : String} (h : name ∈ names) :
    (removeRuntimes c names).tree.getPath (runtimePath name) = none := by
  induction names generalizing c with
  | nil => cases h
  | cons m names ih =>
    rw [removeRuntimes_cons]
    rcases List.mem_cons.mp h with rfl | h
    · exact removeRuntimes_getPath_of_none removeRuntime_getPath_runtime
    · exact ih h

/-- `default_runtime_name` naming a removed runtime goes at that runtime's step. -/
theorem removeRuntimes_defaultName_of_mem {names : List String} {name : String} (hm : name ∈ names)
    (h : c.tree.stringAt defaultRuntimeNamePath = some name) :
    (removeRuntimes c names).tree.getPath defaultRuntimeNamePath = none := by
  induction names generalizing c with
  | nil => cases hm
  | cons m names ih =>
    rw [removeRuntimes_cons]
    by_cases hname : name = m
    · subst hname
      exact removeRuntimes_getPath_of_none (removeRuntime_defaultName_of_eq h)
    · have hne : c.tree.stringAt defaultRuntimeNamePath ≠ some m := by simpa [h] using hname
      exact ih ((List.mem_cons.mp hm).resolve_left hname)
        ((Tree.stringAt_congr (removeRuntime_defaultName_of_ne hne)).trans h)

/-- `default_runtime_name` naming no removed runtime stays. -/
theorem removeRuntimes_defaultName_of_not_mem {names : List String}
    (h : ∀ name ∈ names, c.tree.stringAt defaultRuntimeNamePath ≠ some name) :
    (removeRuntimes c names).tree.getPath defaultRuntimeNamePath = c.tree.getPath defaultRuntimeNamePath := by
  induction names generalizing c with
  | nil => rfl
  | cons m names ih =>
    have hm := removeRuntime_defaultName_of_ne (h m (List.mem_cons_self _ _))
    rw [removeRuntimes_cons, ih (fun n hn => ?_), hm]
    rw [Tree.stringAt_congr hm]
    exact h n (List.mem_cons_of_mem _ hn)

/-- The inlined default running a removed runtime's binary goes, at the latest at that runtime's step. -/
theorem removeRuntimes_default_of_runs {names : List String} {name : String} (hm : name ∈ names)
    (h : defaultRunsRuntime c.tree name = true) :
    (removeRuntimes c names).tree.getPath defaultRuntimePath = none := by
  induction names generalizing c with
  | nil => cases hm
  | cons m names ih =>
    rw [removeRuntimes_cons]
    by_cases hrun : defaultRunsRuntime c.tree m = true
    · exact removeRuntimes_getPath_of_none (removeRuntime_default_of_runs hrun)
    · have hname : name ≠ m := by rintro rfl; exact hrun h
      refine ih ((List.mem_cons.mp hm).resolve_left hname) ?_
      rwa [removeRuntime_defaultRunsRuntime hname (by simpa using hrun)]

/-- The inlined default running no removed runtime's binary stays, all of it. -/
theorem removeRuntimes_default_of_not_runs {names : List String}
    (h : ∀ name ∈ names, defaultRunsRuntime c.tree name = false) (s : List String) :
    (removeRuntimes c names).tree.getPath (defaultRuntimePath ++ s) = c.tree.getPath (defaultRuntimePath ++ s) := by
  induction names generalizing c with
  | nil => rfl
  | cons m names ih =>
    have hm := h m (List.mem_cons_self _ _)
    rw [removeRuntimes_cons, ih (fun n hn => ?_), removeRuntime_default_of_not_runs hm]
    by_cases hn' : n = m
    · subst hn'; exact removeRuntime_defaultRunsRuntime_self
    · rw [removeRuntime_defaultRunsRuntime hn' hm]; exact h n (List.mem_cons_of_mem _ hn)

theorem removeRuntimes_settled {names : List String} (h : names ≠ []) : Settled (removeRuntimes c names).tree := by
  induction names generalizing c with
  | nil => exact absurd rfl h
  | cons m names ih =>
    rw [removeRuntimes_cons]
    cases names with
    | nil => exact removeRuntime_settled
    | cons => exact ih (List.cons_ne_nil _ _)

/-- A settled config holding none of the runtimes, and no default naming one, is a fixed point of
    the loop. -/
theorem removeRuntimes_of_absent {names : List String} (hs : Settled c.tree)
    (h : ∀ name ∈ names, c.tree.getPath (runtimePath name) = none ∧
      c.tree.stringAt defaultRuntimeNamePath ≠ some name) :
    removeRuntimes c names = c := by
  induction names with
  | nil => rfl
  | cons m names ih =>
    obtain ⟨hr, hn⟩ := h m (List.mem_cons_self _ _)
    rw [removeRuntimes_cons, removeRuntime_of_absent hs hr hn]
    exact ih (fun n hn => h n (List.mem_cons_of_mem _ hn))

end Loop

/-! ## What `RevertConfig` does -/

/-- **`RevertConfig` removes what the toolkit installs**: the entry of every runtime of the table, the
    `default_runtime_name` that names one of them, and the inlined default that runs one of their
    binaries. -/
theorem revertConfig_removes (c : Config) (o : Options) :
    ∀ name ∈ o.runtimes.map Prod.fst,
      (revertConfig c o).tree.getPath (runtimePath name) = none ∧
      (c.tree.stringAt defaultRuntimeNamePath = some name →
        (revertConfig c o).tree.getPath defaultRuntimeNamePath = none) ∧
      (defaultRunsRuntime c.tree name = true → (revertConfig c o).tree.getPath defaultRuntimePath = none) :=
  fun _ hm => ⟨removeRuntimes_getPath_runtime hm, removeRuntimes_defaultName_of_mem hm,
    removeRuntimes_default_of_runs hm⟩

/-- Reverting a config the toolkit has just updated removes its `nvidia` entry. -/
theorem revertConfig_removes_nvidia :
    let o : Options := ⟨true, "", "/usr/bin"⟩
    let c : Config := updateConfig ⟨Tree.empty, defaultRuntimeType, true⟩ o
    "nvidia" ∈ o.runtimes.map Prod.fst ∧ (revertConfig c o).tree.getPath (runtimePath "nvidia") = none := by
  intro o c
  have h : "nvidia" ∈ o.runtimes.map Prod.fst := by
    simp [o, Options.runtimes, Options.runtimeName, nvidiaRuntimeBinaries]
  exact ⟨h, (revertConfig_removes c o "nvidia" h).1⟩

/-- **`RevertConfig` leaves the rest alone.** Every runtime entry the toolkit does not install, every
    top-level section other than `version` and `plugins`, a `default_runtime_name` that names none of
    the toolkit's runtimes, and an inlined default that runs none of their binaries read after the
    revert as before it. -/
theorem revertConfig_frame (c : Config) (o : Options) :
    (∀ r, r ∉ o.runtimes.map Prod.fst → ∀ s,
      (revertConfig c o).tree.getPath (runtimePath r ++ s) = c.tree.getPath (runtimePath r ++ s)) ∧
    (∀ k, k ≠ "version" → k ≠ "plugins" → ∀ s,
      (revertConfig c o).tree.getPath (k :: s) = c.tree.getPath (k :: s)) ∧
    ((∀ name ∈ o.runtimes.map Prod.fst, c.tree.stringAt defaultRuntimeNamePath ≠ some name) →
      (revertConfig c o).tree.getPath defaultRuntimeNamePath = c.tree.getPath defaultRuntimeNamePath) ∧
    ((∀ name ∈ o.runtimes.map Prod.fst, defaultRunsRuntime c.tree name = false) → ∀ s,
      (revertConfig c o).tree.getPath (defaultRuntimePath ++ s) = c.tree.getPath (defaultRuntimePath ++ s)) := by
  refine ⟨fun r hr s => ?_, fun k hv hp s => ?_, removeRuntimes_defaultName_of_not_mem,
    removeRuntimes_default_of_not_runs⟩
  · obtain ⟨hd, hn, -⟩ := diverge_removed_paths r s
    refine removeRuntimes_getPath_of_diverge (fun name hm => ?_) hd hn (by simp [runtimePath, diverge])
      (by simp [runtimeAncestors, runtimePath, diverge])
    have hne : name ≠ r := fun he => hr (he ▸ hm)
    simp [runtimePath, diverge, hne]
  · exact removeRuntimes_getPath_of_diverge (fun _ _ => by simp [runtimePath, diverge, Ne.symm hp])
      (by simp [defaultRuntimePath, diverge, Ne.symm hp]) (by simp [defaultRuntimeNamePath, diverge, Ne.symm hp])
      (by simp [diverge, Ne.symm hv]) (by simp [runtimeAncestors, diverge, Ne.symm hp])

/-- After the loop, `default_runtime_name` names none of the removed runtimes. -/
theorem removeRuntimes_stringAt_defaultName {c : Config} {names : List String} {name : String} (hn : name ∈ names) :
    (removeRuntimes c names).tree.stringAt defaultRuntimeNamePath ≠ some name := by
  by_cases h : ∃ m ∈ names, c.tree.stringAt defaultRuntimeNamePath = some m
  · obtain ⟨m, hm, h⟩ := h
    simp [Tree.stringAt, removeRuntimes_defaultName_of_mem hm h]
  · push_neg at h
    rw [Tree.stringAt_congr (removeRuntimes_defaultName_of_not_mem h)]
    exact h name hn

/-- **`RevertConfig` is idempotent**: a second revert changes nothing. -/
theorem revertConfig_idempotent (c : Config) (o : Options) : revertConfig (revertConfig c o) o = revertConfig c o := by
  have hne : o.runtimes.map Prod.fst ≠ [] := by simp [Options.runtimes, nvidiaRuntimeBinaries]
  unfold revertConfig
  exact removeRuntimes_of_absent (removeRuntimes_settled hne)
    fun n hn => ⟨removeRuntimes_getPath_runtime hn, removeRuntimes_stringAt_defaultName hn⟩

end ContainerToolkit.Containerd
