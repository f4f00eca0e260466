import ContainerToolkit.Containerd.Revert

/-!
# `ContainerToolkit.Containerd.RoundTrip` — `RevertConfig` undoes `UpdateConfig`

On a config with no `plugins` table, `UpdateConfig` writes `version = 1` and builds the `plugins` subtree
that holds the toolkit's runtimes and, with `--set-as-default`, a default pointer at one of them.
`RevertConfig` with the same options deletes all of that subtree again. Two facts make the round trip:

* below `plugins`, nothing is left (`revertConfig_updateConfig_plugins`): the runtimes and the pointers
  at them are deleted, nothing else was ever written there, and pruning then drops each table on the way
  up, innermost first, once it is empty;
* beside `plugins`, the document is the original with `version = 1` written, in the original order, since
  every write and every deletion of the two loops is below `plugins` except that one
  (`addRuntimes_erase_plugins`, `removeRuntimes_erase_plugins`).

So `revertConfig_updateConfig`: the config comes back with only `version = 1` written, and empty when
that would be all it holds.

On any config, with or without `plugins`, the cycle keeps every path it does not manage
(`revertConfig_updateConfig_getPath`), such as an option of a `runc` entry. What it does not keep is a default the config had before an
update with `--set-as-default`: the update overwrites the pointer, and the revert deletes the pointer it
finds, at the toolkit's runtime (`revertConfig_updateConfig_default`).
-/

namespace ContainerToolkit.Containerd

open Toml

/-! ## A table with nothing below it -/

/-- A table or nothing at `a`, no empty table, and nothing at any key below: then nothing at `a`. -/
theorem getPath_eq_none_of_children {t : Tree} {a : List String} (ha : a ≠ []) (hto : TableOrNone t a)
    (hne : t.getPath a ≠ some (.tree [])) (h : ∀ k, t.getPath (a ++ [k]) = none) : t.getPath a = none := by
  rcases hto with h0 | ⟨sub, hsub⟩
  · exact h0
  · obtain _ | ⟨⟨k, v⟩, sub⟩ := sub
    · exact absurd hsub hne
    · have hk := h k
      rw [Tree.getPath_append ha, hsub] at hk
      simp [Value.at, getIn] at hk

/-- Something below `a` means a table at `a`. -/
theorem exists_table_of_getPath {t : Tree} {a q : List String} {v : Value} (ha : a ≠ [])
    (hq : ∃ k r, q = a ++ k :: r) (h : t.getPath q = some v) : ∃ sub, t.getPath a = some (.tree sub) := by
  obtain ⟨k, r, rfl⟩ := hq
  rw [Tree.getPath_append ha] at h
  cases hga : t.getPath a with
  | none => simp [hga] at h
  | some w => cases w <;> simp_all [Value.at]

/-- **Nothing is left below `plugins`** in a settled document that holds tables or nothing above the
    runtimes, no runtime entry, no default pointer, and nothing else below `plugins`: each table on the
    way up has no key left. -/
theorem getPath_plugins_eq_none {t : Tree} (hs : ∀ a ∈ runtimeAncestors, t.getPath a ≠ some (.tree []))
    (hto : ∀ a ∈ runtimeAncestors, TableOrNone t a) (hrt : ∀ n, t.getPath (runtimePath n) = none)
    (hdn : t.getPath defaultRuntimeNamePath = none) (hdr : t.getPath defaultRuntimePath = none)
    (hother : ∀ r, (∀ n, diverge (runtimePath n) ("plugins" :: r)) → diverge defaultRuntimeNamePath ("plugins" :: r) →
      diverge defaultRuntimePath ("plugins" :: r) → t.getPath ("plugins" :: r) = none) :
    t.getPath ["plugins"] = none := by
  have hlevel : ∀ a ∈ runtimeAncestors, (∀ k, t.getPath (a ++ [k]) = none) → t.getPath a = none :=
    fun a ha hk => getPath_eq_none_of_children (by rintro rfl; simp [runtimeAncestors] at ha) (hto a ha)
      (hs a ha) hk
  have hruntimes := hlevel ["plugins", "cri", "containerd", "runtimes"] (by simp [runtimeAncestors]) hrt
  have hcontainerd := hlevel ["plugins", "cri", "containerd"] (by simp [runtimeAncestors]) fun k => by
    by_cases k1 : k = "runtimes"
    · subst k1; exact hruntimes
    by_cases k2 : k = "default_runtime_name"
    · subst k2; exact hdn
    by_cases k3 : k = "default_runtime"
    · subst k3; exact hdr
    exact hother _ (fun n => by simp [runtimePath, diverge, Ne.symm k1])
      (by simp [defaultRuntimeNamePath, diverge, Ne.symm k2]) (by simp [defaultRuntimePath, diverge, Ne.symm k3])
  have hcri := hlevel ["plugins", "cri"] (by simp [runtimeAncestors]) fun k => by
    by_cases k1 : k = "containerd"
    · subst k1; exact hcontainerd
    exact hother _ (fun n => by simp [runtimePath, diverge, Ne.symm k1])
      (by simp [defaultRuntimeNamePath, diverge, Ne.symm k1]) (by simp [defaultRuntimePath, diverge, Ne.symm k1])
  exact hlevel ["plugins"] (by simp [runtimeAncestors]) fun k => by
    by_cases k1 : k = "cri"
    · subst k1; exact hcri
    exact hother _ (fun n => by simp [runtimePath, diverge, Ne.symm k1])
      (by simp [defaultRuntimeNamePath, diverge, Ne.symm k1]) (by simp [defaultRuntimePath, diverge, Ne.symm k1])

/-! ## What `UpdateConfig` builds below `plugins` -/

section Update
variable (c : Config) (o : Options)

/-- Every table above the runtimes is one after `UpdateConfig`. -/
theorem updateConfig_tables : ∀ a ∈ runtimeAncestors, ∃ sub, (updateConfig c o).tree.getPath a = some (.tree sub) := by
  obtain ⟨path, hmem⟩ := defaultName_mem o
  obtain ⟨t, entry, -, hget⟩ := updateConfig_getPath_runtime c o hmem
  have hw := (hget ["container_annotations"]).trans (writeRuntime_getPath_written t _ path entry).1
  intro a ha
  simp only [runtimeAncestors, List.mem_cons, List.mem_singleton, List.not_mem_nil, or_false] at ha
  rcases ha with rfl | rfl | rfl | rfl <;> exact exists_table_of_getPath (by simp) ⟨_, _, rfl⟩ hw

/-- Below `plugins`, apart from the runtimes and the default pointers, `UpdateConfig` writes nothing. -/
theorem updateConfig_getPath_plugins {r : List String} (hr : ∀ n, diverge (runtimePath n) ("plugins" :: r))
    (hn : diverge defaultRuntimeNamePath ("plugins" :: r)) (hd : diverge defaultRuntimePath ("plugins" :: r)) :
    (updateConfig c o).tree.getPath ("plugins" :: r) = c.tree.getPath ("plugins" :: r) :=
  addRuntimes_getPath_of_diverge (by simp [diverge]) (fun _ _ => hr _) (fun _ _ _ => ⟨hn, hd⟩)

/-- With `--set-as-default`, the pointer `UpdateConfig` writes is at the default runtime: its name, or
    an inlined default running its binary. -/
theorem updateConfig_default_points (hset : o.setAsDefault = true) :
    if c.useDefaultRuntimeName then (updateConfig c o).tree.stringAt defaultRuntimeNamePath = some o.defaultName
    else defaultRunsRuntime (updateConfig c o).tree o.defaultName = true := by
  obtain ⟨c', path, hmem, -, hu, h⟩ := updateConfig_getPath_defaults c o hset
  split
  · rename_i hu'
    have hstep := addRuntime_default_byName c' o.defaultName path (hu.trans hu')
    have h0 : (updateConfig c o).tree.getPath defaultRuntimeNamePath =
        (ConfigV1.addRuntime c' o.defaultName path true).tree.getPath defaultRuntimeNamePath := by
      simpa using (h []).1
    rw [Tree.stringAt, h0, hstep.1]
  · rename_i hu'
    obtain ⟨h1, -⟩ := addRuntime_default_inline c' o.defaultName path (by simpa [hu] using hu')
    have hcopy := (h _).2.1.trans ((h1 ["options", "BinaryName"] (by simp [diverge])).trans (h _).2.2.1.symm)
    obtain ⟨t, entry, -, hget⟩ := updateConfig_getPath_runtime c o hmem
    unfold defaultRunsRuntime Tree.stringAt
    rw [hcopy, hget, (writeRuntime_getPath_written t _ path entry).2.1]
    simp

/-- On a config without default pointers, each pointer `UpdateConfig` leaves is absent or at the
    default runtime. -/
theorem updateConfig_defaults_of_none (hn : c.tree.getPath defaultRuntimeNamePath = none)
    (hd : c.tree.getPath defaultRuntimePath = none) :
    ((updateConfig c o).tree.getPath defaultRuntimeNamePath = none ∨
      (updateConfig c o).tree.stringAt defaultRuntimeNamePath = some o.defaultName) ∧
    ((updateConfig c o).tree.getPath defaultRuntimePath = none ∨
      defaultRunsRuntime (updateConfig c o).tree o.defaultName = true) := by
  cases hset : o.setAsDefault with
  | false =>
    have h := @addRuntimes_getPath_default c (fun name => o.defaultRuntime == some name) o.runtimes
      (fun _ _ => by simp [Options.defaultRuntime, hset]) []
    simp only [List.append_nil, hn, hd] at h
    exact ⟨.inl h.1, .inl h.2⟩
  | true =>
    have hp := updateConfig_default_points c o hset
    obtain ⟨c', path, -, -, hu, h⟩ := updateConfig_getPath_defaults c o hset
    have h0 := h []
    simp only [List.append_nil, hn, hd] at h0
    cases hu' : c.useDefaultRuntimeName with
    | true =>
      have hdr' := (addRuntime_default_byName c' o.defaultName path (hu.trans hu')).2 []
      simp only [List.append_nil, h0.2.2.2.2] at hdr'
      exact ⟨.inr (by simpa [hu'] using hp), .inl (h0.2.1.trans hdr')⟩
    | false =>
      have h4 := (addRuntime_default_inline c' o.defaultName path (hu.trans hu')).2.2
      exact ⟨.inl (by rw [h0.1, h4, h0.2.2.2.1]), .inr (by simpa [hu'] using hp)⟩

end Update

/-- **`RevertConfig` after `UpdateConfig` leaves no `plugins`** when there was none before. -/
theorem revertConfig_updateConfig_plugins (c : Config) (o : Options) (h : c.tree.get "plugins" = none) :
    (revertConfig (updateConfig c o) o).tree.getPath ["plugins"] = none := by
  have hc : ∀ r, c.tree.getPath ("plugins" :: r) = none := fun r => by
    simp [Tree.getPath, getIn_cons, show c.tree.entries.lookup "plugins" = none from h]
  have hne : o.runtimes.map Prod.fst ≠ [] := by simp [Options.runtimes, nvidiaRuntimeBinaries]
  obtain ⟨hdn, hdr⟩ := updateConfig_defaults_of_none c o (by simpa using hc ["cri", "containerd", "default_runtime_name"])
    (by simpa using hc ["cri", "containerd", "default_runtime"])
  obtain ⟨path, hmem⟩ := defaultName_mem o
  have hdN := List.mem_map_of_mem Prod.fst hmem
  have hrt : ∀ n, n ∉ o.runtimes.map Prod.fst → (updateConfig c o).tree.getPath (runtimePath n) = none :=
    fun n hm => (addRuntimes_getPath_runtime_of_not_mem (s := []) fun runtime hr (he : runtime.1 = n) =>
      hm (he ▸ List.mem_map_of_mem _ hr)).trans (by simpa [runtimePath] using hc ["cri", "containerd", "runtimes", n])
  have hother := fun r hr hn hd => (updateConfig_getPath_plugins c o (r := r) hr hn hd).trans (hc r)
  have htables := updateConfig_tables c o
  unfold revertConfig
  generalize updateConfig c o = u at hdn hdr hrt hother htables
  generalize o.runtimes.map Prod.fst = names at hne hdN hrt
  refine getPath_plugins_eq_none (removeRuntimes_settled hne).1
    (fun a ha => removeRuntimes_tableOrNone (.inr (htables a ha))) (fun n => ?_)
    (hdn.elim removeRuntimes_getPath_of_none (removeRuntimes_defaultName_of_mem hdN))
    (hdr.elim removeRuntimes_getPath_of_none (removeRuntimes_default_of_runs hdN))
    (fun r hr hn hd => removeRuntimes_getPath_of_none (hother r hr hn hd))
  by_cases hm : n ∈ names
  · exact removeRuntimes_getPath_runtime hm
  · exact removeRuntimes_getPath_of_none (hrt n hm)

/-! ## Beside `plugins` -/

/-- One `AddRuntime`, beside `plugins`, writes `version = 1` and nothing else. -/
theorem addRuntime_erase_plugins (c : Config) (name path : String) (d : Bool) :
    erase (ConfigV1.addRuntime c name path d).tree.entries "plugins" =
      upsert (erase c.tree.entries "plugins") "version" (.int64 1) := by
  have hw : ∀ (t : Tree) r v, erase (t.setPath ("plugins" :: r) v).entries "plugins" = erase t.entries "plugins" :=
    fun t r v => erase_setIn_cons _ _ _ _
  have hr : ∀ t path entry, erase (writeRuntime t name path entry).entries "plugins" = erase t.entries "plugins" :=
    fun t path entry => by simp only [writeRuntime, runtimePath, List.cons_append, List.nil_append, hw]
  have hdel : ∀ (t : Tree) r, erase (t.deletePath ("plugins" :: r)).entries "plugins" = erase t.entries "plugins" :=
    fun t r => erase_deleteIn_cons _ _ _
  have hd : ∀ t, erase (writeDefault c t name).entries "plugins" = erase t.entries "plugins" := fun t => by
    unfold writeDefault
    split
    · simp only [defaultRuntimeNamePath, List.cons_append, List.nil_append, hw]
    · split <;> simp only [defaultRuntimePath, List.cons_append, List.nil_append, hw, hdel]
  have hv : erase (c.tree.setPath ["version"] (.int64 1)).entries "plugins" =
      upsert (erase c.tree.entries "plugins") "version" (.int64 1) :=
    erase_upsert_of_ne (by decide) _ _
  unfold ConfigV1.addRuntime
  dsimp only
  split <;> simp only [hd, hr, hv]

theorem addRuntimes_erase_plugins {c : Config} {isDefault : String → Bool} {runtimes : List (String × String)}
    (h : runtimes ≠ []) :
    erase (addRuntimes c runtimes isDefault).tree.entries "plugins" =
      upsert (erase c.tree.entries "plugins") "version" (.int64 1) := by
  induction runtimes generalizing c with
  | nil => exact absurd rfl h
  | cons runtime runtimes ih =>
    rw [addRuntimes_cons]
    cases runtimes with
    | nil => exact addRuntime_erase_plugins _ _ _ _
    | cons => rw [ih (List.cons_ne_nil _ _), addRuntime_erase_plugins, upsert_upsert_self]

theorem erase_deletePath_plugins (t : Tree) (r : List String) :
    erase (t.deletePath ("plugins" :: r)).entries "plugins" = erase t.entries "plugins" :=
  erase_deleteIn_cons _ _ _

theorem erase_deleteDefaultRuntime (t : Tree) (name : String) :
    erase (deleteDefaultRuntime t name).entries "plugins" = erase t.entries "plugins" := by
  unfold deleteDefaultRuntime
  split
  exacts [erase_deletePath_plugins t _, rfl]

theorem erase_deleteDefaultRuntimeName (t : Tree) (name : String) :
    erase (deleteDefaultRuntimeName t name).entries "plugins" = erase t.entries "plugins" := by
  unfold deleteDefaultRuntimeName
  split
  exacts [erase_deletePath_plugins t _, rfl]

theorem erase_pruneAncestors (t : Tree) :
    erase (runtimeAncestors.foldl pruneEmpty t).entries "plugins" = erase t.entries "plugins" := by
  have hprune : ∀ (t : Tree) r, erase (pruneEmpty t ("plugins" :: r)).entries "plugins" = erase t.entries "plugins" :=
    fun t r => by unfold pruneEmpty; split; exacts [erase_deletePath_plugins t r, rfl]
  simp only [runtimeAncestors, List.foldl_cons, List.foldl_nil, hprune]

/-- One `RemoveRuntime`, beside `plugins`, changes nothing, or deletes a `version` left alone. -/
theorem removeRuntime_erase_plugins (c : Config) (name : String) :
    erase (ConfigV1.removeRuntime c name).tree.entries "plugins" = erase c.tree.entries "plugins" ∨
      ((ConfigV1.removeRuntime c name).tree.entries = [] ∧
        (erase c.tree.entries "plugins").map Prod.fst = ["version"]) := by
  have hstages : erase (runtimeAncestors.foldl pruneEmpty (deleteDefaultRuntimeName
      ((deleteDefaultRuntime c.tree name).deletePath (runtimePath name)) name)).entries "plugins" =
      erase c.tree.entries "plugins" := (erase_pruneAncestors _).trans ((erase_deleteDefaultRuntimeName _ name).trans
    ((erase_deletePath_plugins _ ["cri", "containerd", "runtimes", name]).trans (erase_deleteDefaultRuntime c.tree name)))
  rw [removeRuntime_tree]
  unfold pruneTables
  dsimp only
  split
  · rename_i hk
    obtain ⟨⟨k, v⟩, es, he, hk', hes⟩ := List.map_eq_cons_iff.mp hk
    simp only at hk'
    subst hk'
    rw [List.map_eq_nil_iff] at hes
    subst hes
    refine .inr ⟨?_, ?_⟩
    · rw [Tree.deletePath_entries, he]
      simp [deleteIn, erase]
    · rw [← hstages, he]
      simp [erase]
  · exact .inl hstages

/-- Along `RevertConfig`'s loop the document beside `plugins` stays `w`, or is deleted when `w` is
    `version` alone. -/
theorem removeRuntimes_erase_plugins {c : Config} {names : List String} {w : Table}
    (h : erase c.tree.entries "plugins" = w ∨ (c.tree.entries = [] ∧ w.map Prod.fst = ["version"])) :
    erase (removeRuntimes c names).tree.entries "plugins" = w ∨
      ((removeRuntimes c names).tree.entries = [] ∧ w.map Prod.fst = ["version"]) := by
  induction names generalizing c with
  | nil => simpa using h
  | cons name names ih =>
    rw [removeRuntimes_cons]
    refine ih ?_
    rcases h with h | ⟨h0, hw⟩
    · rcases removeRuntime_erase_plugins c name with h' | ⟨h0', hk⟩
      · exact .inl (h'.trans h)
      · exact .inr ⟨h0', h ▸ hk⟩
    · exact .inr ⟨removeRuntime_of_deletePath (P := fun t => t.entries = [])
        (fun t p ht => by simp [Tree.deletePath, ht]) h0, hw⟩

/-! ## The round trip -/

theorem config_eq {a b : Config} (ht : a.tree = b.tree) (hr : a.runtimeType = b.runtimeType)
    (hu : a.useDefaultRuntimeName = b.useDefaultRuntimeName) : a = b := by
  cases a; cases b; cases ht; cases hr; cases hu; rfl

/-- **`RevertConfig` undoes `UpdateConfig`.** On a config with no `plugins` table, updating and then
    reverting with the same options gives the config back with `version = 1` written, or the empty
    document when `version` would be all it holds; whatever the options, and whether the config names
    its default runtime or inlines it. -/
theorem revertConfig_updateConfig (c : Config) (o : Options) (h : c.tree.get "plugins" = none) :
    revertConfig (updateConfig c o) o =
      { c with tree := if (c.tree.setPath ["version"] (.int64 1)).keys = ["version"] then Tree.empty
        else c.tree.setPath ["version"] (.int64 1) } := by
  have hne : o.runtimes ≠ [] := by simp [Options.runtimes, nvidiaRuntimeBinaries]
  have hne' : o.runtimes.map Prod.fst ≠ [] := by simpa using hne
  have hplugins := revertConfig_updateConfig_plugins c o h
  have hw : erase (updateConfig c o).tree.entries "plugins" = (c.tree.setPath ["version"] (.int64 1)).entries := by
    rw [updateConfig, addRuntimes_erase_plugins hne, erase_of_lookup_none h]
    rfl
  have hrt : (updateConfig c o).runtimeType = c.runtimeType := addRuntimes_runtimeType _
  have hu : (updateConfig c o).useDefaultRuntimeName = c.useDefaultRuntimeName := addRuntimes_useDefaultRuntimeName _
  unfold revertConfig at hplugins ⊢
  generalize updateConfig c o = u at hplugins hw hrt hu
  generalize o.runtimes.map Prod.fst = names at hplugins hne' ⊢
  have hnone : (removeRuntimes u names).tree.entries.lookup "plugins" = none := by
    simpa [Tree.getPath, getIn] using hplugins
  have hfinal := @removeRuntimes_erase_plugins u names _ (.inl hw)
  rw [erase_of_lookup_none hnone] at hfinal
  have hkeys := (removeRuntimes_settled (c := u) hne').2
  refine config_eq ?_ (by rw [removeRuntimes_runtimeType, hrt]) (by rw [removeRuntimes_useDefaultRuntimeName, hu])
  dsimp only
  split
  · rename_i hv
    rcases hfinal with hf | ⟨hf, -⟩
    · exact absurd (by rw [Tree.keys, hf]; exact hv) hkeys
    · exact Tree.ext hf
  · rename_i hv
    rcases hfinal with hf | ⟨-, hf⟩
    · exact Tree.ext hf
    · exact absurd hf hv

/-- A version 1 document holding only containerd's `root`: it comes back as it was. -/
theorem revertConfig_updateConfig_of_root :
    let c : Config := ⟨⟨[("version", .int64 1), ("root", .string "/var/lib/containerd")], by simp⟩, defaultRuntimeType, false⟩
    let o : Options := ⟨true, "nvidia-cdi", "/usr/bin"⟩
    c.tree.get "plugins" = none ∧
      revertConfig (updateConfig c o) o =
        { c with tree := if (c.tree.setPath ["version"] (.int64 1)).keys = ["version"] then Tree.empty
          else c.tree.setPath ["version"] (.int64 1) } := by
  intro c o
  have h : c.tree.get "plugins" = none := by simp [c, Toml.Tree.get]
  exact ⟨h, revertConfig_updateConfig c o h⟩

/-! ## Any config -/

/-- **An update and a revert leave every path they do not manage as it was**, in any config: every path
    apart from `version`, from the toolkit's runtime entries and from the two default pointers, and not
    one of the tables above the runtimes, reads after `UpdateConfig` and `RevertConfig` with the same
    options what it read before. -/
theorem revertConfig_updateConfig_getPath (c : Config) (o : Options) {q : List String}
    (hr : ∀ name ∈ o.runtimes.map Prod.fst, diverge (runtimePath name) q) (hd : diverge defaultRuntimePath q)
    (hn : diverge defaultRuntimeNamePath q) (hv : diverge ["version"] q)
    (ha : ∀ a ∈ runtimeAncestors, diverge a q ∨ ∃ r, r ≠ [] ∧ q = a ++ r) :
    (revertConfig (updateConfig c o) o).tree.getPath q = c.tree.getPath q :=
  (removeRuntimes_getPath_of_diverge hr hd hn hv ha).trans
    (addRuntimes_getPath_of_diverge hv (fun _ hm => hr _ (List.mem_map_of_mem _ hm)) (fun _ _ _ => ⟨hn, hd⟩))

/-- The `runc` entry of `TestUpdateV1ConfigWithRuncPresent` keeps its own option through the cycle. -/
theorem revertConfig_updateConfig_getPath_of_runc :
    let c : Config := ⟨runcConfigMapV1 "/runc-binary", defaultRuntimeType, true⟩
    let o : Options := ⟨false, "nvidia", "/test/runtime/dir"⟩
    let q := runtimePath "runc" ++ ["options", "runc-option"]
    ((∀ name ∈ o.runtimes.map Prod.fst, diverge (runtimePath name) q) ∧ diverge defaultRuntimePath q ∧
      diverge defaultRuntimeNamePath q ∧ diverge ["version"] q ∧
      ∀ a ∈ runtimeAncestors, diverge a q ∨ ∃ r, r ≠ [] ∧ q = a ++ r) ∧
    c.tree.getPath q = some (.string "value") ∧
    (revertConfig (updateConfig c o) o).tree.getPath q = some (.string "value") := by
  intro c o q
  have hr : ∀ name ∈ o.runtimes.map Prod.fst, diverge (runtimePath name) q := by
    simp [o, q, Options.runtimes, Options.runtimeName, nvidiaRuntimeBinaries, runtimePath, diverge]
  have hd : diverge defaultRuntimePath q := by simp [q, defaultRuntimePath, runtimePath, diverge]
  have hn : diverge defaultRuntimeNamePath q := by simp [q, defaultRuntimeNamePath, runtimePath, diverge]
  have hv : diverge ["version"] q := by simp [q, runtimePath, diverge]
  have ha : ∀ a ∈ runtimeAncestors, diverge a q ∨ ∃ r, r ≠ [] ∧ q = a ++ r := by
    simp [q, runtimeAncestors, runtimePath, diverge]
  have hc : c.tree.getPath q = some (.string "value") := rfl
  exact ⟨⟨hr, hd, hn, hv, ha⟩, hc, (revertConfig_updateConfig_getPath c o hr hd hn hv ha).trans hc⟩

/-- **An update with `--set-as-default` and a revert leave no default**, whatever default the config had
    before: the pointer the update wrote (`default_runtime_name`, or the inlined `default_runtime`) is at
    one of the toolkit's runtimes, so the revert deletes it, and the one it replaced is not restored. -/
theorem revertConfig_updateConfig_default (c : Config) (o : Options) (hset : o.setAsDefault = true) :
    if c.useDefaultRuntimeName then (revertConfig (updateConfig c o) o).tree.getPath defaultRuntimeNamePath = none
    else (revertConfig (updateConfig c o) o).tree.getPath defaultRuntimePath = none := by
  obtain ⟨path, hmem⟩ := defaultName_mem o
  have hdN := List.mem_map_of_mem Prod.fst hmem
  have hp := updateConfig_default_points c o hset
  unfold revertConfig
  by_cases hu : c.useDefaultRuntimeName = true
  · rw [if_pos hu] at hp ⊢
    exact removeRuntimes_defaultName_of_mem hdN hp
  · rw [if_neg hu] at hp ⊢
    exact removeRuntimes_default_of_runs hdN hp

/-- A config naming `runc` as its default loses it. -/
theorem revertConfig_updateConfig_default_of_runc :
    let c : Config := ⟨⟨[("plugins", .tree [("cri", .tree [("containerd", .tree
      [("default_runtime_name", .string "runc")])])])], by simp⟩, defaultRuntimeType, true⟩
    let o : Options := ⟨true, "", "/usr/bin"⟩
    o.setAsDefault = true ∧ c.tree.stringAt defaultRuntimeNamePath = some "runc" ∧
      (revertConfig (updateConfig c o) o).tree.getPath defaultRuntimeNamePath = none := by
  intro c o
  exact ⟨rfl, by simp [c, Tree.stringAt, Tree.getPath, defaultRuntimeNamePath, getIn],
    revertConfig_updateConfig_default c o rfl⟩

end ContainerToolkit.Containerd
