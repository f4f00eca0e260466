import ContainerToolkit.Containerd.ConfigV1

/-!
# `ContainerToolkit.Containerd.Update` — what `UpdateConfig` writes, and what it leaves alone

One `AddRuntime` writes `version`, the entry of its runtime and, when asked to, one default pointer.
The step lemmas say so: `addRuntime_getPath_of_diverge` (every path that parts from those reads as before),
`addRuntime_getPath_entry` (the entry is its template below every field `AddRuntime` does not write), and
`runtimeTemplate_addRuntime` (a later runtime's template agrees with the first one's on those fields, even
when the runtime just written was `runc` itself). `UpdateConfig` is a loop of such steps over runtimes of
pairwise distinct names, so each runtime's entry is written once and never touched again.

Three results follow, for every config and every option:

* `updateConfig_frame`: runtimes the toolkit does not install, top-level sections other than `version`
  and `plugins`, and, without `--set-as-default`, both default pointers are left as they were;
* `updateConfig_runtime_entry`: every installed runtime is a copy of the `runc` entry found before the
  update (or of the base fields when there was none), tagged and running its own binary;
* `updateConfig_default_runtime`: `--set-as-default` points the default at the runtime the class names,
  by name or inlined as a copy of its entry without the selector.
-/

namespace ContainerToolkit.Containerd

open Toml

/-! ## One `AddRuntime` -/

@[simp] theorem addRuntime_runtimeType (c : Config) (name path : String) (d : Bool) :
    (ConfigV1.addRuntime c name path d).runtimeType = c.runtimeType := rfl

@[simp] theorem addRuntime_useDefaultRuntimeName (c : Config) (name path : String) (d : Bool) :
    (ConfigV1.addRuntime c name path d).useDefaultRuntimeName = c.useDefaultRuntimeName := rfl

/-- A runtime entry and the two default pointers are apart. -/
theorem diverge_runtimePath_defaults (name : String) (r : List String) :
    diverge defaultRuntimeNamePath (runtimePath name ++ r) ∧ diverge defaultRuntimePath (runtimePath name ++ r) := by
  simp [defaultRuntimeNamePath, defaultRuntimePath, runtimePath, diverge]

theorem writeRuntime_getPath_of_diverge {t : Tree} {name path : String} {entry : Value} {q : List String}
    (h : diverge (runtimePath name) q) : (writeRuntime t name path entry).getPath q = t.getPath q := by
  unfold writeRuntime
  rw [Tree.getPath_setPath_of_diverge (diverge_append_left _ h),
    Tree.getPath_setPath_of_diverge (diverge_append_left _ h),
    Tree.getPath_setPath_of_diverge (diverge_append_left _ h), Tree.getPath_setPath_of_diverge h]

/-- The inlined default is written below `default_runtime` only. -/
theorem writeDefault_getPath_of_inline {c : Config} {t : Tree} {name : String} {q : List String}
    (hu : c.useDefaultRuntimeName = false) (hd : diverge defaultRuntimePath q) :
    (writeDefault c t name).getPath q = t.getPath q := by
  unfold writeDefault
  rw [if_neg (by simp [hu])]
  split
  · rw [Tree.getPath_deletePath_of_diverge (diverge_append_left _ hd), Tree.getPath_setPath_of_diverge hd]
  · rfl

theorem writeDefault_getPath_of_diverge {c : Config} {t : Tree} {name : String} {q : List String}
    (hn : diverge defaultRuntimeNamePath q) (hd : diverge defaultRuntimePath q) :
    (writeDefault c t name).getPath q = t.getPath q := by
  cases hu : c.useDefaultRuntimeName with
  | true => simp only [writeDefault, hu, if_true, Tree.getPath_setPath_of_diverge hn]
  | false => exact writeDefault_getPath_of_inline hu hd

/-- **The inlined default is a copy of the entry `name`** below every path but the selector's, and
    holds no selector. -/
theorem writeDefault_getPath_copy {c : Config} {t : Tree} {name : String} {entry : Value}
    (hu : c.useDefaultRuntimeName = false) (h : t.getPath (runtimePath name) = some entry) :
    (∀ r, diverge ["container_annotations"] r →
      (writeDefault c t name).getPath (defaultRuntimePath ++ r) = t.getPath (runtimePath name ++ r)) ∧
    ∀ s, (writeDefault c t name).getPath (defaultRuntimePath ++ "container_annotations" :: s) = none := by
  unfold writeDefault
  rw [if_neg (by simp [hu])]
  simp only [h]
  refine ⟨fun r hr => ?_, fun s => ?_⟩
  · rw [Tree.getPath_deletePath_of_diverge (diverge_append_append _ hr),
      Tree.getPath_setPath_append (by simp [defaultRuntimePath]),
      Tree.getPath_append (by simp [runtimePath]), h, Option.some_bind]
  · simpa using Tree.getPath_deletePath_append (by simp) s (t.setPath defaultRuntimePath entry)

/-- **`AddRuntime` frame.** A path apart from `version`, from the runtime's entry and, when the runtime
    is made the default, from the two default pointers, reads as before. -/
theorem addRuntime_getPath_of_diverge {c : Config} {name path : String} {d : Bool} {q : List String}
    (hv : diverge ["version"] q) (hr : diverge (runtimePath name) q)
    (hd : d = true → diverge defaultRuntimeNamePath q ∧ diverge defaultRuntimePath q) :
    (ConfigV1.addRuntime c name path d).tree.getPath q = c.tree.getPath q := by
  unfold ConfigV1.addRuntime
  cases d with
  | false => exact (writeRuntime_getPath_of_diverge hr).trans (Tree.getPath_setPath_of_diverge hv _ _)
  | true =>
    obtain ⟨hn, hd⟩ := hd rfl
    exact (writeDefault_getPath_of_diverge hn hd).trans
      ((writeRuntime_getPath_of_diverge hr).trans (Tree.getPath_setPath_of_diverge hv _ _))

/-- Writing `version` does not move the `runc` entry. -/
theorem runtimeTemplate_setVersion (t : Tree) (runtimeType : String) :
    runtimeTemplate (t.setPath ["version"] (.int64 1)) runtimeType = runtimeTemplate t runtimeType := by
  unfold runtimeTemplate
  rw [Tree.getPath_setPath_of_diverge (by simp [runtimePath, diverge])]

/-- With a `runc` table, the template reads what the `runc` entry reads. -/
theorem runtimeTemplate_at_of_runc {t : Tree} {runc : Table} (h : t.getPath (runtimePath "runc") = some (.tree runc))
    (runtimeType : String) (r : List String) :
    (runtimeTemplate t runtimeType).at r = t.getPath (runtimePath "runc" ++ r) := by
  rw [Tree.getPath_append (by simp [runtimePath]), h, Option.some_bind]
  simp only [runtimeTemplate, h]

/-- Without a `runc` table, the template is the base fields. -/
theorem runtimeTemplate_of_no_runc {t : Tree} (h : ∀ runc, t.getPath (runtimePath "runc") ≠ some (.tree runc))
    (runtimeType : String) : runtimeTemplate t runtimeType = runtimeBase runtimeType := by
  unfold runtimeTemplate
  split
  · rename_i runc hrunc
    exact absurd hrunc (h runc)
  · rfl

/-- The three places below a runtime entry that `AddRuntime` writes. -/
def Unwritten (r : List String) : Prop :=
  diverge ["container_annotations"] r ∧ diverge ["options", "BinaryName"] r ∧ diverge ["options", "Runtime"] r

theorem writeRuntime_getPath_entry {t : Tree} {name path : String} {entry : Value} {r : List String}
    (hr : Unwritten r) : (writeRuntime t name path entry).getPath (runtimePath name ++ r) = entry.at r := by
  obtain ⟨h1, h2, h3⟩ := hr
  unfold writeRuntime
  rw [Tree.getPath_setPath_of_diverge (diverge_append_append _ h3),
    Tree.getPath_setPath_of_diverge (diverge_append_append _ h2),
    Tree.getPath_setPath_of_diverge (diverge_append_append _ h1),
    Tree.getPath_setPath_append (by simp [runtimePath])]

theorem writeRuntime_getPath_written (t : Tree) (name path : String) (entry : Value) :
    (writeRuntime t name path entry).getPath (runtimePath name ++ ["container_annotations"]) =
        some cdiAnnotations ∧
      (writeRuntime t name path entry).getPath (runtimePath name ++ ["options", "BinaryName"]) =
        some (.string path) ∧
      (writeRuntime t name path entry).getPath (runtimePath name ++ ["options", "Runtime"]) =
        some (.string path) := by
  have hne : ∀ r, runtimePath name ++ r ≠ [] := by simp [runtimePath]
  unfold writeRuntime
  refine ⟨?_, ?_, Tree.getPath_setPath_self (hne _) _ _⟩
  · rw [Tree.getPath_setPath_of_diverge (diverge_append_append _ (by simp [diverge])),
      Tree.getPath_setPath_of_diverge (diverge_append_append _ (by simp [diverge])),
      Tree.getPath_setPath_self (hne _)]
  · rw [Tree.getPath_setPath_of_diverge (diverge_append_append _ (by simp [diverge])),
      Tree.getPath_setPath_self (hne _)]

theorem writeRuntime_getPath_table (t : Tree) (name path : String) (entry : Value) :
    ∃ sub, (writeRuntime t name path entry).getPath (runtimePath name) = some (.tree sub) :=
  Tree.getPath_setPath_prefix (by simp [runtimePath]) (by simp) _ _

/-- Below its runtime's entry, `AddRuntime` is `writeRuntime` from the template: the default pointers
    are elsewhere. -/
theorem addRuntime_getPath_runtime (c : Config) (name path : String) (d : Bool) (r : List String) :
    (ConfigV1.addRuntime c name path d).tree.getPath (runtimePath name ++ r) =
      (writeRuntime (c.tree.setPath ["version"] (.int64 1)) name path
        (runtimeTemplate c.tree c.runtimeType)).getPath (runtimePath name ++ r) := by
  have hdef := diverge_runtimePath_defaults name r
  unfold ConfigV1.addRuntime
  dsimp only
  rw [runtimeTemplate_setVersion]
  cases d
  · rfl
  · exact writeDefault_getPath_of_diverge hdef.1 hdef.2

/-- **The entry `AddRuntime` writes** is its template below every field it does not write. -/
theorem addRuntime_getPath_entry (c : Config) (name path : String) (d : Bool) {r : List String}
    (hr : Unwritten r) :
    (ConfigV1.addRuntime c name path d).tree.getPath (runtimePath name ++ r) =
      (runtimeTemplate c.tree c.runtimeType).at r := by
  rw [addRuntime_getPath_runtime, writeRuntime_getPath_entry hr]

/-- Two runtime entries that agree on every field `AddRuntime` does not write. -/
def AgreeOffWrites (v w : Value) : Prop := ∀ r, Unwritten r → v.at r = w.at r

/-- **The template a later runtime copies** agrees with the one the first runtime copied: the `runc`
    entry only changes when `runc` is the runtime written, and then only in the written fields. -/
theorem runtimeTemplate_addRuntime (c : Config) (name path : String) (d : Bool) :
    AgreeOffWrites (runtimeTemplate (ConfigV1.addRuntime c name path d).tree c.runtimeType)
      (runtimeTemplate c.tree c.runtimeType) := by
  intro r hr
  by_cases hname : name = "runc"
  · subst hname
    obtain ⟨sub, hsub⟩ : ∃ sub, (ConfigV1.addRuntime c "runc" path d).tree.getPath (runtimePath "runc") =
        some (.tree sub) := by
      rw [← List.append_nil (runtimePath "runc"), addRuntime_getPath_runtime, List.append_nil]
      exact Tree.getPath_setPath_prefix (by simp [runtimePath]) (by simp) _ _
    have hread := addRuntime_getPath_entry c "runc" path d hr
    rw [Tree.getPath_append (by simp [runtimePath]), hsub] at hread
    simpa [runtimeTemplate, hsub] using hread
  · unfold runtimeTemplate
    rw [addRuntime_getPath_of_diverge (by simp [runtimePath, diverge])
      (by simp [runtimePath, diverge, hname]) (fun _ => by simpa using diverge_runtimePath_defaults "runc" [])]

/-- `AddRuntime` as the default: by name, the other pointer untouched. -/
theorem addRuntime_default_byName (c : Config) (name path : String) (hu : c.useDefaultRuntimeName = true) :
    (ConfigV1.addRuntime c name path true).tree.getPath defaultRuntimeNamePath = some (.string name) ∧
      ∀ s, (ConfigV1.addRuntime c name path true).tree.getPath (defaultRuntimePath ++ s) =
        c.tree.getPath (defaultRuntimePath ++ s) := by
  unfold ConfigV1.addRuntime writeDefault
  simp only [hu, if_true]
  refine ⟨Tree.getPath_setPath_self (by simp [defaultRuntimeNamePath]) _ _, fun s => ?_⟩
  rw [Tree.getPath_setPath_of_diverge (by simp [defaultRuntimeNamePath, defaultRuntimePath, diverge]),
    writeRuntime_getPath_of_diverge (by simp [runtimePath, defaultRuntimePath, diverge]),
    Tree.getPath_setPath_of_diverge (by simp [defaultRuntimePath, diverge])]

/-- `AddRuntime` as the default, inlined: a copy of the entry it has just written, without the
    selector, the name pointer untouched. -/
theorem addRuntime_default_inline (c : Config) (name path : String) (hu : c.useDefaultRuntimeName = false) :
    (∀ r, diverge ["container_annotations"] r →
      (ConfigV1.addRuntime c name path true).tree.getPath (defaultRuntimePath ++ r) =
        (ConfigV1.addRuntime c name path true).tree.getPath (runtimePath name ++ r)) ∧
      (∀ s, (ConfigV1.addRuntime c name path true).tree.getPath
        (defaultRuntimePath ++ "container_annotations" :: s) = none) ∧
      (ConfigV1.addRuntime c name path true).tree.getPath defaultRuntimeNamePath =
        c.tree.getPath defaultRuntimeNamePath := by
  unfold ConfigV1.addRuntime
  dsimp only
  rw [if_pos rfl]
  obtain ⟨sub, hsub⟩ := writeRuntime_getPath_table (c.tree.setPath ["version"] (.int64 1)) name path
    (runtimeTemplate (c.tree.setPath ["version"] (.int64 1)) c.runtimeType)
  obtain ⟨hcopy, hsel⟩ := writeDefault_getPath_copy hu hsub
  refine ⟨fun r hr => (hcopy r hr).trans ?_, hsel, ?_⟩
  · have hdef := diverge_runtimePath_defaults name r
    exact (writeDefault_getPath_of_diverge hdef.1 hdef.2).symm
  · rw [writeDefault_getPath_of_inline hu (by simp [defaultRuntimePath, defaultRuntimeNamePath, diverge]),
      writeRuntime_getPath_of_diverge (by simp [runtimePath, defaultRuntimeNamePath, diverge]),
      Tree.getPath_setPath_of_diverge (by simp [defaultRuntimeNamePath, diverge])]

/-! ## `UpdateConfig`'s loop -/

section Loop
variable {c : Config} {isDefault : String → Bool}

@[simp] theorem addRuntimes_nil : addRuntimes c [] isDefault = c := rfl

@[simp] theorem addRuntimes_cons (runtime : String × String) (runtimes : List (String × String)) :
    addRuntimes c (runtime :: runtimes) isDefault =
      addRuntimes (ConfigV1.addRuntime c runtime.1 runtime.2 (isDefault runtime.1)) runtimes isDefault := rfl

theorem addRuntimes_append (runtimes runtimes' : List (String × String)) :
    addRuntimes c (runtimes ++ runtimes') isDefault =
      addRuntimes (addRuntimes c runtimes isDefault) runtimes' isDefault :=
  List.foldl_append _ _ _ _

@[simp] theorem addRuntimes_runtimeType (runtimes : List (String × String)) :
    (addRuntimes c runtimes isDefault).runtimeType = c.runtimeType := by
  induction runtimes generalizing c with
  | nil => rfl
  | cons runtime runtimes ih => rw [addRuntimes_cons, ih, addRuntime_runtimeType]

@[simp] theorem addRuntimes_useDefaultRuntimeName (runtimes : List (String × String)) :
    (addRuntimes c runtimes isDefault).useDefaultRuntimeName = c.useDefaultRuntimeName := by
  induction runtimes generalizing c with
  | nil => rfl
  | cons runtime runtimes ih => rw [addRuntimes_cons, ih, addRuntime_useDefaultRuntimeName]

/-- **The loop's frame**: what no step writes reads as before. -/
theorem addRuntimes_getPath_of_diverge {runtimes : List (String × String)} {q : List String}
    (hv : diverge ["version"] q) (hr : ∀ runtime ∈ runtimes, diverge (runtimePath runtime.1) q)
    (hd : ∀ runtime ∈ runtimes, isDefault runtime.1 = true →
      diverge defaultRuntimeNamePath q ∧ diverge defaultRuntimePath q) :
    (addRuntimes c runtimes isDefault).tree.getPath q = c.tree.getPath q := by
  induction runtimes generalizing c with
  | nil => rfl
  | cons runtime runtimes ih =>
    rw [addRuntimes_cons, ih (fun r h => hr r (List.mem_cons_of_mem _ h))
      (fun r h => hd r (List.mem_cons_of_mem _ h)),
      addRuntime_getPath_of_diverge hv (hr _ (List.mem_cons_self _ _)) (hd _ (List.mem_cons_self _ _))]

/-- The entry of a runtime the loop does not install reads as before, all of it. -/
theorem addRuntimes_getPath_runtime_of_not_mem {runtimes : List (String × String)} {name : String}
    (h : ∀ runtime ∈ runtimes, runtime.1 ≠ name) (s : List String) :
    (addRuntimes c runtimes isDefault).tree.getPath (runtimePath name ++ s) =
      c.tree.getPath (runtimePath name ++ s) :=
  addRuntimes_getPath_of_diverge (by simp [runtimePath, diverge])
    (fun runtime hm => by simp [runtimePath, diverge, h runtime hm])
    (fun _ _ _ => diverge_runtimePath_defaults name s)

/-- The template stays in agreement along the loop. -/
theorem runtimeTemplate_addRuntimes (runtimes : List (String × String)) :
    AgreeOffWrites (runtimeTemplate (addRuntimes c runtimes isDefault).tree c.runtimeType)
      (runtimeTemplate c.tree c.runtimeType) := by
  induction runtimes generalizing c with
  | nil => intro r _; rfl
  | cons runtime runtimes ih =>
    intro r hr
    rw [addRuntimes_cons]
    exact (ih r hr).trans (runtimeTemplate_addRuntime c _ _ _ r hr)

end Loop

/-- A runtime of a list with distinct names splits it: no other runtime before or after has its name. -/
theorem mem_split_of_nodup {runtimes : List (String × String)} {name path : String}
    (hnodup : (runtimes.map Prod.fst).Nodup) (h : (name, path) ∈ runtimes) :
    ∃ pre post, runtimes = pre ++ (name, path) :: post ∧
      (∀ runtime ∈ pre, runtime.1 ≠ name) ∧ ∀ runtime ∈ post, runtime.1 ≠ name := by
  obtain ⟨pre, post, rfl⟩ := List.append_of_mem h
  rw [List.map_append, List.map_cons, List.nodup_middle, List.nodup_cons, ← List.map_append] at hnodup
  refine ⟨pre, post, rfl, fun runtime hm he => hnodup.1 ?_, fun runtime hm he => hnodup.1 ?_⟩ <;>
    exact List.mem_map.mpr ⟨runtime, by simp [hm], he⟩

/-- The toolkit installs its runtimes under distinct names. -/
theorem runtimes_names_nodup (o : Options) : (o.runtimes.map Prod.fst).Nodup := by
  simp only [Options.runtimes, Options.runtimeName, nvidiaRuntimeBinaries, List.map_cons, List.map_nil]
  split_ifs with h <;> simp_all

/-- The default the options name is one of the runtimes installed. -/
theorem defaultName_mem (o : Options) : ∃ path, (o.defaultName, path) ∈ o.runtimes := by
  simp only [Options.defaultName, Options.runtimes, Options.runtimeName, nvidiaRuntimeBinaries, List.map_cons,
    List.map_nil]
  by_cases h0 : o.runtimeClass = ""
  · simp [h0]
  · by_cases h1 : o.runtimeClass ∈ ["nvidia", "nvidia-experimental", "nvidia-cdi", "nvidia-legacy"]
    · simp only [List.mem_cons, List.mem_singleton, List.not_mem_nil, or_false] at h1
      rcases h1 with h | h | h | h <;> simp [h]
    · simp_all

/-- Every step of `UpdateConfig` but the default's leaves the default pointers alone. -/
theorem addRuntimes_getPath_default {c : Config} {isDefault : String → Bool} {runtimes : List (String × String)}
    (h : ∀ runtime ∈ runtimes, isDefault runtime.1 = false) {s : List String} :
    (addRuntimes c runtimes isDefault).tree.getPath (defaultRuntimeNamePath ++ s) =
        c.tree.getPath (defaultRuntimeNamePath ++ s) ∧
      (addRuntimes c runtimes isDefault).tree.getPath (defaultRuntimePath ++ s) =
        c.tree.getPath (defaultRuntimePath ++ s) := by
  constructor <;>
    refine addRuntimes_getPath_of_diverge ?_ (fun _ _ => ?_) (fun runtime hm hd => absurd hd (by simp [h runtime hm])) <;>
    simp [defaultRuntimeNamePath, defaultRuntimePath, runtimePath, diverge]

/-- Below each installed runtime's entry, `UpdateConfig` reads what `writeRuntime` made of a template
    that agrees with the `runc` entry found before the update. -/
theorem updateConfig_getPath_runtime (c : Config) (o : Options) {name path : String} (h : (name, path) ∈ o.runtimes) :
    ∃ t entry, AgreeOffWrites entry (runtimeTemplate c.tree c.runtimeType) ∧ ∀ r,
      (updateConfig c o).tree.getPath (runtimePath name ++ r) = (writeRuntime t name path entry).getPath (runtimePath name ++ r) := by
  obtain ⟨pre, post, hsplit, -, hpost⟩ := mem_split_of_nodup (runtimes_names_nodup o) h
  unfold updateConfig
  rw [hsplit, addRuntimes_append, addRuntimes_cons]
  refine ⟨_, _, fun r hr => ?_, fun r => (addRuntimes_getPath_runtime_of_not_mem hpost r).trans
    (addRuntime_getPath_runtime _ _ _ _ r)⟩
  rw [addRuntimes_runtimeType]
  exact runtimeTemplate_addRuntimes pre r hr

/-- With `--set-as-default`, the default pointers and the default runtime's entry after `UpdateConfig`
    are those the default runtime's own step wrote, over a config whose pointers are still the original
    ones. -/
theorem updateConfig_getPath_defaults (c : Config) (o : Options) (hset : o.setAsDefault = true) :
    ∃ c' path, (o.defaultName, path) ∈ o.runtimes ∧ c'.runtimeType = c.runtimeType ∧
      c'.useDefaultRuntimeName = c.useDefaultRuntimeName ∧ ∀ s,
        (updateConfig c o).tree.getPath (defaultRuntimeNamePath ++ s) =
          (ConfigV1.addRuntime c' o.defaultName path true).tree.getPath (defaultRuntimeNamePath ++ s) ∧
        (updateConfig c o).tree.getPath (defaultRuntimePath ++ s) =
          (ConfigV1.addRuntime c' o.defaultName path true).tree.getPath (defaultRuntimePath ++ s) ∧
        (updateConfig c o).tree.getPath (runtimePath o.defaultName ++ s) =
          (ConfigV1.addRuntime c' o.defaultName path true).tree.getPath (runtimePath o.defaultName ++ s) ∧
        c'.tree.getPath (defaultRuntimeNamePath ++ s) = c.tree.getPath (defaultRuntimeNamePath ++ s) ∧
        c'.tree.getPath (defaultRuntimePath ++ s) = c.tree.getPath (defaultRuntimePath ++ s) := by
  obtain ⟨path, hmem⟩ := defaultName_mem o
  obtain ⟨pre, post, hsplit, hpre, hpost⟩ := mem_split_of_nodup (runtimes_names_nodup o) hmem
  have hflag : ∀ runtime ∈ pre ++ post, (o.defaultRuntime == some runtime.1) = false := fun runtime hm => by
    have hne := (List.mem_append.mp hm).elim (hpre runtime) (hpost runtime)
    simp [Options.defaultRuntime, hset, Ne.symm hne]
  have hd : (o.defaultRuntime == some o.defaultName) = true := by simp [Options.defaultRuntime, hset]
  refine ⟨addRuntimes c pre (fun name => o.defaultRuntime == some name), path, hmem, by simp, by simp, fun s => ?_⟩
  have hpost' := @addRuntimes_getPath_default
    (ConfigV1.addRuntime (addRuntimes c pre (fun name => o.defaultRuntime == some name)) o.defaultName path true)
    (fun name => o.defaultRuntime == some name) post (fun runtime hm => hflag runtime (List.mem_append_right _ hm)) s
  have hpre' := @addRuntimes_getPath_default c (fun name => o.defaultRuntime == some name) pre
    (fun runtime hm => hflag runtime (List.mem_append_left _ hm)) s
  unfold updateConfig
  rw [hsplit, addRuntimes_append, addRuntimes_cons]
  dsimp only
  rw [hd]
  exact ⟨hpost'.1, hpost'.2, addRuntimes_getPath_runtime_of_not_mem hpost s, hpre'.1, hpre'.2⟩

/-! ## What `UpdateConfig` does -/

/-- **`UpdateConfig` leaves alone what it does not install.** Every runtime entry the toolkit does not
    install (a `runc` entry, say), every top-level section other than `version` and `plugins`, and,
    without `--set-as-default`, both default pointers, read after the update as before it. -/
theorem updateConfig_frame (c : Config) (o : Options) :
    (∀ r, r ∉ o.runtimes.map Prod.fst → ∀ s,
      (updateConfig c o).tree.getPath (runtimePath r ++ s) = c.tree.getPath (runtimePath r ++ s)) ∧
    (∀ k, k ≠ "version" → k ≠ "plugins" → ∀ s,
      (updateConfig c o).tree.getPath (k :: s) = c.tree.getPath (k :: s)) ∧
    (o.setAsDefault = false → ∀ s,
      (updateConfig c o).tree.getPath (defaultRuntimeNamePath ++ s) =
          c.tree.getPath (defaultRuntimeNamePath ++ s) ∧
        (updateConfig c o).tree.getPath (defaultRuntimePath ++ s) = c.tree.getPath (defaultRuntimePath ++ s)) := by
  refine ⟨fun r hr s => addRuntimes_getPath_runtime_of_not_mem
      (fun runtime hm he => hr (by rw [← he]; exact List.mem_map_of_mem _ hm)) s, fun k hv hp s => ?_,
    fun hset s => addRuntimes_getPath_default (fun _ _ => by simp [Options.defaultRuntime, hset])⟩
  exact addRuntimes_getPath_of_diverge (by simp [diverge, Ne.symm hv])
    (fun _ _ => by simp [runtimePath, diverge, Ne.symm hp])
    (fun _ _ _ => by simp [defaultRuntimeNamePath, defaultRuntimePath, diverge, Ne.symm hp])

/-- **Every runtime `UpdateConfig` installs copies the `runc` entry it found.** Below its entry, each
    installed runtime reads, field for field, what the `runc` entry read before the update (the base
    fields with the config's runtime type, when there was no `runc` table), except the three fields it
    writes: the CDI annotation selector, and its own binary as `BinaryName` and `Runtime`. -/
theorem updateConfig_runtime_entry (c : Config) (o : Options) {name path : String} (h : (name, path) ∈ o.runtimes) :
    (updateConfig c o).tree.getPath (runtimePath name ++ ["container_annotations"]) = some cdiAnnotations ∧
      (updateConfig c o).tree.getPath (runtimePath name ++ ["options", "BinaryName"]) = some (.string path) ∧
      (updateConfig c o).tree.getPath (runtimePath name ++ ["options", "Runtime"]) = some (.string path) ∧
      (∀ runc, c.tree.getPath (runtimePath "runc") = some (.tree runc) → ∀ r, Unwritten r →
        (updateConfig c o).tree.getPath (runtimePath name ++ r) = c.tree.getPath (runtimePath "runc" ++ r)) ∧
      ((∀ runc, c.tree.getPath (runtimePath "runc") ≠ some (.tree runc)) → ∀ r, Unwritten r →
        (updateConfig c o).tree.getPath (runtimePath name ++ r) = (runtimeBase c.runtimeType).at r) := by
  obtain ⟨t, entry, hagree, hget⟩ := updateConfig_getPath_runtime c o h
  have hcopy : ∀ r, Unwritten r →
      (updateConfig c o).tree.getPath (runtimePath name ++ r) = (runtimeTemplate c.tree c.runtimeType).at r :=
    fun r hr => (hget r).trans ((writeRuntime_getPath_entry hr).trans (hagree r hr))
  obtain ⟨h1, h2, h3⟩ := writeRuntime_getPath_written t name path entry
  refine ⟨(hget _).trans h1, (hget _).trans h2, (hget _).trans h3, fun runc hrunc r hr => ?_, fun hnone r hr => ?_⟩
  · rw [hcopy r hr, runtimeTemplate_at_of_runc hrunc]
  · rw [hcopy r hr, runtimeTemplate_of_no_runc hnone]

/-- `runcConfigMapV1("/runc-binary")` of `TestUpdateV1ConfigWithRuncPresent`: a document holding only a
    `runc` entry. -/
def runcConfigMapV1 (binary : String) : Tree :=
  ⟨[("plugins", .tree [("cri", .tree [("containerd", .tree [("runtimes", .tree [("runc", .tree
    [("runtime_type", .string "runc_runtime_type"), ("runtime_root", .string "runc_runtime_root"),
      ("runtime_engine", .string "runc_runtime_engine"), ("privileged_without_host_devices", .bool true),
      ("options", .tree [("runc-option", .string "value"), ("BinaryName", .string binary)])])])])])])],
    by simp⟩

/-- The `nvidia` runtime installed over the `runc` entry of `TestUpdateV1ConfigWithRuncPresent`: it
    keeps `runc`'s root and option and runs its own binary. -/
theorem updateConfig_runtime_entry_with_runc :
    let c : Config := ⟨runcConfigMapV1 "/runc-binary", defaultRuntimeType, true⟩
    let o : Options := ⟨false, "nvidia", "/test/runtime/dir"⟩
    ("nvidia", "/test/runtime/dir/nvidia-container-runtime") ∈ o.runtimes ∧
      (updateConfig c o).tree.getPath (runtimePath "nvidia" ++ ["runtime_root"]) =
        some (.string "runc_runtime_root") ∧
      (updateConfig c o).tree.getPath (runtimePath "nvidia" ++ ["options", "runc-option"]) =
        some (.string "value") ∧
      (updateConfig c o).tree.getPath (runtimePath "nvidia" ++ ["options", "BinaryName"]) =
        some (.string "/test/runtime/dir/nvidia-container-runtime") := by
  intro c o
  have h : ("nvidia", "/test/runtime/dir/nvidia-container-runtime") ∈ o.runtimes := by
    simp [o, Options.runtimes, Options.runtimeName, nvidiaRuntimeBinaries]
  obtain ⟨-, hbinary, -, hrunc, -⟩ := updateConfig_runtime_entry c o h
  exact ⟨h, (hrunc _ rfl _ (by simp [Unwritten, diverge])).trans rfl,
    (hrunc _ rfl _ (by simp [Unwritten, diverge])).trans rfl, hbinary⟩

/-- **`--set-as-default` points the default at the runtime the class names** (`nvidia` when none is
    given), which is one the toolkit installs. By name, in `default_runtime_name`, when the config uses
    the default runtime name, and the inlined `default_runtime` is left alone; otherwise inlined, as a
    full copy of that runtime's entry without the CDI annotation selector, so running its binary, and
    `default_runtime_name` is left alone. -/
theorem updateConfig_default_runtime (c : Config) (o : Options) (hset : o.setAsDefault = true) :
    ∃ path, (o.defaultName, path) ∈ o.runtimes ∧
      if c.useDefaultRuntimeName then
        (updateConfig c o).tree.getPath defaultRuntimeNamePath = some (.string o.defaultName) ∧
        ∀ s, (updateConfig c o).tree.getPath (defaultRuntimePath ++ s) = c.tree.getPath (defaultRuntimePath ++ s)
      else
        (∀ r, diverge ["container_annotations"] r →
          (updateConfig c o).tree.getPath (defaultRuntimePath ++ r) =
            (updateConfig c o).tree.getPath (runtimePath o.defaultName ++ r)) ∧
        (∀ s, (updateConfig c o).tree.getPath (defaultRuntimePath ++ "container_annotations" :: s) = none) ∧
        (updateConfig c o).tree.getPath (defaultRuntimePath ++ ["options", "BinaryName"]) =
          some (.string path) ∧
        (updateConfig c o).tree.getPath (defaultRuntimePath ++ ["options", "Runtime"]) = some (.string path) ∧
        (updateConfig c o).tree.getPath defaultRuntimeNamePath = c.tree.getPath defaultRuntimeNamePath := by
  obtain ⟨c', path, hmem, -, hu, h⟩ := updateConfig_getPath_defaults c o hset
  refine ⟨path, hmem, ?_⟩
  split
  · rename_i hu'
    have hstep := addRuntime_default_byName c' o.defaultName path (hu.trans hu')
    exact ⟨by simpa [hstep.1] using (h []).1, fun s => by rw [(h s).2.1, hstep.2, (h s).2.2.2.2]⟩
  · rename_i hu'
    obtain ⟨h1, h2, h3⟩ := addRuntime_default_inline c' o.defaultName path (by simpa [hu] using hu')
    have hcopy : ∀ r, diverge ["container_annotations"] r →
        (updateConfig c o).tree.getPath (defaultRuntimePath ++ r) =
          (updateConfig c o).tree.getPath (runtimePath o.defaultName ++ r) := fun r hr => by
      rw [(h r).2.1, h1 r hr, (h r).2.2.1]
    obtain ⟨t, entry, -, hget⟩ := updateConfig_getPath_runtime c o hmem
    obtain ⟨-, hbinary, hruntime⟩ := writeRuntime_getPath_written t _ path entry
    refine ⟨hcopy, fun s => by rw [(h _).2.1, h2 s], ?_, ?_, ?_⟩
    · rw [hcopy _ (by simp [diverge]), hget, hbinary]
    · rw [hcopy _ (by simp [diverge]), hget, hruntime]
    · have h5 : c'.tree.getPath defaultRuntimeNamePath = c.tree.getPath defaultRuntimeNamePath := by
        simpa using (h []).2.2.2.1
      simpa [h3, h5] using (h []).1

/-- `--set-as-default` without a class, on a legacy config holding the `runc` entry of
    `TestUpdateV1ConfigWithRuncPresent`: the inlined default reads `runc`'s root as the `nvidia` entry
    does, and carries no selector. -/
theorem updateConfig_default_runtime_inlined_over_runc :
    let c : Config := ⟨runcConfigMapV1 "/runc-binary", defaultRuntimeType, false⟩
    let o : Options := ⟨true, "", "/test/runtime/dir"⟩
    o.setAsDefault = true ∧
      (updateConfig c o).tree.getPath (defaultRuntimePath ++ ["runtime_root"]) =
        (updateConfig c o).tree.getPath (runtimePath "nvidia" ++ ["runtime_root"]) ∧
      (updateConfig c o).tree.getPath (defaultRuntimePath ++ ["container_annotations"]) = none := by
  intro c o
  obtain ⟨path, -, h⟩ := updateConfig_default_runtime c o rfl
  rw [if_neg (by decide)] at h
  exact ⟨rfl, h.1 _ (by simp [diverge]), h.2.1 []⟩

end ContainerToolkit.Containerd
