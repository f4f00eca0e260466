import ContainerToolkit.Containerd.Version

/-!
# `ContainerToolkit.Containerd.Load` — `loadConfig`'s two special cases

`loadConfig` means to reject a directory and to start from an empty document when the file does not
exist. The second works: an `ENOENT` from `os.Stat` sends `toml.LoadFile` to `/dev/null`.

The first cannot work. The check is `os.IsExist(err) && info.IsDir()`: `os.IsExist(nil)` is false, so a
successful `os.Stat` (of a directory or not) never enters it, and an error that is `EEXIST` or
`ENOTEMPTY` comes with a nil `info`, on which `IsDir()` panics. No `os.Stat` outcome makes the check
return its error, and a directory is handed to `toml.LoadFile` like any file
(`loadConfig_directory_check_is_dead`).
-/

namespace ContainerToolkit.Containerd

open Toml

/-- The first line `loadConfig` logs. -/
def loadingLine (config : String) : LogEntry := .logf .info "Loading config: %v" [.str config]

/-- **The directory check is dead.** For no `os.Stat` outcome does it return `config file is a
    directory`; a path `os.Stat` succeeds on, a directory included, goes on to `toml.LoadFile`. -/
theorem loadConfig_directory_check_is_dead (fs : FileSystem) (config : String) :
    dirCheck (fs.stat config) ≠ some (.errorf "config file is a directory" []) ∧
      ∀ info, fs.stat config = .ok info →
        loadConfig fs config = loadConfigFile fs config [loadingLine config] := by
  refine ⟨?_, fun info h => ?_⟩
  · unfold dirCheck
    rcases fs.stat config with e | info
    · by_cases he : e.isExist <;> simp [statIsExist, statInfo, he]
    · simp [statIsExist]
  · simp [loadConfig, dirCheck, statIsExist, statIsNotExist, h, loadingLine]

/-- A path that is a directory. -/
theorem loadConfig_directory_check_is_dead_at_directory :
    let fs : FileSystem := ⟨fun _ => .ok ⟨true⟩, fun _ => .error (.external "is a directory")⟩
    dirCheck (fs.stat "/etc/containerd") ≠ some (.errorf "config file is a directory" []) ∧
      (fs.stat "/etc/containerd" = .ok ⟨true⟩ →
        loadConfig fs "/etc/containerd" = loadConfigFile fs "/etc/containerd" [loadingLine "/etc/containerd"]) :=
  let h := loadConfig_directory_check_is_dead ⟨fun _ => .ok ⟨true⟩, fun _ => .error (.external "is a directory")⟩
    "/etc/containerd"
  ⟨h.1, h.2 ⟨true⟩⟩

/-! ## Where `build` can panic -/

theorem GoError.wrap_eq_panic {format msg : String} {err : GoError} : err.wrap format = .panic msg ↔ err = .panic msg := by
  cases err <;> simp [GoError.wrap]

/-- The directory check, evaluated: the nil-dereference panic on an `EEXIST` or `ENOTEMPTY`, else nothing. -/
theorem dirCheck_eq (info : Except Errno FileInfo) :
    dirCheck info = if statIsExist info then some (.panic nilDereference) else none := by
  cases info <;> simp [dirCheck, statIsExist, statInfo]

theorem loadConfigFile_ne_panic {fs : FileSystem} (hload : ∀ p msg, fs.loadFile p ≠ .error (.panic msg))
    (p : String) (log : Log) (msg : String) : (loadConfigFile fs p log).1 ≠ .error (.panic msg) := by
  unfold loadConfigFile
  cases h : fs.loadFile p with
  | error err => simpa [h] using hload p msg
  | ok t => simp

/-- `loadConfig` panics exactly when `os.Stat` reports `EEXIST` or `ENOTEMPTY`, if `toml.LoadFile` does
    not. -/
theorem loadConfig_panic_iff {fs : FileSystem} (hload : ∀ p msg, fs.loadFile p ≠ .error (.panic msg))
    (config msg : String) :
    (loadConfig fs config).1 = .error (.panic msg) ↔ statIsExist (fs.stat config) = true ∧ msg = nilDereference := by
  unfold loadConfig
  dsimp only
  rw [dirCheck_eq]
  by_cases hx : statIsExist (fs.stat config) = true
  · simp [hx, eq_comm]
  · simp only [hx, if_false, Bool.false_eq_true, false_and, iff_false]
    split
    · exact loadConfigFile_ne_panic hload _ _ msg
    · exact loadConfigFile_ne_panic hload _ _ msg

theorem parseVersion_ne_panic (w : Nat) (c : Config) (u : Bool) (msg : String) :
    c.parseVersion w u ≠ .error (.panic msg) := by
  unfold Config.parseVersion
  dsimp only
  split <;> (try split) <;> simp

theorem selectEngine_ne_panic (w : Nat) (c : Config) (v : BitVec w) (msg : String) :
    selectEngine w c v ≠ .error (.panic msg) := by
  unfold selectEngine
  split_ifs <;> simp

/-- **`build` panics exactly on an `EEXIST` or `ENOTEMPTY` from `os.Stat`.** Whatever the filesystem and
    the document, as long as `toml.LoadFile` itself does not panic: `build` of a non-empty path ends in a
    panic, the nil dereference of `info.IsDir()`, exactly when `os.Stat` fails with one of the two errors
    `os.IsExist` accepts, and in no other run. -/
theorem build_panics_iff (w : Nat) (fs : FileSystem) (b : Builder)
    (hload : ∀ p msg, fs.loadFile p ≠ .error (.panic msg)) (msg : String) :
    (b.build w fs).result = .error (.panic msg) ↔
      b.path ≠ "" ∧ statIsExist (fs.stat b.path) = true ∧ msg = nilDereference := by
  unfold Builder.build
  by_cases hp : b.path = ""
  · simp [hp]
  · simp only [hp, if_false, ne_eq, not_false_eq_true, true_and]
    rw [← loadConfig_panic_iff hload, setDefaultRuntimeType_path]
    rcases loadConfig fs b.path with ⟨_ | config, log⟩
    · simp only [Except.error.injEq]
      exact GoError.wrap_eq_panic
    · simp only [reduceCtorEq, iff_false]
      split
      · rename_i err hparse
        intro he
        rw [Except.error.injEq, GoError.wrap_eq_panic] at he
        exact parseVersion_ne_panic w _ _ msg (he ▸ hparse)
      · exact selectEngine_ne_panic w _ _ msg

/-- An `EEXIST` from `os.Stat` at the default path. -/
theorem build_panics_at_eexist :
    let fs : FileSystem := ⟨fun _ => .error ⟨17⟩, fun _ => .ok Tree.empty⟩
    let b : Builder := ⟨"/etc/containerd/config.toml", "", false⟩
    (∀ p msg, fs.loadFile p ≠ .error (.panic msg)) ∧ (b.build 64 fs).result = .error (.panic nilDereference) := by
  intro fs b
  have hload : ∀ p msg, fs.loadFile p ≠ .error (.panic msg) := fun _ _ => by simp [fs]
  exact ⟨hload, (build_panics_iff 64 fs b hload nilDereference).mpr ⟨by decide, rfl, rfl⟩⟩

end ContainerToolkit.Containerd
