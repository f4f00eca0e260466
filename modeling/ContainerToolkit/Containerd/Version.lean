import ContainerToolkit.Containerd.Config

/-!
# `ContainerToolkit.Containerd.Version` — which engine `build` returns

Spec §4.3 says what version detection is for: with no `version` key, a document with top-level keys is
version 1 and an empty one is containerd's default (2, or 1 when legacy mode is asked for); an integer
`version` is the version itself; a value of any other type is an error. `detectVersion` states this over
the tree alone, and `build` then keeps the two versions it has an engine for.

The faithful `build` refines that on a 64-bit `int` (`build_refines_detectVersion`). The argument runs
through `parseVersion`'s three cases (`parseVersion_absent`, `parseVersion_int64`, `parseVersion_other`),
`build`'s unfolding once the config has loaded (`build_result_of_load`) and the switch on the version
(`versionOf_selectEngine`). On an `int` of another width the same lemmas give the engine for the
*converted* version: `int(v)` keeps only the low bits of the `int64`, and `build` compares what is left
with 1 and 2.
-/

namespace ContainerToolkit.Containerd

open Toml

/-- The config version an engine serves: 1 for `*ConfigV1`, 2 for `*Config`. -/
def Engine.version : Engine → Int
  | .v1 _ => 1
  | .v2 _ => 2

/-- The version of the engine `build` returned, `none` when it returned an error. -/
def versionOf : Except GoError Engine → Option Int
  | .ok e => some e.version
  | .error _ => none

theorem versionOf_eq_one {r : Except GoError Engine} :
    versionOf r = some 1 ↔ ∃ c, r = .ok (.v1 c) := by
  rcases r with _ | (_ | _) <;> simp [versionOf, Engine.version]

theorem versionOf_eq_two {r : Except GoError Engine} :
    versionOf r = some 2 ↔ ∃ c, r = .ok (.v2 c) := by
  rcases r with _ | (_ | _) <;> simp [versionOf, Engine.version]

theorem versionOf_eq_none {r : Except GoError Engine} :
    versionOf r = none ↔ ∃ err, r = .error err := by
  rcases r with _ | (_ | _) <;> simp [versionOf]

/-- **Version detection, as spec §4.3 states it**: the version a document declares, `none` for a
    `version` of a type other than integer. -/
def detectVersion (t : Tree) (useLegacyConfig : Bool) : Option Int :=
  match t.get "version" with
  | none => some (if t.keys = [] then (if useLegacyConfig then 1 else 2) else 1)
  | some (.int64 v) => some v.toInt
  | some _ => none

/-- A `version` of a type other than integer is detected as no version. -/
theorem detectVersion_other {t : Tree} {u : Bool} {v : Value} (h : t.get "version" = some v)
    (hv : ∀ n, v ≠ .int64 n) : detectVersion t u = none := by
  unfold detectVersion
  rw [h]
  cases v with
  | int64 n => exact absurd rfl (hv n)
  | _ => rfl

/-! ## `parseVersion`, one lemma per case -/

section
variable {w : Nat} {c : Config} {u : Bool}

theorem parseVersion_absent (h : c.tree.get "version" = none) :
    c.parseVersion w u = .ok (if c.tree.keys = [] then (if u then 1 else 2) else 1) := by
  unfold Config.parseVersion
  rw [h]
  cases hk : c.tree.keys <;> simp

theorem parseVersion_int64 {v : BitVec 64} (h : c.tree.get "version" = some (.int64 v)) :
    c.parseVersion w u = .ok (goInt w v) := by
  unfold Config.parseVersion
  rw [h]

theorem parseVersion_other {v : Value} (h : c.tree.get "version" = some v)
    (hv : ∀ n, v ≠ .int64 n) :
    c.parseVersion w u = .error (.errorf "unsupported type for version field: %v" [.value v]) := by
  unfold Config.parseVersion
  rw [h]
  cases v with
  | int64 n => exact absurd rfl (hv n)
  | _ => rfl

end

/-! ## `build` once the config has loaded -/

@[simp] theorem setDefaultRuntimeType_path (b : Builder) : b.setDefaultRuntimeType.path = b.path := by
  unfold Builder.setDefaultRuntimeType; split <;> rfl

@[simp] theorem setDefaultRuntimeType_useLegacyConfig (b : Builder) :
    b.setDefaultRuntimeType.useLegacyConfig = b.useLegacyConfig := by
  unfold Builder.setDefaultRuntimeType; split <;> rfl

/-- The config `build` hands to the engine: the loaded one with the builder's settings. -/
def Builder.configure (b : Builder) (c : Config) : Config :=
  { c with runtimeType := b.setDefaultRuntimeType.runtimeType,
           useDefaultRuntimeName := !b.useLegacyConfig }

/-- `parseVersion` reads only the tree. -/
@[simp] theorem parseVersion_configure (w : Nat) (b : Builder) (c : Config) (u : Bool) :
    (b.configure c).parseVersion w u = c.parseVersion w u := rfl

/-- Past the path check and a successful load, `build` is `parseVersion` followed by the switch. -/
theorem build_result_of_load {w : Nat} {fs : FileSystem} {b : Builder} {c : Config}
    (hpath : b.path ≠ "") (hload : (loadConfig fs b.path).1 = .ok c) :
    (b.build w fs).result =
      match c.parseVersion w b.useLegacyConfig with
      | .error err => .error (err.wrap "failed to parse config version: %v")
      | .ok version => selectEngine w (b.configure c) version := by
  unfold Builder.build
  rw [if_neg hpath]
  simp only [setDefaultRuntimeType_path, setDefaultRuntimeType_useLegacyConfig]
  rcases hl : loadConfig fs b.path with ⟨res, log⟩
  rw [hl] at hload
  cases hload
  show (match (b.configure c).parseVersion w b.useLegacyConfig with
    | .error err => _ | .ok version => _ : BuildRun).result = _
  rw [parseVersion_configure]
  cases c.parseVersion w b.useLegacyConfig <;> rfl

/-- The switch on the version: 1 and 2 select an engine, anything else is an error. -/
theorem versionOf_selectEngine {w : Nat} (c : Config) (v : BitVec w) :
    versionOf (selectEngine w c v) = if v = 1 then some 1 else if v = 2 then some 2 else none := by
  unfold selectEngine
  split_ifs <;> rfl

/-- The version of `build`'s engine on a `w`-bit `int`: the version `parseVersion` converted, when it
    is 1 or 2. -/
theorem versionOf_build {w : Nat} {fs : FileSystem} {b : Builder} {c : Config}
    (hpath : b.path ≠ "") (hload : (loadConfig fs b.path).1 = .ok c) :
    versionOf (b.build w fs).result =
      (c.parseVersion w b.useLegacyConfig).toOption.bind
        (fun v => if v = 1 then some 1 else if v = 2 then some 2 else none) := by
  rw [build_result_of_load hpath hload]
  cases c.parseVersion w b.useLegacyConfig with
  | error err => rfl
  | ok v => exact versionOf_selectEngine _ v

/-! ## A 64-bit `int`: `build` refines spec §4.3 -/

/-- On a 64-bit `int`, `int(v)` is `v` itself. -/
@[simp] theorem goInt_64 (v : BitVec 64) : goInt 64 v = v := BitVec.signExtend_eq v

theorem toInt_eq_one_iff {v : BitVec 64} : v.toInt = 1 ↔ v = 1 :=
  (BitVec.toInt_inj (y := 1)).trans (by rfl)

theorem toInt_eq_two_iff {v : BitVec 64} : v.toInt = 2 ↔ v = 2 :=
  (BitVec.toInt_inj (y := 2)).trans (by rfl)

/-- **`build` refines version detection** on a 64-bit `int`: its engine serves the detected version
    when that is 1 or 2, and it fails otherwise. -/
theorem build_refines_detectVersion {fs : FileSystem} {b : Builder} {c : Config}
    (hpath : b.path ≠ "") (hload : (loadConfig fs b.path).1 = .ok c) :
    versionOf (b.build 64 fs).result =
      (detectVersion c.tree b.useLegacyConfig).filter (fun n => n == 1 || n == 2) := by
  rw [versionOf_build hpath hload]
  unfold detectVersion
  cases h : c.tree.get "version" with
  | none =>
    rw [parseVersion_absent h]
    split_ifs <;> rfl
  | some v =>
    cases v with
    | int64 n =>
      rw [parseVersion_int64 h, goInt_64]
      by_cases h1 : n = 1
      · subst h1; rfl
      by_cases h2 : n = 2
      · subst h2; rfl
      have h1' : n.toInt ≠ 1 := mt toInt_eq_one_iff.mp h1
      have h2' : n.toInt ≠ 2 := mt toInt_eq_two_iff.mp h2
      simp only [Except.toOption, Option.bind, if_neg h1, if_neg h2]
      simp [Option.filter, h1', h2']
    | _ => rw [parseVersion_other h (by simp)]; rfl

/-- **The engine `build` returns, by the loaded document's `version`.** On a 64-bit `int`: a V1 engine
    exactly for `version = 1`, or no `version` in a non-empty document or in legacy mode; a V2 engine
    exactly for `version = 2`, or no `version` in an empty document outside legacy mode; an error for a
    `version` that is not an integer and for every other `int64`. -/
theorem build_selects_engine_by_version (fs : FileSystem) (b : Builder) (c : Config)
    (hpath : b.path ≠ "") (hload : (loadConfig fs b.path).1 = .ok c) :
    ((∃ e, (b.build 64 fs).result = .ok (.v1 e)) ↔
        c.tree.get "version" = some (.int64 1) ∨
          (c.tree.get "version" = none ∧ (c.tree.keys ≠ [] ∨ b.useLegacyConfig = true))) ∧
    ((∃ e, (b.build 64 fs).result = .ok (.v2 e)) ↔
        c.tree.get "version" = some (.int64 2) ∨
          (c.tree.get "version" = none ∧ c.tree.keys = [] ∧ b.useLegacyConfig = false)) ∧
    ((∃ err, (b.build 64 fs).result = .error err) ↔
        (∃ v, c.tree.get "version" = some v ∧ ∀ n, v ≠ .int64 n) ∨
          ∃ n, c.tree.get "version" = some (.int64 n) ∧ n ≠ 1 ∧ n ≠ 2) := by
  rw [← versionOf_eq_one, ← versionOf_eq_two, ← versionOf_eq_none,
    build_refines_detectVersion hpath hload]
  rcases h : c.tree.get "version" with _ | v
  · unfold detectVersion
    rw [h]
    by_cases hk : c.tree.keys = [] <;> cases b.useLegacyConfig <;> simp [hk]
  by_cases hv : ∃ n, v = .int64 n
  · obtain ⟨n, rfl⟩ := hv
    unfold detectVersion
    rw [h]
    simp [Option.filter, toInt_eq_one_iff, toInt_eq_two_iff]
    exact ⟨Or.inl, Or.inr⟩
  · push_neg at hv
    rw [detectVersion_other h hv]
    simp [hv]

/-- The theorem at a `version = 1` document: both hypotheses hold there and it gives a V1 engine. -/
theorem build_selects_engine_by_version_at_version_one :
    let t : Tree := ⟨[("version", .int64 1)], by simp⟩
    let fs : FileSystem := ⟨fun _ => .ok ⟨false⟩, fun _ => .ok t⟩
    let b : Builder := ⟨"/etc/containerd/config.toml", "", false⟩
    b.path ≠ "" ∧ (loadConfig fs b.path).1 = .ok ⟨t, "", false⟩ ∧
      ∃ e, (b.build 64 fs).result = .ok (.v1 e) :=
  by
    intro t fs b
    exact ⟨by decide, rfl,
      (build_selects_engine_by_version fs b ⟨t, "", false⟩ (by decide) rfl).1.2 (Or.inl rfl)⟩

/-! ## An `int` of any width -/

/-- **`build` switches on the converted version.** On a target whose `int` has `w` bits, an `int64`
    `version` selects a V1 engine exactly when `int(version)` is 1, and a V2 engine exactly when it is 2
    (and not also 1). -/
theorem build_switches_on_converted_version {w : Nat} (fs : FileSystem) (b : Builder) (c : Config)
    (hpath : b.path ≠ "") (hload : (loadConfig fs b.path).1 = .ok c) {n : BitVec 64}
    (h : c.tree.get "version" = some (.int64 n)) :
    ((∃ e, (b.build w fs).result = .ok (.v1 e)) ↔ goInt w n = 1) ∧
    ((∃ e, (b.build w fs).result = .ok (.v2 e)) ↔ goInt w n ≠ 1 ∧ goInt w n = 2) := by
  rw [← versionOf_eq_one, ← versionOf_eq_two, versionOf_build hpath hload, parseVersion_int64 h]
  simp only [Except.toOption, Option.bind]
  by_cases h1 : goInt w n = 1
  · rw [if_pos h1]
    exact ⟨iff_of_true rfl h1, iff_of_false (by simp) (fun h => h.1 h1)⟩
  rw [if_neg h1]
  by_cases h2 : goInt w n = 2
  · rw [if_pos h2]
    exact ⟨iff_of_false (by simp) h1, iff_of_true rfl ⟨h1, h2⟩⟩
  · rw [if_neg h2]
    exact ⟨iff_of_false (by simp) h1, iff_of_false (by simp) (fun h => h2 h.2)⟩

/-- On a 32-bit `int` the `int64` version 4294967297 converts to 1: the theorem's hypotheses hold for
    that document, and it gets a V1 engine. -/
theorem build_switches_on_converted_version_at_32_bits :
    let t : Tree := ⟨[("version", .int64 4294967297)], by simp⟩
    let fs : FileSystem := ⟨fun _ => .ok ⟨false⟩, fun _ => .ok t⟩
    let b : Builder := ⟨"/etc/containerd/config.toml", "", false⟩
    b.path ≠ "" ∧ (loadConfig fs b.path).1 = .ok ⟨t, "", false⟩ ∧
      t.get "version" = some (.int64 4294967297) ∧ ∃ e, (b.build 32 fs).result = .ok (.v1 e) :=
  by
    intro t fs b
    exact ⟨by decide, rfl, rfl,
      (build_switches_on_converted_version fs b ⟨t, "", false⟩ (by decide) rfl rfl).1.2 (by decide)⟩

end ContainerToolkit.Containerd
