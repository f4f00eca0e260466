import ContainerToolkit.Modifier.Devices

/-!
# `ContainerToolkit.Modifier.Lifecycle` — building the modifier, and applying it

Spec §4.2 gives the modifier two steps: `NewCDIModifier` fixes the device list and the spec dirs (or
returns the nil modifier when there is nothing to inject), and `Modify` injects that list through a
refreshed registry, where a failed refresh is only logged.

The privilege policy of spec §4.1 is a property of the two steps together: for an unprivileged
container whose config does not accept the variable, nothing the image requests reaches a modifier
(`newCDIModifier_unprivileged_annotation_devices_only`). It rests on one lemma about
`getDevicesFromSpec` (`getDevicesFromSpec_of_unprivileged`) and one about how `NewCDIModifier` uses its
result (`newCDIModifier_fst`).
-/

namespace ContainerToolkit.Modifier

variable {Spec : Type}

/-! ## `NewCDIModifier` -/

/-- The modifier `NewCDIModifier` builds for a device list: none for an empty one, and otherwise one with
    the configured spec dirs, or CDI's defaults when none are configured. -/
def modifierFor (host : Host Spec) (cfg : Config) (devices : List String) : Option CdiModifier :=
  if devices = [] then none
  else some ⟨if cfg.specDirs.length > 0 then cfg.specDirs else host.defaultSpecDirs, devices⟩

/-- `NewCDIModifier` is `getDevicesFromSpec`, its error wrapped, its devices made into a modifier. -/
theorem newCDIModifier_fst (host : Host Spec) (cfg : Config) (ociSpec : OciSpec Spec) :
    (newCDIModifier host cfg ociSpec).1 =
      match (getDevicesFromSpec host ociSpec cfg).1 with
      | .error err => .error (err.wrap "failed to get required devices from OCI specification: %v")
      | .ok devices => .ok (modifierFor host cfg devices) := by
  unfold newCDIModifier modifierFor
  rcases getDevicesFromSpec host ociSpec cfg with ⟨_ | devices, log⟩
  · rfl
  · cases devices <;> simp

/-- **Devices without privileges**: what `getDevicesFromSpec` can return to an unprivileged container
    whose config does not accept the variable. It loads the spec, parses the annotations and, with no
    annotation device, builds the image (whose error it returns), but never reads the image's request. -/
def annotationDevicesOnly (host : Host Spec) (ociSpec : OciSpec Spec) : Except GoError (List String) :=
  match ociSpec.load with
  | .error err => .error (err.wrap "failed to load OCI spec: %v")
  | .ok rawSpec =>
    match host.parseAnnotations (host.annotationsOf rawSpec) with
    | .error err => .error (err.wrap "failed to parse container annotations: %v")
    | .ok (_, annotationDevices) =>
      if annotationDevices = [] then
        match host.newCUDAImageFromSpec rawSpec with
        | .error err => .error err
        | .ok _ => .ok []
      else .ok annotationDevices

/-- `annotationDevicesOnly` fails, returns nothing, or returns the annotation devices. -/
theorem annotationDevicesOnly_cases (host : Host Spec) (ociSpec : OciSpec Spec) :
    (∃ err, annotationDevicesOnly host ociSpec = .error err) ∨ annotationDevicesOnly host ociSpec = .ok [] ∨
      ∃ raw u d, annotationDevicesOnly host ociSpec = .ok d ∧ ociSpec.load = .ok raw ∧
        host.parseAnnotations (host.annotationsOf raw) = .ok (u, d) := by
  unfold annotationDevicesOnly
  rcases hload : ociSpec.load with err | raw
  · exact .inl ⟨_, rfl⟩
  dsimp only
  rcases hann : host.parseAnnotations (host.annotationsOf raw) with err | ⟨u, d⟩
  · exact .inl ⟨_, rfl⟩
  dsimp only
  by_cases hd : d = []
  · rw [if_pos hd]
    rcases host.newCUDAImageFromSpec raw with err | container
    · exact .inl ⟨_, rfl⟩
    · exact .inr (.inl rfl)
  · exact .inr (.inr ⟨raw, u, d, by rw [if_neg hd], rfl, hann⟩)

section
variable {host : Host Spec} {cfg : Config} {ociSpec : OciSpec Spec}

/-- Without accepted unprivileged use and without privileges, `getDevicesFromSpec` is
    `annotationDevicesOnly`. -/
theorem getDevicesFromSpec_of_unprivileged (haccept : cfg.acceptEnvvarUnprivileged = false)
    (hunprivileged : ∀ raw, ociSpec.load = .ok raw → host.isPrivileged raw = false) :
    (getDevicesFromSpec host ociSpec cfg).1 = annotationDevicesOnly host ociSpec := by
  rcases hload : ociSpec.load with err | raw
  · simp [getDevicesFromSpec, annotationDevicesOnly, hload]
  rcases hann : host.parseAnnotations (host.annotationsOf raw) with err | ⟨u, d⟩
  · simp [getDevicesFromSpec, annotationDevicesOnly, hload, hann]
  rw [getDevicesFromSpec_of_annotations hload hann]
  simp only [annotationDevicesOnly, hload, hann]
  split_ifs
  · rcases himage : host.newCUDAImageFromSpec raw with err | container
    · simp [devicesFromImage, himage]
    · rw [devicesFromImage_of_image himage]
      simp only [haccept, hunprivileged raw hload, Bool.or_false, Bool.false_eq_true, if_false]
      split_ifs <;> rfl
  · rfl

/-- **Unprivileged containers get annotation devices only.** When unprivileged use of the variable is
    not accepted and the container is not privileged, `NewCDIModifier` returns an error, the nil
    modifier, or a modifier whose devices are exactly the qualified devices the annotations name:
    nothing derived from `NVIDIA_VISIBLE_DEVICES` reaches a modifier. -/
theorem newCDIModifier_unprivileged_annotation_devices_only (host : Host Spec) (cfg : Config)
    (ociSpec : OciSpec Spec) (haccept : cfg.acceptEnvvarUnprivileged = false)
    (hunprivileged : ∀ raw, ociSpec.load = .ok raw → host.isPrivileged raw = false) :
    (∃ err, (newCDIModifier host cfg ociSpec).1 = .error err) ∨
      (newCDIModifier host cfg ociSpec).1 = .ok none ∨
      ∃ m raw u, (newCDIModifier host cfg ociSpec).1 = .ok (some m) ∧ ociSpec.load = .ok raw ∧
        host.parseAnnotations (host.annotationsOf raw) = .ok (u, m.devices) := by
  rw [newCDIModifier_fst, getDevicesFromSpec_of_unprivileged haccept hunprivileged]
  rcases annotationDevicesOnly_cases host ociSpec with
    ⟨err, h⟩ | h | ⟨raw, u, d, h, hload, hann⟩ <;> rw [h] <;> dsimp only
  · exact .inl ⟨_, rfl⟩
  · exact .inr (.inl rfl)
  · unfold modifierFor
    by_cases hd : d = []
    · exact .inr (.inl (by rw [if_pos hd]))
    · exact .inr (.inr ⟨_, raw, u, by rw [if_neg hd], hload, hann⟩)

/-- An unprivileged container whose annotations name `nvidia.com/gpu=1` and whose image requests `0`
    gets a modifier for the annotation device alone. -/
theorem newCDIModifier_unprivileged_annotation_devices_only_in_sample :
    (∃ m raw u, (newCDIModifier (sampleHost ["nvidia.com/gpu=1"] ["0"] false) (sampleConfig false)
        ⟨.ok ()⟩).1 = .ok (some m) ∧ (⟨.ok ()⟩ : OciSpec Unit).load = .ok raw ∧
      (sampleHost ["nvidia.com/gpu=1"] ["0"] false).parseAnnotations
        ((sampleHost ["nvidia.com/gpu=1"] ["0"] false).annotationsOf raw) = .ok (u, m.devices)) := by
  rcases newCDIModifier_unprivileged_annotation_devices_only (sampleHost ["nvidia.com/gpu=1"] ["0"] false)
    (sampleConfig false) ⟨.ok ()⟩ rfl (fun _ _ => rfl) with ⟨_, h⟩ | h | h
  · exact absurd h (by simp [newCDIModifier, getDevicesFromSpec, sampleHost])
  · exact absurd h (by simp [newCDIModifier, getDevicesFromSpec, sampleHost])
  · exact h

/-- **The image's request is not observable without privileges.** When unprivileged use is not
    accepted and the container is not privileged, replacing what the image requests (the whole
    `NVIDIA_VISIBLE_DEVICES` list) changes nothing `NewCDIModifier` returns. -/
theorem newCDIModifier_unprivileged_ignores_request (host : Host Spec) (cfg : Config)
    (ociSpec : OciSpec Spec) (request : host.CUDA → List String → List String)
    (haccept : cfg.acceptEnvvarUnprivileged = false)
    (hunprivileged : ∀ raw, ociSpec.load = .ok raw → host.isPrivileged raw = false) :
    (newCDIModifier { host with devicesFromEnvvars := request } cfg ociSpec).1 =
      (newCDIModifier host cfg ociSpec).1 := by
  have hunprivileged' : ∀ raw, ociSpec.load = .ok raw →
      ({ host with devicesFromEnvvars := request } : Host Spec).isPrivileged raw = false :=
    hunprivileged
  rw [newCDIModifier_fst, newCDIModifier_fst, getDevicesFromSpec_of_unprivileged haccept hunprivileged,
    getDevicesFromSpec_of_unprivileged haccept hunprivileged']
  unfold annotationDevicesOnly
  rcases ociSpec.load with err | raw
  · rfl
  dsimp only
  rcases host.parseAnnotations (host.annotationsOf raw) with err | ⟨u, d⟩
  · rfl
  dsimp only
  split_ifs
  · rcases host.newCUDAImageFromSpec raw with err | container <;> rfl
  · rfl

/-- Requesting `1` instead of `0` in an unprivileged container. -/
theorem newCDIModifier_unprivileged_ignores_request_in_sample :
    (newCDIModifier { sampleHost [] ["0"] false with devicesFromEnvvars := fun _ _ => ["1"] }
        (sampleConfig false) ⟨.ok ()⟩).1 =
      (newCDIModifier (sampleHost [] ["0"] false) (sampleConfig false) ⟨.ok ()⟩).1 :=
  newCDIModifier_unprivileged_ignores_request _ _ _ _ rfl (fun _ _ => rfl)

end

/-! ## `Modify` -/

/-- `Modify`'s spec and error: those of injecting exactly the modifier's devices through the refreshed
    registry, an injection error wrapped with the step's name. -/
theorem modify_fst (host : Host Spec) (m : CdiModifier) (spec : Spec) :
    (m.modify host spec).1 =
      let injected := host.injectDevices (host.refresh (host.getRegistry m.specDirs)).1 spec m.devices
      (injected.1, injected.2.map (GoError.wrap "failed to inject CDI devices: %v")) := by
  unfold CdiModifier.modify
  rcases host.refresh (host.getRegistry m.specDirs) with ⟨registry, refreshErr⟩
  dsimp only
  rcases host.injectDevices registry spec m.devices with ⟨spec', _ | err⟩ <;> rfl

/-- **From request to injection.** For a spec with no annotation device whose image request is
    non-empty and honoured, `NewCDIModifier` builds a modifier, and its `Modify` asks `InjectDevices`
    for every requested name normalised, in order and duplicates included. -/
theorem modify_injects_normalised_request {host : Host Spec} {ociSpec : OciSpec Spec} {cfg : Config}
    {raw : Spec} {u : List String} {container : host.CUDA} (hload : ociSpec.load = .ok raw)
    (hann : host.parseAnnotations (host.annotationsOf raw) = .ok (u, []))
    (himage : host.newCUDAImageFromSpec raw = .ok container)
    (hrequest : host.devicesFromEnvvars container [visibleDevicesEnvvar] ≠ [])
    (hpermitted : (cfg.acceptEnvvarUnprivileged || host.isPrivileged raw) = true) (spec : Spec) :
    ∃ m, (newCDIModifier host cfg ociSpec).1 = .ok (some m) ∧
      (m.modify host spec).1 =
        let injected := host.injectDevices (host.refresh (host.getRegistry m.specDirs)).1 spec
          ((host.devicesFromEnvvars container [visibleDevicesEnvvar]).map
            (normalise host.isQualifiedName cfg.defaultKind))
        (injected.1, injected.2.map (GoError.wrap "failed to inject CDI devices: %v")) := by
  have hne : (host.devicesFromEnvvars container [visibleDevicesEnvvar]).map
      (normalise host.isQualifiedName cfg.defaultKind) ≠ [] := by simpa using hrequest
  have hdevices : (getDevicesFromSpec host ociSpec cfg).1 = .ok
      ((host.devicesFromEnvvars container [visibleDevicesEnvvar]).map
        (normalise host.isQualifiedName cfg.defaultKind)) := by
    rw [getDevicesFromSpec_of_annotations hload hann, if_pos rfl, devicesFromImage_of_image himage]
    simp only [if_neg hne, hpermitted, if_true]
  rw [newCDIModifier_fst, hdevices]
  exact ⟨⟨if cfg.specDirs.length > 0 then cfg.specDirs else host.defaultSpecDirs, _⟩,
    by simp only [modifierFor, if_neg hne], modify_fst host _ spec⟩

/-- A privileged request for `0,0`: the device is asked for twice. -/
theorem modify_injects_normalised_request_in_sample :
    ∃ m, (newCDIModifier (sampleHost [] ["0", "0"] true) (sampleConfig false) ⟨.ok ()⟩).1 =
        .ok (some m) ∧
      (m.modify (sampleHost [] ["0", "0"] true) ()).1 =
        (((sampleHost [] ["0", "0"] true).injectDevices () () ["nvidia.com/gpu=0", "nvidia.com/gpu=0"]).1,
          none) :=
  @modify_injects_normalised_request Unit (sampleHost [] ["0", "0"] true) ⟨.ok ()⟩ (sampleConfig false)
    () [] () rfl rfl rfl (by decide) rfl ()

end ContainerToolkit.Modifier
