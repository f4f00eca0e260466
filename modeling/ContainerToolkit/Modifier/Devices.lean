import ContainerToolkit.Modifier.CDI

/-!
# `ContainerToolkit.Modifier.Devices` — the devices `getDevicesFromSpec` resolves

The loop over the image's device list is meant to skip duplicates: it reads a `seen` map and logs
`Ignoring duplicate device` on a hit. Its body never writes the map, though. `DeviceLoop.step_seen` says
so for one iteration, and the run lemma `DeviceLoop.foldl_step` turns it into the loop's exact output from
any state: the names already in `seen` when the loop started are logged, every other one is appended.
From `make(map[string]bool)` that is every normalised name, duplicates included (`deviceLoop_eq`).

`resolveDevices` states spec §4.1 — annotation devices win, otherwise the normalised names with
duplicates dropped, honoured only for an accepted or privileged request — and
`getDevicesFromSpec_eq_resolveDevices_iff` compares the code with it: they agree exactly when the
normalised request has no duplicate, or the duplicate never reaches the result.
-/

namespace ContainerToolkit.Modifier

variable {Spec : Type}

/-! ## The loop -/

section Loop
variable {q : String → Bool} {k : String}

/-- The loop body never writes `seen`. -/
@[simp] theorem DeviceLoop.step_seen (s : DeviceLoop) (name : String) :
    (s.step q k name).seen = s.seen := by
  dsimp only [DeviceLoop.step]; split <;> rfl

/-- **The loop from any state.** A normalised name already in `seen` is logged as a duplicate, every
    other one is appended, and `seen` is left as it was. -/
theorem DeviceLoop.foldl_step (s : DeviceLoop) (names : List String) :
    names.foldl (DeviceLoop.step q k) s =
      { s with devices := s.devices ++ (names.map (normalise q k)).filter (fun n => !s.seen n),
               log := s.log ++ ((names.map (normalise q k)).filter s.seen).map duplicateLine } := by
  induction names generalizing s with
  | nil => simp
  | cons name names ih =>
    rw [List.foldl_cons, ih, DeviceLoop.step_seen]
    unfold DeviceLoop.step
    by_cases h : s.seen (normalise q k name) <;> simp [h]

/-- **The loop keeps every entry**: from an empty `seen` map it appends every normalised name,
    duplicates included, and logs nothing. -/
theorem deviceLoop_eq (names : List String) :
    deviceLoop q k names = ⟨names.map (normalise q k), fun _ => false, []⟩ := by
  unfold deviceLoop
  rw [DeviceLoop.foldl_step]
  simp [DeviceLoop.init]

end Loop

/-! ## `getDevicesFromSpec`, by the path it takes -/

section Paths
variable {host : Host Spec} {ociSpec : OciSpec Spec} {cfg : Config} {raw : Spec}

/-- The image path: every requested name normalised, honoured when accepted or privileged, dropped
    with a warning otherwise. -/
theorem devicesFromImage_of_image {container : host.CUDA}
    (h : host.newCUDAImageFromSpec raw = .ok container) :
    devicesFromImage host cfg raw =
      let devices := (host.devicesFromEnvvars container [visibleDevicesEnvvar]).map
        (normalise host.isQualifiedName cfg.defaultKind)
      if devices = [] then (.ok [], [])
      else if cfg.acceptEnvvarUnprivileged || host.isPrivileged raw then (.ok devices, [])
      else (.ok [], [ignoredLine devices]) := by
  unfold devicesFromImage
  rw [h]
  simp only [deviceLoop_eq, List.length_eq_zero, List.nil_append]

/-- Once the spec has loaded and its annotations parsed, annotation devices are returned as they are,
    and only their absence leads to the image. -/
theorem getDevicesFromSpec_of_annotations {u d : List String} (hload : ociSpec.load = .ok raw)
    (hann : host.parseAnnotations (host.annotationsOf raw) = .ok (u, d)) :
    getDevicesFromSpec host ociSpec cfg =
      if d = [] then devicesFromImage host cfg raw else (.ok d, []) := by
  unfold getDevicesFromSpec
  rw [hload]
  simp only [hann]
  cases d <;> simp

end Paths

/-! ## A sample host -/

/-- The host the witnesses run on: a spec whose annotations name `annotationDevices`, an image that
    requests `requested`, and a name counted as qualified when it contains `=`. -/
def sampleHost (annotationDevices requested : List String) (privileged : Bool) : Host Unit where
  annotationsOf _ := []
  parseAnnotations _ := .ok ([], annotationDevices)
  isQualifiedName name := '=' ∈ name.toList
  CUDA := Unit
  newCUDAImageFromSpec _ := .ok ()
  devicesFromEnvvars _ _ := requested
  isPrivileged _ := privileged
  defaultSpecDirs := ["/etc/cdi", "/var/run/cdi"]
  Registry := Unit
  getRegistry _ := ()
  refresh r := (r, none)
  injectDevices _ spec _ := (spec, none)

/-- A config with the default kind `nvidia.com/gpu` and no spec dirs of its own. -/
def sampleConfig (acceptEnvvarUnprivileged : Bool) : Config :=
  ⟨acceptEnvvarUnprivileged, ⟨⟨⟨[], "nvidia.com/gpu"⟩⟩⟩⟩

/-! ## First-occurrence deduplication

`List.eraseDups` keeps the first occurrence of each element: it is the deduplication spec §4.1 asks the
device resolver for. The one fact the comparison with the code needs is that it leaves a list alone
exactly when the list has no duplicates. Both directions follow `eraseDups.loop`, whose accumulator
holds the kept elements in reverse. -/

section EraseDups
variable {α : Type} [BEq α] [LawfulBEq α]

/-- The loop keeps its accumulator duplicate-free. -/
theorem eraseDups_loop_nodup : ∀ (as bs : List α), bs.Nodup → (List.eraseDups.loop as bs).Nodup
  | [], bs, h => by simpa [List.eraseDups.loop] using h
  | a :: as, bs, h => by
    unfold List.eraseDups.loop
    cases ha : bs.elem a with
    | true => exact eraseDups_loop_nodup as bs h
    | false =>
      exact eraseDups_loop_nodup as (a :: bs) (List.nodup_cons.mpr ⟨by simpa using ha, h⟩)

/-- On a duplicate-free remainder the loop keeps everything. -/
theorem eraseDups_loop_of_nodup : ∀ (as bs : List α), (bs.reverse ++ as).Nodup →
    List.eraseDups.loop as bs = bs.reverse ++ as
  | [], bs, _ => by simp [List.eraseDups.loop]
  | a :: as, bs, h => by
    have ha : a ∉ bs := fun hm =>
      (List.nodup_append.mp h).2.2 (List.mem_reverse.mpr hm) (List.mem_cons_self a as)
    unfold List.eraseDups.loop
    rw [show bs.elem a = false by simpa using ha]
    simpa using eraseDups_loop_of_nodup as (a :: bs) (by simpa using h)

theorem eraseDups_eq_self_iff {l : List α} : l.eraseDups = l ↔ l.Nodup :=
  ⟨fun h => h ▸ eraseDups_loop_nodup l [] List.nodup_nil,
   fun h => eraseDups_loop_of_nodup l [] (by simpa using h)⟩

end EraseDups

/-! ## Against spec §4.1 -/

/-- **Device resolution, as spec §4.1 states it.** Devices named by annotations win outright.
    Otherwise the requested names, each given the default kind unless already qualified, with
    duplicates dropped and the first occurrence kept; they are honoured only when `permitted`
    (unprivileged use accepted, or a privileged container) and dropped as a whole otherwise. -/
def resolveDevices (isQualifiedName : String → Bool) (defaultKind : String) (permitted : Bool)
    (annotationDevices requested : List String) : List String :=
  if annotationDevices ≠ [] then annotationDevices
  else if permitted then (requested.map (normalise isQualifiedName defaultKind)).eraseDups
  else []

/-- **`getDevicesFromSpec` meets spec §4.1 exactly when no duplicate reaches its result.** Once the
    spec has loaded, its annotations parsed and the image built, the code returns the spec's list
    exactly when the annotations name a device, the request is refused, or the normalised requested
    names are pairwise distinct. -/
theorem getDevicesFromSpec_eq_resolveDevices_iff {host : Host Spec} {ociSpec : OciSpec Spec}
    {cfg : Config} {raw : Spec} {u d : List String} {container : host.CUDA}
    (hload : ociSpec.load = .ok raw)
    (hann : host.parseAnnotations (host.annotationsOf raw) = .ok (u, d))
    (himage : host.newCUDAImageFromSpec raw = .ok container) :
    (getDevicesFromSpec host ociSpec cfg).1 =
        .ok (resolveDevices host.isQualifiedName cfg.defaultKind
          (cfg.acceptEnvvarUnprivileged || host.isPrivileged raw) d
          (host.devicesFromEnvvars container [visibleDevicesEnvvar])) ↔
      d ≠ [] ∨ (cfg.acceptEnvvarUnprivileged || host.isPrivileged raw) = false ∨
        ((host.devicesFromEnvvars container [visibleDevicesEnvvar]).map
          (normalise host.isQualifiedName cfg.defaultKind)).Nodup := by
  rw [getDevicesFromSpec_of_annotations hload hann]
  unfold resolveDevices
  cases d with
  | cons a d => simp
  | nil =>
    rw [devicesFromImage_of_image himage]
    generalize (host.devicesFromEnvvars container [visibleDevicesEnvvar]).map
      (normalise host.isQualifiedName cfg.defaultKind) = devices
    cases hp : (cfg.acceptEnvvarUnprivileged || host.isPrivileged raw) with
    | false => by_cases hd : devices = [] <;> simp [hd]
    | true =>
      cases devices with
      | nil => simp [List.eraseDups, List.eraseDups.loop]
      | cons a l => simpa [eq_comm] using eraseDups_eq_self_iff (l := a :: l)

/-- At `0,0`, privileged: the code's list is not the spec's. -/
theorem getDevicesFromSpec_eq_resolveDevices_iff_in_sample :
    (getDevicesFromSpec (sampleHost [] ["0", "0"] true) ⟨.ok ()⟩ (sampleConfig false)).1 ≠
      .ok (resolveDevices (sampleHost [] ["0", "0"] true).isQualifiedName "nvidia.com/gpu" true []
        ["0", "0"]) :=
  fun h => absurd ((getDevicesFromSpec_eq_resolveDevices_iff rfl rfl rfl).mp h)
    (by decide)

/-! ## The image path as a whole -/

section Request
variable {host : Host Spec} {ociSpec : OciSpec Spec} {cfg : Config} {raw : Spec}

/-- **What an image request resolves to.** With no annotation device, the result is every requested
    name normalised, in order and duplicates kept, when unprivileged use is accepted or the container is
    privileged; otherwise nothing, with one warning listing those names. Nothing else is logged: in
    particular no `Ignoring duplicate device` line. -/
theorem getDevicesFromSpec_of_image_request {u : List String} {container : host.CUDA}
    (hload : ociSpec.load = .ok raw)
    (hann : host.parseAnnotations (host.annotationsOf raw) = .ok (u, []))
    (himage : host.newCUDAImageFromSpec raw = .ok container) :
    getDevicesFromSpec host ociSpec cfg =
      let devices := (host.devicesFromEnvvars container [visibleDevicesEnvvar]).map
        (normalise host.isQualifiedName cfg.defaultKind)
      if devices = [] then (.ok [], [])
      else if cfg.acceptEnvvarUnprivileged || host.isPrivileged raw then (.ok devices, [])
      else (.ok [], [ignoredLine devices]) := by
  rw [getDevicesFromSpec_of_annotations hload hann, if_pos rfl, devicesFromImage_of_image himage]

/-- An unprivileged request for `0`: dropped, with the warning. -/
theorem getDevicesFromSpec_of_image_request_in_sample :
    getDevicesFromSpec (sampleHost [] ["0"] false) ⟨.ok ()⟩ (sampleConfig false) =
      (.ok [], [ignoredLine ["nvidia.com/gpu=0"]]) :=
  (getDevicesFromSpec_of_image_request rfl rfl rfl).trans rfl

/-- **`NVIDIA_VISIBLE_DEVICES=0,nvidia.com/gpu=0`.** With the default kind `nvidia.com/gpu`, the bare
    `0` is qualified to the other entry, and the device is returned twice. -/
theorem getDevicesFromSpec_repeats_aliased_device {u : List String} {container : host.CUDA}
    (hload : ociSpec.load = .ok raw)
    (hann : host.parseAnnotations (host.annotationsOf raw) = .ok (u, []))
    (himage : host.newCUDAImageFromSpec raw = .ok container)
    (hrequest : host.devicesFromEnvvars container [visibleDevicesEnvvar] = ["0", "nvidia.com/gpu=0"])
    (hbare : host.isQualifiedName "0" = false)
    (hqualified : host.isQualifiedName "nvidia.com/gpu=0" = true)
    (hkind : cfg.defaultKind = "nvidia.com/gpu") (hprivileged : host.isPrivileged raw = true) :
    getDevicesFromSpec host ociSpec cfg = (.ok ["nvidia.com/gpu=0", "nvidia.com/gpu=0"], []) := by
  rw [getDevicesFromSpec_of_annotations hload hann, if_pos rfl, devicesFromImage_of_image himage,
    hrequest]
  simp [normalise, hbare, hqualified, hkind, hprivileged]

end Request

theorem getDevicesFromSpec_repeats_aliased_device_in_sample :
    getDevicesFromSpec (sampleHost [] ["0", "nvidia.com/gpu=0"] true) ⟨.ok ()⟩ (sampleConfig false) =
      (.ok ["nvidia.com/gpu=0", "nvidia.com/gpu=0"], []) :=
  getDevicesFromSpec_repeats_aliased_device rfl rfl rfl rfl
    (by decide) (by decide) rfl rfl

end ContainerToolkit.Modifier
