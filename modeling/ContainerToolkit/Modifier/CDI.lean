import ContainerToolkit.Modifier.Host

/-!
# `ContainerToolkit.Modifier.CDI` — `NewCDIModifier`, `getDevicesFromSpec` and `Modify`

A line-by-line model of `internal/modifier/cdi.go`. Each function returns what the Go function returns
together with the lines it logged. `getDevicesFromSpec` is cut where the Go function turns from the
annotations to the image (`devicesFromImage`), and the loop over the image's device list is a left fold
of its body (`DeviceLoop.step`) over the state it updates: `devices`, the `seen` map and the log.
-/

namespace ContainerToolkit.Modifier

variable {Spec : Type}

/-- The loop body's first statement: `fmt.Sprintf("%s=%s", DefaultKind, name)` unless
    `cdi.IsQualifiedName(name)`. -/
def normalise (isQualifiedName : String → Bool) (defaultKind name : String) : String :=
  if !isQualifiedName name then defaultKind ++ "=" ++ name else name

/-- The variables the loop over `envDevices.List()` updates. `seen` is the Go `map[string]bool`, read
    as a function (a missing key reads `false`). -/
structure DeviceLoop where
  devices : List String
  seen : String → Bool
  log : Log

/-- `var devices []string` and `seen := make(map[string]bool)`. -/
def DeviceLoop.init : DeviceLoop := ⟨[], fun _ => false, []⟩

/-- The log line for a skipped duplicate. -/
def duplicateLine (name : String) : LogEntry := .logf .debug "Ignoring duplicate device %q" [.str name]

/-- **One iteration of the loop body**, for the entry `name`. -/
def DeviceLoop.step (isQualifiedName : String → Bool) (defaultKind : String) (s : DeviceLoop)
    (name : String) : DeviceLoop :=
  let name := normalise isQualifiedName defaultKind name
  if s.seen name then { s with log := s.log ++ [duplicateLine name] }
  else { s with devices := s.devices ++ [name] }

/-- The loop over `envDevices.List()`. -/
def deviceLoop (isQualifiedName : String → Bool) (defaultKind : String) (names : List String) :
    DeviceLoop :=
  names.foldl (DeviceLoop.step isQualifiedName defaultKind) DeviceLoop.init

/-- The policy warning, listing the devices it drops. -/
def ignoredLine (devices : List String) : LogEntry :=
  .logf .warning "Ignoring devices specified in NVIDIA_VISIBLE_DEVICES: %v" [.strs devices]

/-- `getDevicesFromSpec` from `image.NewCUDAImageFromSpec(rawSpec)` on. -/
def devicesFromImage (host : Host Spec) (cfg : Config) (rawSpec : Spec) :
    Except GoError (List String) × Log :=
  match host.newCUDAImageFromSpec rawSpec with
  | .error err => (.error err, [])
  | .ok container =>
    let envDevices := host.devicesFromEnvvars container [visibleDevicesEnvvar]
    let loop := deviceLoop host.isQualifiedName cfg.defaultKind envDevices
    if loop.devices.length = 0 then (.ok [], loop.log)
    else if cfg.acceptEnvvarUnprivileged || host.isPrivileged rawSpec then (.ok loop.devices, loop.log)
    else (.ok [], loop.log ++ [ignoredLine loop.devices])

/-- **`getDevicesFromSpec`.** -/
def getDevicesFromSpec (host : Host Spec) (ociSpec : OciSpec Spec) (cfg : Config) :
    Except GoError (List String) × Log :=
  match ociSpec.load with
  | .error err => (.error (err.wrap "failed to load OCI spec: %v"), [])
  | .ok rawSpec =>
    match host.parseAnnotations (host.annotationsOf rawSpec) with
    | .error err => (.error (err.wrap "failed to parse container annotations: %v"), [])
    | .ok (_, annotationDevices) =>
      if annotationDevices.length > 0 then (.ok annotationDevices, [])
      else devicesFromImage host cfg rawSpec

/-- **`NewCDIModifier`.** `none` is the nil modifier. -/
def newCDIModifier (host : Host Spec) (cfg : Config) (ociSpec : OciSpec Spec) :
    Except GoError (Option CdiModifier) × Log :=
  match getDevicesFromSpec host ociSpec cfg with
  | (.error err, log) =>
    (.error (err.wrap "failed to get required devices from OCI specification: %v"), log)
  | (.ok devices, log) =>
    if devices.length = 0 then
      (.ok none, log ++ [.logf .debug "No devices requested; no modification required." []])
    else
      let log := log ++ [.logf .debug "Creating CDI modifier for devices: %v" [.strs devices]]
      let specDirs := if cfg.specDirs.length > 0 then cfg.specDirs else host.defaultSpecDirs
      (.ok (some ⟨specDirs, devices⟩), log)

/-- The log line for a failed registry refresh. -/
def refreshLine (err : GoError) : LogEntry :=
  .logErr .debug "The following error was triggered when refreshing the CDI registry: %v" err

/-- **`(cdiModifier).Modify`**: the spec as injection leaves it, and the error `Modify` returns. -/
def CdiModifier.modify (host : Host Spec) (m : CdiModifier) (spec : Spec) :
    (Spec × Option GoError) × Log :=
  let (registry, refreshErr) := host.refresh (host.getRegistry m.specDirs)
  let log : Log := match refreshErr with
    | some err => [refreshLine err]
    | none => []
  let log := log ++ [.logf .debug "Injecting devices using CDI: %v" [.strs m.devices]]
  match host.injectDevices registry spec m.devices with
  | (spec, some err) => ((spec, some (err.wrap "failed to inject CDI devices: %v")), log)
  | (spec, none) => ((spec, none), log)

end ContainerToolkit.Modifier
