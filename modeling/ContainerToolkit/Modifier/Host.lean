import ContainerToolkit.Go.Runtime

/-!
# `ContainerToolkit.Modifier.Host` — what the CDI modifier reads, and whom it calls

The toolkit config the modifier reads (`Config`, with Go's field paths), the OCI spec it is handed
(`OciSpec`), the modifier value it builds (`CdiModifier`), and its collaborators (`Host`): the CDI
package (`ParseAnnotations`, `IsQualifiedName`, `DefaultSpecDirs`, the registry), and the image package
(`NewCUDAImageFromSpec`, `DevicesFromEnvvars`, `IsPrivileged`).

The collaborators are arbitrary functions, so every theorem about the modifier holds for every
behaviour they may have. The runtime spec type is a parameter `Spec` for the same reason: the modifier
itself reads one field of it, `Annotations`, and passes the whole of it to its collaborators.
-/

namespace ContainerToolkit.Modifier

/-- `visibleDevicesEnvvar`, declared elsewhere in the package: the variable `NewCDIModifier`'s doc comment
    and the policy warning name. -/
def visibleDevicesEnvvar : String := "NVIDIA_VISIBLE_DEVICES"

/-- `cdiModeConfig`: `nvidia-container-runtime.modes.cdi`. -/
structure CDIModeConfig where
  specDirs : List String
  defaultKind : String

/-- `modesConfig`, reduced to its CDI mode. -/
structure ModesConfig where
  cdi : CDIModeConfig

/-- `RuntimeConfig`, reduced to its modes. -/
structure RuntimeConfig where
  modes : ModesConfig

/-- `config.Config`, reduced to the fields the modifier reads. -/
structure Config where
  acceptEnvvarUnprivileged : Bool
  nvidiaContainerRuntimeConfig : RuntimeConfig

/-- `cfg.NVIDIAContainerRuntimeConfig.Modes.CDI.DefaultKind`. -/
abbrev Config.defaultKind (cfg : Config) : String :=
  cfg.nvidiaContainerRuntimeConfig.modes.cdi.defaultKind

/-- `cfg.NVIDIAContainerRuntimeConfig.Modes.CDI.SpecDirs`. -/
abbrev Config.specDirs (cfg : Config) : List String :=
  cfg.nvidiaContainerRuntimeConfig.modes.cdi.specDirs

/-- An `oci.Spec`. The modifier calls only its `Load()`, so it is what that call returns. -/
structure OciSpec (Spec : Type) where
  load : Except GoError Spec

/-- `cdiModifier`: the spec dirs and devices fixed at construction. Its logger is the run's `Log`. -/
structure CdiModifier where
  specDirs : List String
  devices : List String

/-- **The modifier's collaborators**, over the runtime spec type `Spec`. -/
structure Host (Spec : Type) where
  /-- The field `rawSpec.Annotations`. -/
  annotationsOf : Spec → List (String × String)
  /-- `cdi.ParseAnnotations`: the CDI annotation keys and the qualified device names, or an error. -/
  parseAnnotations : List (String × String) → Except GoError (List String × List String)
  /-- `cdi.IsQualifiedName`. -/
  isQualifiedName : String → Bool
  /-- `image.CUDA`, the image package's view of a container. -/
  CUDA : Type
  /-- `image.NewCUDAImageFromSpec`. -/
  newCUDAImageFromSpec : Spec → Except GoError CUDA
  /-- `container.DevicesFromEnvvars(envvars...).List()`. -/
  devicesFromEnvvars : CUDA → List String → List String
  /-- `image.IsPrivileged`. -/
  isPrivileged : Spec → Bool
  /-- `cdi.DefaultSpecDirs`. -/
  defaultSpecDirs : List String
  /-- The CDI registry's state. -/
  Registry : Type
  /-- `cdi.GetRegistry(cdi.WithSpecDirs(specDirs...), cdi.WithAutoRefresh(false))`. -/
  getRegistry : List String → Registry
  /-- `registry.Refresh()`: the registry it leaves, and its error. -/
  refresh : Registry → Registry × Option GoError
  /-- `registry.InjectDevices(spec, devices...)`: the spec as it leaves it, and its error. -/
  injectDevices : Registry → Spec → List String → Spec × Option GoError

end ContainerToolkit.Modifier
