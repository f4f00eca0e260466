import ContainerToolkit.Containerd.Config
import ContainerToolkit.Go.TomlPath

/-!
# `ContainerToolkit.Containerd.ConfigV1` — the toolkit's edits to a version 1 containerd config

`build` hands the containerd toolkit a `*ConfigV1` for a version 1 document, and the toolkit's
`UpdateConfig` and `RevertConfig` then add and remove its runtimes through the engine's `AddRuntime` and
`RemoveRuntime`. None of the four is under `src/`; their tests are (`TestUpdateV1ConfigDefaultRuntime`,
`TestUpdateV1Config`, `TestUpdateV1ConfigWithRuncPresent`, `TestRevertV1Config`). Each definition below
is therefore modelled from spec §4.4 and §9, and where the spec's words leave a choice, from what those
tests expect:

* the runtimes are the static ordered table of §9, and `--runtime-class` renames its `nvidia` entry
  unless it is empty or names another entry of the table (the tests' `NAME` and `nvidia-experimental`
  cases);
* a new entry is a copy of the `runc` entry when there is one, `runtime_type` included (the `runc`
  test), and otherwise the base fields with the config's runtime type; either way it is tagged with the
  CDI annotation selector and runs the runtime's binary as `BinaryName` and `Runtime`;
* the default runtime is named by `default_runtime_name` when the config uses the default runtime name,
  and otherwise inlined under `default_runtime` as a full copy of the selected runtime's entry (§4.4)
  without the selector, which `TestUpdateV1ConfigDefaultRuntime` expects to be absent there;
* `Update` writes `version = 1`, and `Revert` drops the tables its deletions leave empty and a `version`
  left alone in the document (`TestRevertV1Config`).

`UpdateConfig` walks a Go map, in no fixed order; the model walks the table in its order (§9). Only the
default runtime's writes depend on another runtime's: they copy its entry.
-/

namespace ContainerToolkit.Containerd

open Toml

/-! ## The version 1 schema -/

/-- Modelled from the spec: `plugins.cri.containerd.runtimes.<name>`. -/
def runtimePath (name : String) : List String := ["plugins", "cri", "containerd", "runtimes", name]

/-- Modelled from the spec: `plugins.cri.containerd.default_runtime_name`. -/
def defaultRuntimeNamePath : List String := ["plugins", "cri", "containerd", "default_runtime_name"]

/-- Modelled from the spec: `plugins.cri.containerd.default_runtime`. -/
def defaultRuntimePath : List String := ["plugins", "cri", "containerd", "default_runtime"]

/-- Modelled from the spec: the tables above a runtime entry, innermost first. -/
def runtimeAncestors : List (List String) :=
  [["plugins", "cri", "containerd", "runtimes"], ["plugins", "cri", "containerd"], ["plugins", "cri"],
    ["plugins"]]

/-- Modelled from the spec: the fields of a runtime entry that copies no `runc` entry. -/
def runtimeBase (runtimeType : String) : Value :=
  .tree [("runtime_type", .string runtimeType), ("runtime_root", .string ""),
    ("runtime_engine", .string ""), ("privileged_without_host_devices", .bool false)]

/-- Modelled from the spec: `container_annotations = ["cdi.k8s.io/*"]`. -/
def cdiAnnotations : Value := .array [.string "cdi.k8s.io/*"]

/-! ## `AddRuntime` and `RemoveRuntime` -/

/-- Modelled from the spec: what `AddRuntime` starts a runtime entry from, a copy of the `runc` entry
    when that is a table and the base fields otherwise. -/
def runtimeTemplate (t : Tree) (runtimeType : String) : Value :=
  match t.getPath (runtimePath "runc") with
  | some (.tree runc) => .tree runc
  | _ => runtimeBase runtimeType

/-- Modelled from the spec: the entry `name` written from `entry`, tagged with the selector and running
    `path`. -/
def writeRuntime (t : Tree) (name path : String) (entry : Value) : Tree :=
  (((t.setPath (runtimePath name) entry).setPath (runtimePath name ++ ["container_annotations"])
    cdiAnnotations).setPath (runtimePath name ++ ["options", "BinaryName"]) (.string path)).setPath
    (runtimePath name ++ ["options", "Runtime"]) (.string path)

/-- Modelled from the spec: the default runtime pointed at the entry `name`, by name, or inlined as a
    full copy of the entry without the selector. -/
def writeDefault (c : Config) (t : Tree) (name : String) : Tree :=
  if c.useDefaultRuntimeName then t.setPath defaultRuntimeNamePath (.string name)
  else
    match t.getPath (runtimePath name) with
    | some entry =>
      (t.setPath defaultRuntimePath entry).deletePath (defaultRuntimePath ++ ["container_annotations"])
    | none => t

/-- Modelled from the spec: **`(*ConfigV1).AddRuntime(name, path, setAsDefault)`**, which is not
    under `src/`. -/
def ConfigV1.addRuntime (c : Config) (name path : String) (setAsDefault : Bool) : Config :=
  let t := c.tree.setPath ["version"] (.int64 1)
  let t := writeRuntime t name path (runtimeTemplate t c.runtimeType)
  { c with tree := if setAsDefault then writeDefault c t name else t }

/-- Modelled from the spec: whether the inlined `default_runtime` runs the binary of the entry `name`. -/
def defaultRunsRuntime (t : Tree) (name : String) : Bool :=
  match t.stringAt (runtimePath name ++ ["options", "BinaryName"]) with
  | some binary => t.stringAt (defaultRuntimePath ++ ["options", "BinaryName"]) = some binary
  | none => false

/-- Modelled from the spec: the table at `p` dropped when it is empty. -/
def pruneEmpty (t : Tree) (p : List String) : Tree :=
  match t.getPath p with
  | some (.tree []) => t.deletePath p
  | _ => t

/-- Modelled from the spec: the tables above a runtime entry that are left empty dropped, innermost
    first, and then a `version` left alone in the document. -/
def pruneTables (t : Tree) : Tree :=
  let t := runtimeAncestors.foldl pruneEmpty t
  if t.keys = ["version"] then t.deletePath ["version"] else t

/-- Modelled from the spec: the inlined default dropped when it runs the binary of the entry `name`. -/
def deleteDefaultRuntime (t : Tree) (name : String) : Tree :=
  if defaultRunsRuntime t name then t.deletePath defaultRuntimePath else t

/-- Modelled from the spec: `default_runtime_name` dropped when it names `name`. -/
def deleteDefaultRuntimeName (t : Tree) (name : String) : Tree :=
  if t.stringAt defaultRuntimeNamePath = some name then t.deletePath defaultRuntimeNamePath else t

/-- Modelled from the spec: **`(*ConfigV1).RemoveRuntime(name)`**, which is not under `src/`. -/
def ConfigV1.removeRuntime (c : Config) (name : String) : Config :=
  { c with tree := pruneTables (deleteDefaultRuntimeName
    ((deleteDefaultRuntime c.tree name).deletePath (runtimePath name)) name) }

/-! ## `UpdateConfig` and `RevertConfig` -/

/-- Modelled from the spec: the toolkit command's `options` that `UpdateConfig` and `RevertConfig`
    read. -/
structure Options where
  setAsDefault : Bool
  runtimeClass : String
  runtimeDir : String

/-- Modelled from the spec: the runtimes the toolkit installs and their binaries, the static ordered
    table of §9. -/
def nvidiaRuntimeBinaries : List (String × String) :=
  [("nvidia", "nvidia-container-runtime"), ("nvidia-experimental", "nvidia-container-runtime.experimental"),
    ("nvidia-cdi", "nvidia-container-runtime.cdi"), ("nvidia-legacy", "nvidia-container-runtime.legacy")]

/-- Modelled from the spec: the name a table entry is installed under. -/
def Options.runtimeName (o : Options) (name : String) : String :=
  if name = "nvidia" ∧ o.runtimeClass ≠ "" ∧ o.runtimeClass ∉ nvidiaRuntimeBinaries.map Prod.fst then
    o.runtimeClass
  else name

/-- Modelled from the spec: the runtimes installed, each with the path of its binary in `runtimeDir`. -/
def Options.runtimes (o : Options) : List (String × String) :=
  nvidiaRuntimeBinaries.map fun runtime => (o.runtimeName runtime.1, o.runtimeDir ++ "/" ++ runtime.2)

/-- Modelled from the spec: the runtime a default is set to, `nvidia` when no class is given. -/
def Options.defaultName (o : Options) : String :=
  if o.runtimeClass = "" then "nvidia" else o.runtimeClass

/-- Modelled from the spec: the runtime set as default, if any. -/
def Options.defaultRuntime (o : Options) : Option String :=
  if o.setAsDefault then some o.defaultName else none

/-- Modelled from the spec: `UpdateConfig`'s loop, `AddRuntime` for each runtime in turn, as the default
    for those `isDefault` picks. -/
def addRuntimes (c : Config) (runtimes : List (String × String)) (isDefault : String → Bool) : Config :=
  runtimes.foldl (fun c runtime => ConfigV1.addRuntime c runtime.1 runtime.2 (isDefault runtime.1)) c

/-- Modelled from the spec: **`UpdateConfig(cfg, o)`** on a `*ConfigV1`, which is not under
    `src/`. -/
def updateConfig (c : Config) (o : Options) : Config :=
  addRuntimes c o.runtimes (fun name => o.defaultRuntime == some name)

/-- Modelled from the spec: `RevertConfig`'s loop, `RemoveRuntime` for each name in turn. -/
def removeRuntimes (c : Config) (names : List String) : Config :=
  names.foldl ConfigV1.removeRuntime c

/-- Modelled from the spec: **`RevertConfig(cfg, o)`** on a `*ConfigV1`, which is not under
    `src/`. -/
def revertConfig (c : Config) (o : Options) : Config :=
  removeRuntimes c (o.runtimes.map Prod.fst)

end ContainerToolkit.Containerd
