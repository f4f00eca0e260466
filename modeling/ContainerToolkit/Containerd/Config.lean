import ContainerToolkit.Go.Runtime

/-!
# `ContainerToolkit.Containerd.Config` — the containerd config builder

A faithful model of `builder.build`, `loadConfig` and `(*Config).parseVersion`. The filesystem and the
TOML loader are collaborators (`FileSystem`): `os.Stat` and `toml.LoadFile`, taken as arbitrary
functions, so every result here holds whatever they return.

Go's `int` has the width of the target's word. `parseVersion` converts the `int64` it finds with
`int(v)`, which truncates when `int` is narrower, so the model keeps the width as an argument `intSize`
and represents an `int` as `BitVec intSize`; Go's integer conversion is `BitVec.signExtend`.
-/

namespace ContainerToolkit.Containerd

open Toml

/-- `defaultRuntimeType`. -/
def defaultRuntimeType : String := "io.containerd.runc.v2"

/-- The config builder: the path of the config file, the runtime type and the legacy flag. -/
structure Builder where
  path : String
  runtimeType : String
  useLegacyConfig : Bool

/-- `WithPath`. -/
def withPath (path : String) (b : Builder) : Builder := { b with path := path }

/-- `WithRuntimeType`. -/
def withRuntimeType (runtimeType : String) (b : Builder) : Builder :=
  { b with runtimeType := runtimeType }

/-- `WithUseLegacyConfig`. -/
def withUseLegacyConfig (useLegacyConfig : Bool) (b : Builder) : Builder :=
  { b with useLegacyConfig := useLegacyConfig }

/-- A containerd config: the loaded tree with the two settings `build` fills in. -/
structure Config where
  tree : Tree
  runtimeType : String
  useDefaultRuntimeName : Bool

/-- The `engine.Interface` value `build` returns: `(*ConfigV1)(config)` or `config` itself. -/
inductive Engine where
  | v1 (c : Config)
  | v2 (c : Config)

/-! ## The filesystem collaborators -/

/-- A `syscall.Errno`, by number. -/
structure Errno where
  code : Nat
  deriving DecidableEq, Repr

/-- `os.IsExist(err)`: the error is `EEXIST` or `ENOTEMPTY`. -/
def Errno.isExist (e : Errno) : Bool := e.code == 17 || e.code == 39

/-- `os.IsNotExist(err)`: the error is `ENOENT`. -/
def Errno.isNotExist (e : Errno) : Bool := e.code == 2

/-- The part of `os.FileInfo` the code calls. -/
structure FileInfo where
  isDir : Bool

/-- `os.Stat` and `toml.LoadFile`. `os.Stat` returns a nil `FileInfo` exactly when it returns an error. -/
structure FileSystem where
  stat : String → Except Errno FileInfo
  loadFile : String → Except GoError Tree

/-- `os.IsExist(err)` for the error `os.Stat` returned (`nil` is not one). -/
def statIsExist : Except Errno FileInfo → Bool
  | .error e => e.isExist
  | .ok _ => false

/-- `os.IsNotExist(err)` for the error `os.Stat` returned. -/
def statIsNotExist : Except Errno FileInfo → Bool
  | .error e => e.isNotExist
  | .ok _ => false

/-- The `info` `os.Stat` returned: `nil` alongside an error. -/
def statInfo : Except Errno FileInfo → Option FileInfo
  | .error _ => none
  | .ok info => some info

/-! ## `loadConfig`, `parseVersion`, `build` -/

/-- `loadConfig`: the rest of the function once `configFile` is chosen. -/
def loadConfigFile (fs : FileSystem) (configFile : String) (log : Log) : Except GoError Config × Log :=
  match fs.loadFile configFile with
  | .error err => (.error err, log)
  | .ok tomlConfig =>
    (.ok ⟨tomlConfig, "", false⟩, log ++ [.logf .info "Successfully loaded config" []])

/-- `if os.IsExist(err) && info.IsDir() { return nil, ... }`, evaluated as written: the error it
    leaves `loadConfig` with, if any. `info.IsDir()` on the nil `info` of a failed `os.Stat` is a nil
    dereference. -/
def dirCheck (info : Except Errno FileInfo) : Option GoError :=
  if statIsExist info then
    match statInfo info with
    | none => some (.panic nilDereference)
    | some i => if i.isDir then some (.errorf "config file is a directory" []) else none
  else none

/-- **`loadConfig`.** -/
def loadConfig (fs : FileSystem) (config : String) : Except GoError Config × Log :=
  let log : Log := [.logf .info "Loading config: %v" [.str config]]
  let info := fs.stat config
  match dirCheck info with
  | some err => (.error err, log)
  | none =>
    if statIsNotExist info then
      loadConfigFile fs "/dev/null" (log ++ [.logf .info "Config file does not exist, creating new one" []])
    else loadConfigFile fs config log

/-- Go's conversion `int(v)` of an `int64` to an `int` of `intSize` bits. -/
def goInt (intSize : Nat) (v : BitVec 64) : BitVec intSize := v.signExtend intSize

/-- **`(*Config).parseVersion`.** The `-1` returned beside an error is not modelled: the caller reads
    the error first. -/
def Config.parseVersion (intSize : Nat) (c : Config) (useLegacyConfig : Bool) :
    Except GoError (BitVec intSize) :=
  let defaultVersion : BitVec intSize := if useLegacyConfig then 1 else 2
  match c.tree.get "version" with
  | none =>
    match c.tree.keys.length with
    | 0 => .ok defaultVersion
    | _ + 1 => .ok 1
  | some (.int64 v) => .ok (goInt intSize v)
  | some v => .error (.errorf "unsupported type for version field: %v" [.value v])

/-- What `build` returns, the builder as `build` leaves it, and the log. -/
structure BuildRun where
  result : Except GoError Engine
  builder : Builder
  log : Log

/-- `build` from `switch version` on. -/
def selectEngine (intSize : Nat) (config : Config) (version : BitVec intSize) : Except GoError Engine :=
  if version = 1 then .ok (.v1 config)
  else if version = 2 then .ok (.v2 config)
  else .error (.errorf "unsupported config version: %v" [.int version.toInt])

/-- `if b.runtimeType == "" { b.runtimeType = defaultRuntimeType }`. -/
def Builder.setDefaultRuntimeType (b : Builder) : Builder :=
  if b.runtimeType = "" then { b with runtimeType := defaultRuntimeType } else b

/-- **`(*builder).build`**, on a target whose `int` has `intSize` bits. -/
def Builder.build (intSize : Nat) (fs : FileSystem) (b : Builder) : BuildRun :=
  if b.path = "" then ⟨.error (.errorf "config path is empty" []), b, []⟩
  else
    let b := b.setDefaultRuntimeType
    match loadConfig fs b.path with
    | (.error err, log) => ⟨.error (err.wrap "failed to load config: %v"), b, log⟩
    | (.ok config, log) =>
      let config := { config with
        runtimeType := b.runtimeType, useDefaultRuntimeName := !b.useLegacyConfig }
      match config.parseVersion intSize b.useLegacyConfig with
      | .error err => ⟨.error (err.wrap "failed to parse config version: %v"), b, log⟩
      | .ok version => ⟨selectEngine intSize config version, b, log⟩

end ContainerToolkit.Containerd
