import ContainerToolkit.Go.TomlPath

/-!
# `ContainerToolkit.Go.Runtime` — errors and log lines, kept as the calls that make them

The modelled functions return Go `error` values built with `fmt.Errorf` and write log lines through a
logrus logger. Both are modelled as the call that produced them (format string and operands), not as
rendered text: a lemma can then say which step an error names, or that a warning lists the devices it
drops, without a model of `fmt`. Collaborators' errors are opaque (`external`).

A Go panic is not a returned error, but it leaves the function at once and passes every
`return fmt.Errorf("...: %v", err)` of its callers unwrapped. `GoError.panic` together with
`GoError.wrap` keeps exactly that: wrapping is the identity on a panic.

A run's log is the list of its lines in order (`Log`).
-/

namespace ContainerToolkit

/-- An operand of a `fmt` verb. -/
inductive Arg where
  | str (s : String)
  | strs (l : List String)
  | int (i : Int)
  | value (v : Toml.Value)

/-- A Go `error` value, or a panic unwinding through the call. -/
inductive GoError where
  /-- An error a collaborator returned, by its `Error()` text. -/
  | external (text : String)
  /-- `fmt.Errorf(format, args...)` with no error operand. -/
  | errorf (format : String) (args : List Arg)
  /-- `fmt.Errorf(format, err)`: another error wrapped with `%v`. -/
  | wrapf (format : String) (err : GoError)
  /-- A runtime panic, with its message. -/
  | panic (msg : String)

/-- `return nil, fmt.Errorf(format, err)`: a panic unwinds past the return unchanged. -/
def GoError.wrap (format : String) : GoError → GoError
  | .panic msg => .panic msg
  | .external text => .wrapf format (.external text)
  | .errorf f args => .wrapf format (.errorf f args)
  | .wrapf f err => .wrapf format (.wrapf f err)

/-- The message of the panic Go raises on a method call through a nil interface value. -/
def nilDereference : String := "runtime error: invalid memory address or nil pointer dereference"

/-- logrus levels the modelled code logs at. -/
inductive Level where
  | debug
  | info
  | warning
  deriving DecidableEq, Repr

/-- One logger call: `logger.Debugf(format, args...)` and the like. -/
inductive LogEntry where
  | logf (level : Level) (format : String) (args : List Arg)
  /-- A call whose single operand is an error. -/
  | logErr (level : Level) (format : String) (err : GoError)

/-- The lines a run wrote, in order. -/
abbrev Log := List LogEntry

end ContainerToolkit
