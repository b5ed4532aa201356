import NamedData.Dump.Run

/-!
# The command line

`KIND INPUT` with the options `--hex`, `--json` and `--config FILE` shows the packet in a file, or
in the standard input if `INPUT` is a hyphen or missing. What is written is decided by `Dump.run`;
this module only reads arguments and files.
-/

namespace NamedData.Dump

/-- The arguments of a call. -/
structure Arguments where
  options : Options := {}
  /-- The file with the configuration. -/
  config : Option String := none
  /-- The arguments that are no options, the last first. -/
  operands : List String := []

/-- Reads the arguments in turn. -/
def Arguments.read : Arguments → List String → Except String Arguments
  | arguments, [] => .ok arguments
  | arguments, "--config" :: path :: rest => { arguments with config := some path }.read rest
  | arguments, argument :: rest =>
    if argument = "--hex" then
      { arguments with options := { arguments.options with hex := true } }.read rest
    else if argument = "--json" then
      { arguments with options := { arguments.options with json := true } }.read rest
    else if argument.startsWith "--" then .error s!"unexpected argument '{argument}'"
    else { arguments with operands := argument :: arguments.operands }.read rest

/-- The options that the arguments ask for, and the path of the input. -/
def Arguments.resolve (arguments : Arguments) : Except String (Options × String) := do
  let withKind (kind : String) : Except String Options :=
    if kind = "auto" then .ok arguments.options
    else
      match PacketKind.ofArgument? kind with
      | some kind => .ok { arguments.options with kind := some kind }
      | none => .error s!"invalid value '{kind}' for the kind of packet"
  match arguments.operands with
  | [] => return (arguments.options, "-")
  | [kind] => return (← withKind kind, "-")
  | [input, kind] => return (← withKind kind, input)
  | extra :: _ => throw s!"unexpected argument '{extra}'"

/-- All bytes up to the end of a stream. -/
partial def readAll (stream : IO.FS.Stream) (read : ByteArray) : IO ByteArray := do
  let chunk ← stream.read 65536
  if chunk.isEmpty then return read else readAll stream (read ++ chunk)

/-- The bytes of the input at a path. -/
def readRaw (path : String) : IO Bytes := do
  let bytes ← if path = "-" then readAll (← IO.getStdin) ByteArray.empty else IO.FS.readBinFile path
  return bytes.toList

/-- Does what the options ask for. -/
def perform (options : Options) (config : Option String) (input : String) : IO UInt32 := do
  let config ← config.mapM fun (path : String) => do return (path, ← IO.FS.readFile path)
  let outcome := run { options with config } (← readRaw input)
  IO.print outcome.output
  IO.eprint outcome.errors
  return outcome.exitCode.toUInt32

end NamedData.Dump

/-- Runs the command line. -/
def main (arguments : List String) : IO UInt32 := do
  match (NamedData.Dump.Arguments.read {} arguments).bind fun parsed => do
      return (parsed.config, ← parsed.resolve) with
  | .ok (config, options, input) => NamedData.Dump.perform options config input
  | .error message =>
    IO.eprintln s!"error: {message}"
    return 2
