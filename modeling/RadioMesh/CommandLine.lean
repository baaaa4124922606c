import RadioMesh.Config.Basic

/-!
Command lines of the bridge: which arguments there are, and what a configuration looks like on a terminal.
-/

namespace RadioMesh

/-! ### Arguments -/

/-- What a command line asks for. -/
structure Invocation where
  /-- Where the configuration is, if not at the usual place. -/
  path : Option String := none
  verbose : Bool := false
  generate : Bool := false
  help : Bool := false
deriving DecidableEq, Repr

inductive UsageError
  | unexpected (argument : String)
  | noValue (option : String)
deriving DecidableEq, Repr

def UsageError.message : UsageError → String
  | .unexpected argument => s!"error: unexpected argument '{argument}' found"
  | .noValue option => s!"error: a value is required for '{option}' but none was supplied"

namespace Invocation

def usage : String :=
  "Mesh radio chat bridge\n\nUsage: radiomesh [OPTIONS]\n\nOptions:\n" ++
  "  -c, --config <PATH>    Config file (defaults to ~/.radiomesh/radiomesh.toml)\n" ++
  "  -v, --verbose          Show each channel\n" ++
  "      --generate-config  Write a default config file and exit\n" ++
  "  -h, --help             Print help\n"

/-- Adds arguments; of two paths the last one counts. -/
def read (i : Invocation) : List String → Except UsageError Invocation
  | [] => .ok i
  | argument :: rest =>
    match argument with
    | "-v" | "--verbose" => { i with verbose := true }.read rest
    | "--generate-config" => { i with generate := true }.read rest
    | "-h" | "--help" => { i with help := true }.read rest
    | "-c" | "--config" =>
      match rest with
      | [] => .error (.noValue argument)
      | path :: rest => { i with path := some path }.read rest
    | _ =>
      match argument.splitOn "=" with
      | "--config" :: part :: parts => { i with path := some (String.intercalate "=" (part :: parts)) }.read rest
      | _ => .error (.unexpected argument)

def ofArguments (arguments : List String) : Except UsageError Invocation :=
  read {} arguments

/-- The configuration's place, for a user with this home directory. -/
def place (i : Invocation) (home : Option String) : String :=
  i.path.getD (home.getD "." ++ "/.radiomesh/radiomesh.toml")

end Invocation

/-! ### Places of files -/

/-- The directory that holds a file, if the file's name tells one. -/
def directoryOf? (path : String) : Option String :=
  match (path.splitOn "/").dropLast with
  | [] => none
  | [""] => some "/"
  | parts => some (String.intercalate "/" parts)

/-! ### Summaries -/

def channelLine (d : ChannelDef) : String :=
  s!"  {d.name}: hash {d.hash}"

/-- The node of a configuration, and its channels where they are asked for. -/
def Config.summary (c : Config) (verbose : Bool) : List String :=
  let channels := match c.channelDefs with
    | .ok ds => if verbose then ds.map channelLine else []
    | .error _ => []
  s!"📻 {c.node.longName} ({c.node.id}), channels: {c.mesh.channels.length}" :: channels

end RadioMesh
