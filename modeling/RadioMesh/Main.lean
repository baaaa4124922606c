import RadioMesh.CommandLine
import RadioMesh.Config.Save

/-!
The bridge's command: it writes a default configuration, or reads one and shows what it sets up.
-/

namespace RadioMesh

/-- The file's text, if there is such a file. -/
def stored? (path : String) : IO (Option String) :=
  try
    some <$> IO.FS.readFile path
  catch
    | .noFileOrDirectory .. => return none
    | e => throw e

def store (path text : String) : IO Unit := do
  if let some directory := directoryOf? path then IO.FS.createDirAll directory
  IO.FS.writeFile path text

/-- Words from the machine's source of randomness; all that are not drawn are zero. -/
def drawWords (count : Nat) : IO (Nat → UInt32) := do
  let bytes ← IO.getRandomBytes (USize.ofNat (4 * count))
  return fun i =>
    match bytes.toList.drop (4 * i) with
    | a :: b :: c :: d :: _ => Bytes.word32 a b c d
    | _ => 0

def generate (path : String) : IO Unit := do
  let words ← drawWords 1
  store path (Config.ofWord (words 0)).text
  IO.println s!"✅ Generated default config at: {path}"

/-- The configuration at a place, where a new one is put if there is none. -/
def configure (path : String) : IO (Except ConfigError Config) := do
  let found ← stored? path
  match Config.loadOrCreate found (← drawWords 9) with
  | .error e => return .error e
  | .ok (c, text) =>
    if found.isNone then store path text
    return .ok c

def perform (i : Invocation) (path : String) : IO UInt32 := do
  if i.generate then
    generate path
    return 0
  match ← configure path with
  | .error e =>
    IO.eprintln s!"❌ Failed to load config: {e.message}"
    return 1
  | .ok c =>
    IO.println s!"✓ Loaded configuration from {path}"
    (c.summary i.verbose).forM IO.println
    return 0

end RadioMesh

def main (arguments : List String) : IO UInt32 := do
  match RadioMesh.Invocation.ofArguments arguments with
  | .error e =>
    IO.eprintln e.message
    return 2
  | .ok i =>
    if i.help then
      IO.print RadioMesh.Invocation.usage
      return 0
    RadioMesh.perform i (i.place (← IO.getEnv "HOME"))
