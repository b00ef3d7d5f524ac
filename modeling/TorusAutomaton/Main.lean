import TorusAutomaton.Session

/-! The command: it gathers arguments, environment and files, and prints what the session says. -/

open TorusAutomaton

namespace TorusAutomaton.Main

def causeOf : IO.Error → ReadFailure
  | .noFileOrDirectory .. => .notFound
  | .inappropriateType .. => .isDirectory
  | _ => .notDirectory

def readConfig (args : List String) (configPath : Option String) :
    IO (String → Except ReadFailure ByteArray) := do
  match CommandLine.parse args configPath with
  | .ok { config := some path, .. } =>
    let contents ← (IO.FS.readBinFile path).toBaseIO
    return fun _ => contents.mapError causeOf
  | _ => return fun _ => .error .notFound

def run (args : List String) : IO UInt32 := do
  let configPath ← IO.getEnv "STENCIL_CONFIG"
  let logFilter ← IO.getEnv "RUST_LOG"
  let t := Session.run ⟨configPath, logFilter, ← readConfig args configPath⟩ args
  for line in t.stdout do IO.println line
  for line in t.stderr do IO.eprintln line
  return t.exit.toUInt32

end TorusAutomaton.Main

def main (args : List String) : IO UInt32 := TorusAutomaton.Main.run args
