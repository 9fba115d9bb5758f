import AuthGate.CommandLine

/-! The program. It starts as its arguments and configuration say and stops when its input ends. -/
namespace AuthGate

/-- The entry of a path on this machine. -/
def readEntry (path : String) : IO FileEntry := do
  try
    return .document (← IO.FS.readBinFile path).toList
  catch
    | .noFileOrDirectory .. => return .missing
    | _ => return .directory

/-- The paths that a run looks at: that of the configuration, and those that it names. -/
def pathsOf (surroundings : Surroundings) (arguments : List String) : IO (List String) := do
  match Invocation.parse surroundings arguments with
  | .help | .misuse => return []
  | .run path =>
    match (← readEntry path).loadConfig with
    | .error _ => return [path]
    | .ok config =>
      return path :: (config.listener.tls.map fun tls => [tls.certPath, tls.keyPath]).getD []

def readFiles (paths : List String) : IO Files := do
  let entries ← paths.mapM fun path => return (path, ← readEntry path)
  return fun path => (entries.lookup path).getD .missing

/-- Wait until the input ends. -/
partial def awaitEnd (input : IO.FS.Stream) : IO Unit := do
  unless (← input.getLine).isEmpty do awaitEnd input

end AuthGate

open AuthGate in
def main (arguments : List String) : IO UInt32 := do
  let surroundings : Surroundings :=
    { config := ← IO.getEnv "AUTH_PROXY_CONFIG", logFilter := ← IO.getEnv "RUST_LOG" }
  let files ← readFiles (← pathsOf surroundings arguments)
  let run := Run.ofArguments surroundings { files, chosenPort := "0" } .interrupt arguments
  run.started.forM IO.println
  match run.stopped with
  | none => pure ()
  | some lines =>
    awaitEnd (← IO.getStdin)
    lines.forM IO.println
  match run.error with
  | none => pure ()
  | some cause => IO.eprintln ("Error: " ++ cause.kind)
  return UInt32.ofNat run.exitCode
