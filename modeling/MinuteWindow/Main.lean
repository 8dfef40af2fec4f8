import MinuteWindow.Cli.Run
import MinuteWindow.Json.Writer
/-! The command line.

It gathers what a run reads, hands it to `Cli.run` and writes what the run says. The run reads
the environment variables it knows and those the environment file names, the environment file,
the configuration file it is pointed to and the default one, and standard input to its end. The
end of standard input stands for the interrupt that shuts the service down. -/
namespace MinuteWindow.Cli
open Config

/-- The environment variables the run reads by itself. -/
def knownVariables : List String :=
  ["ANALYTICS_CONFIG_PATH", "ANALYTICS_WINDOW_MINUTES", "ANALYTICS_BIND", "ANALYTICS_SOURCE",
    "ANALYTICS_TCP_ADDR", "LOG_FORMAT", "RUST_LOG"]

/-- The words of a text that may name a variable. -/
def variableWords (text : String) : List String :=
  ((text.toList.splitBy fun a b => inKey a == inKey b).filter fun w =>
    w.head?.any startsKey && w.all inKey).map String.ofList

/-- What a path holds on disk. -/
inductive Found where
  | file (content : String)
  | directory
  | nothing

/-- Reads a path from disk. -/
def readPath (path : String) : IO Found := do
  try
    return .file (← IO.FS.readFile path)
  catch
    | .inappropriateType .. => return .directory
    | _ => return .nothing

/-- Adds what a path holds to a tree of files. -/
def Files.add (fs : Files) (path : String) : Found → Files
  | .file content => { fs with entries := fs.entries ++ [(path, content)] }
  | .directory => { fs with directories := fs.directories ++ [path] }
  | .nothing => fs

/-- Reads standard input to its end. -/
partial def readInput (stream : IO.FS.Stream) (acc : ByteArray) : IO ByteArray := do
  let chunk ← stream.read 65536
  if chunk.isEmpty then return acc else readInput stream (acc ++ chunk)

/-- The text of a log line. -/
def LogLine.render : LogLine → String
  | .compact line => line
  | .json record => record.render

end MinuteWindow.Cli

open MinuteWindow MinuteWindow.Cli MinuteWindow.Config in
/-- Runs the service once, shutting it down when standard input ends. -/
def main : IO UInt32 := do
  let dotEnv ← readPath ".env"
  let names := knownVariables ++ match dotEnv with
    | .file text => variableWords text
    | _ => []
  let env ← names.eraseDups.filterMapM fun name => do
    return (← IO.getEnv name).map (name, ·)
  let files := Files.add ⟨[], []⟩ ".env" dotEnv
  let loaded := match dotEnv with
    | .file text => loadEnvFile text env
    | _ => env
  let paths := (envValue? loaded "ANALYTICS_CONFIG_PATH").toList ++ [defaultPath]
  let files ← paths.foldlM (fun fs p => do return Files.add fs p (← readPath p)) files
  let input ← readInput (← IO.getStdin) ByteArray.empty
  let outcome := run ⟨env, files, input.toList, true⟩
  let out ← IO.getStdout
  for line in outcome.lines do
    out.putStrLn line.render
  out.flush
  let err ← IO.getStderr
  err.putStr outcome.report
  err.flush
  return UInt32.ofNat (outcome.exitCode.getD 0)
