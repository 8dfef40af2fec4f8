import MinuteWindow.Config.Settings
/-! Where the settings come from: a configuration file, the environment, or the defaults.

Files live in a directory tree given as text files by relative path; a directory exists when
some file lies below it or it is listed as one. A relative path is read from the root of the
tree, component by component: `.` and empty components stay, `..` goes up. Above the root of
the tree lie directories whose other contents are unknown, up to the root of the file system,
where an absolute path starts. The empty path names nothing. Reading a path that names nothing, a
directory, or a file used as a directory fails with the system's words for it.

`loadFrom` reads one file: it must be readable, must be a configuration document, and its
settings must be valid. `loadDefault` reads the file named by `ANALYTICS_CONFIG_PATH`, which
must exist, or else `config/analytics.toml` if it exists, or else takes the defaults; then it
applies the environment's overrides and checks the settings again.

A `Failure` keeps the chain of what went wrong, outermost first: the context a step adds, then
the cause. -/
namespace MinuteWindow.Config

/-- What went wrong, outermost context first. -/
structure Failure where
  chain : List String
  deriving DecidableEq, Repr

/-- A failure with a single message. -/
def Failure.single (m : String) : Failure := ⟨[m]⟩

/-- The failure's messages on one line, joined by `: `. -/
def Failure.flat (f : Failure) : String := ": ".intercalate f.chain

/-- Adds a context around a failure. -/
def Failure.within (context : String) (f : Failure) : Failure := ⟨context :: f.chain⟩

/-- A cause of a report, indented under `Caused by:`. -/
def indentCause (number : Option Nat) (text : String) : String :=
  let lines := text.splitOn "\n"
  let first := match number with
    | some n =>
      let d := Text.decimal n
      String.ofList (List.replicate (5 - d.length) ' ') ++ d ++ ": "
    | none => "    "
  let continuation := if number.isSome then "       " else "    "
  first ++ lines.headD "" ++ String.join (lines.tail.map fun l => "\n" ++ continuation ++ l)

/-- The report of a failure on standard error. -/
def Failure.report (f : Failure) : String :=
  match f.chain with
  | [] => "Error: \n"
  | top :: causes =>
    let numbered := causes.length > 1
    let body := if causes.isEmpty then "" else
      "\n\nCaused by:" ++ String.join (causes.zipIdx.map fun (c, i) =>
        "\n" ++ indentCause (if numbered then some i else none) c)
    "Error: " ++ top ++ body ++ "\n"

/-- Text files of a directory tree, by relative path, and directories known to exist. -/
structure Files where
  entries : List (String × String)
  directories : List String

/-- The parts of a path inside the tree, or none when it leaves the tree. -/
def pathParts (path : String) : Option (List String) :=
  if path.startsWith "/" then none
  else
    (path.splitOn "/").foldlM (fun acc part =>
      if part.isEmpty || part == "." then some acc
      else if part == ".." then (if acc.isEmpty then none else some acc.dropLast)
      else some (acc ++ [part])) []

/-- What a path names. -/
inductive Lookup where
  | file (content : String)
  | directory
  | missing
  /-- a path that goes through a file -/
  | notDirectory
  deriving DecidableEq, Repr

/-- Whether a path names something. -/
def Lookup.exists : Lookup → Bool
  | .file _ | .directory => true
  | .missing | .notDirectory => false

/-- Why reading a path that is not a file fails. -/
def Lookup.readError : Lookup → String
  | .directory => "Is a directory (os error 21)"
  | .notDirectory => "Not a directory (os error 20)"
  | _ => "No such file or directory (os error 2)"

/-- What the normalized path `parts` names in the tree: the root and every proper prefix of a
known path are directories. -/
def Files.node (fs : Files) (parts : List String) : Lookup :=
  let files := fs.entries.filterMap fun (p, content) => (pathParts p).map (·, content)
  let dirs := fs.directories.filterMap pathParts
  if parts.isEmpty then .directory
  else match files.find? (·.1 == parts) with
    | some (_, content) => .file content
    | none =>
      if files.any (fun (p, _) => parts.length < p.length && p.take parts.length == parts) ||
          dirs.any (fun d => parts.length ≤ d.length && d.take parts.length == parts) then
        .directory
      else .missing

/-- Where a walk over path components stands: at a path inside the tree, or outside it, in one
of the directories above its root or at the root of the file system. -/
inductive Place where
  | inside (parts : List String)
  | outside
  deriving DecidableEq, Repr

/-- Walks the components of a path from a place. Inside the tree every component, an empty one
or `.` included, must be entered from a directory: going on from a file is `notDirectory`, from
nothing is `missing`, and `..` at the root leaves the tree. Outside it, `..`, `.` and empty
components stay outside, and any name leads to nothing known. -/
def Files.walk (fs : Files) : Place → List String → Lookup
  | .inside here, [] => fs.node here
  | .outside, [] => .directory
  | .inside here, part :: rest =>
    match fs.node here with
    | .directory =>
      if part.isEmpty || part == "." then fs.walk (.inside here) rest
      else if part == ".." then
        fs.walk (if here.isEmpty then .outside else .inside here.dropLast) rest
      else fs.walk (.inside (here ++ [part])) rest
    | .file _ => .notDirectory
    | other => other
  | .outside, part :: rest =>
    if part.isEmpty || part == "." || part == ".." then fs.walk .outside rest else .missing

/-- What a path names: a relative one from the root of the tree, an absolute one from the root
of the file system; the empty path names nothing. -/
def Files.lookup (fs : Files) (path : String) : Lookup :=
  if path.isEmpty then .missing
  else if path.startsWith "/" then fs.walk .outside (path.splitOn "/")
  else fs.walk (.inside []) (path.splitOn "/")

/-- Environment variables, by name. -/
abbrev Env := List (String × String)

/-- The value of an environment variable. -/
def envValue? (env : Env) (name : String) : Option String :=
  (env.find? (·.1 == name)).map (·.2)

/-- The file read when no path is configured. -/
def defaultPath : String := "config/analytics.toml"

/-- Checks settings, as a failure. -/
def checked (s : Settings) : Except Failure Settings :=
  match s.validate with
  | .ok s => .ok s
  | .error m => .error (.single m)

/-- Reads settings from one configuration file. -/
def loadFrom (fs : Files) (path : String) : Except Failure Settings :=
  match fs.lookup path with
  | .file content =>
    match Settings.ofToml content with
    | .error diagnostic => .error ⟨["parsing " ++ path, diagnostic]⟩
    | .ok s => checked s
  | other => .error ⟨["reading config from " ++ path, other.readError]⟩

/-- Applies the environment's overrides. -/
def applyEnv (s : Settings) (env : Env) : Except Failure Settings := do
  let s ← match envValue? env "ANALYTICS_WINDOW_MINUTES" with
    | some v =>
      match parseWindow (Text.trimString v) with
      | .ok n => pure { s with windowMinutes := n }
      | .error e => throw ⟨["ANALYTICS_WINDOW_MINUTES=" ++ v ++ " is not a number", e]⟩
    | none => pure s
  let s := match envValue? env "ANALYTICS_BIND" with
    | some v => { s with bindAddr := Text.trimString v }
    | none => s
  let s ← match envValue? env "ANALYTICS_SOURCE" with
    | some v =>
      match SourceKind.parse v with
      | .ok k => pure { s with source := k }
      | .error m => throw (.single m)
    | none => pure s
  return match envValue? env "ANALYTICS_TCP_ADDR" with
    | some v => { s with tcpAddr := Text.trimString v }
    | none => s

/-- Reads settings from the configured file, the default file or the defaults, then applies
the environment's overrides. -/
def loadDefault (fs : Files) (env : Env) : Except Failure Settings := do
  let base ← match envValue? env "ANALYTICS_CONFIG_PATH" with
    | some p =>
      if (fs.lookup p).exists then loadFrom fs p
      else throw (.single "ANALYTICS_CONFIG_PATH points to non-existent path")
    | none =>
      if (fs.lookup defaultPath).exists then loadFrom fs defaultPath
      else pure Settings.defaults
  checked (← applyEnv base env)

end MinuteWindow.Config
