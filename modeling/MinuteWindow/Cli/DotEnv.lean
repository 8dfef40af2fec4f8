import MinuteWindow.Config.Load
import MinuteWindow.Text.Alphanumeric
/-! Environment files: `KEY=value` lines that fill in environment variables.

A byte order mark at the start is skipped. The text is then cut into logical lines by a scanner
that follows quotes and escapes: a logical line runs over physical lines while a quote or an
escape is open, and ends at a line feed only when the scanner is at rest; a `#` after a blank
cuts the line there. Text that begins with `#` after blanks is a comment line. Text left over at
the end in any other state is an error: an open quote, a pending escape, and also a final blank
with no line feed after it.

A logical line, with blanks trimmed at both ends, is `KEY=value`, optionally after `export `,
with blanks allowed around the `=`. A key starts with an ASCII letter or `_` and goes on with
ASCII letters, digits, `_` and `.`.

In a value, single quotes keep everything as written; double quotes allow the escapes `\\ \' \"
\$ \n` and `\ ` (a space); outside quotes the same escapes work, a blank ends the value (only
blanks and a comment may follow) and `$NAME` or `${NAME}` is replaced by the variable's value
(from the environment first, then from earlier lines of the file, else by nothing). A name is a
run of letters and digits of any script; the character that ends an unbraced name is kept as
written, even a quote. An unclosed quote or brace is an error.

Loading sets each variable that is not set yet, in order, and stops at the first line that is
not well-formed: the lines before it count. -/
namespace MinuteWindow.Cli
open Config

/-- Where the scanner of line ends stands. -/
inductive LineState where
  | complete
  /-- just after a blank outside quotes -/
  | blank
  | escape
  | weakOpen
  | weakOpenEscape
  | strongOpen
  | strongOpenEscape
  /-- a `#` after a blank: the rest of the line is a comment -/
  | comment
  deriving DecidableEq, Repr

/-- One step of the line-end scanner. Outside quotes a blank other than a line end leads to
`blank`, and a `#` right after it starts a comment; a backslash escapes the next character,
inside single quotes too. -/
def LineState.step : LineState → Char → LineState
  | .blank, c =>
    if c == '#' then .comment else if c == '\\' then .escape else if c == '"' then .weakOpen
    else if c == '\'' then .strongOpen else .complete
  | .escape, _ => .complete
  | .complete, c =>
    if Text.isBlank c && c != '\n' && c != '\r' then .blank else if c == '\\' then .escape
    else if c == '"' then .weakOpen else if c == '\'' then .strongOpen else .complete
  | .weakOpen, c => if c == '\\' then .weakOpenEscape else if c == '"' then .complete else .weakOpen
  | .weakOpenEscape, _ => .weakOpen
  | .strongOpen, c =>
    if c == '\\' then .strongOpenEscape else if c == '\'' then .complete else .strongOpen
  | .strongOpenEscape, _ => .strongOpen
  | .comment, _ => .comment

/-- Runs the scanner over one physical line from `s`: the state at its end, or `comment` with
the position of the `#` that starts the comment. -/
def scanLine : LineState → List Char → Nat → LineState × Nat
  | s, [], n => (s, n)
  | s, c :: rest, n =>
    match s.step c with
    | .comment => (.comment, n)
    | s' => scanLine s' rest (n + 1)

/-- Physical lines, each with its line feed. -/
def physicalLines (text : List Char) : List (List Char) :=
  let parts := (text.splitOn '\n')
  let n := parts.length
  (parts.zipIdx.filterMap fun (p, i) =>
    if i + 1 < n then some (p ++ ['\n']) else if p.isEmpty then none else some p)

/-- Drops a final line feed, and then a carriage return before it. -/
def dropLineEnd (cs : List Char) : List Char :=
  if cs.getLast? == some '\n' then
    let cs := cs.dropLast
    if cs.getLast? == some '\r' then cs.dropLast else cs
  else cs

/-- Joins physical lines into logical ones. A logical line ends where the scanner is
`complete`, or where a comment starts (which is cut off); text that begins with `#` after blanks
is an empty line; the text ending in any other state is an error. -/
def logicalLines : List (List Char) → List Char → LineState → List (Except Unit (List Char))
  | [], acc, _ => if acc.isEmpty then [] else [.error ()]
  | l :: rest, acc, s =>
    let buf := acc ++ l
    if (Text.trimStart buf).head? == some '#' then .ok [] :: logicalLines rest [] .complete
    else
      match scanLine s l 0 with
      | (.complete, _) => .ok (dropLineEnd buf) :: logicalLines rest [] .complete
      | (.comment, pos) => .ok (acc ++ l.take pos) :: logicalLines rest [] .complete
      | (s', _) => logicalLines rest buf s'

/-- Whether a character may start a key. -/
def startsKey (c : Char) : Bool := (c.isAlpha && c.toNat < 128) || c == '_'

/-- Whether a character may stand in a key. -/
def inKey (c : Char) : Bool := (c.isAlphanum && c.toNat < 128) || c == '_' || c == '.'

/-- Reads a key at the front. -/
def readKey : List Char → Option (String × List Char)
  | c :: rest =>
    if startsKey c then
      let (k, r) := rest.span inKey
      some (String.ofList (c :: k), r)
    else none
  | [] => none

/-- How `$` names are being read. -/
inductive Substitution where
  | off
  | name
  | braced
  deriving DecidableEq, Repr

/-- Reads a value. `lookup` gives the value of a name. -/
def readValue (lookup : String → String) : List Char → Bool → Bool → Bool → Bool → Substitution →
    List Char → List Char → Option String
  | [], strong, weak, _, _, mode, name, out =>
    if mode == .braced || strong || weak then none
    else some (String.ofList (out ++ (if mode == .name then (lookup (String.ofList name)).toList else [])))
  | c :: rest, strong, weak, escaped, ending, mode, name, out =>
    let go := readValue lookup rest
    if ending then
      if c == ' ' || c == '\t' then go strong weak escaped true mode name out
      else if c == '#' then readValue lookup [] strong weak escaped false mode name out
      else none
    else if escaped then
      if c == '\\' || c == '\'' || c == '"' || c == '$' || c == ' ' then
        go strong weak false false mode name (out ++ [c])
      else if c == 'n' then go strong weak false false mode name (out ++ ['\n'])
      else none
    else if strong then
      if c == '\'' then go false weak false false mode name out
      else go true weak false false mode name (out ++ [c])
    else if mode != .off then
      if Text.isAlphanumeric c then go strong weak false false mode (name ++ [c]) out
      else if mode == .name then
        if c == '\x7b' && name.isEmpty then go strong weak false false .braced name out
        else
          let out := out ++ (lookup (String.ofList name)).toList
          if c == '$' then go strong weak false false .name [] out
          else go strong weak false false .off [] (out ++ [c])
      else if c == '\x7d' then
        go strong weak false false .off [] (out ++ (lookup (String.ofList name)).toList)
      else go strong weak false false mode (name ++ [c]) out
    else if c == '$' then go strong weak false false .name [] out
    else if weak then
      if c == '"' then go strong false false false mode name out
      else if c == '\\' then go strong true true false mode name out
      else go strong true false false mode name (out ++ [c])
    else if c == '\'' then go true weak false false mode name out
    else if c == '"' then go strong true false false mode name out
    else if c == '\\' then go strong weak true false mode name out
    else if c == ' ' || c == '\t' then go strong weak false true mode name out
    else go strong weak false false mode name (out ++ [c])

/-- Reads one logical line: nothing for a blank or comment line, a pair, or an error. -/
def readLine (lookup : String → String) (line : List Char) : Except Unit (Option (String × String)) :=
  let l := Text.trim line
  if l.isEmpty || l.head? == some '#' then .ok none
  else
    match readKey l with
    | none => .error ()
    | some (key, r) =>
      let r := Text.trimStart r
      let afterEq : Option (String × List Char) :=
        match r with
        | '=' :: r' => some (key, r')
        | _ =>
          if key == "export" then
            match readKey r with
            | some (k2, r2) =>
              match Text.trimStart r2 with
              | '=' :: r3 => some (k2, r3)
              | _ => none
            | none => none
          else none
      match afterEq with
      | none => .error ()
      | some (k, rest) =>
        let v := Text.trimStart rest
        if v.isEmpty || v.head? == some '#' then .ok (some (k, ""))
        else match readValue lookup v false false false false .off [] [] with
          | some s => .ok (some (k, s))
          | none => .error ()

/-- Sets a variable unless it is set. -/
def setIfUnset (env : Env) (k v : String) : Env :=
  if (envValue? env k).isSome then env else env ++ [(k, v)]

/-- Loads lines in order into the environment; `file` holds the values the file gave so far. -/
def loadLines : List (Except Unit (List Char)) → Env → Env → Env
  | [], env, _ => env
  | .error () :: _, env, _ => env
  | .ok line :: rest, env, file =>
    let lookup (name : String) : String :=
      match envValue? env name with
      | some v => v
      | none => (envValue? file name).getD ""
    match readLine lookup line with
    | .error () => env
    | .ok none => loadLines rest env file
    | .ok (some (k, v)) => loadLines rest (setIfUnset env k v) ((k, v) :: file)

/-- The environment after loading an environment file's text. -/
def loadEnvFile (text : String) (env : Env) : Env :=
  let cs := match text.toList with
    | '\uFEFF' :: rest => rest
    | cs => cs
  loadLines (logicalLines (physicalLines cs) [] .complete) env []

end MinuteWindow.Cli
