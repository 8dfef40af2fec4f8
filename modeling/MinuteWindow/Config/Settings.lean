import MinuteWindow.Toml.Document
import MinuteWindow.Text.Blank
import MinuteWindow.Text.Quote
/-! The service's settings and how a configuration document sets them.

Six settings, each with a default: the window in minutes (3), the HTTP address
(`127.0.0.1:5000`), the capacity of the event queue (10000), where events come from (`stdin`),
the TCP address for events (`127.0.0.1:9092`) and whether metrics are served (`true`).

A configuration document is TOML. Its top-level keys are read in sorted order; unknown keys
are ignored, and so are the keys of sub-tables, except that a number in them that no integer
type (up to 128 bits) or float holds stops the reading. A key of the wrong kind stops the reading
with a message in the usual words (`invalid type: string "x", expected u32`), pointed at the
value.
The source is one of the words `stdin`, `tcp`, `none`, or a table holding one of them as its
only key with an empty value.

Settings are valid when the window and the capacity are at least 1, checked in that order.
Overrides from the environment can replace the window (a decimal number), the two addresses
(trimmed) and the source (trimmed, in any case). -/
namespace MinuteWindow.Config
open Toml

/-- Where events come from. -/
inductive SourceKind where
  /-- newline-delimited JSON on standard input -/
  | stdin
  /-- newline-delimited JSON over TCP connections -/
  | tcp
  /-- only events posted over HTTP -/
  | posted
  deriving DecidableEq, Repr

/-- The name of a source kind in configuration. -/
def SourceKind.name : SourceKind → String
  | .stdin => "stdin"
  | .tcp => "tcp"
  | .posted => "none"

/-- The name of a source kind in a settings dump. -/
def SourceKind.label : SourceKind → String
  | .stdin => "Stdin"
  | .tcp => "Tcp"
  | .posted => "None"

/-- The source kind of a configuration word. -/
def SourceKind.ofName? : String → Option SourceKind
  | "stdin" => some .stdin
  | "tcp" => some .tcp
  | "none" => some .posted
  | _ => none

/-- Reads a source kind from free text: trimmed and in any case of ASCII letters. -/
def SourceKind.parse (s : String) : Except String SourceKind :=
  let word := (Text.trimString s).map Char.toLower
  match SourceKind.ofName? word with
  | some k => .ok k
  | none => .error ("unknown source kind: " ++ word)

/-- The service's settings. -/
structure Settings where
  windowMinutes : Nat
  bindAddr : String
  channelCapacity : Nat
  source : SourceKind
  tcpAddr : String
  metrics : Bool
  deriving DecidableEq, Repr

/-- The defaults. -/
def Settings.defaults : Settings :=
  ⟨3, "127.0.0.1:5000", 10000, .stdin, "127.0.0.1:9092", true⟩

/-- The settings as a dump shows them. -/
def Settings.dump (s : Settings) : String :=
  "AppConfig \x7b window_minutes: " ++ Text.decimal s.windowMinutes ++
  ", bind_addr: " ++ Text.quoteLiteral s.bindAddr ++
  ", channel_capacity: " ++ Text.decimal s.channelCapacity ++
  ", source: " ++ s.source.label ++
  ", tcp_addr: " ++ Text.quoteLiteral s.tcpAddr ++
  ", metrics: " ++ (if s.metrics then "true" else "false") ++ " \x7d"

/-- The first rule the settings break, if any. -/
def Settings.validate (s : Settings) : Except String Settings :=
  if s.windowMinutes = 0 then .error "window_minutes must be at least 1"
  else if s.channelCapacity = 0 then .error "channel_capacity must be at least 1"
  else .ok s

/-- Whether an integer fits a signed integer type of `bits` bits. -/
def fitsSigned (bits : Nat) (i : Int) : Bool :=
  -Int.pow 2 (bits - 1) ≤ i && i < Int.pow 2 (bits - 1)

/-- Whether an integer fits an unsigned integer type of `bits` bits. -/
def fitsUnsigned (bits : Nat) (i : Int) : Bool := 0 ≤ i && i < Int.pow 2 bits

/-- The words for an integer of the wrong kind: plain when a 64-bit type holds it, else with
the 128-bit type that does. -/
def describeInteger (i : Int) : String :=
  let text := "integer `" ++ Text.decimalInt i ++ "`"
  if fitsSigned 64 i || fitsUnsigned 64 i then text
  else if fitsSigned 128 i then text ++ " as i128"
  else text ++ " as u128"

/-- The message for a number that no integer or float type holds: reading it fails whatever
is expected of it. -/
def scalarOverflow? : Scalar → Option String
  | .integer none => some "integer number overflowed"
  | .integer (some i) =>
    if fitsSigned 128 i || fitsUnsigned 128 i then none else some "integer number overflowed"
  | .float none => some "floating-point number overflowed"
  | _ => none

/-- How a node is named when it is of the wrong kind. -/
def describeNode : Node → String
  | .scalar (.string s) _ => "string " ++ Text.quoteLiteral s
  | .scalar (.integer i) _ => describeInteger (i.getD 0)
  | .scalar (.float x) _ => "floating point `" ++ Decimal.displayText (x.getD ⟨0⟩) ++ "`"
  | .scalar (.boolean b) _ => "boolean `" ++ (if b then "true" else "false") ++ "`"
  | .scalar (.datetime _) _ => "map"
  | .array .. | .tables .. => "sequence"
  | .table .. => "map"

/-- The kind of a node, in words. -/
def kindName : Node → String
  | .scalar (.string _) _ => "string"
  | .scalar (.integer _) _ => "integer"
  | .scalar (.float _) _ => "float"
  | .scalar (.boolean _) _ => "boolean"
  | .scalar (.datetime _) _ => "datetime"
  | .array .. | .tables .. => "array"
  | .table .. => "table"

/-- A setting that could not be read: the message and the span it points at. -/
abbrev Misread := String × Span

/-- A wrong kind of node; a number that overflows says so instead. -/
def wrongKind (n : Node) (expected : String) : Misread :=
  match n with
  | .scalar v s =>
    match scalarOverflow? v with
    | some msg => (msg, s)
    | none => ("invalid type: " ++ describeNode n ++ ", expected " ++ expected, s)
  | _ => ("invalid type: " ++ describeNode n ++ ", expected " ++ expected, n.span)

/-- Reads an unsigned integer of `bits` bits, named `name` in messages. An integer that a 64-bit
type holds but this one does not is an invalid value; a larger one is of the wrong kind. -/
def readUnsigned (bits : Nat) (name : String) : Node → Except Misread Nat
  | n@(.scalar (.integer (some i)) s) =>
    if fitsUnsigned bits i then .ok i.toNat
    else if fitsSigned 64 i || fitsUnsigned 64 i then
      .error ("invalid value: integer `" ++ Text.decimalInt i ++ "`, expected " ++ name, s)
    else .error (wrongKind n name)
  | n => .error (wrongKind n name)

mutual

/-- The first number in a node that no integer or float type holds, as reading the node
without keeping it finds it: array items in order, table entries in the order of their keys. -/
def nodeOverflow? : Node → Option Misread
  | .scalar v s => (scalarOverflow? v).map (·, s)
  | .array items _ => itemsOverflow? items
  | .tables items _ => itemsOverflow? items
  | .table entries _ _ => (entriesOverflow? entries).map (·.2)

/-- The first overflowing number among nodes in order. -/
def itemsOverflow? : List Node → Option Misread
  | [] => none
  | n :: rest =>
    match nodeOverflow? n with
    | some m => some m
    | none => itemsOverflow? rest

/-- The first overflowing number among table entries, by the order of their keys, with the key
it is under. -/
def entriesOverflow? : List (String × Node) → Option (String × Misread)
  | [] => none
  | (k, n) :: rest =>
    match nodeOverflow? n, entriesOverflow? rest with
    | some m, some (k2, m2) => if k2 < k then some (k2, m2) else some (k, m)
    | some m, none => some (k, m)
    | none, later => later

end

/-- Reads a string. -/
def readString : Node → Except Misread String
  | .scalar (.string s) _ => .ok s
  | n => .error (wrongKind n "a string")

/-- Reads a boolean. -/
def readBool : Node → Except Misread Bool
  | .scalar (.boolean b) _ => .ok b
  | n => .error (wrongKind n "a boolean")

/-- The message for a word that names no source kind. -/
def unknownVariant (word : String) : String :=
  "unknown variant `" ++ word ++ "`, expected one of `stdin`, `tcp`, `none`"

/-- Reads a source kind: a word, or a table with one key and an empty value. -/
def readSource : Node → Except Misread SourceKind
  | .scalar (.string w) s =>
    match SourceKind.ofName? w with
    | some k => .ok k
    | none => .error (unknownVariant w, s)
  | .table [] _ s => .error ("wanted exactly 1 element, found 0 elements", s)
  | .table [(w, v)] _ s =>
    match SourceKind.ofName? w with
    | none => .error (unknownVariant w, s)
    | some k =>
      match v with
      | .table [] _ _ | .array [] _ | .tables [] _ => .ok k
      | .table _ _ vs => .error ("expected empty table", vs)
      | .array _ vs | .tables _ vs => .error ("expected empty array", vs)
      | other => .error ("expected table, found " ++ kindName other, other.span)
  | .table _ _ s => .error ("wanted exactly 1 element, more than 1 element", s)
  | n => .error ("wanted string or table", n.span)

/-- Sets one setting from a top-level key; other keys leave the settings as they are, unless
they hold a number that overflows. -/
def Settings.setKey (s : Settings) (key : String) (n : Node) : Except Misread Settings :=
  match key with
  | "window_minutes" => do return { s with windowMinutes := ← readUnsigned 32 "u32" n }
  | "bind_addr" => do return { s with bindAddr := ← readString n }
  | "channel_capacity" => do return { s with channelCapacity := ← readUnsigned 64 "usize" n }
  | "source" => do return { s with source := ← readSource n }
  | "tcp_addr" => do return { s with tcpAddr := ← readString n }
  | "metrics" => do return { s with metrics := ← readBool n }
  | _ =>
    match nodeOverflow? n with
    | some m => .error m
    | none => .ok s

/-- Inserts a key into a list sorted by key. -/
def insertSorted (e : String × Node) : List (String × Node) → List (String × Node)
  | [] => [e]
  | x :: xs => if e.1 < x.1 then e :: x :: xs else x :: insertSorted e xs

/-- The settings of a document's top-level entries, read in sorted order of keys. -/
def Settings.ofEntries (entries : List (String × Node)) : Except Misread Settings :=
  (entries.foldr insertSorted []).foldlM (fun s (k, n) => s.setKey k n) Settings.defaults

/-- Reads settings from a configuration document, or the diagnostic that says why not. -/
def Settings.ofToml (source : String) : Except String Settings :=
  match Toml.read source with
  | .error p => .error (p.render source)
  | .ok entries =>
    match Settings.ofEntries entries with
    | .ok s => .ok s
    | .error (msg, span) => .error ((Problem.plain msg span).render source)

/-- Reads a window size the way overrides give it: an optional `+` and decimal digits, at most
`2^32 - 1`. -/
def parseWindow (s : String) : Except String Nat :=
  let digits := match s.toList with
    | ['+'] => ['+']
    | '+' :: rest => rest
    | cs => cs
  if s.isEmpty then .error "cannot parse integer from empty string"
  else digits.foldlM (fun acc c =>
      if c.isDigit then
        let v := acc * 10 + (c.toNat - '0'.toNat)
        if v < Nat.pow 2 32 then .ok v else .error "number too large to fit in target type"
      else .error "invalid digit found in string") 0

end MinuteWindow.Config
