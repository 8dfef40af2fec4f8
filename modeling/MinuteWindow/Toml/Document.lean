import MinuteWindow.Toml.Scalar
/-! A TOML document as a tree of tables.

`Toml.read` runs the lexer and the parser, reports the first problem with the document's shape
if there is one, and otherwise builds the tree line by line, reporting the first problem with a
key, a value or a table. Within a line the key is read first (a key of more than 80 parts is
refused outright), then the value, then the pair is placed.

The builder fills one table at a time: the pairs before the first header, then the table of
each header, which is put in its place when the next header comes or the document ends. A
header `[a.b]` is checked when it comes: the path to it is walked, making implicit tables where
keys are missing, and at its key it may take over an implicit table made by an earlier header's
path, but nothing else. A header `[[a.b]]` adds a table to the array of tables `a.b`, and is
checked only when that table is put in place. A dotted key `x.y = v` walks or makes dotted tables
`x` within the table being filled, and the table it ends at must be a dotted one. No key walks
through a value, an array or an inline table, and a dotted key not through a table that a header
defined. A key given twice is a duplicate. Each node keeps its span: a header for the table it
defines, the key for a table made on the way. -/
namespace MinuteWindow.Toml

/-- How a table came to be. -/
inductive Origin where
  /-- on the path of a header -/
  | implicit
  /-- by its own header -/
  | header
  /-- by a dotted key -/
  | dotted
  /-- written inline -/
  | inline
  deriving DecidableEq, Repr

/-- A node of the document tree. -/
inductive Node where
  | scalar (v : Scalar) (span : Span)
  | array (items : List Node) (span : Span)
  | table (entries : List (String × Node)) (origin : Origin) (span : Span)
  /-- an array of tables, in order -/
  | tables (items : List Node) (span : Span)
  deriving Repr

/-- The span of a node. -/
def Node.span : Node → Span
  | .scalar _ s | .array _ s | .table _ _ s | .tables _ s => s

/-- The entry of a key. -/
def lookup (entries : List (String × Node)) (k : String) : Option Node :=
  (entries.find? (·.1 == k)).map (·.2)

/-- Replaces the entry of a key. -/
def replaceEntry (entries : List (String × Node)) (k : String) (n : Node) :
    List (String × Node) :=
  entries.map fun e => if e.1 == k then (k, n) else e

/-- A duplicate key. -/
def duplicate (s : Span) : Problem := .plain "duplicate key" s

/-- A document refused: a problem at a place in it, or a key of too many parts. -/
inductive Refusal where
  | problem (p : Problem)
  | keyTooDeep
  deriving DecidableEq, Repr

/-- The text of a refusal of a document. -/
def Refusal.render (r : Refusal) (source : String) : String :=
  match r with
  | .problem p => p.render source
  | .keyTooDeep => "recursion limit\n"

/-- The entries of a table, in the order written. -/
abbrev Entries := List (String × Node)

/-- The name of a node's kind in messages. -/
def Node.typeName : Node → String
  | .scalar (.string _) _ => "string"
  | .scalar (.integer _) _ => "integer"
  | .scalar (.float _) _ => "float"
  | .scalar (.boolean _) _ => "boolean"
  | .scalar (.datetime _) _ => "datetime"
  | .array .. | .tables .. => "array"
  | .table _ .inline _ => "inline table"
  | .table .. => "table"

/-- A node that a key cannot walk through. -/
def cannotExtend (n : Node) (s : Span) : Problem :=
  .plain ("cannot extend value of type " ++ n.typeName ++ " with a dotted key") s

/-- Walks down a path of keys from a table of some origin, applies `f` to the table at its end
and gives back the changed entries with what `f` gives. A missing key gets a new table, dotted
on the path of a dotted key and implicit on the path of a header; an array of tables is walked
through its latest table. No key walks through a value, an array or an inline table, and a dotted
key not through a table that a header defined. -/
def descend {α : Type} (dotted : Bool)
    (f : Origin → Entries → Except Problem (Entries × α)) :
    Entries → Origin → List (String × Span) → Except Problem (Entries × α)
  | es, o, [] => f o es
  | es, _, (k, s) :: rest =>
    match lookup es k with
    | none => do
      let made : Origin := if dotted then .dotted else .implicit
      let (child, a) ← descend dotted f [] made rest
      return (es ++ [(k, .table child made s)], a)
    | some n@(.tables items sp) =>
      match items.getLast? with
      | some (.table ces co csp) => do
        let (ces', a) ← descend dotted f ces co rest
        return (replaceEntry es k (.tables (items.dropLast ++ [.table ces' co csp]) sp), a)
      | _ => .error (cannotExtend n s)
    | some n@(.table ces co csp) =>
      if co == .inline then .error (cannotExtend n s)
      else if dotted && co == .header then .error (duplicate s)
      else do
        let (ces', a) ← descend dotted f ces co rest
        return (replaceEntry es k (.table ces' co csp), a)
    | some n => .error (cannotExtend n s)

/-- Places a value at a key, given as its path and its last part, in a table of some origin.
The path is walked as a dotted key; the table it ends at must be a dotted one exactly when there
is a path, and the last part must be new there. -/
def placePair (path : List (String × Span)) (key : String × Span) (v : Node) (es : Entries)
    (o : Origin) : Except Problem Entries :=
  (·.1) <$> descend true (fun o es =>
    if (o == .dotted) == path.isEmpty then .error (duplicate key.2)
    else match lookup es key.1 with
      | some _ => .error (duplicate key.2)
      | none => .ok (es ++ [(key.1, v)], ())) es o path

/-- A key's path (all its parts but the last) and its last part. -/
def splitKey (key : List (String × Span)) : List (String × Span) × (String × Span) :=
  (key.dropLast, key.getLast?.getD ("", ⟨0, 0⟩))

/-- Keys of more parts than this are refused. -/
def maxKeyParts : Nat := 80

/-- Reads the parts of a key, with their spans. -/
def readKey (parts : List KeyPart) : Except Refusal (List (String × Span)) := do
  let key ← (parts.mapM fun (p : KeyPart) => do return (← p.read, p.span)).mapError
    Refusal.problem
  if maxKeyParts < key.length then throw .keyTooDeep
  return key

mutual

/-- Reads a written value into a node. -/
def Raw.read : Raw → Except Refusal Node
  | .scalar text kind span => do
    return .scalar (← (readScalar text kind span).mapError .problem) span
  | .array items span => do return .array (← readItems items) span
  | .inlineTable entries span => do return .table (← readEntries entries []) .inline span

/-- Reads the items of an array. -/
def readItems : List Raw → Except Refusal (List Node)
  | [] => .ok []
  | r :: rest => do
    let n ← r.read
    return n :: (← readItems rest)

/-- Reads the pairs of an inline table, placing them one by one. -/
def readEntries : List (List KeyPart × Raw) → Entries → Except Refusal Entries
  | [], acc => .ok acc
  | (k, r) :: rest, acc => do
    let key ← readKey k
    let v ← r.read
    let (path, last) := splitKey key
    readEntries rest (← (placePair path last v acc .inline).mapError .problem)

end

/-- A table header as the builder keeps it: the path to its table, its last key part, whether it
adds to an array of tables, and its span. -/
structure Header where
  path : List (String × Span)
  key : String × Span
  array : Bool
  span : Span

/-- The builder's state: the root table, the table being filled, and the header it belongs to
(none before the first header). -/
structure Builder where
  root : Entries
  current : Entries
  header : Option Header

/-- Puts the table being filled in its place: the pairs before the first header are the root; a
header's table goes at its key, and a table of an array of tables at the end of its array. -/
def Builder.finish (b : Builder) : Except Problem Builder :=
  match b.header with
  | none => .ok ⟨b.current, [], none⟩
  | some h => do
    let t := Node.table b.current .header h.span
    let (root, _) ← descend false (fun _ es =>
      if h.array then
        match lookup es h.key.1 with
        | none => .ok (es ++ [(h.key.1, .tables [t] h.span)], ())
        | some (.tables items sp) =>
          .ok (replaceEntry es h.key.1 (.tables (items ++ [t]) sp), ())
        | some _ => .error (duplicate h.key.2)
      else .ok (es ++ [(h.key.1, t)], ())) b.root .implicit h.path
    return ⟨root, [], none⟩

/-- Starts the table of a header. A plain header is checked at once: it takes over an implicit
table made on an earlier header's path, and refuses anything else at its key. -/
def Builder.start (b : Builder) (h : Header) : Except Problem Builder :=
  if h.array then .ok ⟨b.root, [], some h⟩
  else do
    let (root, current) ← descend false (fun _ es =>
      match lookup es h.key.1 with
      | none => .ok (es, [])
      | some (.table ces .implicit _) => .ok (es.filter (·.1 != h.key.1), ces)
      | some _ => .error (duplicate h.key.2)) b.root .implicit h.path
    return ⟨root, current, some h⟩

/-- Moves on to a header's table: the table being filled is put in place, then the header's key
is read and its table started. -/
def Builder.enter (b : Builder) (k : List KeyPart) (array : Bool) (span : Span) :
    Except Refusal Builder := do
  let b ← b.finish.mapError .problem
  let (path, last) := splitKey (← readKey k)
  (b.start ⟨path, last, array, span⟩).mapError .problem

/-- Builds the tree from the document's lines. -/
def build : List Line → Builder → Except Refusal Builder
  | [], b => .ok b
  | .keyval k r :: rest, b => do
    let key ← readKey k
    let v ← r.read
    let (path, last) := splitKey key
    let current ← (placePair path last v b.current .header).mapError .problem
    build rest { b with current }
  | .table k span :: rest, b => do build rest (← b.enter k false span)
  | .arrayTable k span :: rest, b => do build rest (← b.enter k true span)

/-- Reads a TOML document into its root table's entries, or why it is refused. -/
def read (source : String) : Except Refusal Entries := do
  let ls ← (parseTokens (lex source)).mapError .problem
  let b ← build ls.toList ⟨[], [], none⟩
  return (← b.finish.mapError .problem).root

end MinuteWindow.Toml
