import MinuteWindow.Toml.Problem
/-! The shape of a TOML document: its lines as keys, values and table headers.

The parser walks the token list once, with a cursor that remembers the tokens already read. A
line is blank, a comment, a table header `[key]` or `[[key]]`, or a pair `key = value`. Keys are
simple keys (bare atoms or strings) joined by dots, with blanks allowed around the dots. Where a
simple key is missing (a dot with nothing before it, `= 1`, `a. = 1`), an empty bare key stands
at the place it is missing, and reading the key refuses it later.

A value is a string, a bare value, an array `[a, b]` or an inline table `{k = v}`. A bare
value is an atom together with the atoms and dots that follow it, and with a blank and the atom
after it: `3.5`, `1979-05-27 07:32:00`, and also `a b`, which the reader of values refuses
whole. A missing value is an empty atom at the place it is missing. In an inline
table, a key or `=` just before the closing brace gets an empty literal string as its value.

Arrays and inline tables may run over several lines and hold comments, and both allow a comma
after their last element. Inside an inline table a machine tracks what is due next (a key, `=`,
a value or a comma), and a token that does not fit is refused with what was due. At most 80
arrays and inline tables may be open at once.

The first thing that does not fit the grammar stops the parser with a `Problem`. So does, as
soon as the parser reaches it, a comment holding a control character other than tab, or a
carriage return that no line feed follows. Reading the keys and values themselves (escapes,
numbers, dates, duplicate keys) is left to the document builder. -/
namespace MinuteWindow.Toml

/-- A simple key as written: its token text, its kind (an atom or a string) and where. -/
structure KeyPart where
  text : List Char
  kind : TokenKind
  span : Span
  deriving Repr

/-- A value as written. -/
inductive Raw where
  /-- a string or an atom, with its text -/
  | scalar (text : List Char) (kind : TokenKind) (span : Span)
  /-- an array and its items -/
  | array (items : List Raw) (span : Span)
  /-- an inline table and its key-value pairs -/
  | inlineTable (entries : List (List KeyPart × Raw)) (span : Span)
  deriving Repr

/-- The span of a value. -/
def Raw.span : Raw → Span
  | .scalar _ _ s | .array _ s | .inlineTable _ s => s

/-- A line of a document that says something. -/
inductive Line where
  /-- `key = value` -/
  | keyval (key : List KeyPart) (value : Raw)
  /-- `[key]`, with the span of the header -/
  | table (key : List KeyPart) (span : Span)
  /-- `[[key]]`, with the span of the header -/
  | arrayTable (key : List KeyPart) (span : Span)
  deriving Repr

/-- Characters a comment may hold: tab, visible ASCII and everything beyond ASCII. -/
def isCommentChar (c : Char) : Bool :=
  c == '\t' || (0x20 ≤ c.toNat && c.toNat ≤ 0x7E) || c.toNat ≥ 0x80

/-- The byte offset of the first character failing a test. -/
def firstBadOffset (p : Char → Bool) : List Char → Nat → Option Nat
  | [], _ => none
  | c :: rest, off => if p c then firstBadOffset p rest (off + c.utf8Size) else some off

/-- The problem with a comment holding a control character, or with a carriage return that
no line feed follows. -/
def Token.layoutProblem? (t : Token) : Option Problem :=
  match t.kind with
  | .comment =>
    (firstBadOffset isCommentChar t.text 0).map fun off =>
      ⟨"invalid comment character", some [.description "printable characters"],
        ⟨t.span.start + off, t.span.start + off⟩⟩
  | .newline =>
    if t.text == ['\r'] then
      some ⟨"carriage return must be followed by newline", some [.literal "\n"], t.span.after⟩
    else none
  | _ => none

/-- Where the parser stands: the tokens read, the latest first, and the tokens still to read. -/
structure Cursor where
  done : List Token
  rest : List Token

/-- The parser's monad: a cursor, and the first problem found. -/
abbrev Parse := StateT Cursor (Except Problem)

/-- Takes the next token. -/
def nextToken : Parse (Option Token) := do
  let c ← get
  match c.rest with
  | [] => return none
  | t :: r =>
    set ({ done := t :: c.done, rest := r } : Cursor)
    return some t

/-- Steps back over the token read last. -/
def stepBack : Parse Unit :=
  modify fun c => match c.done with
    | t :: d => { done := d, rest := t :: c.rest }
    | [] => c

/-- The next token, left in place. -/
def peekToken : Parse (Option Token) := return (← get).rest.head?

/-- Takes the next token if its kind passes the test. -/
def nextIf (p : TokenKind → Bool) : Parse (Option Token) := do
  match (← get).rest with
  | t :: _ => if p t.kind then nextToken else return none
  | [] => return none

/-- Skips a run of spaces and tabs. -/
def skipBlank : Parse Unit := do
  let _ ← nextIf (· == .whitespace)

/-- Whether a token kind only lays the text out: blanks, comments, line ends and the end. -/
def TokenKind.isLayout : TokenKind → Bool
  | .whitespace | .comment | .newline | .eof => true
  | _ => false

/-- The span of the last token read that is more than layout, or an empty span at the start. -/
def lastContent : Parse Span :=
  return (((← get).done.find? (!·.kind.isLayout)).map (·.span)).getD ⟨0, 0⟩

/-- Stops at the problem of a comment or a line end, if it has one. -/
def checkLayout (t : Token) : Parse Unit :=
  match t.layoutProblem? with
  | some p => throw p
  | none => pure ()

/-- A comment and the line end after it. -/
def comment (t : Token) : Parse Unit := do
  checkLayout t
  match ← nextIf (· == .newline) with
  | some u => checkLayout u
  | none => pure ()

/-- Skips the rest of a line, up to its line end or its comment. -/
def skipRestOfLine : Nat → Parse Unit
  | 0 => pure ()
  | fuel + 1 => do
    match ← nextToken with
    | none => pure ()
    | some t =>
      match t.kind with
      | .newline => checkLayout t
      | .comment => comment t
      | .eof => pure ()
      | _ => skipRestOfLine fuel

/-- After a pair or a header: blanks, then a comment or the line end; anything else is
refused. -/
def endOfLine : Nat → Parse Unit
  | 0 => pure ()
  | fuel + 1 => do
    match ← nextToken with
    | none => pure ()
    | some t =>
      match t.kind with
      | .whitespace => endOfLine fuel
      | .comment => comment t
      | .newline => checkLayout t
      | .eof => pure ()
      | _ =>
        throw ⟨"unexpected key or value", some [.literal "\n", .literal "#"], t.span.before⟩

/-- The simple key of a token. -/
def KeyPart.ofToken (t : Token) : KeyPart := ⟨t.text, t.kind, t.span⟩

/-- An empty bare key where a key is missing, just before a token. -/
def KeyPart.missing (t : Token) : KeyPart := ⟨[], .atom, t.span.before⟩

/-- Reads the rest of a key. After a simple key (`afterDot` false): blanks, and the next part
when a dot follows. After a dot: blanks are skipped, a further dot has an empty part before it,
and a token that cannot start a key is left in place with an empty part before it. Says whether
the key ended well, that is, not on a missing part. -/
def dotted : Nat → Bool → Array KeyPart → Parse (Array KeyPart × Bool)
  | 0, _, parts => return (parts, false)
  | fuel + 1, false, parts => do
    skipBlank
    match ← nextIf (· == .dot) with
    | none => return (parts, true)
    | some _ => dotted fuel true parts
  | fuel + 1, true, parts => do
    match ← nextToken with
    | none => return (parts, false)
    | some t =>
      match t.kind with
      | .whitespace => dotted fuel true parts
      | .dot => dotted fuel true (parts.push (.missing t))
      | k =>
        if k.isKey then dotted fuel false (parts.push (.ofToken t))
        else do
          stepBack
          return (parts.push (.missing t), false)

/-- Glues what follows the first token of a bare value onto it (latest first): atoms and dots,
and a blank when an atom comes right after it. -/
def gluedTokens : Nat → List Token → Parse (List Token)
  | 0, acc => return acc
  | fuel + 1, acc => do
    match (← get).rest with
    | t :: rest =>
      if t.kind == .atom || t.kind == .dot then do
        let _ ← nextToken
        gluedTokens fuel (t :: acc)
      else if t.kind == .whitespace && (rest.head?.map (·.kind)) == some .atom then do
        let _ ← nextToken
        let _ ← nextToken
        gluedTokens fuel (rest.headD t :: t :: acc)
      else return acc
    | [] => return acc

/-- A scalar value from its first token: a string as it is, a bare value glued. -/
def scalar (fuel : Nat) (t : Token) : Parse Raw := do
  if t.kind == .atom || t.kind == .dot then
    let more ← gluedTokens fuel []
    let stop := (more.head?.map (·.span.stop)).getD t.span.stop
    return .scalar (t.text ++ more.reverse.flatMap (·.text)) .atom ⟨t.span.start, stop⟩
  else return .scalar t.text t.kind t.span

/-- Most arrays and inline tables open at once. -/
def maxNesting : Nat := 80

/-- The problem with a container opened past the nesting limit. -/
def tooDeep (opening : Token) : Problem :=
  .plain "cannot recurse further; max recursion depth met" opening.span

/-- What an inline table needs next. -/
inductive Due where
  | key
  | equals
  | value
  | comma
  deriving DecidableEq, Repr

/-- What is expected where something is due. -/
def Due.expected : Due → List Expected
  | .key => [.description "key"]
  | .equals => [.literal "="]
  | .value => [.description "value"]
  | .comma => [.literal ","]

mutual

/-- Reads a value; `depth` arrays and inline tables are open around it. -/
def value : Nat → Nat → Parse Raw
  | 0, _ => return .scalar [] .atom ⟨0, 0⟩
  | fuel + 1, depth => do
    match ← nextToken with
    | none => return .scalar [] .atom ⟨0, 0⟩
    | some t =>
      match t.kind with
      | .comment | .comma | .newline | .eof | .whitespace => do
        stepBack
        return .scalar [] .atom t.span.before
      | .equals => throw ⟨"extra `=`", some [], t.span⟩
      | .openBrace =>
        if maxNesting ≤ depth then throw (tooDeep t)
        else inlineEntries fuel (depth + 1) t #[] #[] .key
      | .closeBrace =>
        throw ⟨"missing inline table opening", some [.literal "\x7b"], t.span.before⟩
      | .openBracket =>
        if maxNesting ≤ depth then throw (tooDeep t)
        else arrayItems fuel (depth + 1) t #[] true
      | .closeBracket => throw ⟨"missing array opening", some [.literal "["], t.span.before⟩
      | _ => scalar fuel t

/-- Reads the items of an array after `[`; `needValue` says whether a value is due (at the start
and after a comma). -/
def arrayItems : Nat → Nat → Token → Array Raw → Bool → Parse Raw
  | 0, _, opening, items, _ => return .array items.toList opening.span
  | fuel + 1, depth, opening, items, needValue => do
    let missingComma (t : Token) : Parse Unit :=
      if needValue then pure ()
      else throw ⟨"missing comma between array elements", some [.literal ","], t.span.before⟩
    match ← nextToken with
    | none => return .array items.toList opening.span
    | some t =>
      match t.kind with
      | .comment => do
        comment t
        arrayItems fuel depth opening items needValue
      | .whitespace => arrayItems fuel depth opening items needValue
      | .newline => do
        checkLayout t
        arrayItems fuel depth opening items needValue
      | .eof => do
        let last ← lastContent
        throw ⟨"unclosed array", some [.literal "]"], last.after⟩
      | .comma =>
        if needValue then throw ⟨"extra comma in array", some [.description "value"], t.span⟩
        else arrayItems fuel depth opening items true
      | .equals =>
        throw ⟨"unexpected `=` in array", some [.description "value", .literal "]"], t.span⟩
      | .closeBracket => return .array items.toList (opening.span.join t.span)
      | .closeBrace => do
        missingComma t
        throw ⟨"missing inline table opening", some [.literal "\x7b"], t.span.before⟩
      | .openBrace => do
        missingComma t
        if maxNesting ≤ depth then throw (tooDeep t)
        let v ← inlineEntries fuel (depth + 1) t #[] #[] .key
        arrayItems fuel depth opening (items.push v) false
      | .openBracket => do
        missingComma t
        if maxNesting ≤ depth then throw (tooDeep t)
        let v ← arrayItems fuel (depth + 1) t #[] true
        arrayItems fuel depth opening (items.push v) false
      | _ => do
        missingComma t
        let v ← scalar fuel t
        arrayItems fuel depth opening (items.push v) false

/-- Reads the pairs of an inline table after `{`; `key` holds the parts of the key being read
and `due` says what comes next. -/
def inlineEntries :
    Nat → Nat → Token → Array (List KeyPart × Raw) → Array KeyPart → Due → Parse Raw
  | 0, _, opening, entries, _, _ => return .inlineTable entries.toList opening.span
  | fuel + 1, depth, opening, entries, key, due => do
    let refuse (description : String) (place : Span) : Parse Raw :=
      throw ⟨description, some due.expected, place⟩
    match ← nextToken with
    | none => return .inlineTable entries.toList opening.span
    | some t =>
      match t.kind with
      | .whitespace => inlineEntries fuel depth opening entries key due
      | .newline => do
        checkLayout t
        inlineEntries fuel depth opening entries key due
      | .comment => do
        comment t
        inlineEntries fuel depth opening entries key due
      | .eof => do
        let last ← lastContent
        throw ⟨"unclosed inline table", some [.literal "\x7d"], last.after⟩
      | .equals =>
        match due with
        | .key => inlineEntries fuel depth opening entries #[.missing t] .value
        | .equals => inlineEntries fuel depth opening entries key .value
        | _ => refuse "extra assignment between key-value pairs" t.span
      | .comma =>
        match due with
        | .comma => inlineEntries fuel depth opening entries #[] .key
        | _ => refuse "extra comma in inline table" t.span
      | .closeBrace =>
        let entries := match due with
          | .equals | .value => entries.push (key.toList, .scalar [] .literalString t.span.before)
          | _ => entries
        return .inlineTable entries.toList (opening.span.join t.span)
      | .openBrace =>
        match due with
        | .value => do
          if maxNesting ≤ depth then throw (tooDeep t)
          let v ← inlineEntries fuel (depth + 1) t #[] #[] .key
          inlineEntries fuel depth opening (entries.push (key.toList, v)) #[] .comma
        | .equals => refuse "missing assignment between key-value pairs" t.span.before
        | _ => refuse "missing key for inline table element" t.span.before
      | .openBracket =>
        match due with
        | .value => do
          if maxNesting ≤ depth then throw (tooDeep t)
          let v ← arrayItems fuel (depth + 1) t #[] true
          inlineEntries fuel depth opening (entries.push (key.toList, v)) #[] .comma
        | .equals => refuse "missing assignment between key-value pairs" t.span.before
        | _ => refuse "missing key for inline table element" t.span.before
      | .closeBracket =>
        match due with
        | .value => throw ⟨"missing array opening", some [.literal "["], t.span.before⟩
        | _ => refuse "invalid inline table element" t.span
      | k =>
        match due with
        | .key => do
          let (parts, _) ←
            if k == .dot then dotted fuel true #[.missing t] else dotted fuel false #[.ofToken t]
          inlineEntries fuel depth opening entries parts .equals
        | .value => do
          let v ← scalar fuel t
          inlineEntries fuel depth opening (entries.push (key.toList, v)) #[] .comma
        | .equals => refuse "missing assignment between key-value pairs" t.span.before
        | .comma => refuse "missing comma between key-value pairs" t.span.before

end

/-- The value of a pair after its `=`, and the end of the line. -/
def pairValue (fuel : Nat) (key : Array KeyPart) : Parse Line := do
  skipBlank
  let v ← value fuel 0
  endOfLine fuel
  return .keyval key.toList v

/-- A pair after its key: blanks, `=` (its absence is refused with `missing`), the value and the
end of the line. -/
def keyval (fuel : Nat) (key : Array KeyPart) (missing : String) : Parse Line := do
  skipBlank
  match ← nextIf (· == .equals) with
  | some _ => pairValue fuel key
  | none =>
    let place := ((← peekToken).map (·.span.before)).getD ⟨0, 0⟩
    throw ⟨missing, some [.literal "="], place⟩

/-- A table header after its first `[`. A header whose key ended on a missing part and that is
not closed is kept as far as it goes (reading its key refuses it); one with a whole key must be
closed. -/
def tableHeader (fuel : Nat) (opening : Token) : Parse Line := do
  let isArray := (← nextIf (· == .openBracket)).isSome
  skipBlank
  let (key, whole) ← dotted fuel true #[]
  skipBlank
  let make (span : Span) : Line :=
    if isArray then .arrayTable key.toList span else .table key.toList span
  match ← nextIf (· == .closeBracket) with
  | some close =>
    if isArray then
      match ← nextIf (· == .closeBracket) with
      | some close2 => do
        endOfLine fuel
        return make (opening.span.join close2.span)
      | none => throw ⟨"unclosed array table", some [.literal "]"], close.span.after⟩
    else do
      endOfLine fuel
      return make (opening.span.join close.span)
  | none =>
    if whole then
      let last := (((← get).done.find? (·.kind != .whitespace)).map (·.span)).getD opening.span
      throw ⟨if isArray then "unclosed array table" else "unclosed table",
        some [.literal (if isArray then "]]" else "]")], last.after⟩
    else do
      skipRestOfLine fuel
      return make opening.span

/-- Reads the lines of a document. -/
def lines : Nat → Array Line → Parse (Array Line)
  | 0, acc => return acc
  | fuel + 1, acc => do
    match ← nextToken with
    | none => return acc
    | some t =>
      match t.kind with
      | .eof => return acc
      | .whitespace => lines fuel acc
      | .newline => do
        checkLayout t
        lines fuel acc
      | .comment => do
        comment t
        lines fuel acc
      | .openBracket => do
        let l ← tableHeader fuel t
        lines fuel (acc.push l)
      | .closeBracket => throw ⟨"missing table open", some [.literal "["], t.span.before⟩
      | .comma | .openBrace | .closeBrace =>
        throw ⟨"invalid key-value pair", some [.description "key"], t.span⟩
      | .equals => do
        let l ← pairValue fuel #[.missing t]
        lines fuel (acc.push l)
      | .dot => do
        let (key, _) ← dotted fuel true #[.missing t]
        let l ← keyval fuel key "missing value for key"
        lines fuel (acc.push l)
      | _ => do
        let (key, _) ← dotted fuel false #[.ofToken t]
        let l ← keyval fuel key "key with no value"
        lines fuel (acc.push l)

/-- The lines of a document's tokens, or the first problem with its shape. -/
def parseTokens (tokens : List Token) : Except Problem (Array Line) :=
  ((lines (tokens.length + 2) #[]).run ⟨[], tokens⟩).map (·.1)

end MinuteWindow.Toml
