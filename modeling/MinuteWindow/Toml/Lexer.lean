/-! Tokens of a TOML document.

The lexer cuts the text into tokens without judging them: punctuation (`.`, `=`, `,`, brackets
and braces), runs of spaces and tabs, comments (from `#` to the end of the line), line ends (a
line feed, or a carriage return with or without one), the four kinds of strings, and atoms —
runs of anything else, which later become bare keys, numbers, booleans or dates. A string
token runs to its closing quote, or stops before the line end (single-line strings) or at the
end of the text when it is not closed; the reader of strings reports that.

Every token carries its text and its span in bytes, and the token list ends with an empty end
token, so that every position the reader may report lies on a token. -/
namespace MinuteWindow.Toml

/-- A byte range of the document: `start` up to, not including, `stop`. -/
structure Span where
  start : Nat
  stop : Nat
  deriving DecidableEq, Repr, Inhabited

/-- The empty span at the start of a span. -/
def Span.before (s : Span) : Span := ⟨s.start, s.start⟩

/-- The empty span at the end of a span. -/
def Span.after (s : Span) : Span := ⟨s.stop, s.stop⟩

/-- From the start of one span to the end of another. -/
def Span.join (a b : Span) : Span := ⟨a.start, b.stop⟩

/-- Kinds of tokens. -/
inductive TokenKind where
  | dot
  | equals
  | comma
  | openBracket
  | closeBracket
  | openBrace
  | closeBrace
  | whitespace
  | comment
  | newline
  | literalString
  | basicString
  | mlLiteralString
  | mlBasicString
  | atom
  | eof
  deriving DecidableEq, Repr, Inhabited

/-- A token: its kind, its text and its span. -/
structure Token where
  kind : TokenKind
  text : List Char
  span : Span
  deriving Repr, Inhabited

/-- Whether a token kind is a string. -/
def TokenKind.isString : TokenKind → Bool
  | .literalString | .basicString | .mlLiteralString | .mlBasicString => true
  | _ => false

/-- Whether a token can be a simple key: an atom or a string. -/
def TokenKind.isKey (k : TokenKind) : Bool := k == .atom || k.isString

/-- Characters that end an atom. Quotes do not: a word that ends in a quote is read whole, as a
string whose opening quote is missing. -/
def endsAtom (c : Char) : Bool := ".=,[]{} \t#\r\n".toList.contains c

/-- Bytes of a run of characters. -/
def byteWidth (cs : List Char) : Nat := cs.foldr (fun c n => c.utf8Size + n) 0

/-- The rest of a single-line literal string after its opening quote: up to and including the
closing quote, or up to the line end. -/
def literalBody : List Char → List Char × List Char
  | [] => ([], [])
  | c :: rest =>
    if c == '\'' then ([c], rest)
    else if c == '\n' then ([], c :: rest)
    else
      let (a, b) := literalBody rest
      (c :: a, b)

/-- The rest of a single-line basic string after its opening quote: up to and including the
closing quote, or up to the line end; a backslash takes the next character with it. -/
def basicBody : List Char → List Char × List Char
  | [] => ([], [])
  | c :: rest =>
    if c == '"' then ([c], rest)
    else if c == '\n' then ([], c :: rest)
    else if c == '\\' then
      match rest with
      | d :: rest' =>
        if d == '\n' then ([c], rest)
        else
          let (a, b) := basicBody rest'
          (c :: d :: a, b)
      | [] => ([c], [])
    else
      let (a, b) := basicBody rest
      (c :: a, b)

/-- The rest of a multi-line string after its opening delimiter of quote `q`: up to and
including the closing delimiter and at most two more quotes. With `escapes`, a backslash takes
the next character with it. -/
def multiBody (q : Char) (escapes : Bool) : List Char → List Char × List Char
  | [] => ([], [])
  | c :: rest =>
    if escapes && c == '\\' then
      match rest with
      | d :: rest' =>
        let (a, b) := multiBody q escapes rest'
        (c :: d :: a, b)
      | [] => ([c], [])
    else if c == q && rest.take 2 == [q, q] then
      let after := rest.drop 2
      let extra := (after.take 2).takeWhile (· == q)
      (c :: q :: q :: extra, after.drop extra.length)
    else
      let (a, b) := multiBody q escapes rest
      (c :: a, b)

/-- The first token of a nonempty text: its kind, its text and what follows. -/
def lexOne : List Char → TokenKind × List Char × List Char
  | [] => (.eof, [], [])
  | c :: rest =>
    if c == '.' then (.dot, [c], rest)
    else if c == '=' then (.equals, [c], rest)
    else if c == ',' then (.comma, [c], rest)
    else if c == '[' then (.openBracket, [c], rest)
    else if c == ']' then (.closeBracket, [c], rest)
    else if c == '{' then (.openBrace, [c], rest)
    else if c == '}' then (.closeBrace, [c], rest)
    else if c == ' ' || c == '\t' then
      let (a, b) := rest.span (fun d => d == ' ' || d == '\t')
      (.whitespace, c :: a, b)
    else if c == '#' then
      let (a, b) := rest.span (fun d => d != '\r' && d != '\n')
      (.comment, c :: a, b)
    else if c == '\r' then
      match rest with
      | '\n' :: b => (.newline, ['\r', '\n'], b)
      | _ => (.newline, [c], rest)
    else if c == '\n' then (.newline, [c], rest)
    else if c == '\'' then
      if rest.take 2 == ['\'', '\''] then
        let (a, b) := multiBody '\'' false (rest.drop 2)
        (.mlLiteralString, ['\'', '\'', '\''] ++ a, b)
      else
        let (a, b) := literalBody rest
        (.literalString, c :: a, b)
    else if c == '"' then
      if rest.take 2 == ['"', '"'] then
        let (a, b) := multiBody '"' true (rest.drop 2)
        (.mlBasicString, ['"', '"', '"'] ++ a, b)
      else
        let (a, b) := basicBody rest
        (.basicString, c :: a, b)
    else
      let (a, b) := rest.span (fun d => !endsAtom d)
      (.atom, c :: a, b)

/-- Tokens of the text from byte position `pos`, ending with the end token. -/
def lexFrom : Nat → List Char → Nat → List Token
  | 0, _, pos => [⟨.eof, [], ⟨pos, pos⟩⟩]
  | _, [], pos => [⟨.eof, [], ⟨pos, pos⟩⟩]
  | fuel + 1, cs@(_ :: _), pos =>
    let (kind, text, rest) := lexOne cs
    let stop := pos + byteWidth text
    ⟨kind, text, ⟨pos, stop⟩⟩ :: lexFrom fuel rest stop

/-- The tokens of a document. A byte order mark at its start is skipped. -/
def lex (source : String) : List Token :=
  match source.toList with
  | '\uFEFF' :: rest => lexFrom (source.length + 1) rest 3
  | cs => lexFrom (source.length + 1) cs 0

end MinuteWindow.Toml
