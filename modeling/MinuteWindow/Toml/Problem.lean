import MinuteWindow.Toml.Lexer
import MinuteWindow.Text.Digits
import MinuteWindow.Text.Utf8
/-! What is wrong with a TOML document, and where, as a reader sees it.

A `Problem` has a description, optionally what was expected there, and the span it points
at. Its message is the description followed by `, expected …` with the expected items joined by
commas: a literal is shown in backticks (a line feed as `newline`), a description as it is, and
an empty list as `nothing`.

`Problem.render` lays a problem out against the document: a header with the line and column
(both from 1), the line itself under a gutter as wide as the line number, a row of carets under
the span (at least one, and not past the line end) and the message. The column counts the
characters before the position on its line; when the position falls inside a multi-byte
character the count is in bytes instead, and a position at the very end of the text is one past
its last byte. -/
namespace MinuteWindow.Toml

/-- Something the reader expected. -/
inductive Expected where
  /-- this exact text -/
  | literal (text : String)
  /-- a kind of thing -/
  | description (text : String)
  deriving DecidableEq, Repr

/-- How an expected item is shown. -/
def Expected.show : Expected → String
  | .literal "\n" => "newline"
  | .literal "`" => "'`'"
  | .literal t => "`" ++ t ++ "`"
  | .description t => t

/-- A problem: what is wrong, what was expected, and where. -/
structure Problem where
  description : String
  expected : Option (List Expected)
  span : Span
  deriving DecidableEq, Repr

/-- A problem with no list of expected items. -/
def Problem.plain (description : String) (span : Span) : Problem := ⟨description, none, span⟩

/-- The message of a problem. -/
def Problem.message (p : Problem) : String :=
  match p.expected with
  | none => p.description
  | some [] => p.description ++ ", expected nothing"
  | some es => p.description ++ ", expected " ++ ", ".intercalate (es.map Expected.show)

/-- Line (from 0) and column (from 0) of a byte position in the document's bytes. -/
def locate (bytes : List UInt8) (index : Nat) : Nat × Nat :=
  if bytes.isEmpty then (0, index)
  else
    let safe := min index (bytes.length - 1)
    let beyond := index - safe
    let before := bytes.take safe
    let lineStart := safe - (before.reverse.takeWhile (· != 0x0A)).length
    let line := (bytes.take lineStart).count 0x0A
    let piece := (bytes.drop lineStart).take (safe + 1 - lineStart)
    let column := match Text.decodeUtf8 piece with
      | some cs => cs.length - 1
      | none => safe - lineStart
    (line, column + beyond)

/-- The `n`-th line of the document (lines split at line feeds only). -/
def lineText (source : String) (n : Nat) : String :=
  ((source.splitOn "\n")[n]?).getD ""

/-- A problem laid out against the document it was found in. -/
def Problem.render (p : Problem) (source : String) : String :=
  let (line, column) := locate (Text.utf8Bytes source) p.span.start
  let number := Text.decimal (line + 1)
  let gutter := String.ofList (List.replicate (number.length + 1) ' ')
  let content := lineText source line
  let width := min (p.span.stop - p.span.start) (content.utf8ByteSize - column)
  let carets := String.ofList ('^' :: List.replicate (width - 1) '^')
  "TOML parse error at line " ++ number ++ ", column " ++ Text.decimal (column + 1) ++ "\n" ++
  gutter ++ "|\n" ++
  number ++ " | " ++ content ++ "\n" ++
  gutter ++ "|" ++ String.ofList (List.replicate (column + 1) ' ') ++ carets ++ "\n" ++
  p.message ++ "\n"

end MinuteWindow.Toml
