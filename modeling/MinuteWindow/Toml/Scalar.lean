import MinuteWindow.Toml.Parser
import MinuteWindow.Toml.Datetime
import MinuteWindow.Decimal.Nearest
/-! Reading keys, strings and bare values of a TOML document.

A bare key is a nonempty run of ASCII letters, digits, `-` and `_`. Keys may also be basic or
literal strings, not multi-line ones.

A basic string (`"…"`) holds visible characters, spaces and tabs, and the escapes `\b \e \f \n
\r \t \" \\`, `\xHH`, `\uHHHH` and `\UHHHHHHHH` (the code must be a Unicode scalar value); a
literal string (`'…'`) is taken as written and holds no control character but tab. Multi-line
strings drop a line end right after the opening delimiter and may hold line ends (a carriage
return only before a line feed); in a multi-line basic string a backslash before blanks and a
line end joins the lines, dropping the blanks and line ends that follow. A string whose closing
quote is missing is refused at its end; otherwise the first bad character or escape is.

A bare value is `true`, `false`, `inf`, `nan`, a number or a date. Its first character decides
how it is read: a sign, a digit, an underscore or a point make a number or a date, and letters
make a word. After the digits at its front, a `-` or `:` makes a date or time (checked by
`checkDatetime`), a point or an exponent mark anywhere makes a float, and an underscore an
integer; anything else is not a value. A decimal has no leading zero; `0x`, `0o` and `0b` take
digits of their radix, in lower case and without a sign (the first character that is no digit is
refused by its first byte, and a value with a blank inside must be quoted); in any number an
underscore stands between two digits. Integers keep their exact value, for the reader of the document to decide
which integer type holds them; a float is rounded to the nearest binary64, and one too large to
be finite is kept as overflowed. -/
namespace MinuteWindow.Toml
open Json

/-- A read scalar. -/
inductive Scalar where
  | string (s : String)
  /-- an integer, or none when its digits make no number (`0x` alone) -/
  | integer (value : Option Int)
  /-- a float, or none when it is too large to be finite -/
  | float (value : Option Binary64)
  | boolean (b : Bool)
  | datetime (text : String)
  deriving DecidableEq, Repr

/-! ### Strings -/

/-- What a reader of a bare key expects. -/
def keyCharsExpected : List Expected :=
  [.description "letters", .description "numbers", .literal "-", .literal "_"]

/-- Characters of a bare key. -/
def isBareKeyChar (c : Char) : Bool :=
  (c.isAlphanum && c.toNat < 128) || c == '-' || c == '_'

/-- The span of the character at byte offset `off` of a token starting at `start`. -/
def charSpan (start off : Nat) (c : Char) : Span := ⟨start + off, start + off + c.utf8Size⟩

/-- Finds the first character failing a test, with its byte offset. -/
def firstFailing (p : Char → Bool) : List Char → Nat → Option (Char × Nat)
  | [], _ => none
  | c :: rest, off => if p c then firstFailing p rest (off + c.utf8Size) else some (c, off)

/-- Whether a character is a hex digit. -/
def isHexDigit (c : Char) : Bool :=
  c.isDigit || ('a' ≤ c && c ≤ 'f') || ('A' ≤ c && c ≤ 'F')

/-- The value of a hex digit. -/
def hexDigitValue (c : Char) : Nat :=
  if c.isDigit then c.toNat - '0'.toNat
  else if 'a' ≤ c && c ≤ 'f' then c.toNat - 'a'.toNat + 10
  else c.toNat - 'A'.toNat + 10

/-- What may follow a backslash. -/
def escapesExpected : List Expected :=
  [.literal "b", .literal "e", .literal "f", .literal "n", .literal "r", .literal "\\",
   .literal "\"", .literal "x", .literal "u", .literal "U"]

/-- The character of a one-letter escape. -/
def simpleEscape (e : Char) : Option Char :=
  if e == 'b' then some '\x08' else if e == 'e' then some '\x1b' else if e == 'f' then some '\x0c'
  else if e == 'n' then some '\n' else if e == 'r' then some '\r' else if e == 't' then some '\t'
  else if e == '\\' then some '\\' else if e == '"' then some '"' else none

/-- The number of hex digits an escape letter takes, or 0 for another letter. -/
def hexEscapeWidth (e : Char) : Nat :=
  if e == 'x' then 2 else if e == 'u' then 4 else if e == 'U' then 8 else 0

/-- A problem with the hex digits of an escape, at byte position `pos`. -/
def hexEscapeProblem (description : String) (pos : Nat) : Problem :=
  ⟨description, some [.description "unicode hexadecimal value"], ⟨pos, pos⟩⟩

/-- Reads the escape after a backslash; `pos` is the byte position just after the backslash.
Gives the character, the rest and the position after the escape. -/
def readEscape (pos : Nat) : List Char → Except Problem (Char × List Char × Nat)
  | [] => .error ⟨"missing escaped value", some escapesExpected, ⟨pos, pos⟩⟩
  | e :: rest =>
    match simpleEscape e with
    | some c => .ok (c, rest, pos + 1)
    | none =>
      let n := hexEscapeWidth e
      if n == 0 then .error ⟨"missing escaped value", some escapesExpected, ⟨pos, pos⟩⟩
      else
        let ds := (rest.takeWhile isHexDigit).take n
        let here := pos + 1 + ds.length
        if ds.length < n then .error (hexEscapeProblem "too few unicode value digits" here)
        else
          let v := ds.foldl (fun a c => a * 16 + hexDigitValue c) 0
          if v < 0xD800 || (0xDFFF < v && v ≤ 0x10FFFF) then .ok (Char.ofNat v, rest.drop n, here)
          else .error (hexEscapeProblem "invalid value" (pos + 1))

/-- Characters a basic string holds as written: visible ASCII but `"` and `\`, space, tab, and
everything beyond ASCII. -/
def isBasicPlain (c : Char) : Bool :=
  c == '\t' || (0x20 ≤ c.toNat && c.toNat ≤ 0x7E && c != '"' && c != '\\') || c.toNat ≥ 0x80

/-- Reads the body of a basic string from byte position `pos`; `fuel` bounds the steps. A run
of characters it may not hold is refused as a whole. -/
def basicContent : Nat → List Char → Nat → Array Char → Except Problem String
  | 0, _, _, acc => .ok (String.ofList acc.toList)
  | _, [], _, acc => .ok (String.ofList acc.toList)
  | fuel + 1, c :: rest, pos, acc =>
    if isBasicPlain c then basicContent fuel rest (pos + c.utf8Size) (acc.push c)
    else if c == '\\' then do
      let (ch, rest', pos') ← readEscape (pos + 1) rest
      basicContent fuel rest' pos' (acc.push ch)
    else
      let run := (c :: rest).takeWhile fun d => !isBasicPlain d && d != '\\'
      .error ⟨"invalid basic string", some [.description "non-double-quote visible characters",
        .literal "\\"], ⟨pos, pos + byteWidth run⟩⟩

/-- Reads a basic string token. -/
def basicString (text : List Char) (span : Span) : Except Problem String :=
  let body := text.drop 1
  if body.getLast? != some '"' then
    .error ⟨"invalid basic string", some [.literal "\""], span.after⟩
  else basicContent body.length body.dropLast (span.start + 1) #[]

/-- Drops a line end right after the opening delimiter of a multi-line string; gives the rest
and the bytes dropped. -/
def dropFirstLineEnd : List Char → List Char × Nat
  | '\n' :: rest => (rest, 1)
  | '\r' :: '\n' :: rest => (rest, 2)
  | cs => (cs, 0)

/-- Whether a text ends with three copies of a quote. -/
def closedBy (q : Char) (body : List Char) : Bool :=
  body.length ≥ 3 && body.drop (body.length - 3) == [q, q, q]

/-- A carriage return at byte position `pos` that no line feed follows. -/
def loneCarriageReturn (pos : Nat) : Problem :=
  ⟨"carriage return must be followed by newline", some [.literal "\n"], ⟨pos + 1, pos + 1⟩⟩

/-- Skips blanks and line ends from byte position `pos`. -/
def skipBlankLines : List Char → Nat → Except Problem (List Char × Nat)
  | [], pos => .ok ([], pos)
  | c :: rest, pos =>
    if c == ' ' || c == '\t' || c == '\n' then skipBlankLines rest (pos + 1)
    else if c == '\r' then
      match rest with
      | '\n' :: r => skipBlankLines r (pos + 2)
      | _ => .error (loneCarriageReturn pos)
    else .ok (c :: rest, pos)

/-- Joins lines after a backslash: blanks, one line end, then any blanks and line ends. -/
def joinLines (cs : List Char) (pos : Nat) : Except Problem (List Char × Nat) :=
  let blanks := cs.takeWhile fun c => c == ' ' || c == '\t'
  let pos := pos + blanks.length
  match cs.drop blanks.length with
  | '\n' :: r => skipBlankLines r (pos + 1)
  | '\r' :: '\n' :: r => skipBlankLines r (pos + 2)
  | '\r' :: _ => .error (loneCarriageReturn pos)
  | _ => .error ⟨"invalid multi-line basic string", some [.literal "\n"], ⟨pos, pos⟩⟩

/-- Characters a multi-line basic string holds as written. -/
def isMultiBasicPlain (c : Char) : Bool := isBasicPlain c || c == '"' || c == '\n'

/-- Reads the body of a multi-line basic string from byte position `pos`. -/
def multiBasicContent : Nat → List Char → Nat → Array Char → Except Problem String
  | 0, _, _, acc => .ok (String.ofList acc.toList)
  | _, [], _, acc => .ok (String.ofList acc.toList)
  | fuel + 1, c :: rest, pos, acc =>
    if isMultiBasicPlain c then multiBasicContent fuel rest (pos + c.utf8Size) (acc.push c)
    else if c == '\\' then
      match rest with
      | d :: _ =>
        if d == ' ' || d == '\t' || d == '\n' || d == '\r' then do
          let (rest', pos') ← joinLines rest (pos + 1)
          multiBasicContent fuel rest' pos' acc
        else do
          let (ch, rest', pos') ← readEscape (pos + 1) rest
          multiBasicContent fuel rest' pos' (acc.push ch)
      | [] => .error ⟨"missing escaped value", some escapesExpected, ⟨pos + 1, pos + 1⟩⟩
    else if c == '\r' then
      match rest with
      | '\n' :: r => multiBasicContent fuel r (pos + 2) ((acc.push '\r').push '\n')
      | _ => .error (loneCarriageReturn pos)
    else
      let run := (c :: rest).takeWhile fun d => !isMultiBasicPlain d && d != '\\' && d != '\r'
      .error ⟨"invalid multi-line basic string", some [.literal "\\", .description "characters"],
        ⟨pos, pos + byteWidth run⟩⟩

/-- Reads a multi-line basic string token. -/
def mlBasicString (text : List Char) (span : Span) : Except Problem String :=
  let (body, skipped) := dropFirstLineEnd (text.drop 3)
  if !closedBy '"' body then
    .error ⟨"invalid multi-line basic string", some [.literal "\""], span.after⟩
  else
    let content := body.take (body.length - 3)
    multiBasicContent (content.length + 1) content (span.start + 3 + skipped) #[]

/-- Characters a literal string holds: visible ASCII but `'`, space, tab, and everything beyond
ASCII. -/
def isLiteralPlain (c : Char) : Bool :=
  c == '\t' || (0x20 ≤ c.toNat && c.toNat ≤ 0x7E && c != '\'') || c.toNat ≥ 0x80

/-- Reads a literal string token. -/
def literalString (text : List Char) (span : Span) : Except Problem String :=
  let body := text.drop 1
  if body.getLast? != some '\'' then
    .error ⟨"invalid literal string", some [.literal "'"], span.after⟩
  else
    let content := body.dropLast
    match firstFailing isLiteralPlain content 0 with
    | some (_, off) =>
      let here := span.start + 1 + off
      .error ⟨"invalid literal string", some [.description "non-single-quote visible characters"],
        ⟨here, here⟩⟩
    | none => .ok (String.ofList content)

/-- Characters a multi-line literal string holds as written. -/
def isMultiLiteralPlain (c : Char) : Bool :=
  c == '\t' || c == '\n' || (0x20 ≤ c.toNat && c.toNat ≤ 0x7E) || c.toNat ≥ 0x80

/-- The first problem with the body of a multi-line literal string from byte position `pos`. -/
def multiLiteralProblem : List Char → Nat → Option Problem
  | [], _ => none
  | c :: rest, pos =>
    if c == '\r' then
      match rest with
      | '\n' :: r => multiLiteralProblem r (pos + 2)
      | _ => some (loneCarriageReturn pos)
    else if isMultiLiteralPlain c then multiLiteralProblem rest (pos + c.utf8Size)
    else some ⟨"invalid multi-line literal string",
      some [.description "non-single-quote characters"], ⟨pos, pos⟩⟩

/-- Reads a multi-line literal string token. -/
def mlLiteralString (text : List Char) (span : Span) : Except Problem String :=
  let (body, skipped) := dropFirstLineEnd (text.drop 3)
  if !closedBy '\'' body then
    .error ⟨"invalid multi-line literal string", some [.literal "'"], span.after⟩
  else
    let content := body.take (body.length - 3)
    match multiLiteralProblem content (span.start + 3 + skipped) with
    | some p => .error p
    | none => .ok (String.ofList content)

/-- What a quoted key may be. -/
def quotedKeyExpected : List Expected :=
  [.description "basic string", .description "literal string"]

/-- Reads a simple key. -/
def KeyPart.read (k : KeyPart) : Except Problem String :=
  match k.kind with
  | .basicString => basicString k.text k.span
  | .literalString => literalString k.text k.span
  | .mlBasicString =>
    .error ⟨"keys cannot be multi-line basic strings", some quotedKeyExpected, k.span⟩
  | .mlLiteralString =>
    .error ⟨"keys cannot be multi-line literal strings", some quotedKeyExpected, k.span⟩
  | _ =>
    if k.text.isEmpty then
      .error ⟨"unquoted keys cannot be empty", some keyCharsExpected, k.span⟩
    else match firstFailing isBareKeyChar k.text 0 with
      | some (c, off) => .error ⟨"invalid unquoted key", some keyCharsExpected,
          charSpan k.span.start off c⟩
      | none => .ok (String.ofList k.text)

/-! ### Bare values -/

/-- A bare value as written: its characters and the byte position of the first. -/
structure Atom where
  text : List Char
  start : Nat

/-- The byte position of the character at index `i`. -/
def Atom.pos (a : Atom) (i : Nat) : Nat := a.start + byteWidth (a.text.take i)

/-- The span from the character at index `i` up to the one at index `j`. -/
def Atom.between (a : Atom) (i j : Nat) : Span := ⟨a.pos i, a.pos j⟩

/-- The whole value's span. -/
def Atom.span (a : Atom) : Span := a.between 0 a.text.length

/-- Whether a text ends with another. -/
def endsWith (cs : List Char) (suffix : String) : Bool :=
  cs.drop (cs.length - suffix.length) == suffix.toList

/-- The problem with a bare word that is no value: a word ending in quotes misses its opening
quotes, any other must be quoted. -/
def Atom.unquoted (a : Atom) : Problem :=
  let missing (q : String) : Problem :=
    ⟨"missing opening quote", some [.literal q], a.span.before⟩
  if endsWith a.text "'''" then missing "'''"
  else if endsWith a.text "\"\"\"" then missing "\"\"\""
  else if endsWith a.text "'" then missing "'"
  else if endsWith a.text "\"" then missing "\""
  else ⟨"string values must be quoted", some [.description "literal string"], a.span⟩

/-- A digit of any radix up to 16, or only a decimal digit in a float. -/
def isNumberDigit (float : Bool) (c : Char) : Bool :=
  if float then c.isDigit else isHexDigit c

/-- The index of the first underscore of a text whose neighbours are not both digits; `prev` is
the character before the text, and `i` the index of its first character. -/
def badUnderscore (digit : Char → Bool) : Option Char → List Char → Nat → Option Nat
  | _, [], _ => none
  | prev, c :: rest, i =>
    if c == '_' && !(prev.any digit && rest.head?.any digit) then some i
    else badUnderscore digit (some c) rest (i + 1)

/-- Checks that every underscore of the number text from index `j` to the end stands between two
digits, reading from left to right; what stands before index `j` does not count as a digit. -/
def Atom.underscores (a : Atom) (j : Nat) (float : Bool) : Option Problem :=
  (badUnderscore (isNumberDigit float) none (a.text.drop j) j).map fun i =>
    ⟨"`_` may only go between digits", some [], a.between i (i + 1)⟩

/-- Checks a run of decimal digits and underscores from index `i`: at least one digit, and no
leading zero unless `zeroPrefix`. Gives the index after the run. -/
def Atom.decimalRun (a : Atom) (i : Nat) (zeroPrefix : Bool) (what : String) :
    Except Problem Nat :=
  let run := (a.text.drop i).takeWhile fun c => c.isDigit || c == '_'
  let digits := run.countP Char.isDigit
  if digits == 0 then .error ⟨what, some [.description "digits"], a.between i i⟩
  else if 2 ≤ digits && run.head? == some '0' && !zeroPrefix then
    .error ⟨"unexpected leading zero", some [], a.between i (i + 1)⟩
  else .ok (i + run.length)

/-- Checks the shape of a float from index `i`: a mantissa, then an optional fraction after a
point, then an optional exponent after `e` or `E` and a sign; nothing may follow. -/
def Atom.floatShape (a : Atom) (i : Nat) : Except Problem Unit := do
  let i ← a.decimalRun i false "invalid mantissa"
  let i ← if a.text[i]? == some '.' then a.decimalRun (i + 1) true "invalid fraction" else pure i
  let i ← if a.text[i]? == some 'e' || a.text[i]? == some 'E' then
      let i := if a.text[i + 1]? == some '+' || a.text[i + 1]? == some '-' then i + 2 else i + 1
      a.decimalRun i true "invalid exponent"
    else pure i
  if i < a.text.length then throw ⟨"invalid float", some [], a.between i a.text.length⟩

/-- The value of a digit in a radix. -/
def radixDigit (radix : Nat) (c : Char) : Option Nat :=
  if isHexDigit c && hexDigitValue c < radix then some (hexDigitValue c) else none

/-- The value of a number text in a radix, with an optional sign; none when it has no digits or
a character that is no digit of the radix. -/
def radixValue (radix : Nat) (cs : List Char) : Option Int :=
  let (negative, ds) := match cs with
    | '+' :: r => (false, r)
    | '-' :: r => (true, r)
    | _ => (false, cs)
  if ds.isEmpty then none
  else (ds.foldlM (fun v c => (radixDigit radix c).map (v * radix + ·)) 0).map fun v =>
    if negative then -(v : Int) else v

/-- An integer from its text, underscores dropped. -/
def integerOf (radix : Nat) (cs : List Char) : Scalar :=
  .integer (radixValue radix (cs.filter (· != '_')))

/-- The value of a run of decimal digits. -/
def digitsValue (ds : List Char) : Nat := ds.foldl (fun n c => n * 10 + (c.toNat - '0'.toNat)) 0

/-- A float from its well-formed text, underscores dropped: rounded to the nearest binary64, or
overflowed when that is infinite. -/
def floatOf (cs : List Char) : Scalar :=
  let cs := cs.filter (· != '_')
  let (negative, cs) := match cs with
    | '+' :: r => (false, r)
    | '-' :: r => (true, r)
    | _ => (false, cs)
  let whole := cs.takeWhile Char.isDigit
  let cs := cs.drop whole.length
  let (frac, cs) := match cs with
    | '.' :: r => (r.takeWhile Char.isDigit, r.dropWhile Char.isDigit)
    | _ => ([], cs)
  let exponent : Int := match cs with
    | _ :: '-' :: ds => -(digitsValue ds : Int)
    | _ :: '+' :: ds => digitsValue ds
    | _ :: ds => digitsValue ds
    | [] => 0
  let x := Decimal.nearest negative (digitsValue (whole ++ frac)) (exponent - frac.length)
  .float (if Decimal.isInfinite x then none else some x)

/-- A quiet not-a-number. -/
def nanBits (negative : Bool) : Binary64 :=
  ⟨if negative then 0xFFF8000000000000 else 0x7FF8000000000000⟩

/-- An infinity. -/
def infBits (negative : Bool) : Binary64 :=
  ⟨if negative then 0xFFF0000000000000 else 0x7FF0000000000000⟩

/-- Reads a date or time: the whole text goes to the checker. -/
def Atom.datetime (a : Atom) : Except Problem Scalar :=
  match checkDatetime a.text with
  | .ok () => .ok (.datetime (String.ofList a.text))
  | .error e => .error (.plain e.message a.span)

/-- A decimal integer whose unsigned part starts at index `i`: no leading zero, underscores
between digits. -/
def Atom.decimalInteger (a : Atom) (i : Nat) : Except Problem Scalar :=
  if a.text[i]? == some '0' then
    .error ⟨"unexpected leading zero", some [], a.between i (i + 1)⟩
  else match a.underscores 0 false with
    | some p => .error p
    | none => .ok (integerOf 10 a.text)

/-- A float whose unsigned part starts at index `i`. -/
def Atom.float (a : Atom) (i : Nat) : Except Problem Scalar := do
  a.floatShape i
  match a.underscores 0 true with
  | some p => throw p
  | none => return floatOf a.text

/-- A number or a date whose unsigned part starts at index `i` with a digit or an underscore,
told apart by what follows the digits at its front. -/
def Atom.numberOrDate (a : Atom) (i : Nat) : Except Problem Scalar :=
  let rest := (a.text.drop i).dropWhile Char.isDigit
  match rest.head? with
  | none => a.decimalInteger i
  | some c =>
    if c == '-' || c == ':' then a.datetime
    else if rest.contains ' ' then .error a.unquoted
    else if rest.any fun d => d == '.' || d == 'e' || d == 'E' then a.float i
    else if c == '_' then a.decimalInteger i
    else .error a.unquoted

/-- The radix a prefix letter names, and the radix's name in messages. -/
def radixOf (c : Char) : Option (Nat × String) :=
  if c == 'x' || c == 'X' then some (16, "hexadecimal")
  else if c == 'o' || c == 'O' then some (8, "octal")
  else if c == 'b' || c == 'B' then some (2, "binary")
  else none

/-- An integer with a radix prefix at index `i`, the prefix letter `r` and the digits after
it; `signed` says whether a sign came first. -/
def Atom.radixInteger (a : Atom) (i : Nat) (signed : Bool) (r : Char) (radix : Nat)
    (name : String) (digits : List Char) : Except Problem Scalar := do
  if signed then throw ⟨"integers with a radix cannot be signed", some [], a.between 0 1⟩
  if r.isUpper then
    throw ⟨"radix must be lowercase", some [.literal ("0" ++ String.singleton r.toLower)],
      a.between i (i + 2)⟩
  let (digits, digitsAt) ← match digits with
    | c :: rest =>
      if c == '+' || c == '-' then
        let k := (a.text.findIdx? fun d => d == '+' || d == '-').getD (i + 2)
        throw ⟨"unexpected sign", some [], a.between k (k + 1)⟩
      else pure (c :: rest, i + 2)
    | [] => pure ([], i + 2)
  if digits.contains ' ' then throw a.unquoted
  match digits.findIdx? fun c => c != '_' && (radixDigit radix c).isNone with
  | some k =>
    let bad := a.pos (digitsAt + k)
    throw (.plain ("invalid " ++ name ++ " number") ⟨bad, bad + 1⟩)
  | none =>
    match a.underscores digitsAt false with
    | some p => throw p
    | none => return integerOf radix digits

/-- A number whose unsigned part starts at index `i` with `0`; `signed` says whether a sign came
first. -/
def Atom.zeroPrefixed (a : Atom) (i : Nat) (signed : Bool) : Except Problem Scalar :=
  match a.text.drop i with
  | ['0'] => .ok (integerOf 10 a.text)
  | _ :: r :: digits =>
    match radixOf r with
    | some (radix, name) => a.radixInteger i signed r radix name digits
    | none =>
      if r == 'd' || r == 'D' then
        if signed then .error ⟨"integers with a radix cannot be signed", some [], a.between 0 1⟩
        else .error ⟨"redundant integer number prefix", some [], a.between i (i + 2)⟩
      else a.numberOrDate i
  | _ => a.numberOrDate i

/-- Reads one of the words `true`, `false`, `inf` and `nan`, written from index `i`; a wrong
word is refused over `span`. -/
def Atom.word (a : Atom) (i : Nat) (span : Span) (expected what : String) (v : Scalar) :
    Except Problem Scalar :=
  if a.text.drop i == expected.toList then .ok v
  else if a.text.contains ' ' then .error a.unquoted
  else .error ⟨"invalid " ++ what, some [.literal expected], span⟩

/-- Reads the part of a bare value after its sign, from index `i`. -/
def Atom.afterSign (a : Atom) (i : Nat) (negative : Bool) : Except Problem Scalar :=
  match a.text[i]? with
  | none => .error a.unquoted
  | some d =>
    if d == '+' || d == '-' then .error ⟨"redundant numeric sign", some [], a.between i (i + 1)⟩
    else if d == '0' then a.zeroPrefixed i true
    else if d.isDigit || d == '_' then a.numberOrDate i
    else if d == '.' then a.float 0
    else if d == 'i' || d == 'I' then
      a.word i (a.between i a.text.length) "inf" "float" (.float (some (infBits negative)))
    else if d == 'n' || d == 'N' then
      a.word i (a.between i a.text.length) "nan" "float" (.float (some (nanBits negative)))
    else .error a.unquoted

/-- Reads a bare value. -/
def Atom.read (a : Atom) : Except Problem Scalar :=
  match a.text with
  | [] => .error a.unquoted
  | c :: _ =>
    if c == '+' || c == '-' then a.afterSign 1 (c == '-')
    else if c == '0' then a.zeroPrefixed 0 false
    else if c.isDigit || c == '_' then a.numberOrDate 0
    else if c == '.' then a.float 0
    else if c == 't' || c == 'T' then a.word 0 a.span "true" "boolean" (.boolean true)
    else if c == 'f' || c == 'F' then a.word 0 a.span "false" "boolean" (.boolean false)
    else if c == 'i' || c == 'I' then a.word 0 a.span "inf" "float" (.float (some (infBits false)))
    else if c == 'n' || c == 'N' then a.word 0 a.span "nan" "float" (.float (some (nanBits false)))
    else .error a.unquoted

/-- Reads a scalar token of any kind. -/
def readScalar (text : List Char) (kind : TokenKind) (span : Span) : Except Problem Scalar :=
  match kind with
  | .basicString => Scalar.string <$> basicString text span
  | .mlBasicString => Scalar.string <$> mlBasicString text span
  | .literalString => Scalar.string <$> literalString text span
  | .mlLiteralString => Scalar.string <$> mlLiteralString text span
  | _ => Atom.read ⟨text, span.start⟩

end MinuteWindow.Toml
