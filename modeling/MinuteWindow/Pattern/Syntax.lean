import MinuteWindow.Text.Blank
import MinuteWindow.Text.Alphanumeric
/-! The syntax of patterns, the regular expressions that filter directives match field values
with.

A pattern is read from left to right into a tree (`Node`): literals, `.`, the assertions `^ $
\A \z \b \B \< \>` and `\b{start}` and its kin, the Perl classes `\d \s \w` and their negations,
Unicode property classes `\p…`, bracketed classes `[…]` (with ranges, ASCII classes
`[[:name:]]`, nested classes and the set operations `&&`, `--`, `~~`), repetitions `? * +` and
`{n}`, `{n,}`, `{n,m}` (each may be followed by `?`), groups (capturing, named with `(?P<n>…)` or
`(?<n>…)`, or with flags as `(?flags:…)`), flag settings `(?flags)`, alternation and
concatenation.

The reader refuses what the grammar refuses: an unclosed or unopened group or class, a
repetition with nothing to repeat (at the start, after `|`, `(` or a flag setting), a count
that is not a number up to `0xFFFFFFFF` or whose bounds are reversed, a backreference `\1`,
look-around `(?=`, `(?!`, `(?<=`, `(?<!`, an unknown escape (a letter or digit that means
nothing, a non-ASCII character), a bad hex escape or one naming no character, an empty or
repeated flag list, an unknown, repeated or dangling flag, an empty, badly spelled or repeated
group name, a reversed class range or one whose end is not a single character, and an
assertion inside a class. Under the `x` flag blanks and `#` comments between tokens are
skipped. Where the tree goes deeper than 250 levels it is refused too (`nestLimit`). -/
namespace MinuteWindow.Pattern

/-- A literal character, and whether it was written as a two-digit hex escape `\xHH`, which
stands for a single byte when Unicode mode is off. -/
structure Literal where
  char : Char
  byteEscape : Bool := false
  deriving DecidableEq, Repr

/-- The Perl classes. -/
inductive PerlClass where
  /-- `\d` -/
  | digit
  /-- `\s` -/
  | space
  /-- `\w` -/
  | word
  deriving DecidableEq, Repr

/-- Zero-width assertions. -/
inductive Assertion where
  | startLine
  | endLine
  | startText
  | endText
  | wordBoundary
  | notWordBoundary
  | wordStart
  | wordEnd
  | wordStartHalf
  | wordEndHalf
  deriving DecidableEq, Repr

/-- Whether an assertion looks at word characters. -/
def Assertion.isWord : Assertion → Bool
  | .startLine | .endLine | .startText | .endText => false
  | _ => true

/-- The flags a pattern can set. -/
inductive Flag where
  | caseInsensitive
  | multiLine
  | dotMatchesNewLine
  | swapGreed
  | unicode
  | crlf
  | ignoreWhitespace
  deriving DecidableEq, Repr

/-- The flag a letter names. -/
def Flag.ofChar? (c : Char) : Option Flag :=
  if c == 'i' then some .caseInsensitive
  else if c == 'm' then some .multiLine
  else if c == 's' then some .dotMatchesNewLine
  else if c == 'U' then some .swapGreed
  else if c == 'u' then some .unicode
  else if c == 'R' then some .crlf
  else if c == 'x' then some .ignoreWhitespace
  else none

/-- A written flag list: each flag, turned on when it stands before the `-` and off after it. -/
abbrev FlagChanges := List (Flag × Bool)

/-- The state a flag list gives a flag, if it names it. -/
def FlagChanges.state? (fs : FlagChanges) (f : Flag) : Option Bool :=
  (fs.find? (·.1 == f)).map (·.2)

/-- The set operations of bracketed classes. -/
inductive SetOp where
  /-- `&&` -/
  | intersection
  /-- `--` -/
  | difference
  /-- `~~` -/
  | symmetricDifference
  deriving DecidableEq, Repr

/-- The operation a doubled character names. -/
def SetOp.ofChar (c : Char) : SetOp :=
  if c == '&' then .intersection else if c == '-' then .difference else .symmetricDifference

/-- What a bracketed class holds. -/
inductive ClassTree where
  | empty
  | literal (l : Literal)
  | range (lo hi : Literal)
  /-- `[:name:]`, or `[:^name:]` negated -/
  | ascii (name : String) (negated : Bool)
  /-- `\p…`, or `\P…` negated -/
  | property (negated : Bool)
  | perl (kind : PerlClass) (negated : Bool)
  | bracketed (negated : Bool) (set : ClassTree)
  | union (items : List ClassTree)
  | op (kind : SetOp) (lhs rhs : ClassTree)
  deriving Repr

/-- A read pattern. -/
inductive Node where
  | empty
  | flags (changes : FlagChanges)
  | literal (l : Literal)
  | dot
  | assertion (a : Assertion)
  | perl (kind : PerlClass) (negated : Bool)
  | property (negated : Bool)
  | bracketed (negated : Bool) (set : ClassTree)
  /-- at least `min` and at most `max` (none for no bound) times -/
  | repetition (min : Nat) (max : Option Nat) (sub : Node)
  /-- a group; a group with flags does not capture -/
  | group (flags : Option FlagChanges) (sub : Node)
  | alternation (branches : List Node)
  | concat (items : List Node)
  deriving Repr

/-! ### Reading characters -/

/-- Skips blanks and `#` comments (a comment runs to the end of its line); `inComment` says
whether a comment is open. -/
def skipBlanks : Bool → List Char → List Char
  | _, [] => []
  | true, c :: rest => if c == '\n' then skipBlanks false rest else skipBlanks true rest
  | false, c :: rest =>
    if Text.isBlank c then skipBlanks false rest
    else if c == '#' then skipBlanks true rest
    else c :: rest

/-- Skips blanks and comments when the `x` flag is on. -/
def skipSpace (x : Bool) (cs : List Char) : List Char := if x then skipBlanks false cs else cs

/-- Moves past one character, then past blanks and comments under the `x` flag. -/
def advance (x : Bool) (cs : List Char) : List Char := skipSpace x cs.tail

/-- The first character after the current one that is no blank and opens no comment, under the
`x` flag; with nothing such, the character right after the current one. -/
def peekSpaceFrom : Bool → List Char → Option Char
  | _, [] => none
  | inComment, c :: rest =>
    if Text.isBlank c then peekSpaceFrom inComment rest
    else if !inComment && c == '#' then peekSpaceFrom true rest
    else some c

/-- The next character after the current one, past blanks and comments under the `x` flag. -/
def peekSpace (x : Bool) (cs : List Char) : Option Char :=
  match cs with
  | [] => none
  | _ :: after => if x then (peekSpaceFrom false after).orElse fun _ => after.head? else after.head?

/-- Whether a character is an ASCII hex digit. -/
def isHex (c : Char) : Bool :=
  c.isDigit || ('a' ≤ c && c ≤ 'f') || ('A' ≤ c && c ≤ 'F')

/-- The value of hex digits. -/
def hexValue (ds : List Char) : Nat :=
  ds.foldl (fun n c =>
    n * 16 + if c.isDigit then c.toNat - '0'.toNat
      else if 'a' ≤ c && c ≤ 'f' then c.toNat - 'a'.toNat + 10 else c.toNat - 'A'.toNat + 10) 0

/-- The character of a code, if the code is a Unicode scalar value. -/
def scalarChar? (n : Nat) : Option Char := if n.isValidChar then some (Char.ofNat n) else none

/-- The characters that have a meaning of their own, and stand for themselves when escaped. -/
def isMetaChar (c : Char) : Bool :=
  "\\.+*?()|[]\x7b\x7d^$#&-~".toList.contains c

/-- The characters that stand for themselves when escaped: the meta characters and the ASCII
characters that are no letter, digit, `<` or `>`. -/
def isEscapable (c : Char) : Bool :=
  isMetaChar c || (c.toNat < 128 && !c.isAlphanum && c != '<' && c != '>')

/-- The characters the escapes `\a \f \t \n \r \v` stand for. -/
def specialEscape? (c : Char) : Option Char :=
  if c == 'a' then some '\x07'
  else if c == 'f' then some '\x0C'
  else if c == 't' then some '\t'
  else if c == 'n' then some '\n'
  else if c == 'r' then some '\r'
  else if c == 'v' then some '\x0B'
  else none

/-- The Perl class a letter names, and whether it is negated (upper case). -/
def perlOf? (c : Char) : Option (PerlClass × Bool) :=
  if c == 'd' then some (.digit, false)
  else if c == 's' then some (.space, false)
  else if c == 'w' then some (.word, false)
  else if c == 'D' then some (.digit, true)
  else if c == 'S' then some (.space, true)
  else if c == 'W' then some (.word, true)
  else none

/-! ### Escapes -/

/-- What an escape stands for. -/
inductive Escape where
  | literal (l : Literal)
  | assertion (a : Assertion)
  | perl (kind : PerlClass) (negated : Bool)
  | property (negated : Bool)

/-- Reads the hex digits of `\x{…}`, `\u{…}` or `\U{…}` from the current character (the `{` or
a digit already read) up to the closing brace, which is left in place. -/
def hexBraced (x : Bool) : Nat → List Char → List Char → Option (List Char × List Char)
  | 0, _, _ => none
  | fuel + 1, acc, cs =>
    match advance x cs with
    | [] => none
    | c :: rest =>
      if c == '\x7d' then some (acc, c :: rest)
      else if isHex c then hexBraced x fuel (acc ++ [c]) (c :: rest)
      else none

/-- Reads `n` hex digits of a fixed escape, blanks between them skipped under the `x` flag. -/
def hexFixed (x : Bool) : Nat → List Char → List Char → Option (List Char × List Char)
  | 0, acc, cs => some (acc, cs)
  | _ + 1, _, [] => none
  | n + 1, acc, c :: rest =>
    if !isHex c then none
    else
      let after := skipSpace x rest
      if n == 0 then some (acc ++ [c], after)
      else if after.isEmpty then none
      else hexFixed x n (acc ++ [c]) after

/-- Reads a hex escape after its letter: `width` digits, or any number in braces; the code must
name a character. -/
def readHex (x : Bool) (width : Nat) (byte : Bool) (cs : List Char) :
    Option (Escape × List Char) :=
  match skipSpace x cs with
  | [] => none
  | c :: rest =>
    if c == '\x7b' then
      match hexBraced x (rest.length + 1) [] (c :: rest) with
      | some (ds, _ :: after) =>
        if ds.isEmpty then none
        else (scalarChar? (hexValue ds)).map fun ch => (.literal ⟨ch, false⟩, skipSpace x after)
      | _ => none
    else
      match hexFixed x width [] (c :: rest) with
      | some (ds, after) =>
        (scalarChar? (hexValue ds)).map fun ch => (.literal ⟨ch, byte⟩, after)
      | none => none

/-- Skips a braced property name from the current character up to and past its closing brace. -/
def propertyBraced (x : Bool) : Nat → List Char → Option (List Char)
  | 0, _ => none
  | fuel + 1, cs =>
    match advance x cs with
    | [] => none
    | c :: rest => if c == '\x7d' then some rest else propertyBraced x fuel (c :: rest)

/-- Reads a property class after its `p` or `P`: a braced name or one letter. -/
def readProperty (x : Bool) (negated : Bool) (cs : List Char) : Option (Escape × List Char) :=
  match skipSpace x cs with
  | [] => none
  | c :: rest =>
    if c == '\x7b' then (propertyBraced x (rest.length + 1) (c :: rest)).map (.property negated, ·)
    else if c == '\\' then none
    else some (.property negated, skipSpace x rest)

/-- Whether a character can spell the name of a special word boundary. -/
def isBoundaryNameChar (c : Char) : Bool :=
  ('a' ≤ c && c ≤ 'z') || ('A' ≤ c && c ≤ 'Z') || c == '-'

/-- Reads the letters of a special word boundary's name, blanks between them skipped under the
`x` flag. -/
def boundaryName (x : Bool) : Nat → List Char → List Char → List Char × List Char
  | 0, acc, cs => (acc, cs)
  | fuel + 1, acc, cs =>
    match cs with
    | c :: rest => if isBoundaryNameChar c then boundaryName x fuel (acc ++ [c]) (skipSpace x rest)
      else (acc, cs)
    | [] => (acc, [])

/-- Reads what follows `\b`: a special word boundary `{start}`, `{end}`, `{start-half}` or
`{end-half}`, or the plain boundary when the brace opens no name (it is then read again as a
count). -/
def readWordBoundary (x : Bool) (cs : List Char) : Option (Escape × List Char) :=
  match cs with
  | '\x7b' :: rest =>
    match skipSpace x rest with
    | [] => none
    | c :: more =>
      if !isBoundaryNameChar c then some (.assertion .wordBoundary, cs)
      else
        match boundaryName x (more.length + 1) [] (c :: more) with
        | (name, '\x7d' :: after) =>
          let kind : Option Assertion :=
            if name == "start".toList then some .wordStart
            else if name == "end".toList then some .wordEnd
            else if name == "start-half".toList then some .wordStartHalf
            else if name == "end-half".toList then some .wordEndHalf
            else none
          kind.map fun k => (.assertion k, after)
        | _ => none
  | _ => some (.assertion .wordBoundary, cs)

/-- Reads an escape after its backslash. -/
def readEscape (x : Bool) : List Char → Option (Escape × List Char)
  | [] => none
  | c :: rest =>
    if c.isDigit then none
    else if c == 'x' then readHex x 2 true rest
    else if c == 'u' then readHex x 4 false rest
    else if c == 'U' then readHex x 8 false rest
    else if c == 'p' || c == 'P' then readProperty x (c == 'P') rest
    else match perlOf? c with
      | some (k, negated) => some (.perl k negated, rest)
      | none =>
        if isEscapable c then some (.literal ⟨c, false⟩, rest)
        else match specialEscape? c with
          | some ch => some (.literal ⟨ch, false⟩, rest)
          | none =>
            if c == 'A' then some (.assertion .startText, rest)
            else if c == 'z' then some (.assertion .endText, rest)
            else if c == 'b' then readWordBoundary x rest
            else if c == 'B' then some (.assertion .notWordBoundary, rest)
            else if c == '<' then some (.assertion .wordStart, rest)
            else if c == '>' then some (.assertion .wordEnd, rest)
            else none

/-! ### Bracketed classes -/

/-- The names of the ASCII classes. -/
def asciiClassNames : List String :=
  ["alnum", "alpha", "ascii", "blank", "cntrl", "digit", "graph", "lower", "print", "punct",
    "space", "upper", "word", "xdigit"]

/-- Reads an ASCII class `[:name:]` or `[:^name:]` at a `[`, or nothing. -/
def asciiClass? (cs : List Char) : Option (ClassTree × List Char) :=
  match cs with
  | '[' :: ':' :: rest =>
    let (negated, rest) := match rest with
      | '^' :: r => (true, r)
      | r => (false, r)
    let name := rest.takeWhile (· != ':')
    match rest.drop name.length with
    | ':' :: ']' :: after =>
      if asciiClassNames.contains (String.ofList name) then
        some (.ascii (String.ofList name) negated, after)
      else none
    | _ => none
  | _ => none

/-- One item of a class as a class tree: an assertion is no class item. -/
def Escape.classItem? : Escape → Option ClassTree
  | .literal l => some (.literal l)
  | .perl k negated => some (.perl k negated)
  | .property negated => some (.property negated)
  | .assertion _ => none

/-- The literal an escape stands for, if it stands for one. -/
def Escape.literal? : Escape → Option Literal
  | .literal l => some l
  | _ => none

/-- Reads one item of a class: an escape or a character as itself. -/
def readClassPrimitive (x : Bool) : List Char → Option (Escape × List Char)
  | '\\' :: rest => readEscape x rest
  | c :: rest => some (.literal ⟨c, false⟩, rest)
  | [] => none

/-- Reads an item of a class that may be a range `a-b`; a `-` before `]` or `-` ends no range. -/
def readClassRange (x : Bool) (cs : List Char) : Option (ClassTree × List Char) := do
  let (first, cs) ← readClassPrimitive x cs
  match skipSpace x cs with
  | [] => none
  | c :: rest =>
    let next := peekSpace x (c :: rest)
    if c != '-' || next == some ']' || next == some '-' then
      (first.classItem?).map (·, c :: rest)
    else
      let cs := skipSpace x rest
      if cs.isEmpty then none
      else
        let (last, cs) ← readClassPrimitive x cs
        let lo ← first.literal?
        let hi ← last.literal?
        if lo.char.toNat ≤ hi.char.toNat then some (.range lo hi, cs) else none

/-- Reads the leading `-` characters of a class, each a literal. -/
def leadingDashes (x : Bool) : Nat → List Char → Option (List ClassTree × List Char)
  | 0, _ => none
  | fuel + 1, cs =>
    match cs with
    | '-' :: rest =>
      let after := skipSpace x rest
      if after.isEmpty then none
      else (leadingDashes x fuel after).map fun (ds, r) => (.literal ⟨'-', false⟩ :: ds, r)
    | _ => some ([], cs)

/-- Opens a class at its `[`: whether it is negated, and the items it starts with (leading `-`
characters, or a `]` that comes first). -/
def openClass (x : Bool) (cs : List Char) : Option (Bool × List ClassTree × List Char) := do
  let cs := advance x cs
  if cs.isEmpty then none
  let (negated, cs) ← match cs with
    | '^' :: rest =>
      let r := skipSpace x rest
      if r.isEmpty then none else some (true, r)
    | _ => some (false, cs)
  let (dashes, cs) ← leadingDashes x (cs.length + 1) cs
  match dashes, cs with
  | [], ']' :: rest =>
    let r := skipSpace x rest
    if r.isEmpty then none else some (negated, [.literal ⟨']', false⟩], r)
  | _, _ => some (negated, dashes, cs)

/-- What a class reader keeps for each class opened around the current one, and for a set
operation waiting for its right side. -/
inductive ClassFrame where
  | opened (parent : List ClassTree) (negated : Bool)
  | pending (kind : SetOp) (lhs : ClassTree)

/-- The items of a union as one class tree. -/
def unionOf : List ClassTree → ClassTree
  | [] => .empty
  | [item] => item
  | items => .union items

/-- Completes a pending set operation with its right side. -/
def closeOp (stack : List ClassFrame) (rhs : ClassTree) : ClassTree × List ClassFrame :=
  match stack with
  | .pending kind lhs :: rest => (.op kind lhs rhs, rest)
  | _ => (rhs, stack)

/-- Reads the rest of a bracketed class: `stack` holds the classes opened around the current
one, `items` the current union. Gives the outermost class, negated or not, and what follows. -/
def classBody (x : Bool) : Nat → List ClassFrame → List ClassTree → List Char →
    Option ((Bool × ClassTree) × List Char)
  | 0, _, _, _ => none
  | fuel + 1, stack, items, cs =>
    match skipSpace x cs with
    | [] => none
    | c :: rest =>
      if c == '[' then
        match asciiClass? (c :: rest) with
        | some (item, after) => classBody x fuel stack (items ++ [item]) after
        | none =>
          match openClass x (c :: rest) with
          | some (negated, inner, after) =>
            classBody x fuel (.opened items negated :: stack) inner after
          | none => none
      else if c == ']' then
        match closeOp stack (unionOf items) with
        | (set, .opened parent negated :: outer) =>
          if outer.isEmpty then some ((negated, set), rest)
          else classBody x fuel outer (parent ++ [.bracketed negated set]) rest
        | _ => none
      else if (c == '&' || c == '-' || c == '~') && rest.head? == some c then
        let (lhs, stack) := closeOp stack (unionOf items)
        classBody x fuel (.pending (SetOp.ofChar c) lhs :: stack) [] rest.tail
      else
        match readClassRange x (c :: rest) with
        | some (item, after) => classBody x fuel stack (items ++ [item]) after
        | none => none

/-- Reads a bracketed class at its `[`. -/
def readClass (x : Bool) (cs : List Char) : Option ((Bool × ClassTree) × List Char) :=
  match openClass x cs with
  | some (negated, items, after) =>
    classBody x (after.length + 1) [.opened [] negated] items after
  | none => none

/-! ### Groups, counts and the pattern -/

/-- Whether a character may stand in a group name, first or later. -/
def isNameChar (c : Char) (first : Bool) : Bool :=
  if first then c == '_' || Text.isAlphabetic c
  else c == '_' || c == '.' || c == '[' || c == ']' || Text.isAlphanumeric c

/-- Reads a group name up to and past its `>`. -/
def nameChars : Bool → List Char → Option (List Char × List Char)
  | _, [] => none
  | first, c :: rest =>
    if c == '>' then some ([], rest)
    else if isNameChar c first then (nameChars false rest).map fun (n, r) => (c :: n, r)
    else none

/-- Reads a flag list up to `:` or `)`: the flags, the closing character and what follows it.
`negating` says whether the `-` has come, and `lastNegation` whether it came last. -/
def readFlags :
    List Char → FlagChanges → Bool → Bool → Option (FlagChanges × Char × List Char)
  | [], _, _, _ => none
  | c :: rest, acc, negating, lastNegation =>
    if c == ':' || c == ')' then
      if lastNegation then none else some (acc, c, rest)
    else
      let step : Option (FlagChanges × Bool) :=
        if c == '-' then (if negating then none else some (acc, true))
        else match Flag.ofChar? c with
          | some f => if acc.any (·.1 == f) then none else some (acc ++ [(f, !negating)], negating)
          | none => none
      match step with
      | some (acc, negating) =>
        if rest.isEmpty then none else readFlags rest acc negating (c == '-')
      | none => none

/-- What an opening parenthesis starts. -/
inductive Opening where
  /-- flags for the rest of the enclosing group -/
  | setFlags (changes : FlagChanges)
  /-- a group, with its flags if it has them and its name if it is named -/
  | group (flags : Option FlagChanges) (name : Option String)

/-- Whether a text starts with a prefix. -/
def startsWith (cs : List Char) (lead : String) : Bool := cs.take lead.length == lead.toList

/-- Reads what follows an opening parenthesis; `names` are the group names read so far. -/
def readOpening (x : Bool) (names : List String) (cs : List Char) : Option (Opening × List Char) :=
  let cs := skipSpace x cs
  let named (rest : List Char) : Option (Opening × List Char) :=
    match nameChars true rest with
    | some (name, after) =>
      let name := String.ofList name
      if name.isEmpty || names.contains name then none else some (.group none (some name), after)
    | none => none
  if ["?=", "?!", "?<=", "?<!"].any (startsWith cs) then none
  else if startsWith cs "?P<" then named (cs.drop 3)
  else if startsWith cs "?<" then named (cs.drop 2)
  else match cs with
    | '?' :: rest =>
      if rest.isEmpty then none
      else match readFlags rest [] false false with
        | some (changes, ')', after) =>
          if changes.isEmpty then none else some (.setFlags changes, after)
        | some (changes, _, after) => some (.group (some changes) none, after)
        | none => none
    | _ => some (.group none none, cs)

/-- Reads ASCII digits, blanks between them skipped under the `x` flag. -/
def countDigits (x : Bool) : Nat → List Char → List Char × List Char
  | 0, cs => ([], cs)
  | fuel + 1, cs =>
    match cs with
    | c :: rest =>
      if c.isDigit then
        let (ds, r) := countDigits x fuel (skipSpace x rest)
        (c :: ds, r)
      else ([], cs)
    | [] => ([], [])

/-- Reads a decimal number of a count, blanks around it allowed: none when it has no digits or
exceeds `0xFFFFFFFF`. -/
def readDecimal (x : Bool) (cs : List Char) : Option Nat × List Char :=
  let cs := cs.dropWhile Text.isBlank
  let (ds, cs) := countDigits x (cs.length + 1) cs
  let cs := match cs with
    | c :: _ => if Text.isBlank c then (if x then skipSpace x cs else cs.dropWhile Text.isBlank)
      else cs
    | [] => []
  let v := ds.foldl (fun n c => n * 10 + (c.toNat - '0'.toNat)) 0
  (if ds.isEmpty || v > 0xFFFFFFFF then none else some v, cs)

/-- Reads the bounds of a count after its brace, up to the closing brace, which is left in
place. -/
def countBounds (x : Bool) (cs : List Char) : Option ((Nat × Option Nat) × List Char) :=
  let (start, cs) := readDecimal x cs
  match cs with
  | [] => none
  | ',' :: rest =>
    match skipSpace x rest with
    | [] => none
    | '\x7d' :: more => start.map fun lo => ((lo, none), '\x7d' :: more)
    | c :: more =>
      match start, readDecimal x (c :: more) with
      | some lo, (some hi, after) => some ((lo, some hi), after)
      | _, _ => none
  | c :: rest => start.map fun n => ((n, some n), c :: rest)

/-- Reads a count `{n}`, `{n,}` or `{n,m}` at its brace, with a `?` after it: the bounds and
what follows. -/
def readCount (x : Bool) (cs : List Char) : Option ((Nat × Option Nat) × List Char) :=
  match advance x cs with
  | [] => none
  | cs =>
    match countBounds x cs with
    | some ((lo, hi), '\x7d' :: rest) =>
      let after := match advance x ('\x7d' :: rest) with
        | '?' :: r => r
        | r => r
      if hi.any (· < lo) then none else some ((lo, hi), after)
    | _ => none

/-- The bounds a repetition operator stands for. -/
def operatorBounds (c : Char) : Nat × Option Nat :=
  if c == '?' then (0, some 1) else if c == '*' then (0, none) else (1, none)

/-- A concatenation of items as one node. -/
def concatOf : List Node → Node
  | [] => .empty
  | [item] => item
  | items => .concat items

/-- What the pattern reader keeps for each group opened around the current place, and for an
alternation being read. -/
inductive GroupFrame where
  /-- a group, with the items before it, its flags and the `x` flag outside it -/
  | group (before : List Node) (flags : Option FlagChanges) (x : Bool)
  | alternation (branches : List Node)

/-- The pattern reader's state: the items of the current concatenation, the open groups and
alternations, the group names so far and whether the `x` flag is on. -/
structure Reader where
  items : List Node := []
  stack : List GroupFrame := []
  names : List String := []
  x : Bool := false

/-- The item a repetition applies to, taken off the current items; a flag setting or nothing
cannot be repeated. -/
def Reader.takeLast (r : Reader) : Option (Node × Reader) :=
  match r.items.getLast? with
  | some (.flags _) | none => none
  | some item => some (item, { r with items := r.items.dropLast })

/-- Adds an item to the current concatenation. -/
def Reader.push (r : Reader) (n : Node) : Reader := { r with items := r.items ++ [n] }

/-- Ends a branch at `|`. -/
def Reader.alternate (r : Reader) : Reader :=
  match r.stack with
  | .alternation branches :: rest =>
    { r with items := [], stack := .alternation (branches ++ [concatOf r.items]) :: rest }
  | stack => { r with items := [], stack := .alternation [concatOf r.items] :: stack }

/-- Closes a group at `)`. -/
def Reader.closeGroup (r : Reader) : Option Reader :=
  match r.stack with
  | .group before flags x :: rest =>
    some { r with items := before ++ [.group flags (concatOf r.items)], stack := rest, x }
  | .alternation branches :: .group before flags x :: rest =>
    some { r with
      items := before ++ [.group flags (.alternation (branches ++ [concatOf r.items]))]
      stack := rest, x }
  | _ => none

/-- Ends the pattern: no group may be left open. -/
def Reader.finish (r : Reader) : Option Node :=
  match r.stack with
  | [] => some (concatOf r.items)
  | [.alternation branches] => some (.alternation (branches ++ [concatOf r.items]))
  | _ => none

/-- Reads an item that is no operator: an escape, `.`, `^`, `$` or a character as itself. -/
def readPrimitive (x : Bool) : List Char → Option (Node × List Char)
  | '\\' :: rest =>
    (readEscape x rest).map fun (e, after) =>
      let node : Node := match e with
        | .literal l => .literal l
        | .assertion a => .assertion a
        | .perl k negated => .perl k negated
        | .property negated => .property negated
      (node, after)
  | '.' :: rest => some (.dot, rest)
  | '^' :: rest => some (.assertion .startLine, rest)
  | '$' :: rest => some (.assertion .endLine, rest)
  | c :: rest => some (.literal ⟨c, false⟩, rest)
  | [] => none

/-- Reads a pattern from the current place; `fuel` bounds the number of steps, each of which
reads at least one character. -/
def readFrom : Nat → Reader → List Char → Option Node
  | 0, _, _ => none
  | fuel + 1, r, cs =>
    match skipSpace r.x cs with
    | [] => r.finish
    | c :: rest =>
      if c == '(' then
        match readOpening r.x r.names rest with
        | some (.setFlags changes, after) =>
          readFrom fuel { r.push (.flags changes) with
            x := (changes.state? .ignoreWhitespace).getD r.x } after
        | some (.group flags name, after) =>
          readFrom fuel
            { items := [], stack := .group r.items flags r.x :: r.stack
              names := r.names ++ name.toList
              x := ((flags.bind (·.state? .ignoreWhitespace))).getD r.x } after
        | none => none
      else if c == ')' then
        match r.closeGroup with
        | some r => readFrom fuel r rest
        | none => none
      else if c == '|' then readFrom fuel r.alternate rest
      else if c == '[' then
        match readClass r.x (c :: rest) with
        | some ((negated, set), after) => readFrom fuel (r.push (.bracketed negated set)) after
        | none => none
      else if c == '?' || c == '*' || c == '+' then
        match r.takeLast with
        | some (sub, r) =>
          let after := match rest with
            | '?' :: more => more
            | more => more
          let (lo, hi) := operatorBounds c
          readFrom fuel (r.push (.repetition lo hi sub)) after
        | none => none
      else if c == '\x7b' then
        match r.takeLast with
        | some (sub, r) =>
          match readCount r.x (c :: rest) with
          | some ((lo, hi), after) => readFrom fuel (r.push (.repetition lo hi sub)) after
          | none => none
        | none => none
      else
        match readPrimitive r.x (c :: rest) with
        | some (node, after) => readFrom fuel (r.push node) after
        | none => none

/-- The deepest nesting a pattern may have. -/
def nestLimit : Nat := 250

mutual

/-- How deeply a class tree nests: unions, set operations and nested classes count. -/
def ClassTree.depth : ClassTree → Nat
  | .bracketed _ set => set.depth + 1
  | .union items => ClassTree.maxDepth items + 1
  | .op _ lhs rhs => max lhs.depth rhs.depth + 1
  | _ => 0

/-- The deepest of some class trees. -/
def ClassTree.maxDepth : List ClassTree → Nat
  | [] => 0
  | t :: ts => max t.depth (ClassTree.maxDepth ts)

end

mutual

/-- How deeply a pattern nests: classes, repetitions, groups, alternations and concatenations
count. -/
def Node.depth : Node → Nat
  | .bracketed _ set => set.depth + 1
  | .repetition _ _ sub => sub.depth + 1
  | .group _ sub => sub.depth + 1
  | .alternation branches => Node.maxDepth branches + 1
  | .concat items => Node.maxDepth items + 1
  | _ => 0

/-- The deepest of some patterns. -/
def Node.maxDepth : List Node → Nat
  | [] => 0
  | n :: ns => max n.depth (Node.maxDepth ns)

end

/-- Reads a pattern, or nothing when it breaks the grammar or nests too deeply. -/
def parse? (text : String) : Option Node :=
  match readFrom (text.length + 1) {} text.toList with
  | some node => if node.depth ≤ nestLimit then some node else none
  | none => none

end MinuteWindow.Pattern
