import MinuteWindow.Json.Lexeme
/-! Reading JSON text.

The reader is a machine over the bytes with a stack of open containers (`Frame`s). In one step
it either reads a value where one is expected, or, holding a value just read, hands it to the
innermost open container and reads what follows it there: a comma and the next item, or the
closing bracket. Every step consumes at least one byte, so a text of `n` bytes takes at most
`n + 1` steps, which is the fuel `read` gives it.

Blanks between tokens are space, tab, line feed and carriage return. At most 127 containers may
be open at once. Within an object the last of duplicate keys wins. After the value only blanks
may follow.

A fault found inside a value carries the path to it: the keys and positions of the open
containers. A fault in the punctuation of an array (a missing comma, a trailing comma, the end of
the text) is reported at the array. In an object, a fault while reading a key or what precedes it
(the opening brace or the comma, or the end of the text there) is reported at an entry whose key
is unknown, one step below the object; a missing colon after a key is reported at the object. -/
namespace MinuteWindow.Json

/-- A container being read. -/
inductive Frame where
  /-- an array and its items so far, the latest first -/
  | array (items : List Value)
  /-- an object, its fields so far, and the key whose value is being read -/
  | object (fields : List (String × Value)) (key : String)

/-- The step into the frame's current value. -/
def Frame.segment : Frame → Segment
  | .array items => .index items.length
  | .object _ key => .key key

/-- The path of the value being read, from a stack whose innermost frame is first. -/
def pathOf (stack : List Frame) : List Segment := (stack.map Frame.segment).reverse

/-- Blank bytes between tokens. -/
def isBlankByte (b : UInt8) : Bool := b == 0x20 || b == 0x0A || b == 0x09 || b == 0x0D

/-- Bytes past the leading blanks. -/
def skipBlanks (s : List UInt8) : List UInt8 := s.dropWhile isBlankByte

/-- Most containers open at once. -/
def maxDepth : Nat := 127

/-- A fault with the path of the value it concerns. -/
def fault (path : List Segment) (f : Fault) : SyntaxError := ⟨f.1, f.2, path⟩

/-- The path of an entry of the object at `path` whose key is not known yet. -/
def entryPath (path : List Segment) : List Segment := path ++ [.unknown]

/-- Reads a key after its opening quote and the colon after it; the key's value follows. The
object is at `path`. -/
def keyAndColon (n : Nat) (path : List Segment) (s : List UInt8) :
    Except SyntaxError (String × List UInt8) := do
  let (k, rest) ← (readString n s).mapError (fault (entryPath path))
  match skipBlanks rest with
  | [] => throw ⟨.eofWhileParsingObject, n, path⟩
  | 0x3A :: r => return (k, r)
  | t@(_ :: _) => throw ⟨.expectedColon, peekOffset n t, path⟩

/-- One step of the machine: `held` is a value just read, or none where a value is expected. -/
def run (n : Nat) : Nat → List UInt8 → List Frame → Option Value →
    Except SyntaxError (Value × List UInt8)
  | 0, s, stack, _ => .error ⟨.eofWhileParsingValue, n - s.length, pathOf stack⟩
  | fuel + 1, s, stack, none =>
    let path := pathOf stack
    match skipBlanks s with
    | [] => .error ⟨.eofWhileParsingValue, n, path⟩
    | t@(b :: rest) =>
      if b == 0x6E then
        match readIdent n [0x75, 0x6C, 0x6C] rest with
        | .ok r => run n fuel r stack (some .null)
        | .error f => .error (fault path f)
      else if b == 0x74 then
        match readIdent n [0x72, 0x75, 0x65] rest with
        | .ok r => run n fuel r stack (some (.bool true))
        | .error f => .error (fault path f)
      else if b == 0x66 then
        match readIdent n [0x61, 0x6C, 0x73, 0x65] rest with
        | .ok r => run n fuel r stack (some (.bool false))
        | .error f => .error (fault path f)
      else if b == 0x2D then
        match readNumber n false rest with
        | .ok (x, r) => run n fuel r stack (some (.number x))
        | .error f => .error (fault path f)
      else if isDigitByte b then
        match readNumber n true t with
        | .ok (x, r) => run n fuel r stack (some (.number x))
        | .error f => .error (fault path f)
      else if b == 0x22 then
        match readString n rest with
        | .ok (str, r) => run n fuel r stack (some (.string str))
        | .error f => .error (fault path f)
      else if b == 0x5B then
        if maxDepth ≤ stack.length then .error ⟨.recursionLimitExceeded, peekOffset n t, path⟩
        else match skipBlanks rest with
          | [] => .error ⟨.eofWhileParsingList, n, path⟩
          | 0x5D :: r => run n fuel r stack (some (.array []))
          | u => run n fuel u (.array [] :: stack) none
      else if b == 0x7B then
        if maxDepth ≤ stack.length then .error ⟨.recursionLimitExceeded, peekOffset n t, path⟩
        else match skipBlanks rest with
          | [] => .error ⟨.eofWhileParsingObject, n, entryPath path⟩
          | 0x7D :: r => run n fuel r stack (some (.object []))
          | 0x22 :: r =>
            match keyAndColon n path r with
            | .ok (k, r') => run n fuel r' (.object [] k :: stack) none
            | .error e => .error e
          | u => .error ⟨.keyMustBeAString, peekOffset n u, entryPath path⟩
      else .error ⟨.expectedSomeValue, peekOffset n t, path⟩
  | _ + 1, s, [], some v => .ok (v, s)
  | fuel + 1, s, .array items :: stack, some v =>
    let items := v :: items
    let path := pathOf stack
    match skipBlanks s with
    | [] => .error ⟨.eofWhileParsingList, n, path⟩
    | 0x5D :: r => run n fuel r stack (some (.array items.reverse))
    | 0x2C :: r =>
      match skipBlanks r with
      | [] => .error ⟨.eofWhileParsingValue, n, path⟩
      | u@(0x5D :: _) => .error ⟨.trailingComma, peekOffset n u, path⟩
      | u => run n fuel u (.array items :: stack) none
    | t => .error ⟨.expectedListCommaOrEnd, peekOffset n t, path⟩
  | fuel + 1, s, .object fields key :: stack, some v =>
    let fields := insertField key v fields
    let path := pathOf stack
    match skipBlanks s with
    | [] => .error ⟨.eofWhileParsingObject, n, entryPath path⟩
    | 0x7D :: r => run n fuel r stack (some (.object fields))
    | 0x2C :: r =>
      match skipBlanks r with
      | [] => .error ⟨.eofWhileParsingValue, n, entryPath path⟩
      | 0x22 :: r2 =>
        match keyAndColon n path r2 with
        | .ok (k, r') => run n fuel r' (.object fields k :: stack) none
        | .error e => .error e
      | u@(0x7D :: _) => .error ⟨.trailingComma, peekOffset n u, entryPath path⟩
      | u => .error ⟨.keyMustBeAString, peekOffset n u, entryPath path⟩
    | t => .error ⟨.expectedObjectCommaOrEnd, peekOffset n t, entryPath path⟩

/-- Reads one JSON value from the front of the bytes, and the bytes after it. -/
def readPrefix (bytes : List UInt8) : Except SyntaxError (Value × List UInt8) :=
  run bytes.length (bytes.length + 1) bytes [] none

/-- Reads a whole JSON text: one value and nothing after it but blanks. -/
def read (bytes : List UInt8) : Except SyntaxError Value := do
  let (v, rest) ← readPrefix bytes
  match skipBlanks rest with
  | [] => return v
  | t => throw ⟨.trailingCharacters, peekOffset bytes.length t, []⟩

/-- Reads a whole JSON text from a string. -/
def readText (s : String) : Except SyntaxError Value := read (Text.utf8Bytes s)

end MinuteWindow.Json
