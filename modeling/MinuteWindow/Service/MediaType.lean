/-! Media types in a `Content-Type` header, and which of them announce JSON.

A media type is `type/subtype` and then parameters `; name=value`. The type is a nonempty run of
token characters (the `tchar` of RFC 7230). The subtype is a run of token characters; its last
`+`, unless that is its first character, starts the structured-syntax suffix. A parameter name is
a nonempty run of token characters, which spaces may precede; its value is a run of token
characters or a quoted string, which spaces may follow. Anything else refuses the header, and so
does a header value that is not visible ASCII.

A request body is JSON (`announcesJson`) when the type is `application` and the subtype or the
suffix is `json`, in any case. -/
namespace MinuteWindow.Service

/-- Token characters of RFC 7230. -/
def isTokenChar (c : Char) : Bool :=
  (c.isAlphanum && c.toNat < 128) || "!#$%&'*+-.^_`|~".toList.contains c

/-- Characters a header value may hold and still be read as text: visible ASCII and tab. -/
def isHeaderTextChar (c : Char) : Bool := (32 ≤ c.toNat && c.toNat < 127) || c == '\t'

/-- Characters allowed inside a quoted parameter value: anything from the space up but DEL. -/
def isQuotedChar (c : Char) : Bool := 31 < c.toNat && c.toNat != 127

/-- A parsed media type, in lower case. -/
structure MediaType where
  type : String
  subtype : String
  suffix : Option String
  deriving DecidableEq, Repr

/-- Where the parameter reader stands. -/
inductive ParamState where
  /-- before a name, where spaces are skipped and the text may end -/
  | nameStart
  /-- inside a name -/
  | name
  /-- just after the `=` -/
  | valueStart
  /-- inside an unquoted value -/
  | value
  /-- just after an opening quote -/
  | quotedStart
  /-- inside a quoted value -/
  | quoted
  /-- after a closing quote, where spaces are skipped -/
  | afterQuoted
  deriving DecidableEq, Repr

/-- One character of the parameters; `none` refuses the header. -/
def ParamState.next : ParamState → Char → Option ParamState
  | .nameStart, c =>
    if c == ' ' then some .nameStart else if isTokenChar c then some .name else none
  | .name, c => if isTokenChar c then some .name else if c == '=' then some .valueStart else none
  | .valueStart, c =>
    if c == '"' then some .quotedStart else if isTokenChar c then some .value else none
  | .value, c => if isTokenChar c then some .value else if c == ';' then some .nameStart else none
  | .quotedStart, c => if isQuotedChar c then some .quoted else none
  | .quoted, c =>
    if c == '"' then some .afterQuoted else if isQuotedChar c then some .quoted else none
  | .afterQuoted, c =>
    if c == ';' then some .nameStart else if c == ' ' then some .afterQuoted else none

/-- Whether the text may end in this state. -/
def ParamState.accepting : ParamState → Bool
  | .nameStart | .valueStart | .value | .afterQuoted => true
  | .name | .quotedStart | .quoted => false

/-- Whether the text after the first `;` is well-formed parameters. -/
def paramsValid : ParamState → List Char → Bool
  | s, [] => s.accepting
  | s, c :: rest =>
    match s.next c with
    | some s' => paramsValid s' rest
    | none => false

/-- Reads the subtype after the slash: its characters so far (latest first), the position of
its last `+`, and the rest of the text. -/
def readSubtype (acc : List Char) (plus : Option Nat) : List Char → Option (List Char × Option Nat)
  | [] => some (acc.reverse, plus)
  | c :: rest =>
    if c == '+' && !acc.isEmpty then readSubtype (c :: acc) (some acc.length) rest
    else if c == ';' && !acc.isEmpty then
      if paramsValid .nameStart rest then some (acc.reverse, plus) else none
    else if isTokenChar c then readSubtype (c :: acc) plus rest
    else none

/-- Reads the type before the slash, then the subtype. -/
def readType (acc : List Char) : List Char → Option MediaType
  | [] => none
  | c :: rest =>
    if c == '/' && !acc.isEmpty then
      match readSubtype [] none rest with
      | none => none
      | some (sub, plus) =>
        let lower (cs : List Char) : String := String.ofList (cs.map Char.toLower)
        let type := lower acc.reverse
        match plus with
        | none => some ⟨type, lower sub, none⟩
        | some k => some ⟨type, lower (sub.take k), some (lower (sub.drop (k + 1)))⟩
    else if isTokenChar c then readType (c :: acc) rest
    else none

/-- Parses a header value as a media type. -/
def MediaType.parse? (value : String) : Option MediaType :=
  if value == "*/*" then some ⟨"*", "*", none⟩
  else if value.toList.all isHeaderTextChar then readType [] value.toList
  else none

/-- Whether the media type is JSON: `application/json`, or `application` with suffix `json`. -/
def MediaType.isJson (m : MediaType) : Bool :=
  m.type == "application" && (m.subtype == "json" || m.suffix == some "json")

/-- Whether a `Content-Type` header value announces a JSON body. -/
def announcesJson (value : String) : Bool :=
  match MediaType.parse? value with
  | some m => m.isJson
  | none => false

end MinuteWindow.Service
