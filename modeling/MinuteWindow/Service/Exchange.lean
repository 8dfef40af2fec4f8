import MinuteWindow.Text.Digits
import MinuteWindow.Text.Utf8
/-! Requests and responses of the HTTP service.

A request is its method, its target, its header fields in the order they were given (names in
lower case) and its body bytes. A response is a status, header fields and body bytes. The
service reads only the path of the target (`Request.path`). -/
namespace MinuteWindow.Service

/-- A header field: lower-case name and value. -/
abbrev Header := String × String

/-- An HTTP request. -/
structure Request where
  method : String
  target : String
  headers : List Header
  body : List UInt8
  deriving Repr

/-- The part of a target before its query or fragment. -/
def beforeQuery (cs : List Char) : List Char := cs.takeWhile fun c => c != '?' && c != '#'

/-- Characters of a URI scheme: ASCII letters and digits, `+`, `-` and `.`. -/
def isSchemeChar (c : Char) : Bool :=
  (c.isAlphanum && c.toNat < 128) || c == '+' || c == '-' || c == '.'

/-- What follows `scheme://` in an absolute target, if the target starts with a scheme. A scheme
is any run of scheme characters, so it may start with a digit or be empty (`://host/`); a target
of three characters or fewer has none. -/
def afterScheme? (cs : List Char) : Option (List Char) :=
  if cs.length ≤ 3 then none
  else match cs.dropWhile isSchemeChar with
    | ':' :: '/' :: '/' :: rest => some rest
    | _ => none

/-- The path of the request target. An origin-form target (`/a/b?q`) gives everything before
its query or fragment; an absolute target (`http://host/a?q`, `1x://host/a`) gives the same of
what follows its authority, or `/` when that is empty; `*` is its own path; anything else, such
as the authority form `host:80`, has an empty path. -/
def Request.path (r : Request) : String :=
  match r.target.toList with
  | cs@('/' :: _) => String.ofList (beforeQuery cs)
  | ['*'] => "*"
  | cs => match afterScheme? cs with
    | some rest =>
      let p := beforeQuery (rest.dropWhile fun c => c != '/' && c != '?' && c != '#')
      if p.isEmpty then "/" else String.ofList p
    | none => ""

/-- The first value of a header field, if the request has it. -/
def Request.header? (r : Request) (name : String) : Option String :=
  (r.headers.find? (·.1 == name)).map (·.2)

/-- An HTTP response. -/
structure Response where
  status : Nat
  headers : List Header
  body : List UInt8
  deriving Repr

/-- The `Content-Type` of plain text bodies. -/
def plainText : String := "text/plain; charset=utf-8"

/-- The `Content-Type` of JSON bodies. -/
def jsonType : String := "application/json"

/-- A response with a body of the given type and its `Content-Length`. -/
def Response.withBody (status : Nat) (type : String) (body : List UInt8) : Response :=
  ⟨status, [("content-type", type), ("content-length", Text.decimal body.length)], body⟩

/-- A plain text response. -/
def Response.text (status : Nat) (s : String) : Response :=
  .withBody status plainText (Text.utf8Bytes s)

/-- Adds header fields, replacing none. -/
def Response.addHeaders (r : Response) (hs : List Header) : Response :=
  { r with headers := r.headers ++ hs }

/-- Whether a response has a header field of this name. -/
def Response.hasHeader (r : Response) (name : String) : Bool := r.headers.any (·.1 == name)

end MinuteWindow.Service
