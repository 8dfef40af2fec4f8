/-! Socket addresses, and which of them a listener can bind.

A socket address is an IPv4 address and a port (`127.0.0.1:80`) or a bracketed IPv6 address
with an optional numeric zone and a port (`[::1%2]:80`). IPv4 parts are decimal numbers up to
255 without leading zeros; IPv6 groups are up to four hex digits, `::` stands for one or more
zero groups and the last two groups may be written as an IPv4 address; a port is decimal (leading
zeros allowed) up to 65535.

Text that is not a socket address is taken as `host:port`, split at the last colon: with no
colon it is refused as an invalid socket address, a port that is not a number up to 65535 (an
optional `+` and digits) as an invalid port value, and a host with a NUL character as one no
lookup can take. The host is then looked up: numeric addresses stand for themselves, IPv4 ones in
the classic notation too (`127.1`, `0x7f000001`, `0177.0.0.1`), IPv6 ones with a zone after `%`
too (an interface name for link-scoped addresses, else a number; any other zone makes the name
unknown), and `localhost` is the loopback address; any other name needs a name server, and the
lookup fails.

The machine has one interface, the loopback `lo` (number 1), which holds the IPv4 network
`127.0.0.0/8` and no IPv6 address. A listener can bind that network, the IPv4 addresses the
kernel counts as broadcast or multicast, the unspecified IPv6 address and the IPv4-mapped forms of
those; IPv6 multicast addresses and link-local ones without a zone are invalid for it, a zone
that is no interface has no device, and any other address is not one of the machine's. -/
namespace MinuteWindow.Net

/-- A host address. An IPv6 address carries its zone, the number of the interface it is scoped
to (`0` for none). -/
inductive Host where
  | v4 (a b c d : Nat)
  | v6 (groups : List Nat) (zone : Nat)
  deriving DecidableEq, Repr

/-- A socket address. -/
structure SocketAddress where
  host : Host
  port : Nat
  deriving DecidableEq, Repr

/-- The value of a digit in a radix. -/
def digitValue (radix : Nat) (c : Char) : Option Nat :=
  let v := if c.isDigit then some (c.toNat - '0'.toNat)
    else if 'a' ≤ c && c ≤ 'z' then some (c.toNat - 'a'.toNat + 10)
    else if 'A' ≤ c && c ≤ 'Z' then some (c.toNat - 'A'.toNat + 10)
    else none
  v.bind fun d => if d < radix then some d else none

/-- Reads all the digits at the front: value, count, and what follows; none past `bound`. -/
def digitRun (radix bound : Nat) : List Char → Nat → Nat → Option (Nat × Nat × List Char)
  | [], acc, count => some (acc, count, [])
  | c :: rest, acc, count =>
    match digitValue radix c with
    | none => some (acc, count, c :: rest)
    | some d =>
      let v := acc * radix + d
      if v > bound then none else digitRun radix bound rest v (count + 1)

/-- Reads a number: at least one digit, at most `maxDigits` if given, no leading zero unless
`zeroPrefix`, and at most `bound`. -/
def readNumber (radix : Nat) (maxDigits : Option Nat) (zeroPrefix : Bool) (bound : Nat)
    (cs : List Char) : Option (Nat × List Char) := do
  let (v, count, rest) ← digitRun radix bound cs 0 0
  if count == 0 then none
  else if maxDigits.any (count > ·) then none
  else if !zeroPrefix && cs.head? == some '0' && count > 1 then none
  else some (v, rest)

/-- Reads a character. -/
def expectChar (c : Char) : List Char → Option (List Char)
  | d :: rest => if c == d then some rest else none
  | [] => none

/-- Reads an IPv4 address. -/
def readIpv4 (cs : List Char) : Option ((Nat × Nat × Nat × Nat) × List Char) := do
  let octet (s : List Char) := readNumber 10 (some 3) false 255 s
  let (a, r) ← octet cs
  let (b, r) ← octet (← expectChar '.' r)
  let (c, r) ← octet (← expectChar '.' r)
  let (d, r) ← octet (← expectChar '.' r)
  return ((a, b, c, d), r)

/-- Reads colon-separated IPv6 groups into `slots` slots, from group `index` on; the last two
slots may hold an IPv4 address. Returns the groups, whether an IPv4 address ended them, and what
follows. -/
def readGroups : Nat → Nat → List Char → List Nat × Bool × List Char
  | 0, _, cs => ([], false, cs)
  | k + 1, index, cs =>
    let afterSep := if index > 0 then expectChar ':' cs else some cs
    let v4 := if k ≥ 1 then afterSep.bind readIpv4 else none
    match v4 with
    | some ((a, b, c, d), r) => ([a * 256 + b, c * 256 + d], true, r)
    | none =>
      match afterSep.bind (readNumber 16 (some 4) true 0xFFFF) with
      | some (g, r) =>
        let (gs, ended, r') := readGroups k (index + 1) r
        (g :: gs, ended, r')
      | none => ([], false, cs)

/-- Reads an IPv6 address. -/
def readIpv6 (cs : List Char) : Option (List Nat × List Char) := do
  let (head, headV4, r) := readGroups 8 0 cs
  if head.length == 8 then return (head, r)
  if headV4 then none
  let r ← expectChar ':' r
  let r ← expectChar ':' r
  let (tail, _, r) := readGroups (8 - (head.length + 1)) 0 r
  return (head ++ List.replicate (8 - head.length - tail.length) 0 ++ tail, r)

/-- Reads a port after its colon. -/
def readPort (cs : List Char) : Option (Nat × List Char) := do
  readNumber 10 none true 0xFFFF (← expectChar ':' cs)

/-- Parses a socket address. -/
def SocketAddress.parse? (s : String) : Option SocketAddress :=
  let cs := s.toList
  let v4 : Option SocketAddress := do
    let ((a, b, c, d), r) ← readIpv4 cs
    let (port, r) ← readPort r
    if r.isEmpty then some ⟨.v4 a b c d, port⟩ else none
  let v6 : Option SocketAddress := do
    let r ← expectChar '[' cs
    let (groups, r) ← readIpv6 r
    let (zone, r) ← match r with
      | '%' :: r' => readNumber 10 none true 0xFFFFFFFF r'
      | _ => some (0, r)
    let r ← expectChar ']' r
    let (port, r) ← readPort r
    if r.isEmpty then some ⟨.v6 groups zone, port⟩ else none
  v4 <|> v6

/-- Splits text at its last colon. -/
def splitLastColon (s : String) : Option (String × String) :=
  let cs := s.toList
  match (cs.reverse.findIdx? (· == ':')) with
  | some i =>
    let k := cs.length - 1 - i
    some (String.ofList (cs.take k), String.ofList (cs.drop (k + 1)))
  | none => none

/-- Reads a port number as text: an optional `+` and digits, at most 65535. -/
def parsePort (s : String) : Option Nat :=
  let digits := match s.toList with
    | '+' :: rest => rest
    | cs => cs
  if digits.isEmpty || !digits.all Char.isDigit then none
  else
    let v := digits.foldl (fun a c => a * 10 + (c.toNat - '0'.toNat)) 0
    if v ≤ 0xFFFF then some v else none

/-- Reads the digits of `radix` at the front, with their value and what follows. -/
def radixRun (radix : Nat) (cs : List Char) : List Char × Nat × List Char :=
  let ds := cs.takeWhile fun c => (digitValue radix c).isSome
  (ds, ds.foldl (fun a c => a * radix + (digitValue radix c).getD 0) 0, cs.drop ds.length)

/-- Reads one part of a host number in the classic notation, which must start with a digit:
`0x` and hex digits, `0` and octal digits, or decimal digits. A `0x` without hex digits reads
as `0`, leaving the `x` behind. -/
def classicPart : List Char → Option (Nat × List Char)
  | '0' :: x :: rest =>
    if x == 'x' || x == 'X' then
      match radixRun 16 rest with
      | ([], _, _) => some (0, x :: rest)
      | (_, v, after) => some (v, after)
    else
      let (_, v, after) := radixRun 8 (x :: rest)
      some (v, after)
  | c :: rest =>
    if c.isDigit then some (radixRun 10 (c :: rest)).2 else none
  | [] => none

/-- Reads the dot-separated parts of a host number in the classic notation, each at most
`0xFFFFFFFF`; `fuel` bounds the number of parts. -/
def classicParts : Nat → List Char → Option (List Nat)
  | 0, _ => none
  | fuel + 1, cs => do
    let (v, rest) ← classicPart cs
    if v > 0xFFFFFFFF then none
    else match rest with
      | [] => some [v]
      | '.' :: more => return v :: (← classicParts fuel more)
      | _ => none

/-- An IPv4 address in the classic notation of `a.b.c.d`, `a.b.c`, `a.b` or `a`: each part but
the last is a byte, and the last fills the remaining bytes (16 bits in `a.b.c`, 24 in `a.b`, all
32 in `a`). -/
def readClassicIpv4 (cs : List Char) : Option Host := do
  let parts ← classicParts 4 cs
  let init := parts.dropLast
  let last ← parts.getLast?
  if init.any (· > 0xFF) then none
  else
    let room := Nat.pow 256 (4 - init.length)
    if last ≥ room then none
    else
      let v := init.foldl (fun a p => a * 256 + p) 0 * room + last
      some (.v4 (v / 0x1000000) (v / 0x10000 % 256) (v / 0x100 % 256) (v % 256))

/-- The number of the machine's only interface, the loopback `lo`. -/
def loopbackInterface : Nat := 1

/-- The number of the interface of a name. -/
def interfaceNumber? (name : String) : Option Nat :=
  if name == "lo" then some loopbackInterface else none

/-- Whether an IPv6 address is scoped to a link: a link-local address (`fe80::/10`) or a
node- or link-local multicast address (`ff01::/16`, `ff02::/16`, whatever the flags). -/
def linkScoped (groups : List Nat) : Bool :=
  groups.head?.any fun g =>
    g / 64 == 0xFE80 / 64 || (g / 256 == 0xFF && (g % 16 == 1 || g % 16 == 2))

/-- Reads the zone of an IPv6 host name, the text after its `%`: an interface name for a
link-scoped address, else decimal digits up to `0xFFFFFFFF`. -/
def zoneOf? (groups : List Nat) (text : String) : Option Nat :=
  match (if linkScoped groups then interfaceNumber? text else none) with
  | some n => some n
  | none =>
    let cs := text.toList
    if cs.isEmpty || !cs.all Char.isDigit then none
    else
      let v := cs.foldl (fun a c => a * 10 + (c.toNat - '0'.toNat)) 0
      if v ≤ 0xFFFFFFFF then some v else none

/-- The message of a lookup of a name that cannot be known. -/
def unknownName : String := "failed to lookup address information: Name or service not known"

/-- Looks up a host name: numeric addresses (IPv4 in the classic notation, or IPv6 with an
optional zone) and `localhost`. -/
def lookupHost (host : String) : Except String Host :=
  match readClassicIpv4 host.toList with
  | some h => .ok h
  | none =>
    let (address, zone) := host.toList.span (· != '%')
    match readIpv6 address with
    | some (groups, []) =>
      match zone with
      | _ :: text => match zoneOf? groups (String.ofList text) with
        | some z => .ok (.v6 groups z)
        | none => .error unknownName
      | [] => .ok (.v6 groups 0)
    | _ =>
      if host.map Char.toLower == "localhost" then .ok (.v4 127 0 0 1)
      else if host.isEmpty then .error unknownName
      else .error "failed to lookup address information: Temporary failure in name resolution"

/-- Resolves text to a socket address, as binding a listener does. -/
def resolve (s : String) : Except String SocketAddress :=
  match SocketAddress.parse? s with
  | some a => .ok a
  | none =>
    match splitLastColon s with
    | none => .error "invalid socket address"
    | some (host, portText) =>
      match parsePort portText with
      | none => .error "invalid port value"
      | some port =>
        if host.toList.contains '\x00' then .error "file name contained an unexpected NUL byte"
        else do return ⟨← lookupHost host, port⟩

/-- Why a listener cannot bind an address. -/
inductive BindRefusal where
  /-- the address is not one of the machine's -/
  | notLocal
  /-- a stream listener cannot take the address, or not without a zone -/
  | invalid
  /-- the zone is no interface -/
  | noDevice
  deriving DecidableEq, Repr

/-- The system's words for a refusal. -/
def BindRefusal.message : BindRefusal → String
  | .notLocal => "Cannot assign requested address (os error 99)"
  | .invalid => "Invalid argument (os error 22)"
  | .noDevice => "No such device (os error 19)"

/-- Whether a listener can bind an IPv4 address: the loopback network `127.0.0.0/8`, and the
addresses the kernel counts as broadcast (`0.0.0.0/8`, the unspecified address among them, and
`255.255.255.255`) or multicast (`224.0.0.0/4`). -/
def v4Bindable (a b c d : Nat) : Bool :=
  a == 127 || a == 0 || (224 ≤ a && a ≤ 239) || (a == 255 && b == 255 && c == 255 && d == 255)

/-- Why a listener cannot bind an IPv4 address, if it cannot. -/
def v4Refusal? (a b c d : Nat) : Option BindRefusal :=
  if v4Bindable a b c d then none else some .notLocal

/-- Why a listener cannot bind the host, if it cannot. An IPv4-mapped IPv6 address
(`::ffff:a.b.c.d`) is bound as its IPv4 address, and `::` always binds. A multicast address
(`ff00::/8`) is invalid, and so is a link-local one (`fe80::/10`) without a zone; with the zone of
the loopback it is not local, and with another zone there is no such device. Any other IPv6
address, the loopback `::1` included, is not local. -/
def Host.bindRefusal? : Host → Option BindRefusal
  | .v4 a b c d => v4Refusal? a b c d
  | .v6 groups zone =>
    match groups with
    | [0, 0, 0, 0, 0, 0xFFFF, hi, lo] => v4Refusal? (hi / 256) (hi % 256) (lo / 256) (lo % 256)
    | _ =>
      if groups.all (· == 0) then none
      else if groups.head?.any (· ≥ 0xFF00) then some .invalid
      else if groups.head?.any (fun g => g / 64 == 0xFE80 / 64) then
        if zone == 0 then some .invalid
        else if zone == loopbackInterface then some .notLocal
        else some .noDevice
      else some .notLocal

/-- Binds a listener on an address given as text, or says why not. -/
def bind (s : String) : Except String SocketAddress := do
  let a ← resolve s
  match a.host.bindRefusal? with
  | none => return a
  | some r => throw r.message

end MinuteWindow.Net
