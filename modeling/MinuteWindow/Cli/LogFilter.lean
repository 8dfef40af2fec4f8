import MinuteWindow.Text.Blank
import MinuteWindow.Text.Alphanumeric
import MinuteWindow.Cli.MatchValue
/-! Which log records are shown: filter directives.

A filter is a comma-separated list of directives (empty items are skipped). A directive is read,
after trimming blanks, by a small machine: a target (which starts with a letter, a digit, `-`,
`:` or `_`), then optionally a span filter in brackets, `[name]` or `[name{field, field=value}]`,
then optionally `=level`. Closing the brackets right after the name names a span even when the
name is empty (`[]`), while an empty name before the fields names none. A target that is a level
alone is that level for every target, and a missing level allows everything. Levels are `off`,
`error`, `warn`, `info`, `debug` and `trace` in any case, or the numbers `0` to `5` for them,
which may carry a `+`. A field value must be one a field can be matched with (`MatchValue`). A
directive that does not fit makes the whole filter invalid, and the default one is used
instead.

A directive without a span name and without field values is static: it rules records outside
any span whose target starts with its own and which carry all the fields it names. Such a
record is ruled by the most specific static directive that rules it (the longest target, then
the most field names, then the largest target and field names as text; of two alike, the later
one) and is shown when its level is at most the directive's; with no such directive it is not
shown. -/
namespace MinuteWindow.Cli

/-- Log levels, from the most to the least severe; `off` shows nothing. -/
inductive Level where
  | off
  | error
  | warn
  | info
  | debug
  | trace
  deriving DecidableEq, Repr

/-- The rank of a level: a record is shown when its rank is at most the directive's. -/
def Level.rank : Level → Nat
  | .off => 0
  | .error => 1
  | .warn => 2
  | .info => 3
  | .debug => 4
  | .trace => 5

/-- The value of an unsigned decimal number, with an optional `+` before its digits. -/
def unsignedValue? (cs : List Char) : Option Nat :=
  let digits := match cs with
    | '+' :: rest => rest
    | cs => cs
  if digits.isEmpty || !digits.all Char.isDigit then none
  else some (digits.foldl (fun n c => n * 10 + (c.toNat - '0'.toNat)) 0)

/-- A level as a directive writes it: a number from `0` (off) to `5` (trace), a name in any
case, or nothing, which stands for `error`. -/
def Level.parse? (s : String) : Option Level :=
  match unsignedValue? s.toList with
  | some 0 => some .off
  | some 1 => some .error
  | some 2 => some .warn
  | some 3 => some .info
  | some 4 => some .debug
  | some 5 => some .trace
  | _ =>
    match s.map Char.toLower with
    | "" | "error" => some .error
    | "warn" => some .warn
    | "info" => some .info
    | "debug" => some .debug
    | "trace" => some .trace
    | "off" => some .off
    | _ => none

/-- A directive: the target it rules (every target when none), the span it rules inside, the
fields it names (each with whether a value is given) and its level. -/
structure Directive where
  target : Option String
  span : Option String
  fields : List (String × Bool)
  level : Level
  deriving DecidableEq, Repr

/-- Whether a directive rules records outside spans: it names no span and gives no field
value. -/
def Directive.isStatic (d : Directive) : Bool := d.span.isNone && d.fields.all (!·.2)

/-- A directive of a level for every target. -/
def Directive.global (l : Level) : Directive := ⟨none, none, [], l⟩

/-- Where the directive reader stands, with the index where the current part started. -/
inductive DirectiveState where
  | start
  | levelOrTarget (start : Nat)
  | span (start : Nat)
  | field (start : Nat)
  | fields
  | target
  | level (start : Nat)
  | complete
  deriving DecidableEq, Repr

/-- The characters from index `a` up to index `b`. -/
def sliceText (cs : List Char) (a b : Nat) : String := String.ofList ((cs.drop a).take (b - a))

/-- The characters from index `a` on. -/
def sliceRest (cs : List Char) (a : Nat) : String := String.ofList (cs.drop a)

/-- A field of a span filter: its name and whether a value follows `=`. An empty field is
refused, and so is a value (the text between the first and any second `=`) that is no
`MatchValue`. -/
def fieldOf? (s : String) : Option (String × Bool) :=
  match s.splitOn "=" with
  | [name] => if name.isEmpty then none else some (name, false)
  | name :: value :: _ => (MatchValue.read? value).map fun _ => (name, true)
  | [] => none

/-- The level after `=`: nothing allows everything. -/
def levelAfterEquals? (s : String) : Option Level :=
  if s.isEmpty then some .trace else Level.parse? s

/-- A text that may be a level or a target: a level rules every target, a target allows every
level, and nothing is no target at all. -/
def levelOrTargetOf (s : String) : Level × Option String :=
  if s.isEmpty then (.trace, none)
  else match Level.parse? s with
    | some l => (l, none)
    | none => (.trace, some s)

/-- One step of the directive reader at index `i` on character `c`; none refuses the
directive. Parts are cut from `src`, the untrimmed text, at the indices of the trimmed one. -/
def directiveStep (src : List Char) : DirectiveState × Directive → Nat × Char →
    Option (DirectiveState × Directive)
  | (.start, d), (i, c) =>
    if c == '[' then some (.span (i + 1), d)
    else if c == '-' || c == ':' || c == '_' || Text.isAlphanumeric c then
      some (.levelOrTarget i, d)
    else none
  | (.levelOrTarget a, d), (i, c) =>
    if c == '=' then some (.level (i + 1), { d with target := some (sliceText src a i) })
    else if c == '[' then some (.span (i + 1), { d with target := some (sliceText src a i) })
    else if c == ',' then
      let (l, t) := levelOrTargetOf (sliceRest src a)
      some (.complete, { d with level := l, target := t })
    else some (.levelOrTarget a, d)
  | (.target, d), (i, c) => if c == '=' then some (.level (i + 1), d) else none
  | (.span a, d), (i, c) =>
    let name := sliceText src a i
    if c == ']' then some (.target, { d with span := some name })
    else if c == '\x7b' then
      some (.field (i + 1), { d with span := if name.isEmpty then none else some name })
    else some (.span a, d)
  | (.field a, d), (i, c) =>
    if c == '\x7d' then
      (fieldOf? (sliceText src a i)).map fun f => (.fields, { d with fields := d.fields ++ [f] })
    else if c == ',' then
      (fieldOf? (sliceText src a i)).map fun f =>
        (.field (i + 1), { d with fields := d.fields ++ [f] })
    else some (.field a, d)
  | (.fields, d), (_, c) => if c == ']' then some (.target, d) else none
  | (.level a, d), (i, c) =>
    if c == ',' then
      (levelAfterEquals? (sliceText src a i)).map fun l => (.complete, { d with level := l })
    else some (.level a, d)
  | (.complete, _), _ => none

/-- Runs the directive reader over indexed characters. -/
def runDirective (src : List Char) : DirectiveState × Directive → List (Nat × Char) →
    Option (DirectiveState × Directive)
  | sd, [] => some sd
  | sd, ic :: rest => (directiveStep src sd ic).bind fun sd' => runDirective src sd' rest

/-- Parses one directive. -/
def Directive.parse? (s : String) : Option Directive :=
  let src := s.toList
  let trimmed := Text.trim src
  match runDirective src (.start, .global .trace) (trimmed.zipIdx.map fun (c, i) => (i, c)) with
  | some (.levelOrTarget a, d) =>
    let (l, t) := levelOrTargetOf (sliceRest src a)
    some { d with level := l, target := t }
  | some (.level a, d) => (levelAfterEquals? (sliceRest src a)).map fun l => { d with level := l }
  | some (.target, d) | some (.complete, d) => some d
  | _ => none

/-- Parses a filter, or none when a directive does not parse. -/
def parseFilter (s : String) : Option (List Directive) :=
  ((s.splitOn ",").filter (!·.isEmpty)).mapM Directive.parse?

/-- The default filter: this program's records from `info` on, others from `warn`. -/
def defaultFilter (program : String) : List Directive :=
  [⟨some program, none, [], .info⟩, .global .warn]

/-- Whether a static directive rules a record of a target carrying some fields. -/
def Directive.rules (d : Directive) (target : String) (fieldNames : List String) : Bool :=
  d.target.all (target.startsWith ·) && d.fields.all fun f => fieldNames.contains f.1

/-- Compares lists of names as text, item by item. -/
def compareNames : List String → List String → Ordering
  | [], [] => .eq
  | [], _ :: _ => .lt
  | _ :: _, [] => .gt
  | a :: as, b :: bs => if a < b then .lt else if b < a then .gt else compareNames as bs

/-- How specific a static directive is, compared with another: its target's length (none
least), then its number of fields, then its target and its field names as text. -/
def Directive.compareSpecific (a b : Directive) : Ordering :=
  let byTarget : Ordering := match a.target, b.target with
    | none, none => .eq
    | none, some _ => .lt
    | some _, none => .gt
    | some x, some y => compare x.length y.length
  let byText : Ordering := match a.target, b.target with
    | some x, some y => if x < y then .lt else if y < x then .gt else .eq
    | _, _ => byTarget
  byTarget.then ((compare a.fields.length b.fields.length).then
    (byText.then (compareNames (a.fields.map (·.1)) (b.fields.map (·.1)))))

/-- Whether a record of a target, carrying some fields and outside any span, is shown. -/
def shown (filter : List Directive) (target : String) (fieldNames : List String) (level : Level) :
    Bool :=
  let ruling := filter.filter fun d => d.isStatic && d.rules target fieldNames
  let best := ruling.foldl (fun (acc : Option Directive) d =>
    match acc with
    | some b => if d.compareSpecific b == .lt then some b else some d
    | none => some d) none
  match best with
  | some d => level.rank ≤ d.level.rank
  | none => false

end MinuteWindow.Cli
