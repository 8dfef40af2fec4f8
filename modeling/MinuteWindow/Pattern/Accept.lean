import MinuteWindow.Pattern.Syntax
/-! Which patterns the matcher of field values accepts.

The matcher turns a pattern into a deterministic automaton over the bytes of UTF-8 text, built
without any Unicode data tables. A pattern that reads well (`parse?`) is still refused when its
compiled form needs such a table or could match bytes that are not UTF-8:

* in Unicode mode (the default, and after the flag `u`): the Perl classes `\d \s \w` and their
  negations, which are Unicode classes, and every case-insensitive literal or class (flag `i`),
  since case folding needs the tables; a case-insensitive class passes only when it holds no
  item at all, only nested classes and set operations (`ClassTree.foldOk`);
* in either mode: the property classes `\p…`;
* with Unicode mode off (flag `-u`): `.`, a hex escape `\xHH` of a byte above `7F`, a negated
  Perl class, and in classes any non-ASCII character and any negation, since those match bytes
  that are not UTF-8.

The flags of a `(?flags)` setting hold up to the end of the group that holds it, across `|`;
the flags of a `(?flags:…)` group hold inside it. Last, the automaton cannot look at Unicode
words: a word assertion (`\b`, `\B`, `\<`, `\>`, `\b{start}` and its kin) read in Unicode mode is
refused, unless it stands inside a repetition of at most zero times, which is dropped. -/
namespace MinuteWindow.Pattern

/-- The modes in force where a part of a pattern is compiled. -/
structure Modes where
  unicode : Bool := true
  caseInsensitive : Bool := false
  deriving DecidableEq, Repr

/-- The modes after a flag list. -/
def Modes.apply (m : Modes) (changes : FlagChanges) : Modes :=
  { unicode := (changes.state? .unicode).getD m.unicode
    caseInsensitive := (changes.state? .caseInsensitive).getD m.caseInsensitive }

mutual

/-- Whether a class compiles with Unicode mode off: ASCII characters only, and no negation. -/
def ClassTree.bytesOk : ClassTree → Bool
  | .empty => true
  | .literal l => l.char.toNat < 128
  | .range lo hi => lo.char.toNat < 128 && hi.char.toNat < 128
  | .ascii _ negated => !negated
  | .property _ => false
  | .perl _ negated => !negated
  | .bracketed negated set => !negated && set.bytesOk
  | .union items => ClassTree.allBytesOk items
  | .op _ lhs rhs => lhs.bytesOk && rhs.bytesOk

/-- Whether classes compile with Unicode mode off. -/
def ClassTree.allBytesOk : List ClassTree → Bool
  | [] => true
  | t :: ts => t.bytesOk && ClassTree.allBytesOk ts

end

mutual

/-- Whether a class compiles in Unicode mode: no Perl or property class. -/
def ClassTree.unicodeOk : ClassTree → Bool
  | .property _ => false
  | .perl _ _ => false
  | .bracketed _ set => set.unicodeOk
  | .union items => ClassTree.allUnicodeOk items
  | .op _ lhs rhs => lhs.unicodeOk && rhs.unicodeOk
  | _ => true

/-- Whether classes compile in Unicode mode. -/
def ClassTree.allUnicodeOk : List ClassTree → Bool
  | [] => true
  | t :: ts => t.unicodeOk && ClassTree.allUnicodeOk ts

end

mutual

/-- Whether a class folds in Unicode mode: folding succeeds only on sets marked as already
folded, and every item (a literal, a range, an ASCII, Perl or property class) makes its set
unmarked, while empty sets, their negations, unions and set operations of marked sets stay
marked. So a class folds exactly when it holds no item at all. -/
def ClassTree.foldOk : ClassTree → Bool
  | .empty => true
  | .bracketed _ set => set.foldOk
  | .union items => ClassTree.allFoldOk items
  | .op _ lhs rhs => lhs.foldOk && rhs.foldOk
  | _ => false

/-- Whether classes fold in Unicode mode. -/
def ClassTree.allFoldOk : List ClassTree → Bool
  | [] => true
  | t :: ts => t.foldOk && ClassTree.allFoldOk ts

end

/-- Whether a bracketed class compiles under the modes in force. -/
def classOk (m : Modes) (negated : Bool) (set : ClassTree) : Bool :=
  if m.unicode then
    if m.caseInsensitive then set.foldOk else set.unicodeOk
  else !negated && set.bytesOk

/-- Whether a literal compiles under the modes in force. -/
def literalOk (m : Modes) (l : Literal) : Bool :=
  if m.unicode then !m.caseInsensitive else !(l.byteEscape && 128 ≤ l.char.toNat)

mutual

/-- Compiles a part of a pattern under the modes in force: gives the modes for what follows
and whether the part keeps a word assertion read in Unicode mode, or nothing when it does not
compile. -/
def Node.compile : Modes → Node → Option (Modes × Bool)
  | m, .empty => some (m, false)
  | m, .flags changes => some (m.apply changes, false)
  | m, .literal l => if literalOk m l then some (m, false) else none
  | m, .dot => if m.unicode then some (m, false) else none
  | m, .assertion a => some (m, m.unicode && a.isWord)
  | m, .perl _ negated => if m.unicode || negated then none else some (m, false)
  | _, .property _ => none
  | m, .bracketed negated set => if classOk m negated set then some (m, false) else none
  | m, .repetition _ max sub =>
    match sub.compile m with
    | some (_, word) => some (m, word && max != some 0)
    | none => none
  | m, .group written sub =>
    let inner := match written with
      | some changes => m.apply changes
      | none => m
    match sub.compile inner with
    | some (_, word) => some (m, word)
    | none => none
  | m, .alternation branches => Node.compileAll m branches
  | m, .concat items => Node.compileAll m items

/-- Compiles parts of a pattern one after another, each under the modes the one before it
leaves. -/
def Node.compileAll : Modes → List Node → Option (Modes × Bool)
  | m, [] => some (m, false)
  | m, n :: ns =>
    match n.compile m with
    | some (m', word) =>
      match Node.compileAll m' ns with
      | some (m'', words) => some (m'', word || words)
      | none => none
    | none => none

end

/-- Whether the matcher accepts a pattern: it reads well, compiles, and keeps no word
assertion read in Unicode mode. -/
def accepted (text : String) : Bool :=
  match parse? text with
  | some node =>
    match node.compile {} with
    | some (_, word) => !word
    | none => false
  | none => false

end MinuteWindow.Pattern
