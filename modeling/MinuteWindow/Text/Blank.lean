/-! Blank characters.

Two classes of blank are in use. `isBlank` is the Unicode `White_Space` property: it is
what trimming a category, a timestamp or a source name removes. `isAsciiBlank` is the
narrower byte class (space, tab, line feed, form feed, carriage return) that decides whether an
input line is empty; the vertical tab is not in it.

`trimStart_eq_nil_iff`: the left trim leaves nothing exactly when every character is blank. -/
namespace MinuteWindow.Text

/-- The Unicode `White_Space` property, as a table of code points. -/
def isBlank (c : Char) : Bool :=
  let n := c.toNat
  (0x09 ≤ n && n ≤ 0x0D) || n == 0x20 || n == 0x85 || n == 0xA0 || n == 0x1680 ||
    (0x2000 ≤ n && n ≤ 0x200A) || n == 0x2028 || n == 0x2029 || n == 0x202F ||
    n == 0x205F || n == 0x3000

/-- Space, tab, line feed, form feed and carriage return. -/
def isAsciiBlank (b : UInt8) : Bool :=
  b == 0x20 || b == 0x09 || b == 0x0A || b == 0x0C || b == 0x0D

/-- Drops leading blanks. -/
def trimStart (cs : List Char) : List Char := cs.dropWhile isBlank

/-- Drops trailing blanks. -/
def trimEnd (cs : List Char) : List Char := (trimStart cs.reverse).reverse

/-- Drops blanks at both ends. -/
def trim (cs : List Char) : List Char := trimEnd (trimStart cs)

/-- A string with blanks removed at both ends. -/
def trimString (s : String) : String := String.ofList (trim s.toList)

/-- Whether a string is empty once blanks are removed. -/
def isBlankString (s : String) : Bool := s.toList.all isBlank

theorem trimStart_eq_nil_iff (cs : List Char) :
    trimStart cs = [] ↔ ∀ c ∈ cs, isBlank c = true := by
  induction cs with
  | nil => simp [trimStart]
  | cons c rest ih =>
    unfold trimStart at ih ⊢
    cases hc : isBlank c <;> simp [hc, ih]

end MinuteWindow.Text
