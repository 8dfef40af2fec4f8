import Mathlib
import MinuteWindow.Json.Reader
import MinuteWindow.Json.Writer
import MinuteWindow.Proofs.Text.Utf8

/-! The reader reads back what the writer writes, for strings and objects of strings.

The writer escapes a string character by character (`escapeChar`): a quote, a backslash and five
control characters get a two-byte escape, the other control characters a `\u00XY` escape, and
every other character is written as its own UTF-8 bytes. `stringBytes_escapeChar` says the
string lexer turns each of these forms back into the character's bytes, so a quoted string
reads back as itself (`readString_escaped`).

On objects the reader is a machine with a stack of open containers. One lemma per step it takes
on the writer's text (open an object, read a string, take a comma and the next key, close the
object) brings an object whose values are strings and whose keys are in increasing order through
the machine (`run_stringFields`, by induction on the fields), and `read_stringObject` reads such
an object's whole text back. -/

namespace MinuteWindow.Json
open Text

/-! ### Bytes inside a string -/

theorem appendList_assoc (acc : Array UInt8) (l1 l2 : List UInt8) :
    acc ++ (l1 ++ l2) = acc ++ l1 ++ l2 := by
  apply Array.ext'
  simp only [Array.toList_appendList, List.append_assoc]

theorem stringBytes_plain {b : UInt8} (n : Nat) (acc : Array UInt8) (rest : List UInt8)
    (hctl : 0x20 ≤ b.toNat) (hq : b.toNat ≠ 0x22) (hbs : b.toNat ≠ 0x5C) :
    stringBytes n acc (b :: rest) = stringBytes n (acc.push b) rest := by
  have hq' : b ≠ 0x22 := fun h => hq (by rw [h]; rfl)
  have hbs' : b ≠ 0x5C := fun h => hbs (by rw [h]; rfl)
  rw [stringBytes.eq_7 n acc b rest hq' (fun h => absurd h hbs') (fun _ _ _ _ _ h => absurd h hbs')
    (fun _ h => absurd h hbs') (fun _ _ h => absurd h hbs'),
    if_neg (by rw [UInt8.lt_iff_toNat_lt]; exact Nat.not_lt.2 hctl)]

theorem stringBytes_plains (n : Nat) (acc : Array UInt8) (bs rest : List UInt8)
    (h : ∀ b ∈ bs, 0x20 ≤ b.toNat ∧ b.toNat ≠ 0x22 ∧ b.toNat ≠ 0x5C) :
    stringBytes n acc (bs ++ rest) = stringBytes n (acc ++ bs) rest := by
  induction bs generalizing acc with
  | nil => rw [List.nil_append, Array.appendList_nil]
  | cons b bs ih =>
    obtain ⟨hctl, hq, hbs⟩ := h b List.mem_cons_self
    rw [List.cons_append, stringBytes_plain n acc _ hctl hq hbs,
      ih _ (fun b' hb' => h b' (List.mem_cons_of_mem _ hb')), Array.appendList_cons]

theorem stringBytes_escape {b e : UInt8} (n : Nat) (acc : Array UInt8) (rest : List UInt8)
    (he : simpleEscape b = some e) (hu : b ≠ 0x75) :
    stringBytes n acc (0x5C :: b :: rest) = stringBytes n (acc.push e) rest := by
  rw [stringBytes.eq_6 n acc b rest (fun _ _ _ _ _ h => absurd h hu) hu, he]

theorem stringBytes_hexEscape {h1 h2 h3 h4 : UInt8} {v : Nat} (n : Nat) (acc : Array UInt8)
    (rest : List UInt8) (hv : hex4 h1 h2 h3 h4 = some v) (hlow : v < 0xD800) :
    stringBytes n acc (0x5C :: 0x75 :: h1 :: h2 :: h3 :: h4 :: rest) =
      stringBytes n (acc ++ scalarBytes v) rest := by
  rw [stringBytes.eq_4, hv]
  dsimp only
  rw [if_neg (by omega), if_pos (Or.inl hlow)]

theorem utf8EncodeChar_plain (c : Char) (hctl : 0x20 ≤ c.toNat) (hq : c.toNat ≠ 0x22)
    (hbs : c.toNat ≠ 0x5C) :
    ∀ b ∈ String.utf8EncodeChar c, 0x20 ≤ b.toNat ∧ b.toNat ≠ 0x22 ∧ b.toNat ≠ 0x5C := by
  unfold String.utf8EncodeChar
  dsimp only
  rw [show c.val.toNat = c.toNat from rfl]
  split_ifs <;>
  · intro b hb
    simp only [List.mem_cons, List.not_mem_nil, or_false] at hb
    rcases hb with rfl | rfl | rfl | rfl <;>
    · simp only [UInt8.toNat_ofNat', Nat.reducePow]
      omega

/-- A two-byte escape `\x` whose byte stands for a character of one byte. -/
theorem stringBytes_shortEscape {esc c : Char} (b e : UInt8) (n : Nat) (acc : Array UInt8)
    (rest : List UInt8) (hesc : String.utf8EncodeChar esc = [b]) (hb : simpleEscape b = some e)
    (hu : b ≠ 0x75) (hc : String.utf8EncodeChar c = [e]) :
    stringBytes n acc (['\\', esc].flatMap String.utf8EncodeChar ++ rest) =
      stringBytes n (acc ++ String.utf8EncodeChar c) rest := by
  have hbackslash : String.utf8EncodeChar '\\' = [0x5C] := by decide
  rw [List.flatMap_cons, List.flatMap_singleton, hbackslash, hesc]
  show stringBytes n acc (0x5C :: b :: rest) = _
  rw [stringBytes_escape n acc rest hb hu, hc, Array.appendList_cons, Array.appendList_nil]

theorem hexDigit_bytes (k : Nat) :
    ∃ b, String.utf8EncodeChar (hexDigit k) = [b] ∧ hexValue b = some (k % 16) := by
  have hdigits : ∀ j < 16, String.utf8EncodeChar (hexDigit j) = [UInt8.ofNat (hexDigit j).toNat] ∧
      hexValue (UInt8.ofNat (hexDigit j).toNat) = some j := by
    decide
  have hmod : hexDigit k = hexDigit (k % 16) := by rw [hexDigit, hexDigit, Nat.mod_mod]
  rw [hmod]
  exact ⟨_, hdigits (k % 16) (Nat.mod_lt _ (by decide))⟩

/-- A control character written as `\u00XY` reads back as itself. -/
theorem stringBytes_controlEscape (c : Char) (n : Nat) (acc : Array UInt8) (rest : List UInt8)
    (hc : c.toNat < 0x20) :
    stringBytes n acc (['\\', 'u', '0', '0', hexDigit (c.toNat / 16), hexDigit c.toNat].flatMap
      String.utf8EncodeChar ++ rest) = stringBytes n (acc ++ String.utf8EncodeChar c) rest := by
  obtain ⟨b1, hb1, hv1⟩ := hexDigit_bytes (c.toNat / 16)
  obtain ⟨b2, hb2, hv2⟩ := hexDigit_bytes c.toNat
  have hzero : hexValue 0x30 = some 0 := by decide
  have hhex : hex4 0x30 0x30 b1 b2 = some c.toNat := by
    simp only [hex4, hzero, hv1, hv2, Option.bind_eq_bind, Option.bind_some, Option.pure_def]
    congr 1
    omega
  have hprefix : ['\\', 'u', '0', '0'].flatMap String.utf8EncodeChar = [0x5C, 0x75, 0x30, 0x30] := by
    decide
  rw [show ['\\', 'u', '0', '0', hexDigit (c.toNat / 16), hexDigit c.toNat] =
      ['\\', 'u', '0', '0'] ++ [hexDigit (c.toNat / 16), hexDigit c.toNat] from rfl,
    List.flatMap_append, hprefix, List.flatMap_cons, List.flatMap_singleton, hb1, hb2]
  rw [show [(0x5C : UInt8), 0x75, 0x30, 0x30] ++ ([b1] ++ [b2]) ++ rest =
      0x5C :: 0x75 :: 0x30 :: 0x30 :: b1 :: b2 :: rest from rfl,
    stringBytes_hexEscape n acc rest hhex (by omega), scalarBytes, Char.ofNat_toNat, encodeChar_eq]

/-- The escaped form of a character reads back as the character's own bytes. -/
theorem stringBytes_escapeChar (c : Char) (n : Nat) (acc : Array UInt8) (rest : List UInt8) :
    stringBytes n acc ((escapeChar c).flatMap String.utf8EncodeChar ++ rest) =
      stringBytes n (acc ++ String.utf8EncodeChar c) rest := by
  unfold escapeChar
  split
  next => exact stringBytes_shortEscape 0x22 0x22 n acc rest (by decide) (by decide) (by decide) (by decide)
  next => exact stringBytes_shortEscape 0x5C 0x5C n acc rest (by decide) (by decide) (by decide) (by decide)
  next => exact stringBytes_shortEscape 0x6E 0x0A n acc rest (by decide) (by decide) (by decide) (by decide)
  next => exact stringBytes_shortEscape 0x72 0x0D n acc rest (by decide) (by decide) (by decide) (by decide)
  next => exact stringBytes_shortEscape 0x74 0x09 n acc rest (by decide) (by decide) (by decide) (by decide)
  next => exact stringBytes_shortEscape 0x62 0x08 n acc rest (by decide) (by decide) (by decide) (by decide)
  next => exact stringBytes_shortEscape 0x66 0x0C n acc rest (by decide) (by decide) (by decide) (by decide)
  next hq hbs _ _ _ _ _ =>
    split_ifs with hctl
    · exact stringBytes_controlEscape c n acc rest hctl
    · rw [List.flatMap_singleton]
      exact stringBytes_plains n acc _ rest (utf8EncodeChar_plain c (by omega)
        (fun h => hq (Char.toNat_inj.1 h)) (fun h => hbs (Char.toNat_inj.1 h)))

/-- The bytes of a string's text as the writer escapes it, between the quotes. -/
def escapedBytes (s : String) : List UInt8 :=
  (s.toList.flatMap escapeChar).flatMap String.utf8EncodeChar

theorem stringBytes_escaped (cs : List Char) (n : Nat) (acc : Array UInt8) (rest : List UInt8) :
    stringBytes n acc ((cs.flatMap escapeChar).flatMap String.utf8EncodeChar ++ rest) =
      stringBytes n (acc ++ cs.flatMap String.utf8EncodeChar) rest := by
  induction cs generalizing acc with
  | nil => rw [List.flatMap_nil, List.flatMap_nil, List.nil_append, Array.appendList_nil]
  | cons c cs ih =>
    rw [List.flatMap_cons, List.flatMap_append, List.append_assoc, stringBytes_escapeChar, ih,
      List.flatMap_cons, appendList_assoc]

/-- An escaped string and its closing quote read back as the string. -/
theorem readString_escaped (n : Nat) (s : String) (rest : List UInt8) :
    readString n (escapedBytes s ++ 0x22 :: rest) = .ok (s, rest) := by
  have hbytes : stringBytes n #[] (escapedBytes s ++ 0x22 :: rest) =
      .ok ((#[] : Array UInt8) ++ s.toList.flatMap String.utf8EncodeChar, rest) := by
    rw [escapedBytes, stringBytes_escaped, stringBytes.eq_2]
  have hstr : stringOfUtf8? ((#[] : Array UInt8) ++ s.toList.flatMap String.utf8EncodeChar).toList =
      some s := by
    rw [Array.toList_appendList, Array.toList_empty, List.nil_append, ← utf8Bytes_eq,
      stringOfUtf8_utf8Bytes]
  simp only [readString, hbytes, hstr, bind, Except.bind, pure, Except.pure]

/-! ### Steps of the reader -/

theorem skipBlanks_cons {b : UInt8} (rest : List UInt8) (h : isBlankByte b = false) :
    skipBlanks (b :: rest) = b :: rest :=
  List.dropWhile_cons_of_neg (by rw [h]; decide)

theorem keyAndColon_escaped (n : Nat) (path : List Segment) (k : String) (rest : List UInt8) :
    keyAndColon n path (escapedBytes k ++ 0x22 :: 0x3A :: rest) = .ok (k, rest) := by
  simp only [keyAndColon, readString_escaped, Except.mapError, skipBlanks_cons rest (b := 0x3A) rfl,
    bind, Except.bind, pure, Except.pure]

theorem run_string (n fuel : Nat) (stack : List Frame) (s : String) (rest : List UInt8) :
    run n (fuel + 1) (0x22 :: (escapedBytes s ++ 0x22 :: rest)) stack none =
      run n fuel rest stack (some (.string s)) := by
  rw [run.eq_2, skipBlanks_cons _ rfl]
  dsimp only
  rw [if_neg (by decide), if_neg (by decide), if_neg (by decide), if_neg (by decide),
    if_neg (by decide), if_pos (by decide), readString_escaped]

theorem run_openObject (n fuel : Nat) (stack : List Frame) (k : String) (rest : List UInt8)
    (hdepth : stack.length < maxDepth) :
    run n (fuel + 1) (0x7B :: 0x22 :: (escapedBytes k ++ 0x22 :: 0x3A :: rest)) stack none =
      run n fuel rest (.object [] k :: stack) none := by
  rw [run.eq_2, skipBlanks_cons _ rfl]
  dsimp only
  rw [if_neg (by decide), if_neg (by decide), if_neg (by decide), if_neg (by decide),
    if_neg (by decide), if_neg (by decide), if_neg (by decide), if_pos (by decide),
    if_neg (Nat.not_le.2 hdepth), skipBlanks_cons _ rfl]
  simp only [keyAndColon_escaped]

theorem run_objectComma (n fuel : Nat) (stack : List Frame) (fields : List (String × Value))
    (key : String) (v : Value) (k : String) (rest : List UInt8) :
    run n (fuel + 1) (0x2C :: 0x22 :: (escapedBytes k ++ 0x22 :: 0x3A :: rest))
        (.object fields key :: stack) (some v) =
      run n fuel rest (.object (insertField key v fields) k :: stack) none := by
  rw [run.eq_5, skipBlanks_cons _ rfl]
  simp only [skipBlanks_cons (b := 0x22) _ rfl, keyAndColon_escaped]

theorem run_objectClose (n fuel : Nat) (stack : List Frame) (fields : List (String × Value))
    (key : String) (v : Value) (rest : List UInt8) :
    run n (fuel + 1) (0x7D :: rest) (.object fields key :: stack) (some v) =
      run n fuel rest stack (some (.object (insertField key v fields))) := by
  rw [run.eq_5, skipBlanks_cons _ rfl]
  rfl

theorem run_done (n fuel : Nat) (v : Value) (rest : List UInt8) :
    run n (fuel + 1) rest [] (some v) = .ok (v, rest) :=
  run.eq_3 n rest fuel v

/-! ### Objects of strings -/

/-- The fields of an object whose values are strings. -/
def stringFields (fs : List (String × String)) : List (String × Value) :=
  fs.map fun p => (p.1, .string p.2)

/-- The bytes of the fields after the first: a comma, a quoted key, a colon and a quoted value
each. -/
def moreFieldBytes (fs : List (String × String)) : List UInt8 :=
  fs.flatMap fun p =>
    0x2C :: 0x22 :: (escapedBytes p.1 ++ 0x22 :: 0x3A :: 0x22 :: (escapedBytes p.2 ++ [0x22]))

theorem moreFieldBytes_cons (k s : String) (fs : List (String × String)) (tail : List UInt8) :
    moreFieldBytes ((k, s) :: fs) ++ tail = 0x2C :: 0x22 :: (escapedBytes k ++ 0x22 :: 0x3A ::
      0x22 :: (escapedBytes s ++ 0x22 :: (moreFieldBytes fs ++ tail))) := by
  simp [moreFieldBytes]

theorem length_moreFieldBytes (fs : List (String × String)) :
    2 * fs.length ≤ (moreFieldBytes fs).length := by
  induction fs with
  | nil => exact Nat.zero_le _
  | cons p fs ih =>
    have hcons := congrArg List.length (moreFieldBytes_cons p.1 p.2 fs [])
    simp only [List.append_nil, List.length_cons, List.length_append] at hcons
    rw [List.length_cons, hcons]
    omega

theorem utf8Bytes_punctuation :
    utf8Bytes "\x7b" = [0x7B] ∧ utf8Bytes "\x7d" = [0x7D] ∧ utf8Bytes ":" = [0x3A] ∧
      utf8Bytes "," = [0x2C] := by
  refine ⟨?_, ?_, ?_, ?_⟩ <;> rw [utf8Bytes_eq] <;> decide

theorem utf8Bytes_quote (s : String) :
    utf8Bytes (quote s) = 0x22 :: (escapedBytes s ++ [0x22]) := by
  have hq : String.utf8EncodeChar '"' = [0x22] := by decide
  rw [quote, utf8Bytes_eq, String.toList_ofList, List.flatMap_cons, List.flatMap_append,
    List.flatMap_singleton, hq, escapedBytes]
  rfl

theorem utf8Bytes_renderFields (k s : String) (fs : List (String × String)) :
    utf8Bytes (renderFields (stringFields ((k, s) :: fs))) = 0x22 :: (escapedBytes k ++ 0x22 ::
      0x3A :: 0x22 :: (escapedBytes s ++ 0x22 :: moreFieldBytes fs)) := by
  obtain ⟨-, -, hcolon, hcomma⟩ := utf8Bytes_punctuation
  induction fs generalizing k s with
  | nil =>
    rw [stringFields, List.map_singleton, renderFields.eq_2, Value.render, utf8Bytes_append,
      utf8Bytes_append, utf8Bytes_quote, utf8Bytes_quote, hcolon]
    simp [moreFieldBytes]
  | cons p fs ih =>
    obtain ⟨k', s'⟩ := p
    have hih := ih k' s'
    simp only [stringFields, List.map_cons] at hih ⊢
    rw [renderFields.eq_3 _ _ _ (List.cons_ne_nil _ _), utf8Bytes_append, utf8Bytes_append,
      utf8Bytes_append, utf8Bytes_append, Value.render, utf8Bytes_quote, utf8Bytes_quote, hcolon,
      hcomma, hih, ← List.append_nil (moreFieldBytes ((k', s') :: fs)), moreFieldBytes_cons]
    simp

theorem utf8Bytes_stringObject (k s : String) (fs : List (String × String)) :
    utf8Bytes (Value.object (stringFields ((k, s) :: fs))).render = 0x7B :: 0x22 ::
      (escapedBytes k ++ 0x22 :: 0x3A :: 0x22 :: (escapedBytes s ++ 0x22 ::
        (moreFieldBytes fs ++ [0x7D]))) := by
  obtain ⟨hopen, hclose, -, -⟩ := utf8Bytes_punctuation
  rw [Value.render, utf8Bytes_append, utf8Bytes_append, utf8Bytes_renderFields, hopen, hclose]
  simp

/-- A key above every key so far goes last. -/
theorem insertField_last {k : String} (v : Value) (fields : List (String × Value))
    (h : ∀ p ∈ fields, p.1 < k) : insertField k v fields = fields ++ [(k, v)] := by
  induction fields with
  | nil => rfl
  | cons p rest ih =>
    obtain ⟨k', v'⟩ := p
    have hlt : k' < k := h (k', v') List.mem_cons_self
    rw [insertField, if_neg (ne_of_gt hlt), if_neg (lt_asymm hlt),
      ih (fun q hq => h q (List.mem_cons_of_mem _ hq)), List.cons_append]

/-- The machine reads the values and the further fields of an object of strings with increasing
keys, and closes the object. The induction is on the fields still to come; each takes two steps,
a string and a comma with the next key. -/
theorem run_stringFields (n fuel : Nat) (stack : List Frame) (acc : List (String × Value))
    (k s : String) (fs : List (String × String)) (rest : List UInt8) (hacc : ∀ p ∈ acc, p.1 < k)
    (hsorted : (k :: fs.map Prod.fst).Pairwise (· < ·)) :
    run n (fuel + 2 * (fs.length + 1))
        (0x22 :: (escapedBytes s ++ 0x22 :: (moreFieldBytes fs ++ 0x7D :: rest)))
        (.object acc k :: stack) none =
      run n fuel rest stack (some (.object (acc ++ stringFields ((k, s) :: fs)))) := by
  induction fs generalizing acc k s with
  | nil =>
    rw [List.length_nil, show moreFieldBytes [] = [] from rfl, List.nil_append,
      show fuel + 2 * (0 + 1) = fuel + 1 + 1 from rfl, run_string, run_objectClose,
      insertField_last _ _ hacc]
    rfl
  | cons p fs ih =>
    obtain ⟨k', s'⟩ := p
    simp only [List.map_cons, List.pairwise_cons, List.mem_cons, forall_eq_or_imp] at hsorted
    obtain ⟨⟨hk, -⟩, hrest⟩ := hsorted
    have hacc' : ∀ p ∈ acc ++ [(k, Value.string s)], p.1 < k' := by
      intro p hp
      rcases List.mem_append.1 hp with hp | hp
      · exact lt_trans (hacc p hp) hk
      · rw [List.mem_singleton.1 hp]
        exact hk
    rw [List.length_cons, show fuel + 2 * (fs.length + 1 + 1) = fuel + 2 * (fs.length + 1) + 1 + 1
      by omega, moreFieldBytes_cons, run_string, run_objectComma, insertField_last _ _ hacc,
      ih _ k' s' hacc' (List.pairwise_cons.2 hrest)]
    simp [stringFields]

/-- The whole text of an object of strings, keys in increasing order, as the machine reads it
with enough fuel. -/
theorem run_stringObject (n fuel : Nat) (k s : String) (fs : List (String × String))
    (rest : List UInt8) (hsorted : (k :: fs.map Prod.fst).Pairwise (· < ·)) :
    run n (fuel + 2 * (fs.length + 1) + 2) (0x7B :: 0x22 :: (escapedBytes k ++ 0x22 :: 0x3A ::
        0x22 :: (escapedBytes s ++ 0x22 :: (moreFieldBytes fs ++ 0x7D :: rest)))) [] none =
      .ok (.object (stringFields ((k, s) :: fs)), rest) := by
  rw [show fuel + 2 * (fs.length + 1) + 2 = fuel + 1 + 2 * (fs.length + 1) + 1 by omega,
    run_openObject _ _ _ _ _ (by decide), run_stringFields _ _ _ [] k s fs rest (by simp) hsorted,
    run_done, List.nil_append]

/-- The writer's text of an object of strings with increasing keys reads back as the object. -/
theorem read_stringObject (k s : String) (fs : List (String × String))
    (hsorted : (k :: fs.map Prod.fst).Pairwise (· < ·)) :
    read (utf8Bytes (Value.object (stringFields ((k, s) :: fs))).render) =
      .ok (.object (stringFields ((k, s) :: fs))) := by
  rw [utf8Bytes_stringObject]
  unfold read readPrefix
  -- the text has at least two bytes per step the machine takes on it
  obtain ⟨f, hf⟩ : ∃ f, (0x7B :: 0x22 :: (escapedBytes k ++ 0x22 :: 0x3A :: 0x22 ::
      (escapedBytes s ++ 0x22 :: (moreFieldBytes fs ++ [0x7D]))) : List UInt8).length + 1 =
        f + 2 * (fs.length + 1) + 2 := by
    refine ⟨(escapedBytes k).length + (escapedBytes s).length +
      ((moreFieldBytes fs).length - 2 * fs.length) + 4, ?_⟩
    have := length_moreFieldBytes fs
    simp only [List.length_cons, List.length_append, List.length_nil]
    omega
  rw [hf, run_stringObject _ _ _ _ _ _ hsorted]
  rfl

end MinuteWindow.Json
