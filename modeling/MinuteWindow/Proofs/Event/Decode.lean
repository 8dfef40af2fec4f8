import Mathlib
import MinuteWindow.Event.Basic
import MinuteWindow.Proofs.Event.Wire
import MinuteWindow.Window.Keyed

/-! Which JSON values decode to an event.

`Message.Carries v e` says, without the decoder, when a value is the message of the event `e`:

* the value lays out the three fields of a message (`Message.Layout`): an object by name, its
  other names ignored, or an array of at most three items by position;
* `emoji_type` and `category` are each absent, null or a string (`Message.OptionalText`);
* the category is `emoji_type` when that is a string, blank or not, and `category` only when
  `emoji_type` is absent or null (`Message.Names`); it is not blank, and it is kept as sent;
* the timestamp is a string that is not blank, kept as it is, or `true`, a number other than
  zero, an array or an object (`Message.Usable`), kept as its compact JSON text
  (`Message.Stamp`). A number is zero when its binary64 value is: the integer 0, `+0.0` or
  `-0.0` (`Number.isZero_iff`).

`Event.ofValue_classifies`: decoding gives `e`, with the counters untouched, exactly when the value
carries `e`; a value that carries no event gives nothing and counts one skipped message.

An object holds one value per name; the reader builds it field by field with `insertField`, so a
later field of a name replaces an earlier one (`lookup_insertField`). -/

namespace MinuteWindow
open Json Text Telemetry

/-! ### Zero numbers and object fields -/

namespace Json

/-- A binary64 number is zero exactly when its bits are those of `+0.0` or `-0.0`. -/
theorem Binary64.isZero_iff (x : Binary64) :
    x.isZero = true ↔ x.bits = 0 ∨ x.bits = 0x8000000000000000 := by
  obtain ⟨b⟩ := x
  have hb := b.toNat_lt
  simp only [Binary64.isZero, Binary64.exponentField, Binary64.fractionField, Bool.and_eq_true,
    beq_iff_eq]
  -- the exponent field is bits 52 to 62 and the fraction bits 0 to 51; only the sign may be set
  rw [UInt64.toNat_and, UInt64.toNat_and, UInt64.toNat_shiftRight]
  simp only [UInt64.reduceToNat]
  rw [show (2047 : Nat) = 2 ^ 11 - 1 from rfl, show (4503599627370495 : Nat) = 2 ^ 52 - 1 from rfl,
    Nat.and_two_pow_sub_one_eq_mod, Nat.and_two_pow_sub_one_eq_mod, Nat.shiftRight_eq_div_pow,
    ← UInt64.toNat_inj, ← UInt64.toNat_inj]
  simp only [UInt64.reduceToNat, Nat.reduceMod, Nat.reducePow] at hb ⊢
  omega

/-- The numbers whose binary64 value is zero: the integer 0, `+0.0` and `-0.0`. -/
def Number.ZeroValued (n : Number) : Prop :=
  n = .int 0 ∨ n = .float ⟨0⟩ ∨ n = .float ⟨0x8000000000000000⟩

theorem Number.isZero_iff (n : Number) : n.isZero = true ↔ n.ZeroValued := by
  cases n with
  | int i => simp [Number.isZero, Number.ZeroValued]
  | float x =>
    obtain ⟨b⟩ := x
    simp [Number.isZero, Number.ZeroValued, Binary64.isZero_iff]

@[simp] theorem Value.render_number (n : Number) : (Value.number n).render = n.render := rfl

/-- Setting a field of an object is altering the value at its name. -/
theorem insertField_eq_alterList (k : String) (v : Value) (fs : List (String × Value)) :
    insertField k v fs = Window.Keyed.alterList k (fun _ => v) fs := by
  induction fs with
  | nil => rfl
  | cons kv fs ih =>
    obtain ⟨k', v'⟩ := kv
    unfold insertField Window.Keyed.alterList
    rw [ih]

theorem lookup_insertField_self (k : String) (v : Value) (fs : List (String × Value)) :
    (insertField k v fs).lookup k = some v := by
  induction fs with
  | nil => simp [insertField]
  | cons kv fs ih =>
    obtain ⟨k', v'⟩ := kv
    unfold insertField
    by_cases hk : k = k'
    · simp [hk]
    · by_cases hl : k < k'
      · simp [hk, hl]
      · -- the field stays in front of the one set further on, under another name
        have hb : (k == k') = false := beq_false_of_ne hk
        simp only [hk, hl, if_false, List.lookup_cons, hb]
        exact ih

/-- Setting a field: the name set now holds the new value, every other name keeps its own. So
of two fields of one name, the later one wins. -/
theorem lookup_insertField (k j : String) (v : Value) (fs : List (String × Value)) :
    (insertField k v fs).lookup j = if j = k then some v else fs.lookup j := by
  split_ifs with hj
  · rw [hj, lookup_insertField_self]
  · rw [insertField_eq_alterList]
    exact Window.Keyed.find?_alterList_ne k j _ fs hj

end Json

theorem Text.isBlankString_eq_false_iff (s : String) : isBlankString s = false ↔ trimString s ≠ "" := by
  rw [ne_eq, trimString_eq_empty_iff, Bool.not_eq_true]

/-! ### Messages, stated without the decoder -/

namespace Message

/-- How a value lays out the three fields of a message, `emoji_type`, `category` and
`timestamp`: an object by name, or an array of at most three items by position. A missing field
is `none`. -/
inductive Layout : Value → Option Value → Option Value → Option Value → Prop
  | object (fs : List (String × Value)) :
      Layout (.object fs) (fs.lookup "emoji_type") (fs.lookup "category") (fs.lookup "timestamp")
  | array (items : List Value) : items.length ≤ 3 →
      Layout (.array items) items[0]? items[1]? items[2]?

/-- A field read as an optional string: absent, null or a string. -/
inductive OptionalText : Option Value → Prop
  | absent : OptionalText none
  | null : OptionalText (some .null)
  | string (s : String) : OptionalText (some (.string s))

/-- The category named by the fields `emoji_type` and `category`: `emoji_type` when it is a
string, whatever it holds, and `category` when `emoji_type` is absent or null. -/
inductive Names : Option Value → Option Value → String → Prop
  | emojiType (c : String) (category : Option Value) : Names (some (.string c)) category c
  | absent (c : String) : Names none (some (.string c)) c
  | null (c : String) : Names (some .null) (some (.string c)) c

/-- The values other than strings that make a timestamp: `true`, a number other than zero, an
array and an object. -/
inductive Usable : Value → Prop
  | true : Usable (.bool true)
  | number (n : Number) : ¬ n.ZeroValued → Usable (.number n)
  | array (items : List Value) : Usable (.array items)
  | object (fs : List (String × Value)) : Usable (.object fs)

/-- The text of a timestamp field: a string that is not blank, as it is, or a usable value, as
its compact JSON text. A missing field, `null`, `false`, a blank string and a zero have none. -/
inductive Stamp : Option Value → String → Prop
  | string (s : String) : trimString s ≠ "" → Stamp (some (.string s)) s
  | text (v : Value) : Usable v → Stamp (some v) v.render

/-- The value `v` is a message of the event `e`. -/
def Carries (v : Value) (e : Event) : Prop :=
  ∃ em ca ts, Layout v em ca ts ∧ OptionalText em ∧ OptionalText ca ∧
    Names em ca e.category ∧ trimString e.category ≠ "" ∧ Stamp ts e.timestamp

/-! ### The decoder, field by field -/

/-- A message from its three fields, each read as the decoder reads it. -/
def ofFields? (em ca ts : Option Value) : Option Message := do
  let e ← textField em
  let c ← textField ca
  return ⟨e, c, valueField ts⟩

theorem ofValue?_array {items : List Value} (h : items.length ≤ 3) :
    ofValue? (.array items) = ofFields? items[0]? items[1]? items[2]? := by
  rw [ofValue?, if_neg (by omega)]
  rfl

/-- A value reads as a message exactly when it lays out the message's fields. -/
theorem ofValue?_eq_some_iff (v : Value) (m : Message) :
    ofValue? v = some m ↔ ∃ em ca ts, Layout v em ca ts ∧ ofFields? em ca ts = some m := by
  cases v with
  | object fs =>
    constructor
    · intro h
      exact ⟨_, _, _, .object fs, h⟩
    · rintro ⟨em, ca, ts, hl, h⟩
      cases hl
      exact h
  | array items =>
    by_cases hn : items.length ≤ 3
    · rw [ofValue?_array hn]
      constructor
      · intro h
        exact ⟨_, _, _, .array items hn, h⟩
      · rintro ⟨em, ca, ts, hl, h⟩
        cases hl
        exact h
    · simp only [ofValue?, if_pos (Nat.lt_of_not_le hn), reduceCtorEq, false_iff, not_exists, not_and]
      intro em ca ts hl
      cases hl
      omega
  | null | bool _ | number _ | string _ =>
    simp only [ofValue?, reduceCtorEq, false_iff, not_exists, not_and]
    intro em ca ts hl
    cases hl

theorem OptionalText.of_textField {f : Option Value} {o : Option String} (h : textField f = some o) :
    OptionalText f := by
  rcases f with _ | (_ | _ | _ | s | _ | _)
  · exact .absent
  · exact .null
  · cases h
  · cases h
  · exact .string s
  · cases h
  · cases h

theorem textField_eq_some_string {f : Option Value} {s : String} (h : textField f = some (some s)) :
    f = some (.string s) := by
  rcases f with _ | (_ | _ | _ | s' | _ | _) <;> cases h
  rfl

/-- The two category fields read as optional strings and name `c` exactly when both are
optional strings and they name `c`. -/
theorem textFields_names_iff (em ca : Option Value) (c : String) :
    (∃ a b, textField em = some a ∧ textField ca = some b ∧ (a <|> b) = some c) ↔
      OptionalText em ∧ OptionalText ca ∧ Names em ca c := by
  constructor
  · rintro ⟨a, b, ha, hb, hc⟩
    have hem := OptionalText.of_textField ha
    refine ⟨hem, OptionalText.of_textField hb, ?_⟩
    -- `emoji_type` decides: a string is taken, absent or null passes to `category`
    cases hem with
    | absent =>
      cases ha
      rw [textField_eq_some_string (hb.trans (congrArg some (hc : b = some c)))]
      exact .absent c
    | null =>
      cases ha
      rw [textField_eq_some_string (hb.trans (congrArg some (hc : b = some c)))]
      exact .null c
    | string s =>
      cases ha
      cases hc
      exact .emojiType _ ca
  · rintro ⟨hem, hca, hn⟩
    have hb : ∃ b, textField ca = some b := by
      cases hca <;> exact ⟨_, rfl⟩
    obtain ⟨b, hb⟩ := hb
    cases hn with
    | emojiType c => exact ⟨some c, b, rfl, hb, rfl⟩
    | absent c | null c => exact ⟨none, some c, rfl, rfl, rfl⟩

/-- A message whose timestamp field was read from `ts` gives an event exactly when its category
is not blank and `ts` gives a text. -/
theorem toEvent_eq_some_iff (a b : Option String) (ts : Option Value) (e : Event) :
    toEvent? ⟨a, b, valueField ts⟩ = some e ↔
      (a <|> b) = some e.category ∧ trimString e.category ≠ "" ∧ Stamp ts e.timestamp := by
  obtain ⟨c, t⟩ := e
  constructor
  · intro h
    cases hab : (a <|> b) with
    | none => simp [toEvent?, hab] at h
    | some c' =>
      cases hbl : isBlankString c'
      · have hc' := (isBlankString_eq_false_iff c').1 hbl
        -- the timestamps that give no text leave nothing; each other one is a case of `Stamp`
        rcases ts with _ | (_ | (_ | _) | n | s | items | fs) <;>
          simp [toEvent?, valueField, hab, hbl] at h
        · obtain ⟨rfl, rfl⟩ := h
          exact ⟨rfl, hc', .text _ .true⟩
        · obtain ⟨hn, rfl, rfl⟩ := h
          exact ⟨rfl, hc', .text _ (.number n fun hz => by simp [← Number.isZero_iff, hn] at hz)⟩
        · obtain ⟨hs, rfl, rfl⟩ := h
          exact ⟨rfl, hc', .string s ((isBlankString_eq_false_iff s).1 hs)⟩
        · obtain ⟨rfl, rfl⟩ := h
          exact ⟨rfl, hc', .text _ (.array items)⟩
        · obtain ⟨rfl, rfl⟩ := h
          exact ⟨rfl, hc', .text _ (.object fs)⟩
      · simp [toEvent?, hab, hbl] at h
  · rintro ⟨hc, hblank, hs⟩
    have hb := (isBlankString_eq_false_iff c).2 hblank
    -- with the category settled, the timestamp field decides
    rcases hs with ⟨_, h⟩ | ⟨v, hv⟩
    · have ht := (isBlankString_eq_false_iff t).2 h
      simp only [toEvent?, valueField, hc, hb, ht, Option.bind_eq_bind, Option.bind_some,
        Bool.false_eq_true, ↓reduceIte, Option.pure_def]
    · cases hv with
      | number n h =>
        have hz : n.isZero = false := by simpa [← Number.isZero_iff] using h
        simp only [toEvent?, valueField, hc, hb, hz, Value.render_number, Option.bind_eq_bind,
          Option.bind_some, Bool.false_eq_true, ↓reduceIte, Option.pure_def]
      | true | array _ | object _ =>
        simp only [toEvent?, valueField, hc, hb, Option.bind_eq_bind, Option.bind_some,
          Bool.false_eq_true, ↓reduceIte, Option.pure_def]

theorem ofFields_bind_toEvent (em ca ts : Option Value) (e : Event) :
    (ofFields? em ca ts).bind toEvent? = some e ↔
      OptionalText em ∧ OptionalText ca ∧ Names em ca e.category ∧ trimString e.category ≠ "" ∧
        Stamp ts e.timestamp := by
  constructor
  · intro h
    obtain ⟨m, hm, he⟩ := Option.bind_eq_some_iff.1 h
    simp only [ofFields?, Option.bind_eq_bind, Option.bind_eq_some_iff, Option.pure_def,
      Option.some.injEq] at hm
    obtain ⟨a, ha, b, hb, rfl⟩ := hm
    obtain ⟨hc, hblank, hs⟩ := (toEvent_eq_some_iff a b ts e).1 he
    obtain ⟨hem, hca, hn⟩ := (textFields_names_iff em ca e.category).1 ⟨a, b, ha, hb, hc⟩
    exact ⟨hem, hca, hn, hblank, hs⟩
  · rintro ⟨hem, hca, hn, hblank, hs⟩
    obtain ⟨a, b, ha, hb, hc⟩ := (textFields_names_iff em ca e.category).2 ⟨hem, hca, hn⟩
    have hm : ofFields? em ca ts = some ⟨a, b, valueField ts⟩ := by
      simp [ofFields?, ha, hb]
    rw [hm, Option.bind_some]
    exact (toEvent_eq_some_iff a b ts e).2 ⟨hc, hblank, hs⟩

end Message

/-! ### Decoding -/

namespace Event

/-- A value decodes to `e` exactly when it carries `e`. -/
theorem decode_eq_some_iff (v : Value) (e : Event) : decode v = some e ↔ Message.Carries v e := by
  rw [decode, Option.bind_eq_some_iff]
  constructor
  · rintro ⟨m, hm, he⟩
    obtain ⟨em, ca, ts, hl, hf⟩ := (Message.ofValue?_eq_some_iff v m).1 hm
    have hfe : (Message.ofFields? em ca ts).bind Message.toEvent? = some e := by
      rw [hf, Option.bind_some, he]
    exact ⟨em, ca, ts, hl, (Message.ofFields_bind_toEvent em ca ts e).1 hfe⟩
  · rintro ⟨em, ca, ts, hl, hrest⟩
    obtain ⟨m, hf, he⟩ := Option.bind_eq_some_iff.1 ((Message.ofFields_bind_toEvent em ca ts e).2 hrest)
    exact ⟨m, (Message.ofValue?_eq_some_iff v m).2 ⟨em, ca, ts, hl, hf⟩, he⟩

/-- Decoding with counters: the decoded event, and one more skipped message when there is none. -/
theorem ofValue_run (v : Value) (cs : Counters) :
    (ofValue? v).run cs = (decode v, if decode v = none then { cs with skipped := cs.skipped + 1 } else cs) := by
  unfold ofValue?
  cases decode v <;> rfl

/-- **Decoding classifies every value.** A value decodes to the event `e`, leaving the counters
as they were, exactly when it carries `e`: it lays out a message (an object by name, an array of
at most three items by position) whose `emoji_type` and `category` are absent, null or strings,
whose category (`emoji_type` if it is a string, else `category`) is not blank and is kept as
sent, and whose timestamp is a string that is not blank, kept as it is, or `true`, a number
other than zero, an array or an object, kept as its compact text. A value that carries no event
decodes to nothing and counts exactly one skipped message. -/
theorem ofValue_classifies (v : Value) (cs : Counters) :
    (∀ e, (ofValue? v).run cs = (some e, cs) ↔ Message.Carries v e) ∧
      ((¬ ∃ e, Message.Carries v e) ↔ (ofValue? v).run cs = (none, { cs with skipped := cs.skipped + 1 })) := by
  simp only [← decode_eq_some_iff, ofValue_run]
  cases decode v with
  | none =>
    refine ⟨fun e => ⟨fun h => (by cases h), fun h => (by cases h)⟩, ⟨fun _ => rfl, fun _ => ?_⟩⟩
    rintro ⟨e, he⟩
    cases he
  | some e' =>
    refine ⟨fun e => ⟨fun h => (by cases h; rfl), fun h => (by rw [h]; rfl)⟩,
      ⟨fun h => absurd ⟨e', rfl⟩ h, fun h => (by cases h)⟩⟩

end Event
end MinuteWindow
