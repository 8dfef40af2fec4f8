import Mathlib
import MinuteWindow.Event.Basic
import MinuteWindow.Proofs.Json.RoundTrip

/-! An event's wire form decodes back to the event.

`Event.toValue` writes an event as an object with the fields `category` and `timestamp`, both
strings. Decoding that object, or the compact text of it, gives the event back exactly when
neither field is blank, that is when neither trims to the empty string; otherwise it gives
nothing. The category comes back as it was sent, blanks included, and the timestamp unchanged,
whatever characters either holds: the writer's escapes are the ones the reader undoes
(`read_stringObject`). -/

namespace MinuteWindow
open Json Text

/-! ### Blank fields -/

theorem Text.trim_eq_nil_iff (cs : List Char) : trim cs = [] ↔ ∀ c ∈ cs, isBlank c = true := by
  constructor
  · intro h
    rw [trim, trimEnd, List.reverse_eq_nil_iff, trimStart_eq_nil_iff] at h
    -- what the left trim leaves starts with a character that is not blank, if it leaves any
    rw [← trimStart_eq_nil_iff]
    by_contra hne
    have hhead : isBlank ((trimStart cs).head hne) = false := List.head_dropWhile_not isBlank hne
    rw [h _ (List.mem_reverse.2 (List.head_mem hne))] at hhead
    exact Bool.noConfusion hhead
  · intro h
    rw [trim, (trimStart_eq_nil_iff cs).2 h]
    rfl

theorem Text.trimString_eq_empty_iff (s : String) :
    trimString s = "" ↔ isBlankString s = true := by
  rw [trimString, String.ofList_eq_empty_iff, trim_eq_nil_iff, isBlankString, List.all_eq_true]

/-! ### Decoding the wire form -/

namespace Event

theorem ofValue_toValue (e : Event) :
    Message.ofValue? e.toValue = some ⟨none, some e.category, some (.string e.timestamp)⟩ := by
  simp [Event.toValue, Message.ofValue?, Message.textField, Message.valueField, List.lookup]

theorem toEvent_stringMessage (c t : String) :
    Message.toEvent? ⟨none, some c, some (.string t)⟩ =
      if isBlankString c || isBlankString t then none else some ⟨c, t⟩ := by
  cases hc : isBlankString c <;> cases ht : isBlankString t <;>
    simp [Message.toEvent?, hc, ht]

theorem decode_toValue (e : Event) :
    decode e.toValue = if isBlankString e.category || isBlankString e.timestamp then none else some e := by
  rw [decode, ofValue_toValue, Option.bind_some, toEvent_stringMessage]

theorem read_toValue (e : Event) : Json.read (utf8Bytes e.toValue.render) = .ok e.toValue :=
  read_stringObject "category" e.category [("timestamp", e.timestamp)] (by
    simp only [List.map_cons, List.map_nil, List.pairwise_pair]
    decide)

/-- An event's wire form, as a value or as the bytes of its compact text, decodes to the event
when its category and its timestamp both trim to something, and to nothing otherwise. -/
theorem decode_wire_form (e : Event) :
    decodeLine (utf8Bytes e.toValue.render) = decode e.toValue ∧
      decode e.toValue =
        if trimString e.category ≠ "" ∧ trimString e.timestamp ≠ "" then some e else none := by
  constructor
  · rw [decodeLine, read_toValue]
  · rw [decode_toValue]
    simp only [ne_eq, trimString_eq_empty_iff]
    cases isBlankString e.category <;> cases isBlankString e.timestamp <;> rfl

end Event
end MinuteWindow
