import MinuteWindow.Event.Basic
/-! Events from a byte stream of JSON lines.

The stream comes through a buffered reader whose buffer is filled a chunk at a time
(`Buffered`). Each round reads through the next line feed, but at most `maxLineBytes + 1` bytes
(`Buffered.readUntil`). A line feed read ends a line, which is the bytes before it. A full read
without one is an oversized line: its rest is consumed through the next line feed
(`Buffered.skipRestOfLine`), and it is skipped whole and counted once. A shorter read without
one is the last line of the stream. A line of ASCII blanks only (empty included) is ignored.
Every other line is decoded as a JSON line: an event goes on to the receiver and counts as
forwarded, anything else counts as skipped.

When the receiver is gone, the first line that decodes to an event stops the reading; that
event is neither forwarded nor counted. -/
namespace MinuteWindow.Ingest
open Telemetry

/-- Longest accepted line, in bytes, without its line feed. -/
def maxLineBytes : Nat := 65536

/-- The byte that ends a line. -/
def lineFeed : UInt8 := 0x0A

/-- A piece of the stream read in one round. -/
inductive Piece where
  | line (bytes : List UInt8)
  | oversized
  deriving DecidableEq, Repr

/-- What reading a stream did. -/
structure Tally where
  forwarded : Nat := 0
  skipped : Nat := 0
  events : List Event := []
  deriving Repr

/-! ### A buffered reader -/

/-- A buffered reader over a finite stream: the bytes not yet consumed, in the chunks that
successive fills of the buffer return. A fill returns an empty chunk only at the end. -/
structure Buffered where
  chunks : List (List UInt8)
  nonempty : ∀ c ∈ chunks, c ≠ []

namespace Buffered

/-- A reader holding all of `bytes` in one chunk. -/
def ofBytes (bytes : List UInt8) : Buffered :=
  if h : bytes = [] then ⟨[], fun _ hc => nomatch hc⟩
  else ⟨[bytes], fun c hc => by cases hc with
    | head => exact h
    | tail _ hc => nomatch hc⟩

/-- The bytes not yet consumed. -/
def remaining (r : Buffered) : List UInt8 := r.chunks.flatten

/-- The buffered bytes: the current chunk, or none at the end of the stream. -/
def fillBuf (r : Buffered) : List UInt8 := r.chunks.headD []

/-- Marks the first `n` buffered bytes as read. -/
def consume (r : Buffered) (n : Nat) : Buffered :=
  match r with
  | ⟨[], h⟩ => ⟨[], h⟩
  | ⟨c :: cs, h⟩ =>
    if hn : n < c.length then
      ⟨c.drop n :: cs, fun d hd => by
        cases hd with
        | head => exact List.ne_nil_of_length_pos (by simp only [List.length_drop]; omega)
        | tail _ hd => exact h d (List.mem_cons_of_mem c hd)⟩
    else ⟨cs, fun d hd => h d (List.mem_cons_of_mem c hd)⟩

/-- Consuming part of the buffer leaves the rest of the stream behind it. -/
theorem take_append_remaining_consume {r : Buffered} {n : Nat} (h : n ≤ r.fillBuf.length) :
    r.fillBuf.take n ++ (r.consume n).remaining = r.remaining := by
  match r with
  | ⟨[], _⟩ =>
    simp only [fillBuf, List.headD_nil, List.length_nil, Nat.le_zero] at h
    subst h
    rfl
  | ⟨c :: cs, _⟩ =>
    simp only [fillBuf, List.headD_cons] at h
    simp only [fillBuf, consume, remaining, List.headD_cons, List.flatten_cons]
    split
    · simp only [List.flatten_cons, ← List.append_assoc, List.take_append_drop]
    · have hc : n = c.length := by omega
      subst hc
      simp only [List.take_length]

theorem remaining_consume {r : Buffered} {n : Nat} (h : n ≤ r.fillBuf.length) :
    (r.consume n).remaining = r.remaining.drop n := by
  have hsplit := take_append_remaining_consume h
  have hlen : (r.fillBuf.take n).length = n := by simp only [List.length_take]; omega
  rw [← hsplit, List.drop_left' hlen]

/-- The buffer is what the stream starts with. -/
theorem fillBuf_append (r : Buffered) :
    r.fillBuf ++ (r.consume r.fillBuf.length).remaining = r.remaining := by
  simpa only [List.take_length] using take_append_remaining_consume (Nat.le_refl r.fillBuf.length)

theorem fillBuf_eq_nil {r : Buffered} : r.fillBuf = [] ↔ r.remaining = [] := by
  match r with
  | ⟨[], _⟩ => simp [fillBuf, remaining]
  | ⟨c :: cs, h⟩ => simp [fillBuf, remaining, h c (List.mem_cons_self)]

end Buffered

/-! ### Lines in the stream

`lineTake` and `afterLine` say, on the bytes alone, what one round of reading takes and what it
leaves; `readUntil_spec` and `remaining_skipRestOfLine` are the reader's own loops stated by them. -/

/-- The bytes through the first line feed, but at most `n` of them. -/
def lineTake : Nat → List UInt8 → List UInt8
  | 0, _ => []
  | _ + 1, [] => []
  | n + 1, b :: bs => if b = lineFeed then [b] else b :: lineTake n bs

/-- The bytes after the first line feed; none when there is no line feed. -/
def afterLine : List UInt8 → List UInt8
  | [] => []
  | b :: bs => if b = lineFeed then bs else afterLine bs

@[simp] theorem lineTake_nil (n : Nat) : lineTake n [] = [] := by
  cases n <;> rfl

theorem lineTake_lineFeed (n : Nat) (rest : List UInt8) :
    lineTake (n + 1) (lineFeed :: rest) = [lineFeed] := by
  simp [lineTake]

/-- Bytes without a line feed are taken whole, within the bound. -/
theorem lineTake_append {p : List UInt8} (hp : lineFeed ∉ p) {n : Nat} (hn : p.length ≤ n)
    (rest : List UInt8) : lineTake n (p ++ rest) = p ++ lineTake (n - p.length) rest := by
  induction p generalizing n with
  | nil => simp
  | cons b p ih =>
    obtain ⟨m, rfl⟩ : ∃ m, n = m + 1 := ⟨n - 1, by simp only [List.length_cons] at hn; omega⟩
    have hb : b ≠ lineFeed := fun hb => hp (hb ▸ List.mem_cons_self)
    have hm : p.length ≤ m := by simp only [List.length_cons] at hn; omega
    simp only [List.cons_append, lineTake, hb, if_false]
    rw [ih (fun h => hp (List.mem_cons_of_mem b h)) hm, List.length_cons, Nat.add_sub_add_right]

theorem lineTake_eq_nil {n : Nat} {bytes : List UInt8} : lineTake n bytes = [] ↔ n = 0 ∨ bytes = [] := by
  match n, bytes with
  | 0, _ => simp [lineTake]
  | _ + 1, [] => simp
  | n + 1, b :: bs =>
    simp only [lineTake]
    split <;> simp

theorem afterLine_lineFeed (rest : List UInt8) : afterLine (lineFeed :: rest) = rest := by
  simp [afterLine]

theorem afterLine_append {p : List UInt8} (hp : lineFeed ∉ p) (rest : List UInt8) :
    afterLine (p ++ rest) = afterLine rest := by
  induction p with
  | nil => rfl
  | cons b p ih =>
    have hb : b ≠ lineFeed := fun hb => hp (hb ▸ List.mem_cons_self)
    simp only [List.cons_append, afterLine, hb, if_false]
    exact ih fun h => hp (List.mem_cons_of_mem b h)

theorem length_afterLine_le (bytes : List UInt8) : (afterLine bytes).length ≤ bytes.length := by
  induction bytes with
  | nil => exact Nat.le_refl 0
  | cons b bs ih =>
    simp only [afterLine, List.length_cons]
    split <;> omega

/-- Where the first line feed of a list stands. -/
theorem eq_append_of_idxOf? {l : List UInt8} {i : Nat} (h : l.idxOf? lineFeed = some i) :
    ∃ pre post, l = pre ++ lineFeed :: post ∧ lineFeed ∉ pre ∧ pre.length = i := by
  induction l generalizing i with
  | nil => cases h
  | cons b l ih =>
    rw [List.idxOf?_cons] at h
    by_cases hb : b = lineFeed
    · subst hb
      simp only [BEq.rfl, if_true, Option.some.injEq] at h
      exact ⟨[], l, rfl, List.not_mem_nil, h⟩
    · have hb' : (b == lineFeed) = false := beq_false_of_ne hb
      rw [hb', if_neg Bool.false_ne_true] at h
      obtain ⟨j, hj, rfl⟩ := Option.map_eq_some_iff.1 h
      obtain ⟨pre, post, rfl, hpre, rfl⟩ := ih hj
      refine ⟨b :: pre, post, rfl, ?_, rfl⟩
      simp only [List.mem_cons, not_or]
      exact ⟨Ne.symm hb, hpre⟩

namespace Buffered

/-- The first `n` buffered bytes, or all of them, are what the stream starts with. -/
theorem fillBuf_take_append (r : Buffered) (n : Nat) :
    r.fillBuf.take n ++ r.remaining.drop (r.fillBuf.take n).length = r.remaining := by
  have hle : (r.fillBuf.take n).length ≤ r.fillBuf.length := by simp only [List.length_take]; omega
  have hsplit := take_append_remaining_consume hle
  rw [remaining_consume hle] at hsplit
  have htake : r.fillBuf.take (r.fillBuf.take n).length = r.fillBuf.take n := by
    rw [List.length_take, ← List.take_eq_take_min]
  rw [htake] at hsplit
  exact hsplit

/-- Reads through the next line feed, but at most `limit` bytes, as reading up to a line feed
through a reader limited to `limit` bytes does: each round takes what is buffered, up to the
limit left, and the reading stops at a line feed, at the limit or at the end of the stream. The
bytes read are added to `acc`. -/
def readUntil (r : Buffered) (limit : Nat) (acc : List UInt8) : List UInt8 × Buffered :=
  match h : (r.fillBuf.take limit).idxOf? lineFeed with
  | some i => (acc ++ (r.fillBuf.take limit).take (i + 1), r.consume (i + 1))
  | none =>
    if _hnil : r.fillBuf.take limit = [] then (acc, r)
    else (r.consume (r.fillBuf.take limit).length).readUntil
      (limit - (r.fillBuf.take limit).length) (acc ++ r.fillBuf.take limit)
termination_by limit
decreasing_by
  have hpos := List.length_pos_iff.2 _hnil
  simp only [List.length_take] at hpos ⊢
  omega

/-- `readUntil` reads `lineTake limit` of the stream, and leaves the rest. -/
theorem readUntil_spec (r : Buffered) (limit : Nat) (acc : List UInt8) :
    (r.readUntil limit acc).1 = acc ++ lineTake limit r.remaining ∧
      (r.readUntil limit acc).2.remaining = r.remaining.drop (lineTake limit r.remaining).length := by
  fun_induction readUntil r limit acc with
  | case1 r limit acc i hi =>
    -- the bytes read are those before the first line feed, and the line feed
    obtain ⟨pre, post, havail, hpre, rfl⟩ := eq_append_of_idxOf? hi
    have hstart := r.fillBuf_take_append limit
    have hlen : pre.length + 1 ≤ (r.fillBuf.take limit).length := by rw [havail]; simp
    have hfill : pre.length + 1 ≤ r.fillBuf.length := by
      simp only [List.length_take] at hlen; omega
    have hline : lineTake limit r.remaining = pre ++ [lineFeed] := by
      have hlimit : pre.length + 1 ≤ limit := by simp only [List.length_take] at hlen; omega
      rw [← hstart, havail, List.append_assoc, lineTake_append hpre (by omega)]
      obtain ⟨k, hk⟩ : ∃ k, limit - pre.length = k + 1 := ⟨limit - pre.length - 1, by omega⟩
      rw [hk, List.cons_append, lineTake_lineFeed]
    refine ⟨?_, ?_⟩
    · simp [havail, hline, List.take_append, List.take_of_length_le]
    · rw [remaining_consume hfill, hline]
      simp
  | case2 r limit acc hi hnil =>
    -- nothing is buffered within the limit: the limit is spent or the stream is over
    have hline : lineTake limit r.remaining = [] :=
      lineTake_eq_nil.2 ((List.take_eq_nil_iff.1 hnil).imp id fillBuf_eq_nil.1)
    simp [hline]
  | case3 r limit acc hi hnil ih =>
    -- all the bytes within the limit are read, and the reading goes on behind them
    have hno : lineFeed ∉ r.fillBuf.take limit := List.idxOf?_eq_none_iff.1 hi
    have hfill : (r.fillBuf.take limit).length ≤ r.fillBuf.length := by
      simp only [List.length_take]; omega
    have hlimit : (r.fillBuf.take limit).length ≤ limit := by
      simp only [List.length_take]; omega
    have hline : lineTake limit r.remaining = r.fillBuf.take limit ++
        lineTake (limit - (r.fillBuf.take limit).length)
          (r.remaining.drop (r.fillBuf.take limit).length) := by
      conv => lhs; rw [← r.fillBuf_take_append limit]
      exact lineTake_append hno hlimit _
    rw [remaining_consume hfill] at ih
    refine ⟨?_, ?_⟩
    · rw [ih.1, hline, List.append_assoc]
    · rw [ih.2, hline, List.length_append, List.drop_drop]

/-- Consumes through the next line feed, or to the end of the stream. -/
def skipRestOfLine (r : Buffered) : Buffered :=
  if _hnil : r.fillBuf = [] then r
  else
    match r.fillBuf.idxOf? lineFeed with
    | some i => r.consume (i + 1)
    | none => (r.consume r.fillBuf.length).skipRestOfLine
termination_by r.remaining.length
decreasing_by
  -- the buffer is the start of the stream, and not empty
  have hsplit := congrArg List.length r.fillBuf_append
  have hpos := List.length_pos_iff.2 _hnil
  rw [List.length_append] at hsplit
  omega

theorem remaining_skipRestOfLine (r : Buffered) : r.skipRestOfLine.remaining = afterLine r.remaining := by
  fun_induction skipRestOfLine r with
  | case1 r hnil => rw [fillBuf_eq_nil.1 hnil]; rfl
  | case2 r hnil i hi =>
    obtain ⟨pre, post, hbuf, hpre, rfl⟩ := eq_append_of_idxOf? hi
    have hfill : pre.length + 1 ≤ r.fillBuf.length := by rw [hbuf]; simp
    -- the stream is the bytes before the line feed, the line feed, and what follows
    obtain ⟨rest, hrest⟩ : ∃ rest, r.remaining = pre ++ lineFeed :: rest :=
      ⟨post ++ (r.consume r.fillBuf.length).remaining, by rw [← r.fillBuf_append, hbuf]; simp⟩
    rw [remaining_consume hfill, hrest, afterLine_append hpre, afterLine_lineFeed]
    simp [List.drop_append]
  | case3 r hnil hi ih =>
    rw [ih, ← r.fillBuf_append, afterLine_append (List.idxOf?_eq_none_iff.1 hi)]

/-- The next piece of the stream, with the reader after it, or `none` at the end of the
stream. A round reads through the next line feed, at most `maxLineBytes + 1` bytes: a line feed
read ends a line, which is the bytes before it; a full read without one is an oversized piece,
whose rest is consumed through the next line feed; a shorter read without one is the last line. -/
def readPiece? (r : Buffered) : Option (Piece × Buffered) :=
  let read := r.readUntil (maxLineBytes + 1) []
  if read.1 = [] then none
  else if read.1.getLast? = some lineFeed then some (.line read.1.dropLast, read.2)
  else if maxLineBytes < read.1.length then some (.oversized, read.2.skipRestOfLine)
  else some (.line read.1, read.2)

/-- A piece read shortens the stream. -/
theorem remaining_lt_of_readPiece? {r r' : Buffered} {p : Piece} (h : r.readPiece? = some (p, r')) :
    r'.remaining.length < r.remaining.length := by
  have hspec := readUntil_spec r (maxLineBytes + 1) []
  rw [List.nil_append] at hspec
  dsimp only [readPiece?] at h
  -- what a round reads is not empty, and it is gone from the stream
  have hshrink (hne : ¬(r.readUntil (maxLineBytes + 1) []).1 = []) :
      (r.readUntil (maxLineBytes + 1) []).2.remaining.length < r.remaining.length := by
    rw [hspec.1] at hne
    have hrem : r.remaining ≠ [] := fun hr => hne (lineTake_eq_nil.2 (Or.inr hr))
    have hpos := List.length_pos_iff.2 hne
    have hrpos := List.length_pos_iff.2 hrem
    rw [hspec.2, List.length_drop]
    omega
  split at h
  · cases h
  · rename_i hne
    split at h
    · cases h
      exact hshrink hne
    · split at h
      · cases h
        rw [remaining_skipRestOfLine]
        exact Nat.lt_of_le_of_lt (length_afterLine_le _) (hshrink hne)
      · cases h
        exact hshrink hne

end Buffered

/-! ### Forwarding -/

/-- Handles one piece read from the stream; `none` when the receiver is gone, which stops the
reading. -/
def handlePiece (receiverOpen : Bool) (t : Tally) : Piece → Metered (Option Tally)
  | .oversized => do
    skip
    return some { t with skipped := t.skipped + 1 }
  | .line bs =>
    if bs.all Text.isAsciiBlank then return some t
    else do
      match ← Event.ofLine? bs with
      | none => return some { t with skipped := t.skipped + 1 }
      | some e =>
        if receiverOpen then
          return some { t with forwarded := t.forwarded + 1, events := t.events ++ [e] }
        else return none

/-- Reads the pieces of the stream in order and handles each, until the end of the stream or
until the receiver is gone. -/
def forwardFrom (receiverOpen : Bool) (r : Buffered) (t : Tally) : Metered Tally :=
  match _h : r.readPiece? with
  | none => return t
  | some (p, r') => do
    match ← handlePiece receiverOpen t p with
    | none => return t
    | some t' => forwardFrom receiverOpen r' t'
termination_by r.remaining.length
decreasing_by exact Buffered.remaining_lt_of_readPiece? _h

/-- Reads a stream of JSON lines held in memory; `receiverOpen` tells whether the receiver
takes events. -/
def forwardLines (bytes : List UInt8) (receiverOpen : Bool) : Metered Tally :=
  forwardFrom receiverOpen (Buffered.ofBytes bytes) {}

end MinuteWindow.Ingest
