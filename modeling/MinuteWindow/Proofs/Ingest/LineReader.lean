import Mathlib
import MinuteWindow.Ingest.Lines
/-! Reading a stream of lines, whatever its chunks, is splitting it at line feeds.

The reference is a pure splitter: `segments` cuts the bytes at every line feed and keeps a last
segment after the final line feed only when it is not empty; `Piece.ofSegment` marks a segment
longer than `maxLineBytes` oversized; `forwardPieces` handles the pieces in order with the
reader's own `handlePiece`.

`forwardFrom_eq_forwardPieces`: under every chunking of the stream, the reader's loop reads the
pieces the splitter makes, one round per segment, so it does what the splitter does. Each round
reads one segment (`readPiece?_of_lineFeed`, `readPiece?_of_last`); the proof is a strong
induction on the bytes left.

`forwardFrom_splits_lines`: with the receiver open, the events sent are those of the segments
that fit, are not blank and decode, in order; every other segment that is not blank is counted
as skipped, and the skip counter grows by the same count. With the receiver gone, the reading
stops at the first segment that would send an event, having counted the skipped segments
before it only. -/
namespace MinuteWindow.Ingest
open Telemetry

/-! ### The splitter -/

/-- The segments of a stream: the bytes between line feeds, and a last segment after the final
line feed when it is not empty. -/
def segments (bytes : List UInt8) : List (List UInt8) :=
  let parts := bytes.splitOn lineFeed
  if parts.getLast? = some [] then parts.dropLast else parts

/-- The piece a segment makes: oversized when longer than `maxLineBytes`. -/
def Piece.ofSegment (s : List UInt8) : Piece :=
  if maxLineBytes < s.length then .oversized else .line s

/-- Handles the pieces in order, until the receiver is gone. -/
def forwardPieces (receiverOpen : Bool) : List Piece → Tally → Metered Tally
  | [], t => return t
  | p :: ps, t => do
    match ← handlePiece receiverOpen t p with
    | none => return t
    | some t' => forwardPieces receiverOpen ps t'

@[simp] theorem segments_nil : segments [] = [] := by
  simp [segments]

/-- A segment ended by a line feed comes first, and the rest of the stream is split alike. -/
theorem segments_lineFeed {seg : List UInt8} (hseg : lineFeed ∉ seg) (rest : List UInt8) :
    segments (seg ++ lineFeed :: rest) = seg :: segments rest := by
  obtain ⟨x, xs, hx⟩ := List.exists_cons_of_ne_nil (List.splitOn_ne_nil lineFeed rest)
  simp only [segments, List.splitOn_append_cons_self_of_not_mem hseg, hx, List.getLast?_cons_cons,
    List.dropLast_cons_cons]
  split <;> rfl

/-- Bytes without a line feed are the last segment, when there are any. -/
theorem segments_of_not_mem {bytes : List UInt8} (h : lineFeed ∉ bytes) (hne : bytes ≠ []) :
    segments bytes = [bytes] := by
  simp [segments, List.splitOn_eq_singleton h, hne]

theorem exists_first_lineFeed {bytes : List UInt8} (h : lineFeed ∈ bytes) :
    ∃ seg rest, lineFeed ∉ seg ∧ bytes = seg ++ lineFeed :: rest := by
  obtain ⟨i, hi⟩ := Option.isSome_iff_exists.1 (List.isSome_idxOf?.2 h)
  obtain ⟨seg, rest, hbytes, hseg, -⟩ := eq_append_of_idxOf? hi
  exact ⟨seg, rest, hseg, hbytes⟩

/-! ### One round of the reader -/

namespace Buffered

theorem readPiece?_eq_none {r : Buffered} (h : r.remaining = []) : r.readPiece? = none := by
  have hfst := (readUntil_spec r (maxLineBytes + 1) []).1
  rw [h, lineTake_nil, List.nil_append] at hfst
  dsimp only [readPiece?]
  rw [hfst, if_pos rfl]

/-- A segment longer than `maxLineBytes` is read as an oversized piece, and the reading goes on
after the next line feed. -/
theorem readPiece?_oversized {r : Buffered} {seg tail : List UInt8} (hlong : maxLineBytes < seg.length)
    (hseg : lineFeed ∉ seg) (hr : r.remaining = seg ++ tail) :
    ∃ r', r.readPiece? = some (.oversized, r') ∧ r'.remaining = afterLine tail := by
  have hspec := readUntil_spec r (maxLineBytes + 1) []
  rw [List.nil_append] at hspec
  have hlen : (seg.take (maxLineBytes + 1)).length = maxLineBytes + 1 := by
    simp only [List.length_take]; omega
  have hno : lineFeed ∉ seg.take (maxLineBytes + 1) := fun h => hseg (List.mem_of_mem_take h)
  -- the round reads the first `maxLineBytes + 1` bytes, none of them a line feed
  have hline : lineTake (maxLineBytes + 1) r.remaining = seg.take (maxLineBytes + 1) := by
    rw [hr, ← List.take_append_drop (maxLineBytes + 1) seg, List.append_assoc,
      lineTake_append hno (Nat.le_of_eq hlen), hlen, Nat.sub_self]
    cases seg.drop (maxLineBytes + 1) ++ tail <;> simp [lineTake]
  have hne : seg.take (maxLineBytes + 1) ≠ [] := List.ne_nil_of_length_pos (by omega)
  have hlast : (seg.take (maxLineBytes + 1)).getLast? ≠ some lineFeed :=
    fun h => hno (List.mem_of_getLast? h)
  refine ⟨(r.readUntil (maxLineBytes + 1) []).2.skipRestOfLine, ?_, ?_⟩
  · dsimp only [readPiece?]
    rw [hspec.1, hline, if_neg hne, if_neg hlast, if_pos (by omega)]
  · rw [remaining_skipRestOfLine, hspec.2, hline, hlen, hr, List.drop_append_of_le_length (by omega),
      afterLine_append fun h => hseg (List.mem_of_mem_drop h)]

/-- A segment ended by a line feed is read in one round, and the reading goes on after it. -/
theorem readPiece?_of_lineFeed {r : Buffered} {seg rest : List UInt8} (hseg : lineFeed ∉ seg)
    (hr : r.remaining = seg ++ lineFeed :: rest) :
    ∃ r', r.readPiece? = some (Piece.ofSegment seg, r') ∧ r'.remaining = rest := by
  by_cases hlong : maxLineBytes < seg.length
  · rw [Piece.ofSegment, if_pos hlong, ← afterLine_lineFeed rest]
    exact readPiece?_oversized hlong hseg hr
  · have hspec := readUntil_spec r (maxLineBytes + 1) []
    rw [List.nil_append] at hspec
    -- the round reads the segment and its line feed
    have hline : lineTake (maxLineBytes + 1) r.remaining = seg ++ [lineFeed] := by
      obtain ⟨k, hk⟩ : ∃ k, maxLineBytes + 1 - seg.length = k + 1 := ⟨maxLineBytes - seg.length, by omega⟩
      rw [hr, lineTake_append hseg (by omega), hk, lineTake_lineFeed]
    refine ⟨(r.readUntil (maxLineBytes + 1) []).2, ?_, ?_⟩
    · dsimp only [readPiece?]
      rw [hspec.1, hline]
      simp [Piece.ofSegment, hlong]
    · rw [hspec.2, hline, hr]
      simp

/-- Bytes without a line feed are read in one round, as the last line. -/
theorem readPiece?_of_last {r : Buffered} {bytes : List UInt8} (hno : lineFeed ∉ bytes) (hne : bytes ≠ [])
    (hr : r.remaining = bytes) :
    ∃ r', r.readPiece? = some (Piece.ofSegment bytes, r') ∧ r'.remaining = [] := by
  by_cases hlong : maxLineBytes < bytes.length
  · rw [Piece.ofSegment, if_pos hlong]
    exact readPiece?_oversized hlong hno (by rw [hr, List.append_nil])
  · have hspec := readUntil_spec r (maxLineBytes + 1) []
    rw [List.nil_append] at hspec
    have hline : lineTake (maxLineBytes + 1) r.remaining = bytes := by
      simpa [hr] using lineTake_append hno (n := maxLineBytes + 1) (by omega) []
    have hlast : bytes.getLast? ≠ some lineFeed := fun h => hno (List.mem_of_getLast? h)
    refine ⟨(r.readUntil (maxLineBytes + 1) []).2, ?_, ?_⟩
    · dsimp only [readPiece?]
      rw [hspec.1, hline, if_neg hne, if_neg hlast, if_neg hlong, Piece.ofSegment, if_neg hlong]
    · rw [hspec.2, hline, hr, List.drop_length]

end Buffered

/-! ### The reader refines the splitter -/

theorem forwardFrom_of_none {r : Buffered} (h : r.readPiece? = none) (o : Bool) (t : Tally) :
    forwardFrom o r t = pure t := by
  rw [forwardFrom]
  split
  · rfl
  · rename_i heq
    rw [h] at heq
    cases heq

theorem forwardFrom_of_some {r r' : Buffered} {p : Piece} (h : r.readPiece? = some (p, r'))
    (o : Bool) (t : Tally) :
    forwardFrom o r t = (do
      match ← handlePiece o t p with
      | none => return t
      | some t' => forwardFrom o r' t') := by
  rw [forwardFrom]
  split
  · rename_i heq
    rw [h] at heq
    cases heq
  · rename_i heq
    rw [h] at heq
    cases heq
    rfl

/-- **The reader refines the splitter.** However the stream is chunked, the reading loop handles
the pieces of its segments, in order. -/
theorem forwardFrom_eq_forwardPieces (o : Bool) (r : Buffered) (t : Tally) :
    forwardFrom o r t = forwardPieces o ((segments r.remaining).map Piece.ofSegment) t := by
  -- strong induction on the bytes left: each round reads one segment and shortens the stream
  induction hn : r.remaining.length using Nat.strongRecOn generalizing r t with
  | _ n ih =>
    by_cases hnil : r.remaining = []
    · rw [forwardFrom_of_none (Buffered.readPiece?_eq_none hnil), hnil, segments_nil]
      rfl
    -- the first segment, and the stream behind it
    obtain ⟨seg, r', hread, hrest, hsegs⟩ : ∃ seg r', r.readPiece? = some (Piece.ofSegment seg, r') ∧
        r'.remaining.length < n ∧ segments r.remaining = seg :: segments r'.remaining := by
      by_cases hlf : lineFeed ∈ r.remaining
      · obtain ⟨seg, rest, hseg, hr⟩ := exists_first_lineFeed hlf
        obtain ⟨r', hread, hr'⟩ := Buffered.readPiece?_of_lineFeed hseg hr
        refine ⟨seg, r', hread, hn ▸ Buffered.remaining_lt_of_readPiece? hread, ?_⟩
        rw [hr, hr', segments_lineFeed hseg]
      · obtain ⟨r', hread, hr'⟩ := Buffered.readPiece?_of_last hlf hnil rfl
        refine ⟨r.remaining, r', hread, hn ▸ Buffered.remaining_lt_of_readPiece? hread, ?_⟩
        rw [hr', segments_of_not_mem hlf hnil, segments_nil]
    rw [forwardFrom_of_some hread, hsegs, List.map_cons, forwardPieces]
    congr 1
    funext next
    cases next with
    | none => rfl
    | some t' => exact ih _ hrest r' t' rfl

/-! ### What the splitter sends and counts -/

/-- The event a segment sends: one that fits, is not blank and decodes. -/
def lineEvent? (s : List UInt8) : Option Event :=
  if s.length ≤ maxLineBytes ∧ ¬ s.all Text.isAsciiBlank then Event.decodeLine s else none

/-- How many segments are counted as skipped: those longer than `maxLineBytes`, and those that
fit, are not blank and do not decode. -/
def skippedCount (segs : List (List UInt8)) : Nat :=
  segs.countP (fun s => maxLineBytes < s.length) +
    segs.countP fun s => s.length ≤ maxLineBytes ∧ ¬ s.all Text.isAsciiBlank ∧ Event.decodeLine s = none

@[simp] theorem skippedCount_nil : skippedCount [] = 0 := rfl

theorem skippedCount_cons (s : List UInt8) (segs : List (List UInt8)) :
    skippedCount (s :: segs) = skippedCount [s] + skippedCount segs := by
  simp only [skippedCount, List.countP_cons, List.countP_nil]
  omega

theorem skippedCount_of_event {s : List UInt8} {e : Event} (he : lineEvent? s = some e) :
    skippedCount [s] = 0 := by
  unfold lineEvent? at he
  split_ifs at he with hfit
  simp [skippedCount, hfit.1, Nat.not_lt.2 hfit.1, he]

theorem handlePiece_of_event {s : List UInt8} {e : Event} (he : lineEvent? s = some e) (o : Bool)
    (t : Tally) (cs : Counters) :
    (handlePiece o t (Piece.ofSegment s)).run cs =
      (if o then some { t with forwarded := t.forwarded + 1, events := t.events ++ [e] } else none, cs) := by
  unfold lineEvent? at he
  split_ifs at he with hfit
  simp only [Piece.ofSegment, if_neg (Nat.not_lt.2 hfit.1), handlePiece, hfit.2, Event.ofLine?, he]
  cases o <;> rfl

theorem handlePiece_of_none {s : List UInt8} (he : lineEvent? s = none) (o : Bool) (t : Tally)
    (cs : Counters) :
    (handlePiece o t (Piece.ofSegment s)).run cs =
      (some { t with skipped := t.skipped + skippedCount [s] },
        { cs with skipped := cs.skipped + skippedCount [s] }) := by
  unfold lineEvent? at he
  by_cases hlong : maxLineBytes < s.length
  · -- oversized: counted once
    have hk : skippedCount [s] = 1 := by simp [skippedCount, hlong, Nat.not_le.2 hlong]
    rw [hk, Piece.ofSegment, if_pos hlong]
    rfl
  by_cases hblank : s.all Text.isAsciiBlank
  · -- blank: ignored
    have hk : skippedCount [s] = 0 := by
      have hall : ¬∃ x ∈ s, Text.isAsciiBlank x = false := by simpa using hblank
      simp [skippedCount, hlong, hall]
    simp only [hk, Piece.ofSegment, if_neg hlong, handlePiece, hblank, if_true]
    rfl
  · -- fits, not blank, does not decode: counted once, by the decoder and by the tally
    rw [if_pos ⟨Nat.not_lt.1 hlong, hblank⟩] at he
    have hk : skippedCount [s] = 1 := by
      have hsome : ∃ x ∈ s, Text.isAsciiBlank x = false := by simpa using hblank
      simp [skippedCount, hlong, Nat.not_lt.1 hlong, hsome, he]
    simp only [hk, Piece.ofSegment, if_neg hlong, handlePiece, hblank, Event.ofLine?, he]
    rfl


theorem forwardPieces_cons_run (o : Bool) (p : Piece) (ps : List Piece) (t : Tally) (cs : Counters) :
    (forwardPieces o (p :: ps) t).run cs =
      match (handlePiece o t p).run cs with
      | (none, cs') => (t, cs')
      | (some t', cs') => (forwardPieces o ps t').run cs' := by
  simp only [forwardPieces, StateT.run_bind]
  rcases (handlePiece o t p).run cs with ⟨_ | t', cs'⟩ <;> rfl

/-- With the receiver open, the splitter sends the event of every segment that has one, and
counts the skipped segments, in the tally and in the counters alike. -/
theorem forwardPieces_open (segs : List (List UInt8)) (t : Tally) (cs : Counters) :
    (forwardPieces true (segs.map Piece.ofSegment) t).run cs =
      ({ forwarded := t.forwarded + (segs.filterMap lineEvent?).length,
         skipped := t.skipped + skippedCount segs,
         events := t.events ++ segs.filterMap lineEvent? },
       { cs with skipped := cs.skipped + skippedCount segs }) := by
  induction segs generalizing t cs with
  | nil => simp [forwardPieces]; rfl
  | cons s segs ih =>
    rw [List.map_cons, forwardPieces_cons_run, skippedCount_cons]
    cases he : lineEvent? s with
    | none =>
      rw [handlePiece_of_none he]
      simp only [ih, List.filterMap_cons, he]
      congr 2 <;> omega
    | some e =>
      rw [handlePiece_of_event he, if_pos rfl]
      simp only [ih, List.filterMap_cons, he, skippedCount_of_event he, List.length_cons,
        List.append_assoc, List.singleton_append, Nat.zero_add]
      congr 2
      omega

/-- With the receiver gone, the splitter stops at the first segment that has an event, having
counted the skipped segments before it. -/
theorem forwardPieces_closed (segs : List (List UInt8)) (t : Tally) (cs : Counters) :
    (forwardPieces false (segs.map Piece.ofSegment) t).run cs =
      ({ t with skipped := t.skipped + skippedCount (segs.takeWhile fun s => (lineEvent? s).isNone) },
       { cs with skipped := cs.skipped + skippedCount (segs.takeWhile fun s => (lineEvent? s).isNone) }) := by
  induction segs generalizing t cs with
  | nil => rfl
  | cons s segs ih =>
    rw [List.map_cons, forwardPieces_cons_run]
    cases he : lineEvent? s with
    | none =>
      rw [handlePiece_of_none he]
      simp only [ih, List.takeWhile_cons, he, Option.isNone_none, if_true]
      rw [skippedCount_cons s (segs.takeWhile fun s => (lineEvent? s).isNone)]
      congr 2 <;> omega
    | some e =>
      rw [handlePiece_of_event he, if_neg Bool.false_ne_true]
      simp only [List.takeWhile_cons, he, Option.isNone_some, Bool.false_eq_true, if_false,
        skippedCount_nil, Nat.add_zero]

/-! ### Forwarding a stream of lines -/

/-- **Reading lines refines splitting them.** For every stream, however it is chunked, and with
the receiver open, the reading sends, in order, the event of every segment that fits, is not
blank and decodes; counts each event sent as forwarded; counts as skipped the segments longer
than `maxLineBytes` and those that fit, are not blank and do not decode; and the skip counter
grows by that count, no other counter moving. With the receiver gone, it sends nothing and stops
at the first segment that would send an event, having counted the skipped segments before it
only. -/
theorem forwardFrom_splits_lines (r : Buffered) (cs : Counters) :
    let segs := segments r.remaining
    let opened := (forwardFrom true r {}).run cs
    let closed := (forwardFrom false r {}).run cs
    let before := segs.takeWhile fun s => (lineEvent? s).isNone
    (opened.1.events = segs.filterMap lineEvent? ∧ opened.1.forwarded = opened.1.events.length ∧
      opened.1.skipped = skippedCount segs ∧
      opened.2 = { cs with skipped := cs.skipped + opened.1.skipped }) ∧
    (closed.1.events = [] ∧ closed.1.forwarded = 0 ∧ closed.1.skipped = skippedCount before ∧
      closed.2 = { cs with skipped := cs.skipped + closed.1.skipped }) := by
  dsimp only
  rw [forwardFrom_eq_forwardPieces, forwardFrom_eq_forwardPieces, forwardPieces_open,
    forwardPieces_closed]
  simp

end MinuteWindow.Ingest
