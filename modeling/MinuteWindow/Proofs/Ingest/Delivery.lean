import Mathlib
import MinuteWindow.Ingest.Channel
/-! Delivery through the event channel: nothing lost, nothing doubled.

`Channel.Sound a cs c` is what holds of every state the channel reaches from its start, with
the consumer recording into `a` from counters `cs`:

* the events received and those still queued, read producer by producer, are exactly the
  events that producer's sends delivered, in the order it sent them;
* the consumer's aggregator, counters and count are those of recording the received events in
  the order received, as the one-by-one consumer `consume` does;
* the channel never holds more than its capacity, and every delivered event is either received
  or queued;
* once the consumer has ended, the channel is empty, no producer holds its sender, and the
  consumer returned its count.

`Sound` holds at the start and is kept by every move (`Sound.step`), hence by every schedule
(`Sound.run`). `consumer_records_each_delivered_event_once`: on every schedule each producer's
delivered events are received in the order sent, each recorded exactly once, and the channel stays
within its capacity; once every sender is dropped and the channel drained, the next receive ends
the consumer with the number of delivered events. -/
namespace MinuteWindow.Ingest
open Window Telemetry

/-! ### Recording one event after another -/

theorem consume_append (a : Aggregator) (evs : List Event) (e : Event) (cs : Counters) :
    (consume a (evs ++ [e])).run cs =
      let r := (consume a evs).run cs
      let r' := (r.1.1.recordText e.category e.timestamp).run r.2
      ((r'.1, r.1.2 + 1), r'.2) := by
  induction evs generalizing a cs with
  | nil => rfl
  | cons x evs ih =>
    rw [List.cons_append]
    simp only [consume, StateT.run_bind, ih]
    rfl

/-- Changing one entry of a list of counts changes the sum by the difference. -/
theorem sum_set_add {l : List Nat} {i x : Nat} (h : l[i]? = some x) (y : Nat) :
    (l.set i y).sum + x = l.sum + y := by
  induction l generalizing i with
  | nil => cases h
  | cons n l ih =>
    cases i with
    | zero =>
      simp only [List.getElem?_cons_zero, Option.some.injEq] at h
      subst h
      simp only [List.set_cons_zero, List.sum_cons]
      omega
    | succ i =>
      simp only [List.getElem?_cons_succ] at h
      have := ih h
      simp only [List.set_cons_succ, List.sum_cons]
      omega

namespace Channel
variable {c c' : Channel} {a : Aggregator} {cs : Counters}

/-! ### What one move can do -/

theorem step_send {p : Nat} {e : Event} (h : c.step (.send p e) = some c') :
    ∃ pr, c.producers[p]? = some pr ∧ pr.holding = true ∧
      ((c.consumer.result.isSome = true ∧ c' = c) ∨
        (c.consumer.result = none ∧ c.queue.length < c.capacity ∧
          c' = { c with queue := c.queue ++ [⟨p, e⟩],
                        producers := c.producers.set p { pr with delivered := pr.delivered ++ [e] } })) := by
  simp only [step] at h
  split at h
  · cases h
  · rename_i pr hpr
    refine ⟨pr, hpr, ?_⟩
    split_ifs at h with hh hr hq
    · cases h
      exact ⟨by simpa using hh, Or.inl ⟨hr, rfl⟩⟩
    · cases h
      exact ⟨by simpa using hh, Or.inr ⟨by simpa using hr, hq, rfl⟩⟩

theorem step_release {p : Nat} (h : c.step (.release p) = some c') :
    ∃ pr, c.producers[p]? = some pr ∧ pr.holding = true ∧
      c' = { c with producers := c.producers.set p { pr with holding := false } } := by
  simp only [step] at h
  split at h
  · cases h
  · rename_i pr hpr
    split_ifs at h with hh
    cases h
    exact ⟨pr, hpr, hh, rfl⟩

theorem step_receive (h : c.step .receive = some c') :
    c.consumer.result = none ∧
      ((∃ env rest, c.queue = env :: rest ∧ c' = { c with queue := rest, consumer := c.consumer.take env }) ∨
        (c.queue = [] ∧ c.held = false ∧
          c' = { c with consumer := { c.consumer with result := some c.consumer.recorded } })) := by
  simp only [step] at h
  by_cases hr : c.consumer.result.isSome = true
  · simp [hr] at h
  have hnone : c.consumer.result = none := by simpa using hr
  rw [if_neg hr] at h
  refine ⟨hnone, ?_⟩
  cases hq : c.queue with
  | cons env rest =>
    simp only [hq, Option.some.injEq] at h
    exact Or.inl ⟨env, rest, rfl, h.symm⟩
  | nil =>
    by_cases hheld : c.held = true
    · simp [hq, hheld] at h
    · simp only [hq, hheld, if_false, Option.some.injEq, Bool.false_eq_true] at h
      refine Or.inr ⟨rfl, by simpa using hheld, ?_⟩
      subst h
      rfl

/-! ### The invariant -/

/-- What every state reached from the start satisfies, the consumer recording into `a` from
counters `cs`. -/
structure Sound (a : Aggregator) (cs : Counters) (c : Channel) : Prop where
  /-- Received and queued events, producer by producer, are what its sends delivered. -/
  per_sender : ∀ p, ((c.consumer.received ++ c.queue).filter (·.sender = p)).map (·.event) = c.deliveredBy p
  /-- The consumer's state is that of recording the received events in order. -/
  recording : (consume a (c.consumer.received.map (·.event))).run cs =
    ((c.consumer.aggregator, c.consumer.recorded), c.consumer.counters)
  bounded : c.queue.length ≤ c.capacity
  /-- Every delivered event is received or queued. -/
  accounted : c.deliveredCount = c.consumer.received.length + c.queue.length
  ended : ∀ r, c.consumer.result = some r → r = c.consumer.recorded ∧ c.queue = [] ∧ c.held = false

theorem sound_start (capacity n : Nat) (a : Aggregator) (cs : Counters) :
    Sound a cs (start capacity n a cs) where
  per_sender p := by
    by_cases hp : p < n <;> simp [start, deliveredBy, hp]
  recording := rfl
  bounded := Nat.zero_le _
  accounted := by simp [start, deliveredCount, ← List.sum_eq_foldr]
  ended r h := by cases h

theorem deliveredBy_set {pr pr' : Producer} {p : Nat} (hpr : c.producers[p]? = some pr) (q : Nat) :
    ((c.producers.set p pr')[q]?.map (·.delivered)).getD [] =
      if p = q then pr'.delivered else c.deliveredBy q := by
  rw [List.getElem?_set]
  have hlt : p < c.producers.length := (List.getElem?_eq_some_iff.1 hpr).1
  split_ifs with hq <;> simp [deliveredBy]

/-- A send into an open channel appends the event to the queue and to what its producer
delivered. -/
theorem Sound.send {p : Nat} {e : Event} {pr : Producer} (h : Sound a cs c) (hpr : c.producers[p]? = some pr)
    (hr : c.consumer.result = none) (hq : c.queue.length < c.capacity) :
    Sound a cs { c with queue := c.queue ++ [⟨p, e⟩],
                        producers := c.producers.set p { pr with delivered := pr.delivered ++ [e] } } where
  per_sender q := by
    have hq' := h.per_sender q
    show ((c.consumer.received ++ (c.queue ++ [(⟨p, e⟩ : Envelope)])).filter (·.sender = q)).map (·.event) =
      ((c.producers.set p _)[q]?.map (·.delivered)).getD []
    rw [deliveredBy_set hpr, ← List.append_assoc, List.filter_append,
      List.map_append, hq']
    by_cases hpq : p = q
    · subst hpq
      simp [deliveredBy, hpr]
    · simp [hpq]
  recording := h.recording
  bounded := by
    show (c.queue ++ _).length ≤ c.capacity
    simp only [List.length_append, List.length_singleton]
    omega
  accounted := by
    have hsum := @sum_set_add (c.producers.map (·.delivered.length)) p pr.delivered.length
      (by simp [hpr]) (pr.delivered ++ [e]).length
    have hacc := h.accounted
    unfold deliveredCount at hacc ⊢
    rw [← List.sum_eq_foldr] at hacc ⊢
    simp only [List.map_set, List.length_append, List.length_singleton] at hsum ⊢
    omega
  ended r hres := by
    simp only [hr] at hres
    cases hres

/-- Dropping a sender changes nothing that was delivered. -/
theorem Sound.release {p : Nat} {pr : Producer} (h : Sound a cs c) (hpr : c.producers[p]? = some pr)
    (hheld : pr.holding = true) :
    Sound a cs { c with producers := c.producers.set p { pr with holding := false } } where
  per_sender q := by
    have hq' := h.per_sender q
    show _ = ((c.producers.set p _)[q]?.map (·.delivered)).getD []
    rw [deliveredBy_set hpr]
    split_ifs with hpq
    · subst hpq
      simpa [deliveredBy, hpr] using hq'
    · exact hq'
  recording := h.recording
  bounded := h.bounded
  accounted := by
    have hsum := @sum_set_add (c.producers.map (·.delivered.length)) p pr.delivered.length
      (by simp [hpr]) pr.delivered.length
    have hacc := h.accounted
    unfold deliveredCount at hacc ⊢
    rw [← List.sum_eq_foldr] at hacc ⊢
    simp only [List.map_set] at hsum ⊢
    omega
  ended r hres := by
    -- an ended consumer has seen every sender dropped, and this one was still held
    obtain ⟨-, -, hnot⟩ := h.ended r hres
    have hmem : pr ∈ c.producers := List.mem_of_getElem? hpr
    simp only [held, List.any_eq_false] at hnot
    exact absurd hheld (by simpa using hnot pr hmem)

/-- A receive moves the oldest event from the queue to the consumer, which records it. -/
theorem Sound.take {env : Envelope} {rest : List Envelope} (h : Sound a cs c) (hq : c.queue = env :: rest)
    (hr : c.consumer.result = none) :
    Sound a cs { c with queue := rest, consumer := c.consumer.take env } where
  per_sender p := by
    have hp := h.per_sender p
    rw [hq] at hp
    simpa [Consumer.take, deliveredBy] using hp
  recording := by
    show (consume a ((c.consumer.received ++ [env]).map (·.event))).run cs = _
    rw [List.map_append, List.map_singleton, consume_append, h.recording]
    rfl
  bounded := by
    have hb := h.bounded
    rw [hq, List.length_cons] at hb
    show rest.length ≤ c.capacity
    omega
  accounted := by
    have hacc := h.accounted
    rw [hq, List.length_cons] at hacc
    show c.deliveredCount = (c.consumer.received ++ [env]).length + rest.length
    rw [List.length_append, List.length_singleton]
    omega
  ended r hres := by
    simp only [Consumer.take, hr] at hres
    cases hres

/-- The consumer ends on a drained channel that no sender holds, returning its count. -/
theorem Sound.finish (h : Sound a cs c) (hq : c.queue = []) (hheld : c.held = false) :
    Sound a cs { c with consumer := { c.consumer with result := some c.consumer.recorded } } where
  per_sender := h.per_sender
  recording := h.recording
  bounded := h.bounded
  accounted := h.accounted
  ended r hres := by
    simp only [Option.some.injEq] at hres
    exact ⟨hres.symm, hq, hheld⟩

theorem Sound.step (h : Sound a cs c) {m : Move} (hs : c.step m = some c') : Sound a cs c' := by
  cases m with
  | send p e =>
    obtain ⟨pr, hpr, -, ⟨-, rfl⟩ | ⟨hr, hq, rfl⟩⟩ := step_send hs
    · exact h
    · exact h.send hpr hr hq
  | release p =>
    obtain ⟨pr, hpr, hheld, rfl⟩ := step_release hs
    exact h.release hpr hheld
  | receive =>
    obtain ⟨hr, ⟨env, rest, hq, rfl⟩ | ⟨hq, hheld, rfl⟩⟩ := step_receive hs
    · exact h.take hq hr
    · exact h.finish hq hheld

/-- Every schedule keeps the channel sound. -/
theorem Sound.run (h : Sound a cs c) {ms : List Move} (hr : c.run ms = some c') : Sound a cs c' := by
  induction ms generalizing c with
  | nil =>
    cases hr
    exact h
  | cons m ms ih =>
    obtain ⟨c₁, h₁, h₂⟩ := Option.bind_eq_some_iff.1 hr
    exact ih (h.step h₁) h₂

/-- The consumer has recorded every event it received: its count is their number. -/
theorem Sound.recorded_eq (h : Sound a cs c) : c.consumer.recorded = c.consumer.received.length := by
  have hlen : ∀ (a : Aggregator) (evs : List Event) (cs : Counters), ((consume a evs).run cs).1.2 = evs.length := by
    intro a evs
    induction evs generalizing a with
    | nil => intro cs; rfl
    | cons e evs ih =>
      intro cs
      show ((consume ((a.recordText e.category e.timestamp).run cs).1 evs).run
        ((a.recordText e.category e.timestamp).run cs).2).1.2 + 1 = _
      rw [ih, List.length_cons]
  have := hlen a (c.consumer.received.map (·.event)) cs
  rw [h.recording, List.length_map] at this
  exact this

end Channel

/-- **No event is lost or duplicated.** For a channel of any capacity shared by any number of
producers, after any schedule of sends, drops and receives: each producer's delivered events are
exactly the ones the consumer received or that still wait in the channel from it, in the order it
sent them; the consumer's aggregator and counters are those of recording the received events in
the order received, and its count is their number; the channel holds at most its capacity. Once
the consumer has ended, the channel is drained, no sender is held, and it returned the number of
delivered events; and once every sender is dropped and the channel drained, its next receive
ends it with that number. -/
theorem consumer_records_each_delivered_event_once (capacity n : Nat) (a : Aggregator) (cs : Counters)
    (moves : List Move) (c : Channel) (hrun : (Channel.start capacity n a cs).run moves = some c) :
    (∀ p, ((c.consumer.received ++ c.queue).filter (·.sender = p)).map (·.event) = c.deliveredBy p) ∧
    (consume a (c.consumer.received.map (·.event))).run cs =
      ((c.consumer.aggregator, c.consumer.received.length), c.consumer.counters) ∧
    c.queue.length ≤ capacity ∧
    (∀ r, c.consumer.result = some r → c.queue = [] ∧ c.held = false ∧ r = c.deliveredCount) ∧
    (c.consumer.result = none → c.queue = [] → c.held = false →
      ∃ c', c.step .receive = some c' ∧ c'.consumer.result = some c.deliveredCount) := by
  have h := (Channel.sound_start capacity n a cs).run hrun
  have hcap : c.capacity = capacity := by
    -- no move changes the capacity
    have hstep : ∀ {x y : Channel} {m : Move}, x.step m = some y → y.capacity = x.capacity := by
      intro x y m hs
      cases m with
      | send p e =>
        obtain ⟨pr, -, -, ⟨-, rfl⟩ | ⟨-, -, rfl⟩⟩ := Channel.step_send hs <;> rfl
      | release p =>
        obtain ⟨pr, -, -, rfl⟩ := Channel.step_release hs
        rfl
      | receive =>
        obtain ⟨-, ⟨env, rest, -, rfl⟩ | ⟨-, -, rfl⟩⟩ := Channel.step_receive hs <;> rfl
    have hrun' : ∀ {x y : Channel} {ms : List Move}, x.run ms = some y → y.capacity = x.capacity := by
      intro x y ms
      induction ms generalizing x with
      | nil => intro hr; cases hr; rfl
      | cons m ms ih =>
        intro hr
        obtain ⟨x₁, h₁, h₂⟩ := Option.bind_eq_some_iff.1 hr
        exact (ih h₂).trans (hstep h₁)
    exact hrun' hrun
  have hcount : c.consumer.recorded = c.consumer.received.length := h.recorded_eq
  refine ⟨h.per_sender, hcount ▸ h.recording, hcap ▸ h.bounded, fun r hr => ?_, fun hr hq hheld => ?_⟩
  · obtain ⟨rfl, hq, hheld⟩ := h.ended r hr
    refine ⟨hq, hheld, ?_⟩
    rw [h.accounted, hq, hcount, List.length_nil, Nat.add_zero]
  · refine ⟨{ c with consumer := { c.consumer with result := some c.consumer.recorded } },
      by simp [Channel.step, hr, hq, hheld], ?_⟩
    show some c.consumer.recorded = some c.deliveredCount
    rw [h.accounted, hq, hcount, List.length_nil, Nat.add_zero]

/-- Two producers share a channel of one slot: each sends one event, the consumer takes them
in turn, and once both senders are dropped it ends, having recorded both. -/
theorem consumer_records_two_producers :
    let a := Window.Aggregator.create 3 (Time.Instant.ofSecs 0)
    let moves := [Move.send 0 ⟨"a", "60"⟩, .receive, .send 1 ⟨"b", "120"⟩, .release 0, .receive,
      .release 1, .receive]
    ∃ c, (Channel.start 1 2 a {}).run moves = some c ∧ c.consumer.result = some 2 ∧
      ((∀ p, ((c.consumer.received ++ c.queue).filter (·.sender = p)).map (·.event) = c.deliveredBy p) ∧
      (consume a (c.consumer.received.map (·.event))).run {} =
        ((c.consumer.aggregator, c.consumer.received.length), c.consumer.counters) ∧
      c.queue.length ≤ 1 ∧
      (∀ r, c.consumer.result = some r → c.queue = [] ∧ c.held = false ∧ r = c.deliveredCount) ∧
      (c.consumer.result = none → c.queue = [] → c.held = false →
        ∃ c', c.step .receive = some c' ∧ c'.consumer.result = some c.deliveredCount)) := by
  intro a moves
  have hsome : ((Channel.start 1 2 a {}).run moves).isSome = true := by decide
  obtain ⟨c, hc⟩ := Option.isSome_iff_exists.1 hsome
  have hres : ((Channel.start 1 2 a {}).run moves).map (·.consumer.result) = some (some 2) := by decide
  rw [hc, Option.map_some, Option.some.injEq] at hres
  exact ⟨c, hc, hres, consumer_records_each_delivered_event_once 1 2 a {} moves c hc⟩

end MinuteWindow.Ingest
