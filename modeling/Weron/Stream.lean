import Mathlib.Data.List.Basic

/-!
# The peer stream

`newDataChannelReadWriteCloser` wraps an opened data channel as the `io.ReadWriteCloser` the
host receives in `Peer.Conn` (875-906). The channel's `OnMessage` and `OnClose` handlers send
on the unbuffered `d.msgs`, so each blocks until a `Read` receives; the transport calls them
one at a time, for its messages in order and then for the close. `Read` copies what it
receives into the caller's buffer, and `Write` sends the caller's buffer as one message.

A `Stream` holds what the transport has still to hand on, the message a handler is blocked
on, and the reads made so far. What the reads received, then the blocked message, then the
transport's rest, is always what the transport was given (`Stream.Conserves`); hence the
`i`-th read returns what `Read` makes of the `i`-th message (`stream_reads`).
-/

namespace Weron

/-- The errors the stream returns: `io.EOF`, and the error of a failed `Send`. -/
inductive StreamError
  | eof
  | send
  deriving DecidableEq

/-- Go's `message`: the data a handler passes to `Read`, or the error the stream ends with. -/
structure Stream.Message where
  data : List UInt8
  err : Option StreamError
  deriving DecidableEq

/-- What the transport hands to the channel's handlers: a message, or the close. -/
inductive Delivery
  | message (data : List UInt8)
  | close
  deriving DecidableEq

/-- The handlers `newDataChannelReadWriteCloser` registers (880-886): `OnMessage` passes the
data on, `OnClose` an empty message with `io.EOF`. -/
def Delivery.handle : Delivery → Stream.Message
  | .message data => ⟨data, none⟩
  | .close => ⟨[], some .eof⟩

/-- Go's `copy(dst, src)`: `dst` with its first elements replaced by those of `src`, and how
many were copied. -/
def copy {α : Type} (dst src : List α) : List α × Nat :=
  (src.take dst.length ++ dst.drop src.length, min dst.length src.length)

/-- What a `Read` returns: the caller's buffer after the call, `n` and `err`. -/
structure ReadResult where
  buffer : List UInt8
  n : Int
  err : Option StreamError
  deriving DecidableEq

/-- `Read(p)` once it has received `msg` from `d.msgs` (891-899). -/
def read (p : List UInt8) (msg : Stream.Message) : ReadResult :=
  match msg.err with
  | some err => ⟨p, -1, some err⟩
  | none => ⟨(copy p msg.data).1, (copy p msg.data).2, none⟩

/-- `Write(p)` (900-906), given what `d.dc.Send(p)` returned: `n`, `err`, and the messages
the call sent. -/
def write (p : List UInt8) (sent : Option StreamError) :
    Int × Option StreamError × List (List UInt8) :=
  match sent with
  | some err => (-1, some err, [])
  | none => (p.length, none, [p])

/-- The stream and its channel: what the transport has still to hand to the handlers, the
message a handler is blocked sending on `d.msgs`, and every `Read` so far with its buffer and
result. -/
structure Stream where
  transport : List Delivery
  handing : Option Stream.Message
  reads : List (List UInt8 × ReadResult)

/-- One move: the transport calls the handler of its next delivery, which blocks on
`d.msgs`; or a `Read` with buffer `p` receives from `d.msgs`. -/
inductive StreamAction
  | deliver
  | read (p : List UInt8)

namespace Stream

/-- A fresh stream whose transport will deliver `deliveries`. -/
def start (deliveries : List Delivery) : Stream := ⟨deliveries, none, []⟩

/-- A move when it can be made: the transport calls a handler only once the previous one has
returned, and a `Read` completes only when a handler is blocked on `d.msgs`. -/
def step (st : Stream) : StreamAction → Stream
  | .deliver => match st.handing, st.transport with
    | none, delivery :: rest => { st with transport := rest, handing := some delivery.handle }
    | _, _ => st
  | .read p => match st.handing with
    | some msg => { st with handing := none, reads := st.reads ++ [(p, read p msg)] }
    | none => st

/-- The stream after a list of moves. -/
def run (st : Stream) (actions : List StreamAction) : Stream := actions.foldl step st

/-- The reads received, in order, the first messages the transport was given: each read
returned what `Read` makes of its message, and the messages read, the one blocked on
`d.msgs` and the transport's rest make up what it was given. -/
def Conserves (deliveries : List Delivery) (st : Stream) : Prop :=
  ∃ received : List Message,
    st.reads.map (·.2) = List.zipWith read (st.reads.map (·.1)) received ∧
      received.length = st.reads.length ∧
      received ++ st.handing.toList ++ st.transport.map Delivery.handle =
        deliveries.map Delivery.handle

theorem conserves_start (deliveries : List Delivery) : Conserves deliveries (start deliveries) :=
  ⟨[], rfl, rfl, by simp [start]⟩

/-- **What a move does**: nothing, or hand the next delivery to its handler, or complete a
read of the message a handler is blocked on. -/
theorem step_cases (st : Stream) (action : StreamAction) :
    st.step action = st ∨
      (∃ delivery rest, st.handing = none ∧ st.transport = delivery :: rest ∧
        st.step action = { st with transport := rest, handing := some delivery.handle }) ∨
      ∃ p msg, st.handing = some msg ∧
        st.step action = { st with handing := none, reads := st.reads ++ [(p, read p msg)] } := by
  cases action with
  | deliver =>
    rcases handing : st.handing with _ | msg
    · rcases transport : st.transport with _ | ⟨delivery, rest⟩
      · exact .inl (by simp [Stream.step, handing, transport])
      · exact .inr (.inl ⟨delivery, rest, rfl, rfl, by simp [Stream.step, handing, transport]⟩)
    · exact .inl (by simp [Stream.step, handing])
  | read p =>
    rcases handing : st.handing with _ | msg
    · exact .inl (by simp [Stream.step, handing])
    · exact .inr (.inr ⟨p, msg, rfl, by simp [Stream.step, handing]⟩)

/-- Every move keeps what the transport was given. -/
theorem Conserves.step {deliveries : List Delivery} {st : Stream} (conserves : Conserves deliveries st)
    (action : StreamAction) : Conserves deliveries (st.step action) := by
  obtain ⟨received, results, length, total⟩ := conserves
  rcases st.step_cases action with moved | ⟨delivery, rest, handing, transport, moved⟩ |
    ⟨p, msg, handing, moved⟩ <;> rw [moved]
  · exact ⟨received, results, length, total⟩
  · rw [handing, transport] at total
    exact ⟨received, results, length, by simpa using total⟩
  · rw [handing] at total
    exact ⟨received ++ [msg], by simp [results, List.zipWith_append, length], by simp [length],
      by simpa using total⟩

theorem Conserves.run {deliveries : List Delivery} {st : Stream} (conserves : Conserves deliveries st)
    (actions : List StreamAction) : Conserves deliveries (st.run actions) := by
  induction actions generalizing st with
  | nil => exact conserves
  | cons action actions ih => exact ih (conserves.step action)

/-- The `i`-th read returned what `Read` makes of the `i`-th delivery. -/
theorem Conserves.getElem? {deliveries : List Delivery} {st : Stream}
    (conserves : Conserves deliveries st) {i : Nat} {p : List UInt8} {result : ReadResult}
    (found : st.reads[i]? = some (p, result)) :
    ∃ delivery, deliveries[i]? = some delivery ∧ result = read p delivery.handle := by
  obtain ⟨received, results, length, total⟩ := conserves
  have within : i < received.length := length ▸ (List.getElem?_eq_some_iff.mp found).1
  have readAt := congrArg (·[i]?) results
  simp only [List.getElem?_map, found, Option.map_some', List.getElem?_zipWith,
    List.getElem?_eq_getElem within] at readAt
  have delivered := congrArg (·[i]?) total
  simp only [List.append_assoc, List.getElem?_append_left within, List.getElem?_eq_getElem within,
    List.getElem?_map] at delivered
  obtain ⟨delivery, found', handled⟩ := Option.map_eq_some'.mp delivered.symm
  exact ⟨delivery, found', by rw [handled]; exact Option.some.inj readAt⟩

end Stream

/-- **The reads of a stream.** Whatever the interleaving of the transport and the reads, the
`i`-th read returns what `Read` makes of the `i`-th delivery, so no delivery is read twice or
skipped: for one of the `k` messages, its first `n` bytes in the buffer, `n` the smaller of
the two lengths, and no error; for the close, `-1` with `io.EOF`. -/
theorem stream_reads (messages : List (List UInt8)) (actions : List StreamAction) :
    ((Stream.start (messages.map .message ++ [.close])).run actions).reads.length ≤
        messages.length + 1 ∧
      ∀ i p result, ((Stream.start (messages.map .message ++ [.close])).run actions).reads[i]? =
          some (p, result) →
        (∀ m, messages[i]? = some m →
          result = ⟨m.take p.length ++ p.drop m.length, (min p.length m.length : Nat), none⟩) ∧
        (i = messages.length → result = ⟨p, -1, some .eof⟩) := by
  have conserves := (Stream.conserves_start (messages.map .message ++ [.close])).run actions
  refine ⟨?_, fun i p result found => ?_⟩
  · obtain ⟨received, -, length, total⟩ := conserves
    have := congrArg List.length total
    simp only [List.length_append, List.length_map, List.length_singleton] at this
    omega
  · obtain ⟨delivery, delivered, rfl⟩ := conserves.getElem? found
    refine ⟨fun m message => ?_, fun last => ?_⟩
    · have within : i < (messages.map Delivery.message).length := by
        simpa using (List.getElem?_eq_some_iff.mp message).1
      rw [List.getElem?_append_left within, List.getElem?_map, message] at delivered
      cases delivered
      rfl
    · rw [last, List.getElem?_append_right (by simp), List.length_map, Nat.sub_self] at delivered
      cases delivered
      rfl

example : ((Stream.start [.message [1, 2, 3], .close]).run
    [.read [0, 0], .deliver, .deliver, .read [0, 0], .deliver, .read [9]]).reads =
      [([0, 0], ⟨[1, 2], 2, none⟩), ([9], ⟨[9], -1, some .eof⟩)] := rfl


end Weron
