import Weron.Rejoin

/-!
# Dropped frames

The session loop drops an inbound frame that does not decrypt, whose header or typed
envelope does not parse, whose type is unknown, that is an offer, answer or candidate for
another id, an answer or candidate from a sender with no entry, or an answer whose payload
is not a session description (`Dropped`). Handled from the loop's `select` up to the end of
the critical section it may take, such a frame leaves the state as it was, and the loop
goes back to its `select` (`frame_dropped`).

An offer for this id whose payload is not a session description is dropped too, but only
after its connection was created: the loop goes on with one more connection, open and
registered nowhere (`frame_garbledOffer`). `garbledOffer_leaves_conn` replays it.
-/

namespace Weron

namespace Adapter

variable {Raw : Type} {codec : Codec Raw}

/-- The frames the spec says the loop drops, the offer with a garbled payload apart. The
registry is read when the frame's critical section runs. -/
inductive Dropped (codec : Codec Raw) (s : Adapter Raw) (input : Raw) : Prop
  | undecryptable : codec.decrypt input = none → Dropped codec s input
  | unparsed {plain : Raw} : codec.decrypt input = some plain → codec.unmarshalMessage plain = none →
      Dropped codec s input
  | unknownType {plain : Raw} {message : Message} : codec.decrypt input = some plain →
      codec.unmarshalMessage plain = some message →
      message.type ∉ [typeIntroduction, typeOffer, typeCandidate, typeAnswer] → Dropped codec s input
  | badIntroduction {plain : Raw} {message : Message} : codec.decrypt input = some plain →
      codec.unmarshalMessage plain = some message → message.type = typeIntroduction →
      codec.unmarshalIntroduction plain = none → Dropped codec s input
  | badExchange {plain : Raw} {message : Message} : codec.decrypt input = some plain →
      codec.unmarshalMessage plain = some message →
      message.type ∈ [typeOffer, typeCandidate, typeAnswer] →
      codec.unmarshalExchange plain = none → Dropped codec s input
  | misaddressed {plain : Raw} {message : Message} {exchange : Exchange Raw} :
      codec.decrypt input = some plain → codec.unmarshalMessage plain = some message →
      message.type ∈ [typeOffer, typeCandidate, typeAnswer] →
      codec.unmarshalExchange plain = some exchange → exchange.recipient ≠ s.id → Dropped codec s input
  | unregistered {plain : Raw} {message : Message} {exchange : Exchange Raw} :
      codec.decrypt input = some plain → codec.unmarshalMessage plain = some message →
      message.type ∈ [typeCandidate, typeAnswer] → codec.unmarshalExchange plain = some exchange →
      exchange.recipient = s.id → s.peers.lookup exchange.sender = none → Dropped codec s input
  | undescribed {plain : Raw} {message : Message} {exchange : Exchange Raw} {entry : Peer} :
      codec.decrypt input = some plain → codec.unmarshalMessage plain = some message →
      message.type = typeAnswer → codec.unmarshalExchange plain = some exchange →
      exchange.recipient = s.id → s.peers.lookup exchange.sender = some entry →
      codec.unmarshalDescription exchange.payload = none → Dropped codec s input

/-- The four envelope types are distinct. -/
theorem types_ne : typeOffer ≠ typeIntroduction ∧ typeCandidate ≠ typeIntroduction ∧
    typeAnswer ≠ typeIntroduction ∧ typeCandidate ≠ typeOffer ∧ typeAnswer ≠ typeOffer ∧
    typeAnswer ≠ typeCandidate := by
  decide

/-- Receiving a frame at the `select`, with the reader running. -/
theorem step_receive {s : Adapter Raw} (alive : s.crashed = false) (selecting : s.loop = .selecting)
    (reading : s.reader = .reading) (input : Raw) (replies : Replies) :
    step codec s (.receive input replies) = s.withHandled (s.dispatch codec replies input) := by
  simp [step, alive, selecting, reading]

/-- Taking the free lock for a critical section. -/
theorem step_acquire {s : Adapter Raw} (alive : s.crashed = false) (free : s.peerLock = none)
    {critical : Critical Raw} (locking : s.loop = .locking critical) (replies : Replies) :
    step codec s (.acquire replies) = s.critical codec replies critical := by
  simp [step, alive, free, locking]

/-- At the `select` the loop holds no lock to take. -/
theorem step_acquire_selecting {s : Adapter Raw} (selecting : s.loop = .selecting)
    (replies : Replies) :
    step codec s (.acquire replies) = s := by
  unfold step; split <;> simp [selecting]

@[simp] theorem withHandled_skip (s : Adapter Raw) : s.withHandled s.skip = { s with loop := .selecting } :=
  rfl

/-- A frame dropped before any lock goes back to the `select` with nothing changed. -/
theorem frame_skipped {s : Adapter Raw} (alive : s.crashed = false)
    (selecting : s.loop = .selecting)
    (reading : s.reader = .reading) {input : Raw} {replies : Replies}
    (skipped : s.dispatch codec replies input = s.skip) (locked : Replies) :
    run codec s [.receive input replies, .acquire locked] = { s with loop := .selecting } := by
  rw [run_cons, step_receive alive selecting reading, skipped, withHandled_skip, run_cons,
    step_acquire_selecting rfl, run_nil]

/-- A frame dropped in its critical section goes back to the `select` with nothing changed. -/
theorem frame_locked {s : Adapter Raw} (alive : s.crashed = false) (selecting : s.loop = .selecting)
    (reading : s.reader = .reading) (free : s.peerLock = none) {input : Raw} {replies : Replies}
    (critical : Critical Raw)
    (locking : s.dispatch codec replies input = { s.skip with loop := .locking critical })
    {locked : Replies}
    (dropped : Adapter.critical codec { s with loop := .locking critical } locked critical = { s with loop := .selecting }) :
    run codec s [.receive input replies, .acquire locked] = { s with loop := .selecting } := by
  rw [run_cons, step_receive alive selecting reading, locking, run_cons,
    step_acquire (s := s.withHandled { s.skip with loop := .locking critical }) alive free rfl, run_nil]
  exact dropped

/-- **Dropped frames change nothing.** A frame the loop drops, handled from the `select` up
to the end of the critical section it may take, leaves every field of the state as it was,
and the loop back at its `select`. -/
theorem frame_dropped {s : Adapter Raw} (alive : s.crashed = false)
    (selecting : s.loop = .selecting)
    (reading : s.reader = .reading) (free : s.peerLock = none) {input : Raw}
    (dropped : Dropped codec s input) (replies locked : Replies) :
    run codec s [.receive input replies, .acquire locked] = { s with loop := .selecting } := by
  cases dropped with
  | undecryptable garbled =>
    exact frame_skipped alive selecting reading (by simp [dispatch, garbled]) locked
  | @unparsed plain decrypted garbled =>
    exact frame_skipped alive selecting reading (by simp [dispatch, decrypted, garbled]) locked
  | @unknownType plain message decrypted parsed unknown =>
    simp only [List.mem_cons, List.not_mem_nil, or_false, not_or] at unknown
    exact frame_skipped alive selecting reading (by simp [dispatch, decrypted, parsed, unknown]) locked
  | @badIntroduction plain message decrypted parsed introduction garbled =>
    exact frame_skipped alive selecting reading
      (by simp [dispatch, decrypted, parsed, introduction, garbled]) locked
  | @badExchange plain message decrypted parsed typed garbled =>
    simp only [List.mem_cons, List.not_mem_nil, or_false] at typed
    refine frame_skipped alive selecting reading ?_ locked
    rcases typed with typed | typed | typed <;> simp [dispatch, decrypted, parsed, typed, garbled, types_ne]
  | @misaddressed plain message exchange decrypted parsed typed parsedExchange other =>
    simp only [List.mem_cons, List.not_mem_nil, or_false] at typed
    refine frame_skipped alive selecting reading ?_ locked
    rcases typed with typed | typed | typed
    · simp [dispatch, decrypted, parsed, typed, parsedExchange, types_ne, onOffer, other]
    · simp [dispatch, decrypted, parsed, typed, parsedExchange, types_ne, onCandidate, other]
    · simp [dispatch, decrypted, parsed, typed, parsedExchange, types_ne, onAnswer, other]
  | @unregistered plain message exchange decrypted parsed typed parsedExchange addressed unknown =>
    simp only [List.mem_cons, List.not_mem_nil, or_false] at typed
    rcases typed with typed | typed
    · exact frame_locked alive selecting reading free (.enqueue exchange)
        (by simp [dispatch, decrypted, parsed, typed, parsedExchange, types_ne, onCandidate, addressed])
        (by simp [critical, enqueue, unknown])
    · exact frame_locked alive selecting reading free (.lookup exchange)
        (by simp [dispatch, decrypted, parsed, typed, parsedExchange, types_ne, onAnswer, addressed])
        (by simp [critical, lookup, unknown, resume])
  | @undescribed plain message exchange entry decrypted parsed typed parsedExchange addressed registered
      garbled =>
    exact frame_locked alive selecting reading free (.lookup exchange)
      (by simp [dispatch, decrypted, parsed, typed, parsedExchange, types_ne, onAnswer, addressed])
      (by simp [critical, lookup, registered, garbled, resume])

/-- **A garbled offer leaves a connection open.** An offer for this adapter whose payload is
not a session description is dropped once its connection exists: the loop goes back to its
`select` with a fresh `iid` spent and one more connection, open and registered nowhere. -/
theorem frame_garbledOffer {s : Adapter Raw} (alive : s.crashed = false)
    (selecting : s.loop = .selecting)
    (reading : s.reader = .reading) {input plain : Raw} {message : Message} {offer : Exchange Raw}
    (decrypted : codec.decrypt input = some plain)
    (parsed : codec.unmarshalMessage plain = some message)
    (typed : message.type = typeOffer) (exchange : codec.unmarshalExchange plain = some offer)
    (addressed : offer.recipient = s.id) (garbled : codec.unmarshalDescription offer.payload = none)
    {replies : Replies} (created : replies.newPeerConnection = true) (locked : Replies) :
    run codec s [.receive input replies, .acquire locked] = { s with
      uuids := s.uuids + 1
      conns := s.conns ++ [⟨offer.sender, s.uuids, s.session, true, none, none, []⟩]
      loop := .selecting } := by
  have offered : s.dispatch codec replies input = s.onOffer codec replies offer := by
    simp [dispatch, decrypted, parsed, typed, exchange, types_ne]
  rw [run_cons, step_receive alive selecting reading, offered,
    s.onOffer_garbled_leaks addressed created garbled, run_cons, step_acquire_selecting rfl, run_nil]
  rfl

/-- Adapter A opens a session and receives an offer from B whose payload is not a session
description. -/
def garbledOffer : List (Action Plain) :=
  opening ++ [.receive (.exchange typeOffer "B" "A" (.text "x")) {}]

/-- The dropped offer leaves a connection for B, open and registered nowhere. -/
theorem garbledOffer_leaves_conn :
    (replay opening).conns.length = 0 ∧ (replay garbledOffer).loop = .selecting ∧
      (replay garbledOffer).conns.map Conn.remote = ["B"] ∧ 0 ∉ (replay garbledOffer).closedConns ∧
      (replay garbledOffer).peers.entries = [] := by
  decide

end Adapter

end Weron
