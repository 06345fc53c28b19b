import Weron.Moves

/-!
# One live session per remote peer

The spec asks the registry to keep at most one live session per remote id: an entry is
replaced only after the old one is torn down, and removed only by its own session's
`Disconnected` event. The introduction branch replaces as asked (`replace_retires`), and a
`Disconnected` handler whose `iid` is not that of the registered entry leaves the state as it
is (`disconnected_superseded`).

Three other paths do not keep the invariant. The offer branch installs its entry over
whatever the sender had, without a teardown (`install_closes_nothing`). It creates its connection
before it decodes the offer's payload, and leaves that connection open when the payload is
not a session description (`onOffer_garbled_leaks`). The data-channel handlers look the
entry up by remote id alone, so the close of a replaced entry's channel closes and removes
the channel of the same label in the entry that replaced it (`channelClose_superseded`).
The traces `repeatedOffer` and `lateClose` replay the first and the last.
-/

namespace Weron

namespace Adapter

variable {Raw : Type} {codec : Codec Raw}

/-- The connection the loop has created and waits for the lock to register, if any. -/
def settingUp (s : Adapter Raw) (conn : Nat) : Bool :=
  match s.loop with
  | .locking (.replace _ entry _) => entry.conn == conn
  | .locking (.install _ created _ _) => created == conn
  | _ => false

/-- The connection half of the spec's invariant: every connection the loop created and is not
still setting up is the one registered for its remote id, or is closed. -/
def OneLiveSession (s : Adapter Raw) : Prop :=
  ∀ conn (_ : conn < s.conns.length), s.settingUp conn = false →
    (s.peers.lookup s.conns[conn].remote).map Peer.conn = some conn ∨ conn ∈ s.closedConns

instance (s : Adapter Raw) : Decidable s.OneLiveSession :=
  inferInstanceAs (Decidable (∀ conn (_ : conn < s.conns.length), s.settingUp conn = false →
    (s.peers.lookup s.conns[conn].remote).map Peer.conn = some conn ∨ conn ∈ s.closedConns))

/-- **The introduction branch retires before it replaces** (475-496). When every `Close`
succeeds and the old entry's queue is open, its critical section closes the old entry's
channels, connection and queue, registers the new entry, and releases the lock. -/
theorem replace_retires (s : Adapter Raw) {replies : Replies} (succeed : replies.ClosesSucceed)
    {sender : String} {old : Peer} (found : s.peers.lookup sender = some old)
    (live : old.candidates ∉ s.closedQueues) (entry : Peer) (offer : SessionDescription) :
    ∃ t, s.replace replies sender entry offer = .ok t ∧ t.Retired old ∧
      t.peers.lookup sender = some entry ∧ t.peerLock = none := by
  refine ⟨_, by
    simp only [replace, found, retire_ok { s with peerLock := some .loop } succeed live,
      Except.bind]; rfl, ?_, ?_, by simp⟩
  · refine ⟨by simp, by simp, fun label channel registered => ?_⟩
    have listed : ⟨label, channel⟩ ∈ old.channels.entries := AList.mem_lookup_iff.mp registered
    simpa using Or.inl ⟨label, listed⟩
  · simp [AList.lookup_insert]

/-- **The offer branch installs without a teardown** (666-671). It registers its entry for the
sender over whatever entry the sender had, and closes no connection, channel or queue. -/
theorem install_closes_nothing (s : Adapter Raw) (sender : String) (conn iid : Nat)
    (answer : SessionDescription) :
    let t := s.install sender conn iid answer
    t.peers.lookup sender = some ⟨conn, s.queues, ∅, iid⟩ ∧
      (t.closedConns, t.closedChannels, t.closedQueues) =
        (s.closedConns, s.closedChannels, s.closedQueues) := by
  simp [install, AList.lookup_insert]

/-- **A garbled offer leaves a connection behind** (529-641). An offer for this adapter whose
payload is not a session description is dropped after its connection was created: the loop
goes back to its `select` with one more open connection, for the sender, that nothing
registers. -/
theorem onOffer_garbled_leaks (s : Adapter Raw) {replies : Replies} {offer : Exchange Raw}
    (addressed : offer.recipient = s.id) (created : replies.newPeerConnection = true)
    (garbled : codec.unmarshalDescription offer.payload = none) :
    s.onOffer codec replies offer =
      ⟨s.uuids + 1, s.conns ++ [⟨offer.sender, s.uuids, s.session, true, none, none, []⟩],
        s.channels, s.queues, .selecting⟩ := by
  simp [onOffer, addressed, created, garbled]

/-- **A stale `Disconnected` is a no-op** (326-332, 554-560). When no entry is registered for
a connection's remote id, or the registered one was created with another `iid`, the
connection's `Disconnected` handler leaves the state as it is. -/
theorem disconnected_superseded (s : Adapter Raw) (replies : Replies) {conn : Nat}
    {c : Conn Raw} (found : s.conns[conn]? = some c)
    (stale : ∀ entry, s.peers.lookup c.remote = some entry → entry.iid ≠ c.iid) :
    s.disconnected replies conn = .ok s := by
  cases registered : s.peers.lookup c.remote with
  | none => simp [disconnected, found, registered]
  | some entry => simp [disconnected, found, registered, stale entry registered]

/-- **A stale channel close reaches the current entry** (383-405, 432-454, 609-631). When the
channel of a connection closes before its `OnOpen` ran, and the entry now registered for the
connection's remote id holds a channel under the same label, the handler closes that channel
and removes it from the entry, whichever session the entry belongs to. -/
theorem channelClose_superseded (s : Adapter Raw) {replies : Replies}
    (succeed : replies.ClosesSucceed) {channel : Nat} {d : Channel}
    (found : s.channels[channel]? = some d)
    (unopened : d.wrapped = false) {c : Conn Raw} (owner : s.conns[d.conn]? = some c) {entry : Peer}
    (registered : s.peers.lookup c.remote = some entry) {current : Nat}
    (labelled : entry.channels.lookup d.label = some current) :
    ∃ t, s.channelClose replies channel = .ok t ∧ current ∈ t.closedChannels ∧
      t.peers.lookup c.remote = some { entry with channels := entry.channels.erase d.label } := by
  refine ⟨{ s with
    closedChannels := current :: channel :: s.closedChannels
    peers := s.peers.insert c.remote { entry with channels := entry.channels.erase d.label } },
    ?_, by simp, by simp [AList.lookup_insert]⟩
  simp only [channelClose, found, unopened, owner, registered, labelled, closeChannel,
    succeed.2.2, Bool.false_eq_true, ↓reduceIte]
  rfl

/-- `B` offers to `A` twice, as it does when it rejoins and the signaler relays its new offer
after its old one. -/
def repeatedOffer : List (Action Plain) :=
  let offer := fun n => Plain.exchange typeOffer "B" "A" (.description ⟨.offer, "B", n⟩)
  opening ++ [.receive (offer 0) {}, .acquire {}, .receive (offer 1) {}, .acquire {}]

/-- After the repeated offer, the lock is free and the first answering connection is neither
closed nor registered. -/
theorem repeatedOffer_breaks_oneLiveSession :
    (replay repeatedOffer).peerLock = none ∧ ¬ (replay repeatedOffer).OneLiveSession := by
  decide

/-- `B` is introduced twice, as when it rejoins, and the primary channel of its first entry,
closed by the replacement, reports its close afterwards. -/
def lateClose : List (Action Plain) :=
  opening ++ [.receive (.introduction "B") {}, .acquire {}, .receive (.introduction "B") {},
    .acquire {}, .channelClose 0 {}]

/-- The late close of the replaced entry's channel closes the primary channel of the entry
that replaced it, whose `iid` differs, and removes it from that entry. -/
theorem lateClose_closes_new_primary :
    ((replay lateClose).conns[0]?.map Conn.iid, ((replay lateClose).peers.lookup "B").map Peer.iid) =
        (some 0, some 1) ∧ 1 ∈ (replay lateClose).closedChannels ∧
      ((replay lateClose).peers.lookup "B").map (·.channels.lookup "primary") = some none := by
  decide

end Adapter

end Weron
