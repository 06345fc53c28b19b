import Weron.Channels

/-!
# The registry's operations

`a.peers` (23-27) maps the id of every remote peer to its entry, under `a.peerLock`. Its
operations are map operations: the critical sections of the introduction and offer branches
install an entry over whatever the id had (`upsert`: 475-496, 666-671); a `Disconnected`
handler deletes the entry of its connection's remote id when it holds the handler's `iid`
(`removeIfMatches`: 313-346, 542-573); the deferred reset empties the map (`clearAll`:
147-150); the `OnOpen` and `OnClose` handlers of a data channel record and forget the
channel under its label in its peer's entry (`record`, `forget`: 372-454, 598-631); and
every other access only reads it.

`RegistryOp` states these operations on the map alone, and `Applies` says with which
arguments a step may apply each: the entry the loop waited to register, the remote id and
`iid` of the handler's own connection, the channel's own label and peer, always with the
lock free. `registry_refines`: from any state, every step of the adapter leaves the map as
it was or applies one operation so. No other code path touches the registry.
-/

namespace Weron

/-- An operation on the registry map. -/
inductive RegistryOp
  | upsert (key : String) (entry : Peer)
  | removeIfMatches (key : String) (iid : Nat)
  | clearAll
  | record (key label : String) (channel : Nat)
  | forget (key label : String)

/-- What an operation does to the map. Only `upsert` gives an id an entry; the others leave an
id without one alone, and `removeIfMatches` leaves an entry with another `iid`. -/
def RegistryOp.apply : RegistryOp → AList (fun _ : String => Peer) → AList (fun _ : String => Peer)
  | .upsert key entry, peers => peers.insert key entry
  | .removeIfMatches key iid, peers =>
    match peers.lookup key with
    | some entry => if entry.iid = iid then peers.erase key else peers
    | none => peers
  | .clearAll, _ => ∅
  | .record key label channel, peers =>
    match peers.lookup key with
    | some entry => peers.insert key { entry with channels := entry.channels.insert label channel }
    | none => peers
  | .forget key label, peers =>
    match peers.lookup key with
    | some entry => peers.insert key { entry with channels := entry.channels.erase label }
    | none => peers

/-- An entry leaves the map only by a `removeIfMatches` of its own id and `iid`, or by a
`clearAll`. -/
theorem RegistryOp.removes {op : RegistryOp} {peers : AList fun _ : String => Peer} {key : String}
    {entry : Peer} (registered : peers.lookup key = some entry)
    (removed : (op.apply peers).lookup key = none) :
    op = .removeIfMatches key entry.iid ∨ op = .clearAll := by
  have kept : ∀ (k : String) (e : Peer), (peers.insert k e).lookup key ≠ none := fun k e => by
    by_cases same : key = k
    · subst same; simp
    · simp [AList.lookup_insert_ne same, registered]
  cases op with
  | upsert k e => exact absurd removed (kept k e)
  | removeIfMatches k iid =>
    simp only [apply] at removed
    split at removed
    · next e found =>
      split at removed
      · next holds =>
        by_cases same : key = k
        · subst same
          rw [registered] at found
          cases found
          rw [holds]; exact .inl rfl
        · rw [AList.lookup_erase_ne same, registered] at removed; cases removed
      · rw [registered] at removed; cases removed
    · rw [registered] at removed; cases removed
  | clearAll => exact .inr rfl
  | record k label channel =>
    simp only [apply] at removed
    split at removed
    exacts [absurd removed (kept _ _), by rw [registered] at removed; cases removed]
  | forget k label =>
    simp only [apply] at removed
    split at removed
    exacts [absurd removed (kept _ _), by rw [registered] at removed; cases removed]

namespace Adapter

variable {Raw : Type} {codec : Codec Raw}

@[simp] theorem resume_peers (o : Outcome Raw) : (resume o).peers = o.state.peers := by
  cases o <;> rfl

@[simp] theorem crashOnPanic_peers (o : Outcome Raw) : (crashOnPanic o).peers = o.state.peers := by
  cases o <;> rfl

/-- The operation a step may apply to the registry, and its arguments. With the lock free, a
critical section upserts the entry the loop waited to register; the `Disconnected` handler of
a connection removes the entry of its remote id if it holds its `iid`; the reset clears the
map; and the `OnOpen` and `OnClose` handlers of a channel record and forget it under its
label in the entry of its connection's remote id. -/
inductive Applies (s : Adapter Raw) : Action Raw → RegistryOp → Prop
  | upsert (replies : Replies) (key : String) (entry : Peer) (answering : Bool)
      (description : SessionDescription) : s.peerLock = none →
      s.loop.pending = some (key, entry.conn, entry.iid, answering, description) →
      Applies s (.acquire replies) (.upsert key entry)
  | removeIfMatches (replies : Replies) (conn : Nat) (c : Conn Raw) : s.peerLock = none →
      s.conns[conn]? = some c → Applies s (.disconnected conn replies) (.removeIfMatches c.remote c.iid)
  | clearAll (replies : Replies) : s.peerLock = none → s.loop = .locking .reset →
      Applies s (.acquire replies) .clearAll
  | record (channel : Nat) (d : Channel) (c : Conn Raw) : s.peerLock = none →
      s.channels[channel]? = some d → s.conns[d.conn]? = some c →
      Applies s (.channelOpen channel) (.record c.remote d.label channel)
  | forget (replies : Replies) (channel : Nat) (d : Channel) (c : Conn Raw) : s.peerLock = none →
      s.channels[channel]? = some d → s.conns[d.conn]? = some c →
      Applies s (.channelClose channel replies) (.forget c.remote d.label)

/-- A `Disconnected` handler keeps the registry, or removes the entry of its connection's
remote id if it holds the connection's `iid`; a failed retirement panics before the delete. -/
theorem disconnected_removes (s : Adapter Raw) (replies : Replies) (conn : Nat) :
    (s.disconnected replies conn).state.peers = s.peers ∨
      ∃ c, s.conns[conn]? = some c ∧
        (s.disconnected replies conn).state.peers = (RegistryOp.removeIfMatches c.remote c.iid).apply s.peers := by
  rcases s.disconnected_matches replies conn with ⟨-, same⟩ |
    ⟨c, entry, u, found, registered, iid, closes, -, failed | deleted⟩
  · exact .inl (by rw [same]; rfl)
  · exact .inl (by rw [failed]; exact closes.peers)
  · exact .inr ⟨c, found, by rw [deleted]; simp [Outcome.state, RegistryOp.apply, registered, iid]⟩

/-- **What every move does to the registry.** It reads it only, or applies one of its
operations as `Applies` allows. -/
theorem Moves.applies {s t : Adapter Raw} {action : Action Raw} (move : Moves codec s action t) :
    t.peers = s.peers ∨ ∃ op, s.Applies action op ∧ t.peers = op.apply s.peers := by
  cases move with
  | stay => exact .inl rfl
  | check alive top => unfold Adapter.check; split <;> exact .inl rfl
  | dial replies alive dialing => unfold Adapter.dial; split_ifs <;> exact .inl rfl
  | publish alive publishing => exact .inl (by unfold Adapter.publish; rw [post_eq])
  | receive replies input alive selecting reading => exact .inl rfl
  | acquire replies critical alive locking free =>
    cases critical with
    | replace sender entry offer =>
      simp only [critical, resume_peers]
      obtain ⟨u, closes, ⟨-, -, -, failed⟩ | returned⟩ := s.replace_cases replies sender entry offer
      · exact .inl (by rw [failed]; exact closes.peers)
      · refine .inr ⟨.upsert sender entry, .upsert replies sender entry false offer free (by rw [locking]; rfl), ?_⟩
        simp [returned, Outcome.state, RegistryOp.apply, closes.peers]
    | install sender conn iid answer =>
      refine .inr ⟨.upsert sender ⟨conn, s.queues, ∅, iid⟩,
        .upsert replies sender _ true answer free (by rw [locking]; rfl), ?_⟩
      simp [critical, install, RegistryOp.apply]
    | enqueue candidate =>
      obtain ⟨enqueues, enqueued⟩ := s.enqueue_eq candidate
      exact .inl (by simp only [critical, enqueued])
    | lookup answer =>
      obtain ⟨conns, drains, looked, -⟩ := s.lookup_cases codec replies answer
      exact .inl (by simp only [critical, resume_peers, looked])
    | teardown =>
      obtain ⟨u, closes, torn⟩ := s.teardown_frame replies
      exact .inl (by simp only [critical, torn, closes.peers])
    | reset => exact .inr ⟨.clearAll, .clearAll replies free locking, rfl⟩
  | send replies i alive selecting =>
    obtain ⟨lines, written, sent, -⟩ := s.send_cases codec replies i
    exact .inl (by rw [resume_peers, sent])
  | ping replies alive selecting =>
    obtain ⟨written, pinged, -⟩ := s.ping_cases replies
    exact .inl (by rw [resume_peers, pinged])
  | receiveError source alive selecting =>
    obtain ⟨reader, closedErrs, crashed, drains, loop, received, -⟩ := s.receiveError_cases source
    exact .inl (by rw [received])
  | readError alive reading => exact .inl rfl
  | disconnected replies conn alive free =>
    rw [crashOnPanic_peers]
    exact (s.disconnected_removes replies conn).imp_right fun ⟨c, found, removed⟩ =>
      ⟨_, .removeIfMatches replies conn c free found, removed⟩
  | iceCandidate conn candidate alive =>
    rcases s.iceCandidate_cases conn candidate with same | ⟨c, -, -, posted⟩
    · exact .inl (by rw [same])
    · exact .inl (by rw [posted, post_eq])
  | dataChannel conn label alive => exact .inl (by unfold Adapter.dataChannel; split <;> rfl)
  | channelOpen channel alive free =>
    rcases s.channelOpen_opens channel with same | crashed | ⟨d, c, entry, found, -, owner, registered, opened⟩
    · exact .inl (by rw [same])
    · exact .inl (by rw [crashed])
    · refine .inr ⟨_, .record channel d c free found owner, ?_⟩
      rw [opened]
      simp only [RegistryOp.apply, registered]
  | channelClose replies channel alive free =>
    rw [crashOnPanic_peers]
    rcases s.channelClose_erases replies channel with same | ⟨d, c, entry, found, owner, registered, erased⟩
    · exact .inl same
    · refine .inr ⟨_, .forget replies channel d c free found owner, ?_⟩
      rw [erased]
      simp only [RegistryOp.apply, registered]
  | drain replies k j alive =>
    obtain ⟨enqueues, conns, drains, crashed, drained, -⟩ := s.drain_cases replies k j
    exact .inl (by rw [drained])
  | accept alive =>
    obtain ⟨accepted, peerLock, released⟩ := s.accept_eq
    exact .inl (by rw [released])
  | close alive =>
    obtain ⟨crashed, closed⟩ := s.close_eq
    exact .inl (by rw [closed])

section Properties

variable (codec) in
/-- **Every step acts on the registry as one of its operations.** From any state, a step of
any goroutine leaves `a.peers` as it was, or applies, with the lock free, one operation of the
registry with the arguments the code gives it: the critical sections upsert the entry the
loop waited to register, a `Disconnected` handler removes its remote id's entry only if it
holds its connection's `iid`, the reset clears the map, and the data-channel handlers record
and forget their own channel under its label in the entry of their connection's remote id. -/
theorem registry_refines (s : Adapter Raw) (action : Action Raw) :
    (step codec s action).peers = s.peers ∨
      ∃ op, s.Applies action op ∧ (step codec s action).peers = op.apply s.peers :=
  (step_moves codec s action).applies

variable (codec) in
/-- **Only a `Disconnected` handler or the reset deletes an entry.** From any state, a step
that deletes the entry of an id is the `Disconnected` handler of a connection with that
remote id and the entry's `iid`, or the deferred reset of the registry. -/
theorem registry_deletes (s : Adapter Raw) (action : Action Raw) {key : String} {entry : Peer}
    (registered : s.peers.lookup key = some entry)
    (deleted : (step codec s action).peers.lookup key = none) :
    (∃ replies conn c, action = .disconnected conn replies ∧ s.conns[conn]? = some c ∧
        c.remote = key ∧ c.iid = entry.iid) ∨
      ∃ replies, action = .acquire replies ∧ s.loop = .locking .reset := by
  rcases (step_moves codec s action).applies with same | ⟨op, applies, applied⟩
  · rw [same, registered] at deleted; cases deleted
  have removes := RegistryOp.removes registered (applied ▸ deleted)
  cases applies with
  | removeIfMatches replies conn c _ found =>
    rcases removes with removes | removes
    · obtain ⟨remote, iid⟩ := RegistryOp.removeIfMatches.inj removes
      exact .inl ⟨replies, conn, c, rfl, found, remote, iid⟩
    · cases removes
  | clearAll replies _ resetting => exact .inr ⟨replies, rfl, resetting⟩
  | upsert | record | forget => rcases removes with removes | removes <;> cases removes

/-- B's connection disconnects after A registered it: its handler deletes B's entry. -/
theorem introducedB_deleted :
    (replay introducedB).peers.lookup "B" = some ⟨0, 0, (∅ : AList _).insert "primary" 0, 0⟩ ∧
      (step Codec.plain (replay introducedB) (.disconnected 0 {})).peers.lookup "B" = none ∧
      ((∃ replies conn c, (.disconnected 0 {} : Action Plain) = .disconnected conn replies ∧
          (replay introducedB).conns[conn]? = some c ∧ c.remote = "B" ∧ c.iid = 0) ∨
        ∃ replies, (.disconnected 0 {} : Action Plain) = .acquire replies ∧
          (replay introducedB).loop = .locking .reset) :=
  have registered : (replay introducedB).peers.lookup "B" = some ⟨0, 0, (∅ : AList _).insert "primary" 0, 0⟩ :=
    rfl
  have deleted : (step Codec.plain (replay introducedB) (.disconnected 0 {})).peers.lookup "B" = none := rfl
  ⟨registered, deleted, registry_deletes Codec.plain _ _ registered deleted⟩

end Properties

end Adapter

end Weron
