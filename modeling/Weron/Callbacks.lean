import Weron.Loop

/-!
# Engine callbacks, helper goroutines and the host

The ICE engine calls back on goroutines of its own. A connection reports its state and its
local candidates and announces data channels the remote opened; a data channel reports that
it opened or closed. The handlers `Adapter.Open` installs capture the remote id, the `iid`
and the session of the connection they belong to, which `Conn` records, and take
`a.peerLock` for every registry access. A panic on one of these goroutines is not
recovered: the process ends (`crashed`).

The drain goroutines feed enqueued candidates to `AddICECandidate`. The host's side is
`Accept`, a receive on `a.peerChan`, and `Close`.
-/

namespace Weron

namespace Adapter

variable {Raw : Type}

/-- A panic on a callback's goroutine ends the process. -/
def crashOnPanic : Outcome Raw → Adapter Raw
  | .ok s => s
  | .error s => { s with crashed := true }

/-- The offer branch's teardown of its entry in its `Disconnected` handler (561-570): the
connection twice, then the candidate queue; the channels stay open. -/
def retireAnswering (s : Adapter Raw) (replies : Replies) (entry : Peer) : Outcome Raw :=
  (s.closeConn replies entry.conn).bind fun s =>
    (s.closeConn replies entry.conn).bind fun s => s.closeQueue entry.candidates

/-- The `Disconnected` handlers (307-348 and 536-574). A handler whose `iid` is not that of
the entry now registered for its remote id leaves the registry alone. Otherwise it tears the
entry down and deletes it. -/
def disconnected (s : Adapter Raw) (replies : Replies) (conn : Nat) : Outcome Raw :=
  match s.conns[conn]? with
  | none => .ok s
  | some c =>
    match s.peers.lookup c.remote with
    | none => .ok s
    | some entry =>
      if entry.iid ≠ c.iid then .ok s else
      (if c.answering then s.retireAnswering replies entry else s.retire replies entry).bind
        fun s => .ok { s with peers := s.peers.erase c.remote }

/-- The `OnICECandidate` handlers (350-369 and 576-595): a local candidate of a connection
is posted to its remote id, from the id of the session that created the connection. The
handlers themselves check nothing; the guard on `localDescription` is an assumption about
pion, which starts gathering, and so calls the handler, only in `SetLocalDescription`. -/
def iceCandidate (s : Adapter Raw) (conn : Nat) (candidate : Raw) : Adapter Raw :=
  match s.conns[conn]? with
  | some c =>
    if c.localDescription.isSome then
      s.post (.candidate (s.idOf c.session) c.remote candidate) c.session (.candidate conn)
    else s
  | none => s

/-- The `OnDataChannel` handlers (371 and 597): a data channel the remote opened on a
connection, with the adapter's `OnOpen` and `OnClose` handlers. -/
def dataChannel (s : Adapter Raw) (conn : Nat) (label : String) : Adapter Raw :=
  if conn < s.conns.length then { s with channels := s.channels ++ [⟨conn, label, false⟩] }
  else s

/-- The `OnOpen` handlers (372-381, 421-430 and 598-607), which run once per channel: record
the channel under its label in the entry now registered for its connection's remote id (a
missing entry is a nil dereference), wrap it as a stream, and block on `a.peerChan` with the
lock held. -/
def channelOpen (s : Adapter Raw) (channel : Nat) : Adapter Raw :=
  match s.channels[channel]? with
  | none => s
  | some d =>
    if d.wrapped then s else
    match s.conns[d.conn]? with
    | none => s
    | some c =>
      match s.peers.lookup c.remote with
      | none => { s with crashed := true }
      | some entry => { s with
          peers := s.peers.insert c.remote
            { entry with channels := entry.channels.insert d.label channel }
          channels := s.channels.modify (fun d => { d with wrapped := true }) channel
          peerLock := some (.onOpen ⟨c.remote, d.label, channel⟩) }

/-- `Accept`: the host receives from `a.peerChan`, which releases the `OnOpen` handler
blocked on it, and with it the lock. -/
def accept (s : Adapter Raw) : Adapter Raw :=
  match s.peerLock with
  | some (.onOpen handle) => { s with accepted := s.accepted ++ [handle], peerLock := none }
  | _ => s

/-- The `OnClose` handlers (383-405, 432-454 and 609-631) of a channel that closed. Once its
`OnOpen` has run, the stream's handler has replaced them and only reports the end of the
stream to its reader. Otherwise the handler looks the label up in the entry now registered
for its connection's remote id (a missing entry is a nil dereference), and closes and
removes the channel it finds there. -/
def channelClose (s : Adapter Raw) (replies : Replies) (channel : Nat) : Outcome Raw :=
  match s.channels[channel]? with
  | none => .ok s
  | some d =>
    let s := { s with closedChannels := channel :: s.closedChannels }
    if d.wrapped then .ok s else
    match s.conns[d.conn]? with
    | none => .ok s
    | some c =>
      match s.peers.lookup c.remote with
      | none => .error s
      | some entry =>
        match entry.channels.lookup d.label with
        | none => .ok s
        | some found => (s.closeChannel replies found).bind fun s => .ok { s with
            peers := s.peers.insert c.remote { entry with channels := entry.channels.erase d.label } }

/-- A drain goroutine (673-685 and 789-801) receives a candidate enqueued on its queue and
passes it to `AddICECandidate`. After a failure it sends the error on its session's `errs`,
which panics once the reader has closed that channel. -/
def drain (s : Adapter Raw) (replies : Replies) (k j : Nat) : Adapter Raw :=
  match s.drains[k]?, s.enqueues[j]? with
  | some d, some e =>
    if d.failed || e.queue != d.queue then s else
    let s := { s with enqueues := s.enqueues.eraseIdx j }
    if replies.addICECandidate then
      { s with conns := s.conns.modify (fun c => { c with added := c.added ++ [e.candidate] }) d.conn }
    else if d.session ∈ s.closedErrs then { s with crashed := true }
    else { s with drains := s.drains.modify (fun d => { d with failed := true }) k }
  | _, _ => s

/-- `Adapter.Close` (851-859): set `a.done`, cancel the context and close `a.lines`. Every
post blocked on `a.lines` panics, and a second `Close` panics in its caller. -/
def close (s : Adapter Raw) : Adapter Raw :=
  if s.linesClosed then { s with done := true, crashed := true }
  else { s with done := true, linesClosed := true, crashed := !s.lines.isEmpty }

section Shapes

/-! What each handler changes, stated once so that no invariant unfolds it. -/

/-- A candidate callback posts at most one candidate, of a connection whose local
description is set, from the id of the connection's session. -/
theorem iceCandidate_cases (s : Adapter Raw) (conn : Nat) (candidate : Raw) :
    s.iceCandidate conn candidate = s ∨ ∃ c, s.conns[conn]? = some c ∧ c.localDescription.isSome ∧
      s.iceCandidate conn candidate =
        s.post (.candidate (s.idOf c.session) c.remote candidate) c.session (.candidate conn) := by
  unfold iceCandidate
  split
  · next c found =>
    split
    · next described => exact .inr ⟨c, found, described, rfl⟩
    · exact .inl rfl
  · exact .inl rfl

theorem dataChannel_eq (s : Adapter Raw) (conn : Nat) (label : String) :
    ∃ channels, s.dataChannel conn label = { s with channels := channels } := by
  unfold dataChannel
  split
  · exact ⟨_, rfl⟩
  · exact ⟨s.channels, rfl⟩

/-- An `OnOpen` handler crashes, or records its channel in the entry registered for its
remote id, keeping that entry's connection and queue, and blocks holding the lock. -/
theorem channelOpen_cases (s : Adapter Raw) (channel : Nat) :
    s.channelOpen channel = s ∨ s.channelOpen channel = { s with crashed := true } ∨
      ∃ remote entry labels channels handle, s.peers.lookup remote = some entry ∧
        s.channelOpen channel = { s with
          peers := s.peers.insert remote { entry with channels := labels }
          channels := channels
          peerLock := some (.onOpen handle) } := by
  unfold channelOpen
  split
  · exact .inl rfl
  · split
    · exact .inl rfl
    · split
      · exact .inl rfl
      · split
        · exact .inr (.inl rfl)
        · next entry registered => exact .inr (.inr ⟨_, entry, _, _, _, registered, rfl⟩)

/-- **What a drain goroutine's move can be**: nothing, or, once the `k`-th drain `d` has
received the `j`-th enqueuer's candidate, the `AddICECandidate` call, the crash, or the
drain's failure. -/
@[elab_as_elim]
theorem drain_induction {motive : Adapter Raw → Prop} (s : Adapter Raw) (replies : Replies)
    (k j : Nat) (idle : motive s)
    (added : ∀ d e, s.drains[k]? = some d → s.enqueues[j]? = some e →
      motive { s with
        enqueues := s.enqueues.eraseIdx j
        conns := s.conns.modify (fun c => { c with added := c.added ++ [e.candidate] }) d.conn })
    (crashed : motive { s with enqueues := s.enqueues.eraseIdx j, crashed := true })
    (failed : ∀ d, s.drains[k]? = some d →
      motive { s with
        enqueues := s.enqueues.eraseIdx j
        drains := s.drains.modify (fun d => { d with failed := true }) k }) :
    motive (s.drain replies k j) := by
  unfold drain
  rcases found : s.drains[k]? with _ | d
  · exact idle
  rcases got : s.enqueues[j]? with _ | e
  · exact idle
  dsimp only
  by_cases skipped : (d.failed || e.queue != d.queue) = true
  · rw [if_pos skipped]; exact idle
  rw [if_neg skipped]
  by_cases call : replies.addICECandidate = true
  · rw [if_pos call]; exact added d e found got
  rw [if_neg call]
  by_cases closed : d.session ∈ (s.closedErrs : List Nat)
  · rw [if_pos closed]; exact crashed
  rw [if_neg closed]
  exact failed d found

/-- A drain goroutine changes only the enqueued candidates, the candidates added to a
connection, the drains and, when it sends on a closed `errs`, the crash flag. -/
theorem drain_cases (s : Adapter Raw) (replies : Replies) (k j : Nat) :
    ∃ enqueues conns drains crashed, s.drain replies k j =
        { s with enqueues := enqueues, conns := conns, drains := drains, crashed := crashed } ∧
      conns.map Conn.session = s.conns.map Conn.session :=
  s.drain_induction replies k j ⟨_, _, _, _, rfl, rfl⟩
    (fun _ _ _ _ => ⟨_, _, _, _, rfl, map_modify_of_comp _ _ (by intro; rfl) _ _⟩) ⟨_, _, _, _, rfl, rfl⟩
    fun _ _ => ⟨_, _, _, _, rfl, rfl⟩

theorem accept_eq (s : Adapter Raw) :
    ∃ accepted peerLock, s.accept = { s with accepted := accepted, peerLock := peerLock } := by
  unfold accept
  split
  · exact ⟨_, _, rfl⟩
  · exact ⟨s.accepted, s.peerLock, rfl⟩

theorem close_eq (s : Adapter Raw) :
    ∃ crashed, s.close = { s with done := true, linesClosed := true, crashed := crashed } := by
  unfold close
  split
  · next closed => exact ⟨true, by rw [closed]⟩
  · exact ⟨_, rfl⟩

end Shapes

end Adapter

end Weron
