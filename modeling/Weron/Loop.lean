import Weron.Adapter

/-!
# The session loop

The goroutine that `Adapter.Open` starts runs the reconnect loop: dial the signaler, publish
the session's id, post the introduction, then `select` over inbound frames, posted lines,
ping ticks and errors until something panics. The deferred teardown and registry reset then
run, and the loop dials again unless `Close` was called.

Each function here is one stretch of that goroutine between two points where it waits for
another goroutine: a channel operation or `a.peerLock.Lock()`. The dispatch of an inbound
frame (`dispatch`) stops at the lock its branch takes, and the critical section runs as a
step of its own (`critical`), so that the engine's callbacks can run in between, as they do
once `SetLocalDescription` has started gathering candidates. The dispatch changes only the
engine objects it creates and the loop's position (`Handled`).
-/

namespace Weron

namespace Adapter

variable {Raw : Type} (codec : Codec Raw)

/-- A panic in the session: the deferred teardown of the session runs first. -/
def unwind (s : Adapter Raw) : Adapter Raw := { s with loop := .locking .teardown }

/-- Where the loop goes after a stretch of code: on, or into the deferred teardown after a
panic. -/
def resume : Outcome Raw → Adapter Raw
  | .ok s => s
  | .error s => s.unwind

/-- The head of the reconnect loop (142): return once `Close` has set `a.done`. -/
def check (s : Adapter Raw) : Adapter Raw :=
  if s.done then { s with loop := .exited } else { s with loop := .dialing }

/-- Dialing the signaler (165-234). A failed dial panics before the deferred teardown is
registered, as does a dial after `Close` cancelled the context. After a successful dial the
read deadline is armed, the reader started, and the session's id is the configured one or
a fresh UUID. -/
def dial (s : Adapter Raw) (replies : Replies) : Adapter Raw :=
  if s.done || !replies.dial then { s with loop := .locking .reset }
  else if !replies.deadline then s.unwind
  else
    let minted := trimSpace s.config.id = ""
    { s with
      sessions := s.sessions ++ [if minted then uuidString s.uuids else s.config.id]
      uuids := if minted then s.uuids + 1 else s.uuids
      reader := .reading
      loop := .publishing }

/-- The caller receives the id (236), and the introduction is posted (238-251). -/
def publish (s : Adapter Raw) : Adapter Raw :=
  { s with loop := .selecting }.post (.introduction s.id) s.session .introduction

/-- What the handling of an inbound frame changes before any lock: the UUIDs minted, the
connections, channels and candidate queues created, and where the loop goes next (back to
the `select`, to the lock of a critical section, or, after a panic, to the deferred
teardown). -/
structure Handled (Raw : Type) where
  uuids : Nat
  conns : List (Conn Raw)
  channels : List Channel
  queues : Nat
  loop : Loop Raw

/-- Dropping a frame: nothing changes and the loop goes back to the `select`. -/
def skip (s : Adapter Raw) : Handled Raw := ⟨s.uuids, s.conns, s.channels, s.queues, .selecting⟩

/-- The state once a frame has been handled. -/
def withHandled (s : Adapter Raw) (handled : Handled Raw) : Adapter Raw :=
  { s with
    uuids := handled.uuids
    conns := handled.conns
    channels := handled.channels
    queues := handled.queues
    loop := handled.loop }

/-- The introduction branch (284-474) up to `a.peerLock.Lock()`: a fresh `iid`, a new
connection with its primary channel and a candidate queue, and its offer set as the local
description. Each failed engine call panics with the objects created so far. -/
def onIntroduction (s : Adapter Raw) (replies : Replies) (introduction : Introduction) :
    Handled Raw :=
  let iid := s.uuids
  let conn := s.conns.length
  let created := s.conns ++ [⟨introduction.sender, iid, s.session, false, none, none, []⟩]
  let label := s.config.primaryChannelId
  let channels := s.channels ++ [⟨conn, label, false⟩]
  let entry : Peer :=
    ⟨conn, s.queues, (∅ : AList fun _ : String => Nat).insert label s.channels.length, iid⟩
  let offer : SessionDescription := ⟨.offer, s.id, conn⟩
  if !replies.newPeerConnection then ⟨iid + 1, s.conns, s.channels, s.queues, .locking .teardown⟩
  else if !replies.createDataChannel then ⟨iid + 1, created, s.channels, s.queues, .locking .teardown⟩
  else if !replies.createOffer || !replies.setLocalDescription then
    ⟨iid + 1, created, channels, s.queues + 1, .locking .teardown⟩
  else
    ⟨iid + 1, created.modify (fun c => { c with localDescription := some offer }) conn, channels,
      s.queues + 1, .locking (.replace introduction.sender entry offer)⟩

/-- The offer branch (505-664) up to `a.peerLock.Lock()`. An offer for another id is
dropped. Otherwise a fresh `iid` and a new connection; a payload that is not a session
description is then dropped, leaving that connection open (640). `SetRemoteDescription` on
the new connection fails when the engine says so or its signaling state refuses the
description (`Conn.takes`: an answer). -/
def onOffer (s : Adapter Raw) (replies : Replies) (offer : Exchange Raw) : Handled Raw :=
  if offer.recipient ≠ s.id then s.skip else
  let iid := s.uuids
  let conn := s.conns.length
  let fresh : Conn Raw := ⟨offer.sender, iid, s.session, true, none, none, []⟩
  let created := s.conns ++ [fresh]
  if !replies.newPeerConnection then ⟨iid + 1, s.conns, s.channels, s.queues, .locking .teardown⟩
  else match codec.unmarshalDescription offer.payload with
  | none => ⟨iid + 1, created, s.channels, s.queues, .selecting⟩
  | some description =>
    let described := created.modify (fun c => { c with remoteDescription := some description }) conn
    let answer : SessionDescription := ⟨.answer, s.id, conn⟩
    if !replies.setRemoteDescription || !fresh.takes description then
      ⟨iid + 1, created, s.channels, s.queues, .locking .teardown⟩
    else if !replies.createAnswer || !replies.setLocalDescription then
      ⟨iid + 1, described, s.channels, s.queues, .locking .teardown⟩
    else
      ⟨iid + 1, described.modify (fun c => { c with localDescription := some answer }) conn,
        s.channels, s.queues, .locking (.install offer.sender conn iid answer)⟩

/-- The candidate branch (694-715) up to `a.peerLock.Lock()`; a candidate for another id is
dropped. -/
def onCandidate (s : Adapter Raw) (candidate : Exchange Raw) : Handled Raw :=
  if candidate.recipient ≠ s.id then s.skip else { s.skip with loop := .locking (.enqueue candidate) }

/-- The answer branch (742-763) up to `a.peerLock.Lock()`; an answer for another id is
dropped. -/
def onAnswer (s : Adapter Raw) (answer : Exchange Raw) : Handled Raw :=
  if answer.recipient ≠ s.id then s.skip else { s.skip with loop := .locking (.lookup answer) }

/-- The `inputs` case of the `select` (260-812): decrypt, decode the header, and dispatch on
its type. Frames that do not decrypt or decode, and unknown types, are skipped. -/
def dispatch (s : Adapter Raw) (replies : Replies) (input : Raw) : Handled Raw :=
  match codec.decrypt input with
  | none => s.skip
  | some plain =>
    match codec.unmarshalMessage plain with
    | none => s.skip
    | some message =>
      if message.type = typeIntroduction then
        match codec.unmarshalIntroduction plain with
        | none => s.skip
        | some introduction => s.onIntroduction replies introduction
      else if message.type = typeOffer then
        match codec.unmarshalExchange plain with
        | none => s.skip
        | some offer => s.onOffer codec replies offer
      else if message.type = typeCandidate then
        match codec.unmarshalExchange plain with
        | none => s.skip
        | some candidate => s.onCandidate candidate
      else if message.type = typeAnswer then
        match codec.unmarshalExchange plain with
        | none => s.skip
        | some answer => s.onAnswer answer
      else s.skip

/-- The introduction branch's critical section (475-504): retire the entry the sender had,
install the new one, and post the offer. A failed close panics with the lock held. -/
def replace (s : Adapter Raw) (replies : Replies) (sender : String) (entry : Peer)
    (offer : SessionDescription) : Outcome Raw :=
  let s := { s with peerLock := some .loop }
  let retired : Outcome Raw := match s.peers.lookup sender with
    | none => .ok s
    | some old => s.retire replies old
  retired.bind fun s => .ok (post { s with
    peers := s.peers.insert sender entry
    peerLock := none
    loop := .selecting } (.offer s.id sender offer) s.session (.offer entry.conn))

/-- The offer branch's critical section and what follows (666-693): install the answering
entry over whatever the sender had, with a new candidate queue, drain that queue, and post
the answer. -/
def install (s : Adapter Raw) (sender : String) (conn iid : Nat) (answer : SessionDescription) :
    Adapter Raw :=
  let queue := s.queues
  post { s with
    queues := s.queues + 1
    peers := s.peers.insert sender ⟨conn, queue, ∅, iid⟩
    drains := s.drains ++ [⟨conn, queue, s.session, false⟩]
    loop := .selecting } (.answer s.id sender answer) s.session (.answer conn)

/-- The candidate branch's critical section (716-741): a candidate from an unknown sender is
dropped; otherwise a goroutine enqueues it on the sender's queue, and its send on a closed
queue panics and is recovered. -/
def enqueue (s : Adapter Raw) (candidate : Exchange Raw) : Adapter Raw :=
  let s := { s with loop := .selecting }
  match s.peers.lookup candidate.sender with
  | none => s
  | some entry =>
    if entry.candidates ∈ s.closedQueues then s
    else { s with enqueues := s.enqueues ++ [⟨entry.candidates, candidate.payload⟩] }

/-- The answer branch's lookup and what follows (764-805): an answer from an unknown sender
or whose payload is not a session description is dropped; otherwise it becomes the remote
description of the sender's connection, and the sender's queue is drained. `SetRemoteDescription`
fails, and the loop panics, when the engine says so or when the connection's signaling state
refuses the description (`takes`): an answer on a connection that already holds a remote
description or made no offer. The lookup (764-766), the call (785) and the start of the drain
(789-801) are one step here, though Go releases the lock after the lookup. -/
def lookup (s : Adapter Raw) (replies : Replies) (answer : Exchange Raw) : Outcome Raw :=
  let s := { s with loop := .selecting }
  match s.peers.lookup answer.sender with
  | none => .ok s
  | some entry =>
    match codec.unmarshalDescription answer.payload with
    | none => .ok s
    | some description =>
      if !replies.setRemoteDescription || !s.takes entry.conn description then .error s
      else .ok { s.setRemoteDescription entry.conn description with
        drains := s.drains ++ [⟨entry.conn, entry.candidates, s.session, false⟩] }

/-- The session's deferred teardown (173-198): close the socket, then retire every entry
under the lock. Any failure panics, and the panic is recovered by the reset below, which
runs next in every case. The entries stay in the registry. -/
def teardown (s : Adapter Raw) (replies : Replies) : Adapter Raw :=
  let s := { s with loop := .locking .reset }
  if !replies.closeSocket then s else (s.retireAll replies s.peers.entries).state

/-- The deferred registry reset (147-163), after which the loop sleeps and goes round. -/
def reset (s : Adapter Raw) : Adapter Raw := { s with peers := ∅, loop := .top }

/-- The critical section the loop runs once it holds `a.peerLock`. -/
def critical (s : Adapter Raw) (replies : Replies) : Critical Raw → Adapter Raw
  | .replace sender entry offer => resume (s.replace replies sender entry offer)
  | .install sender conn iid answer => s.install sender conn iid answer
  | .enqueue candidate => s.enqueue candidate
  | .lookup answer => resume (s.lookup codec replies answer)
  | .teardown => s.teardown replies
  | .reset => s.reset

/-- Encrypting and writing one text frame (814-829); a failed `Encrypt`, write or deadline
panics. -/
def writeFrame (s : Adapter Raw) (replies : Replies) (plain : Raw) (frame : Frame Raw) :
    Outcome Raw :=
  match codec.encrypt plain with
  | none => .error s
  | some _ =>
    if !replies.write then .error s else
    let s := { s with written := s.written ++ [⟨s.session, frame⟩] }
    if !replies.deadline then .error s else .ok s

/-- The `a.lines` case of the `select` (813): the loop receives the `i`-th blocked post and
writes it, or, once `a.lines` is closed, receives the nil slice at once and writes that. -/
def send (s : Adapter Raw) (replies : Replies) (i : Nat) : Outcome Raw :=
  if s.linesClosed then s.writeFrame codec replies codec.empty .empty
  else match s.lines[i]? with
    | none => .ok s
    | some post =>
      { s with lines := s.lines.eraseIdx i }.writeFrame codec replies (codec.marshal post.line)
        (.line post)

/-- The ticker case of the `select` (830-841): arm the write deadline and write a ping. -/
def ping (s : Adapter Raw) (replies : Replies) : Outcome Raw :=
  if !replies.deadline then .error s
  else if !replies.write then .error s
  else .ok { s with written := s.written ++ [⟨s.session, .ping⟩] }

/-- The `errs` case of the `select` (258): the loop panics on the reader's error or on that
of a failed drain of its session. The reader then closes `errs`, and every drain of the
session still blocked on it panics. -/
def receiveError (s : Adapter Raw) : Option Nat → Adapter Raw
  | none =>
    if s.reader = .failed then
      { s with
        reader := .finished
        closedErrs := s.session :: s.closedErrs
        crashed := s.drains.any fun d => d.failed && d.session == s.session }.unwind
    else s
  | some k =>
    match s.drains[k]? with
    | some d =>
      if d.failed && d.session == s.session then { s with drains := s.drains.eraseIdx k }.unwind
      else s
    | none => s

section Shapes

/-! What each stretch of the loop changes, stated once so that no invariant unfolds it. -/

theorem check_eq (s : Adapter Raw) : s.check =
    { s with loop := if s.done then .exited else .dialing } := by
  unfold check; split <;> rfl

/-- A dial fails before the session starts, or starts it with a fresh id. -/
theorem dial_cases (s : Adapter Raw) (replies : Replies) :
    s.dial replies = { s with loop := .locking .reset } ∨ s.dial replies = s.unwind ∨
      ∃ id uuids, s.dial replies = { s with
        sessions := s.sessions ++ [id]
        uuids := uuids
        reader := .reading
        loop := .publishing } := by
  unfold dial
  split_ifs
  · exact .inl rfl
  · exact .inr (.inl rfl)
  · exact .inr (.inr ⟨_, _, rfl⟩)

/-- Writing a frame writes that frame or nothing. -/
theorem writeFrame_cases (s : Adapter Raw) (replies : Replies) (plain : Raw) (frame : Frame Raw) :
    ∃ written, (s.writeFrame codec replies plain frame).state =
        { s with written := s.written ++ written } ∧ ∀ w ∈ written, w = ⟨s.session, frame⟩ := by
  unfold writeFrame
  split
  · exact ⟨[], by rw [List.append_nil]; rfl, by simp⟩
  · dsimp only
    split
    · exact ⟨[], by rw [List.append_nil]; rfl, by simp⟩
    · split <;> exact ⟨[⟨s.session, frame⟩], rfl, by simp⟩

/-- The `a.lines` case writes at most one frame: the post it received, which leaves the
pending posts, or the empty frame of a closed `a.lines`. -/
theorem send_cases (s : Adapter Raw) (replies : Replies) (i : Nat) :
    ∃ lines written, (s.send codec replies i).state =
        { s with lines := lines, written := s.written ++ written } ∧
      ((lines = s.lines ∧ ∀ w ∈ written, w = ⟨s.session, .empty⟩) ∨
        ∃ p, s.lines[i]? = some p ∧ lines = s.lines.eraseIdx i ∧ ∀ w ∈ written, w = ⟨s.session, .line p⟩) := by
  unfold send
  split
  · obtain ⟨written, sent, only⟩ := s.writeFrame_cases codec replies codec.empty .empty
    exact ⟨s.lines, written, sent, .inl ⟨rfl, only⟩⟩
  · split
    · exact ⟨s.lines, [], by rw [List.append_nil]; rfl, .inl ⟨rfl, by simp⟩⟩
    · next p found =>
      obtain ⟨written, sent, only⟩ := { s with lines := s.lines.eraseIdx i }.writeFrame_cases codec
        replies (codec.marshal p.line) (.line p)
      exact ⟨s.lines.eraseIdx i, written, sent, .inr ⟨p, found, rfl, only⟩⟩

/-- The ticker case writes at most a ping. -/
theorem ping_cases (s : Adapter Raw) (replies : Replies) :
    ∃ written, (s.ping replies).state = { s with written := s.written ++ written } ∧
      ∀ w ∈ written, w = ⟨s.session, .ping⟩ := by
  unfold ping
  split_ifs
  · exact ⟨[], by simp [Outcome.state], by simp⟩
  · exact ⟨[], by simp [Outcome.state], by simp⟩
  · exact ⟨[⟨s.session, .ping⟩], rfl, by simp⟩

/-- The `errs` case changes the reader, the failed drains and the loop's position only. -/
theorem receiveError_cases (s : Adapter Raw) (source : Option Nat) :
    ∃ reader closedErrs crashed drains loop, s.receiveError source = { s with
      reader := reader
      closedErrs := closedErrs
      crashed := crashed
      drains := drains
      loop := loop } ∧ (loop = s.loop ∨ loop = .locking .teardown) := by
  unfold receiveError
  split
  · split
    · exact ⟨_, _, _, _, _, rfl, .inr rfl⟩
    · exact ⟨_, _, _, _, _, rfl, .inl rfl⟩
  · split
    · split
      · exact ⟨_, _, _, _, _, rfl, .inr rfl⟩
      · exact ⟨_, _, _, _, _, rfl, .inl rfl⟩
    · exact ⟨_, _, _, _, _, rfl, .inl rfl⟩

/-- The candidate branch's critical section only spawns an enqueuer. -/
theorem enqueue_eq (s : Adapter Raw) (candidate : Exchange Raw) :
    ∃ enqueues, s.enqueue candidate = { s with enqueues := enqueues, loop := .selecting } := by
  unfold enqueue
  dsimp only
  split
  · exact ⟨_, rfl⟩
  · split <;> exact ⟨_, rfl⟩

/-- The answer branch's lookup sets at most a remote description and spawns at most a
drain. -/
theorem lookup_cases (s : Adapter Raw) (replies : Replies) (answer : Exchange Raw) :
    ∃ conns drains, (s.lookup codec replies answer).state =
        { s with conns := conns, drains := drains, loop := .selecting } ∧
      conns.map Conn.session = s.conns.map Conn.session := by
  unfold lookup
  dsimp only
  split
  · exact ⟨_, _, rfl, rfl⟩
  · split
    · exact ⟨_, _, rfl, rfl⟩
    · split
      · exact ⟨_, _, rfl, rfl⟩
      · exact ⟨_, _, rfl, by
          dsimp only [setRemoteDescription]; apply map_modify_of_comp; intro; rfl⟩

/-- **What handling a frame can be**: a property of dropping the frame and of every branch of
the `inputs` case holds of the handling of any frame. -/
@[elab_as_elim]
theorem dispatch_cases {motive : Handled Raw → Prop} (s : Adapter Raw) (replies : Replies)
    (input : Raw) (skipped : motive s.skip)
    (introduced : ∀ introduction, motive (s.onIntroduction replies introduction))
    (offered : ∀ offer, motive (s.onOffer codec replies offer))
    (candidate : ∀ candidate, motive (s.onCandidate candidate))
    (answered : ∀ answer, motive (s.onAnswer answer)) : motive (s.dispatch codec replies input) := by
  unfold dispatch
  rcases codec.decrypt input with _ | plain
  · exact skipped
  dsimp only
  rcases codec.unmarshalMessage plain with _ | message
  · exact skipped
  dsimp only
  by_cases introduction : message.type = typeIntroduction
  · rw [if_pos introduction]
    rcases codec.unmarshalIntroduction plain with _ | introduction
    exacts [skipped, introduced _]
  rw [if_neg introduction]
  by_cases offer : message.type = typeOffer
  · rw [if_pos offer]
    rcases codec.unmarshalExchange plain with _ | offer
    exacts [skipped, offered _]
  rw [if_neg offer]
  by_cases candidate' : message.type = typeCandidate
  · rw [if_pos candidate']
    rcases codec.unmarshalExchange plain with _ | exchange
    exacts [skipped, candidate _]
  rw [if_neg candidate']
  by_cases answer : message.type = typeAnswer
  · rw [if_pos answer]
    rcases codec.unmarshalExchange plain with _ | answer
    exacts [skipped, answered _]
  rw [if_neg answer]
  exact skipped

/-- What handling a frame may do: create at most one connection, for the current session,
and at most one candidate queue, and move the loop to its `select`, into the deferred
teardown, or to the lock of a critical section. A critical section that registers an entry
registers a connection of the current session, and a replacement's entry holds the queue
just made. -/
structure Handled.Valid (s : Adapter Raw) (handled : Handled Raw) : Prop where
  conns : handled.conns.map Conn.session = s.conns.map Conn.session ∨
    handled.conns.map Conn.session = s.conns.map Conn.session ++ [s.session]
  queues : handled.queues = s.queues ∨ handled.queues = s.queues + 1
  loop : handled.loop = .selecting ∨ handled.loop = .locking .teardown ∨
    (∃ sender entry offer, handled.loop = .locking (.replace sender entry offer) ∧
      entry.candidates = s.queues ∧ handled.queues = s.queues + 1 ∧
      (handled.conns.map Conn.session)[entry.conn]? = some s.session) ∨
    (∃ sender conn iid answer, handled.loop = .locking (.install sender conn iid answer) ∧
      (handled.conns.map Conn.session)[conn]? = some s.session) ∨
    (∃ candidate, handled.loop = .locking (.enqueue candidate)) ∨
    (∃ answer, handled.loop = .locking (.lookup answer))

theorem skip_valid (s : Adapter Raw) : Handled.Valid s s.skip :=
  ⟨.inl rfl, .inl rfl, .inl rfl⟩

/-- The connection a branch creates is the last one, of the current session. -/
private theorem created_session (s : Adapter Raw) (c : Conn Raw) (same : c.session = s.session)
    (f : Conn Raw → Conn Raw) (keeps : ∀ c, (f c).session = c.session) :
    ((s.conns ++ [c]).modify f s.conns.length).map Conn.session =
    s.conns.map Conn.session ++ [s.session] ∧
      (((s.conns ++ [c]).modify f s.conns.length).map Conn.session)[s.conns.length]? =
          some s.session := by
  rw [map_modify_of_comp f _ keeps]
  simp [same]

theorem onIntroduction_valid (s : Adapter Raw) (replies : Replies) (introduction : Introduction) :
    Handled.Valid s (s.onIntroduction replies introduction) := by
  have created := s.created_session ⟨introduction.sender, s.uuids, s.session, false, none, none, []⟩ rfl
  unfold onIntroduction
  dsimp only
  split_ifs
  · exact ⟨.inl rfl, .inl rfl, .inr (.inl rfl)⟩
  · exact ⟨.inr (by simp), .inl rfl, .inr (.inl rfl)⟩
  · exact ⟨.inr (by simp), .inr rfl, .inr (.inl rfl)⟩
  · exact ⟨.inr (created _ (by intro; rfl)).1, .inr rfl,
      .inr (.inr (.inl ⟨_, _, _, rfl, rfl, rfl, (created _ (by intro; rfl)).2⟩))⟩

theorem onOffer_valid (s : Adapter Raw) (replies : Replies) (offer : Exchange Raw) :
    Handled.Valid s (s.onOffer codec replies offer) := by
  have created := s.created_session ⟨offer.sender, s.uuids, s.session, true, none, none, []⟩ rfl
  unfold onOffer
  by_cases other : offer.recipient ≠ s.id
  · rw [if_pos other]; exact s.skip_valid
  rw [if_neg other]
  dsimp only
  by_cases refused : (!replies.newPeerConnection) = true
  · rw [if_pos refused]; exact ⟨.inl rfl, .inl rfl, .inr (.inl rfl)⟩
  rw [if_neg refused]
  rcases codec.unmarshalDescription offer.payload with _ | description
  · exact ⟨.inr (by simp), .inl rfl, .inl rfl⟩
  dsimp only
  split_ifs
  · exact ⟨.inr (by simp), .inl rfl, .inr (.inl rfl)⟩
  · exact ⟨.inr (created _ (by intro; rfl)).1, .inl rfl, .inr (.inl rfl)⟩
  · refine ⟨.inr ?_, .inl rfl, .inr (.inr (.inr (.inl ⟨_, _, _, _, rfl, ?_⟩)))⟩ <;>
      rw [map_modify_of_comp _ Conn.session (by intro; rfl)]
    exacts [(created _ (by intro; rfl)).1, (created _ (by intro; rfl)).2]

theorem dispatch_valid (s : Adapter Raw) (replies : Replies) (input : Raw) :
    Handled.Valid s (s.dispatch codec replies input) :=
  s.dispatch_cases codec replies input s.skip_valid (s.onIntroduction_valid replies)
    (s.onOffer_valid codec replies)
    (fun candidate => by
      unfold onCandidate; split
      exacts [s.skip_valid, ⟨.inl rfl, .inl rfl, .inr (.inr (.inr (.inr (.inl ⟨_, rfl⟩))))⟩])
    (fun answer => by
      unfold onAnswer; split
      exacts [s.skip_valid, ⟨.inl rfl, .inl rfl, .inr (.inr (.inr (.inr (.inr ⟨_, rfl⟩))))⟩])

end Shapes

end Adapter

end Weron
