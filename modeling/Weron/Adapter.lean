import Weron.Config

/-!
# The adapter's state

`Adapter` is Go's `Adapter` struct together with what the runtime holds for it: the objects
the ICE engine created for the session loop, the goroutines blocked on a channel, and the
session loop's own control point. Handles (`Nat`) index the engine tables, and a registry
entry (`Peer`, Go's `peer`) names its connection, candidate queue and channels by handle.

The outside world sees three logs: the frames written to the signaler (`written`), the
handles the host accepted (`accepted`), and the local ids of the sessions (`sessions`,
published on the `ids` channel). A ghost log lists every post spawned (`spawned`), and each
post carries its rank in it (`Post.seq`), so that the order in which posts were spawned can
be compared with the order in which they were written.

Go code that may panic is modelled as an `Outcome`: it returns the state it leaves, or
panics with the state at the panic, whose effects stay. The engine's answer to every call
comes from a `Replies` record, so that every outcome of every call can be chosen.
-/

namespace Weron

/-- A registry entry, Go's `peer`: the connection, its candidate queue, its data channels by
label, and the `iid` minted with it. -/
structure Peer where
  conn : Nat
  candidates : Nat
  channels : AList (fun _ : String => Nat)
  iid : Nat
  deriving DecidableEq

/-- A peer connection the loop created, `*webrtc.PeerConnection`, with the values its
callbacks captured: the remote id, the `iid` and the session; `answering` tells the offer
branch's callbacks from the introduction branch's. -/
structure Conn (Raw : Type) where
  remote : String
  iid : Nat
  session : Nat
  answering : Bool
  localDescription : Option SessionDescription
  remoteDescription : Option SessionDescription
  added : List Raw

/-- pion's signaling state `have-local-offer`: the connection has set its own offer and holds
no remote description. -/
def Conn.haveLocalOffer {Raw : Type} (c : Conn Raw) : Bool :=
  c.remoteDescription.isNone && c.localDescription.any fun d => d.type == .offer

/-- Whether pion's `SetRemoteDescription` takes `description` on `c`, which its signaling state
decides, whatever the rest of the engine answers: an answer only in `have-local-offer`, an offer
only outside it. Any other call returns an error. -/
def Conn.takes {Raw : Type} (c : Conn Raw) (description : SessionDescription) : Bool :=
  match description.type with
  | .answer => c.haveLocalOffer
  | .offer => !c.haveLocalOffer

/-- A data channel, `*webrtc.DataChannel`. Once its `OnOpen` handler has run,
`newDataChannelReadWriteCloser` has replaced the adapter's `OnClose` handler by its own
(`wrapped`). -/
structure Channel where
  conn : Nat
  label : String
  wrapped : Bool

/-- The handler that spawned a post (ghost): the introduction of its session, the offer or
the answer of a connection, or a local candidate of a connection. -/
inductive Source
  | introduction
  | offer (conn : Nat)
  | answer (conn : Nat)
  | candidate (conn : Nat)
  deriving DecidableEq

/-- A goroutine blocked on `a.lines <- p`: the envelope it posts, the session that spawned
it, its rank among all posts spawned, and the handler that spawned it. -/
structure Post (Raw : Type) where
  line : Envelope Raw
  session : Nat
  seq : Nat
  source : Source

/-- A frame the loop wrote to the signaler socket: an encrypted line received from
`a.lines`, the encrypted empty slice a closed `a.lines` yields, or a ping. -/
inductive Frame (Raw : Type)
  | line (post : Post Raw)
  | empty
  | ping

/-- A written frame and the session whose loop wrote it. -/
structure Write (Raw : Type) where
  session : Nat
  frame : Frame Raw

/-- The goroutine of the candidate branch, blocked on `c.candidates <- candidate`. -/
structure Enqueue (Raw : Type) where
  queue : Nat
  candidate : Raw

/-- A goroutine draining a candidate queue into `AddICECandidate`, spawned by the offer and
answer branches; after a failed call it is blocked on `errs <- err`. -/
structure Drain where
  conn : Nat
  queue : Nat
  session : Nat
  failed : Bool

/-- The reader goroutine of the current session: reading frames, blocked on `errs <- err`
after a read error, or returned after closing `inputs` and `errs`. -/
inductive Reader
  | reading
  | failed
  | finished
  deriving DecidableEq

/-- Go's exported `Peer`, sent on `a.peerChan` for every opened channel, with the handle of
the channel its stream wraps. -/
structure PeerHandle where
  peerId : String
  channelId : String
  channel : Nat
  deriving DecidableEq

/-- Who holds `a.peerLock`: the session loop (only after it panicked inside a critical
section) or an `OnOpen` handler blocked on `a.peerChan <- p`. -/
inductive Holder
  | loop
  | onOpen (handle : PeerHandle)
  deriving DecidableEq

/-- The critical sections the session loop runs once it holds `a.peerLock`. -/
inductive Critical (Raw : Type)
  | replace (sender : String) (entry : Peer) (offer : SessionDescription)
  | install (sender : String) (conn iid : Nat) (answer : SessionDescription)
  | enqueue (candidate : Exchange Raw)
  | lookup (answer : Exchange Raw)
  | teardown
  | reset
  deriving DecidableEq

/-- Where the session loop is: at the head of the reconnect loop, about to dial, returned,
blocked on `ids <- id`, in the `select`, or blocked on `a.peerLock.Lock()` before a
critical section. -/
inductive Loop (Raw : Type)
  | top
  | dialing
  | exited
  | publishing
  | selecting
  | locking (critical : Critical Raw)
  deriving DecidableEq

/-- Go's `Adapter` and what the runtime holds for it. The engine tables list the connections
and channels the loop created and the number of candidate queues it made, with the handles
of those closed so far. `sessions` lists the local id of every session so far, the current
one last. `spawned` lists every post spawned so far (ghost). -/
structure Adapter (Raw : Type) where
  config : AdapterConfig
  done : Bool
  linesClosed : Bool
  lines : List (Post Raw)
  spawned : List (Post Raw)
  written : List (Write Raw)
  peers : AList (fun _ : String => Peer)
  peerLock : Option Holder
  accepted : List PeerHandle
  conns : List (Conn Raw)
  channels : List Channel
  queues : Nat
  closedConns : List Nat
  closedChannels : List Nat
  closedQueues : List Nat
  enqueues : List (Enqueue Raw)
  drains : List Drain
  loop : Loop Raw
  sessions : List String
  reader : Reader
  closedErrs : List Nat
  uuids : Nat
  crashed : Bool

/-- The engine's and the transport's answer to every call a step makes: `true` is a nil
error. Closes are answered per object. -/
structure Replies where
  dial : Bool := true
  deadline : Bool := true
  write : Bool := true
  newPeerConnection : Bool := true
  createDataChannel : Bool := true
  createOffer : Bool := true
  createAnswer : Bool := true
  setLocalDescription : Bool := true
  setRemoteDescription : Bool := true
  addICECandidate : Bool := true
  closeSocket : Bool := true
  closeConn : Nat → Bool := fun _ => true
  closeChannel : Nat → Bool := fun _ => true

/-- Every `Close` call of a step succeeds. -/
def Replies.ClosesSucceed (replies : Replies) : Prop :=
  replies.closeSocket = true ∧ (∀ conn, replies.closeConn conn = true) ∧
    ∀ channel, replies.closeChannel channel = true

/-- `uuid.New().String()` for the `n`-th UUID minted. -/
def uuidString (n : Nat) : String := "uuid-" ++ toString n

variable {Raw : Type}

/-- `NewAdapter`, with the loop `Open` starts at the head of its reconnect loop. -/
def newAdapter (config : Option AdapterConfig) : Adapter Raw where
  config := AdapterConfig.normalize config
  done := false
  linesClosed := false
  lines := []
  spawned := []
  written := []
  peers := ∅
  peerLock := none
  accepted := []
  conns := []
  channels := []
  queues := 0
  closedConns := []
  closedChannels := []
  closedQueues := []
  enqueues := []
  drains := []
  loop := .top
  sessions := []
  reader := .finished
  closedErrs := []
  uuids := 0
  crashed := false

/-- A stretch of Go code run from a state: it returns with the state it leaves, or panics
(`.error`) with the state at the panic. -/
abbrev Outcome (Raw : Type) := Except (Adapter Raw) (Adapter Raw)

/-- The state a stretch of code leaves, whether it returned or panicked. -/
def Outcome.state : Outcome Raw → Adapter Raw
  | .ok s => s
  | .error s => s

namespace Adapter

/-- The number of the current session, counting from one. -/
def session (s : Adapter Raw) : Nat := s.sessions.length

/-- The local id `id` of session `k`. -/
def idOf (s : Adapter Raw) (k : Nat) : String := s.sessions.getD (k - 1) ""

/-- The local id of the current session. -/
def id (s : Adapter Raw) : String := s.idOf s.session

/-- `go func() { a.lines <- p }()`: the goroutine blocks until the loop receives `p`; its
send on a closed `a.lines` panics, and nothing recovers it. -/
def post (s : Adapter Raw) (line : Envelope Raw) (session : Nat) (source : Source) :
    Adapter Raw :=
  if s.linesClosed then { s with crashed := true }
  else
    let p : Post Raw := ⟨line, session, s.spawned.length, source⟩
    { s with lines := s.lines ++ [p], spawned := s.spawned ++ [p] }

/-- A post only adds the goroutine to `a.lines` and to the ghost log, or ends the process
once `a.lines` is closed. -/
@[simp] theorem post_eq (s : Adapter Raw) (line : Envelope Raw) (session : Nat) (source : Source) :
    s.post line session source = { s with
      lines := if s.linesClosed then s.lines
        else s.lines ++ [⟨line, session, s.spawned.length, source⟩]
      spawned := if s.linesClosed then s.spawned
        else s.spawned ++ [⟨line, session, s.spawned.length, source⟩]
      crashed := s.crashed || s.linesClosed } := by
  unfold post; cases s.linesClosed <;> simp

/-- `channel.Close()` on a data channel; the caller panics on an error. -/
def closeChannel (s : Adapter Raw) (replies : Replies) (channel : Nat) : Outcome Raw :=
  if replies.closeChannel channel then .ok { s with closedChannels := channel :: s.closedChannels }
  else .error s

/-- `conn.Close()` on a peer connection; the caller panics on an error. -/
def closeConn (s : Adapter Raw) (replies : Replies) (conn : Nat) : Outcome Raw :=
  if replies.closeConn conn then .ok { s with closedConns := conn :: s.closedConns }
  else .error s

/-- `close(peer.candidates)`: closing a closed channel panics. Closing wakes the blocked
enqueuers, whose panic is recovered, and ends the drain loops ranging over the queue. -/
def closeQueue (s : Adapter Raw) (queue : Nat) : Outcome Raw :=
  if queue ∈ s.closedQueues then .error s
  else .ok { s with
    closedQueues := queue :: s.closedQueues
    enqueues := s.enqueues.filter (fun e => e.queue != queue)
    drains := s.drains.filter (fun d => d.queue != queue || d.failed) }

/-- `for _, channel := range peer.channels { if err := channel.Close(); err != nil { panic(err) } }`:
closes the channels in turn, panicking at the first failure. -/
def closeChannels (s : Adapter Raw) (replies : Replies) :
    List (Σ _ : String, Nat) → Outcome Raw
  | [] => .ok s
  | channel :: rest =>
    match s.closeChannel replies channel.2 with
    | .ok s => s.closeChannels replies rest
    | .error s => .error s

/-- The teardown of an entry in the introduction branch, its `Disconnected` handler and the
session's deferred teardown: every channel, then the connection, then the candidate queue,
panicking at the first failure. -/
def retire (s : Adapter Raw) (replies : Replies) (entry : Peer) : Outcome Raw :=
  (s.closeChannels replies entry.channels.entries).bind fun s =>
    (s.closeConn replies entry.conn).bind fun s => s.closeQueue entry.candidates

/-- With every channel `Close` succeeding, closing a list of channels closes each of them. -/
theorem closeChannels_ok (s : Adapter Raw) {replies : Replies}
    (succeed : ∀ channel, replies.closeChannel channel = true)
    (channels : List (Σ _ : String, Nat)) :
    s.closeChannels replies channels =
      .ok { s with closedChannels := (channels.map (·.2)).reverse ++ s.closedChannels } := by
  induction channels generalizing s with
  | nil => rfl
  | cons channel rest ih => simp [closeChannels, closeChannel, succeed, ih]

/-- With every `Close` succeeding, retiring an entry whose queue is open closes its channels,
its connection and its queue. -/
theorem retire_ok (s : Adapter Raw) {replies : Replies} (succeed : replies.ClosesSucceed)
    {entry : Peer} (live : entry.candidates ∉ s.closedQueues) :
    s.retire replies entry = .ok { s with
      closedChannels := (entry.channels.entries.map (·.2)).reverse ++ s.closedChannels
      closedConns := entry.conn :: s.closedConns
      closedQueues := entry.candidates :: s.closedQueues
      enqueues := s.enqueues.filter (fun e => e.queue != entry.candidates)
      drains := s.drains.filter (fun d => d.queue != entry.candidates || d.failed) } := by
  simp [retire, closeChannels_ok s succeed.2.2, closeConn, succeed.2.1, closeQueue, live, Except.bind]

/-- The session's deferred teardown of the registry (185-197): every entry in turn,
panicking at the first failure. -/
def retireAll (s : Adapter Raw) (replies : Replies) : List (Σ _ : String, Peer) → Outcome Raw
  | [] => .ok s
  | entry :: rest =>
    match s.retire replies entry.2 with
    | .ok s => s.retireAll replies rest
    | .error s => .error s

/-- Updating one element keeps every view of the list that the update does not touch. -/
theorem map_modify_of_comp {α β : Type} (f : α → α) (g : α → β) (keeps : ∀ a, g (f a) = g a)
    (n : Nat) (l : List α) : (l.modify f n).map g = l.map g := by
  apply List.ext_getElem?
  intro m
  simp only [List.getElem?_map, List.getElem?_modify]
  split <;> cases l[m]? <;> simp [keeps]

/-- `c.SetRemoteDescription(description)` after it succeeded. -/
def setRemoteDescription (s : Adapter Raw) (conn : Nat) (description : SessionDescription) :
    Adapter Raw :=
  { s with
    conns := s.conns.modify (fun c => { c with remoteDescription := some description }) conn }

/-- Whether pion's `SetRemoteDescription` on connection `conn` takes `description`: the
connection exists and its signaling state admits the description's type (`Conn.takes`). -/
def takes (s : Adapter Raw) (conn : Nat) (description : SessionDescription) : Bool :=
  s.conns[conn]?.any fun c => c.takes description

end Adapter

end Weron
