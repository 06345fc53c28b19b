import Weron.Bindings

/-!
# What the adapter hands out

The host sees the adapter through two channels. `Open` returns `ids` (848), on which the
loop sends the id of every session it starts (236). `Accept` (861-863) hands the host
`a.peerChan`, on which the `OnOpen` handler of every data channel sends a `Peer` (372-381,
421-430 and 598-607), holding `a.peerLock` until the host takes it. The signaler sees the introduction each
session posts (238-251).

`Moves.framed` says once what every move does to what these depend on (`Framed`): the
connections and channels only grow, a channel stays wrapped once its `OnOpen` handler has
run, the session log grows only when a dial starts a session, an introduction is posted
only by `publish`, an offer or an answer only for the connection whose entry the loop waited
to register (`Posting`), and the lock passes to an `OnOpen` handler only with a channel it
has just recorded (`Handover`). From it:

* the host accepts each channel at most once, as a peer named by the channel's label and its
  connection's remote id (`accepted_once`); while a handler waits on `a.peerChan`, the
  registry holds its channel and the host has not accepted it yet (`handing_registered`);
* while `a.peerLock` is held, no move changes the registry (`registry_locked`);
* every session id is the configured one, or a UUID minted for that session alone
  (`sessions_minted`), and after `Close` no session is dialled (`sessions_after_close`);
* no session posts its introduction twice (`introduced_once`), and no connection its offer
  or its answer (`described_once`).
-/

namespace Weron

/-- The peer an `OnOpen` handler holding `a.peerLock` waits to send on `a.peerChan`. -/
def handing : Option Holder → Option PeerHandle
  | some (.onOpen handle) => some handle
  | _ => none

@[simp] theorem handing_eq_some {lock : Option Holder} {handle : PeerHandle} :
    handing lock = some handle ↔ lock = some (.onOpen handle) := by
  rcases lock with _ | _ | h <;> simp [handing]

/-- The connection whose local description a post carries: its offer or its answer. -/
def Source.description : Source → Option Nat
  | .offer conn | .answer conn => some conn
  | _ => none

theorem Source.conn_of_description {source : Source} {conn : Nat}
    (described : source.description = some conn) : source.conn = some conn := by
  cases source <;> first | exact described | cases described

/-- The connection whose entry the loop waits to register. -/
def Loop.waitsOn {Raw : Type} (loop : Loop Raw) : Option Nat :=
  loop.pending.map fun (_, conn, _) => conn

/-- Every channel of `s` is one of `t`, on the same connection under the same label, and
still wrapped if it was. -/
def KeepsChannels (s t : List Channel) : Prop :=
  ∀ (i : Nat) (d : Channel), s[i]? = some d → ∃ d' : Channel, t[i]? = some d' ∧ d'.conn = d.conn ∧ d'.label = d.label ∧
    (d.wrapped = true → d'.wrapped = true)

theorem keepsChannels_refl (channels : List Channel) : KeepsChannels channels channels :=
  fun _ d found => ⟨d, found, rfl, rfl, id⟩

theorem keepsChannels_grown {s t : List Channel} (grown : s <+: t) : KeepsChannels s t :=
  fun _ d found => ⟨d, Adapter.getElem?_of_grown grown found, rfl, rfl, id⟩

/-- An `OnOpen` handler wraps its channel and no other. -/
theorem keepsChannels_modify (channels : List Channel) (channel : Nat) :
    KeepsChannels channels (channels.modify (fun d => { d with wrapped := true }) channel) := by
  intro i d found
  by_cases same : channel = i
  · subst same
    exact ⟨{ d with wrapped := true }, by rw [List.getElem?_modify_eq, found]; rfl, rfl, rfl, fun _ => rfl⟩
  · exact ⟨d, by rw [List.getElem?_modify_ne _ _ same, found], rfl, rfl, id⟩

namespace Adapter

variable {Raw : Type} {codec : Codec Raw}

section Frame

/-- What a move does to the lock and to the peers handed to the host. It keeps the peer a
handler waits to send and those accepted, and the registry too while the lock is held. Or,
with the lock free, an `OnOpen` handler records a channel not yet wrapped under its label in
the entry of its connection's remote id, wraps it, and waits to send it. Or `Accept`
receives the peer the handler waited to send, which frees the lock and leaves the registry
as it was. -/
inductive Handover (s t : Adapter Raw) : Prop
  | keep : handing t.peerLock = handing s.peerLock → t.accepted = s.accepted →
      (s.peerLock = none ∨ t.peers = s.peers) → Handover s t
  | opened (channel : Nat) (d : Channel) (c : Conn Raw) (entry : Peer) : s.peerLock = none →
      s.channels[channel]? = some d → d.wrapped = false → s.conns[d.conn]? = some c →
      t.channels[channel]?.map Channel.wrapped = some true → t.peers.lookup c.remote = some entry →
      entry.channels.lookup d.label = some channel →
      t.peerLock = some (.onOpen ⟨c.remote, d.label, channel⟩) → t.accepted = s.accepted → Handover s t
  | accepted (handle : PeerHandle) : s.peerLock = some (.onOpen handle) → handing t.peerLock = none →
      t.accepted = s.accepted ++ [handle] → t.peers = s.peers → Handover s t

/-- A handover depends on the lock, the accepted peers, the registry and the channels only. -/
theorem Handover.frame {s u t : Adapter Raw} (handover : Handover s u) (peerLock : t.peerLock = u.peerLock)
    (accepted : t.accepted = u.accepted) (peers : t.peers = u.peers) (channels : t.channels = u.channels) :
    Handover s t := by
  cases handover with
  | keep held same free => exact .keep (peerLock ▸ held) (accepted ▸ same) (peers ▸ free)
  | opened channel d c entry free found unwrapped owner wrapped registered recorded holds same =>
    exact .opened channel d c entry free found unwrapped owner (channels ▸ wrapped) (peers ▸ registered)
      recorded (peerLock ▸ holds) (accepted ▸ same)
  | accepted handle holds released more same =>
    exact .accepted handle holds (peerLock ▸ released) (accepted ▸ more) (peers ▸ same)

/-- The connections whose offer or answer has been posted, in the order they were. -/
def descriptions (s : Adapter Raw) : List Nat :=
  s.spawned.filterMap fun p => p.source.description

/-- What a move does to the offers and answers posted and to the connection whose entry the
loop waits to register. It posts none, and waits on no connection but the one it waited on
or the one it creates next; or it posts the offer or the answer of the connection it waited
on, having registered that connection's entry, and then waits on none. -/
inductive Posting (s t : Adapter Raw) : Prop
  | keep : t.descriptions = s.descriptions →
      (∀ conn, t.loop.waitsOn = some conn → s.loop.waitsOn = some conn ∨ conn = s.conns.length) →
      Posting s t
  | post (conn : Nat) : s.loop.waitsOn = some conn → t.loop.waitsOn = none →
      t.descriptions = s.descriptions ++ [conn] →
      (∀ key, s.loop.pending.map Prod.fst = some key → (t.peers.lookup key).map Peer.conn = some conn) →
      Posting s t

/-- What a move does to what the host and the signaler see. The configuration stays and
`Close` is not undone; the UUID counter, the connections and the channels only grow. The
session log grows only when a dial before `Close` starts a session, with the configured id
or a fresh UUID, and only that move reaches `publishing` with a new log. The posts only
grow, and an introduction is posted alone, by `publish`, for the current session. Offers
and answers are posted as `Posting` says. The lock and the peers handed to the host change
as `Handover` says. -/
structure Framed (s t : Adapter Raw) : Prop where
  config : t.config = s.config
  done : s.done = true → t.done = true
  uuids : s.uuids ≤ t.uuids
  conns : s.conns.map Conn.identity <+: t.conns.map Conn.identity
  channels : KeepsChannels s.channels t.channels
  sessions : t.sessions = s.sessions ∨ s.done = false ∧ s.loop = .dialing ∧ t.loop = .publishing ∧
    t.sessions = s.sessions ++ [if trimSpace s.config.id = "" then uuidString s.uuids else s.config.id] ∧
    t.uuids = if trimSpace s.config.id = "" then s.uuids + 1 else s.uuids
  publishing : t.loop = .publishing → t.sessions = s.sessions → s.loop = .publishing
  spawned : ∃ posts, t.spawned = s.spawned ++ posts ∧ ∀ p ∈ posts, p.source = .introduction →
    posts = [p] ∧ s.loop = .publishing ∧ t.loop = .selecting ∧ p.session = s.session ∧
      t.sessions = s.sessions ∧ p.line = .introduction s.id
  handover : Handover s t
  posting : Posting s t

theorem Framed.refl (s : Adapter Raw) : Framed s s :=
  ⟨rfl, fun done => done, le_rfl, List.prefix_refl _, keepsChannels_refl _, .inl rfl, fun moved _ => moved,
    ⟨[], (List.append_nil _).symm, fun _ mem => by cases mem⟩, .keep rfl rfl (.inr rfl),
    .keep rfl fun _ waiting => .inl waiting⟩

/-- A move that changes only the registry while no handler waits to send a peer, the lock
short of handing it to one, the channels as `KeepsChannels` allows, the connections' engine
state, the flag `Close` sets, what the frame does not read, and where the loop is, short of
`publishing` or of waiting to register an entry. -/
theorem Framed.update (s : Adapter Raw) {done linesClosed : Bool} {lines : List (Post Raw)}
    {written : List (Write Raw)} {peers : AList fun _ : String => Peer} {peerLock : Option Holder}
    {conns : List (Conn Raw)} {channels : List Channel} {queues : Nat}
    {closedConns closedChannels closedQueues : List Nat} {enqueues : List (Enqueue Raw)}
    {drains : List Drain} {loop : Loop Raw} {reader : Reader} {closedErrs : List Nat} {crashed : Bool}
    (stays : s.done = true → done = true)
    (identities : conns.map Conn.identity = s.conns.map Conn.identity)
    (kept : KeepsChannels s.channels channels)
    (held : handing peerLock = handing s.peerLock) (free : s.peerLock = none ∨ peers = s.peers)
    (moved : loop = s.loop ∨ loop ≠ .publishing ∧ loop.waitsOn = none) :
    Framed s { s with
      done := done
      linesClosed := linesClosed
      lines := lines
      written := written
      peers := peers
      peerLock := peerLock
      conns := conns
      channels := channels
      queues := queues
      closedConns := closedConns
      closedChannels := closedChannels
      closedQueues := closedQueues
      enqueues := enqueues
      drains := drains
      loop := loop
      reader := reader
      closedErrs := closedErrs
      crashed := crashed } :=
  ⟨rfl, stays, le_rfl, by simp only [identities, List.prefix_refl], kept, .inl rfl,
    fun publishing _ => moved.elim (fun same => same.symm.trans publishing) fun idle => absurd publishing idle.1,
    ⟨[], (List.append_nil _).symm, fun _ mem => by cases mem⟩, .keep held rfl free,
    .keep rfl fun _ waiting => moved.elim (fun same => .inl (same ▸ waiting))
      fun idle => absurd (idle.2.symm.trans waiting) nofun⟩

/-- A move that changes only what the frame does not read, and where the loop is, short of
`publishing` or of waiting to register an entry. -/
theorem Framed.quiet (s : Adapter Raw) {linesClosed : Bool} {lines : List (Post Raw)}
    {written : List (Write Raw)} {queues : Nat} {closedConns closedChannels closedQueues : List Nat}
    {enqueues : List (Enqueue Raw)} {drains : List Drain} {loop : Loop Raw} {reader : Reader}
    {closedErrs : List Nat} {crashed : Bool} (moved : loop = s.loop ∨ loop ≠ .publishing ∧ loop.waitsOn = none) :
    Framed s { s with
      linesClosed := linesClosed
      lines := lines
      written := written
      queues := queues
      closedConns := closedConns
      closedChannels := closedChannels
      closedQueues := closedQueues
      enqueues := enqueues
      drains := drains
      loop := loop
      reader := reader
      closedErrs := closedErrs
      crashed := crashed } :=
  Framed.update s (fun done => done) rfl (keepsChannels_refl _) rfl (.inr rfl) moved

/-- Spawning a post other than an introduction: the offer or the answer of the connection the
loop waited on, once it waits on none, or a post of another kind where the loop stays. -/
theorem Framed.post {s u : Adapter Raw} (framed : Framed s u) (spawned : u.spawned = s.spawned)
    {line : Envelope Raw} {session : Nat} {source : Source} (other : source ≠ .introduction)
    (described : source.description = none ∧ u.loop = s.loop ∨
      ∃ conn, source.description = some conn ∧ s.loop.waitsOn = some conn ∧ u.loop.waitsOn = none ∧
        ∀ key, s.loop.pending.map Prod.fst = some key → (u.peers.lookup key).map Peer.conn = some conn) :
    Framed s (u.post line session source) := by
  rw [post_eq]
  refine { framed with
    spawned := ⟨if u.linesClosed then [] else [⟨line, session, u.spawned.length, source⟩],
      by split <;> simp [spawned], fun p mem introduction => ?_⟩
    handover := framed.handover.frame rfl rfl rfl rfl
    posting := ?_ }
  · split at mem
    · cases mem
    · rw [List.mem_singleton] at mem
      subst mem
      exact absurd introduction other
  rcases described with ⟨kind, same⟩ | ⟨conn, kind, waited, idle, registered⟩
  · refine .keep ?_ fun conn waiting => .inl (same ▸ waiting)
    by_cases closed : u.linesClosed = true <;> simp [descriptions, closed, spawned, kind]
  · by_cases closed : u.linesClosed = true
    · exact .keep (by simp [descriptions, closed, spawned]) fun _ waiting => absurd (idle.symm.trans waiting) nofun
    · exact .post conn waited idle (by simp [descriptions, closed, spawned, kind]) registered

theorem Framed.session_le {s t : Adapter Raw} (framed : Framed s t) : s.session ≤ t.session := by
  unfold session
  rcases framed.sessions with same | ⟨-, -, -, grown, -⟩ <;> simp [*]

end Frame

section Shapes

/-- A dial that starts a session logs the configured id, or a UUID it mints. -/
theorem dial_started (s : Adapter Raw) (replies : Replies) :
    s.dial replies = { s with loop := .locking .reset } ∨ s.dial replies = s.unwind ∨
      s.done = false ∧ s.dial replies = { s with
        sessions := s.sessions ++ [if trimSpace s.config.id = "" then uuidString s.uuids else s.config.id]
        uuids := if trimSpace s.config.id = "" then s.uuids + 1 else s.uuids
        reader := .reading
        loop := .publishing } := by
  unfold dial
  by_cases stopped : (s.done || !replies.dial) = true
  · rw [if_pos stopped]; exact .inl rfl
  rw [if_neg stopped]
  by_cases failed : (!replies.deadline) = true
  · rw [if_pos failed]; exact .inr (.inl rfl)
  rw [if_neg failed]
  simp only [Bool.or_eq_true, not_or, Bool.not_eq_true] at stopped
  exact .inr (.inr ⟨stopped.1, rfl⟩)

/-- An `OnOpen` handler of a channel not yet wrapped, whose connection's remote id has an
entry, records the channel in it under its label, wraps it, and blocks on `a.peerChan` with
the channel's peer and the lock held. -/
theorem channelOpen_opens (s : Adapter Raw) (channel : Nat) :
    s.channelOpen channel = s ∨ s.channelOpen channel = { s with crashed := true } ∨
      ∃ d c entry, s.channels[channel]? = some d ∧ d.wrapped = false ∧ s.conns[d.conn]? = some c ∧
        s.peers.lookup c.remote = some entry ∧ s.channelOpen channel = { s with
          peers := s.peers.insert c.remote { entry with channels := entry.channels.insert d.label channel }
          channels := s.channels.modify (fun d => { d with wrapped := true }) channel
          peerLock := some (.onOpen ⟨c.remote, d.label, channel⟩) } := by
  unfold channelOpen
  split
  · exact .inl rfl
  · next d found =>
    split
    · exact .inl rfl
    · next unwrapped =>
      split
      · exact .inl rfl
      · next c owner =>
        split
        · exact .inr (.inl rfl)
        · next entry registered =>
          exact .inr (.inr ⟨d, c, entry, found, by simpa using unwrapped, owner, registered, rfl⟩)

theorem onIntroduction_channels (s : Adapter Raw) (replies : Replies) (introduction : Introduction) :
    s.channels <+: (s.onIntroduction replies introduction).channels := by
  unfold onIntroduction
  dsimp only
  split_ifs
  exacts [List.prefix_refl _, List.prefix_refl _, List.prefix_append _ _, List.prefix_append _ _]

theorem onOffer_channels (s : Adapter Raw) (replies : Replies) (offer : Exchange Raw) :
    (s.onOffer codec replies offer).channels = s.channels := by
  unfold onOffer
  by_cases other : offer.recipient ≠ s.id
  · rw [if_pos other]; rfl
  rw [if_neg other]
  dsimp only
  by_cases refused : (!replies.newPeerConnection) = true
  · rw [if_pos refused]
  rw [if_neg refused]
  rcases codec.unmarshalDescription offer.payload with _ | description
  · rfl
  dsimp only
  split_ifs <;> rfl

variable (codec) in
/-- Handling a frame creates at most the introduction branch's primary channel. -/
theorem dispatch_channels (s : Adapter Raw) (replies : Replies) (input : Raw) :
    s.channels <+: (s.dispatch codec replies input).channels :=
  s.dispatch_cases codec replies input (List.prefix_refl _) (s.onIntroduction_channels replies)
    (fun offer => by simp only [onOffer_channels, List.prefix_refl])
    (fun candidate => by unfold onCandidate; split <;> exact List.prefix_refl _)
    (fun answer => by unfold onAnswer; split <;> exact List.prefix_refl _)

variable (codec) in
/-- Handling a frame leaves the loop waiting on no connection but the one its branch creates. -/
theorem dispatch_waitsOn (s : Adapter Raw) (replies : Replies) (input : Raw) {conn : Nat}
    (waiting : (s.dispatch codec replies input).loop.waitsOn = some conn) : conn = s.conns.length := by
  have created : ∀ {k : Nat}, (some k = some conn) → conn = k := fun same => (Option.some.inj same).symm
  revert waiting
  refine s.dispatch_cases codec replies input
    (motive := fun handled => handled.loop.waitsOn = some conn → conn = s.conns.length) nofun
    (fun introduction => ?_) (fun offer => ?_) (fun candidate => ?_) (fun answer => ?_)
  · unfold onIntroduction
    dsimp only
    split_ifs
    exacts [nofun, nofun, nofun, created]
  · unfold onOffer
    by_cases other : offer.recipient ≠ s.id
    · rw [if_pos other]; exact nofun
    rw [if_neg other]
    dsimp only
    by_cases refused : (!replies.newPeerConnection) = true
    · rw [if_pos refused]; exact nofun
    rw [if_neg refused]
    rcases codec.unmarshalDescription offer.payload with _ | description
    · exact nofun
    dsimp only
    split_ifs
    exacts [nofun, nofun, created]
  · unfold onCandidate; split <;> exact nofun
  · unfold onAnswer; split <;> exact nofun

/-- Handling a frame never moves the loop to `publishing`. -/
theorem Handled.Valid.loop_ne {s : Adapter Raw} {handled : Handled Raw} (valid : Handled.Valid s handled) :
    handled.loop ≠ .publishing := by
  rcases valid.loop with h | h | ⟨_, _, _, h, -⟩ | ⟨_, _, _, _, h, -⟩ | ⟨_, h⟩ | ⟨_, h⟩ <;> rw [h] <;> nofun

end Shapes

section Moves

/-- **What every move does to what the host and the signaler see.** -/
theorem Moves.framed {s t : Adapter Raw} {action : Action Raw} (move : Moves codec s action t) :
    Framed s t := by
  cases move with
  | stay => exact .refl s
  | check alive top => unfold Adapter.check; split <;> exact Framed.quiet s (.inr ⟨by nofun, by rfl⟩)
  | dial replies alive dialing =>
    rcases s.dial_started replies with failed | failed | ⟨live, started⟩
    · rw [failed]; exact Framed.quiet s (.inr ⟨by nofun, by rfl⟩)
    · rw [failed]; exact Framed.quiet s (.inr ⟨by nofun, by rfl⟩)
    · rw [started]
      exact ⟨rfl, fun done => done, by dsimp only; split <;> omega, List.prefix_refl _,
        keepsChannels_refl _, .inr ⟨live, dialing, rfl, rfl, rfl⟩, fun _ same => absurd same (by simp),
        ⟨[], (List.append_nil _).symm, fun _ mem => by cases mem⟩, .keep rfl rfl (.inr rfl), .keep rfl fun _ => nofun⟩
  | publish alive publishing =>
    unfold Adapter.publish
    rw [post_eq]
    refine ⟨rfl, fun done => done, le_rfl, List.prefix_refl _, keepsChannels_refl _, .inl rfl, nofun,
      ⟨if s.linesClosed then [] else [⟨.introduction s.id, s.session, s.spawned.length, .introduction⟩],
        by dsimp only; split <;> simp, fun p mem _ => ?_⟩, .keep rfl rfl (.inr rfl),
      .keep (by simp only [descriptions]; split <;> simp [Source.description]) fun _ => nofun⟩
    split at mem
    · cases mem
    · next live =>
      rw [List.mem_singleton] at mem
      subst mem
      exact ⟨if_neg live, publishing, rfl, rfl, rfl, rfl⟩
  | receive replies input alive selecting reading =>
    have mints : Handled.Mints s (s.dispatch codec replies input) := s.dispatch_mints replies input
    refine ⟨rfl, fun done => done, ?_, ?_, keepsChannels_grown (s.dispatch_channels codec replies input),
      .inl rfl, fun moved _ => absurd moved (s.dispatch_valid codec replies input).loop_ne,
      ⟨[], (List.append_nil _).symm, fun _ mem => by cases mem⟩, .keep rfl rfl (.inr rfl),
      .keep rfl fun _ waiting => .inr (s.dispatch_waitsOn codec replies input waiting)⟩
    · show s.uuids ≤ (s.dispatch codec replies input).uuids
      rcases mints.uuids with same | more <;> omega
    · show s.conns.map Conn.identity <+: (s.dispatch codec replies input).conns.map Conn.identity
      rcases mints.conns with same | ⟨c, grown, -⟩
      · simp only [same, List.prefix_refl]
      · rw [grown, List.map_append]; exact List.prefix_append _ _
  | acquire replies critical alive locking free =>
    cases critical with
    | replace sender entry offer =>
      show Framed s (Adapter.resume (s.replace replies sender entry offer))
      obtain ⟨u, closes, ⟨-, -, -, failed⟩ | returned⟩ := s.replace_cases replies sender entry offer
      · rw [failed, closes.eq]
        exact Framed.update s (fun done => done) rfl (keepsChannels_refl _) (by simp [handing, free])
          (.inl free) (.inr ⟨by nofun, by rfl⟩)
      · rw [returned, closes.eq]
        dsimp only [Adapter.resume]
        refine Framed.post ?_ (by rfl) (by nofun) (.inr ⟨entry.conn, by rfl, by rw [locking]; rfl, by rfl,
          fun key named => by rw [locking] at named; cases named; simp⟩)
        exact Framed.update s (fun done => done) rfl (keepsChannels_refl _) (by simp [handing, free])
          (.inl free) (.inr ⟨by nofun, by rfl⟩)
    | install sender conn iid answer =>
      show Framed s (s.install sender conn iid answer)
      unfold Adapter.install
      dsimp only
      refine Framed.post ?_ (by rfl) (by nofun) (.inr ⟨conn, by rfl, by rw [locking]; rfl, by rfl,
        fun key named => by rw [locking] at named; cases named; simp⟩)
      exact Framed.update s (fun done => done) rfl (keepsChannels_refl _) rfl (.inl free) (.inr ⟨by nofun, by rfl⟩)
    | enqueue candidate =>
      obtain ⟨enqueues, enqueued⟩ := s.enqueue_eq candidate
      show Framed s (s.enqueue candidate)
      rw [enqueued]; exact Framed.quiet s (.inr ⟨by nofun, by rfl⟩)
    | lookup answer =>
      obtain ⟨conns, drains, looked, -⟩ := s.lookup_cases codec replies answer
      have identities := s.lookup_identities codec replies answer
      rw [looked] at identities
      show Framed s (Adapter.resume (s.lookup codec replies answer))
      rcases resume_cases (s.lookup codec replies answer) with resumed | resumed <;> rw [resumed, looked] <;>
        exact Framed.update s (fun done => done) identities (keepsChannels_refl _) rfl (.inr rfl) (.inr ⟨by nofun, by rfl⟩)
    | teardown =>
      obtain ⟨u, closes, torn⟩ := s.teardown_frame replies
      show Framed s (s.teardown replies)
      rw [torn, closes.eq]; exact Framed.quiet s (.inr ⟨by nofun, by rfl⟩)
    | reset => exact Framed.update s (fun done => done) rfl (keepsChannels_refl _) rfl (.inl free) (.inr ⟨by nofun, by rfl⟩)
  | send replies i alive selecting =>
    obtain ⟨lines, written, sent, -⟩ := s.send_cases codec replies i
    rcases resume_cases (s.send codec replies i) with resumed | resumed <;> rw [resumed, sent]
    exacts [Framed.quiet s (.inl rfl), Framed.quiet s (.inr ⟨by nofun, by rfl⟩)]
  | ping replies alive selecting =>
    obtain ⟨written, pinged, -⟩ := s.ping_cases replies
    rcases resume_cases (s.ping replies) with resumed | resumed <;> rw [resumed, pinged]
    exacts [Framed.quiet s (.inl rfl), Framed.quiet s (.inr ⟨by nofun, by rfl⟩)]
  | receiveError source alive selecting =>
    obtain ⟨reader, closedErrs, crashed, drains, loop, received, moved⟩ := s.receiveError_cases source
    rw [received]
    exact Framed.quiet s (moved.imp_right fun torn => by subst torn; exact ⟨nofun, rfl⟩)
  | readError alive reading => exact Framed.quiet s (.inl rfl)
  | disconnected replies conn alive free =>
    obtain ⟨crashed, panicked⟩ := crashOnPanic_eq (s.disconnected replies conn)
    rw [panicked]
    rcases s.disconnected_cases replies conn with same | ⟨c, entry, u, -, -, closes, left | left⟩ <;>
      rw [‹s.disconnected replies conn = _›]
    · exact Framed.quiet s (.inl rfl)
    · rw [closes.eq]; exact Framed.quiet s (.inl rfl)
    · rw [closes.eq]
      exact Framed.update s (fun done => done) rfl (keepsChannels_refl _) rfl (.inl free) (.inl rfl)
  | iceCandidate conn candidate alive =>
    rcases s.iceCandidate_cases conn candidate with same | ⟨c, -, -, posted⟩
    · rw [same]; exact .refl s
    · rw [posted]; exact Framed.post (.refl s) rfl (by nofun) (.inl ⟨by rfl, rfl⟩)
  | dataChannel conn label alive =>
    unfold Adapter.dataChannel
    split
    · exact Framed.update s (fun done => done) rfl (keepsChannels_grown (List.prefix_append _ _)) rfl (.inr rfl)
        (.inl rfl)
    · exact .refl s
  | channelOpen channel alive free =>
    rcases s.channelOpen_opens channel with same | crashed | ⟨d, c, entry, found, unwrapped, owner, -, opened⟩
    · rw [same]; exact .refl s
    · rw [crashed]; exact Framed.quiet s (.inl rfl)
    · rw [opened]
      exact ⟨rfl, fun done => done, le_rfl, List.prefix_refl _, keepsChannels_modify _ _, .inl rfl,
        fun moved _ => moved, ⟨[], (List.append_nil _).symm, fun _ mem => by cases mem⟩,
        .opened channel d c { entry with channels := entry.channels.insert d.label channel } free found
          unwrapped owner (by rw [List.getElem?_modify_eq, found]; rfl) (AList.lookup_insert _)
          (AList.lookup_insert _) rfl rfl, .keep rfl fun _ waiting => .inl waiting⟩
  | channelClose replies channel alive free =>
    obtain ⟨crashed, panicked⟩ := crashOnPanic_eq (s.channelClose replies channel)
    obtain ⟨u, closes, left | left | ⟨_, _, _, _, left⟩⟩ := s.channelClose_cases replies channel
    all_goals rw [panicked, left, closes.eq]
    · exact Framed.quiet s (.inl rfl)
    · exact Framed.quiet s (.inl rfl)
    · exact Framed.update s (fun done => done) rfl (keepsChannels_refl _) rfl (.inl free) (.inl rfl)
  | drain replies k j alive =>
    obtain ⟨enqueues, conns, drains, crashed, drained, -⟩ := s.drain_cases replies k j
    have identities := s.drain_identities replies k j
    rw [drained] at identities ⊢
    exact Framed.update s (fun done => done) identities (keepsChannels_refl _) rfl (.inr rfl) (.inl rfl)
  | accept alive =>
    unfold Adapter.accept
    split
    · next handle holds =>
      exact ⟨rfl, fun done => done, le_rfl, List.prefix_refl _, keepsChannels_refl _, .inl rfl,
        fun moved _ => moved, ⟨[], (List.append_nil _).symm, fun _ mem => by cases mem⟩,
        .accepted handle holds rfl rfl rfl, .keep rfl fun _ waiting => .inl waiting⟩
    · exact .refl s
  | close alive =>
    obtain ⟨crashed, closed⟩ := s.close_eq
    rw [closed]
    exact Framed.update s (fun _ => rfl) rfl (keepsChannels_refl _) rfl (.inr rfl) (.inl rfl)

end Moves

section Handing

/-- The peers handed to the host: those `Accept` returned, then the one an `OnOpen` handler
waits to send. -/
def handed (s : Adapter Raw) : List PeerHandle := s.accepted ++ (handing s.peerLock).toList

/-- A peer names a channel of `s` whose `OnOpen` handler has run: its channel id is the
channel's label, and its peer id the remote id of the channel's connection. -/
def Names (s : Adapter Raw) (handle : PeerHandle) : Prop :=
  ∃ d c, s.channels[handle.channel]? = some d ∧ d.wrapped = true ∧ d.label = handle.channelId ∧
    s.conns[d.conn]? = some c ∧ c.remote = handle.peerId

theorem Names.grow {s t : Adapter Raw} {handle : PeerHandle} (named : s.Names handle)
    (framed : Framed s t) : t.Names handle := by
  obtain ⟨d, c, found, wrapped, label, owner, remote⟩ := named
  obtain ⟨d', found', conn, label', wrapped'⟩ := framed.channels _ d found
  obtain ⟨c', owner', same⟩ := identity_of_grown framed.conns owner
  exact ⟨d', c', found', wrapped' wrapped, label'.trans label, conn ▸ owner',
    (congrArg Prod.fst same).trans remote⟩

/-- The peers handed to the host between moves: each names a channel whose `OnOpen` handler
has run, no channel is handed twice, and the entry of the peer a handler waits to send holds
its channel under its channel id. -/
structure Handing (s : Adapter Raw) : Prop where
  named : ∀ handle ∈ s.handed, s.Names handle
  once : (s.handed.map PeerHandle.channel).Nodup
  recorded : ∀ handle, handing s.peerLock = some handle →
    ∃ entry, s.peers.lookup handle.peerId = some entry ∧
      entry.channels.lookup handle.channelId = some handle.channel

theorem handing_newAdapter (config : Option AdapterConfig) : (newAdapter config : Adapter Raw).Handing where
  named _ mem := by simp [handed, newAdapter, handing] at mem
  once := by simp [handed, newAdapter, handing]
  recorded _ holds := by simp [newAdapter, handing] at holds

/-- A handler hands the host a channel no peer handed before names: the channel was not yet
wrapped, and every handed peer names a wrapped channel. -/
theorem Handing.fresh {s : Adapter Raw} (inv : s.Handing) {channel : Nat} {d : Channel}
    (found : s.channels[channel]? = some d) (unwrapped : d.wrapped = false) :
    channel ∉ s.handed.map PeerHandle.channel := by
  intro mem
  obtain ⟨handle, handed, rfl⟩ := List.mem_map.mp mem
  obtain ⟨d', -, found', wrapped, -⟩ := inv.named handle handed
  rw [found] at found'
  cases found'
  rw [unwrapped] at wrapped
  cases wrapped

/-- **Every move keeps the peers handed to the host named, distinct and recorded.** -/
theorem Handing.step {s t : Adapter Raw} (inv : s.Handing) (framed : Framed s t) : t.Handing := by
  cases framed.handover with
  | keep held same free =>
    have handed : t.handed = s.handed := by unfold handed; rw [held, same]
    refine ⟨fun handle mem => (inv.named handle (handed ▸ mem)).grow framed, handed ▸ inv.once,
      fun handle waiting => ?_⟩
    rw [held] at waiting
    rcases free with idle | peers
    · rw [idle] at waiting; cases waiting
    · rw [peers]; exact inv.recorded handle waiting
  | opened channel d c entry free found unwrapped owner wrapped registered recorded holds same =>
    have before : s.handed = s.accepted := by simp [handed, free, handing]
    have handed : t.handed = s.handed ++ [⟨c.remote, d.label, channel⟩] := by
      simp [handed, holds, same, free, handing]
    obtain ⟨d', found', conn, label, -⟩ := framed.channels channel d found
    obtain ⟨c', owner', remote⟩ := identity_of_grown framed.conns owner
    have named : t.Names ⟨c.remote, d.label, channel⟩ :=
      ⟨d', c', found', by simpa [found'] using wrapped, label, conn ▸ owner', congrArg Prod.fst remote⟩
    refine ⟨fun handle mem => ?_, ?_, fun handle waiting => ?_⟩
    · rw [handed, List.mem_append, List.mem_singleton] at mem
      rcases mem with old | rfl
      exacts [(inv.named handle old).grow framed, named]
    · rw [handed, List.map_append, List.map_singleton]
      exact inv.once.append (List.nodup_singleton _) fun _ old new =>
        inv.fresh found unwrapped (by rwa [List.mem_singleton.mp new] at old)
    · rw [holds] at waiting
      cases waiting
      exact ⟨entry, registered, recorded⟩
  | accepted handle holds released more _ =>
    have handed : t.handed = s.handed := by
      rw [handed, handed, released, more, holds]; simp [handing]
    refine ⟨fun handle mem => (inv.named handle (handed ▸ mem)).grow framed, handed ▸ inv.once,
      fun handle waiting => ?_⟩
    rw [released] at waiting
    cases waiting

theorem handing_reachable {s : Adapter Raw} (reachable : Reachable codec s) : s.Handing :=
  reachable.induction handing_newAdapter fun s action inv => inv.step (step_moves codec s action).framed

end Handing

section Sessions

/-- The session ids between moves: with an id configured, every session has it; without
one, each session has a UUID minted from a draw of its own, before the current one. -/
structure Minted (s : Adapter Raw) : Prop where
  configured : trimSpace s.config.id ≠ "" → ∀ id ∈ s.sessions, id = s.config.id
  minted : trimSpace s.config.id = "" → ∃ ns : List Nat, ns.Nodup ∧ (∀ n ∈ ns, n < s.uuids) ∧
    s.sessions = ns.map uuidString

theorem minted_newAdapter (config : Option AdapterConfig) : (newAdapter config : Adapter Raw).Minted where
  configured _ _ mem := by simp [newAdapter] at mem
  minted _ := ⟨[], List.nodup_nil, by simp, rfl⟩

/-- **Every move keeps each session's id its own.** A dial mints the current UUID, which is
above every one drawn before. -/
theorem Minted.step {s t : Adapter Raw} (inv : s.Minted) (framed : Framed s t) : t.Minted := by
  obtain ⟨configured, minted⟩ := inv
  rw [← framed.config] at configured minted
  rcases framed.sessions with same | ⟨-, -, -, grown, counted⟩
  · refine ⟨fun set name mem => configured set name (same ▸ mem), fun blank => ?_⟩
    obtain ⟨ns, distinct, drawn, sessions⟩ := minted blank
    exact ⟨ns, distinct, fun n mem => lt_of_lt_of_le (drawn n mem) framed.uuids, same.trans sessions⟩
  · rw [← framed.config] at grown counted
    refine ⟨fun set name mem => ?_, fun blank => ?_⟩
    · rw [grown, if_neg set, List.mem_append, List.mem_singleton] at mem
      exact mem.elim (configured set name) fun fresh => fresh
    · obtain ⟨ns, distinct, drawn, sessions⟩ := minted blank
      rw [if_pos blank] at grown counted
      refine ⟨ns ++ [s.uuids], distinct.append (List.nodup_singleton _) fun n old new =>
        absurd (drawn n old) (by rw [List.mem_singleton.mp new]; exact lt_irrefl _), fun n mem => ?_,
        by rw [grown, sessions, List.map_append, List.map_singleton]⟩
      rw [List.mem_append, List.mem_singleton] at mem
      rcases mem with old | rfl
      · exact counted ▸ Nat.lt_succ_of_lt (drawn n old)
      · exact counted ▸ Nat.lt_succ_self _

theorem minted_reachable {s : Adapter Raw} (reachable : Reachable codec s) : s.Minted :=
  reachable.induction minted_newAdapter fun s action inv => inv.step (step_moves codec s action).framed

/-- A move after `Close` starts no session. -/
theorem Framed.closed {s t : Adapter Raw} (framed : Framed s t) (done : s.done = true) :
    t.done = true ∧ t.sessions = s.sessions := by
  refine ⟨framed.done done, ?_⟩
  rcases framed.sessions with same | ⟨live, -⟩
  · exact same
  · rw [done] at live; cases live

/-- The sessions whose introductions have been spawned, in the order they were. -/
def introductions (s : Adapter Raw) : List Nat :=
  (s.spawned.filter fun p => decide (p.source = .introduction)).map Post.session

/-- A move spawns no introduction, or the current session's, as `publish` does. -/
theorem Framed.introductions {s t : Adapter Raw} (framed : Framed s t) :
    t.introductions = s.introductions ∨ t.introductions = s.introductions ++ [s.session] ∧
      s.loop = .publishing ∧ t.loop = .selecting ∧ t.sessions = s.sessions := by
  obtain ⟨posts, spawned, only⟩ := framed.spawned
  unfold Adapter.introductions
  rw [spawned, List.filter_append, List.map_append]
  by_cases introduced : ∃ p ∈ posts, p.source = .introduction
  · obtain ⟨p, mem, source⟩ := introduced
    obtain ⟨rfl, publishing, selecting, current, sessions, _⟩ := only p mem source
    exact .inr ⟨by simp [source, current], publishing, selecting, sessions⟩
  · refine .inl ?_
    rw [List.filter_eq_nil_iff.mpr fun p mem source => introduced ⟨p, mem, of_decide_eq_true source⟩]
    exact List.append_nil _

/-- The introductions between moves: no session has two, none is of a session after the
current one, and while the loop is about to publish, none is of the current session. -/
structure Introductions (s : Adapter Raw) : Prop where
  once : s.introductions.Nodup
  current : ∀ k ∈ s.introductions, k ≤ s.session
  publishing : s.loop = .publishing → ∀ k ∈ s.introductions, k < s.session

theorem introductions_newAdapter (config : Option AdapterConfig) :
    (newAdapter config : Adapter Raw).Introductions where
  once := List.nodup_nil
  current _ mem := by simp [newAdapter, Adapter.introductions] at mem
  publishing _ _ mem := by simp [newAdapter, Adapter.introductions] at mem

/-- **Every move keeps the introductions one per session.** `publish` spawns the current
session's, which none before is of; only a dial moves the loop to `publishing`, with a new
session. -/
theorem Introductions.step {s t : Adapter Raw} (inv : s.Introductions) (framed : Framed s t) :
    t.Introductions := by
  have later := framed.session_le
  rcases framed.introductions with same | ⟨grown, publishing, selecting, sessions⟩
  · refine ⟨same ▸ inv.once, fun k mem => (inv.current k (same ▸ mem)).trans later, fun moved k mem => ?_⟩
    rw [same] at mem
    rcases framed.sessions with kept | ⟨-, -, -, grown', -⟩
    · have before := inv.publishing (framed.publishing moved kept) k mem
      have current : t.session = s.session := congrArg List.length kept
      omega
    · have older := inv.current k mem
      have current : t.session = s.session + 1 := by
        unfold session; rw [grown', List.length_append, List.length_singleton]
      omega
  · have current : t.session = s.session := congrArg List.length sessions
    refine ⟨?_, fun k mem => ?_, fun moved => absurd (moved.symm.trans selecting) (by nofun)⟩
    · rw [grown]
      exact inv.once.append (List.nodup_singleton _) fun k old new =>
        absurd (inv.publishing publishing k old) (by rw [List.mem_singleton.mp new]; exact lt_irrefl _)
    · rw [grown, List.mem_append, List.mem_singleton] at mem
      rcases mem with old | rfl
      exacts [(inv.current k old).trans later, current.ge]

theorem introductions_reachable {s : Adapter Raw} (reachable : Reachable codec s) : s.Introductions :=
  reachable.induction introductions_newAdapter fun s action inv =>
    inv.step (step_moves codec s action).framed

end Sessions

section Descriptions

/-- The offers and answers posted are of connections the adapter has created. -/
theorem ConnInvariant.described {s : Adapter Raw} (inv : s.ConnInvariant) {conn : Nat}
    (posted : conn ∈ s.descriptions) : conn < s.conns.length := by
  obtain ⟨p, spawned, described⟩ := List.mem_filterMap.mp posted
  obtain ⟨c, found, -⟩ := inv.posts p spawned conn (Source.conn_of_description described)
  exact (List.getElem?_eq_some_iff.mp found).1

/-- The offers and answers between moves: no connection's is posted twice, and none yet of
the connection whose entry the loop waits to register. -/
structure Posted (s : Adapter Raw) : Prop where
  once : s.descriptions.Nodup
  pending : ∀ conn, s.loop.waitsOn = some conn → conn ∉ s.descriptions

theorem posted_newAdapter (config : Option AdapterConfig) : (newAdapter config : Adapter Raw).Posted :=
  ⟨List.nodup_nil, fun _ _ => List.not_mem_nil _⟩

/-- **Every move keeps each connection's offer or answer posted at most once.** A move posts
only the one of the connection the loop waited on, not posted yet; and the loop waits next
on the connection it creates, which no post names. -/
theorem Posted.step {s t : Adapter Raw} (inv : s.Posted) (conns : s.ConnInvariant) (framed : Framed s t) :
    t.Posted := by
  cases framed.posting with
  | keep same waits =>
    refine ⟨same ▸ inv.once, fun conn waiting => ?_⟩
    rw [same]
    rcases waits conn waiting with before | created
    · exact inv.pending conn before
    · exact fun posted => absurd (conns.described posted) (by omega)
  | post conn waited idle more _ =>
    refine ⟨?_, fun _ waiting => absurd (idle.symm.trans waiting) nofun⟩
    rw [more]
    exact inv.once.append (List.nodup_singleton _) fun k old new =>
      inv.pending conn waited (List.mem_singleton.mp new ▸ old)

theorem posted_reachable {s : Adapter Raw} (reachable : Reachable codec s) : s.Posted :=
  (Reachable.induction (P := fun s => Reachable codec s ∧ s.Posted)
    (fun config => ⟨⟨config, [], rfl⟩, posted_newAdapter config⟩)
    (fun s action ⟨reached, inv⟩ => ⟨reached.extend [action],
      inv.step (connInvariant_reachable codec reached).1 (step_moves codec s action).framed⟩) reachable).2

end Descriptions

section Properties

/-- **`Accept` hands each channel over once, as the peer it belongs to.** In every reachable
state, the peers the host has accepted name distinct channels, each one whose `OnOpen`
handler has run, by the channel's label and the remote id of its connection. -/
theorem accepted_once {s : Adapter Raw} (reachable : Reachable codec s) :
    (s.accepted.map PeerHandle.channel).Nodup ∧ ∀ handle ∈ s.accepted, s.Names handle := by
  have inv := handing_reachable reachable
  exact ⟨inv.once.sublist ((List.sublist_append_left _ _).map _),
    fun handle mem => inv.named handle (List.mem_append_left _ mem)⟩

/-- The primary channel of the connection to `"B"` opens: its `OnOpen` handler takes the
lock. -/
def openedB : List (Action Plain) := introducedB ++ [.channelOpen 0]

theorem openedB_accepted :
    (replay (openedB ++ [.accept])).accepted = [⟨"B", "primary", 0⟩] ∧
      ((replay (openedB ++ [.accept])).accepted.map PeerHandle.channel).Nodup ∧
      ∀ handle ∈ (replay (openedB ++ [.accept])).accepted, (replay (openedB ++ [.accept])).Names handle :=
  ⟨rfl, accepted_once ⟨_, _, rfl⟩⟩

/-- **While an `OnOpen` handler waits on `a.peerChan`, the registry holds its channel.** In
every reachable state, the peer a handler holding `a.peerLock` waits to send names a channel
whose `OnOpen` handler has run, the host has not accepted that channel before, and the entry
registered for the peer's id holds the channel under the peer's channel id. -/
theorem handing_registered {s : Adapter Raw} (reachable : Reachable codec s) {handle : PeerHandle}
    (holds : s.peerLock = some (.onOpen handle)) :
    s.Names handle ∧ handle.channel ∉ s.accepted.map PeerHandle.channel ∧
      ∃ entry, s.peers.lookup handle.peerId = some entry ∧
        entry.channels.lookup handle.channelId = some handle.channel := by
  have inv := handing_reachable reachable
  have handed : s.handed = s.accepted ++ [handle] := by rw [handed, holds]; rfl
  have once := inv.once
  rw [handed, List.map_append, List.map_singleton, List.nodup_append] at once
  exact ⟨inv.named handle (by rw [handed]; exact List.mem_append_right _ (List.mem_singleton_self _)),
    fun mem => once.2.2 mem (List.mem_singleton_self _), inv.recorded handle (by rw [holds]; rfl)⟩

theorem openedB_registered :
    (replay openedB).peerLock = some (.onOpen ⟨"B", "primary", 0⟩) ∧
      (replay openedB).Names ⟨"B", "primary", 0⟩ ∧ 0 ∉ (replay openedB).accepted.map PeerHandle.channel ∧
      ∃ entry, (replay openedB).peers.lookup "B" = some entry ∧ entry.channels.lookup "primary" = some 0 :=
  have holds : (replay openedB).peerLock = some (.onOpen ⟨"B", "primary", 0⟩) := rfl
  ⟨holds, handing_registered ⟨_, _, rfl⟩ holds⟩

variable (codec) in
/-- **No move changes the registry while `a.peerLock` is held.** In every state in which the
lock is held, by an `OnOpen` handler waiting on `a.peerChan` or by the session loop after a
panic inside a critical section, every move of every goroutine leaves the registry as it
was: each handler that writes `a.peers` takes the lock first. -/
theorem registry_locked (s : Adapter Raw) (held : s.peerLock ≠ none) (action : Action Raw) :
    (step codec s action).peers = s.peers := by
  cases (step_moves codec s action).framed.handover with
  | keep _ _ free => exact free.resolve_left held
  | opened _ _ _ _ free => exact absurd free held
  | accepted _ _ _ _ same => exact same

/-- B's connection reports `Disconnected` while the `OnOpen` handler of its primary channel
waits on `a.peerChan`. -/
theorem openedB_locked :
    (replay openedB).peerLock ≠ none ∧
      (step Codec.plain (replay openedB) (.disconnected 0 {})).peers = (replay openedB).peers :=
  have holds : (replay openedB).peerLock = some (.onOpen ⟨"B", "primary", 0⟩) := rfl
  have held : (replay openedB).peerLock ≠ none := holds ▸ Option.some_ne_none _
  ⟨held, registry_locked Codec.plain _ held _⟩

/-- **Every session id is the configured one, or a UUID of its own.** In every reachable
state, with an id configured every session the loop started has it; with none, the
sessions' ids are UUIDs minted from distinct draws. -/
theorem sessions_minted {s : Adapter Raw} (reachable : Reachable codec s) :
    (trimSpace s.config.id ≠ "" → ∀ name ∈ s.sessions, name = s.config.id) ∧
      (trimSpace s.config.id = "" → ∃ ns : List Nat, ns.Nodup ∧ s.sessions = ns.map uuidString) := by
  obtain ⟨configured, minted⟩ := minted_reachable reachable
  refine ⟨configured, fun blank => ?_⟩
  obtain ⟨ns, distinct, -, sessions⟩ := minted blank
  exact ⟨ns, distinct, sessions⟩

/-- Two sessions without a configured id: the reader fails, the loop tears the first session
down, resets the registry and dials again. -/
def redialed : List (Action Plain) :=
  opening ++ [.readError, .receiveError none, .acquire {}, .acquire {}] ++ opening

theorem redialed_minted :
    (run Codec.plain (newAdapter none) redialed).sessions = [uuidString 0, uuidString 1] ∧
      (trimSpace (run Codec.plain (newAdapter none) redialed).config.id ≠ "" →
        ∀ name ∈ (run Codec.plain (newAdapter none) redialed).sessions,
          name = (run Codec.plain (newAdapter none) redialed).config.id) ∧
      (trimSpace (run Codec.plain (newAdapter none) redialed).config.id = "" →
        ∃ ns : List Nat, ns.Nodup ∧ (run Codec.plain (newAdapter none) redialed).sessions = ns.map uuidString) :=
  ⟨rfl, sessions_minted ⟨_, _, rfl⟩⟩

/-- **No session introduces itself twice.** In every reachable state, the introductions
spawned are of distinct sessions. -/
theorem introduced_once {s : Adapter Raw} (reachable : Reachable codec s) : s.introductions.Nodup :=
  (introductions_reachable reachable).once

theorem redialed_introduced :
    (run Codec.plain (newAdapter none) redialed).introductions = [1, 2] ∧
      (run Codec.plain (newAdapter none) redialed).introductions.Nodup :=
  ⟨rfl, introduced_once ⟨_, _, rfl⟩⟩

/-- **Each connection posts its offer or its answer at most once.** In every reachable state,
the offers and answers spawned name distinct connections: the introduction branch posts a
connection's offer once it has registered its entry, the offer branch its answer, and the
next frame's branch creates a new connection. -/
theorem described_once {s : Adapter Raw} (reachable : Reachable codec s) : s.descriptions.Nodup :=
  (posted_reachable reachable).once

/-- A, introduced to B and then to C, offers on each connection once. -/
theorem introducedBC_described :
    (replay introducedBC).descriptions = [0, 1] ∧ (replay introducedBC).descriptions.Nodup :=
  ⟨rfl, described_once ⟨_, _, rfl⟩⟩

end Properties

end Adapter

end Weron
