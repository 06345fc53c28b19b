import Weron.Handshake
import Weron.Teardown

/-!
# Remote candidates

The candidate branch hands a remote candidate to the queue of the sender's entry: its
critical section looks the entry up and spawns a goroutine that sends the candidate on the
entry's queue (716-741). A drain goroutine, started by the offer branch once it has set the
remote description of its connection (643-685) and by the answer branch once it has set the
answer on the connection of the sender's entry (785-801), receives from one queue and passes
what it receives to `AddICECandidate` on that entry's connection.

`queued` and `applied` are these two events of a step, and `trace` lists them over a run.
Every queue belongs to the connection of the entry it was made for (`Feeds`), and the calls
made so far, followed by the candidates still waiting on a queue, are among the candidates
handed on; and what `AddICECandidate` has taken on each connection (`Conn.added`) is among
the calls made on it (`AddedFrom`, `Accounted`). Hence `candidates_applied`: over every run,
each call passes a candidate handed to the queue of its connection's entry, no candidate
handed on is passed twice, and the connection's remote description is set when the call is
made; and the candidates each connection holds are, counted with multiplicity, among those handed
to a queue of that connection, and are held only once its remote description is set.
-/

namespace Weron

/-- A candidate on its way to `AddICECandidate`: the connection of the entry whose queue it
was handed to, that queue, and the candidate. -/
structure Handoff (Raw : Type) where
  conn : Nat
  queue : Nat
  candidate : Raw
  deriving DecidableEq

namespace Adapter

variable {Raw : Type} {codec : Codec Raw}

/-- `SetRemoteDescription` has succeeded on connection `conn`: its remote description is
set. -/
def Described (s : Adapter Raw) (conn : Nat) : Prop :=
  ∃ c, s.conns[conn]? = some c ∧ c.remoteDescription.isSome

/-- The candidate a step hands to a queue: the candidate branch's critical section finds the
sender's entry with its queue open, and the goroutine it spawns sends the candidate on that
queue (716-741). -/
def queued (s : Adapter Raw) : Action Raw → List (Handoff Raw)
  | .acquire _ =>
    match s.crashed, s.peerLock, s.loop with
    | false, none, .locking (.enqueue candidate) =>
      match s.peers.lookup candidate.sender with
      | some entry =>
        if entry.candidates ∈ s.closedQueues then []
        else [⟨entry.conn, entry.candidates, candidate.payload⟩]
      | none => []
    | _, _, _ => []
  | _ => []

/-- The `AddICECandidate` call a step makes: a drain goroutine that has not failed receives a
candidate enqueued on its queue and passes it to its connection (673-685 and 789-801). -/
def applied (s : Adapter Raw) : Action Raw → List (Handoff Raw)
  | .drain k j _ =>
    match s.crashed, s.drains[k]?, s.enqueues[j]? with
    | false, some d, some e =>
      if d.failed || e.queue != d.queue then [] else [⟨d.conn, d.queue, e.candidate⟩]
    | _, _, _ => []
  | _ => []

variable (codec) in
/-- The events of a run, in order. -/
def trace {α : Type} (events : Adapter Raw → Action Raw → List α) (s : Adapter Raw) :
    List (Action Raw) → List α
  | [] => []
  | action :: actions => events s action ++ trace events (step codec s action) actions

/-- The candidates enqueued and not yet received, each with the connection `owner` gives
their queue. -/
def pending (s : Adapter Raw) (owner : Nat → Nat) : List (Handoff Raw) :=
  s.enqueues.map fun e => ⟨owner e.queue, e.queue, e.candidate⟩

section Prunes

/-- `t` keeps some of the enqueuers and drains of `s`, and adds none. -/
structure Prunes (s t : Adapter Raw) : Prop where
  enqueues : t.enqueues.Sublist s.enqueues
  drains : t.drains.Sublist s.drains

theorem Prunes.refl (s : Adapter Raw) : Prunes s s := ⟨.refl _, .refl _⟩

theorem Prunes.trans {s u t : Adapter Raw} (first : Prunes s u) (second : Prunes u t) :
    Prunes s t :=
  ⟨second.enqueues.trans first.enqueues, second.drains.trans first.drains⟩

/-- Pruning from a state with the same enqueuers and drains. -/
theorem Prunes.of_eq {s u t : Adapter Raw} (pruned : Prunes u t) (enqueues : u.enqueues = s.enqueues)
    (drains : u.drains = s.drains) : Prunes s t :=
  ⟨enqueues ▸ pruned.enqueues, drains ▸ pruned.drains⟩

theorem Prunes.same {s t : Adapter Raw} (enqueues : t.enqueues = s.enqueues)
    (drains : t.drains = s.drains) : Prunes s t :=
  ⟨enqueues ▸ .refl _, drains ▸ .refl _⟩

/-- A chain continues from where its first part returned, and stops where it panicked. -/
theorem Prunes.bind {s : Adapter Raw} {o : Outcome Raw} {f : Adapter Raw → Outcome Raw}
    (before : Prunes s o.state) (rest : ∀ u, o = .ok u → Prunes u (f u).state) :
    Prunes s (Outcome.state (o.bind f)) := by
  cases o with
  | error u => exact before
  | ok u => exact before.trans (rest u rfl)

theorem closeChannel_prunes (s : Adapter Raw) (replies : Replies) (channel : Nat) :
    Prunes s (s.closeChannel replies channel).state := by
  unfold closeChannel; split <;> exact .same rfl rfl

theorem closeConn_prunes (s : Adapter Raw) (replies : Replies) (conn : Nat) :
    Prunes s (s.closeConn replies conn).state := by
  unfold closeConn; split <;> exact .same rfl rfl

theorem closeQueue_prunes (s : Adapter Raw) (queue : Nat) :
    Prunes s (s.closeQueue queue).state := by
  unfold closeQueue
  split
  · exact .refl s
  · exact ⟨List.filter_sublist _, List.filter_sublist _⟩

theorem closeChannels_prunes (s : Adapter Raw) (replies : Replies)
    (channels : List (Σ _ : String, Nat)) : Prunes s (s.closeChannels replies channels).state := by
  induction channels generalizing s with
  | nil => exact .refl s
  | cons channel rest ih =>
    have first := s.closeChannel_prunes replies channel.2
    unfold closeChannels
    split
    · next u closed => rw [closed] at first; exact first.trans (ih u)
    · next u failed => rw [failed] at first; exact first

theorem retire_prunes (s : Adapter Raw) (replies : Replies) (entry : Peer) :
    Prunes s (s.retire replies entry).state :=
  (s.closeChannels_prunes replies _).bind fun u _ =>
    (u.closeConn_prunes replies _).bind fun v _ => v.closeQueue_prunes _

theorem retireAnswering_prunes (s : Adapter Raw) (replies : Replies) (entry : Peer) :
    Prunes s (s.retireAnswering replies entry).state :=
  (s.closeConn_prunes replies _).bind fun u _ =>
    (u.closeConn_prunes replies _).bind fun v _ => v.closeQueue_prunes _

theorem retireAll_prunes (s : Adapter Raw) (replies : Replies)
    (entries : List (Σ _ : String, Peer)) : Prunes s (s.retireAll replies entries).state := by
  induction entries generalizing s with
  | nil => exact .refl s
  | cons entry rest ih =>
    have first := s.retire_prunes replies entry.2
    unfold retireAll
    split
    · next u retired => rw [retired] at first; exact first.trans (ih u)
    · next u failed => rw [failed] at first; exact first

theorem replace_prunes (s : Adapter Raw) (replies : Replies) (sender : String) (entry : Peer)
    (offer : SessionDescription) : Prunes s (s.replace replies sender entry offer).state := by
  unfold replace
  dsimp only
  refine Prunes.bind ?_ fun u _ => ?_
  · split
    · exact .same rfl rfl
    · exact (retire_prunes _ replies _).of_eq rfl rfl
  · exact .same (by simp [Outcome.state]) (by simp [Outcome.state])

theorem teardown_prunes (s : Adapter Raw) (replies : Replies) :
    Prunes s (s.teardown replies) := by
  unfold teardown
  dsimp only
  split
  · exact .same rfl rfl
  · exact (retireAll_prunes _ replies _).of_eq rfl rfl

theorem disconnected_prunes (s : Adapter Raw) (replies : Replies) (conn : Nat) :
    Prunes s (s.disconnected replies conn).state := by
  unfold disconnected
  repeat' split
  all_goals first
    | exact .refl s
    | exact Prunes.bind (retireAnswering_prunes s replies _) fun u _ => .same rfl rfl
    | exact Prunes.bind (retire_prunes s replies _) fun u _ => .same rfl rfl

theorem channelClose_prunes (s : Adapter Raw) (replies : Replies) (channel : Nat) :
    Prunes s (s.channelClose replies channel).state := by
  unfold channelClose
  dsimp only
  repeat' split
  all_goals first
    | exact .same rfl rfl
    | exact Prunes.bind ((closeChannel_prunes _ replies _).of_eq rfl rfl) fun u _ => .same rfl rfl

end Prunes

section Feeds

/-- What holds of the candidate queues between moves, `owner` giving the connection each
queue was made for. Every drain goroutine feeds a connection whose remote description is set,
from a queue made for that connection. Every registered entry, and the one a replacement
waits to register, pairs a connection the loop created with a queue made for it. The
answering connection the offer branch waits to register has its remote description set. Every
queue a drain or an enqueuer names is one the loop made. -/
structure Feeds (owner : Nat → Nat) (s : Adapter Raw) : Prop where
  drains : ∀ d ∈ s.drains, s.Described d.conn ∧ owner d.queue = d.conn ∧ d.queue < s.queues
  enqueues : ∀ e ∈ s.enqueues, e.queue < s.queues
  registered : ∀ key entry, s.peers.lookup key = some entry →
    entry.conn < s.conns.length ∧ owner entry.candidates = entry.conn
  replacing : ∀ sender entry offer, s.loop = .locking (.replace sender entry offer) →
    entry.conn < s.conns.length ∧ owner entry.candidates = entry.conn
  installing : ∀ sender conn iid answer, s.loop = .locking (.install sender conn iid answer) →
    s.Described conn

theorem feeds_newAdapter (owner : Nat → Nat) (config : Option AdapterConfig) :
    (newAdapter config : Adapter Raw).Feeds owner where
  drains _ mem := by simp [newAdapter] at mem
  enqueues _ mem := by simp [newAdapter] at mem
  registered _ _ found := by simp [newAdapter, AList.lookup_empty] at found
  replacing _ _ _ waiting := by simp [newAdapter] at waiting
  installing _ _ _ _ waiting := by simp [newAdapter] at waiting

/-- Every entry `t` registers, `s` registers under the same key, with the same connection and
queue. -/
def Keeps (s t : Adapter Raw) : Prop :=
  ∀ key entry, t.peers.lookup key = some entry →
    ∃ old, s.peers.lookup key = some old ∧ old.conn = entry.conn ∧ old.candidates = entry.candidates

theorem keeps_of_peers {s t : Adapter Raw} (peers : t.peers = s.peers) : Keeps s t :=
  fun _ entry found => ⟨entry, peers ▸ found, rfl, rfl⟩

/-- Recording or removing a channel in a registered entry keeps its connection and queue. -/
theorem keeps_insert_channels {s t : Adapter Raw} {remote : String} {entry : Peer}
    (registered : s.peers.lookup remote = some entry) (labels : AList fun _ : String => Nat)
    (peers : t.peers = s.peers.insert remote { entry with channels := labels }) : Keeps s t := by
  intro key found present
  rw [peers] at present
  by_cases same : key = remote
  · subst same
    rw [AList.lookup_insert] at present
    cases present
    exact ⟨entry, registered, rfl, rfl⟩
  · rw [AList.lookup_insert_ne same] at present
    exact ⟨found, present, rfl, rfl⟩

theorem keeps_erase {s t : Adapter Raw} {remote : String} (peers : t.peers = s.peers.erase remote) :
    Keeps s t := by
  intro key found present
  rw [peers] at present
  by_cases same : key = remote
  · subst same; simp [AList.lookup_erase] at present
  · rw [AList.lookup_erase_ne same] at present
    exact ⟨found, present, rfl, rfl⟩

/-- Set remote descriptions stay set while connections are only added. -/
theorem Described.of_prefix {s t : Adapter Raw} (grown : s.conns <+: t.conns) {conn : Nat}
    (described : s.Described conn) : t.Described conn :=
  let ⟨c, found, set⟩ := described
  ⟨c, getElem?_of_grown grown found, set⟩

/-- A move that keeps every handshake keeps every set remote description. -/
theorem Described.of_handshakes {s t : Adapter Raw}
    (same : t.conns.map Conn.handshake = s.conns.map Conn.handshake) {conn : Nat}
    (described : s.Described conn) : t.Described conn := by
  obtain ⟨c, found, set⟩ := described
  have kept := congrArg (·[conn]?) same
  simp only [List.getElem?_map, found, Option.map_some'] at kept
  obtain ⟨c', found', handshake⟩ := Option.map_eq_some'.mp kept
  exact ⟨c', found', by rw [show c'.remoteDescription = c.remoteDescription from
    congrArg Prod.snd handshake]; exact set⟩

/-- Setting a remote description keeps every remote description set, and sets the one of the
connection it is called on. -/
theorem described_setRemoteDescription {s : Adapter Raw} {conn other : Nat}
    (description : SessionDescription)
    (described : s.Described other ∨ other = conn ∧ conn < s.conns.length) :
    (s.setRemoteDescription conn description).Described other := by
  unfold Described setRemoteDescription
  simp only [List.getElem?_modify]
  rcases described with ⟨c, found, set⟩ | ⟨rfl, created⟩
  · rw [found]
    by_cases same : conn = other <;> simp [same, set]
  · rw [List.getElem?_eq_getElem created]
    simp

theorem length_of_handshakes {s t : Adapter Raw}
    (handshakes : t.conns.map Conn.handshake = s.conns.map Conn.handshake) :
    t.conns.length = s.conns.length := by
  simpa using congrArg List.length handshakes

/-- **A move that keeps the queues' invariant**: it keeps every handshake, the connection and
queue of every drain and some of the enqueuers, registers no new entry, makes no queue, and
starts waiting for no critical section. -/
theorem Feeds.transfer {owner : Nat → Nat} {s t : Adapter Raw} (feeds : s.Feeds owner)
    (handshakes : t.conns.map Conn.handshake = s.conns.map Conn.handshake)
    (drains : ∀ d ∈ t.drains, ∃ d' ∈ s.drains, d'.conn = d.conn ∧ d'.queue = d.queue)
    (enqueues : t.enqueues ⊆ s.enqueues) (keeps : Keeps s t) (queues : t.queues = s.queues)
    (loop : t.loop = s.loop ∨ t.loop.handling = false) : t.Feeds owner where
  drains d mem := by
    obtain ⟨d', old, conn, queue⟩ := drains d mem
    obtain ⟨set, owned, made⟩ := feeds.drains d' old
    rw [← conn, ← queue, queues]
    exact ⟨set.of_handshakes handshakes, owned, made⟩
  enqueues e mem := queues ▸ feeds.enqueues e (enqueues mem)
  registered key entry found := by
    obtain ⟨old, present, conn, queue⟩ := keeps key entry found
    rw [← conn, ← queue, length_of_handshakes handshakes]
    exact feeds.registered key old present
  replacing sender entry offer waiting := by
    rcases loop with same | idle
    · rw [length_of_handshakes handshakes]
      exact feeds.replacing sender entry offer (same ▸ waiting)
    · rw [waiting] at idle; cases idle
  installing sender conn iid answer waiting := by
    rcases loop with same | idle
    · exact (feeds.installing sender conn iid answer (same ▸ waiting)).of_handshakes handshakes
    · rw [waiting] at idle; cases idle

/-- The invariant reads only the connections, enqueuers, drains, registry and queues, and
whether the loop waits for a critical section. -/
theorem Feeds.same {owner : Nat → Nat} {s t : Adapter Raw} (feeds : s.Feeds owner)
    (conns : t.conns = s.conns) (enqueues : t.enqueues = s.enqueues) (drains : t.drains = s.drains)
    (peers : t.peers = s.peers) (queues : t.queues = s.queues)
    (loop : t.loop = s.loop ∨ t.loop.handling = false) : t.Feeds owner :=
  feeds.transfer (by rw [conns]) (fun d mem => ⟨d, drains ▸ mem, rfl, rfl⟩)
    (fun _ mem => enqueues ▸ mem) (keeps_of_peers peers) queues loop

/-- After a move from `s`, `t` keeps the queues' invariant under an owner that agrees with
`owner` on every queue `s` had made, and keeps some of the enqueuers of `s`. -/
def Follows (owner : Nat → Nat) (s t : Adapter Raw) : Prop :=
  ∃ owner', (∀ q < s.queues, owner' q = owner q) ∧ t.enqueues.Sublist s.enqueues ∧ t.Feeds owner'

theorem Feeds.stays {owner : Nat → Nat} {s : Adapter Raw} (feeds : s.Feeds owner) :
    Follows owner s s :=
  ⟨owner, fun _ _ => rfl, .refl _, feeds⟩

/-- A move that only closes: it keeps every handshake, prunes enqueuers and drains, and
registers no new entry. -/
theorem Feeds.follows {owner : Nat → Nat} {s t : Adapter Raw} (feeds : s.Feeds owner)
    (handshakes : t.conns.map Conn.handshake = s.conns.map Conn.handshake) (pruned : Prunes s t)
    (keeps : Keeps s t) (queues : t.queues = s.queues)
    (loop : t.loop = s.loop ∨ t.loop.handling = false) : Follows owner s t :=
  ⟨owner, fun _ _ => rfl, pruned.enqueues, feeds.transfer handshakes
    (fun d mem => ⟨d, pruned.drains.subset mem, rfl, rfl⟩) pruned.enqueues.subset keeps queues loop⟩

/-- A move that leaves the connections, enqueuers, drains, registry and queues as they are. -/
theorem Feeds.frame {owner : Nat → Nat} {s t : Adapter Raw} (feeds : s.Feeds owner)
    (conns : t.conns = s.conns) (enqueues : t.enqueues = s.enqueues) (drains : t.drains = s.drains)
    (peers : t.peers = s.peers) (queues : t.queues = s.queues)
    (loop : t.loop = s.loop ∨ t.loop.handling = false) : Follows owner s t :=
  ⟨owner, fun _ _ => rfl, enqueues ▸ .refl _, feeds.same conns enqueues drains peers queues loop⟩

theorem Follows.post {owner : Nat → Nat} {s t : Adapter Raw} (follows : Follows owner s t)
    (line : Envelope Raw) (session : Nat) (source : Source) :
    Follows owner s (t.post line session source) := by
  obtain ⟨owner', agree, kept, feeds⟩ := follows
  rw [post_eq]
  exact ⟨owner', agree, kept, feeds.same rfl rfl rfl rfl rfl (.inl rfl)⟩

theorem Follows.resume {owner : Nat → Nat} {s : Adapter Raw} {o : Outcome Raw}
    (follows : Follows owner s o.state) : Follows owner s (resume o) := by
  obtain ⟨owner', agree, kept, feeds⟩ := follows
  rcases resume_cases o with resumed | resumed <;> rw [resumed]
  · exact ⟨owner', agree, kept, feeds⟩
  · exact ⟨owner', agree, kept, feeds.same rfl rfl rfl rfl rfl (.inr rfl)⟩

theorem Follows.crashOnPanic {owner : Nat → Nat} {s : Adapter Raw} {o : Outcome Raw}
    (follows : Follows owner s o.state) : Follows owner s (crashOnPanic o) := by
  obtain ⟨owner', agree, kept, feeds⟩ := follows
  obtain ⟨crashed, panicked⟩ := crashOnPanic_eq o
  rw [panicked]
  exact ⟨owner', agree, kept, feeds.same rfl rfl rfl rfl rfl (.inl rfl)⟩

/-- Handling a frame adds connections after the old ones only, and the answering connection
the offer branch then waits to register has its remote description set. -/
structure Handled.Grows (s : Adapter Raw) (handled : Handled Raw) : Prop where
  conns : s.conns <+: handled.conns
  installing : ∀ sender conn iid answer, handled.loop = .locking (.install sender conn iid answer) →
    ∃ c, handled.conns[conn]? = some c ∧ c.remoteDescription.isSome

theorem Handled.Grows.of_loop {s : Adapter Raw} {handled : Handled Raw}
    (conns : s.conns <+: handled.conns)
    (loop : ∀ sender conn iid answer, handled.loop ≠ .locking (.install sender conn iid answer)) :
    Handled.Grows s handled :=
  ⟨conns, fun sender conn iid answer waiting => absurd waiting (loop sender conn iid answer)⟩

theorem onIntroduction_grows (s : Adapter Raw) (replies : Replies) (introduction : Introduction) :
    Handled.Grows s (s.onIntroduction replies introduction) := by
  unfold onIntroduction
  dsimp only
  split_ifs <;> exact .of_loop (by simp [modify_concat_length]) fun _ _ _ _ => by simp

theorem onOffer_grows (s : Adapter Raw) (replies : Replies) (offer : Exchange Raw) :
    Handled.Grows s (s.onOffer codec replies offer) := by
  unfold onOffer
  by_cases other : offer.recipient ≠ s.id
  · rw [if_pos other]; exact .of_loop (List.prefix_refl _) fun _ _ _ _ => by simp [skip]
  rw [if_neg other]
  dsimp only
  by_cases refused : (!replies.newPeerConnection) = true
  · rw [if_pos refused]; exact .of_loop (List.prefix_refl _) fun _ _ _ _ => by simp
  rw [if_neg refused]
  rcases codec.unmarshalDescription offer.payload with _ | description
  · exact .of_loop (List.prefix_append _ _) fun _ _ _ _ => by simp
  dsimp only
  split_ifs
  · exact .of_loop (List.prefix_append _ _) fun _ _ _ _ => by simp
  · exact .of_loop (by rw [modify_concat_length]; exact List.prefix_append _ _) fun _ _ _ _ => by simp
  · refine ⟨by rw [modify_concat_length, modify_concat_length]; exact List.prefix_append _ _,
      fun sender conn iid answer waiting => ?_⟩
    cases waiting
    rw [modify_concat_length, modify_concat_length]
    simp

theorem dispatch_grows (s : Adapter Raw) (replies : Replies) (input : Raw) :
    Handled.Grows s (s.dispatch codec replies input) := by
  have skipped : Handled.Grows s s.skip := .of_loop (List.prefix_refl _) fun _ _ _ _ => by simp [skip]
  refine s.dispatch_cases codec replies input skipped (s.onIntroduction_grows replies)
    (s.onOffer_grows replies) (fun candidate => ?_) (fun answer => ?_)
  · unfold onCandidate; split
    exacts [skipped, .of_loop (List.prefix_refl _) fun _ _ _ _ => by simp [skip]]
  · unfold onAnswer; split
    exacts [skipped, .of_loop (List.prefix_refl _) fun _ _ _ _ => by simp [skip]]


/-- The entry a replacement waits to register holds the queue just made, for a connection
that exists. -/
theorem Handled.Valid.replacing {s : Adapter Raw} {handled : Handled Raw}
    (valid : Handled.Valid s handled) {sender : String} {entry : Peer} {offer : SessionDescription}
    (waiting : handled.loop = .locking (.replace sender entry offer)) :
    entry.candidates = s.queues ∧ entry.conn < handled.conns.length := by
  rcases valid.loop with other | other | ⟨_, entry', _, replacing, made, -, created⟩ |
    ⟨_, _, _, _, other, -⟩ | ⟨_, other⟩ | ⟨_, other⟩
  all_goals first | (rw [waiting] at other; cases other) | skip
  rw [waiting] at replacing
  cases replacing
  exact ⟨made, by simpa using (List.getElem?_eq_some_iff.mp created).1⟩

/-- Handling a frame keeps the invariant, under an owner that gives the queue it may make to
the connection of the entry a replacement then waits to register. -/
theorem Feeds.withHandled {owner : Nat → Nat} {s : Adapter Raw} {handled : Handled Raw}
    (feeds : s.Feeds owner) (registry : s.RegistryInvariant) (valid : Handled.Valid s handled)
    (grows : Handled.Grows s handled) (owner' : Nat → Nat) (agree : ∀ q < s.queues, owner' q = owner q)
    (replacing : ∀ sender entry offer, handled.loop = .locking (.replace sender entry offer) →
      entry.conn < handled.conns.length ∧ owner' entry.candidates = entry.conn) :
    Follows owner s (s.withHandled handled) := by
  have grown : s.queues ≤ handled.queues := by rcases valid.queues with same | more <;> omega
  refine ⟨owner', agree, .refl _, fun d mem => ?_,
    fun e mem => lt_of_lt_of_le (feeds.enqueues e mem) grown,
    fun key entry (found : s.peers.lookup key = some entry) => ?_, replacing, grows.installing⟩
  · obtain ⟨set, owned, made⟩ := feeds.drains d mem
    exact ⟨set.of_prefix grows.conns, (agree _ made).trans owned, lt_of_lt_of_le made grown⟩
  · obtain ⟨created, owned⟩ := feeds.registered key entry found
    exact ⟨lt_of_lt_of_le created grows.conns.length_le,
      (agree _ (registry.made key _ (by simp [queueOf, found]))).trans owned⟩

/-- An entry of a registry after an insertion is the one inserted or one it held. -/
theorem lookup_insert_cases {peers : AList fun _ : String => Peer} {sender key : String}
    {entry found : Peer} (present : (peers.insert sender entry).lookup key = some found) :
    found = entry ∨ peers.lookup key = some found := by
  by_cases same : key = sender
  · subst same
    rw [AList.lookup_insert] at present
    exact .inl (Option.some.inj present).symm
  · rw [AList.lookup_insert_ne same] at present
    exact .inr present

/-- Registering an entry whose queue belongs to its connection, and going back to the
`select`. -/
theorem Feeds.register {owner : Nat → Nat} {s : Adapter Raw} (feeds : s.Feeds owner)
    {sender : String} {entry : Peer} (created : entry.conn < s.conns.length)
    (owned : owner entry.candidates = entry.conn) :
    { s with peers := s.peers.insert sender entry, peerLock := none, loop := .selecting }.Feeds
      owner where
  drains := feeds.drains
  enqueues := feeds.enqueues
  registered key found present := by
    rcases lookup_insert_cases present with rfl | old
    · exact ⟨created, owned⟩
    · exact feeds.registered key found old
  replacing _ _ _ waiting := by cases waiting
  installing _ _ _ _ waiting := by cases waiting

/-- The introduction branch's critical section keeps the invariant: it registers the entry it
waited to register, or panics having only closed. -/
theorem Feeds.replace {owner : Nat → Nat} {s : Adapter Raw} (feeds : s.Feeds owner)
    {sender : String} {entry : Peer} {offer : SessionDescription}
    (locking : s.loop = .locking (.replace sender entry offer)) (replies : Replies) :
    Follows owner s (resume (s.replace replies sender entry offer)) := by
  obtain ⟨created, owned⟩ := feeds.replacing sender entry offer locking
  have pruned := s.replace_prunes replies sender entry offer
  obtain ⟨u, closes, ⟨-, -, -, failed⟩ | returned⟩ := s.replace_cases replies sender entry offer
  · rw [failed] at pruned ⊢
    exact Follows.resume (feeds.follows closes.handshakes pruned (keeps_of_peers closes.peers)
      closes.queues (.inl closes.loop))
  · rw [returned, post_eq] at pruned
    rw [returned]
    have held : u.Feeds owner := feeds.transfer closes.handshakes
      (fun d mem => ⟨d, pruned.drains.subset mem, rfl, rfl⟩) pruned.enqueues.subset
      (keeps_of_peers closes.peers) closes.queues (.inl closes.loop)
    have registered : Follows owner s
        { u with peers := u.peers.insert sender entry, peerLock := none, loop := .selecting } :=
      ⟨owner, fun _ _ => rfl, pruned.enqueues,
        held.register (length_of_handshakes closes.handshakes ▸ created) owned⟩
    exact registered.post _ _ _

/-- The offer branch's critical section keeps the invariant, under an owner that gives the
queue it makes to the answering connection: that connection's remote description is set,
and both the drain it starts and the entry it registers name that queue. -/
theorem Feeds.install {owner : Nat → Nat} {s : Adapter Raw} (feeds : s.Feeds owner)
    (registry : s.RegistryInvariant) {sender : String} {conn iid : Nat}
    {answer : SessionDescription} (locking : s.loop = .locking (.install sender conn iid answer)) :
    Follows owner s (s.install sender conn iid answer) := by
  have described := feeds.installing sender conn iid answer locking
  have agree : ∀ q < s.queues, Function.update owner s.queues conn q = owner q :=
    fun q made => Function.update_noteq made.ne _ _
  unfold Adapter.install
  refine Follows.post ?_ _ _ _
  refine ⟨_, agree, .refl _, fun d mem => ?_,
    fun e mem => Nat.lt_succ_of_lt (feeds.enqueues e mem), fun key entry found => ?_,
    fun _ _ _ waiting => (by cases waiting), fun _ _ _ _ waiting => by cases waiting⟩
  · rcases List.mem_append.mp mem with old | new
    · obtain ⟨set, owned, made⟩ := feeds.drains d old
      exact ⟨set, (agree _ made).trans owned, Nat.lt_succ_of_lt made⟩
    · obtain rfl := List.mem_singleton.mp new
      exact ⟨described, Function.update_same _ _ _, Nat.lt_succ_self _⟩
  · rcases lookup_insert_cases found with rfl | old
    · obtain ⟨c, present, -⟩ := described
      exact ⟨(List.getElem?_eq_some_iff.mp present).1, Function.update_same _ _ _⟩
    · obtain ⟨created, owned⟩ := feeds.registered key entry old
      exact ⟨created, (agree _ (registry.made key _ (by simp [queueOf, old]))).trans owned⟩

variable (codec) in
/-- The answer branch's lookup returns to the `select` having changed nothing else, or
panics there; or it sets the remote description of the sender's connection and drains the
sender's queue into it. -/
theorem lookup_drains (s : Adapter Raw) (replies : Replies) (answer : Exchange Raw) :
    (s.lookup codec replies answer).state = { s with loop := .selecting } ∨
      ∃ entry description, s.peers.lookup answer.sender = some entry ∧
        s.lookup codec replies answer = .ok { { s with loop := .selecting }.setRemoteDescription
          entry.conn description with
          drains := s.drains ++ [⟨entry.conn, entry.candidates, s.session, false⟩] } := by
  unfold lookup
  dsimp only
  split
  · exact .inl rfl
  · next entry registered =>
    split
    · exact .inl rfl
    · next description _ =>
      split
      · exact .inl rfl
      · exact .inr ⟨entry, description, registered, rfl⟩

/-- The answer branch's lookup keeps the invariant: the drain it starts feeds the connection
of the sender's entry, from that entry's queue, once the connection's remote description is
set. -/
theorem Feeds.lookup {owner : Nat → Nat} {s : Adapter Raw} (feeds : s.Feeds owner)
    (registry : s.RegistryInvariant) (replies : Replies) (answer : Exchange Raw) :
    Follows owner s (resume (s.lookup codec replies answer)) := by
  rcases s.lookup_drains codec replies answer with same | ⟨entry, description, registered, looked⟩
  · exact Follows.resume (by rw [same]; exact feeds.frame rfl rfl rfl rfl rfl (.inr rfl))
  rw [looked]
  simp only [resume]
  obtain ⟨created, owned⟩ := feeds.registered _ entry registered
  refine ⟨owner, fun _ _ => rfl, .refl _, fun d mem => ?_, feeds.enqueues,
    fun key found present => ?_, fun _ _ _ waiting => (by cases waiting),
    fun _ _ _ _ waiting => by cases waiting⟩
  · rcases List.mem_append.mp mem with old | new
    · obtain ⟨set, owned', made⟩ := feeds.drains d old
      exact ⟨described_setRemoteDescription description (.inl set), owned', made⟩
    · obtain rfl := List.mem_singleton.mp new
      exact ⟨described_setRemoteDescription description (.inr ⟨rfl, created⟩), owned,
        registry.made answer.sender _ (by simp [queueOf, registered])⟩
  · obtain ⟨created', owned'⟩ := feeds.registered key found present
    exact ⟨by simpa [setRemoteDescription] using created', owned'⟩

/-- The `errs` case keeps some of the drains: it drops at most the failed one it received
from. -/
theorem receiveError_drains (s : Adapter Raw) (source : Option Nat) :
    (s.receiveError source).drains.Sublist s.drains := by
  unfold receiveError
  split
  · split <;> exact .refl _
  · split
    · split
      · exact List.eraseIdx_sublist _ _
      · exact .refl _
    · exact .refl _

/-- **Every move but a drain's and the candidate branch's critical section keeps the queues'
invariant**, under an owner for the queue it may make, and keeps some of the enqueuers. -/
theorem Moves.follows {owner : Nat → Nat} {s t : Adapter Raw} {action : Action Raw}
    (move : Moves codec s action t) (registry : s.RegistryInvariant) (feeds : s.Feeds owner)
    (received : ∀ k j replies, action ≠ .drain k j replies)
    (enqueued : ∀ replies candidate, action = .acquire replies → s.peerLock = none →
      s.loop ≠ .locking (.enqueue candidate)) :
    Follows owner s t := by
  cases move with
  | stay => exact feeds.stays
  | check alive top =>
    rw [check_eq]; exact feeds.frame rfl rfl rfl rfl rfl (.inr (by cases s.done <;> rfl))
  | dial replies alive dialing =>
    rcases s.dial_cases replies with failed | failed | ⟨id, uuids, started⟩ <;>
      rw [‹s.dial replies = _›] <;> exact feeds.frame rfl rfl rfl rfl rfl (.inr rfl)
  | publish alive publishing =>
    unfold Adapter.publish
    refine Follows.post ?_ _ _ _
    exact feeds.frame rfl rfl rfl rfl rfl (.inr rfl)
  | receive replies input alive selecting _ =>
    have valid := s.dispatch_valid codec replies input
    have grows : Handled.Grows s (s.dispatch codec replies input) := s.dispatch_grows replies input
    by_cases waiting : ∃ sender entry offer,
        (s.dispatch codec replies input).loop = .locking (.replace sender entry offer)
    · obtain ⟨sender, entry, offer, waiting⟩ := waiting
      obtain ⟨made, created⟩ := valid.replacing waiting
      refine feeds.withHandled registry valid grows (Function.update owner s.queues entry.conn)
        (fun q fresh => Function.update_noteq fresh.ne _ _) fun _ entry' _ waiting' => ?_
      rw [waiting] at waiting'
      cases waiting'
      exact ⟨created, by rw [made, Function.update_same]⟩
    · exact feeds.withHandled registry valid grows owner (fun _ _ => rfl)
        fun sender entry offer moved => absurd ⟨sender, entry, offer, moved⟩ waiting
  | acquire replies critical alive locking free =>
    cases critical with
    | replace sender entry offer => exact feeds.replace locking replies
    | install sender conn iid answer => exact feeds.install registry locking
    | enqueue candidate => exact absurd locking (enqueued replies candidate rfl free)
    | lookup answer => exact feeds.lookup registry replies answer
    | teardown =>
      obtain ⟨u, closes, torn⟩ := s.teardown_frame replies
      have pruned := s.teardown_prunes replies
      show Follows owner s (s.teardown replies)
      rw [torn] at pruned ⊢
      exact feeds.follows closes.handshakes pruned (keeps_of_peers closes.peers) closes.queues
        (.inr (by rw [closes.loop]; rfl))
    | reset =>
      exact feeds.follows rfl (.same rfl rfl)
        (fun _ _ found => by simp [critical, Adapter.reset, AList.lookup_empty] at found) rfl
        (.inr rfl)
  | send replies i alive selecting =>
    obtain ⟨lines, written, sent, -⟩ := s.send_cases codec replies i
    exact Follows.resume (by rw [sent]; exact feeds.frame rfl rfl rfl rfl rfl (.inl rfl))
  | ping replies alive selecting =>
    obtain ⟨written, pinged, -⟩ := s.ping_cases replies
    exact Follows.resume (by rw [pinged]; exact feeds.frame rfl rfl rfl rfl rfl (.inl rfl))
  | receiveError source alive selecting =>
    obtain ⟨reader, closedErrs, crashed, drains, loop, errored, moved⟩ :=
      s.receiveError_cases source
    have pruned := s.receiveError_drains source
    rw [errored] at pruned ⊢
    exact feeds.follows rfl ⟨.refl _, pruned⟩ (keeps_of_peers rfl) rfl
      (moved.imp (fun same => same) fun teardown => by rw [teardown]; rfl)
  | readError alive reading => exact feeds.frame rfl rfl rfl rfl rfl (.inl rfl)
  | disconnected replies conn alive free =>
    have pruned := s.disconnected_prunes replies conn
    refine Follows.crashOnPanic ?_
    rcases s.disconnected_cases replies conn with same | ⟨c, entry, u, -, -, closes, left | left⟩ <;>
      rw [‹s.disconnected replies conn = _›] at pruned ⊢
    · exact feeds.stays
    · exact feeds.follows closes.handshakes pruned (keeps_of_peers closes.peers) closes.queues
        (.inl closes.loop)
    · exact feeds.follows closes.handshakes pruned (keeps_erase rfl) closes.queues
        (.inl closes.loop)
  | iceCandidate conn candidate alive =>
    rcases s.iceCandidate_cases conn candidate with same | ⟨c, -, -, posted⟩
    · rw [same]; exact feeds.stays
    · rw [posted]; exact feeds.stays.post _ _ _
  | dataChannel conn label alive =>
    obtain ⟨channels, added⟩ := s.dataChannel_eq conn label
    rw [added]; exact feeds.frame rfl rfl rfl rfl rfl (.inl rfl)
  | channelOpen channel alive free =>
    rcases s.channelOpen_cases channel with same | crashed |
      ⟨remote, entry, labels, channels, handle, registered, opened⟩
    · rw [same]; exact feeds.stays
    · rw [crashed]; exact feeds.frame rfl rfl rfl rfl rfl (.inl rfl)
    · rw [opened]
      exact feeds.follows rfl (.same rfl rfl) (keeps_insert_channels registered labels rfl) rfl
        (.inl rfl)
  | channelClose replies channel alive free =>
    have pruned := s.channelClose_prunes replies channel
    refine Follows.crashOnPanic ?_
    obtain ⟨u, closes, left | left | ⟨remote, entry, labels, registered, left⟩⟩ :=
      s.channelClose_cases replies channel
    all_goals rw [left] at pruned ⊢
    all_goals first
      | exact feeds.follows closes.handshakes pruned (keeps_of_peers closes.peers) closes.queues
          (.inl closes.loop)
      | exact feeds.follows closes.handshakes pruned (keeps_insert_channels registered labels rfl)
          closes.queues (.inl closes.loop)
  | drain replies k j alive => exact absurd rfl (received k j replies)
  | accept alive =>
    obtain ⟨accepted, peerLock, released⟩ := s.accept_eq
    rw [released]; exact feeds.frame rfl rfl rfl rfl rfl (.inl rfl)
  | close alive =>
    obtain ⟨crashed, closed⟩ := s.close_eq
    rw [closed]; exact feeds.frame rfl rfl rfl rfl rfl (.inl rfl)

end Feeds

section Added

/-! Only a drain goroutine adds a candidate to a connection (`Moves.added`). -/

@[simp] theorem resume_conns (o : Outcome Raw) : (resume o).conns = o.state.conns := by
  cases o <;> rfl

@[simp] theorem crashOnPanic_conns (o : Outcome Raw) : (crashOnPanic o).conns = o.state.conns := by
  cases o <;> rfl

theorem Closes.keeps_conns {queues : List Nat} {s t : Adapter Raw} (closes : Closes queues s t) :
    t.conns = s.conns := by
  rw [closes.eq]

/-- What a move does to the candidates the connections have taken: it keeps those of every
connection, the connections it adds have taken none, and every set remote description stays
set. -/
def KeepsAdded (s t : Adapter Raw) : Prop :=
  (∃ fresh, t.conns.map Conn.added = s.conns.map Conn.added ++ List.replicate fresh []) ∧
    ∀ conn, s.Described conn → t.Described conn

theorem keepsAdded_of_conns {s t : Adapter Raw} (same : t.conns = s.conns) : KeepsAdded s t :=
  ⟨⟨0, by rw [same, List.replicate_zero, List.append_nil]⟩,
    fun _ described => by unfold Described; rw [same]; exact described⟩

variable (codec) in
/-- Handling a frame keeps the candidates every connection has taken, and a connection it
creates has taken none. -/
theorem dispatch_added (s : Adapter Raw) (replies : Replies) (input : Raw) :
    ∃ fresh, (s.dispatch codec replies input).conns.map Conn.added =
      s.conns.map Conn.added ++ List.replicate fresh [] := by
  have kept : ∃ fresh, s.conns.map Conn.added = s.conns.map Conn.added ++ List.replicate fresh [] :=
    ⟨0, by rw [List.replicate_zero, List.append_nil]⟩
  refine s.dispatch_cases codec replies input kept (fun introduction => ?_) (fun offer => ?_)
    (fun _ => ?_) (fun _ => ?_)
  · unfold onIntroduction; dsimp only; split_ifs
    all_goals first | exact kept | exact ⟨1, by simp [map_modify_of_comp]⟩
  · unfold onOffer
    by_cases other : offer.recipient ≠ s.id
    · rw [if_pos other]; exact kept
    rw [if_neg other]
    dsimp only
    by_cases refused : (!replies.newPeerConnection) = true
    · rw [if_pos refused]; exact kept
    rw [if_neg refused]
    rcases codec.unmarshalDescription offer.payload with _ | description
    · exact ⟨1, by simp⟩
    dsimp only
    split_ifs
    all_goals exact ⟨1, by simp [map_modify_of_comp]⟩
  · unfold onCandidate; split <;> exact kept
  · unfold onAnswer; split <;> exact kept

/-- **Only a drain goroutine adds a candidate to a connection.** Every other move keeps the
candidates each connection has taken and every set remote description. -/
theorem Moves.added {s t : Adapter Raw} {action : Action Raw} (move : Moves codec s action t)
    (received : ∀ k j replies, action ≠ .drain k j replies) : KeepsAdded s t := by
  cases move with
  | stay => exact keepsAdded_of_conns rfl
  | check alive top => rw [check_eq]; exact keepsAdded_of_conns rfl
  | dial replies alive dialing =>
    rcases s.dial_cases replies with failed | failed | ⟨id, uuids, started⟩ <;>
      rw [‹s.dial replies = _›] <;> exact keepsAdded_of_conns rfl
  | publish alive publishing => unfold Adapter.publish; rw [post_eq]; exact keepsAdded_of_conns rfl
  | receive replies input alive selecting reading =>
    exact ⟨s.dispatch_added codec replies input,
      fun _ described => described.of_prefix (s.dispatch_grows replies input).conns⟩
  | acquire replies critical alive locking free =>
    cases critical with
    | replace sender entry offer =>
      obtain ⟨u, closes, ⟨-, -, -, failed⟩ | returned⟩ := s.replace_cases replies sender entry offer
      all_goals show KeepsAdded s (resume (s.replace replies sender entry offer))
      · exact keepsAdded_of_conns (by rw [resume_conns, failed]; exact closes.keeps_conns)
      · exact keepsAdded_of_conns (by
          rw [resume_conns, returned, Outcome.state, post_eq]; exact closes.keeps_conns)
    | install sender conn iid answer =>
      show KeepsAdded s (s.install sender conn iid answer)
      unfold Adapter.install; rw [post_eq]; exact keepsAdded_of_conns rfl
    | enqueue candidate =>
      obtain ⟨enqueues, enqueued⟩ := s.enqueue_eq candidate
      show KeepsAdded s (s.enqueue candidate)
      rw [enqueued]; exact keepsAdded_of_conns rfl
    | lookup answer =>
      show KeepsAdded s (resume (s.lookup codec replies answer))
      rcases s.lookup_drains codec replies answer with same | ⟨entry, description, -, looked⟩
      · exact keepsAdded_of_conns (by rw [resume_conns, same])
      · rw [looked]
        simp only [resume]
        exact ⟨⟨0, by simp [Outcome.state, setRemoteDescription, map_modify_of_comp]⟩,
          fun _ described => described_setRemoteDescription description (.inl described)⟩
    | teardown =>
      obtain ⟨u, closes, torn⟩ := s.teardown_frame replies
      show KeepsAdded s (s.teardown replies)
      rw [torn, closes.eq]; exact keepsAdded_of_conns rfl
    | reset => exact keepsAdded_of_conns rfl
  | send replies i alive selecting =>
    obtain ⟨lines, written, sent, -⟩ := s.send_cases codec replies i
    exact keepsAdded_of_conns (by rw [resume_conns, sent])
  | ping replies alive selecting =>
    obtain ⟨written, pinged, -⟩ := s.ping_cases replies
    exact keepsAdded_of_conns (by rw [resume_conns, pinged])
  | receiveError source alive selecting =>
    obtain ⟨reader, closedErrs, crashed, drains, loop, received, -⟩ := s.receiveError_cases source
    rw [received]; exact keepsAdded_of_conns rfl
  | readError alive reading => exact keepsAdded_of_conns rfl
  | disconnected replies conn alive free =>
    refine keepsAdded_of_conns ?_
    rw [crashOnPanic_conns]
    rcases s.disconnected_cases replies conn with same | ⟨c, entry, u, -, -, closes, left | left⟩ <;>
      rw [‹s.disconnected replies conn = _›]
    · rfl
    · exact closes.keeps_conns
    · exact closes.keeps_conns
  | iceCandidate conn candidate alive =>
    rcases s.iceCandidate_cases conn candidate with same | ⟨c, -, -, posted⟩
    · rw [same]; exact keepsAdded_of_conns rfl
    · rw [posted, post_eq]; exact keepsAdded_of_conns rfl
  | dataChannel conn label alive =>
    obtain ⟨channels, added⟩ := s.dataChannel_eq conn label
    rw [added]; exact keepsAdded_of_conns rfl
  | channelOpen channel alive free =>
    rcases s.channelOpen_cases channel with same | crashed | ⟨_, _, _, _, _, _, opened⟩ <;>
      rw [‹s.channelOpen channel = _›] <;> exact keepsAdded_of_conns rfl
  | channelClose replies channel alive free =>
    obtain ⟨u, closes, left | left | ⟨_, _, _, _, left⟩⟩ := s.channelClose_cases replies channel <;>
      exact keepsAdded_of_conns (by rw [crashOnPanic_conns, left]; exact closes.keeps_conns)
  | drain replies k j alive => exact absurd rfl (received k j replies)
  | accept alive =>
    obtain ⟨accepted, peerLock, released⟩ := s.accept_eq
    rw [released]; exact keepsAdded_of_conns rfl
  | close alive =>
    obtain ⟨crashed, closed⟩ := s.close_eq
    rw [closed]; exact keepsAdded_of_conns rfl

end Added

section Accounting

/-- Taking the `j`-th element out to the front permutes a list. -/
theorem perm_cons_eraseIdx {α : Type} {l : List α} {j : Nat} {a : α} (found : l[j]? = some a) :
    (a :: l.eraseIdx j).Perm l := by
  obtain ⟨within, rfl⟩ := List.getElem?_eq_some_iff.mp found
  calc (l[j] :: l.eraseIdx j).Perm (l.take j ++ l[j] :: l.drop (j + 1)) := by
        rw [List.eraseIdx_eq_take_drop_succ]; exact List.perm_middle.symm
    _ = l := by rw [← List.drop_eq_getElem_cons within, List.take_append_drop]

/-- A move that is not a drain's makes no `AddICECandidate` call. -/
theorem applied_eq_nil {s : Adapter Raw} {action : Action Raw}
    (received : ∀ k j replies, action ≠ .drain k j replies) : s.applied action = [] := by
  cases action <;> first | rfl | exact absurd rfl (received _ _ _)

/-- A move that is not the candidate branch's critical section hands no candidate on. -/
theorem queued_eq_nil {s : Adapter Raw} {action : Action Raw}
    (enqueued : ∀ replies candidate, action = .acquire replies → s.peerLock = none →
      s.loop ≠ .locking (.enqueue candidate)) : s.queued action = [] := by
  cases action <;> try rfl
  simp only [queued]
  split
  · next free locking => exact absurd locking (enqueued _ _ rfl free)
  · rfl

/-- What a drain goroutine's move does: when the `k`-th drain receives from the `j`-th
enqueuer of its queue, it calls `AddICECandidate` with that candidate, which leaves the
enqueuers, and the drain's connection takes the candidate if the engine accepts it;
otherwise it makes no call and changes nothing. -/
theorem drain_calls {s : Adapter Raw} (alive : s.crashed = false) (replies : Replies) (k j : Nat) :
    (s.applied (.drain k j replies) = [] ∧ s.drain replies k j = s) ∨
      ∃ d e, s.drains[k]? = some d ∧ s.enqueues[j]? = some e ∧ e.queue = d.queue ∧
        s.applied (.drain k j replies) = [⟨d.conn, d.queue, e.candidate⟩] ∧
        (s.drain replies k j).enqueues = s.enqueues.eraseIdx j ∧
        (s.drain replies k j).conns = if replies.addICECandidate then
          s.conns.modify (fun c => { c with added := c.added ++ [e.candidate] }) d.conn else s.conns := by
  unfold applied drain
  simp only [alive]
  rcases found : s.drains[k]? with _ | d
  · exact .inl ⟨rfl, rfl⟩
  rcases got : s.enqueues[j]? with _ | e
  · exact .inl ⟨rfl, rfl⟩
  dsimp only
  by_cases skipped : (d.failed || e.queue != d.queue) = true
  · rw [if_pos skipped, if_pos skipped]
    exact .inl ⟨rfl, rfl⟩
  · have matching : d.failed = false ∧ e.queue = d.queue := by simpa using skipped
    rw [if_neg skipped, if_neg skipped]
    refine .inr ⟨d, e, rfl, rfl, matching.2, rfl, ?_, ?_⟩ <;> split_ifs <;> rfl

/-- A drain goroutine keeps the connection and queue of every drain. -/
theorem drain_drains (s : Adapter Raw) (replies : Replies) (k j : Nat) :
    ∀ d ∈ (s.drain replies k j).drains, ∃ d' ∈ s.drains, d'.conn = d.conn ∧ d'.queue = d.queue := by
  have kept : ∀ d ∈ s.drains, ∃ d' ∈ s.drains, d'.conn = d.conn ∧ d'.queue = d.queue :=
    fun d mem => ⟨d, mem, rfl, rfl⟩
  refine s.drain_induction replies k j kept (fun _ _ _ _ => kept) kept fun _ _ d mem => ?_
  rcases mem_modify_cases mem with old | ⟨d', present, rfl⟩
  exacts [kept d old, ⟨d', List.mem_iff_getElem?.mpr ⟨k, present⟩, rfl, rfl⟩]

/-- A drain goroutine keeps the invariant; a call it makes passes a candidate that was
waiting, on the connection its queue belongs to, and that candidate no longer waits. -/
theorem Feeds.drain {owner : Nat → Nat} {s : Adapter Raw} (feeds : s.Feeds owner)
    (alive : s.crashed = false) (replies : Replies) (k j : Nat) :
    (s.drain replies k j).Feeds owner ∧
      (s.applied (.drain k j replies) ++ (s.drain replies k j).pending owner).Perm
        (s.pending owner) := by
  rcases drain_calls alive replies k j with ⟨idle, same⟩ | ⟨d, e, found, got, queue, called, erased, _⟩
  · rw [idle, same]
    exact ⟨feeds, .refl _⟩
  obtain ⟨enqueues, conns, drains, crashed, drained, -⟩ := s.drain_cases replies k j
  refine ⟨feeds.transfer (s.drain_handshakes replies k j) (s.drain_drains replies k j)
    (by rw [erased]; exact (List.eraseIdx_sublist _ _).subset) (keeps_of_peers (by rw [drained]))
    (by rw [drained]) (.inl (by rw [drained])), ?_⟩
  obtain ⟨-, owned, -⟩ := feeds.drains d (List.mem_iff_getElem?.mpr ⟨k, found⟩)
  have moved := (perm_cons_eraseIdx got).map
    fun e => (⟨owner e.queue, e.queue, e.candidate⟩ : Handoff Raw)
  simp only [List.map_cons, queue, owned] at moved
  rw [called, pending, pending, erased]
  exact moved

/-- The candidate branch's critical section keeps the invariant, and the candidate it hands
on waits on the sender's queue, with the connection that queue belongs to. -/
theorem Feeds.enqueue {owner : Nat → Nat} {s : Adapter Raw} (feeds : s.Feeds owner)
    (registry : s.RegistryInvariant) (alive : s.crashed = false) (free : s.peerLock = none)
    {candidate : Exchange Raw} (locking : s.loop = .locking (.enqueue candidate))
    (replies : Replies) :
    (s.enqueue candidate).Feeds owner ∧
      (s.enqueue candidate).pending owner = s.pending owner ++ s.queued (.acquire replies) := by
  unfold Adapter.enqueue queued
  simp only [alive, free, locking]
  rcases registered : s.peers.lookup candidate.sender with _ | entry <;> dsimp only
  · exact ⟨feeds.same rfl rfl rfl rfl rfl (.inr rfl), by simp [pending]⟩
  by_cases closed : entry.candidates ∈ s.closedQueues
  · rw [if_pos closed, if_pos closed]
    exact ⟨feeds.same rfl rfl rfl rfl rfl (.inr rfl), by simp [pending]⟩
  rw [if_neg closed, if_neg closed]
  obtain ⟨-, owned⟩ := feeds.registered _ entry registered
  refine ⟨⟨feeds.drains, fun e mem => ?_, feeds.registered, fun _ _ _ waiting => (by cases waiting),
    fun _ _ _ _ waiting => by cases waiting⟩, by simp [pending, owned]⟩
  rcases List.mem_append.mp mem with old | new
  · exact feeds.enqueues e old
  · obtain rfl := List.mem_singleton.mp new
    exact registry.made candidate.sender _ (by simp [queueOf, registered])

/-- Every call a drain goroutine makes is on a connection whose remote description is set. -/
theorem Feeds.calls_described {owner : Nat → Nat} {s : Adapter Raw} (feeds : s.Feeds owner)
    (action : Action Raw) : ∀ call ∈ s.applied action, s.Described call.conn := by
  intro call made
  cases action
  case drain k j replies =>
    simp only [applied] at made
    split at made
    · next d e _ found _ =>
      split_ifs at made
      · simp at made
      · rw [List.mem_singleton.mp made]
        exact (feeds.drains d (List.mem_iff_getElem?.mpr ⟨k, found⟩)).1
    · simp at made
  all_goals simp [applied] at made

/-- The candidates each connection has taken are some of the calls made on it so far, in the
order they were made, and a connection takes none before its remote description is set. -/
def AddedFrom (s : Adapter Raw) (calls : List (Handoff Raw)) : Prop :=
  ∀ conn (c : Conn Raw), s.conns[conn]? = some c →
    c.added.Sublist ((calls.filter fun call => call.conn == conn).map Handoff.candidate) ∧
      (c.added ≠ [] → c.remoteDescription.isSome)

/-- A move that adds no candidate keeps the account of the candidates taken. -/
theorem AddedFrom.keep {s t : Adapter Raw} {calls : List (Handoff Raw)} (inv : s.AddedFrom calls)
    (kept : KeepsAdded s t) : t.AddedFrom calls := by
  obtain ⟨⟨fresh, added⟩, described⟩ := kept
  intro conn c' found
  have taken : (s.conns.map Conn.added ++ List.replicate fresh [])[conn]? = some c'.added := by
    rw [← added, List.getElem?_map, found]; rfl
  rcases old : s.conns[conn]? with _ | c
  · have beyond : (s.conns.map Conn.added).length ≤ conn := by
      simpa using List.getElem?_eq_none_iff.mp old
    rw [List.getElem?_append_right beyond, List.getElem?_replicate] at taken
    split at taken
    · rw [← Option.some.inj taken]
      exact ⟨List.nil_sublist _, fun nonempty => absurd rfl nonempty⟩
    · cases taken
  · rw [List.getElem?_append_left (by simpa using (List.getElem?_eq_some_iff.mp old).1),
      List.getElem?_map, old] at taken
    obtain ⟨sublist, set⟩ := inv conn c old
    rw [← Option.some.inj taken]
    refine ⟨sublist, fun nonempty => ?_⟩
    obtain ⟨c'', found', set'⟩ := described conn ⟨c, old, set nonempty⟩
    rw [found] at found'
    cases found'
    exact set'

/-- A drain goroutine's call on its connection adds that call's candidate there, if the
engine accepts it; the connection's remote description is set. -/
theorem AddedFrom.drain {owner : Nat → Nat} {s : Adapter Raw} {calls : List (Handoff Raw)}
    (inv : s.AddedFrom calls) (feeds : s.Feeds owner) (alive : s.crashed = false)
    (replies : Replies) (k j : Nat) :
    (s.drain replies k j).AddedFrom (calls ++ s.applied (.drain k j replies)) := by
  rcases drain_calls alive replies k j with ⟨idle, same⟩ | ⟨d, e, -, -, -, called, -, conns⟩
  · rw [idle, same, List.append_nil]; exact inv
  have described := feeds.calls_described (.drain k j replies) _ (called ▸ List.mem_singleton_self _)
  intro conn c' found
  rw [called, List.filter_append, List.map_append]
  rw [conns] at found
  split at found
  · rw [List.getElem?_modify] at found
    rcases old : s.conns[conn]? with _ | c
    · simp [old] at found
    obtain ⟨sublist, set⟩ := inv conn c old
    rw [old] at found
    by_cases same : d.conn = conn
    · subst same
      simp only [if_pos, Option.map_eq_map, Option.map_some', Option.some.injEq] at found
      subst found
      obtain ⟨c₀, found₀, set₀⟩ := described
      rw [old] at found₀
      cases found₀
      simpa using ⟨sublist, set₀⟩
    · simp only [same, if_false, Option.map_eq_map, Option.map_some', Option.some.injEq] at found
      subst found
      exact ⟨sublist.trans (List.sublist_append_left _ _), set⟩
  · obtain ⟨sublist, set⟩ := inv conn c' found
    exact ⟨sublist.trans (List.sublist_append_left _ _), set⟩

variable (codec) in
/-- **A move keeps the account of the candidates taken.** -/
theorem AddedFrom.step {owner : Nat → Nat} {s : Adapter Raw} {calls : List (Handoff Raw)}
    (inv : s.AddedFrom calls) (feeds : s.Feeds owner) (action : Action Raw) :
    (step codec s action).AddedFrom (calls ++ s.applied action) := by
  cases alive : s.crashed
  case true =>
    rw [step_crashed codec alive, show s.applied action = [] by cases action <;> simp [applied, alive],
      List.append_nil]
    exact inv
  by_cases drained : ∃ k j replies, action = .drain k j replies
  · obtain ⟨k, j, replies, rfl⟩ := drained
    rw [show Adapter.step codec s (.drain k j replies) = s.drain replies k j by simp [Adapter.step, alive]]
    exact inv.drain feeds alive replies k j
  · have received : ∀ k j replies, action ≠ .drain k j replies :=
      fun k j replies same => drained ⟨k, j, replies, same⟩
    rw [applied_eq_nil received, List.append_nil]
    exact inv.keep ((step_moves codec s action).added received)

/-- Every candidate still waiting after a move that hands nothing on and makes no call was
waiting before, with the same connection. -/
theorem pending_sublist {owner owner' : Nat → Nat} {s t : Adapter Raw} (feeds : s.Feeds owner)
    (kept : t.enqueues.Sublist s.enqueues) (agree : ∀ q < s.queues, owner' q = owner q) :
    (t.pending owner').Sublist (s.pending owner) := by
  have same : t.pending owner' = t.pending owner :=
    List.map_congr_left fun e mem => by rw [agree _ (feeds.enqueues e (kept.subset mem))]
  rw [same]
  exact kept.map _

/-- The calls made so far, followed by the candidates waiting on a queue, each with the
connection `owner` gives its queue, are among the candidates handed on so far, under the
queues' invariant; and the candidates each connection has taken are among the calls made on
it. -/
def Accounted (s : Adapter Raw) (calls handoffs : List (Handoff Raw)) : Prop :=
  ∃ owner, s.Feeds owner ∧ (calls ++ s.pending owner).Subperm handoffs ∧ s.AddedFrom calls

variable (codec) in
/-- **A move keeps the account**: a call it makes passes a candidate that was waiting, on the
connection of its queue, and a candidate it hands on starts waiting there. -/
theorem Accounted.step {s : Adapter Raw} {calls handoffs : List (Handoff Raw)}
    (registry : s.RegistryInvariant) (accounted : s.Accounted calls handoffs) (action : Action Raw) :
    (step codec s action).Accounted (calls ++ s.applied action) (handoffs ++ s.queued action) := by
  obtain ⟨owner, feeds, within, added⟩ := accounted
  have added' := added.step codec feeds action
  cases alive : s.crashed
  case true =>
    have quiet : s.applied action = [] ∧ s.queued action = [] := by
      cases action <;> simp [applied, queued, alive]
    rw [step_crashed codec alive, quiet.1, quiet.2, List.append_nil, List.append_nil]
    exact ⟨owner, feeds, within, added⟩
  have followed (received : ∀ k j replies, action ≠ .drain k j replies)
      (enqueued : ∀ replies candidate, action = .acquire replies → s.peerLock = none →
        s.loop ≠ .locking (.enqueue candidate)) :
      (Adapter.step codec s action).Accounted (calls ++ s.applied action)
        (handoffs ++ s.queued action) := by
    obtain ⟨owner', agree, kept, feeds'⟩ :=
      (step_moves codec s action).follows registry feeds received enqueued
    rw [applied_eq_nil received, List.append_nil] at added' ⊢
    rw [queued_eq_nil enqueued, List.append_nil]
    exact ⟨owner', feeds', ((pending_sublist feeds kept agree).append_left calls).subperm.trans within,
      added'⟩
  cases action
  case drain k j replies =>
    obtain ⟨feeds', perm⟩ := feeds.drain alive replies k j
    rw [show Adapter.step codec s (.drain k j replies) = s.drain replies k j by
      simp [Adapter.step, alive]] at added' ⊢
    refine ⟨owner, feeds', ?_, added'⟩
    rw [List.append_assoc, show s.queued (.drain k j replies) = [] from rfl, List.append_nil]
    exact (perm.append_left calls).subperm.trans within
  case acquire replies =>
    by_cases enqueueing : ∃ candidate, s.peerLock = none ∧ s.loop = .locking (.enqueue candidate)
    · obtain ⟨candidate, free, locking⟩ := enqueueing
      obtain ⟨feeds', pending⟩ := feeds.enqueue registry alive free locking replies
      rw [step_acquire alive free locking replies] at added' ⊢
      show (s.enqueue candidate).Accounted _ _
      refine ⟨owner, feeds', ?_, added'⟩
      rw [pending, show s.applied (.acquire replies) = [] from rfl, List.append_nil,
        ← List.append_assoc]
      exact (List.subperm_append_right _).mpr within
    · exact followed (fun _ _ _ => nofun)
        fun _ candidate _ free locking => enqueueing ⟨candidate, free, locking⟩
  all_goals exact followed (fun _ _ _ => nofun) fun _ _ => nofun

variable (codec) in
/-- **Over every run**, the account kept from a state that keeps it. -/
theorem Accounted.run {s : Adapter Raw} {calls handoffs : List (Handoff Raw)}
    (registry : s.RegistryInvariant) (accounted : s.Accounted calls handoffs)
    (actions : List (Action Raw)) :
    (run codec s actions).Accounted (calls ++ trace codec applied s actions)
      (handoffs ++ trace codec queued s actions) := by
  induction actions generalizing s calls handoffs with
  | nil => simpa [trace] using accounted
  | cons action actions ih =>
    simpa only [run_cons, trace, List.append_assoc] using
      ih ((step_moves codec s action).registry registry) (accounted.step codec registry action)

variable (codec) in
/-- **Remote candidates.** Over every run from `NewAdapter`, whatever the envelopes and the
order of the goroutines' moves, the `AddICECandidate` calls are among the candidates the
candidate branch handed on, counted with multiplicity: each call passes a candidate handed to
the queue of a registry entry, on that entry's connection, and no candidate handed on is
passed twice. Each call is made on a connection whose remote description is set. What the
engine holds: the candidates each connection has taken are, counted with multiplicity, among
those handed on for it, and a connection holds none before its remote description is set. -/
theorem candidates_applied (config : Option AdapterConfig) (actions : List (Action Raw)) :
    (trace codec applied (newAdapter config) actions).Subperm
        (trace codec queued (newAdapter config) actions) ∧
      (∀ action, ∀ call ∈ (run codec (newAdapter config) actions).applied action,
        (run codec (newAdapter config) actions).Described call.conn) ∧
      ∀ conn (c : Conn Raw), (run codec (newAdapter config) actions).conns[conn]? = some c →
        c.added.Subperm (((trace codec queued (newAdapter config) actions).filter
            fun call => call.conn == conn).map Handoff.candidate) ∧
          (c.added ≠ [] → c.remoteDescription.isSome) := by
  have initial : (newAdapter config : Adapter Raw).Accounted [] [] :=
    ⟨fun _ => 0, feeds_newAdapter _ config, by simp [pending, newAdapter],
      fun _ _ found => by simp [newAdapter] at found⟩
  obtain ⟨owner, feeds, within, added⟩ :=
    initial.run codec (registryInvariant_newAdapter config) actions
  have calls := (List.sublist_append_left _ _).subperm.trans within
  refine ⟨calls, feeds.calls_described, fun conn c found => ?_⟩
  obtain ⟨taken, set⟩ := added conn c found
  obtain ⟨l, perm, sublist⟩ := calls.filter fun call => call.conn == conn
  exact ⟨taken.subperm.trans ⟨l.map _, perm.map _, sublist.map _⟩, set⟩

/-- Over the plain codec, A answers B's offer on connection 0 with queue 0, hands B's
candidate on to that queue, and the drain passes it to connection 0. -/
example :
    trace Codec.plain applied (newAdapter (some ⟨"A", ""⟩)) (opening ++
        [.receive (.exchange typeOffer "B" "A" (.description ⟨.offer, "B", 0⟩)) {}, .acquire {},
          .receive (.exchange typeCandidate "B" "A" (.text "c")) {}, .acquire {}, .drain 0 0 {}]) =
      [⟨0, 0, .text "c"⟩] ∧
    trace Codec.plain queued (newAdapter (some ⟨"A", ""⟩)) (opening ++
        [.receive (.exchange typeOffer "B" "A" (.description ⟨.offer, "B", 0⟩)) {}, .acquire {},
          .receive (.exchange typeCandidate "B" "A" (.text "c")) {}, .acquire {}, .drain 0 0 {}]) =
      [⟨0, 0, .text "c"⟩] := by
  decide

end Accounting

end Adapter

end Weron
