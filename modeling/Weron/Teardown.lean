import Weron.Moves

/-!
# The session's teardown

A session ends with a panic of its loop, which runs the deferred teardown (173-198) and then
the deferred registry reset (147-163). The teardown closes the signaler socket and then,
under the lock, every channel, the connection and the candidate queue of every registered
entry, panicking at the first `Close` that fails; the reset empties the registry.

`RegistryInvariant` holds in every reachable state (`registryInvariant_reachable`): the
registry is empty between sessions, and while a session lasts every registered entry owns
its candidate queue, which is open. Hence, when every `Close` succeeds, the teardown retires
every registered entry (`teardown_retires`), and closed objects stay closed
(`run_retired`); `teardown_complete` puts the two together. When a `Close` fails, the
teardown stops there and the reset forgets the entries it did not reach
(`failedTeardown_leaves_open`).

The teardown leaves the entries registered until the reset. A `Disconnected` handler that
runs in between finds its entry with its queue closed, and closing the queue again panics
(`teardown_disconnected_panics`). A drain goroutine whose `AddICECandidate` fails after the
reader closed `errs` sends on it. `sessionEnd_races_crash` replays both.
-/

namespace Weron

/-- Between two sessions: at the head of the reconnect loop, dialing, or returned. -/
def Loop.between {Raw : Type} : Loop Raw → Bool
  | .top | .dialing | .exited => true
  | _ => false

namespace Adapter

variable {Raw : Type} {codec : Codec Raw}

/-- The candidate queue of the entry registered for `key`. -/
def queueOf (s : Adapter Raw) (key : String) : Option Nat :=
  (s.peers.lookup key).map Peer.candidates

/-- The registry between moves. It is empty between sessions. Every registered entry holds
a queue the loop made, of its own; while the session lasts, that queue is open. The entry a
replacement waits to register holds a queue newer than every other. -/
structure RegistryInvariant (s : Adapter Raw) : Prop where
  empty : s.crashed = false → s.loop.between = true → s.peers = ∅
  made : ∀ key q, s.queueOf key = some q → q < s.queues
  closedMade : ∀ q ∈ s.closedQueues, q < s.queues
  pending : ∀ sender entry offer, s.loop = .locking (.replace sender entry offer) →
    entry.candidates < s.queues ∧ (∀ q ∈ s.closedQueues, q < entry.candidates) ∧
      ∀ key q, s.queueOf key = some q → q < entry.candidates
  live : s.crashed = false → s.loop ≠ .locking .reset →
    ∀ key q, s.queueOf key = some q → q ∉ s.closedQueues
  own : ∀ key key' q, s.queueOf key = some q → s.queueOf key' = some q → key = key'

theorem registryInvariant_newAdapter (config : Option AdapterConfig) :
    (newAdapter config : Adapter Raw).RegistryInvariant where
  empty _ _ := rfl
  made _ _ registered := by simp [queueOf, newAdapter, AList.lookup_empty] at registered
  closedMade _ closed := by simp [newAdapter] at closed
  pending _ _ _ waiting := by simp [newAdapter] at waiting
  live _ _ _ _ registered := by simp [queueOf, newAdapter, AList.lookup_empty] at registered
  own _ _ _ registered := by simp [queueOf, newAdapter, AList.lookup_empty] at registered

theorem queueOf_congr {s t : Adapter Raw} (peers : t.peers = s.peers) : t.queueOf = s.queueOf := by
  unfold queueOf; rw [peers]

/-- Recording a channel in a registered entry keeps its queue. -/
theorem queueOf_insert_channels {s t : Adapter Raw} {remote : String} {entry : Peer}
    (registered : s.peers.lookup remote = some entry) (labels : AList fun _ : String => Nat)
    (peers : t.peers = s.peers.insert remote { entry with channels := labels }) :
    t.queueOf = s.queueOf := by
  funext key
  unfold queueOf
  rw [peers]
  by_cases same : key = remote
  · subst same; simp [AList.lookup_insert, registered]
  · rw [AList.lookup_insert_ne same]

/-- A move that keeps every registered queue and the closed ones keeps the invariant, when
it does not newly enter a time between sessions, does not start waiting for a replacement
and does not leave the registry reset. -/
theorem RegistryInvariant.transfer {s t : Adapter Raw} (inv : s.RegistryInvariant)
    (alive : s.crashed = false) (queueOf : t.queueOf = s.queueOf)
    (empty : s.peers = ∅ → t.peers = ∅)
    (queues : t.queues = s.queues) (closed : ∀ q, q ∈ t.closedQueues ↔ q ∈ s.closedQueues)
    (between : t.loop.between = true → s.loop.between = true)
    (replacing : ∀ sender entry offer, t.loop = .locking (.replace sender entry offer) →
      s.loop = t.loop)
    (resetting : t.loop ≠ .locking .reset → s.loop ≠ .locking .reset) : t.RegistryInvariant where
  empty _ offline := empty (inv.empty alive (between offline))
  made := by rw [queueOf, queues]; exact inv.made
  closedMade q mem := queues ▸ inv.closedMade q ((closed q).mp mem)
  pending sender entry offer waiting := by
    obtain ⟨lt, closedLt, registeredLt⟩ :=
      inv.pending sender entry offer ((replacing _ _ _ waiting).trans waiting)
    exact ⟨queues ▸ lt, fun q mem => closedLt q ((closed q).mp mem), queueOf ▸ registeredLt⟩
  live _ running key q registered := by
    rw [closed]; exact inv.live alive (resetting running) key q (queueOf ▸ registered)
  own := by rw [queueOf]; exact inv.own

/-- A move that changes neither the registry's queues nor the loop's position keeps the
invariant. -/
theorem RegistryInvariant.of_same {s t : Adapter Raw} (inv : s.RegistryInvariant)
    (alive : s.crashed = false) (peers : t.peers = s.peers) (queues : t.queues = s.queues)
    (closed : ∀ q, q ∈ t.closedQueues ↔ q ∈ s.closedQueues) (loop : t.loop = s.loop) :
    t.RegistryInvariant :=
  inv.transfer alive (queueOf_congr peers) (fun empty => peers.trans empty) queues closed
    (fun offline => loop ▸ offline) (fun _ _ _ _ => loop.symm) (fun running => loop ▸ running)

/-- A move of the loop that changes neither the registry's queues nor the closed ones keeps
the invariant when it leaves no reset, and enters neither a wait for a replacement nor a
time between sessions. -/
theorem RegistryInvariant.of_moved {s t : Adapter Raw} (inv : s.RegistryInvariant)
    (alive : s.crashed = false) (peers : t.peers = s.peers) (queues : t.queues = s.queues)
    (closed : t.closedQueues = s.closedQueues) (source : s.loop ≠ .locking .reset)
    (target : t.loop = .selecting ∨ t.loop = .locking .teardown ∨ t.loop = .locking .reset ∨
      t.loop = .publishing) : t.RegistryInvariant := by
  refine inv.transfer alive (queueOf_congr peers) (fun empty => peers.trans empty) queues
    (by simp [closed]) ?_ ?_ (fun _ => source)
  · intro offline; rcases target with moved | moved | moved | moved <;> simp [moved, Loop.between] at offline
  · intro _ _ _ waiting; rcases target with moved | moved | moved | moved <;> simp [moved] at waiting

/-- A post touches neither the registry nor the loop, and may only crash the process. -/
theorem RegistryInvariant.post {s : Adapter Raw} (inv : s.RegistryInvariant) (line : Envelope Raw)
    (session : Nat) (source : Source) : (s.post line session source).RegistryInvariant := by
  have alive : (s.crashed || s.linesClosed) = false → s.crashed = false := fun alive => by
    simp only [Bool.or_eq_false_iff] at alive; exact alive.1
  rw [post_eq]
  exact ⟨fun running => inv.empty (alive running), inv.made, inv.closedMade, inv.pending,
    fun running => inv.live (alive running), inv.own⟩

theorem queueOf_insert {s t : Adapter Raw} {sender : String} {entry : Peer}
    (peers : t.peers = s.peers.insert sender entry) (key : String) :
    t.queueOf key = if key = sender then some entry.candidates else s.queueOf key := by
  unfold queueOf
  rw [peers]
  split
  · next same => subst same; simp [AList.lookup_insert]
  · next other => rw [AList.lookup_insert_ne other]

/-- Registering an entry whose queue is open and newer than every other registered queue
keeps the invariant, when the other registered queues stay open. -/
theorem RegistryInvariant.register {s t : Adapter Raw} (inv : s.RegistryInvariant)
    {sender : String} {entry : Peer} (peers : t.peers = s.peers.insert sender entry)
    (made : entry.candidates < t.queues) (grown : s.queues ≤ t.queues)
    (closedMade : ∀ q ∈ t.closedQueues, q < t.queues)
    (closed : ∀ q ∈ t.closedQueues, q < entry.candidates)
    (newer : ∀ key q, s.queueOf key = some q → key ≠ sender → q < entry.candidates)
    (live : ∀ key q, s.queueOf key = some q → key ≠ sender → q ∉ t.closedQueues)
    (selecting : t.loop = .selecting) : t.RegistryInvariant where
  empty _ offline := by simp [selecting, Loop.between] at offline
  made key q registered := by
    rw [queueOf_insert peers] at registered
    split at registered
    · cases registered; exact made
    · exact lt_of_lt_of_le (inv.made key q registered) grown
  closedMade := closedMade
  pending _ _ _ waiting := by simp [selecting] at waiting
  live _ _ key q registered := by
    rw [queueOf_insert peers] at registered
    split at registered
    · cases registered; exact fun mem => absurd (closed _ mem) (lt_irrefl _)
    · next other => exact live key q registered other
  own key key' q registered registered' := by
    rw [queueOf_insert peers] at registered registered'
    split at registered <;> split at registered'
    · next same same' => rw [same, same']
    · next _ other' => cases registered; exact absurd (newer key' _ registered' other') (lt_irrefl _)
    · next other _ => cases registered'; exact absurd (newer key _ registered other) (lt_irrefl _)
    · exact inv.own key key' q registered registered'

/-- The queue a retirement of `sender`'s entry may close is that entry's. -/
theorem queueOf_of_retired {s : Adapter Raw} {sender : String} {q : Nat}
    (retired : q ∈ (s.peers.lookup sender).toList.map Peer.candidates) :
    s.queueOf sender = some q := by
  cases found : s.peers.lookup sender <;> simp [queueOf, found] at retired ⊢
  exact retired.symm

/-- The offer branch's critical section registers its entry with a queue it makes. -/
theorem RegistryInvariant.install {s : Adapter Raw} (inv : s.RegistryInvariant)
    (alive : s.crashed = false) {sender : String} {conn iid : Nat} {answer : SessionDescription}
    (waiting : s.loop = .locking (.install sender conn iid answer)) :
    (s.install sender conn iid answer).RegistryInvariant := by
  unfold Adapter.install
  refine RegistryInvariant.post ?_ _ _ _
  exact inv.register rfl (Nat.lt_succ_self _) (Nat.le_succ _)
    (fun q mem => Nat.lt_succ_of_lt (inv.closedMade q mem)) inv.closedMade
    (fun key q registered _ => inv.made key q registered)
    (fun key q registered _ => inv.live alive (by simp [waiting]) key q registered) rfl

/-- The introduction branch's critical section keeps the invariant: a retirement that panics
closes no registered queue, and one that returns closes only the replaced entry's. -/
theorem RegistryInvariant.replace {s : Adapter Raw} (inv : s.RegistryInvariant)
    (alive : s.crashed = false) {replies : Replies} {sender : String} {entry : Peer}
    {offer : SessionDescription} (waiting : s.loop = .locking (.replace sender entry offer)) :
    (resume (s.replace replies sender entry offer)).RegistryInvariant := by
  obtain ⟨made, closedLt, registeredLt⟩ := inv.pending sender entry offer waiting
  have running : s.loop ≠ .locking .reset := by simp [waiting]
  obtain ⟨u, closes, ⟨old, present, failed, panicked⟩ | returned⟩ :=
    s.replace_cases replies sender entry offer
  · have kept : old.candidates ∉ u.closedQueues := retire_error_queue failed
      (inv.live alive running sender _ (by simp [queueOf, present]))
    rw [panicked]
    refine inv.transfer alive (queueOf_congr closes.peers) (fun empty => closes.peers.trans empty)
      closes.queues (fun q => ⟨fun mem => ?_, fun mem => closes.grows mem⟩)
      (by simp [resume, unwind, Loop.between]) (by simp [resume, unwind]) (fun _ => running)
    rcases List.mem_append.mp (closes.only mem) with retired | earlier
    · rw [present] at retired
      simp only [Option.toList_some, List.map_cons, List.map_nil, List.mem_singleton] at retired
      exact absurd (retired ▸ mem) kept
    · exact earlier
  · rw [returned]
    have closedBy : ∀ q ∈ u.closedQueues, s.queueOf sender = some q ∨ q ∈ s.closedQueues := fun q mem =>
      (List.mem_append.mp (closes.only mem)).imp_left queueOf_of_retired
    refine RegistryInvariant.post ?_ _ _ _
    refine inv.register (congrArg (AList.insert sender entry) closes.peers) (closes.queues ▸ made)
      closes.queues.ge ?_ ?_ ?_ ?_ rfl
    · intro q mem
      rcases closedBy q mem with retired | earlier
      · exact closes.queues ▸ inv.made sender q retired
      · exact closes.queues ▸ inv.closedMade q earlier
    · intro q mem
      rcases closedBy q mem with retired | earlier
      · exact registeredLt sender q retired
      · exact closedLt q earlier
    · exact fun key q registered _ => registeredLt key q registered
    · intro key q registered other mem
      rcases closedBy q mem with retired | earlier
      · exact other (inv.own key sender q registered retired)
      · exact inv.live alive running key q registered earlier

/-- Handling a frame never ends in a time between sessions. -/
theorem Handled.Valid.between {s : Adapter Raw} {handled : Handled Raw}
    (valid : Handled.Valid s handled) :
    handled.loop.between = false := by
  rcases valid.loop with moved | moved | ⟨_, _, _, moved, -⟩ | ⟨_, _, _, _, moved, -⟩ | ⟨_, moved⟩ |
    ⟨_, moved⟩ <;> rw [moved] <;> rfl

/-- Handling a frame keeps the invariant: the entry a replacement waits to register holds
the queue just made. -/
theorem RegistryInvariant.withHandled {s : Adapter Raw} (inv : s.RegistryInvariant)
    (alive : s.crashed = false) (selecting : s.loop = .selecting) {handled : Handled Raw}
    (valid : Handled.Valid s handled) : (s.withHandled handled).RegistryInvariant := by
  have grown : s.queues ≤ handled.queues := by rcases valid.queues with same | more <;> omega
  have running : s.loop ≠ .locking .reset := by simp [selecting]
  refine ⟨fun _ offline => ?_, fun key q registered => lt_of_lt_of_le (inv.made key q registered) grown,
    fun q mem => lt_of_lt_of_le (inv.closedMade q mem) grown, fun sender entry offer waiting => ?_,
    fun _ _ => inv.live alive running, inv.own⟩
  · exact absurd offline (ne_true_of_eq_false valid.between)
  · have moved : handled.loop = .locking (.replace sender entry offer) := waiting
    rcases valid.loop with other | other | ⟨_, entry', _, replacing, made, more, -⟩ |
      ⟨_, _, _, _, other, -⟩ | ⟨_, other⟩ | ⟨_, other⟩
    all_goals first | (rw [moved] at other; cases other) | skip
    rw [moved] at replacing
    cases replacing
    exact ⟨show _ < handled.queues by omega, fun q mem => made ▸ inv.closedMade q mem,
      fun key q registered => made ▸ inv.made key q registered⟩

/-- The deferred teardown keeps the invariant: it closes only registered queues, and the
loop then waits for the reset. -/
theorem RegistryInvariant.teardown {s : Adapter Raw} (inv : s.RegistryInvariant)
    (replies : Replies) : (s.teardown replies).RegistryInvariant := by
  obtain ⟨u, closes, torn⟩ := s.teardown_frame replies
  rw [torn]
  have reset : u.loop = .locking .reset := closes.loop
  refine ⟨fun _ offline => by simp [reset, Loop.between] at offline, ?_, fun q mem => ?_,
    fun _ _ _ waiting => by simp [reset] at waiting, fun _ running => absurd reset running, ?_⟩
  · rw [queueOf_congr closes.peers, closes.queues]; exact inv.made
  · rw [closes.queues]
    rcases List.mem_append.mp (closes.only mem) with registered | earlier
    · obtain ⟨⟨key, entry⟩, listed, rfl⟩ := List.mem_map.mp registered
      have found : s.peers.lookup key = some entry := AList.mem_lookup_iff.mpr listed
      exact inv.made key _ (by simp [queueOf, found])
    · exact inv.closedMade q earlier
  · rw [queueOf_congr closes.peers]; exact inv.own

/-- The deferred reset empties the registry. -/
theorem RegistryInvariant.reset {s : Adapter Raw} (inv : s.RegistryInvariant) :
    s.reset.RegistryInvariant where
  empty _ _ := rfl
  made _ _ registered := by simp [Adapter.reset, queueOf, AList.lookup_empty] at registered
  closedMade := inv.closedMade
  pending _ _ _ waiting := by simp [Adapter.reset] at waiting
  live _ _ _ _ registered := by simp [Adapter.reset, queueOf, AList.lookup_empty] at registered
  own _ _ _ registered := by simp [Adapter.reset, queueOf, AList.lookup_empty] at registered

/-- A crash keeps the invariant when the registry, its queues and the loop stay, and every
queue newly closed was registered. -/
theorem RegistryInvariant.crash {s t : Adapter Raw} (inv : s.RegistryInvariant)
    (crashed : t.crashed = true) (peers : t.peers = s.peers) (queues : t.queues = s.queues)
    (loop : t.loop = s.loop)
    (closed : ∀ q ∈ t.closedQueues, q ∈ s.closedQueues ∨ ∃ key, s.queueOf key = some q) :
    t.RegistryInvariant where
  empty alive := by simp [crashed] at alive
  made := by rw [queueOf_congr peers, queues]; exact inv.made
  closedMade q mem := by
    rw [queues]
    rcases closed q mem with earlier | ⟨key, registered⟩
    · exact inv.closedMade q earlier
    · exact inv.made key q registered
  pending sender entry offer waiting := by
    obtain ⟨lt, closedLt, registeredLt⟩ := inv.pending sender entry offer (loop ▸ waiting)
    refine ⟨queues ▸ lt, fun q mem => ?_, by rw [queueOf_congr peers]; exact registeredLt⟩
    rcases closed q mem with earlier | ⟨key, registered⟩
    · exact closedLt q earlier
    · exact registeredLt key q registered
  live alive := by simp [crashed] at alive
  own := by rw [queueOf_congr peers]; exact inv.own

/-- Deleting an entry after closing at most its queue keeps the invariant. -/
theorem RegistryInvariant.delete {s t : Adapter Raw} (inv : s.RegistryInvariant)
    (alive : s.crashed = false) {remote : String} {entry : Peer}
    (registered : s.peers.lookup remote = some entry) (peers : t.peers = s.peers.erase remote)
    (queues : t.queues = s.queues) (loop : t.loop = s.loop)
    (closed : ∀ q ∈ t.closedQueues, q = entry.candidates ∨ q ∈ s.closedQueues) :
    t.RegistryInvariant := by
  have own : s.queueOf remote = some entry.candidates := by simp [queueOf, registered]
  have erased : ∀ key q, t.queueOf key = some q → key ≠ remote ∧ s.queueOf key = some q := by
    intro key q found
    unfold queueOf at found
    rw [peers] at found
    by_cases same : key = remote
    · subst same; simp [AList.lookup_erase] at found
    · exact ⟨same, by rwa [AList.lookup_erase_ne same] at found⟩
  refine ⟨fun _ offline => ?_, fun key q found => queues ▸ inv.made key q (erased key q found).2,
    fun q mem => ?_, fun sender pending offer waiting => ?_, fun _ running key q found => ?_,
    fun key key' q found found' => inv.own key key' q (erased key q found).2 (erased key' q found').2⟩
  · simp [inv.empty alive (loop ▸ offline), AList.lookup_empty] at registered
  · rw [queues]
    rcases closed q mem with rfl | earlier
    · exact inv.made remote _ own
    · exact inv.closedMade q earlier
  · obtain ⟨lt, closedLt, registeredLt⟩ := inv.pending sender pending offer (loop ▸ waiting)
    refine ⟨queues ▸ lt, fun q mem => ?_, fun key q found => registeredLt key q (erased key q found).2⟩
    rcases closed q mem with rfl | earlier
    · exact registeredLt remote _ own
    · exact closedLt q earlier
  · obtain ⟨other, kept⟩ := erased key q found
    intro mem
    rcases closed q mem with rfl | earlier
    · exact other (inv.own key remote _ kept own)
    · exact inv.live alive (loop ▸ running) key q kept earlier

/-- A `Disconnected` handler keeps the invariant: it closes at most the queue of the entry it
deletes, and panics before it deletes it. -/
theorem RegistryInvariant.disconnected {s : Adapter Raw} (inv : s.RegistryInvariant)
    (alive : s.crashed = false) (replies : Replies) (conn : Nat) :
    (crashOnPanic (s.disconnected replies conn)).RegistryInvariant := by
  rcases s.disconnected_cases replies conn with same | ⟨c, entry, u, -, registered, closes, failed | returned⟩
  · rw [same]; exact inv
  all_goals have closedBy : ∀ q ∈ u.closedQueues, q = entry.candidates ∨ q ∈ s.closedQueues :=
    fun q mem => by simpa using closes.only mem
  · rw [failed]
    refine inv.crash rfl closes.peers closes.queues closes.loop fun q mem => ?_
    rcases closedBy q mem with rfl | earlier
    · exact .inr ⟨c.remote, by simp [queueOf, registered]⟩
    · exact .inl earlier
  · rw [returned]
    exact inv.delete alive registered rfl closes.queues closes.loop closedBy

/-- Closes that close no queue keep the set of closed queues. -/
theorem Closes.closed_iff {s t : Adapter Raw} (closes : Closes [] s t) (q : Nat) :
    q ∈ t.closedQueues ↔ q ∈ s.closedQueues :=
  ⟨fun mem => by simpa using closes.only mem, fun mem => closes.grows mem⟩

/-- An `OnOpen` handler keeps the invariant: it keeps the queue of the entry it records its
channel in. -/
theorem RegistryInvariant.channelOpen {s : Adapter Raw} (inv : s.RegistryInvariant)
    (alive : s.crashed = false) (channel : Nat) : (s.channelOpen channel).RegistryInvariant := by
  rcases s.channelOpen_cases channel with same | crashed | ⟨remote, entry, labels, channels, handle, registered, opened⟩
  · rw [same]; exact inv
  · rw [crashed]; exact inv.crash rfl rfl rfl rfl fun q mem => .inl mem
  · rw [opened]
    exact inv.transfer alive (queueOf_insert_channels registered labels rfl)
      (fun empty => by simp [empty, AList.lookup_empty] at registered) rfl (fun _ => Iff.rfl)
      (fun offline => offline) (fun _ _ _ _ => rfl) (fun running => running)

/-- An `OnClose` handler keeps the invariant: it closes no queue and keeps every entry's. -/
theorem RegistryInvariant.channelClose {s : Adapter Raw} (inv : s.RegistryInvariant)
    (alive : s.crashed = false) (replies : Replies) (channel : Nat) :
    (crashOnPanic (s.channelClose replies channel)).RegistryInvariant := by
  obtain ⟨u, closes, returned | failed | ⟨remote, entry, labels, registered, returned⟩⟩ :=
    s.channelClose_cases replies channel
  · rw [returned]
    exact inv.of_same alive closes.peers closes.queues closes.closed_iff closes.loop
  · rw [failed]
    exact inv.crash rfl closes.peers closes.queues closes.loop fun q mem => .inl ((closes.closed_iff q).mp mem)
  · rw [returned]
    exact inv.transfer alive (queueOf_insert_channels registered labels rfl)
      (fun empty => by simp [empty, AList.lookup_empty] at registered) closes.queues closes.closed_iff
      (fun offline => closes.loop ▸ offline) (fun _ _ _ _ => closes.loop.symm)
      (fun running => closes.loop ▸ running)

/-- **Every move keeps the registry invariant.** -/
theorem Moves.registry {s t : Adapter Raw} {action : Action Raw} (move : Moves codec s action t)
    (inv : s.RegistryInvariant) :
    t.RegistryInvariant := by
  cases move with
  | stay => exact inv
  | check alive top =>
    rw [check_eq]
    refine inv.transfer alive rfl (fun empty => empty) rfl (fun _ => Iff.rfl)
      (fun _ => by rw [top]; rfl) (fun _ _ _ waiting => ?_) (fun _ => by simp [top])
    split at waiting <;> cases waiting
  | dial replies alive dialing =>
    have source : s.loop ≠ .locking .reset := by simp [dialing]
    rcases s.dial_cases replies with failed | failed | ⟨id, uuids, started⟩
    · rw [failed]; exact inv.of_moved alive rfl rfl rfl source (.inr (.inr (.inl rfl)))
    · rw [failed]; exact inv.of_moved alive rfl rfl rfl source (.inr (.inl rfl))
    · rw [started]; exact inv.of_moved alive rfl rfl rfl source (.inr (.inr (.inr rfl)))
  | publish alive publishing =>
    unfold Adapter.publish
    refine RegistryInvariant.post ?_ _ _ _
    exact inv.of_moved alive rfl rfl rfl (by simp [publishing]) (.inl rfl)
  | receive replies input alive selecting _ =>
    exact inv.withHandled alive selecting (s.dispatch_valid codec replies input)
  | acquire replies c alive locking _ =>
    cases c with
    | replace sender entry offer => exact inv.replace alive locking
    | install sender conn iid answer => exact inv.install alive locking
    | enqueue candidate =>
      obtain ⟨enqueues, enqueued⟩ := s.enqueue_eq candidate
      show (s.enqueue candidate).RegistryInvariant
      rw [enqueued]
      exact inv.of_moved alive rfl rfl rfl (by simp [locking]) (.inl rfl)
    | lookup answer =>
      obtain ⟨conns, drains, looked, -⟩ := s.lookup_cases codec replies answer
      show (resume (s.lookup codec replies answer)).RegistryInvariant
      rcases resume_cases (s.lookup codec replies answer) with resumed | resumed <;> rw [resumed, looked]
      · exact inv.of_moved alive rfl rfl rfl (by simp [locking]) (.inl rfl)
      · exact inv.of_moved alive rfl rfl rfl (by simp [locking]) (.inr (.inl rfl))
    | teardown => exact inv.teardown replies
    | reset => exact inv.reset
  | send replies i alive selecting =>
    obtain ⟨lines, written, sent, -⟩ := s.send_cases codec replies i
    rcases resume_cases (s.send codec replies i) with resumed | resumed <;> rw [resumed, sent]
    · exact inv.of_moved alive rfl rfl rfl (by simp [selecting]) (.inl selecting)
    · exact inv.of_moved alive rfl rfl rfl (by simp [selecting]) (.inr (.inl rfl))
  | ping replies alive selecting =>
    obtain ⟨written, pinged, -⟩ := s.ping_cases replies
    rcases resume_cases (s.ping replies) with resumed | resumed <;> rw [resumed, pinged]
    · exact inv.of_moved alive rfl rfl rfl (by simp [selecting]) (.inl selecting)
    · exact inv.of_moved alive rfl rfl rfl (by simp [selecting]) (.inr (.inl rfl))
  | receiveError source alive selecting =>
    obtain ⟨reader, closedErrs, crashed, drains, loop, received, moved⟩ := s.receiveError_cases source
    rw [received]
    rcases moved with rfl | rfl
    · exact inv.of_moved alive rfl rfl rfl (by simp [selecting]) (.inl selecting)
    · exact inv.of_moved alive rfl rfl rfl (by simp [selecting]) (.inr (.inl rfl))
  | readError alive _ => exact inv.of_same alive rfl rfl (fun _ => Iff.rfl) rfl
  | disconnected replies conn alive _ => exact inv.disconnected alive replies conn
  | iceCandidate conn candidate alive =>
    rcases s.iceCandidate_cases conn candidate with same | ⟨c, -, -, posted⟩
    · rw [same]; exact inv
    · rw [posted]; exact inv.post _ _ _
  | dataChannel conn label alive =>
    obtain ⟨channels, added⟩ := s.dataChannel_eq conn label
    rw [added]; exact inv.of_same alive rfl rfl (fun _ => Iff.rfl) rfl
  | channelOpen channel alive _ => exact inv.channelOpen alive channel
  | channelClose replies channel alive _ => exact inv.channelClose alive replies channel
  | drain replies k j alive =>
    obtain ⟨enqueues, conns, drains, crashed, drained, -⟩ := s.drain_cases replies k j
    rw [drained]; exact inv.of_same alive rfl rfl (fun _ => Iff.rfl) rfl
  | accept alive =>
    obtain ⟨accepted, peerLock, released⟩ := s.accept_eq
    rw [released]; exact inv.of_same alive rfl rfl (fun _ => Iff.rfl) rfl
  | close alive =>
    obtain ⟨crashed, closed⟩ := s.close_eq
    rw [closed]; exact inv.of_same alive rfl rfl (fun _ => Iff.rfl) rfl

/-- **The registry invariant holds in every reachable state.** -/
theorem registryInvariant_reachable {s : Adapter Raw} (reachable : Reachable codec s) :
    s.RegistryInvariant :=
  Reachable.induction registryInvariant_newAdapter (fun s action inv => (step_moves codec s action).registry inv)
    reachable

/-- Nothing closed is reopened. -/
structure ClosedGrow (s t : Adapter Raw) : Prop where
  conns : s.closedConns ⊆ t.closedConns
  channels : s.closedChannels ⊆ t.closedChannels
  queues : s.closedQueues ⊆ t.closedQueues

theorem ClosedGrow.same {s t : Adapter Raw} (conns : t.closedConns = s.closedConns)
    (channels : t.closedChannels = s.closedChannels) (queues : t.closedQueues = s.closedQueues) :
    ClosedGrow s t :=
  ⟨conns ▸ List.Subset.refl _, channels ▸ List.Subset.refl _, queues ▸ List.Subset.refl _⟩

/-- **No move reopens what is closed.** -/
theorem Moves.closedGrow {s t : Adapter Raw} {action : Action Raw}
    (move : Moves codec s action t) : ClosedGrow s t := by
  cases move with
  | acquire replies c =>
    cases c with
    | replace sender entry offer =>
      obtain ⟨u, closes, ⟨-, -, -, failed⟩ | returned⟩ := s.replace_cases replies sender entry offer
      · show ClosedGrow s (resume (s.replace replies sender entry offer))
        rw [failed]; exact ⟨closes.conns, closes.channels, closes.grows⟩
      · show ClosedGrow s (resume (s.replace replies sender entry offer))
        rw [returned, resume, post_eq]; exact ⟨closes.conns, closes.channels, closes.grows⟩
    | teardown =>
      obtain ⟨u, closes, torn⟩ := s.teardown_frame replies
      show ClosedGrow s (s.teardown replies)
      rw [torn]; exact ⟨closes.conns, closes.channels, closes.grows⟩
    | install => simp only [Adapter.critical, Adapter.install, post_eq]; exact .same rfl rfl rfl
    | enqueue candidate =>
      obtain ⟨enqueues, enqueued⟩ := s.enqueue_eq candidate
      show ClosedGrow s (s.enqueue candidate)
      rw [enqueued]; exact .same rfl rfl rfl
    | lookup answer =>
      obtain ⟨conns, drains, looked, -⟩ := s.lookup_cases codec replies answer
      show ClosedGrow s (resume (s.lookup codec replies answer))
      rcases resume_cases (s.lookup codec replies answer) with resumed | resumed <;>
        rw [resumed, looked] <;> exact .same rfl rfl rfl
    | reset => exact .same rfl rfl rfl
  | disconnected replies conn =>
    obtain ⟨crashed, panicked⟩ := crashOnPanic_eq (s.disconnected replies conn)
    rw [panicked]
    rcases s.disconnected_cases replies conn with same | ⟨c, entry, u, -, -, closes, left | left⟩
    · rw [same]; exact .same rfl rfl rfl
    all_goals rw [left]; exact ⟨closes.conns, closes.channels, closes.grows⟩
  | channelClose replies channel =>
    obtain ⟨crashed, panicked⟩ := crashOnPanic_eq (s.channelClose replies channel)
    obtain ⟨u, closes, left | left | ⟨remote, entry, labels, -, left⟩⟩ := s.channelClose_cases replies channel
    all_goals rw [panicked, left]; exact ⟨closes.conns, closes.channels, closes.grows⟩
  | check => rw [check_eq]; exact .same rfl rfl rfl
  | dial replies =>
    rcases s.dial_cases replies with failed | failed | ⟨id, uuids, started⟩ <;>
      first | (rw [failed]; exact .same rfl rfl rfl) | (rw [started]; exact .same rfl rfl rfl)
  | publish => simp only [Adapter.publish, post_eq]; exact .same rfl rfl rfl
  | send replies i =>
    obtain ⟨lines, written, sent, -⟩ := s.send_cases codec replies i
    rcases resume_cases (s.send codec replies i) with resumed | resumed <;> rw [resumed, sent] <;>
      exact .same rfl rfl rfl
  | ping replies =>
    obtain ⟨written, pinged, -⟩ := s.ping_cases replies
    rcases resume_cases (s.ping replies) with resumed | resumed <;> rw [resumed, pinged] <;> exact .same rfl rfl rfl
  | receiveError source =>
    obtain ⟨reader, closedErrs, crashed, drains, loop, received, -⟩ := s.receiveError_cases source
    rw [received]; exact .same rfl rfl rfl
  | iceCandidate conn candidate =>
    rcases s.iceCandidate_cases conn candidate with same | ⟨c, -, -, posted⟩
    · rw [same]; exact .same rfl rfl rfl
    · rw [posted, post_eq]; exact .same rfl rfl rfl
  | dataChannel conn label =>
    obtain ⟨channels, added⟩ := s.dataChannel_eq conn label
    rw [added]; exact .same rfl rfl rfl
  | channelOpen channel =>
    rcases s.channelOpen_cases channel with same | crashed | ⟨_, _, _, _, _, _, opened⟩ <;>
      first | (rw [same]; exact .same rfl rfl rfl) | (rw [crashed]; exact .same rfl rfl rfl) | (rw [opened]; exact .same rfl rfl rfl)
  | drain replies k j =>
    obtain ⟨enqueues, conns, drains, crashed, drained, -⟩ := s.drain_cases replies k j
    rw [drained]; exact .same rfl rfl rfl
  | accept =>
    obtain ⟨accepted, peerLock, released⟩ := s.accept_eq
    rw [released]; exact .same rfl rfl rfl
  | close =>
    obtain ⟨crashed, closed⟩ := s.close_eq
    rw [closed]; exact .same rfl rfl rfl
  | _ => exact .same rfl rfl rfl

/-- **Closed stays closed.** A retired entry stays retired on every run. -/
theorem run_retired {s : Adapter Raw} {entry : Peer} (retired : s.Retired entry)
    (actions : List (Action Raw)) : (run codec s actions).Retired entry :=
  run_induction (P := fun t => t.Retired entry) (fun t action retired =>
    let grow := (step_moves codec t action).closedGrow
    retired.mono grow.conns grow.channels grow.queues) retired actions

section Retirement

/-- With every `Close` succeeding, retiring an entry whose queue is open retires it; the
queue is the one queue it closes. -/
theorem retire_retires (s : Adapter Raw) {replies : Replies} (succeed : replies.ClosesSucceed)
    {entry : Peer} (live : entry.candidates ∉ s.closedQueues) :
    ∃ t, s.retire replies entry = .ok t ∧ t.Retired entry ∧
      t.closedQueues = entry.candidates :: s.closedQueues := by
  refine ⟨_, s.retire_ok succeed live, ⟨by simp, by simp, fun label channel registered => ?_⟩, rfl⟩
  have listed : ⟨label, channel⟩ ∈ entry.channels.entries := AList.mem_lookup_iff.mp registered
  simpa using Or.inl ⟨label, listed⟩

/-- With every `Close` succeeding, retiring entries whose queues are open and pairwise
distinct retires every one of them. -/
theorem retireAll_retires (s : Adapter Raw) {replies : Replies} (succeed : replies.ClosesSucceed) :
    ∀ entries : List (Σ _ : String, Peer), (∀ e ∈ entries, e.2.candidates ∉ s.closedQueues) →
      (entries.map (·.2.candidates)).Nodup →
      ∃ t, s.retireAll replies entries = .ok t ∧ ∀ e ∈ entries, t.Retired e.2
  | [], _, _ => ⟨s, rfl, by simp⟩
  | e :: rest, live, distinct => by
    obtain ⟨u, retired, first, closed⟩ := s.retire_retires succeed (live e (.head _))
    obtain ⟨fresh, distinctRest⟩ := List.nodup_cons.mp distinct
    obtain ⟨t, retiredAll, all⟩ := u.retireAll_retires succeed rest (fun e' listed => by
      rw [closed, List.mem_cons, not_or]
      exact ⟨fun same => fresh (List.mem_map.mpr ⟨e', listed, same⟩), live e' (.tail _ listed)⟩)
      distinctRest
    have later := u.retireAll_closes replies rest
    rw [retiredAll] at later
    refine ⟨t, by simp [retireAll, retired, retiredAll], ?_⟩
    rintro e' (_ | ⟨_, listed⟩)
    · exact later.retired first
    · exact all e' listed

/-- **The teardown retires the registry.** With the registry invariant, and the loop alive
at its deferred teardown, a teardown in which every `Close` succeeds retires every
registered entry. -/
theorem teardown_retires {s : Adapter Raw} (inv : s.RegistryInvariant) (alive : s.crashed = false)
    (tearing : s.loop = .locking .teardown) {replies : Replies} (succeed : replies.ClosesSucceed)
    {sender : String} {entry : Peer} (registered : s.peers.lookup sender = some entry) :
    (s.teardown replies).Retired entry := by
  have found : ∀ {key e}, ⟨key, e⟩ ∈ s.peers.entries → s.peers.lookup key = some e :=
    AList.mem_lookup_iff.mpr
  have owned : ∀ e ∈ s.peers.entries, s.queueOf e.1 = some e.2.candidates := fun ⟨_, _⟩ listed => by
    simp [queueOf, found listed]
  have live : ∀ e ∈ s.peers.entries, e.2.candidates ∉ s.closedQueues := fun e listed =>
    inv.live alive (by simp [tearing]) e.1 _ (owned e listed)
  have distinct : (s.peers.entries.map (·.2.candidates)).Nodup := by
    refine s.peers.nodupKeys.nodup.map_on fun ⟨key, e⟩ listed ⟨key', e'⟩ listed' same => ?_
    obtain rfl := inv.own key key' _ (owned _ listed) (same ▸ owned _ listed')
    cases (found listed).symm.trans (found listed')
    rfl
  obtain ⟨t, retired, all⟩ :=
    retireAll_retires { s with loop := .locking .reset } succeed s.peers.entries live distinct
  have torn : s.teardown replies = t := by simp [teardown, succeed.1, retired, Outcome.state]
  exact torn ▸ all ⟨sender, entry⟩ (AList.mem_lookup_iff.mp registered)

/-- **The teardown is complete when every `Close` succeeds.** From a reachable state where
the loop, holding no lock, is at its deferred teardown, a teardown in which every `Close`
succeeds retires every registered entry, which stays retired on every run after it, whatever
that run does; and whenever such a run leaves the loop alive and about to dial again, the
registry is empty. -/
theorem teardown_complete {s : Adapter Raw} (reachable : Reachable codec s) (alive : s.crashed = false)
    (tearing : s.loop = .locking .teardown) (free : s.peerLock = none) {replies : Replies}
    (succeed : replies.ClosesSucceed) {sender : String} {entry : Peer}
    (registered : s.peers.lookup sender = some entry) (actions : List (Action Raw)) :
    (run codec (step codec s (.acquire replies)) actions).Retired entry ∧
      ((run codec (step codec s (.acquire replies)) actions).crashed = false →
        (run codec (step codec s (.acquire replies)) actions).loop = .dialing →
        (run codec (step codec s (.acquire replies)) actions).peers = ∅) := by
  have torn : step codec s (.acquire replies) = s.teardown replies := by
    simp [step, alive, tearing, free, critical]
  refine ⟨?_, fun running dialing =>
    (registryInvariant_reachable (reachable.extend (.acquire replies :: actions))).empty running
      (by rw [run_cons, dialing]; rfl)⟩
  rw [torn]
  exact run_retired (teardown_retires (registryInvariant_reachable reachable) alive tearing succeed
    registered) actions

/-- A session ends: the loop dials, writes its introduction, handles B's introduction and
registers B's entry; then the reader fails, and the loop panics out of its `select`. -/
def sessionEnds : List (Action Plain) :=
  opening ++ [.receive (.introduction "B") {}, .acquire {}, .readError, .receiveError none]

/-- After `sessionEnds`, a teardown in which every `Close` succeeds, the reset, and the head of
the reconnect loop, which dials again. -/
theorem sessionEnds_teardown_complete :
    (replay sessionEnds).peers.lookup "B" = some ⟨0, 0, (∅ : AList _).insert "primary" 0, 0⟩ ∧
      (run Codec.plain (step Codec.plain (replay sessionEnds) (.acquire {})) [.acquire {}, .check]).Retired
        ⟨0, 0, (∅ : AList _).insert "primary" 0, 0⟩ ∧
      (run Codec.plain (step Codec.plain (replay sessionEnds) (.acquire {})) [.acquire {}, .check]).peers = ∅ :=
  have registered : (replay sessionEnds).peers.lookup "B" = some ⟨0, 0, (∅ : AList _).insert "primary" 0, 0⟩ :=
    rfl
  have complete := teardown_complete ⟨_, _, rfl⟩ (by decide) (by decide) (by decide)
    ⟨rfl, fun _ => rfl, fun _ => rfl⟩ registered [.acquire {}, .check]
  ⟨registered, complete.1, complete.2 (by decide) (by decide)⟩

/-- The session of `sessionEnds` ends; in its teardown the `Close` of B's connection fails; the
reset runs and the loop goes back to dial. -/
def failedTeardown : List (Action Plain) :=
  sessionEnds ++ [.acquire { closeConn := fun _ => false }, .acquire {}, .check]

/-- When the loop dials again, the registry is empty, and the connection and the candidate
queue of the entry B had are still open. -/
theorem failedTeardown_leaves_open :
    ((replay sessionEnds).peers.lookup "B").map (fun entry => (entry.conn, entry.candidates)) =
        some (0, 0) ∧
      (replay failedTeardown).loop = .dialing ∧ (replay failedTeardown).crashed = false ∧
      (replay failedTeardown).peers.entries = [] ∧ 0 ∉ (replay failedTeardown).closedConns ∧
      0 ∉ (replay failedTeardown).closedQueues := by
  decide

end Retirement

section Disconnect

/-- A chain that panics at its first part panics. -/
theorem bind_error {o : Outcome Raw} {f : Adapter Raw → Outcome Raw}
    (fails : ∀ u, o = .ok u → ∃ v, f u = .error v) : ∃ v, o.bind f = .error v := by
  cases o with
  | error u => exact ⟨u, rfl⟩
  | ok u => exact fails u rfl

/-- `close` of a closed channel panics. -/
theorem closeQueue_closed {s : Adapter Raw} {queue : Nat} (closed : queue ∈ s.closedQueues) :
    s.closeQueue queue = .error s :=
  if_pos closed

/-- Retiring an entry whose queue is closed panics, whatever the engine answers: the queue is
closed last, and the closes before it leave it closed. -/
theorem retire_closed_queue (s : Adapter Raw) (replies : Replies) {entry : Peer}
    (closed : entry.candidates ∈ s.closedQueues) : ∃ u, s.retire replies entry = .error u := by
  refine bind_error fun u channels => bind_error fun v conn => ⟨v, closeQueue_closed ?_⟩
  have first := s.closeChannels_closes replies entry.channels.entries
  have second := u.closeConn_closes replies entry.conn
  rw [channels] at first
  rw [conn] at second
  exact second.grows (first.grows closed)

/-- The offer branch's retirement of an entry whose queue is closed panics as well. -/
theorem retireAnswering_closed_queue (s : Adapter Raw) (replies : Replies) {entry : Peer}
    (closed : entry.candidates ∈ s.closedQueues) : ∃ u, s.retireAnswering replies entry =
    .error u := by
  refine bind_error fun u once => bind_error fun v twice => ⟨v, closeQueue_closed ?_⟩
  have first := s.closeConn_closes replies entry.conn
  have second := u.closeConn_closes replies entry.conn
  rw [once] at first
  rw [twice] at second
  exact second.grows (first.grows closed)

/-- A `Disconnected` handler that finds its entry under its own `iid` with the entry's queue
closed panics, whatever the engine answers: it closes the queue a second time. -/
theorem disconnected_closed_queue (s : Adapter Raw) (replies : Replies) {conn : Nat} {c : Conn Raw}
    (found : s.conns[conn]? = some c) {entry : Peer}
    (registered : s.peers.lookup c.remote = some entry)
    (current : entry.iid = c.iid) (closed : entry.candidates ∈ s.closedQueues) :
    ∃ u, s.disconnected replies conn = .error u := by
  obtain ⟨u, failed⟩ : ∃ u, (if c.answering then s.retireAnswering replies entry
      else s.retire replies entry) = .error u := by
    split
    · exact s.retireAnswering_closed_queue replies closed
    · exact s.retire_closed_queue replies closed
  exact ⟨u, by simp [disconnected, found, registered, current, failed, Except.bind]⟩

/-- **The teardown leaves closed queues registered.** After a teardown in which every `Close`
succeeds, and before the reset, the `Disconnected` handler of the connection of a registered
entry panics, whatever the engine answers: it closes the entry's queue a second time. -/
theorem teardown_disconnected_panics {s : Adapter Raw} (inv : s.RegistryInvariant)
    (alive : s.crashed = false) (tearing : s.loop = .locking .teardown) {replies : Replies}
    (succeed : replies.ClosesSucceed) {conn : Nat} {c : Conn Raw} (found : s.conns[conn]? = some c)
    {entry : Peer} (registered : s.peers.lookup c.remote = some entry) (current : entry.iid = c.iid)
    (later : Replies) : ∃ u, (s.teardown replies).disconnected later conn = .error u := by
  have retired := teardown_retires inv alive tearing succeed registered
  obtain ⟨u, closes, torn⟩ := s.teardown_frame replies
  rw [torn] at retired ⊢
  refine u.disconnected_closed_queue later ?_ (closes.peers ▸ registered) current retired.2.1
  rw [closes.eq]
  exact found

/-- The session of `sessionEnds` ends and its teardown succeeds; before the reset, the
`Disconnected` handler of B's connection runs. -/
def disconnectAfterTeardown : List (Action Plain) := sessionEnds ++ [.acquire {}, .disconnected 0 {}]

/-- A session answers B's offer and enqueues a candidate from B for the drain goroutine;
then the reader fails, the loop panics out of its `select`, and the reader closes `errs`. -/
def staleDrain : List (Action Plain) :=
  opening ++ [.receive (.exchange typeOffer "B" "A" (.description ⟨.offer, "B", 0⟩)) {}, .acquire {},
    .receive (.exchange typeCandidate "B" "A" (.text "c")) {}, .acquire {}, .readError, .receiveError none]

/-- Both races end the process. The teardown leaves B's entry registered with its queue
closed, and the `Disconnected` handler closes the queue again. The drain goroutine's
`AddICECandidate` fails after the reader closed `errs`, and it sends the error on `errs`. -/
theorem sessionEnd_races_crash :
    (replay (sessionEnds ++ [.acquire {}])).loop = .locking .reset ∧
      ((replay (sessionEnds ++ [.acquire {}])).peers.lookup "B").map Peer.candidates = some 0 ∧
      0 ∈ (replay (sessionEnds ++ [.acquire {}])).closedQueues ∧
      (replay disconnectAfterTeardown).crashed = true ∧
      (replay staleDrain).crashed = false ∧ (replay staleDrain).session ∈ (replay staleDrain).closedErrs ∧
      (replay (staleDrain ++ [.drain 0 0 { addICECandidate := false }])).crashed = true := by
  decide

end Disconnect

end Adapter

end Weron
