import Weron.Step

/-!
# What a step can do

`step_moves` lists, once, every move a step can make and the condition under which it makes
it (`Moves`); the invariants of the later modules are case analyses of it.

The registry teardowns are chains of `Close` calls that panic at the first failure. Such a
chain changes only the sets of closed objects, which grow, and the goroutines the closes
end (`Closes`); `retire_closes` and `retireAll_closes` say so of the chains every teardown is
built from, whatever the engine answers.
-/

namespace Weron

namespace Adapter

variable {Raw : Type}

section Closes

/-- The entry's connection, its candidate queue and every channel registered in it are
closed. -/
def Retired (s : Adapter Raw) (entry : Peer) : Prop :=
  entry.conn ∈ s.closedConns ∧ entry.candidates ∈ s.closedQueues ∧
    ∀ label channel, entry.channels.lookup label = some channel → channel ∈ s.closedChannels

/-- Closed objects stay closed. -/
theorem Retired.mono {s t : Adapter Raw} {entry : Peer} (retired : s.Retired entry)
    (conns : s.closedConns ⊆ t.closedConns) (channels : s.closedChannels ⊆ t.closedChannels)
    (queues : s.closedQueues ⊆ t.closedQueues) : t.Retired entry :=
  ⟨conns retired.1, queues retired.2.1, fun label channel found => channels (retired.2.2 label channel found)⟩

/-- `t` is `s` after some closes that close no candidate queue outside `queues`: the sets
of closed objects grow, the enqueuers and drain loops of a closed queue end, and nothing
else changes. -/
structure Closes (queues : List Nat) (s t : Adapter Raw) : Prop where
  eq : t = { s with
    closedConns := t.closedConns
    closedChannels := t.closedChannels
    closedQueues := t.closedQueues
    enqueues := t.enqueues
    drains := t.drains }
  conns : s.closedConns ⊆ t.closedConns
  channels : s.closedChannels ⊆ t.closedChannels
  grows : s.closedQueues ⊆ t.closedQueues
  only : t.closedQueues ⊆ queues ++ s.closedQueues

theorem Closes.refl (queues : List Nat) (s : Adapter Raw) : Closes queues s s :=
  ⟨rfl, List.Subset.refl _, List.Subset.refl _, List.Subset.refl _, List.subset_append_right _ _⟩

theorem Closes.mono {queues more : List Nat} {s t : Adapter Raw} (closes : Closes queues s t)
    (sub : queues ⊆ more) : Closes more s t :=
  { closes with
    only := fun q closed => by
      have := closes.only closed
      simp only [List.mem_append] at this ⊢
      exact this.imp_left fun named => sub named }

theorem Closes.trans {first second : List Nat} {s u t : Adapter Raw} (before : Closes first s u)
    (after : Closes second u t) : Closes (first ++ second) s t where
  eq := by rw [after.eq, before.eq]
  conns := before.conns.trans after.conns
  channels := before.channels.trans after.channels
  grows := before.grows.trans after.grows
  only q closed := by
    have := after.only closed
    simp only [List.mem_append] at this ⊢
    rcases this with named | earlier
    · exact .inl (.inr named)
    · exact (List.mem_append.mp (before.only earlier)).imp_left .inl

theorem Closes.retired {queues : List Nat} {s t : Adapter Raw} (closes : Closes queues s t)
    {entry : Peer} (retired : s.Retired entry) : t.Retired entry :=
  retired.mono closes.conns closes.channels closes.grows

theorem Closes.peers {queues : List Nat} {s t : Adapter Raw} (closes : Closes queues s t) :
    t.peers = s.peers :=
  by rw [closes.eq]

theorem Closes.queues {queues : List Nat} {s t : Adapter Raw} (closes : Closes queues s t) :
    t.queues = s.queues :=
  by rw [closes.eq]

theorem Closes.loop {queues : List Nat} {s t : Adapter Raw} (closes : Closes queues s t) :
    t.loop = s.loop :=
  by rw [closes.eq]

theorem Closes.crashed {queues : List Nat} {s t : Adapter Raw} (closes : Closes queues s t) :
    t.crashed = s.crashed :=
  by rw [closes.eq]

/-- A chain continues from where its first part returned, and stops where it panicked. -/
theorem Closes.bind {first second : List Nat} {s : Adapter Raw} {o : Outcome Raw}
    {f : Adapter Raw → Outcome Raw} (before : Closes first s o.state)
    (rest : ∀ u, o = .ok u → Closes second u (f u).state) :
    Closes (first ++ second) s (Outcome.state (o.bind f)) := by
  cases o with
  | error u => exact before.mono (List.subset_append_left _ _)
  | ok u => exact before.trans (rest u rfl)

theorem closeChannel_closes (s : Adapter Raw) (replies : Replies) (channel : Nat) :
    Closes [] s (s.closeChannel replies channel).state := by
  unfold closeChannel
  split
  · exact ⟨rfl, List.Subset.refl _, List.subset_cons_self _ _, List.Subset.refl _, List.Subset.refl _⟩
  · exact .refl _ s

theorem closeConn_closes (s : Adapter Raw) (replies : Replies) (conn : Nat) :
    Closes [] s (s.closeConn replies conn).state := by
  unfold closeConn
  split
  · exact ⟨rfl, List.subset_cons_self _ _, List.Subset.refl _, List.Subset.refl _, List.Subset.refl _⟩
  · exact .refl _ s

theorem closeQueue_closes (s : Adapter Raw) (queue : Nat) :
    Closes [queue] s (s.closeQueue queue).state := by
  unfold closeQueue
  split
  · exact .refl _ s
  · exact ⟨rfl, List.Subset.refl _, List.Subset.refl _, List.subset_cons_self _ _, List.Subset.refl _⟩

theorem closeChannels_closes (s : Adapter Raw) (replies : Replies)
    (channels : List (Σ _ : String, Nat)) :
    Closes [] s (s.closeChannels replies channels).state := by
  induction channels generalizing s with
  | nil => exact .refl _ s
  | cons channel rest ih =>
    have first := s.closeChannel_closes replies channel.2
    unfold closeChannels
    split
    · next u closed => rw [closed] at first; exact first.trans (ih u)
    · next u failed => rw [failed] at first; exact first

/-- **A retirement only closes.** Whatever the engine answers, retiring an entry closes at
most its own candidate queue and changes nothing but the closed sets and what the closes
end. -/
theorem retire_closes (s : Adapter Raw) (replies : Replies) (entry : Peer) :
    Closes [entry.candidates] s (s.retire replies entry).state :=
  (s.closeChannels_closes replies _).bind fun u _ =>
    (u.closeConn_closes replies _).bind fun v _ => v.closeQueue_closes _

theorem retireAnswering_closes (s : Adapter Raw) (replies : Replies) (entry : Peer) :
    Closes [entry.candidates] s (s.retireAnswering replies entry).state :=
  (s.closeConn_closes replies _).bind fun u _ =>
    (u.closeConn_closes replies _).bind fun v _ => v.closeQueue_closes _

theorem retireAll_closes (s : Adapter Raw) (replies : Replies)
    (entries : List (Σ _ : String, Peer)) :
    Closes (entries.map (·.2.candidates)) s (s.retireAll replies entries).state := by
  induction entries generalizing s with
  | nil => exact .refl _ s
  | cons entry rest ih =>
    have first := s.retire_closes replies entry.2
    unfold retireAll
    split
    · next u retired => rw [retired] at first; exact first.trans (ih u)
    · next u failed => rw [failed] at first; exact first.mono (by simp)

/-- A retirement that panics leaves the entry's queue as it was: the queue is its last
close. -/
theorem retire_error_queue {s u : Adapter Raw} {replies : Replies} {entry : Peer}
    (failed : s.retire replies entry = .error u) (live : entry.candidates ∉ s.closedQueues) :
    entry.candidates ∉ u.closedQueues := by
  have channels := s.closeChannels_closes replies entry.channels.entries
  unfold retire at failed
  cases closed : s.closeChannels replies entry.channels.entries with
  | error v =>
    rw [closed] at failed channels; cases failed
    exact fun mem => live (by simpa using channels.only mem)
  | ok v =>
    rw [closed] at failed channels
    dsimp only [Except.bind] at failed
    have conn := v.closeConn_closes replies entry.conn
    cases connClosed : v.closeConn replies entry.conn with
    | error w =>
      rw [connClosed] at failed conn; cases failed
      exact fun mem => live (by simpa using channels.only (by simpa using conn.only mem))
    | ok w =>
      rw [connClosed] at failed conn
      dsimp only [Except.bind] at failed
      unfold closeQueue at failed
      split at failed
      · cases failed
        exact fun mem => live (by simpa using channels.only (by simpa using conn.only mem))
      · cases failed

/-- A callback's panic ends the process and changes nothing else. -/
theorem crashOnPanic_eq (o : Outcome Raw) : ∃ crashed, crashOnPanic o =
    { o.state with crashed := crashed } := by
  cases o with
  | ok s => exact ⟨s.crashed, rfl⟩
  | error s => exact ⟨true, rfl⟩

/-- A panic of the loop sends it to the deferred teardown and changes nothing else. -/
theorem resume_cases (o : Outcome Raw) : resume o = o.state ∨ resume o = o.state.unwind := by
  cases o with
  | ok s => exact .inl rfl
  | error s => exact .inr rfl

/-- **What a `Disconnected` handler does.** It returns with the state as it was, or it
finds the entry registered for its connection's remote id under its own `iid` and retires
it, closing no other queue: if every close returns, it then deletes the entry, and a failed
close panics with the closes made so far. -/
theorem disconnected_cases (s : Adapter Raw) (replies : Replies) (conn : Nat) :
    s.disconnected replies conn = .ok s ∨
      ∃ c entry u, s.conns[conn]? = some c ∧ s.peers.lookup c.remote = some entry ∧
        Closes [entry.candidates] s u ∧
        (s.disconnected replies conn = .error u ∨
          s.disconnected replies conn = .ok { u with peers := s.peers.erase c.remote }) := by
  unfold disconnected
  split
  · exact .inl rfl
  · next c found =>
    split
    · exact .inl rfl
    · next entry registered =>
      split
      · exact .inl rfl
      · refine .inr ⟨c, entry, ?_⟩
        have closes : Closes [entry.candidates] s (Outcome.state
            (if c.answering then s.retireAnswering replies entry else s.retire replies entry)) := by
          split
          · exact s.retireAnswering_closes replies entry
          · exact s.retire_closes replies entry
        revert closes
        cases (if c.answering then s.retireAnswering replies entry else s.retire replies entry) with
        | error u => exact fun closes => ⟨u, found, registered, closes, .inl rfl⟩
        | ok u =>
          refine fun (closes : Closes _ s u) => ⟨u, found, registered, closes, .inr ?_⟩
          rw [← closes.peers]
          rfl

/-- **What an `OnClose` handler does.** It closes channels only; it returns with the
registry as it was, panics with it as it was, or returns having changed the channels of
the entry registered for one remote id. -/
theorem channelClose_cases (s : Adapter Raw) (replies : Replies) (channel : Nat) :
    ∃ u, Closes [] s u ∧ (s.channelClose replies channel = .ok u ∨
      s.channelClose replies channel = .error u ∨
      ∃ remote entry channels, s.peers.lookup remote = some entry ∧
        s.channelClose replies channel =
          .ok { u with peers := s.peers.insert remote { entry with channels := channels } }) := by
  have marked : Closes [] s { s with closedChannels := channel :: s.closedChannels } :=
    ⟨rfl, List.Subset.refl _, List.subset_cons_self _ _, List.Subset.refl _, List.Subset.refl _⟩
  unfold channelClose
  split
  · exact ⟨s, .refl _ s, .inl rfl⟩
  · next d _ =>
    dsimp only
    split
    · exact ⟨_, marked, .inl rfl⟩
    · split
      · exact ⟨_, marked, .inl rfl⟩
      · next c _ =>
        split
        · exact ⟨_, marked, .inr (.inl rfl)⟩
        · next entry registered =>
          split
          · exact ⟨_, marked, .inl rfl⟩
          · next found _ =>
            have closes : Closes [] s _ := marked.trans (closeChannel_closes _ replies found)
            revert closes
            cases closeChannel _ replies found with
            | error u => exact fun closes => ⟨u, closes, .inr (.inl rfl)⟩
            | ok u =>
              refine fun (closes : Closes [] s u) =>
                ⟨u, closes, .inr (.inr ⟨c.remote, entry, entry.channels.erase d.label, registered, ?_⟩)⟩
              rw [← closes.peers]
              rfl

/-- **What the introduction branch's critical section does.** It takes the lock and retires
the sender's old entry, if any, closing no other queue. A failed close of that retirement
panics with the lock held; otherwise the section registers the new entry, frees the lock
and posts the offer. -/
theorem replace_cases (s : Adapter Raw) (replies : Replies) (sender : String) (entry : Peer)
    (offer : SessionDescription) :
    ∃ u, Closes ((s.peers.lookup sender).toList.map Peer.candidates)
        { s with peerLock := some .loop } u ∧
      ((∃ old, s.peers.lookup sender = some old ∧
          { s with peerLock := some .loop }.retire replies old = .error u ∧
          s.replace replies sender entry offer = .error u) ∨
        s.replace replies sender entry offer = .ok (post { u with
          peers := u.peers.insert sender entry
          peerLock := none
          loop := .selecting } (.offer u.id sender offer) u.session (.offer entry.conn))) := by
  unfold replace
  dsimp only
  split
  · next absent => rw [absent]; exact ⟨_, .refl _ _, .inr rfl⟩
  · next old present =>
    rw [present]
    have closes := retire_closes { s with peerLock := some .loop } replies old
    revert closes
    cases retired : retire { s with peerLock := some .loop } replies old with
    | error u => exact fun closes => ⟨u, closes, .inl ⟨old, rfl, retired, rfl⟩⟩
    | ok u => exact fun closes => ⟨u, closes, .inr rfl⟩

/-- The deferred teardown only closes, and moves the loop on to the registry reset. -/
theorem teardown_frame (s : Adapter Raw) (replies : Replies) :
    ∃ u, Closes (s.peers.entries.map (·.2.candidates)) { s with loop := .locking .reset } u ∧
      s.teardown replies = u := by
  unfold teardown
  dsimp only
  split
  · exact ⟨_, .refl _ _, rfl⟩
  · exact ⟨_, retireAll_closes _ replies _, rfl⟩

end Closes

section Moves

variable (codec : Codec Raw)

/-- The moves a step can make from `s` on each action, each under the condition that enables
it: the session loop's at its control point, the reader's while it reads, the handlers that
take `a.peerLock` while it is free; nothing moves once the process has crashed. -/
inductive Moves (s : Adapter Raw) : Action Raw → Adapter Raw → Prop
  | stay {action : Action Raw} : Moves s action s
  | check : s.crashed = false → s.loop = .top → Moves s .check s.check
  | dial (replies : Replies) : s.crashed = false → s.loop = .dialing →
      Moves s (.dial replies) (s.dial replies)
  | publish : s.crashed = false → s.loop = .publishing → Moves s .publish s.publish
  | receive (replies : Replies) (input : Raw) : s.crashed = false → s.loop = .selecting →
      s.reader = .reading → Moves s (.receive input replies) (s.withHandled (s.dispatch codec replies input))
  | acquire (replies : Replies) (critical : Critical Raw) : s.crashed = false →
      s.loop = .locking critical → s.peerLock = none →
      Moves s (.acquire replies) (s.critical codec replies critical)
  | send (replies : Replies) (i : Nat) : s.crashed = false → s.loop = .selecting →
      Moves s (.send i replies) (resume (s.send codec replies i))
  | ping (replies : Replies) : s.crashed = false → s.loop = .selecting →
      Moves s (.ping replies) (resume (s.ping replies))
  | receiveError (source : Option Nat) : s.crashed = false → s.loop = .selecting →
      Moves s (.receiveError source) (s.receiveError source)
  | readError : s.crashed = false → s.reader = .reading → Moves s .readError { s with reader := .failed }
  | disconnected (replies : Replies) (conn : Nat) : s.crashed = false → s.peerLock = none →
      Moves s (.disconnected conn replies) (crashOnPanic (s.disconnected replies conn))
  | iceCandidate (conn : Nat) (candidate : Raw) : s.crashed = false →
      Moves s (.iceCandidate conn candidate) (s.iceCandidate conn candidate)
  | dataChannel (conn : Nat) (label : String) : s.crashed = false →
      Moves s (.dataChannel conn label) (s.dataChannel conn label)
  | channelOpen (channel : Nat) : s.crashed = false → s.peerLock = none →
      Moves s (.channelOpen channel) (s.channelOpen channel)
  | channelClose (replies : Replies) (channel : Nat) : s.crashed = false → s.peerLock = none →
      Moves s (.channelClose channel replies) (crashOnPanic (s.channelClose replies channel))
  | drain (replies : Replies) (k j : Nat) : s.crashed = false →
      Moves s (.drain k j replies) (s.drain replies k j)
  | accept : s.crashed = false → Moves s .accept s.accept
  | close : s.crashed = false → Moves s .close s.close

/-- **What a step can do.** Every step makes one of the moves of `Moves`. -/
theorem step_moves (s : Adapter Raw) (action : Action Raw) :
    Moves codec s action (step codec s action) := by
  by_cases crashed : s.crashed = true
  · rw [step_crashed codec crashed]; exact .stay
  have alive : s.crashed = false := by simpa using crashed
  have free : s.peerLock.isNone = true → s.peerLock = none := Option.isNone_iff_eq_none.mp
  rw [step.eq_def, if_neg crashed]
  cases action with
  | check => dsimp only; split <;> first | exact .check alive ‹_› | exact .stay
  | dial replies =>
    dsimp only; split <;> first | exact .dial replies alive ‹_› | exact .stay
  | publish => dsimp only; split <;> first | exact .publish alive ‹_› | exact .stay
  | receive input replies =>
    dsimp only
    split <;> (try split) <;> first | exact .receive replies input alive ‹_› ‹_› | exact .stay
  | acquire replies =>
    dsimp only
    split <;> (try split) <;> first | exact .acquire replies _ alive ‹_› (free ‹_›) | exact .stay
  | send i replies =>
    dsimp only; split <;> first | exact .send replies i alive ‹_› | exact .stay
  | ping replies =>
    dsimp only; split <;> first | exact .ping replies alive ‹_› | exact .stay
  | receiveError source =>
    dsimp only
    split <;> first | exact .receiveError source alive ‹_› | exact .stay
  | readError =>
    dsimp only; split <;> first | exact .readError alive ‹_› | exact .stay
  | disconnected conn replies =>
    dsimp only
    split <;> first | exact .disconnected replies conn alive (free ‹_›) | exact .stay
  | iceCandidate conn candidate =>
    dsimp only; exact .iceCandidate conn candidate alive
  | dataChannel conn label => dsimp only; exact .dataChannel conn label alive
  | channelOpen channel =>
    dsimp only
    split <;> first | exact .channelOpen channel alive (free ‹_›) | exact .stay
  | channelClose channel replies =>
    dsimp only
    split <;> first | exact .channelClose replies channel alive (free ‹_›) | exact .stay
  | drain k j replies => dsimp only; exact .drain replies k j alive
  | accept => dsimp only; exact .accept alive
  | close => dsimp only; exact .close alive

end Moves

end Adapter

end Weron
