import Weron.Outputs

/-!
# The channels the registry files

Every registry entry `a.peers[X]` maps labels to data channels (`peer.channels`). Three
kinds of handler write the map: the introduction branch files its primary channel under the
configured label (409-419), the `OnOpen` handlers file their channel under its label in the
entry registered for their connection's remote id (378, 427 and 604), and the `OnClose`
handlers delete their label (383-405, 432-454 and 609-631). The offer branch registers an
entry with no channels (669-671). The teardowns close what the map holds (173-198, 307-348
and 475-496).

`Filed` holds in every reachable state (`filed_reachable`): every channel filed in the
entry of `X` under label `L` is a data channel labelled `L` on a connection created for `X`
(`registry_channels`). A teardown of `X`'s entry therefore closes only channels of `X`'s
connections, however the entry was superseded.
-/

namespace Weron

/-- The entry the introduction branch's critical section waits to register, with its key. -/
def Loop.replacing {Raw : Type} : Loop Raw → Option (String × Peer)
  | .locking (.replace key entry _) => some (key, entry)
  | _ => none

namespace Adapter

variable {Raw : Type} {codec : Codec Raw}

/-- The channel at `channel` is a data channel labelled `label` on a connection created for
`key`. -/
def ChannelOf (s : Adapter Raw) (key label : String) (channel : Nat) : Prop :=
  ∃ d c, s.channels[channel]? = some d ∧ d.label = label ∧ s.conns[d.conn]? = some c ∧ c.remote = key

/-- Every channel `entry` files under a label is a channel of `key`'s with that label. -/
def Files (s : Adapter Raw) (key : String) (entry : Peer) : Prop :=
  ∀ label channel, entry.channels.lookup label = some channel → s.ChannelOf key label channel

theorem ChannelOf.grow {s t : Adapter Raw} {key label : String} {channel : Nat}
    (filed : s.ChannelOf key label channel) (framed : Framed s t) : t.ChannelOf key label channel := by
  obtain ⟨d, c, found, labelled, owner, remote⟩ := filed
  obtain ⟨d', found', conn, label', -⟩ := framed.channels _ d found
  obtain ⟨c', owner', same⟩ := identity_of_grown framed.conns owner
  exact ⟨d', c', found', label'.trans labelled, conn ▸ owner', (congrArg Prod.fst same).trans remote⟩

theorem Files.grow {s t : Adapter Raw} {key : String} {entry : Peer} (files : s.Files key entry)
    (framed : Framed s t) : t.Files key entry :=
  fun label channel found => (files label channel found).grow framed

/-- An `OnOpen` handler files a channel of the entry's key under the channel's label. -/
theorem Files.insert {s : Adapter Raw} {key label : String} {entry : Peer} {channel : Nat}
    (files : s.Files key entry) (filed : s.ChannelOf key label channel) :
    s.Files key { entry with channels := entry.channels.insert label channel } := by
  intro label' channel' found
  by_cases same : label' = label
  · subst same
    rw [AList.lookup_insert] at found
    cases found
    exact filed
  · rw [AList.lookup_insert_ne same] at found
    exact files label' channel' found

/-- An `OnClose` handler deletes a label. -/
theorem Files.erase {s : Adapter Raw} {key label : String} {entry : Peer} (files : s.Files key entry) :
    s.Files key { entry with channels := entry.channels.erase label } := by
  intro label' channel found
  by_cases same : label' = label
  · subst same
    rw [AList.lookup_erase] at found
    cases found
  · rw [AList.lookup_erase_ne same] at found
    exact files label' channel found

/-- The channels the registry files, between moves: every entry registered under a key, and
the entry the introduction branch waits to register for its sender, files only channels of
that key's connections, under their own labels. -/
structure Filed (s : Adapter Raw) : Prop where
  registered : ∀ key entry, s.peers.lookup key = some entry → s.Files key entry
  pending : ∀ key entry, s.loop.replacing = some (key, entry) → s.Files key entry

theorem filed_newAdapter (config : Option AdapterConfig) : (newAdapter config : Adapter Raw).Filed where
  registered _ _ found := by simp [newAdapter, AList.lookup_empty] at found
  pending _ _ waiting := by simp [newAdapter, Loop.replacing] at waiting

/-- A move that registers only entries `s` registered or entries that file channels of
their key's, and waits to register only the entry `s` waited for or one of that kind. -/
theorem Filed.transfer {s t : Adapter Raw} (inv : s.Filed) (framed : Framed s t)
    (peers : ∀ key entry, t.peers.lookup key = some entry → s.peers.lookup key = some entry ∨ t.Files key entry)
    (loop : ∀ key entry, t.loop.replacing = some (key, entry) →
      s.loop.replacing = some (key, entry) ∨ t.Files key entry) : t.Filed where
  registered key entry found := (peers key entry found).elim (fun old => (inv.registered key entry old).grow framed)
    fun files => files
  pending key entry waiting := (loop key entry waiting).elim (fun old => (inv.pending key entry old).grow framed)
    fun files => files

/-- Waiting to register nothing, or what `s` waited to register. -/
theorem Loop.replacing_kept {s t : Adapter Raw}
    (loop : t.loop.replacing = none ∨ t.loop.replacing = s.loop.replacing) (key : String) (entry : Peer)
    (waiting : t.loop.replacing = some (key, entry)) : s.loop.replacing = some (key, entry) := by
  rcases loop with idle | same
  · rw [idle] at waiting; cases waiting
  · exact same ▸ waiting

theorem Filed.keep {s t : Adapter Raw} (inv : s.Filed) (framed : Framed s t) (peers : t.peers = s.peers)
    (loop : t.loop.replacing = none ∨ t.loop.replacing = s.loop.replacing) : t.Filed :=
  inv.transfer framed (fun _ _ found => .inl (peers ▸ found))
    fun key entry waiting => .inl (Loop.replacing_kept loop key entry waiting)

/-- Registering an entry over whatever its key had. -/
theorem Filed.insert {s t : Adapter Raw} (inv : s.Filed) (framed : Framed s t) {key : String}
    {entry : Peer} (peers : t.peers = s.peers.insert key entry) (files : t.Files key entry)
    (loop : t.loop.replacing = none ∨ t.loop.replacing = s.loop.replacing) : t.Filed := by
  refine inv.transfer framed (fun key' entry' found => ?_)
    fun key entry waiting => .inl (Loop.replacing_kept loop key entry waiting)
  rw [peers] at found
  by_cases same : key' = key
  · subst same
    rw [AList.lookup_insert] at found
    cases found
    exact .inr files
  · rw [AList.lookup_insert_ne same] at found
    exact .inl found

section Shapes

/-- The introduction branch waits to register an entry that files the primary channel it
created, on the connection it created for the sender. -/
theorem onIntroduction_files (s : Adapter Raw) (replies : Replies) (introduction : Introduction) :
    ∀ key entry, (s.onIntroduction replies introduction).loop.replacing = some (key, entry) →
      (s.withHandled (s.onIntroduction replies introduction)).Files key entry := by
  unfold onIntroduction
  dsimp only
  split_ifs
  · exact fun _ _ waiting => nomatch waiting
  · exact fun _ _ waiting => nomatch waiting
  · exact fun _ _ waiting => nomatch waiting
  · intro key entry waiting label channel found
    cases waiting
    by_cases same : label = s.config.primaryChannelId
    · subst same
      rw [AList.lookup_insert] at found
      cases found
      refine ⟨⟨s.conns.length, s.config.primaryChannelId, false⟩,
        ⟨introduction.sender, s.uuids, s.session, false, some ⟨.offer, s.id, s.conns.length⟩, none, []⟩,
        List.getElem?_concat_length _ _, rfl, ?_, rfl⟩
      show ((s.conns ++ [_]).modify _ s.conns.length)[s.conns.length]? = _
      rw [modify_concat_length]
      exact List.getElem?_concat_length _ _
    · rw [AList.lookup_insert_ne same, AList.lookup_empty] at found
      cases found

theorem onOffer_replacing (s : Adapter Raw) (replies : Replies) (offer : Exchange Raw) :
    (s.onOffer codec replies offer).loop.replacing = none := by
  unfold onOffer
  by_cases other : offer.recipient ≠ s.id
  · rw [if_pos other]; rfl
  rw [if_neg other]
  dsimp only
  by_cases refused : (!replies.newPeerConnection) = true
  · rw [if_pos refused]; rfl
  rw [if_neg refused]
  rcases codec.unmarshalDescription offer.payload with _ | description
  · rfl
  dsimp only
  split_ifs <;> rfl

variable (codec) in
/-- Handling a frame waits to register only the introduction branch's entry. -/
theorem dispatch_files (s : Adapter Raw) (replies : Replies) (input : Raw) :
    ∀ key entry, (s.dispatch codec replies input).loop.replacing = some (key, entry) →
      (s.withHandled (s.dispatch codec replies input)).Files key entry :=
  s.dispatch_cases codec replies input (fun _ _ waiting => nomatch waiting) (s.onIntroduction_files replies)
    (fun offer key entry waiting => by rw [onOffer_replacing] at waiting; cases waiting)
    (fun candidate => by unfold onCandidate; split <;> exact fun _ _ waiting => nomatch waiting)
    (fun answer => by unfold onAnswer; split <;> exact fun _ _ waiting => nomatch waiting)

/-- An `OnClose` handler keeps the registry, or deletes its channel's label from the entry of
its connection's remote id. -/
theorem channelClose_erases (s : Adapter Raw) (replies : Replies) (channel : Nat) :
    (s.channelClose replies channel).state.peers = s.peers ∨
      ∃ d c entry, s.channels[channel]? = some d ∧ s.conns[d.conn]? = some c ∧
        s.peers.lookup c.remote = some entry ∧
        (s.channelClose replies channel).state.peers =
          s.peers.insert c.remote { entry with channels := entry.channels.erase d.label } := by
  unfold channelClose
  split
  · exact .inl rfl
  · next d found =>
    dsimp only
    split
    · exact .inl rfl
    · split
      · exact .inl rfl
      · next c owner =>
        split
        · exact .inl rfl
        · next entry registered =>
          split
          · exact .inl rfl
          · unfold closeChannel
            split
            · exact .inr ⟨d, c, entry, found, owner, registered, rfl⟩
            · exact .inl rfl

end Shapes

section Moves

/-- **Every move keeps the registry's channels filed under their own labels and peers.** -/
theorem Moves.filed {s t : Adapter Raw} {action : Action Raw} (move : Moves codec s action t)
    (inv : s.Filed) : t.Filed := by
  have framed := move.framed
  cases move with
  | stay => exact inv
  | check alive top =>
    rw [check_eq] at framed ⊢
    exact inv.keep framed rfl (by split <;> exact .inl rfl)
  | dial replies alive dialing =>
    rcases s.dial_started replies with failed | failed | ⟨-, started⟩ <;>
      rw [‹s.dial replies = _›] at framed ⊢ <;> exact inv.keep framed rfl (.inl rfl)
  | publish alive publishing =>
    unfold Adapter.publish at framed ⊢
    rw [post_eq] at framed ⊢
    exact inv.keep framed rfl (.inl rfl)
  | receive replies input alive selecting reading =>
    exact inv.transfer framed (fun _ _ found => .inl found) fun key entry waiting =>
      .inr (s.dispatch_files codec replies input key entry waiting)
  | acquire replies critical alive locking free =>
    cases critical with
    | replace sender entry offer =>
      have pending := inv.pending sender entry (by rw [locking]; rfl)
      change Framed s (Adapter.resume (s.replace replies sender entry offer)) at framed
      show (Adapter.resume (s.replace replies sender entry offer)).Filed
      obtain ⟨u, closes, ⟨-, -, -, failed⟩ | returned⟩ := s.replace_cases replies sender entry offer
      · rw [failed] at framed ⊢
        exact inv.keep framed closes.peers (.inl rfl)
      · rw [returned] at framed ⊢
        dsimp only [Adapter.resume] at framed ⊢
        rw [post_eq] at framed ⊢
        exact inv.insert framed (congrArg (AList.insert sender entry) closes.peers) (pending.grow framed) (.inl rfl)
    | install sender conn iid answer =>
      change Framed s (s.install sender conn iid answer) at framed
      show (s.install sender conn iid answer).Filed
      unfold Adapter.install at framed ⊢
      dsimp only at framed ⊢
      rw [post_eq] at framed ⊢
      exact inv.insert framed rfl (fun _ _ found => by simp at found) (.inl rfl)
    | enqueue candidate =>
      obtain ⟨enqueues, enqueued⟩ := s.enqueue_eq candidate
      change Framed s (s.enqueue candidate) at framed
      show (s.enqueue candidate).Filed
      rw [enqueued] at framed ⊢
      exact inv.keep framed rfl (.inl rfl)
    | lookup answer =>
      obtain ⟨conns, drains, looked, -⟩ := s.lookup_cases codec replies answer
      change Framed s (Adapter.resume (s.lookup codec replies answer)) at framed
      show (Adapter.resume (s.lookup codec replies answer)).Filed
      rcases resume_cases (s.lookup codec replies answer) with resumed | resumed <;>
        rw [resumed, looked] at framed ⊢ <;> exact inv.keep framed rfl (.inl rfl)
    | teardown =>
      obtain ⟨u, closes, torn⟩ := s.teardown_frame replies
      change Framed s (s.teardown replies) at framed
      show (s.teardown replies).Filed
      rw [torn] at framed ⊢
      exact inv.keep framed closes.peers (.inl (by rw [closes.loop]; rfl))
    | reset =>
      exact inv.transfer framed (fun _ _ found => by simp [critical, Adapter.reset] at found)
        fun _ _ waiting => nomatch waiting
  | send replies i alive selecting =>
    obtain ⟨lines, written, sent, -⟩ := s.send_cases codec replies i
    rcases resume_cases (s.send codec replies i) with resumed | resumed <;> rw [resumed, sent] at framed ⊢
    exacts [inv.keep framed rfl (.inr rfl), inv.keep framed rfl (.inl rfl)]
  | ping replies alive selecting =>
    obtain ⟨written, pinged, -⟩ := s.ping_cases replies
    rcases resume_cases (s.ping replies) with resumed | resumed <;> rw [resumed, pinged] at framed ⊢
    exacts [inv.keep framed rfl (.inr rfl), inv.keep framed rfl (.inl rfl)]
  | receiveError source alive selecting =>
    obtain ⟨reader, closedErrs, crashed, drains, loop, received, moved⟩ := s.receiveError_cases source
    rw [received] at framed ⊢
    rcases moved with rfl | rfl
    exacts [inv.keep framed rfl (.inr rfl), inv.keep framed rfl (.inl rfl)]
  | readError alive reading => exact inv.keep framed rfl (.inr rfl)
  | disconnected replies conn alive free =>
    obtain ⟨crashed, panicked⟩ := crashOnPanic_eq (s.disconnected replies conn)
    rw [panicked] at framed ⊢
    rcases s.disconnected_cases replies conn with same | ⟨c, entry, u, -, -, closes, left | left⟩ <;>
      rw [‹s.disconnected replies conn = _›] at framed ⊢
    · exact inv.keep framed rfl (.inr rfl)
    · exact inv.keep framed closes.peers (.inr (congrArg Loop.replacing closes.loop))
    · refine inv.transfer framed (fun key entry' found => .inl ?_) fun key entry' waiting =>
        .inl (Loop.replacing_kept (.inr (congrArg Loop.replacing closes.loop)) key entry' waiting)
      have erased : (s.peers.erase c.remote).lookup key = some entry' := found
      by_cases same : key = c.remote
      · rw [same, AList.lookup_erase] at erased
        cases erased
      · rwa [AList.lookup_erase_ne same] at erased
  | iceCandidate conn candidate alive =>
    rcases s.iceCandidate_cases conn candidate with same | ⟨c, -, -, posted⟩
    · rw [same]; exact inv
    · rw [posted, post_eq] at framed ⊢
      exact inv.keep framed rfl (.inr rfl)
  | dataChannel conn label alive =>
    obtain ⟨channels, added⟩ := s.dataChannel_eq conn label
    rw [added] at framed ⊢
    exact inv.keep framed rfl (.inr rfl)
  | channelOpen channel alive free =>
    rcases s.channelOpen_opens channel with same | crashed | ⟨d, c, entry, found, -, owner, registered, opened⟩
    · rw [same]; exact inv
    · rw [crashed] at framed ⊢
      exact inv.keep framed rfl (.inr rfl)
    · rw [opened] at framed ⊢
      exact inv.insert framed rfl
        (((inv.registered c.remote entry registered).insert ⟨d, c, found, rfl, owner, rfl⟩).grow framed)
        (.inr rfl)
  | channelClose replies channel alive free =>
    have loop : (s.channelClose replies channel).state.loop = s.loop := by
      obtain ⟨u, closes, left | left | ⟨_, _, _, _, left⟩⟩ := s.channelClose_cases replies channel <;>
        rw [left] <;> exact closes.loop
    obtain ⟨crashed, panicked⟩ := crashOnPanic_eq (s.channelClose replies channel)
    rw [panicked] at framed ⊢
    rcases s.channelClose_erases replies channel with same | ⟨_, c, entry, -, -, registered, erased⟩
    · exact inv.keep framed same (.inr (congrArg Loop.replacing loop))
    · exact inv.insert framed erased ((inv.registered c.remote entry registered).erase.grow framed)
        (.inr (congrArg Loop.replacing loop))
  | drain replies k j alive =>
    obtain ⟨enqueues, conns, drains, crashed, drained, -⟩ := s.drain_cases replies k j
    rw [drained] at framed ⊢
    exact inv.keep framed rfl (.inr rfl)
  | accept alive =>
    obtain ⟨accepted, peerLock, released⟩ := s.accept_eq
    rw [released] at framed ⊢
    exact inv.keep framed rfl (.inr rfl)
  | close alive =>
    obtain ⟨crashed, closed⟩ := s.close_eq
    rw [closed] at framed ⊢
    exact inv.keep framed rfl (.inr rfl)

theorem filed_reachable {s : Adapter Raw} (reachable : Reachable codec s) : s.Filed :=
  reachable.induction filed_newAdapter fun s action inv => (step_moves codec s action).filed inv

end Moves

section Properties

/-- **The registry files each channel under its own label and peer.** In every reachable
state, a channel filed in the entry `a.peers[X]` under label `L` is a data channel labelled
`L` on a connection created for `X`. -/
theorem registry_channels {s : Adapter Raw} (reachable : Reachable codec s) {key label : String}
    {entry : Peer} {channel : Nat} (registered : s.peers.lookup key = some entry)
    (filed : entry.channels.lookup label = some channel) :
    ∃ d c, s.channels[channel]? = some d ∧ d.label = label ∧ s.conns[d.conn]? = some c ∧ c.remote = key :=
  (filed_reachable reachable).registered key entry registered label channel filed

theorem introducedB_channels :
    (replay introducedB).peers.lookup "B" = some ⟨0, 0, (∅ : AList _).insert "primary" 0, 0⟩ ∧
      ((∅ : AList fun _ : String => Nat).insert "primary" 0).lookup "primary" = some 0 ∧
      ∃ d c, (replay introducedB).channels[0]? = some d ∧ d.label = "primary" ∧
        (replay introducedB).conns[d.conn]? = some c ∧ c.remote = "B" :=
  have registered : (replay introducedB).peers.lookup "B" = some ⟨0, 0, (∅ : AList _).insert "primary" 0, 0⟩ :=
    rfl
  have filed : ((∅ : AList fun _ : String => Nat).insert "primary" 0).lookup "primary" = some 0 := rfl
  ⟨registered, filed, registry_channels ⟨_, _, rfl⟩ registered filed⟩

end Properties

end Adapter

end Weron
