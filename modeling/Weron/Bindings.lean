import Weron.Candidates

/-!
# Connections and what refers to them

Every connection the session loop creates gets a fresh `iid` (`uuid.NewString()`, 298 and
527), and the callbacks it installs capture the remote id, the `iid` and the session
(`Conn`). Three things refer to a connection afterwards: the registry entry that holds it,
the critical section the loop waits to run with it, and the posts its handlers spawn.

`ConnInvariant` holds in every reachable state (`connInvariant_reachable`): the `iid`s are
distinct; every registry entry `a.peers[X]` holds a connection the current session created
for `X`, under the entry's `iid` (`registry_binds`); and every post of a connection's
handler is addressed to that connection's remote id, an offer or an answer carrying the
connection's own local description (`posts_routed`). Hence the `iid` check of the
`Disconnected` handlers (326, 554) is exact: a handler deletes the registered entry only
when it holds the handler's own connection, and it closes no other connection
(`disconnected_own`); and once it returns, no entry holds its connection
(`disconnected_unregisters`).
-/

namespace Weron

/-- What a connection's callbacks and the registry know of it: the remote id, `iid` and
session its callbacks captured, its branch, and its local description. -/
def Conn.identity {Raw : Type} (c : Conn Raw) :
    String × Nat × Nat × Bool × Option SessionDescription :=
  (c.remote, c.iid, c.session, c.answering, c.localDescription)

/-- The local description of the connection at `conn`: an offer on the introduction
branch's connections and an answer on the offer branch's, naming the connection. -/
def Conn.Describes {Raw : Type} (c : Conn Raw) (conn : Nat) : Prop :=
  ∀ d, c.localDescription = some d →
    d.type = (if c.answering then .answer else .offer) ∧ d.conn = conn

/-- The entry the critical section the loop waits for registers: the remote id, the
connection, the `iid`, the branch and the local description posted with it. -/
def Loop.pending {Raw : Type} : Loop Raw → Option (String × Nat × Nat × Bool × SessionDescription)
  | .locking (.replace key entry offer) => some (key, entry.conn, entry.iid, false, offer)
  | .locking (.install key conn iid answer) => some (key, conn, iid, true, answer)
  | _ => none

/-- A post of a connection's handler as connection `c` makes it: its offer or its answer,
which is its local description, or one of its local candidates once that description is
set; each addressed to the connection's remote id. -/
def Post.Routed {Raw : Type} (p : Post Raw) (c : Conn Raw) : Prop :=
  match p.source, p.line with
  | .offer _, .offer _ recipient description =>
    recipient = c.remote ∧ c.answering = false ∧ c.localDescription = some description
  | .answer _, .answer _ recipient description =>
    recipient = c.remote ∧ c.answering = true ∧ c.localDescription = some description
  | .candidate _, .candidate _ recipient _ => recipient = c.remote ∧ c.localDescription.isSome
  | _, _ => False

theorem Post.Routed.of_identity {Raw : Type} {p : Post Raw} {c c' : Conn Raw}
    (routed : p.Routed c) (same : c'.identity = c.identity) : p.Routed c' := by
  simp only [Conn.identity, Prod.mk.injEq] at same
  obtain ⟨remote, -, -, answering, described⟩ := same
  unfold Post.Routed
  rw [remote, answering, described]
  exact routed

theorem Conn.Describes.of_identity {Raw : Type} {c c' : Conn Raw} {conn : Nat}
    (describes : c.Describes conn) (same : c'.identity = c.identity) : c'.Describes conn := by
  simp only [Conn.identity, Prod.mk.injEq] at same
  obtain ⟨-, -, -, answering, described⟩ := same
  unfold Conn.Describes
  rw [answering, described]
  exact describes

namespace Adapter

variable {Raw : Type} {codec : Codec Raw}

/-- The connection at `conn` was created for `key` under `iid` by the current session. -/
def Binds (s : Adapter Raw) (key : String) (conn iid : Nat) : Prop :=
  ∃ c, s.conns[conn]? = some c ∧ c.remote = key ∧ c.iid = iid ∧ c.session = s.session

/-- Every entry `t` registers, `s` registers under the same key, with the same connection and
`iid`. -/
def KeepsBindings (s t : Adapter Raw) : Prop :=
  ∀ key entry, t.peers.lookup key = some entry →
    ∃ old, s.peers.lookup key = some old ∧ old.conn = entry.conn ∧ old.iid = entry.iid

theorem keepsBindings_of_peers {s t : Adapter Raw} (peers : t.peers = s.peers) : KeepsBindings s t :=
  fun _ entry found => ⟨entry, peers ▸ found, rfl, rfl⟩

/-- Recording or removing a channel in a registered entry keeps its binding. -/
theorem keepsBindings_insert_channels {s t : Adapter Raw} {remote : String} {entry : Peer}
    (registered : s.peers.lookup remote = some entry) (labels : AList fun _ : String => Nat)
    (peers : t.peers = s.peers.insert remote { entry with channels := labels }) :
    KeepsBindings s t := by
  intro key found present
  rw [peers] at present
  rcases lookup_insert_cases present with rfl | old
  · by_cases same : key = remote
    · exact ⟨entry, same ▸ registered, rfl, rfl⟩
    · rw [AList.lookup_insert_ne same] at present
      exact ⟨_, present, rfl, rfl⟩
  · exact ⟨found, old, rfl, rfl⟩

theorem keepsBindings_erase {s t : Adapter Raw} {remote : String}
    (peers : t.peers = s.peers.erase remote) : KeepsBindings s t := by
  intro key entry present
  rw [peers] at present
  by_cases same : key = remote
  · subst same; simp [AList.lookup_erase] at present
  · exact ⟨entry, by rwa [AList.lookup_erase_ne same] at present, rfl, rfl⟩

/-- A connection keeps what the registry knows of it while the connections keep their
identities, or grow. -/
theorem identity_of_grown {s t : Adapter Raw}
    (grown : s.conns.map Conn.identity <+: t.conns.map Conn.identity) {conn : Nat} {c : Conn Raw}
    (found : s.conns[conn]? = some c) : ∃ c', t.conns[conn]? = some c' ∧ c'.identity = c.identity := by
  have kept := getElem?_of_grown grown (by rw [List.getElem?_map, found]; rfl)
  rw [List.getElem?_map] at kept
  exact Option.map_eq_some'.mp kept

theorem Binds.grow {s t : Adapter Raw} {key : String} {conn iid : Nat} (binds : s.Binds key conn iid)
    (grown : s.conns.map Conn.identity <+: t.conns.map Conn.identity) (session : t.session = s.session) :
    t.Binds key conn iid := by
  obtain ⟨c, found, remote, minted, current⟩ := binds
  obtain ⟨c', found', same⟩ := identity_of_grown grown found
  simp only [Conn.identity, Prod.mk.injEq] at same
  exact ⟨c', found', same.1.trans remote, same.2.1.trans minted, by rw [same.2.2.1, current, session]⟩

/-- The connections between moves. Every connection has its own `iid`, minted before the
current UUID, and a local description of its own kind that names it. Every registry entry
holds a connection the current session created for its key under the entry's `iid`, and
so does the entry the loop waits to register, with the local description it posts. Every
post of a connection's handler is routed as that connection makes it. -/
structure ConnInvariant (s : Adapter Raw) : Prop where
  fresh : ∀ iid ∈ s.conns.map Conn.iid, iid < s.uuids
  distinct : (s.conns.map Conn.iid).Nodup
  describes : ∀ conn (c : Conn Raw), s.conns[conn]? = some c → c.Describes conn
  registered : ∀ key entry, s.peers.lookup key = some entry → s.Binds key entry.conn entry.iid
  pending : ∀ key conn iid answering description,
    s.loop.pending = some (key, conn, iid, answering, description) →
    ∃ c, s.conns[conn]? = some c ∧ c.remote = key ∧ c.iid = iid ∧ c.session = s.session ∧
      c.answering = answering ∧ c.localDescription = some description
  posts : ∀ p ∈ s.spawned, ∀ conn, p.source.conn = some conn →
    ∃ c, s.conns[conn]? = some c ∧ p.Routed c

theorem connInvariant_newAdapter (config : Option AdapterConfig) :
    (newAdapter config : Adapter Raw).ConnInvariant where
  fresh _ made := by simp [newAdapter] at made
  distinct := List.nodup_nil
  describes _ _ found := by simp [newAdapter] at found
  registered _ _ found := by simp [newAdapter, AList.lookup_empty] at found
  pending _ _ _ _ _ waiting := by simp [newAdapter, Loop.pending] at waiting
  posts _ spawned := by simp [newAdapter] at spawned

/-- The `iid`s of connections that keep their identities. -/
theorem iids_of_identities {l m : List (Conn Raw)}
    (identities : l.map Conn.identity = m.map Conn.identity) : l.map Conn.iid = m.map Conn.iid := by
  have iids := congrArg (List.map fun x => x.2.1) identities
  simpa only [List.map_map] using iids

/-- A move that keeps the connections of `s`, each with its identity, keeps the invariant
when every connection it adds has a fresh `iid` and a local description of its own, every
entry it registers binds a connection `s` binds, every entry the loop then waits to register
is the one `s` waited for or one it holds, and every post it spawns is routed. -/
theorem ConnInvariant.extend {s t : Adapter Raw} (inv : s.ConnInvariant)
    (grown : s.conns.map Conn.identity <+: t.conns.map Conn.identity)
    (fresh : ∀ iid ∈ t.conns.map Conn.iid, iid < t.uuids) (distinct : (t.conns.map Conn.iid).Nodup)
    (describes : ∀ conn (c : Conn Raw), t.conns[conn]? = some c → s.conns.length ≤ conn →
      c.Describes conn)
    (session : t.session = s.session)
    (registered : ∀ key entry, t.peers.lookup key = some entry → s.Binds key entry.conn entry.iid)
    (pending : ∀ key conn iid answering description,
      t.loop.pending = some (key, conn, iid, answering, description) →
      s.loop.pending = some (key, conn, iid, answering, description) ∨
      ∃ c, t.conns[conn]? = some c ∧ c.remote = key ∧ c.iid = iid ∧ c.session = t.session ∧
        c.answering = answering ∧ c.localDescription = some description)
    (spawned : ∀ p ∈ t.spawned, p ∈ s.spawned ∨
      ∀ conn, p.source.conn = some conn → ∃ c, t.conns[conn]? = some c ∧ p.Routed c) :
    t.ConnInvariant := by
  refine ⟨fresh, distinct, fun conn c found => ?_, fun key entry found =>
    (registered key entry found).grow grown session, fun key conn iid answering description waiting => ?_,
    fun p mem conn source => ?_⟩
  · by_cases old : conn < s.conns.length
    · obtain ⟨c₀, found₀⟩ : ∃ c₀, s.conns[conn]? = some c₀ := ⟨_, List.getElem?_eq_getElem old⟩
      obtain ⟨c', found', same⟩ := identity_of_grown grown found₀
      rw [found] at found'
      cases found'
      exact (inv.describes conn c₀ found₀).of_identity same
    · exact describes conn c found (Nat.le_of_not_lt old)
  · rcases pending key conn iid answering description waiting with before | held
    · obtain ⟨c, found, remote, minted, current, answers, described⟩ :=
        inv.pending key conn iid answering description before
      obtain ⟨c', found', same⟩ := identity_of_grown grown found
      simp only [Conn.identity, Prod.mk.injEq] at same
      exact ⟨c', found', same.1.trans remote, same.2.1.trans minted,
        by rw [same.2.2.1, current, session], same.2.2.2.1.trans answers, same.2.2.2.2.trans described⟩
    · exact held
  · rcases spawned p mem with old | routed
    · obtain ⟨c, found, routed⟩ := inv.posts p old conn source
      obtain ⟨c', found', same⟩ := identity_of_grown grown found
      exact ⟨c', found', routed.of_identity same⟩
    · exact routed conn source

/-- A move that keeps the identities of the connections, the session and the posts, and
mints no `iid`, keeps the invariant when it registers only entries `s` binds and the loop
then waits to register nothing, or what `s` waits to register. -/
theorem ConnInvariant.transfer {s t : Adapter Raw} (inv : s.ConnInvariant)
    (identities : t.conns.map Conn.identity = s.conns.map Conn.identity)
    (uuids : s.uuids ≤ t.uuids) (session : t.session = s.session)
    (registered : ∀ key entry, t.peers.lookup key = some entry → s.Binds key entry.conn entry.iid)
    (pending : t.loop.pending = none ∨ t.loop.pending = s.loop.pending)
    (spawned : t.spawned = s.spawned) : t.ConnInvariant := by
  have length : t.conns.length = s.conns.length := by
    simpa only [List.length_map] using congrArg List.length identities
  refine inv.extend (identities ▸ List.prefix_refl _) (fun iid made => ?_)
    (iids_of_identities identities ▸ inv.distinct) (fun conn c found beyond => ?_) session registered
    (fun key conn iid answering description waiting => ?_) fun p mem => .inl (spawned ▸ mem)
  · rw [iids_of_identities identities] at made
    exact lt_of_lt_of_le (inv.fresh iid made) uuids
  · exact absurd (List.getElem?_eq_some_iff.mp found).1 (by omega)
  · rcases pending with none | same
    · rw [none] at waiting; cases waiting
    · exact .inl (same ▸ waiting)

theorem KeepsBindings.binds {s t : Adapter Raw} (keeps : KeepsBindings s t) (inv : s.ConnInvariant) :
    ∀ key entry, t.peers.lookup key = some entry → s.Binds key entry.conn entry.iid := by
  intro key entry found
  obtain ⟨old, registered, conn, iid⟩ := keeps key entry found
  exact conn ▸ iid ▸ inv.registered key old registered

/-- A move that keeps the registry, the connections, the posts and the loop. -/
theorem ConnInvariant.of_same {s t : Adapter Raw} (inv : s.ConnInvariant) (conns : t.conns = s.conns)
    (uuids : t.uuids = s.uuids) (sessions : t.sessions = s.sessions) (peers : t.peers = s.peers)
    (loop : t.loop = s.loop) (spawned : t.spawned = s.spawned) : t.ConnInvariant :=
  inv.transfer (by rw [conns]) uuids.ge (by rw [session, session, sessions])
    ((keepsBindings_of_peers peers).binds inv) (.inr (by rw [loop])) spawned

/-- Spawning a post routed as the connection it names makes it keeps the invariant. -/
theorem ConnInvariant.post {s : Adapter Raw} (inv : s.ConnInvariant) {line : Envelope Raw}
    {session : Nat} {source : Source}
    (routed : ∀ conn, source.conn = some conn →
      ∃ c, s.conns[conn]? = some c ∧ Post.Routed ⟨line, session, s.spawned.length, source⟩ c) :
    (s.post line session source).ConnInvariant := by
  rw [post_eq]
  refine { inv with posts := fun p mem conn named => ?_ }
  split at mem
  · exact inv.posts p mem conn named
  · rcases List.mem_append.mp mem with old | fresh
    · exact inv.posts p old conn named
    · rw [List.mem_singleton] at fresh
      subst fresh
      exact routed conn named

/-- Registering an entry whose connection the current session created for its key under its
`iid`, going back to the `select`. -/
theorem ConnInvariant.register {s t : Adapter Raw} (inv : s.ConnInvariant) {key : String}
    {entry : Peer} (binds : s.Binds key entry.conn entry.iid)
    (identities : t.conns.map Conn.identity = s.conns.map Conn.identity) (uuids : t.uuids = s.uuids)
    (sessions : t.sessions = s.sessions) (peers : t.peers = s.peers.insert key entry)
    (selecting : t.loop = .selecting) (spawned : t.spawned = s.spawned) : t.ConnInvariant := by
  refine inv.transfer identities uuids.ge (by rw [session, session, sessions]) (fun key' entry' found => ?_)
    (.inl (by rw [selecting]; rfl)) spawned
  rw [peers] at found
  by_cases same : key' = key
  · subst same
    rw [AList.lookup_insert] at found
    cases found
    exact binds
  · rw [AList.lookup_insert_ne same] at found
    exact inv.registered key' entry' found

section Dispatch

variable (codec)

/-- What handling a frame does to the connections: it keeps them, or creates one whose `iid`
is the UUID it mints and whose local description is of its own kind; and the entry the loop
then waits to register is the one of a connection it holds, created by the current session. -/
structure Handled.Mints (s : Adapter Raw) (handled : Handled Raw) : Prop where
  uuids : handled.uuids = s.uuids ∨ handled.uuids = s.uuids + 1
  conns : handled.conns.map Conn.identity = s.conns.map Conn.identity ∨
    ∃ c : Conn Raw, handled.conns.map Conn.identity = (s.conns ++ [c]).map Conn.identity ∧
      c.iid = s.uuids ∧ handled.uuids = s.uuids + 1 ∧ c.Describes s.conns.length
  pending : ∀ key conn iid answering description,
    handled.loop.pending = some (key, conn, iid, answering, description) →
    ∃ c, handled.conns[conn]? = some c ∧ c.remote = key ∧ c.iid = iid ∧ c.session = s.session ∧
      c.answering = answering ∧ c.localDescription = some description

variable {codec}

/-- Handling that creates connection `c` and waits to register nothing. -/
theorem Handled.Mints.created {s : Adapter Raw} {handled : Handled Raw} {c : Conn Raw}
    (conns : handled.conns.map Conn.identity = (s.conns ++ [c]).map Conn.identity)
    (iid : c.iid = s.uuids) (uuids : handled.uuids = s.uuids + 1) (described : c.localDescription = none)
    (loop : handled.loop.pending = none) : Handled.Mints s handled :=
  ⟨.inr uuids, .inr ⟨c, conns, iid, uuids, fun _ set => by rw [described] at set; cases set⟩,
    fun _ _ _ _ _ waiting => by rw [loop] at waiting; cases waiting⟩

/-- Handling that keeps the connections and waits to register nothing. -/
theorem Handled.Mints.kept {s : Adapter Raw} {handled : Handled Raw} (conns : handled.conns = s.conns)
    (uuids : handled.uuids = s.uuids ∨ handled.uuids = s.uuids + 1)
    (loop : handled.loop.pending = none) : Handled.Mints s handled :=
  ⟨uuids, .inl (by rw [conns]), fun _ _ _ _ _ waiting => by rw [loop] at waiting; cases waiting⟩

theorem skip_mints (s : Adapter Raw) : Handled.Mints s s.skip := .kept rfl (.inl rfl) rfl

theorem onIntroduction_mints (s : Adapter Raw) (replies : Replies) (introduction : Introduction) :
    Handled.Mints s (s.onIntroduction replies introduction) := by
  unfold onIntroduction
  dsimp only
  split_ifs
  · exact .kept rfl (.inr rfl) rfl
  · exact .created rfl rfl rfl rfl rfl
  · exact .created rfl rfl rfl rfl rfl
  · rw [modify_concat_length]
    refine ⟨.inr rfl, .inr ⟨_, rfl, rfl, rfl, fun d set => ?_⟩, fun key conn iid answering description waiting => ?_⟩
    · cases set; exact ⟨rfl, rfl⟩
    · cases waiting
      exact ⟨_, List.getElem?_concat_length _ _, rfl, rfl, rfl, rfl, rfl⟩

theorem onOffer_mints (s : Adapter Raw) (replies : Replies) (offer : Exchange Raw) :
    Handled.Mints s (s.onOffer codec replies offer) := by
  unfold onOffer
  by_cases other : offer.recipient ≠ s.id
  · rw [if_pos other]; exact s.skip_mints
  rw [if_neg other]
  dsimp only
  by_cases refused : (!replies.newPeerConnection) = true
  · rw [if_pos refused]; exact .kept rfl (.inr rfl) rfl
  rw [if_neg refused]
  rcases codec.unmarshalDescription offer.payload with _ | description
  · exact .created rfl rfl rfl rfl rfl
  dsimp only
  split_ifs
  · exact .created rfl rfl rfl rfl rfl
  · exact .created (c := ⟨offer.sender, s.uuids, s.session, true, none, none, []⟩)
      (map_modify_of_comp _ _ (by intro; rfl) _ _) rfl rfl rfl rfl
  · rw [modify_concat_length, modify_concat_length]
    refine ⟨.inr rfl, .inr ⟨_, rfl, rfl, rfl, fun d set => ?_⟩,
      fun key conn iid answering description waiting => ?_⟩
    · cases set; exact ⟨rfl, rfl⟩
    · cases waiting
      exact ⟨_, List.getElem?_concat_length _ _, rfl, rfl, rfl, rfl, rfl⟩

theorem dispatch_mints (s : Adapter Raw) (replies : Replies) (input : Raw) :
    Handled.Mints s (s.dispatch codec replies input) :=
  s.dispatch_cases codec replies input s.skip_mints (s.onIntroduction_mints replies)
    (s.onOffer_mints replies)
    (fun candidate => by
      unfold onCandidate; split
      exacts [s.skip_mints, .kept rfl (.inl rfl) rfl])
    (fun answer => by
      unfold onAnswer; split
      exacts [s.skip_mints, .kept rfl (.inl rfl) rfl])

/-- Handling a frame keeps the invariant: the connection it creates has a fresh `iid`. -/
theorem ConnInvariant.withHandled {s : Adapter Raw} (inv : s.ConnInvariant) {handled : Handled Raw}
    (mints : Handled.Mints s handled) : (s.withHandled handled).ConnInvariant := by
  have uuids : s.uuids ≤ handled.uuids := by rcases mints.uuids with same | more <;> omega
  rcases mints.conns with same | ⟨c, grown, minted, more, describes⟩
  · refine inv.extend (same ▸ List.prefix_refl _) (fun iid made => ?_)
      (iids_of_identities same ▸ inv.distinct) (fun conn c found beyond => ?_) rfl inv.registered
      (fun key conn iid answering description waiting =>
        .inr (mints.pending key conn iid answering description waiting)) fun p mem => .inl mem
    · rw [show (s.withHandled handled).conns = handled.conns from rfl, iids_of_identities same] at made
      exact lt_of_lt_of_le (inv.fresh iid made) uuids
    · change handled.conns[conn]? = some c at found
      have length : handled.conns.length = s.conns.length := by
        simpa only [List.length_map] using congrArg List.length same
      exact absurd (List.getElem?_eq_some_iff.mp found).1 (by omega)
  · rw [List.map_append, List.map_singleton] at grown
    have iids : handled.conns.map Conn.iid = s.conns.map Conn.iid ++ [c.iid] := by
      simpa only [List.map_map, List.map_append, List.map_cons, List.map_nil] using
        congrArg (List.map fun x => x.2.1) grown
    have older : ∀ iid ∈ s.conns.map Conn.iid, iid < c.iid := fun iid made => minted ▸ inv.fresh iid made
    refine inv.extend (grown ▸ List.prefix_append _ _) (fun iid made => ?_) ?_
      (fun conn c' found beyond => ?_) rfl inv.registered
      (fun key conn iid answering description waiting =>
        .inr (mints.pending key conn iid answering description waiting)) fun p mem => .inl mem
    · change iid ∈ handled.conns.map Conn.iid at made
      rw [iids, List.mem_append, List.mem_singleton] at made
      show iid < handled.uuids
      rcases made with old | rfl
      · exact lt_of_lt_of_le (inv.fresh iid old) uuids
      · omega
    · show (handled.conns.map Conn.iid).Nodup
      rw [iids]
      exact inv.distinct.append (List.nodup_singleton _) fun iid old fresh =>
        absurd (older iid old) (by rw [List.mem_singleton.mp fresh]; exact lt_irrefl _)
    · change handled.conns[conn]? = some c' at found
      have length : handled.conns.length = s.conns.length + 1 := by
        simpa only [List.length_map, List.length_append, List.length_singleton] using
          congrArg List.length grown
      have last : conn = s.conns.length := by
        have := (List.getElem?_eq_some_iff.mp found).1
        omega
      subst last
      have identities := congrArg (·[s.conns.length]?) grown
      simp only [List.getElem?_map, found, List.getElem?_append_right (List.length_map _ _).le,
        List.length_map, Nat.sub_self, List.getElem?_cons_zero, Option.map_some'] at identities
      exact describes.of_identity (Option.some.inj identities)

end Dispatch

section Moves

/-- A session starts with an empty registry. -/
theorem ConnInvariant.start {s t : Adapter Raw} (inv : s.ConnInvariant) (conns : t.conns = s.conns)
    (uuids : s.uuids ≤ t.uuids) (empty : t.peers = ∅) (idle : t.loop.pending = none)
    (spawned : t.spawned = s.spawned) : t.ConnInvariant where
  fresh iid made := lt_of_lt_of_le (inv.fresh iid (conns ▸ made)) uuids
  distinct := conns ▸ inv.distinct
  describes conn c found := inv.describes conn c (conns ▸ found)
  registered _ _ found := by simp [empty, AList.lookup_empty] at found
  pending _ _ _ _ _ waiting := by rw [idle] at waiting; cases waiting
  posts p mem conn source := conns ▸ inv.posts p (spawned ▸ mem) conn source

/-- Closes keep the invariant. -/
theorem Closes.connInvariant {queues : List Nat} {s t : Adapter Raw} (closes : Closes queues s t)
    (inv : s.ConnInvariant) : t.ConnInvariant := by
  rw [closes.eq]; exact inv.of_same rfl rfl rfl rfl rfl rfl

/-- Moving the loop to where it waits to register nothing keeps the invariant. -/
theorem ConnInvariant.idle {s : Adapter Raw} (inv : s.ConnInvariant) {loop : Loop Raw}
    (idle : loop.pending = none) : { s with loop := loop }.ConnInvariant :=
  inv.transfer rfl le_rfl rfl inv.registered (.inl idle) rfl

theorem ConnInvariant.resume {o : Outcome Raw} (inv : o.state.ConnInvariant) :
    (resume o).ConnInvariant := by
  rcases resume_cases o with resumed | resumed <;> rw [resumed]
  exacts [inv, inv.idle rfl]

/-- A dial mints at most the session's id. -/
theorem dial_uuids (s : Adapter Raw) (replies : Replies) : s.uuids ≤ (s.dial replies).uuids := by
  unfold dial
  split_ifs <;> dsimp only [unwind] <;> (try split) <;> omega

variable (codec) in
/-- The answer branch's lookup sets at most a remote description, which no one but the
engine reads. -/
theorem lookup_identities (s : Adapter Raw) (replies : Replies) (answer : Exchange Raw) :
    (s.lookup codec replies answer).state.conns.map Conn.identity = s.conns.map Conn.identity := by
  unfold lookup
  dsimp only
  split
  · rfl
  · split
    · rfl
    · split
      · rfl
      · exact map_modify_of_comp _ _ (by intro; rfl) _ _

/-- A drain goroutine adds candidates to a connection, and changes nothing else of it. -/
theorem drain_identities (s : Adapter Raw) (replies : Replies) (k j : Nat) :
    (s.drain replies k j).conns.map Conn.identity = s.conns.map Conn.identity :=
  s.drain_induction replies k j rfl (fun _ _ _ _ => map_modify_of_comp _ _ (by intro; rfl) _ _) rfl
    fun _ _ => rfl

/-- The introduction branch's critical section keeps the invariant: it registers the entry
the loop waited for, and posts that entry's connection's offer to its remote id. -/
theorem ConnInvariant.replace {s : Adapter Raw} (inv : s.ConnInvariant) {replies : Replies}
    {sender : String} {entry : Peer} {offer : SessionDescription}
    (waiting : s.loop = .locking (.replace sender entry offer)) :
    (Adapter.resume (s.replace replies sender entry offer)).ConnInvariant := by
  obtain ⟨u, closes, ⟨-, -, -, failed⟩ | returned⟩ := s.replace_cases replies sender entry offer
  all_goals have held := closes.connInvariant (inv.of_same rfl rfl rfl rfl rfl rfl)
  · rw [failed]; exact held.idle rfl
  · rw [returned]
    obtain ⟨c, found, remote, minted, current, answers, described⟩ :=
      held.pending sender entry.conn entry.iid false offer (by rw [closes.loop, waiting]; rfl)
    have registered : { u with
        peers := u.peers.insert sender entry
        peerLock := none
        loop := .selecting }.ConnInvariant :=
      held.register ⟨c, found, remote, minted, current⟩ rfl rfl rfl rfl rfl rfl
    refine registered.post fun conn named => ?_
    cases named
    exact ⟨c, found, remote.symm, answers, described⟩

/-- The offer branch's critical section keeps the invariant: it registers the entry the loop
waited for, and posts its connection's answer to its remote id. -/
theorem ConnInvariant.install {s : Adapter Raw} (inv : s.ConnInvariant) {sender : String}
    {conn iid : Nat} {answer : SessionDescription}
    (waiting : s.loop = .locking (.install sender conn iid answer)) :
    (s.install sender conn iid answer).ConnInvariant := by
  obtain ⟨c, found, remote, minted, current, answers, described⟩ :=
    inv.pending sender conn iid true answer (by rw [waiting]; rfl)
  have registered : { s with
      queues := s.queues + 1
      peers := s.peers.insert sender (⟨conn, s.queues, ∅, iid⟩ : Peer)
      drains := s.drains ++ [(⟨conn, s.queues, s.session, false⟩ : Drain)]
      loop := .selecting }.ConnInvariant :=
    inv.register (show s.Binds sender conn iid from ⟨c, found, remote, minted, current⟩) rfl rfl rfl rfl rfl rfl
  unfold Adapter.install
  refine registered.post fun conn' named => ?_
  cases named
  exact ⟨c, found, remote.symm, answers, described⟩

variable (codec) in
/-- **Every move keeps the invariant.** -/
theorem Moves.conns {s t : Adapter Raw} {action : Action Raw} (move : Moves codec s action t)
    (registry : s.RegistryInvariant) (inv : s.ConnInvariant) : t.ConnInvariant := by
  cases move with
  | stay => exact inv
  | check alive top => rw [check_eq]; exact inv.idle (by split <;> rfl)
  | dial replies alive dialing =>
    have empty : s.peers = ∅ := registry.empty alive (by rw [dialing]; rfl)
    have grown := s.dial_uuids replies
    rcases s.dial_cases replies with failed | failed | ⟨id, uuids, started⟩
    · rw [failed]; exact inv.idle rfl
    · rw [failed]; exact inv.idle rfl
    · rw [started] at grown ⊢
      exact inv.start rfl grown empty rfl rfl
  | publish alive publishing =>
    have selected : { s with loop := .selecting }.ConnInvariant := inv.idle rfl
    exact selected.post fun _ named => by cases named
  | receive replies input alive selecting _ => exact inv.withHandled (s.dispatch_mints replies input)
  | acquire replies critical alive locking free =>
    cases critical with
    | replace sender entry offer => exact inv.replace locking
    | install sender conn iid answer => exact inv.install locking
    | enqueue candidate =>
      obtain ⟨enqueues, enqueued⟩ := s.enqueue_eq candidate
      show (s.enqueue candidate).ConnInvariant
      rw [enqueued]; exact inv.transfer rfl le_rfl rfl inv.registered (.inl rfl) rfl
    | lookup answer =>
      obtain ⟨conns, drains, looked, -⟩ := s.lookup_cases codec replies answer
      have identities := s.lookup_identities codec replies answer
      rw [looked] at identities
      refine ConnInvariant.resume (o := s.lookup codec replies answer) ?_
      rw [looked]
      exact inv.transfer identities le_rfl rfl inv.registered (.inl rfl) rfl
    | teardown =>
      obtain ⟨u, closes, torn⟩ := s.teardown_frame replies
      show (s.teardown replies).ConnInvariant
      rw [torn]; exact closes.connInvariant (inv.idle rfl)
    | reset =>
      exact inv.transfer rfl le_rfl rfl (fun _ _ found => by simp [critical, Adapter.reset, AList.lookup_empty] at found)
        (.inl rfl) rfl
  | send replies i alive selecting =>
    obtain ⟨lines, written, sent, -⟩ := s.send_cases codec replies i
    exact ConnInvariant.resume (by rw [sent]; exact inv.of_same rfl rfl rfl rfl rfl rfl)
  | ping replies alive selecting =>
    obtain ⟨written, pinged, -⟩ := s.ping_cases replies
    exact ConnInvariant.resume (by rw [pinged]; exact inv.of_same rfl rfl rfl rfl rfl rfl)
  | receiveError source alive selecting =>
    obtain ⟨reader, closedErrs, crashed, drains, loop, received, moved⟩ := s.receiveError_cases source
    rw [received]
    rcases moved with rfl | rfl
    · exact inv.of_same rfl rfl rfl rfl rfl rfl
    · exact inv.transfer rfl le_rfl rfl inv.registered (.inl rfl) rfl
  | readError alive reading => exact inv.of_same rfl rfl rfl rfl rfl rfl
  | disconnected replies conn alive free =>
    obtain ⟨crashed, panicked⟩ := crashOnPanic_eq (s.disconnected replies conn)
    rw [panicked]
    rcases s.disconnected_cases replies conn with same | ⟨c, entry, u, -, -, closes, left | left⟩ <;>
      rw [‹s.disconnected replies conn = _›]
    · exact inv.of_same rfl rfl rfl rfl rfl rfl
    · exact (closes.connInvariant inv).of_same rfl rfl rfl rfl rfl rfl
    · exact (closes.connInvariant inv).transfer rfl le_rfl rfl
        ((keepsBindings_erase (by rw [closes.peers]; rfl)).binds (closes.connInvariant inv)) (.inr rfl) rfl
  | iceCandidate conn candidate alive =>
    rcases s.iceCandidate_cases conn candidate with same | ⟨c, found, described, posted⟩
    · rw [same]; exact inv
    · rw [posted]
      exact inv.post fun conn' named => by cases named; exact ⟨c, found, rfl, described⟩
  | dataChannel conn label alive =>
    obtain ⟨channels, added⟩ := s.dataChannel_eq conn label
    rw [added]; exact inv.of_same rfl rfl rfl rfl rfl rfl
  | channelOpen channel alive free =>
    rcases s.channelOpen_cases channel with same | crashed | ⟨_, _, labels, _, _, registered, opened⟩
    · rw [same]; exact inv
    · rw [crashed]; exact inv.of_same rfl rfl rfl rfl rfl rfl
    · rw [opened]
      exact inv.transfer rfl le_rfl rfl ((keepsBindings_insert_channels registered labels rfl).binds inv)
        (.inr rfl) rfl
  | channelClose replies channel alive free =>
    obtain ⟨crashed, panicked⟩ := crashOnPanic_eq (s.channelClose replies channel)
    obtain ⟨u, closes, left | left | ⟨_, _, labels, registered, left⟩⟩ := s.channelClose_cases replies channel
    all_goals rw [panicked, left]
    · exact (closes.connInvariant inv).of_same rfl rfl rfl rfl rfl rfl
    · exact (closes.connInvariant inv).of_same rfl rfl rfl rfl rfl rfl
    · have held := closes.connInvariant inv
      exact held.transfer rfl le_rfl rfl
        ((keepsBindings_insert_channels (closes.peers ▸ registered) labels (by rw [closes.peers]; rfl)).binds
          held) (.inr rfl) rfl
  | drain replies k j alive =>
    obtain ⟨enqueues, conns, drains, crashed, drained, -⟩ := s.drain_cases replies k j
    have identities := s.drain_identities replies k j
    rw [drained] at identities ⊢
    exact inv.transfer identities le_rfl rfl inv.registered (.inr rfl) rfl
  | accept alive =>
    obtain ⟨accepted, peerLock, released⟩ := s.accept_eq
    rw [released]; exact inv.of_same rfl rfl rfl rfl rfl rfl
  | close alive =>
    obtain ⟨crashed, closed⟩ := s.close_eq
    rw [closed]; exact inv.of_same rfl rfl rfl rfl rfl rfl

variable (codec) in
theorem connInvariant_reachable {s : Adapter Raw} (reachable : Reachable codec s) :
    s.ConnInvariant ∧ s.RegistryInvariant := by
  refine Reachable.induction (P := fun s => s.ConnInvariant ∧ s.RegistryInvariant)
    (fun config => ⟨connInvariant_newAdapter config,
    registryInvariant_newAdapter config⟩) (fun s action ⟨inv, registry⟩ => ?_) reachable
  exact ⟨(step_moves codec s action).conns codec registry inv, (step_moves codec s action).registry registry⟩

end Moves

section Disconnected

/-- A stretch of code from `s` closes no connection but those of `conns`. -/
def ClosesOnly (conns : List Nat) (s : Adapter Raw) (o : Outcome Raw) : Prop :=
  ∀ conn ∈ o.state.closedConns, conn ∈ conns ∨ conn ∈ s.closedConns

theorem ClosesOnly.bind {first second : List Nat} {s : Adapter Raw} {o : Outcome Raw}
    {f : Adapter Raw → Outcome Raw} (before : ClosesOnly first s o)
    (rest : ∀ u, o = .ok u → ClosesOnly second u (f u)) : ClosesOnly (first ++ second) s (o.bind f) := by
  cases o with
  | error u => exact fun conn closed => (before conn closed).imp_left (List.mem_append_left _)
  | ok u =>
    intro conn closed
    rcases rest u rfl conn closed with named | earlier
    · exact .inl (List.mem_append_right _ named)
    · exact (before conn earlier).imp_left (List.mem_append_left _)

theorem closeConn_closesOnly (s : Adapter Raw) (replies : Replies) (conn : Nat) :
    ClosesOnly [conn] s (s.closeConn replies conn) := by
  unfold closeConn
  split
  · intro x closed
    rcases List.mem_cons.mp closed with rfl | earlier
    exacts [.inl (List.mem_singleton_self _), .inr earlier]
  · exact fun _ closed => .inr closed

theorem closeQueue_closesOnly (s : Adapter Raw) (queue : Nat) :
    ClosesOnly [] s (s.closeQueue queue) := by
  unfold closeQueue; split <;> exact fun _ closed => .inr closed

theorem closeChannels_closesOnly (s : Adapter Raw) (replies : Replies)
    (channels : List (Σ _ : String, Nat)) : ClosesOnly [] s (s.closeChannels replies channels) := by
  induction channels generalizing s with
  | nil => exact fun _ closed => .inr closed
  | cons channel rest ih =>
    unfold closeChannels closeChannel
    by_cases closed : replies.closeChannel channel.2 = true
    · rw [if_pos closed]; exact ih _
    · rw [if_neg closed]; exact fun _ closed => .inr closed

/-- The teardowns of an entry close no connection but the entry's. -/
theorem retire_closesOnly (s : Adapter Raw) (replies : Replies) (entry : Peer) :
    ClosesOnly [entry.conn] s (s.retire replies entry) :=
  (s.closeChannels_closesOnly replies _).bind fun u _ =>
    (u.closeConn_closesOnly replies _).bind fun v _ => v.closeQueue_closesOnly _

theorem retireAnswering_closesOnly (s : Adapter Raw) (replies : Replies) (entry : Peer) :
    ClosesOnly [entry.conn] s (s.retireAnswering replies entry) := by
  have twice := (s.closeConn_closesOnly replies entry.conn).bind fun u _ =>
    (u.closeConn_closesOnly replies entry.conn).bind fun v _ => v.closeQueue_closesOnly entry.candidates
  intro conn closed
  exact (twice conn closed).imp_left fun named => by simpa using named

/-- What a `Disconnected` handler does. It returns with the state as it was unless the entry
registered for its connection's remote id holds its `iid`. Then it retires that entry, closing
no connection but the entry's, and deletes it once the retirement returns. -/
theorem disconnected_matches (s : Adapter Raw) (replies : Replies) (conn : Nat) :
    (∀ c entry, s.conns[conn]? = some c → s.peers.lookup c.remote = some entry → entry.iid ≠ c.iid) ∧
        s.disconnected replies conn = .ok s ∨
      ∃ c entry u, s.conns[conn]? = some c ∧ s.peers.lookup c.remote = some entry ∧ entry.iid = c.iid ∧
        Closes [entry.candidates] s u ∧ ClosesOnly [entry.conn] s (s.disconnected replies conn) ∧
        (s.disconnected replies conn = .error u ∨
          s.disconnected replies conn = .ok { u with peers := s.peers.erase c.remote }) := by
  unfold disconnected
  rcases found : s.conns[conn]? with _ | c
  · exact .inl ⟨(fun _ _ absent => nomatch absent), rfl⟩
  dsimp only
  rcases registered : s.peers.lookup c.remote with _ | entry
  · exact .inl ⟨(fun _ _ same absent => by cases same; rw [registered] at absent; cases absent), rfl⟩
  dsimp only
  by_cases other : entry.iid ≠ c.iid
  · rw [if_pos other]
    exact .inl ⟨(fun _ _ same present => by cases same; rw [registered] at present; cases present; exact other),
      rfl⟩
  rw [if_neg other]
  have retired : Closes [entry.candidates] s
      (if c.answering then s.retireAnswering replies entry else s.retire replies entry).state := by
    split
    exacts [s.retireAnswering_closes replies entry, s.retire_closes replies entry]
  have only : ClosesOnly [entry.conn] s
      (if c.answering then s.retireAnswering replies entry else s.retire replies entry) := by
    split
    exacts [s.retireAnswering_closesOnly replies entry, s.retire_closesOnly replies entry]
  revert retired only
  cases (if c.answering then s.retireAnswering replies entry else s.retire replies entry) with
  | error u => exact fun retired only => .inr ⟨c, entry, u, rfl, registered, not_not.mp other, retired, only, .inl rfl⟩
  | ok u =>
    exact fun retired only => .inr ⟨c, entry, u, rfl, registered, not_not.mp other, retired, only,
      .inr (by rw [← retired.peers]; rfl)⟩

end Disconnected

section Properties

/-- **Every registry entry holds its own connection.** In every reachable state, the entry
`a.peers[X]` holds a connection the current session created for `X`, whose callbacks
captured the entry's `iid`. -/
theorem registry_binds {s : Adapter Raw} (reachable : Reachable codec s) {key : String}
    {entry : Peer} (registered : s.peers.lookup key = some entry) :
    ∃ c, s.conns[entry.conn]? = some c ∧ c.remote = key ∧ c.iid = entry.iid ∧
      c.session = s.session :=
  (connInvariant_reachable codec reachable).1.registered key entry registered

/-- The adapter with id `"A"` once it has handled B's introduction and run its critical
section. -/
def introducedB : List (Action Plain) := opening ++ [.receive (.introduction "B") {}, .acquire {}]

theorem introducedB_binds :
    (replay introducedB).peers.lookup "B" = some ⟨0, 0, (∅ : AList _).insert "primary" 0, 0⟩ ∧
      ∃ c, (replay introducedB).conns[0]? = some c ∧ c.remote = "B" ∧ c.iid = 0 ∧
        c.session = (replay introducedB).session :=
  have registered : (replay introducedB).peers.lookup "B" = some ⟨0, 0, (∅ : AList _).insert "primary" 0, 0⟩ :=
    rfl
  ⟨registered, registry_binds ⟨_, _, rfl⟩ registered⟩

/-- Two connections with one `iid` are one connection. -/
theorem ConnInvariant.conn_eq {s : Adapter Raw} (inv : s.ConnInvariant) {conn conn' : Nat}
    {c c' : Conn Raw} (found : s.conns[conn]? = some c) (found' : s.conns[conn']? = some c')
    (same : c.iid = c'.iid) : conn = conn' :=
  List.getElem?_inj (by simpa using (List.getElem?_eq_some_iff.mp found).1) inv.distinct
    (by rw [List.getElem?_map, List.getElem?_map, found, found']; exact congrArg some same)

/-- **The `iid` check is exact.** In every reachable state, the `Disconnected` handler of a
connection closes no other connection, and deletes a registry entry only when that entry
holds the handler's own connection. -/
theorem disconnected_own {s : Adapter Raw} (reachable : Reachable codec s) (replies : Replies)
    (conn : Nat) :
    (crashOnPanic (s.disconnected replies conn)).closedConns ⊆ conn :: s.closedConns ∧
      ((crashOnPanic (s.disconnected replies conn)).peers = s.peers ∨
        ∃ key entry, s.peers.lookup key = some entry ∧ entry.conn = conn ∧
          (crashOnPanic (s.disconnected replies conn)).peers = s.peers.erase key) := by
  have inv := (connInvariant_reachable codec reachable).1
  have state : (crashOnPanic (s.disconnected replies conn)).closedConns =
      (s.disconnected replies conn).state.closedConns := by
    cases s.disconnected replies conn <;> rfl
  rcases s.disconnected_matches replies conn with ⟨-, same⟩ | ⟨c, entry, u, found, registered, iid, closes, only, left⟩
  · rw [same]; exact ⟨List.subset_cons_self _ _, .inl rfl⟩
  obtain ⟨c', found', -, minted, -⟩ := inv.registered c.remote entry registered
  have own : entry.conn = conn := inv.conn_eq found' found (minted.trans iid)
  refine ⟨fun x closed => ?_, ?_⟩
  · rw [state] at closed
    rcases only x closed with named | earlier
    · rw [List.mem_singleton.mp named, own]; exact List.mem_cons_self _ _
    · exact List.mem_cons_of_mem _ earlier
  · rcases left with failed | deleted
    · rw [failed]; exact .inl closes.peers
    · rw [deleted]; exact .inr ⟨c.remote, entry, registered, own, rfl⟩

/-- B's connection reports `Disconnected` once A has registered it. -/
theorem introducedB_disconnected :
    Reachable Codec.plain (replay introducedB) ∧
      (crashOnPanic ((replay introducedB).disconnected {} 0)).closedConns ⊆
          0 :: (replay introducedB).closedConns ∧
        ((crashOnPanic ((replay introducedB).disconnected {} 0)).peers = (replay introducedB).peers ∨
          ∃ key entry, (replay introducedB).peers.lookup key = some entry ∧ entry.conn = 0 ∧
            (crashOnPanic ((replay introducedB).disconnected {} 0)).peers =
              (replay introducedB).peers.erase key) :=
  ⟨⟨_, _, rfl⟩, disconnected_own ⟨_, _, rfl⟩ {} 0⟩

/-- **A `Disconnected` handler that returns leaves its connection in no entry.** In every
reachable state, once the handler of a connection has returned, no registry entry holds the
connection: an entry that held it was registered for the connection's remote id under the
connection's `iid`, and the handler deletes it. -/
theorem disconnected_unregisters {s t : Adapter Raw} (reachable : Reachable codec s)
    {replies : Replies} {conn : Nat} (returned : s.disconnected replies conn = .ok t) {key : String}
    {entry : Peer} (registered : t.peers.lookup key = some entry) : entry.conn ≠ conn := by
  have inv := (connInvariant_reachable codec reachable).1
  rintro rfl
  rcases s.disconnected_matches replies entry.conn with ⟨unmatched, same⟩ |
    ⟨c, old, u, found, -, -, closes, -, failed | deleted⟩
  · rw [same] at returned
    cases returned
    obtain ⟨c, found, remote, minted, -⟩ := inv.registered key entry registered
    exact unmatched c entry found (remote ▸ registered) minted.symm
  · rw [failed] at returned; cases returned
  · rw [deleted] at returned
    cases returned
    have erased : (s.peers.erase c.remote).lookup key = some entry := closes.peers ▸ registered
    by_cases same : key = c.remote
    · rw [same, AList.lookup_erase] at erased; cases erased
    · rw [AList.lookup_erase_ne same] at erased
      obtain ⟨c', found', remote, -⟩ := inv.registered key entry erased
      rw [found] at found'; cases found'
      exact same remote.symm

/-- A has registered B's connection, then C's. -/
def introducedBC : List (Action Plain) := introducedB ++ [.receive (.introduction "C") {}, .acquire {}]

theorem introducedBC_unregisters :
    (replay introducedBC).disconnected {} 0 = .ok ((replay introducedBC).disconnected {} 0).state ∧
      ((replay introducedBC).disconnected {} 0).state.peers.lookup "C" =
        some ⟨1, 1, (∅ : AList _).insert "primary" 1, 1⟩ ∧
      (⟨1, 1, (∅ : AList _).insert "primary" 1, 1⟩ : Peer).conn ≠ 0 :=
  have returned : (replay introducedBC).disconnected {} 0 =
      .ok ((replay introducedBC).disconnected {} 0).state := rfl
  have registered : ((replay introducedBC).disconnected {} 0).state.peers.lookup "C" =
      some ⟨1, 1, (∅ : AList _).insert "primary" 1, 1⟩ := rfl
  ⟨returned, registered, disconnected_unregisters ⟨_, _, rfl⟩ returned registered⟩

/-- **Every post of a connection is routed by that connection.** In every reachable state,
a post that a connection's handler spawned is addressed to that connection's remote id: an
offer or an answer is the connection's local description, of its own kind and naming the
connection, and a candidate is posted only once that description is set. -/
theorem posts_routed {s : Adapter Raw} (reachable : Reachable codec s) {p : Post Raw}
    (spawned : p ∈ s.spawned) {conn : Nat} (source : p.source.conn = some conn) :
    ∃ c, s.conns[conn]? = some c ∧ p.Routed c ∧ c.Describes conn := by
  have inv := (connInvariant_reachable codec reachable).1
  obtain ⟨c, found, routed⟩ := inv.posts p spawned conn source
  exact ⟨c, found, routed, inv.describes conn c found⟩

/-- The offer A posts to B once it has registered B's connection. -/
theorem introducedB_offer_routed :
    (⟨.offer "A" "B" ⟨.offer, "A", 0⟩, 1, 1, .offer 0⟩ : Post Plain) ∈ (replay introducedB).spawned ∧
      ∃ c, (replay introducedB).conns[0]? = some c ∧
        Post.Routed ⟨.offer "A" "B" ⟨.offer, "A", 0⟩, 1, 1, .offer 0⟩ c ∧ c.Describes 0 :=
  have spawned : (⟨.offer "A" "B" ⟨.offer, "A", 0⟩, 1, 1, .offer 0⟩ : Post Plain) ∈
      (replay introducedB).spawned := List.mem_iff_getElem?.mpr ⟨1, rfl⟩
  ⟨spawned, posts_routed ⟨_, _, rfl⟩ spawned rfl⟩

end Properties

end Adapter

end Weron
