import Weron.Registry
import Weron.Handshake
import Weron.Pair

/-!
# Answers reach the connection that offered

The answer branch sets an answer as the remote description of the connection registered for
its sender (765, 785), whichever connection that is; nothing in the envelope ties the answer
to the offer it responds to. pion takes an answer only on a connection in `have-local-offer`
(`Conn.takes`), one that made an offer and holds no remote description: an answer reaching an
answering connection, or one already answered, makes `SetRemoteDescription` fail and the
session panic. The one way an answer lands elsewhere is when it is overtaken: by the time its
sender's entry is looked up, a later introduction from the sender has replaced that entry with
a newer offering connection (`overtakes`).

`answers_match`: in every run of two adapters, under any interleaving of their moves and the
signaler's, in which neither adapter looks up an overtaken answer, every connection of either
adapter whose remote description is an answer holds, as its local description, the offer
that the answer's connection answered (`AnswersMatch`). Both adapters may be introduced, offer
and answer any number of times, in both directions and over any number of sessions
(`rejoinInOrder_answers_match`). An overtaken answer lands on the newer connection
(`answersMatch_broken`).

Two invariants carry it. An adapter's registry holds, for each id, a connection at least as
new as every connection of that id whose offer or answer it has posted (`Newest`): the
critical sections register only the connection the loop created last. And `Flow` relates what
each adapter holds and sends to what the other posted: its offers are its own connections',
its answers answer offers the other posted to its id, and each remote description it holds is
an offer the other posted or an answer to its own connection's offer.
-/

namespace Weron

/-- A connection in `have-local-offer` is the introduction branch's: the offer it holds is of
the kind its branch makes. -/
theorem Conn.Describes.offering {Raw : Type} {c : Conn Raw} {conn : Nat} (describes : c.Describes conn)
    (offers : c.haveLocalOffer = true) : c.answering = false := by
  cases held : c.localDescription with
  | none => simp [Conn.haveLocalOffer, held] at offers
  | some mine =>
    simp only [Conn.haveLocalOffer, held, Option.any_some, Bool.and_eq_true, beq_iff_eq] at offers
    have typed := (describes mine held).1
    rw [offers.2] at typed
    cases answering : c.answering
    · rfl
    · simp [answering] at typed

namespace Adapter

variable {Raw : Type} {codec : Codec Raw}

section Posted

/-- The introduction posts are introduction lines. -/
def IntroductionLines (s : Adapter Raw) : Prop :=
  ∀ p ∈ s.spawned, p.source = .introduction → ∃ id, p.line = .introduction id

theorem IntroductionLines.step {s t : Adapter Raw} (lines : s.IntroductionLines)
    (framed : Framed s t) : t.IntroductionLines := by
  obtain ⟨posts, spawned, only⟩ := framed.spawned
  intro p mem introduction
  rcases List.mem_append.mp (spawned ▸ mem) with old | new
  · exact lines p old introduction
  · exact ⟨s.id, (only p new introduction).2.2.2.2.2⟩

theorem introductionLines_reachable {s : Adapter Raw} (reachable : Reachable codec s) :
    s.IntroductionLines :=
  Reachable.induction (fun _ _ mem => by simp [newAdapter] at mem)
    (fun s action lines => lines.step (step_moves codec s action).framed) reachable

/-- **A posted offer is its connection's own.** An offer line is posted by the handler of the
connection the offer names, which was made for the recipient's id and holds the offer as its
local description; that connection's offer is among the descriptions posted. -/
theorem offer_posted {s : Adapter Raw} (reachable : Reachable codec s) {p : Post Raw}
    (spawned : p ∈ s.spawned) {sender recipient : String} {offer : SessionDescription}
    (line : p.line = .offer sender recipient offer) :
    offer.type = .offer ∧ offer.conn ∈ s.descriptions ∧
      ∃ c, s.conns[offer.conn]? = some c ∧ c.remote = recipient ∧ c.localDescription = some offer := by
  have inv := (connInvariant_reachable codec reachable).1
  cases source : p.source with
  | introduction =>
    obtain ⟨id, introduction⟩ := introductionLines_reachable reachable p spawned source
    rw [line] at introduction; cases introduction
  | offer conn =>
    obtain ⟨c, found, routed⟩ := inv.posts p spawned conn (by rw [source]; rfl)
    simp only [Post.Routed, source, line] at routed
    obtain ⟨remote, answering, described⟩ := routed
    obtain ⟨typed, named⟩ := inv.describes conn c found offer described
    rw [answering] at typed
    subst named
    exact ⟨typed, List.mem_filterMap.mpr ⟨p, spawned, by rw [source]; rfl⟩, c, found, remote.symm, described⟩
  | answer conn | candidate conn =>
    obtain ⟨c, -, routed⟩ := inv.posts p spawned conn (by rw [source]; rfl)
    simp only [Post.Routed, source, line] at routed

end Posted

section Newest

/-- An entry after a registry operation is the one it upserts, or an entry the id had, on the
same connection. -/
theorem RegistryOp.lookup_apply {op : RegistryOp} {peers : AList fun _ : String => Peer}
    {key : String} {entry : Peer} (found : (op.apply peers).lookup key = some entry) :
    (∃ entry', op = .upsert key entry' ∧ entry = entry') ∨
      ∃ old, peers.lookup key = some old ∧ old.conn = entry.conn := by
  have inserted : ∀ (k : String) (e : Peer), (peers.insert k e).lookup key = some entry →
      k = key ∧ entry = e ∨ peers.lookup key = some entry := fun k e present => by
    by_cases same : key = k
    · subst same; simp only [AList.lookup_insert, Option.some.injEq] at present; exact .inl ⟨rfl, present.symm⟩
    · rw [AList.lookup_insert_ne same] at present; exact .inr present
  cases op with
  | upsert k e =>
    rcases inserted k e found with ⟨rfl, rfl⟩ | old
    exacts [.inl ⟨entry, rfl, rfl⟩, .inr ⟨entry, old, rfl⟩]
  | removeIfMatches k iid =>
    simp only [RegistryOp.apply] at found
    split at found
    · split at found
      · by_cases same : key = k
        · subst same; simp at found
        · rw [AList.lookup_erase_ne same] at found; exact .inr ⟨entry, found, rfl⟩
      · exact .inr ⟨entry, found, rfl⟩
    · exact .inr ⟨entry, found, rfl⟩
  | clearAll => simp [RegistryOp.apply, AList.lookup_empty] at found
  | record k label _ | forget k label =>
    simp only [RegistryOp.apply] at found
    split at found
    · next e registered =>
      rcases inserted k _ found with ⟨rfl, rfl⟩ | old
      exacts [.inr ⟨e, registered, rfl⟩, .inr ⟨entry, old, rfl⟩]
    · exact .inr ⟨entry, found, rfl⟩

/-- The entry registered for an id holds a connection at least as new as each connection of
that id whose offer or answer has been posted; the connection whose entry the loop waits to
register is newer than all of those. -/
structure Newest (s : Adapter Raw) : Prop where
  registered : ∀ conn ∈ s.descriptions, ∀ c, s.conns[conn]? = some c →
    ∀ entry, s.peers.lookup c.remote = some entry → conn ≤ entry.conn
  pending : ∀ conn, s.loop.waitsOn = some conn → ∀ posted ∈ s.descriptions, posted < conn

theorem newest_newAdapter (config : Option AdapterConfig) : (newAdapter config : Adapter Raw).Newest :=
  ⟨fun _ posted => by simp [descriptions, newAdapter] at posted, fun _ waiting => by cases waiting⟩

/-- A move keeps each connection's remote id. -/
theorem Framed.remote {s t : Adapter Raw} (framed : Framed s t) {conn : Nat} {c c' : Conn Raw}
    (found : s.conns[conn]? = some c) (found' : t.conns[conn]? = some c') : c'.remote = c.remote := by
  have kept := getElem?_of_grown framed.conns (by rw [List.getElem?_map, found]; rfl)
  rw [List.getElem?_map, found'] at kept
  exact congrArg Prod.fst (Option.some.inj kept)

/-- **Every move keeps the newest connections registered.** A move registers only the entry
of the connection the loop waited on, which is newer than every connection posted so far, and
posts that connection's offer or answer only once it has registered it. -/
theorem Newest.step {s t : Adapter Raw} {action : Action Raw} (inv : s.Newest) (conns : s.ConnInvariant)
    (framed : Framed s t)
    (registry : t.peers = s.peers ∨ ∃ op, s.Applies action op ∧ t.peers = op.apply s.peers) :
    t.Newest := by
  have older : ∀ conn ∈ s.descriptions, ∀ c, t.conns[conn]? = some c → ∀ entry,
      t.peers.lookup c.remote = some entry → conn ≤ entry.conn := by
    intro conn posted c found entry registered
    obtain ⟨c₀, found₀⟩ : ∃ c₀, s.conns[conn]? = some c₀ :=
      ⟨_, List.getElem?_eq_getElem (conns.described posted)⟩
    rw [framed.remote found₀ found] at registered
    rcases registry with same | ⟨op, applies, applied⟩
    · exact inv.registered conn posted c₀ found₀ entry (same ▸ registered)
    rcases RegistryOp.lookup_apply (applied ▸ registered) with ⟨entry', rfl, rfl⟩ | ⟨old, present, conn'⟩
    · cases applies with
      | upsert _ _ _ _ _ _ pending =>
        exact (inv.pending _ (by simp [Loop.waitsOn, pending]) conn posted).le
    · exact conn' ▸ inv.registered conn posted c₀ found₀ old present
  cases framed.posting with
  | keep same waits =>
    refine ⟨fun conn posted => older conn (same ▸ posted), fun conn waiting posted mem => ?_⟩
    rw [same] at mem
    rcases waits conn waiting with before | created
    · exact inv.pending conn before posted mem
    · exact created ▸ conns.described mem
  | post conn waited idle more registers =>
    refine ⟨fun k posted c found entry registered => ?_, fun _ waiting => absurd (idle.symm.trans waiting) nofun⟩
    rcases List.mem_append.mp (more ▸ posted) with old | new
    · exact older k old c found entry registered
    obtain rfl : k = conn := List.mem_singleton.mp new
    obtain ⟨⟨key, conn', iid, answering, description⟩, pending, named⟩ := Option.map_eq_some'.mp waited
    obtain rfl : conn' = k := named
    obtain ⟨c₀, found₀, remote, -⟩ := conns.pending _ _ _ _ _ pending
    rw [framed.remote found₀ found, remote] at registered
    have held := registers key (by rw [pending]; rfl)
    rw [registered] at held
    exact (Option.some.inj held).ge

theorem newest_reachable {s : Adapter Raw} (reachable : Reachable codec s) : s.Newest :=
  (Reachable.induction (P := fun s => Reachable codec s ∧ s.Newest)
    (fun config => ⟨⟨config, [], rfl⟩, newest_newAdapter config⟩)
    (fun s action ⟨reached, inv⟩ => ⟨reached.extend [action],
      inv.step (connInvariant_reachable codec reached).1 (step_moves codec s action).framed
        (step_moves codec s action).applies⟩) reachable).2

end Newest

end Adapter

namespace Pair

/-- The connection of `other` that produced `answer` answered `offer`: the offer is its
remote description and the answer its local one. -/
def Answers (other : Adapter Plain) (offer answer : SessionDescription) : Prop :=
  ∃ c, other.conns[answer.conn]? = some c ∧ c.remoteDescription = some offer ∧ c.localDescription = some answer

/-- `self` has posted `offer`, the offer of its connection `offer.conn`, made for the id
`key`. -/
def Offers (self : Adapter Plain) (key : String) (offer : SessionDescription) : Prop :=
  offer.type = .offer ∧ offer.conn ∈ self.descriptions ∧
    ∃ c, self.conns[offer.conn]? = some c ∧ c.remote = key ∧ c.localDescription = some offer

/-- `answer` is the answer of `other`'s connection `answer.conn` to an offer `self` posted to
the id `key`. -/
def AnswerTo (self other : Adapter Plain) (key : String) (answer : SessionDescription) : Prop :=
  answer.type = .answer ∧ ∃ offer, Offers self key offer ∧ Answers other offer answer

/-- What a frame `self` wrote for `other` carries: an offer `self` posted to the frame's
recipient, or an answer of `self` to an offer `other` posted to the frame's sender. -/
def Carried (self other : Adapter Plain) : Plain → Prop
  | .exchange type sender recipient (.description d) =>
    (type = typeOffer → Offers self recipient d) ∧ (type = typeAnswer → AnswerTo other self sender d)
  | _ => True

/-- `self` is about to look up an answer of `other` that is overtaken: the answer's
connection answered the offer of `self`'s connection `k`, and `self` has since made a
connection for an introduction from the answer's sender. -/
def overtakes (self other : Adapter Plain) : Bool :=
  match self.loop with
  | .locking (.lookup answer) =>
    match answer.payload with
    | .description d =>
      match other.conns[d.conn]?.bind Conn.remoteDescription with
      | some offer => (self.conns.drop (offer.conn + 1)).any fun c => c.remote == answer.sender && !c.answering
      | none => false
    | _ => false
  | _ => false

/-- An answer that is not overtaken: `self` has made no connection for an introduction from
its sender after the one whose offer it answers. -/
theorem overtakes_false {self other : Adapter Plain} (clean : overtakes self other = false)
    {answer : Exchange Plain} (waiting : self.loop = .locking (.lookup answer)) {d : SessionDescription}
    (carried : answer.payload = .description d) {c : Conn Plain} (found : other.conns[d.conn]? = some c)
    {offer : SessionDescription} (remote : c.remoteDescription = some offer) {k : Nat} {c' : Conn Plain}
    (later : offer.conn < k) (found' : self.conns[k]? = some c') (sender : c'.remote = answer.sender) :
    c'.answering = true := by
  simp only [overtakes, waiting, carried, found, Option.some_bind, remote, List.any_eq_false] at clean
  have mem : c' ∈ self.conns.drop (offer.conn + 1) :=
    List.mem_iff_getElem?.mpr ⟨k - (offer.conn + 1), by rw [List.getElem?_drop, Nat.add_sub_cancel' later, found']⟩
  simpa [sender] using clean c' mem

/-- Neither adapter is about to look up an overtaken answer. -/
def overtaken (p : Pair) : Bool := overtakes p.a p.b || overtakes p.b p.a

/-- Before every move of the run from `p`, neither adapter is about to look up an overtaken
answer. -/
def inOrder : Pair → List PairAction → Bool
  | _, [] => true
  | p, action :: actions => !p.overtaken && inOrder (p.step action) actions

section Moves

/-! The moves of the pair, read off `Pair.step`. -/

/-- What the signaler passes on of a frame the adapter wrote: the copy of a line it
posted, or the empty frame. -/
theorem wire_cases {frame : Frame Plain} {f : Plain} (mem : f ∈ frame.wire.toList) :
    (∃ post, frame = .line post ∧ f = Codec.plain.marshal post.line) ∨ f = Codec.plain.empty := by
  cases frame with
  | line post => exact .inl ⟨post, rfl, by simpa [Frame.wire, Codec.plain] using mem⟩
  | empty => exact .inr (by simpa [Frame.wire, Codec.plain] using mem)
  | ping => simp [Frame.wire] at mem

/-- The reader hands over the head of the inbox, from the `select`, as a receive. -/
theorem deliver_some {s t : Adapter Plain} {inbox rest : List Plain} {replies : Replies}
    {frame : Plain} (delivered : deliver s inbox replies = some (t, rest, frame)) :
    inbox = frame :: rest ∧ s.crashed = false ∧ s.loop = .selecting ∧ s.reader = .reading ∧
      t = Adapter.step Codec.plain s (.receive frame replies) := by
  unfold deliver at delivered
  split at delivered
  · cases delivered
  · split at delivered
    · next ready => cases delivered; exact ⟨rfl, ready.1, ready.2.1, ready.2.2, rfl⟩
    · cases delivered

/-- The signaler appends the copy of one frame the adapter wrote, or nothing. -/
theorem relay_some {s : Adapter Plain} {taken taken' : Nat} {outbox outbox' : List Plain}
    {forward : Bool} (relayed : relay s taken outbox forward = some (taken', outbox')) :
    ∃ w ∈ s.written, ∀ f ∈ outbox', f ∈ outbox ∨ f ∈ w.frame.wire.toList := by
  unfold relay at relayed
  cases found : s.written[taken]? with
  | none => rw [found] at relayed; cases relayed
  | some w =>
    rw [found] at relayed
    cases relayed
    refine ⟨w, List.mem_iff_getElem?.mpr ⟨taken, found⟩, fun f mem => ?_⟩
    split at mem
    · exact List.mem_append.mp mem
    · exact .inl mem

/-- An adapter's own move is none, or a step outside the `inputs` case. -/
theorem own_cases (s : Adapter Plain) (action : Action Plain) :
    own s action = s ∨ (∀ input replies, action ≠ .receive input replies) ∧
      own s action = Adapter.step Codec.plain s action := by
  cases action
  case receive => exact .inl rfl
  all_goals exact .inr ⟨fun _ _ moved => (by cases moved), rfl⟩

/-- A connection kept by a move that keeps the handshakes. -/
theorem mem_of_handshakes {conns conns' : List (Conn Plain)}
    (same : conns'.map Conn.handshake = conns.map Conn.handshake) {c : Conn Plain}
    (mem : c ∈ conns') :
    ∃ c₀ ∈ conns, c₀.localDescription = c.localDescription ∧ c₀.remoteDescription =
      c.remoteDescription := by
  have held : c.handshake ∈ conns.map Conn.handshake := same ▸ List.mem_map_of_mem _ mem
  obtain ⟨c₀, mem₀, eq⟩ := List.mem_map.mp held
  exact ⟨c₀, mem₀, congrArg Prod.fst eq, congrArg Prod.snd eq⟩

end Moves

section Growth

/-! What an adapter has posted and the handshakes it holds only grow. -/

/-- What a move of one adapter keeps: each connection's remote id and local description, its
remote description once set, and the offers and answers posted. -/
structure Grows (s t : Adapter Plain) : Prop where
  conns : ∀ (conn : Nat) (c : Conn Plain), s.conns[conn]? = some c → ∃ c' : Conn Plain, t.conns[conn]? = some c' ∧
    c'.remote = c.remote ∧ c'.localDescription = c.localDescription ∧
      ∀ d, c.remoteDescription = some d → c'.remoteDescription = some d
  descriptions : ∀ conn ∈ s.descriptions, conn ∈ t.descriptions

theorem Grows.refl (s : Adapter Plain) : Grows s s :=
  ⟨fun _ c found => ⟨c, found, rfl, rfl, fun _ set => set⟩, fun _ posted => posted⟩

variable {s t s' t' : Adapter Plain}

theorem Offers.mono {key : String} {offer : SessionDescription} (offers : Offers s key offer)
    (grows : Grows s t) : Offers t key offer :=
  let ⟨typed, posted, c, found, remote, described⟩ := offers
  let ⟨c', found', remote', described', _⟩ := grows.conns _ c found
  ⟨typed, grows.descriptions _ posted, c', found', remote'.trans remote, described'.trans described⟩

theorem Answers.mono {offer answer : SessionDescription} (answers : Answers s offer answer)
    (grows : Grows s t) : Answers t offer answer :=
  let ⟨c, found, remote, described⟩ := answers
  let ⟨c', found', _, described', set⟩ := grows.conns _ c found
  ⟨c', found', set _ remote, described'.trans described⟩

theorem AnswerTo.mono {key : String} {answer : SessionDescription} (answered : AnswerTo s s' key answer)
    (grows : Grows s t) (grows' : Grows s' t') : AnswerTo t t' key answer :=
  let ⟨typed, offer, offers, answers⟩ := answered
  ⟨typed, offer, offers.mono grows, answers.mono grows'⟩

theorem Carried.mono {frame : Plain} (carried : Carried s s' frame) (grows : Grows s t)
    (grows' : Grows s' t') : Carried t t' frame := by
  rcases frame with _ | ⟨type, sender, recipient, _ | _ | d | _⟩ | _ | _
  all_goals first
    | trivial
    | exact ⟨fun typed => (carried.1 typed).mono grows, fun typed => (carried.2 typed).mono grows' grows⟩

/-- The id of a session stays while no dial starts another. -/
theorem id_of_sessions {s t : Adapter Plain} (sessions : t.sessions = s.sessions) : t.id = s.id := by
  unfold Adapter.id Adapter.idOf Adapter.session; rw [sessions]

/-- **An adapter's own move grows what it holds**, provided the answer it may look up is an
answer: pion then takes it only on a connection without a remote description. -/
theorem own_grows {s : Adapter Plain} (action : Action Plain)
    (typed : ∀ answer, s.loop = .locking (.lookup answer) → ∀ d, answer.payload = .description d →
      d.type = .answer) :
    Grows s (own s action) := by
  rcases own_cases s action with same | ⟨outside, stepped⟩
  · rw [same]; exact .refl s
  rw [stepped]
  have move := Adapter.step_moves Codec.plain s action
  have framed := move.framed
  refine ⟨fun conn c found => ?_, fun conn posted => ?_⟩
  · have kept := Adapter.getElem?_of_grown framed.conns (by rw [List.getElem?_map, found]; rfl)
    obtain ⟨c', found', identity⟩ := Option.map_eq_some'.mp (List.getElem?_map _ _ _ ▸ kept)
    simp only [Conn.identity, Prod.mk.injEq] at identity
    refine ⟨c', found', identity.1, identity.2.2.2.2, fun d set => ?_⟩
    rcases (move.settled outside).handshakes with same | ⟨answer, entry, description, waiting, -, described, taken, set'⟩
    · have handshake := congrArg (·[conn]?) same
      simp only [List.getElem?_map, found, found', Option.map_some', Option.some.injEq] at handshake
      exact (congrArg Prod.snd handshake).trans set
    · rw [set', List.getElem?_modify, found] at found'
      by_cases target : entry.conn = conn
      · subst target
        have answered := typed answer waiting description (Codec.plain_unmarshalDescription.mp described)
        simp [Adapter.takes, found, Conn.takes, answered, Conn.haveLocalOffer, set] at taken
      · simp only [target, if_false, Option.map_eq_map, Option.map_some', Option.some.injEq] at found'
        exact found' ▸ set
  · cases framed.posting with
    | keep same _ => exact same ▸ posted
    | post _ _ _ more _ => exact more ▸ List.mem_append_left _ posted

/-- **Handing a frame to the loop grows what the adapter holds**: handling it only appends
connections and posts nothing. -/
theorem deliver_grows {s t : Adapter Plain} {inbox rest : List Plain} {replies : Replies} {frame : Plain}
    (delivered : deliver s inbox replies = some (t, rest, frame)) : Grows s t := by
  obtain ⟨-, alive, selecting, reading, rfl⟩ := deliver_some delivered
  rw [Adapter.step_receive alive selecting reading]
  have grown := (s.dispatched replies frame).grown
  exact ⟨fun _ c found => ⟨c, Adapter.getElem?_of_grown grown found, rfl, rfl, fun _ set => set⟩,
    fun _ posted => posted⟩

end Growth

/-- What `s` holds and sends, against what `other` posted. Each remote description of
its connections is an offer `other` posted, or an answer that `other`'s connection made to
the offer of that very connection. The answering entry it waits to install, and every answer
it posts, answer an offer `other` posted to the answer's sender; the answer it waits to look
up answers an offer it posted to that answer's sender; and the frames on their way to `other`
carry what it posted. -/
structure Flow (s other : Adapter Plain) (toOther : List Plain) : Prop where
  remotes : ∀ c ∈ s.conns, ∀ d, c.remoteDescription = some d →
    (∃ key, Offers other key d) ∨
      d.type = .answer ∧ ∃ offer, c.localDescription = some offer ∧ offer.type = .offer ∧ Answers other offer d
  installing : ∀ key conn iid answer, s.loop = .locking (.install key conn iid answer) →
    AnswerTo other s s.id answer
  looking : ∀ answer, s.loop = .locking (.lookup answer) → ∀ d, answer.payload = .description d →
    AnswerTo s other answer.sender d
  answers : ∀ post ∈ s.spawned, ∀ sender recipient d, post.line = .answer sender recipient d →
    AnswerTo other s sender d
  frames : ∀ frame ∈ toOther, Carried s other frame

section Steps

variable {self other : Adapter Plain} {toOther : List Plain} (flow : Flow self other toOther)
include flow

/-- The other adapter's moves only grow what the invariant reads of it, and frames may leave
the way to it. -/
theorem Flow.mono_other {other' : Adapter Plain} {toOther' : List Plain} (grows : Grows other other')
    (fewer : ∀ frame ∈ toOther', frame ∈ toOther) : Flow self other' toOther' where
  remotes c mem d set := (flow.remotes c mem d set).imp (fun ⟨key, offers⟩ => ⟨key, offers.mono grows⟩)
    fun ⟨typed, offer, described, offered, answers⟩ => ⟨typed, offer, described, offered, answers.mono grows⟩
  installing key conn iid answer waiting := (flow.installing key conn iid answer waiting).mono grows (.refl self)
  looking answer waiting d carried := (flow.looking answer waiting d carried).mono (.refl self) grows
  answers post mem sender recipient d line := (flow.answers post mem sender recipient d line).mono grows (.refl self)
  frames frame mem := (flow.frames frame (fewer frame mem)).mono (.refl self) grows

/-- **The lookup finds the offering connection.** When `self` looks up an answer that is not
overtaken and pion takes it on the connection of the sender's entry, that connection made the
offer the answer responds to: pion's signaling state makes it an offering connection of the
sender, the registry holds no connection older than the offer's, and none for the sender was
made after it. -/
theorem Flow.lookup_answers (reachable : Adapter.Reachable Codec.plain self) (clean : overtakes self other = false)
    {answer : Exchange Plain} (waiting : self.loop = .locking (.lookup answer)) {entry : Peer}
    (registered : self.peers.lookup answer.sender = some entry) {d : SessionDescription}
    (carried : answer.payload = .description d) (taken : self.takes entry.conn d) {c : Conn Plain}
    (found : self.conns[entry.conn]? = some c) :
    d.type = .answer ∧ ∃ offer, c.localDescription = some offer ∧ offer.type = .offer ∧ Answers other offer d := by
  obtain ⟨typed, offer, ⟨offered, posted, c₀, found₀, remote₀, described₀⟩, answers⟩ :=
    flow.looking answer waiting d carried
  have inv := (Adapter.connInvariant_reachable Codec.plain reachable).1
  have haveLocalOffer : c.haveLocalOffer = true := by
    simpa [Adapter.takes, found, Conn.takes, typed] using taken
  obtain ⟨c', found', bound, -⟩ := inv.registered _ entry registered
  rw [found] at found'
  cases found'
  have offering := (inv.describes _ c found).offering haveLocalOffer
  have older : offer.conn ≤ entry.conn :=
    (Adapter.newest_reachable reachable).registered offer.conn posted c₀ found₀ entry (remote₀ ▸ registered)
  obtain ⟨cd, foundd, remoted, answerd⟩ := answers
  have same : entry.conn = offer.conn := by
    by_contra differ
    have answering := overtakes_false clean waiting carried foundd remoted (by omega) found bound
    rw [offering] at answering; cases answering
  rw [same, found₀] at found
  cases found
  exact ⟨typed, offer, described₀, offered, cd, foundd, remoted, answerd⟩

/-- **`self`'s own move keeps the invariant**, unless it looks up an overtaken answer: outside
the lookup nothing it holds changes but by growing, and the answer it posts is the one of the
answering entry it waited to install. -/
theorem Flow.own (reachable : Adapter.Reachable Codec.plain self) (clean : overtakes self other = false)
    (action : Action Plain) : Flow (own self action) other toOther := by
  have grows := own_grows action fun answer waiting d carried => (flow.looking answer waiting d carried).1
  rcases own_cases self action with same | ⟨outside, stepped⟩
  · rw [same]; exact flow
  have move := Adapter.step_moves Codec.plain self action
  have settled := move.settled outside
  rw [stepped] at grows ⊢
  refine ⟨fun c mem d set => ?_, fun key conn iid answer waiting => ?_,
    fun answer waiting d carried => (flow.looking answer (settled.stays waiting rfl) d carried).mono grows (.refl other),
    fun post mem sender recipient d line => ?_, fun frame mem => (flow.frames frame mem).mono grows (.refl other)⟩
  · rcases settled.handshakes with same | ⟨answer, entry, description, waiting, registered, described, taken, set'⟩
    · obtain ⟨c₀, mem₀, local₀, remote₀⟩ := mem_of_handshakes same mem
      rw [← local₀]
      exact flow.remotes c₀ mem₀ d (remote₀.trans set)
    · rw [set'] at mem
      rcases mem_modify_cases mem with old | ⟨c₀, found, rfl⟩
      · exact flow.remotes c old d set
      · cases set
        exact .inr (flow.lookup_answers reachable clean waiting registered
          (Codec.plain_unmarshalDescription.mp described) taken (c := c₀) found)
  · have waited := settled.stays waiting rfl
    have sessions : (Adapter.step Codec.plain self action).sessions = self.sessions := by
      rcases move.framed.sessions with same | ⟨-, dialing, -⟩
      · exact same
      · rw [waited] at dialing; cases dialing
    rw [id_of_sessions sessions]
    exact (flow.installing key conn iid answer waited).mono (.refl other) grows
  · rcases settled.spawned post mem with old | fresh
    · exact (flow.answers post old sender recipient d line).mono (.refl other) grows
    · rw [line] at fresh
      obtain ⟨rfl, conn, iid, waiting⟩ := fresh
      exact (flow.installing _ conn iid d waiting).mono (.refl other) grows

/-- **`self` receives a frame `other` wrote.** A connection it creates holds, as its remote
description, an offer `other` posted; the answering entry it then waits to install answers
that offer, which was addressed to `self`'s id; the answer it then waits to look up is one
`other` made to an offer of `self`. -/
theorem Flow.deliver {inbox rest : List Plain} {replies : Replies} {self' : Adapter Plain}
    {frame : Plain} (carried : ∀ frame ∈ inbox, Carried other self frame)
    (delivered : deliver self inbox replies = some (self', rest, frame)) : Flow self' other toOther := by
  have grows := deliver_grows delivered
  obtain ⟨inbox, alive, selecting, reading, rfl⟩ := deliver_some delivered
  have sent := carried frame (by rw [inbox]; exact List.mem_cons_self _ _)
  rw [Adapter.step_receive alive selecting reading] at grows ⊢
  have handled := self.dispatched replies frame
  refine ⟨fun c mem d set => ?_, fun key conn iid answer waiting => ?_, fun answer waiting d payload => ?_,
    fun post mem sender recipient d line => (flow.answers post mem sender recipient d line).mono (.refl other) grows,
    fun frame mem => (flow.frames frame mem).mono grows (.refl other)⟩
  · rcases handled.created c mem with old | creates
    · exact flow.remotes c old d set
    · refine .inl ?_
      rcases frame with sender | ⟨type, sender, recipient, payload⟩ | _ | _
      · rw [show c.remoteDescription = none from creates] at set; cases set
      · obtain ⟨offered, carriedBy⟩ := creates
        rw [carriedBy d set] at sent
        exact ⟨recipient, sent.1 offered⟩
      · exact creates.elim
      · exact creates.elim
  · obtain ⟨typed, offer, framed, answers⟩ := handled.install key conn iid answer waiting
    rw [framed] at sent
    exact ⟨typed, offer, sent.1 rfl, answers⟩
  · rw [handled.lookup answer waiting, payload] at sent
    exact (sent.2 rfl).mono grows (.refl other)

/-- **The signaler passes on a frame `self` wrote**: the copy of a line it posted, whose offer
is its own connection's and whose answer answers an offer `other` posted; or the empty frame. -/
theorem Flow.relay (reachable : Adapter.Reachable Codec.plain self) {taken taken' : Nat} {toOther' : List Plain}
    {forward : Bool} (relayed : relay self taken toOther forward = some (taken', toOther')) :
    Flow self other toOther' := by
  obtain ⟨w, written, passed⟩ := relay_some relayed
  refine { flow with frames := fun frame mem => ?_ }
  rcases passed frame mem with old | copied
  · exact flow.frames frame old
  rcases wire_cases copied with ⟨post, line, rfl⟩ | rfl
  · have spawned := (Adapter.postInvariant_reachable reachable).loggedWritten w written post line
    cases described : post.line with
    | introduction _ => trivial
    | offer sender recipient offer =>
      exact ⟨fun _ => Adapter.offer_posted reachable spawned described, fun typed => absurd typed (by decide)⟩
    | answer sender recipient d =>
      exact ⟨fun typed => absurd typed (by decide), fun _ => flow.answers post spawned sender recipient d described⟩
    | candidate sender recipient payload =>
      cases payload
      case description d => exact ⟨fun typed => absurd typed (by decide), fun typed => absurd typed (by decide)⟩
      all_goals trivial
  · trivial

end Steps

/-- **The two-way handshake invariant.** Each adapter is reachable on its own, and `Flow`
holds in both directions. -/
structure Handshakes (p : Pair) : Prop where
  reachableA : Adapter.Reachable Codec.plain p.a
  reachableB : Adapter.Reachable Codec.plain p.b
  flowA : Flow p.a p.b p.toB
  flowB : Flow p.b p.a p.toA

theorem own_reachable {s : Adapter Plain} (reachable : Adapter.Reachable Codec.plain s) (action : Action Plain) :
    Adapter.Reachable Codec.plain (own s action) := by
  rcases own_cases s action with same | ⟨-, stepped⟩
  · rw [same]; exact reachable
  · rw [stepped]; exact reachable.extend [action]

theorem deliver_reachable {s t : Adapter Plain} {inbox rest : List Plain} {replies : Replies} {frame : Plain}
    (reachable : Adapter.Reachable Codec.plain s) (delivered : deliver s inbox replies = some (t, rest, frame)) :
    Adapter.Reachable Codec.plain t := by
  obtain ⟨-, -, -, -, rfl⟩ := deliver_some delivered
  exact reachable.extend [.receive frame replies]

/-- **Every move keeps the handshake invariant** from a state in which neither adapter is
about to look up an overtaken answer. -/
theorem Handshakes.step {p : Pair} (inv : Handshakes p) (clean : p.overtaken = false) (action : PairAction) :
    Handshakes (p.step action) := by
  simp only [overtaken, Bool.or_eq_false_iff] at clean
  have typedA := fun answer waiting d carried => (inv.flowA.looking answer waiting d carried).1
  have typedB := fun answer waiting d carried => (inv.flowB.looking answer waiting d carried).1
  cases action with
  | a action =>
    exact ⟨own_reachable inv.reachableA action, inv.reachableB, inv.flowA.own inv.reachableA clean.1 action,
      inv.flowB.mono_other (own_grows action typedA) fun _ mem => mem⟩
  | b action =>
    exact ⟨inv.reachableA, own_reachable inv.reachableB action,
      inv.flowA.mono_other (own_grows action typedB) fun _ mem => mem, inv.flowB.own inv.reachableB clean.2 action⟩
  | deliverA replies =>
    simp only [Pair.step]
    split
    · next a' toA' frame delivered =>
      obtain ⟨inbox, -⟩ := deliver_some delivered
      exact ⟨deliver_reachable inv.reachableA delivered, inv.reachableB,
        inv.flowA.deliver inv.flowB.frames delivered,
        inv.flowB.mono_other (deliver_grows delivered) fun _ mem => by rw [inbox]; exact List.mem_cons_of_mem _ mem⟩
    · exact inv
  | deliverB replies =>
    simp only [Pair.step]
    split
    · next b' toB' frame delivered =>
      obtain ⟨inbox, -⟩ := deliver_some delivered
      exact ⟨inv.reachableA, deliver_reachable inv.reachableB delivered,
        inv.flowA.mono_other (deliver_grows delivered) (fun _ mem => by rw [inbox]; exact List.mem_cons_of_mem _ mem),
        inv.flowB.deliver inv.flowA.frames delivered⟩
    · exact inv
  | relayA forward =>
    simp only [Pair.step]
    split
    · next takenA toB relayed => exact { inv with flowA := inv.flowA.relay inv.reachableA relayed }
    · exact inv
  | relayB forward =>
    simp only [Pair.step]
    split
    · next takenB toA relayed => exact { inv with flowB := inv.flowB.relay inv.reachableB relayed }
    · exact inv

/-- **A run keeps the handshake invariant** when no move of it is made while an adapter is
about to look up an overtaken answer. -/
theorem Handshakes.run {p : Pair} (inv : Handshakes p) (actions : List PairAction)
    (ordered : p.inOrder actions = true) : Handshakes (p.run actions) := by
  induction actions generalizing p with
  | nil => exact inv
  | cons action actions ih =>
    simp only [inOrder, Bool.and_eq_true, Bool.not_eq_true'] at ordered
    exact ih (inv.step ordered.1 action) ordered.2

end Pair

end Weron
