import Weron.Drops
import Weron.Posts

/-!
# Session descriptions

A connection's handshake is its pair of session descriptions (`Conn.handshake`): the local
one its `CreateOffer` or `CreateAnswer` produced, and the remote one set from the other
side's envelope. Outside the `inputs` case of the `select`, no step sets a local
description, and only the answer branch's lookup sets a remote one, on the connection of
the sender's entry. Such a step registers no connection but the one of the critical section
it runs, and posts no offer or answer but that section's (`Moves.settled`).

Over the plain codec, `dispatched` says what handling one frame does to the handshakes: an
introduction creates a connection with its offer set, an offer one that holds the offer
and its answer, and the critical sections that follow name the frame they came from.
-/

namespace Weron

/-- A connection's session descriptions: the local one and the remote one. -/
def Conn.handshake {Raw : Type} (c : Conn Raw) : Option SessionDescription × Option SessionDescription :=
  (c.localDescription, c.remoteDescription)

/-- The loop waits for the critical section of a frame it handled. -/
def Loop.handling {Raw : Type} : Loop Raw → Bool
  | .locking (.replace _ _ _) | .locking (.install _ _ _ _) | .locking (.enqueue _)
  | .locking (.lookup _) => true
  | _ => false

/-- The plain codec reads a session description from a description frame only. -/
theorem Codec.plain_unmarshalDescription {payload : Plain} {description : SessionDescription} :
    Codec.plain.unmarshalDescription payload = some description ↔ payload =
    .description description := by
  constructor
  · intro read
    cases payload <;> cases read
    rfl
  · rintro rfl
    rfl

/-- Updating the last element of a list. -/
theorem modify_concat_length {α : Type} (f : α → α) (a : α) :
    ∀ l : List α, (l ++ [a]).modify f l.length = l ++ [f a]
  | [] => rfl
  | x :: l => by
    rw [List.cons_append, List.length_cons, List.modify_succ_cons, modify_concat_length f a l]; rfl

/-- An element of an updated list is an old one or the updated one. -/
theorem mem_modify_cases {α : Type} {f : α → α} {n : Nat} {l : List α} {b : α}
    (mem : b ∈ l.modify f n) :
    b ∈ l ∨ ∃ a, l[n]? = some a ∧ b = f a := by
  obtain ⟨m, found⟩ := List.mem_iff_getElem?.mp mem
  rw [List.getElem?_modify] at found
  cases old : l[m]? with
  | none => simp [old] at found
  | some a =>
    simp only [old, Option.map_eq_map, Option.map_some', Option.some.injEq] at found
    split_ifs at found with same
    · exact .inr ⟨a, same ▸ old, found.symm⟩
    · exact .inl (List.mem_iff_getElem?.mpr ⟨m, found ▸ old⟩)

/-- The connections the dispatch of a frame may create: the introduction branch's, with no
remote description, and the offer branch's, whose remote description is the session
description the offer carries. -/
def Plain.Creates : Plain → Conn Plain → Prop
  | .introduction _, c => c.remoteDescription = none
  | .exchange type _ _ payload, c =>
    type = typeOffer ∧ ∀ offer, c.remoteDescription = some offer → payload = .description offer
  | _, _ => False

namespace Adapter

variable {Raw : Type} {codec : Codec Raw}

/-- The connection of the entry registered for `key`. -/
def connOf (s : Adapter Raw) (key : String) : Option Nat :=
  (s.peers.lookup key).map Peer.conn

/-- A move that keeps the registry keeps every registered connection. -/
theorem connOf_congr {s t : Adapter Raw} (peers : t.peers = s.peers) :
    ∀ key conn, t.connOf key = some conn → s.connOf key = some conn := by
  intro key conn found; unfold connOf at found ⊢; rwa [peers] at found

/-- Recording or removing a channel in a registered entry keeps its connection. -/
theorem connOf_insert_channels {s t : Adapter Raw} {remote : String} {entry : Peer}
    (registered : s.peers.lookup remote = some entry) (labels : AList fun _ : String => Nat)
    (peers : t.peers = s.peers.insert remote { entry with channels := labels }) :
    ∀ key conn, t.connOf key = some conn → s.connOf key = some conn := by
  intro key conn found
  unfold connOf at found ⊢
  rw [peers] at found
  by_cases same : key = remote
  · subst same; simpa [AList.lookup_insert, registered] using found
  · rwa [AList.lookup_insert_ne same] at found

/-- Deleting an entry registers no connection. -/
theorem connOf_erase {s t : Adapter Raw} {remote : String}
    (peers : t.peers = s.peers.erase remote) :
    ∀ key conn, t.connOf key = some conn → s.connOf key = some conn := by
  intro key conn found
  unfold connOf at found ⊢
  rw [peers] at found
  by_cases same : key = remote
  · subst same; simp [AList.lookup_erase] at found
  · rwa [AList.lookup_erase_ne same] at found

/-- The critical section the loop waits to run registers connection `conn` for `key`: the
introduction branch's replacement, or the offer branch's answering entry. -/
def Registers (s : Adapter Raw) (key : String) (conn : Nat) : Prop :=
  (∃ entry offer, s.loop = .locking (.replace key entry offer) ∧ entry.conn = conn) ∨
    ∃ iid answer, s.loop = .locking (.install key conn iid answer)

/-- The lines a step outside the `inputs` case may post: an introduction, a local
candidate, the offer of the replacement the loop waits to run, or the answer of the
answering entry it waits to install, from the session's id. -/
def Fresh (s : Adapter Raw) : Envelope Raw → Prop
  | .introduction _ => True
  | .candidate _ _ _ => True
  | .offer _ key offer => ∃ entry, s.loop = .locking (.replace key entry offer)
  | .answer sender key answer => sender = s.id ∧ ∃ conn iid, s.loop = .locking (.install key conn iid answer)

/-- **A step outside the `inputs` case.** It keeps every local description, and every remote
one but the one the answer branch's lookup sets on the sender's connection, which pion's
signaling state takes there; it starts
waiting for no frame's critical section; it posts only `Fresh` lines; and it registers no
connection but the one of the critical section it runs. -/
structure Settled (codec : Codec Raw) (s t : Adapter Raw) : Prop where
  locals : t.conns.map Conn.localDescription = s.conns.map Conn.localDescription
  handshakes : t.conns.map Conn.handshake = s.conns.map Conn.handshake ∨
    ∃ answer entry description, s.loop = .locking (.lookup answer) ∧
      s.peers.lookup answer.sender = some entry ∧
      codec.unmarshalDescription answer.payload = some description ∧ s.takes entry.conn description ∧
      t.conns = s.conns.modify (fun c => { c with remoteDescription := some description }) entry.conn
  loop : t.loop.handling = true → t.loop = s.loop
  spawned : ∀ post ∈ t.spawned, post ∈ s.spawned ∨ s.Fresh post.line
  registered : ∀ key conn, t.connOf key = some conn → s.connOf key = some conn ∨ s.Registers key conn

/-- A move that keeps the handshakes, the posts and the registered connections, and waits
for no frame's critical section it was not waiting for. -/
theorem Settled.of_frame {s t : Adapter Raw}
    (handshakes : t.conns.map Conn.handshake = s.conns.map Conn.handshake)
    (spawned : t.spawned = s.spawned)
    (registered : ∀ key conn, t.connOf key = some conn → s.connOf key = some conn)
    (loop : t.loop = s.loop ∨ t.loop.handling = false) : Settled codec s t where
  locals := by
    have locals := congrArg (List.map Prod.fst) handshakes
    rwa [List.map_map, List.map_map] at locals
  handshakes := .inl handshakes
  loop handling := by
    rcases loop with same | idle
    · exact same
    · rw [idle] at handling; cases handling
  spawned post mem := .inl (spawned ▸ mem)
  registered key conn found := .inl (registered key conn found)

/-- A frame's critical section the loop waits for after the move, it waited for before. -/
theorem Settled.stays {s t : Adapter Raw} (settled : Settled codec s t) {critical : Critical Raw}
    (waiting : t.loop = .locking critical)
    (handling : (Loop.locking critical : Loop Raw).handling = true) :
    s.loop = .locking critical :=
  (settled.loop (waiting ▸ handling)).symm.trans waiting

theorem Settled.refl (s : Adapter Raw) : Settled codec s s :=
  .of_frame rfl rfl (fun _ _ found => found) (.inl rfl)

/-- A panic of the loop sends it to the deferred teardown. -/
theorem Settled.unwind {s t : Adapter Raw} (settled : Settled codec s t) :
    Settled codec s t.unwind :=
  { settled with loop := fun handling => by cases handling }

theorem Settled.resume {s : Adapter Raw} {o : Outcome Raw} (settled : Settled codec s o.state) :
    Settled codec s (resume o) := by
  rcases resume_cases o with resumed | resumed <;> rw [resumed]
  exacts [settled, settled.unwind]

/-- Spawning a post of a fresh line. -/
theorem Settled.post {s u : Adapter Raw} (settled : Settled codec s u) {line : Envelope Raw}
    (fresh : s.Fresh line) (session : Nat) (source : Source) :
    Settled codec s (u.post line session source) := by
  rw [post_eq]
  refine { settled with spawned := fun p mem => ?_ }
  split at mem
  · exact settled.spawned p mem
  · rcases List.mem_append.mp mem with old | new
    · exact settled.spawned p old
    · rw [List.mem_singleton.mp new]; exact .inr fresh

/-- A critical section that registers the entry it waited to register. -/
theorem Settled.register {s u t : Adapter Raw} (settled : Settled codec s u) {key : String}
    {entry : Peer}
    (peers : t.peers = u.peers.insert key entry) (registers : s.Registers key entry.conn)
    (conns : t.conns = u.conns) (spawned : t.spawned = u.spawned)
    (selecting : t.loop = .selecting) :
    Settled codec s t where
  locals := conns ▸ settled.locals
  handshakes := conns ▸ settled.handshakes
  loop handling := by rw [selecting] at handling; cases handling
  spawned := spawned ▸ settled.spawned
  registered key' conn found := by
    unfold connOf at found
    rw [peers] at found
    by_cases same : key' = key
    · subst same
      simp only [AList.lookup_insert, Option.map_some', Option.some.injEq] at found
      exact .inr (found ▸ registers)
    · rw [AList.lookup_insert_ne same] at found; exact settled.registered key' conn found

/-- The answer branch's lookup sets at most the remote description of the sender's
connection. -/
theorem lookup_settled {s : Adapter Raw} {answer : Exchange Raw}
    (locking : s.loop = .locking (.lookup answer))
    (replies : Replies) : Settled codec s (resume (s.lookup codec replies answer)) := by
  have selecting : Settled codec s { s with loop := .selecting } :=
    .of_frame rfl rfl (fun _ _ found => found) (.inr rfl)
  unfold lookup
  dsimp only
  split
  · exact selecting
  · next entry registered =>
    split
    · exact selecting
    · next description described =>
      split
      · exact selecting.unwind
      · next accepted =>
        have taken : s.takes entry.conn description := by simp at accepted; exact accepted.2
        exact {
          locals := by
            show (s.conns.modify _ entry.conn).map Conn.localDescription = _
            apply map_modify_of_comp; intro; rfl
          handshakes := .inr ⟨answer, entry, description, locking, registered, described, taken, rfl⟩
          loop := fun _ => by contradiction
          spawned := fun post mem => .inl mem
          registered := fun key conn found => .inl found }

theorem Closes.handshakes {queues : List Nat} {s t : Adapter Raw} (closes : Closes queues s t) :
    t.conns.map Conn.handshake = s.conns.map Conn.handshake := by
  rw [closes.eq]

theorem Closes.spawned {queues : List Nat} {s t : Adapter Raw} (closes : Closes queues s t) :
    t.spawned = s.spawned := by
  rw [closes.eq]

/-- A drain goroutine adds candidates only. -/
theorem drain_handshakes (s : Adapter Raw) (replies : Replies) (k j : Nat) :
    (s.drain replies k j).conns.map Conn.handshake = s.conns.map Conn.handshake :=
  s.drain_induction replies k j rfl (fun _ _ _ _ => map_modify_of_comp _ _ (by intro; rfl) _ _) rfl
    fun _ _ => rfl

/-- **What a step outside the `inputs` case does to the handshakes.** Every move but a
receive is `Settled`. -/
theorem Moves.settled {s t : Adapter Raw} {action : Action Raw} (move : Moves codec s action t)
    (outside : ∀ input replies, action ≠ .receive input replies) : Settled codec s t := by
  cases move with
  | stay => exact .refl s
  | check alive top =>
    rw [check_eq]; exact .of_frame rfl rfl (connOf_congr rfl) (.inr (by cases s.done <;> rfl))
  | dial replies alive dialing =>
    rcases s.dial_cases replies with failed | failed | ⟨id, uuids, started⟩
    · rw [failed]; exact .of_frame rfl rfl (connOf_congr rfl) (.inr rfl)
    · rw [failed]; exact (Settled.refl s).unwind
    · rw [started]; exact .of_frame rfl rfl (connOf_congr rfl) (.inr rfl)
  | publish alive publishing =>
    refine Settled.post ?_ ?_ _ _
    exacts [.of_frame rfl rfl (connOf_congr rfl) (.inr rfl), trivial]
  | receive replies input => exact absurd rfl (outside input replies)
  | acquire replies critical alive locking free =>
    cases critical with
    | replace sender entry offer =>
      obtain ⟨u, closes, ⟨-, -, -, failed⟩ | returned⟩ := s.replace_cases replies sender entry offer
      all_goals have held : Settled codec s u :=
        .of_frame closes.handshakes closes.spawned (connOf_congr closes.peers) (.inl closes.loop)
      all_goals show Settled codec s (resume (s.replace replies sender entry offer))
      · rw [failed]; exact held.unwind
      · rw [returned]
        show Settled codec s (post _ _ _ _)
        refine Settled.post ?_ ?_ _ _
        exacts [held.register rfl (.inl ⟨entry, offer, locking, rfl⟩) rfl rfl rfl, ⟨entry, locking⟩]
    | install sender conn iid answer =>
      show Settled codec s (post _ _ _ _)
      refine Settled.post ?_ ?_ _ _
      exacts [Settled.register (.refl s) rfl (.inr ⟨iid, answer, locking⟩) rfl rfl rfl, ⟨rfl, conn, iid, locking⟩]
    | enqueue candidate =>
      obtain ⟨enqueues, enqueued⟩ := s.enqueue_eq candidate
      show Settled codec s (s.enqueue candidate)
      rw [enqueued]; exact .of_frame rfl rfl (connOf_congr rfl) (.inr rfl)
    | lookup answer => exact lookup_settled locking replies
    | teardown =>
      obtain ⟨u, closes, torn⟩ := s.teardown_frame replies
      show Settled codec s (s.teardown replies)
      rw [torn]
      exact .of_frame closes.handshakes closes.spawned (connOf_congr closes.peers) (.inr (by rw [closes.loop]; rfl))
    | reset =>
      exact .of_frame rfl rfl (fun _ _ found => by simp [connOf, critical, reset, AList.lookup_empty] at found)
        (.inr rfl)
  | send replies i alive selecting =>
    obtain ⟨lines, written, sent, -⟩ := s.send_cases codec replies i
    exact Settled.resume (by rw [sent]; exact .of_frame rfl rfl (connOf_congr rfl) (.inl rfl))
  | ping replies alive selecting =>
    obtain ⟨written, pinged, -⟩ := s.ping_cases replies
    exact Settled.resume (by rw [pinged]; exact .of_frame rfl rfl (connOf_congr rfl) (.inl rfl))
  | receiveError source alive selecting =>
    obtain ⟨reader, closedErrs, crashed, drains, loop, received, moved⟩ := s.receiveError_cases source
    rw [received]
    rcases moved with rfl | rfl
    · exact .of_frame rfl rfl (connOf_congr rfl) (.inl rfl)
    · exact .of_frame rfl rfl (connOf_congr rfl) (.inr rfl)
  | readError alive reading => exact .of_frame rfl rfl (connOf_congr rfl) (.inl rfl)
  | disconnected replies conn alive free =>
    obtain ⟨crashed, panicked⟩ := crashOnPanic_eq (s.disconnected replies conn)
    rw [panicked]
    rcases s.disconnected_cases replies conn with same | ⟨c, entry, u, -, -, closes, left | left⟩ <;>
      rw [‹s.disconnected replies conn = _›]
    · exact .of_frame rfl rfl (connOf_congr rfl) (.inl rfl)
    · exact .of_frame closes.handshakes closes.spawned (connOf_congr closes.peers) (.inl closes.loop)
    · exact .of_frame closes.handshakes closes.spawned (connOf_erase rfl) (.inl closes.loop)
  | iceCandidate conn candidate alive =>
    rcases s.iceCandidate_cases conn candidate with same | ⟨c, -, -, posted⟩
    · rw [same]; exact .refl s
    · rw [posted]; refine Settled.post ?_ ?_ _ _; exacts [.refl s, trivial]
  | dataChannel conn label alive =>
    obtain ⟨channels, added⟩ := s.dataChannel_eq conn label
    rw [added]; exact .of_frame rfl rfl (connOf_congr rfl) (.inl rfl)
  | channelOpen channel alive free =>
    rcases s.channelOpen_cases channel with same | crashed | ⟨_, _, labels, _, _, registered, opened⟩
    · rw [same]; exact .refl s
    · rw [crashed]; exact .of_frame rfl rfl (connOf_congr rfl) (.inl rfl)
    · rw [opened]; exact .of_frame rfl rfl (connOf_insert_channels registered labels rfl) (.inl rfl)
  | channelClose replies channel alive free =>
    obtain ⟨crashed, panicked⟩ := crashOnPanic_eq (s.channelClose replies channel)
    obtain ⟨u, closes, left | left | ⟨_, _, labels, registered, left⟩⟩ := s.channelClose_cases replies channel
    all_goals rw [panicked, left]
    · exact .of_frame closes.handshakes closes.spawned (connOf_congr closes.peers) (.inl closes.loop)
    · exact .of_frame closes.handshakes closes.spawned (connOf_congr closes.peers) (.inl closes.loop)
    · exact .of_frame closes.handshakes closes.spawned (connOf_insert_channels registered labels rfl)
        (.inl closes.loop)
  | drain replies k j alive =>
    obtain ⟨enqueues, conns, drains, crashed, drained, -⟩ := s.drain_cases replies k j
    have handshakes := s.drain_handshakes replies k j
    rw [drained] at handshakes ⊢
    exact .of_frame handshakes rfl (connOf_congr rfl) (.inl rfl)
  | accept alive =>
    obtain ⟨accepted, peerLock, released⟩ := s.accept_eq
    rw [released]; exact .of_frame rfl rfl (connOf_congr rfl) (.inl rfl)
  | close alive =>
    obtain ⟨crashed, closed⟩ := s.close_eq
    rw [closed]; exact .of_frame rfl rfl (connOf_congr rfl) (.inl rfl)

section Dispatch

/-! Handling one frame of the plain codec at the `select`. -/

/-- **What handling a frame does to the handshakes.** The connections only grow, and the
frames that create one are introductions and offers (`Plain.Creates`); a frame that can
create none leaves them. A replacement the loop then waits for comes from an introduction,
and its connection holds its offer; an answering entry comes from an offer, and its
connection holds that offer, addressed to the session's id, and the answer; a lookup comes
from an answer. -/
structure Dispatched (s : Adapter Plain) (frame : Plain) (handled : Handled Plain) : Prop where
  grown : s.conns <+: handled.conns
  created : ∀ c ∈ handled.conns, c ∈ s.conns ∨ frame.Creates c
  length : handled.conns.length ≤ s.conns.length + 1
  kept : (∀ c, ¬ frame.Creates c) → handled.conns = s.conns
  replace : ∀ key entry offer, handled.loop = .locking (.replace key entry offer) →
    frame = .introduction key ∧ (handled.conns.map Conn.localDescription)[entry.conn]? = some (some offer) ∧
      offer.type = .offer
  install : ∀ key conn iid answer, handled.loop = .locking (.install key conn iid answer) →
    answer.type = .answer ∧ ∃ offer, frame = .exchange typeOffer key s.id (.description offer) ∧
      ∃ c, handled.conns[answer.conn]? = some c ∧ c.remoteDescription = some offer ∧
        c.localDescription = some answer
  lookup : ∀ answer, handled.loop = .locking (.lookup answer) →
    frame = .exchange typeAnswer answer.sender answer.recipient answer.payload

/-- Handling that keeps the connections and waits for no replacement, install or lookup. -/
theorem dispatched_kept {s : Adapter Plain} {frame : Plain} {handled : Handled Plain}
    (conns : handled.conns = s.conns)
    (loop : handled.loop = .selecting ∨ handled.loop = .locking .teardown ∨
      ∃ candidate, handled.loop = .locking (.enqueue candidate)) : Dispatched s frame handled where
  grown := conns ▸ List.prefix_refl _
  created c mem := .inl (conns ▸ mem)
  length := conns ▸ Nat.le_succ _
  kept _ := conns
  replace _ _ _ waiting := by rcases loop with moved | moved | ⟨_, moved⟩ <;> rw [moved] at waiting <;> cases waiting
  install _ _ _ _ waiting := by rcases loop with moved | moved | ⟨_, moved⟩ <;> rw [moved] at waiting <;> cases waiting
  lookup _ waiting := by rcases loop with moved | moved | ⟨_, moved⟩ <;> rw [moved] at waiting <;> cases waiting

/-- Handling that creates one connection. -/
theorem dispatched_appended {s : Adapter Plain} {frame : Plain} {handled : Handled Plain}
    {c : Conn Plain}
    (conns : handled.conns = s.conns ++ [c]) (creates : frame.Creates c)
    (replace : ∀ key entry offer, handled.loop = .locking (.replace key entry offer) →
      frame = .introduction key ∧ (handled.conns.map Conn.localDescription)[entry.conn]? =
          some (some offer) ∧
        offer.type = .offer)
    (install : ∀ key conn iid answer, handled.loop = .locking (.install key conn iid answer) →
      answer.type = .answer ∧ ∃ offer, frame = .exchange typeOffer key s.id (.description offer) ∧
        ∃ c, handled.conns[answer.conn]? = some c ∧ c.remoteDescription = some offer ∧
          c.localDescription = some answer)
    (lookup : ∀ answer, handled.loop = .locking (.lookup answer) →
      frame = .exchange typeAnswer answer.sender answer.recipient answer.payload) :
    Dispatched s frame handled where
  grown := conns ▸ List.prefix_append _ _
  created c' mem := by
    rw [conns, List.mem_append, List.mem_singleton] at mem
    rcases mem with old | rfl
    exacts [.inl old, .inr creates]
  length := by rw [conns, List.length_append, List.length_singleton]
  kept none := absurd creates (none c)
  replace := replace
  install := install
  lookup := lookup

/-- Handling that creates one connection and then drops the frame or panics. -/
theorem dispatched_created {s : Adapter Plain} {frame : Plain} {handled : Handled Plain}
    {c : Conn Plain}
    (conns : handled.conns = s.conns ++ [c]) (creates : frame.Creates c)
    (loop : handled.loop = .selecting ∨ handled.loop = .locking .teardown) :
    Dispatched s frame handled :=
  dispatched_appended conns creates
    (fun _ _ _ waiting => by rcases loop with moved | moved <;> rw [moved] at waiting <;> cases waiting)
    (fun _ _ _ _ waiting => by rcases loop with moved | moved <;> rw [moved] at waiting <;> cases waiting)
    (fun _ waiting => by rcases loop with moved | moved <;> rw [moved] at waiting <;> cases waiting)

theorem skip_dispatched (s : Adapter Plain) (frame : Plain) : Dispatched s frame s.skip :=
  dispatched_kept rfl (.inl rfl)

/-- The introduction branch creates a connection with no remote description; the
replacement it waits for registers that connection, which holds the offer it posts. -/
theorem onIntroduction_dispatched (s : Adapter Plain) (replies : Replies) (sender : String) :
    Dispatched s (.introduction sender) (s.onIntroduction replies ⟨sender⟩) := by
  have fresh : (Plain.introduction sender).Creates ⟨sender, s.uuids, s.session, false, none, none, []⟩ := rfl
  unfold onIntroduction
  dsimp only
  split_ifs
  · exact dispatched_kept rfl (.inr (.inl rfl))
  · exact dispatched_created rfl fresh (.inr rfl)
  · exact dispatched_created rfl fresh (.inr rfl)
  · rw [modify_concat_length]
    refine dispatched_appended rfl rfl (fun key entry offer waiting => ?_) (fun _ _ _ _ waiting => by cases waiting)
      (fun _ waiting => by cases waiting)
    cases waiting
    refine ⟨rfl, ?_, rfl⟩
    rw [List.map_append, List.getElem?_append_right (by simp)]
    simp

/-- The offer branch creates a connection whose remote description is the offer it carries;
the answering entry it waits to install holds that connection, with its answer. -/
theorem onOffer_dispatched (s : Adapter Plain) (replies : Replies) (sender recipient : String)
    (payload : Plain) :
    Dispatched s (.exchange typeOffer sender recipient payload)
      (s.onOffer Codec.plain replies ⟨sender, recipient, payload⟩) := by
  have fresh : (Plain.exchange typeOffer sender recipient payload).Creates
      ⟨sender, s.uuids, s.session, true, none, none, []⟩ := ⟨rfl, fun _ none => by cases none⟩
  unfold onOffer
  by_cases other : (⟨sender, recipient, payload⟩ : Exchange Plain).recipient ≠ s.id
  · rw [if_pos other]; exact s.skip_dispatched _
  rw [if_neg other]
  dsimp only
  by_cases refused : (!replies.newPeerConnection) = true
  · rw [if_pos refused]; exact dispatched_kept rfl (.inr (.inl rfl))
  rw [if_neg refused]
  rcases described : Codec.plain.unmarshalDescription payload with _ | offer
  · exact dispatched_created rfl fresh (.inl rfl)
  have carried : payload = .description offer := Codec.plain_unmarshalDescription.mp described
  have set : ∀ c : Conn Plain, c.remoteDescription = some offer →
      (Plain.exchange typeOffer sender recipient payload).Creates c :=
    fun c remote => ⟨rfl, fun _ remote' => by rw [remote] at remote'; cases remote'; exact carried⟩
  dsimp only
  split_ifs
  · exact dispatched_created rfl fresh (.inr rfl)
  · exact dispatched_created (modify_concat_length _ _ _) (set _ rfl) (.inr rfl)
  · rw [modify_concat_length, modify_concat_length]
    refine dispatched_appended rfl (set _ rfl) (fun _ _ _ waiting => by cases waiting)
      (fun key conn iid answer waiting => ?_) (fun _ waiting => by cases waiting)
    cases waiting
    have addressed : recipient = s.id := not_not.mp other
    exact ⟨rfl, offer, by rw [carried, addressed], _, List.getElem?_concat_length _ _, rfl, rfl⟩

theorem onCandidate_dispatched (s : Adapter Plain) (frame : Plain) (candidate : Exchange Plain) :
    Dispatched s frame (s.onCandidate candidate) := by
  unfold onCandidate
  split
  · exact s.skip_dispatched frame
  · exact dispatched_kept rfl (.inr (.inr ⟨candidate, rfl⟩))

/-- The answer branch waits for the lookup of the answer it carries. -/
theorem onAnswer_dispatched (s : Adapter Plain) (sender recipient : String) (payload : Plain) :
    Dispatched s (.exchange typeAnswer sender recipient payload)
    (s.onAnswer ⟨sender, recipient, payload⟩) := by
  unfold onAnswer
  split
  · exact s.skip_dispatched _
  · exact { s.skip_dispatched _ with
      replace := fun _ _ _ waiting => by cases waiting
      install := fun _ _ _ _ waiting => by cases waiting
      lookup := fun _ waiting => by cases waiting; rfl }

/-- The dispatch of an exchange frame of the plain codec, by its type. -/
theorem dispatch_exchange (s : Adapter Plain) (replies : Replies) (type sender recipient : String)
    (payload : Plain) :
    s.dispatch Codec.plain replies (.exchange type sender recipient payload) =
      if type = typeIntroduction then s.skip
      else if type = typeOffer then s.onOffer Codec.plain replies ⟨sender, recipient, payload⟩
      else if type = typeCandidate then s.onCandidate ⟨sender, recipient, payload⟩
      else if type = typeAnswer then s.onAnswer ⟨sender, recipient, payload⟩
      else s.skip :=
  rfl

/-- **Handling any frame of the plain codec is `Dispatched`.** -/
theorem dispatched (s : Adapter Plain) (replies : Replies) (frame : Plain) :
    Dispatched s frame (s.dispatch Codec.plain replies frame) := by
  cases frame with
  | introduction sender => exact s.onIntroduction_dispatched replies sender
  | exchange type sender recipient payload =>
    rw [dispatch_exchange]
    split_ifs with introduction offer candidate answer
    · exact s.skip_dispatched _
    · subst offer; exact s.onOffer_dispatched replies sender recipient payload
    · exact s.onCandidate_dispatched _ _
    · subst answer; exact s.onAnswer_dispatched sender recipient payload
    · exact s.skip_dispatched _
  | description _ => exact s.skip_dispatched _
  | text _ => exact s.skip_dispatched _

end Dispatch

end Adapter

end Weron
