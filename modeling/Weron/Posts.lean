import Weron.Moves

/-!
# Posts and the frames the loop writes

Every envelope the adapter sends is posted by a goroutine of its own, blocked on the
unbuffered `a.lines` until the loop receives it, and `a.lines` outlives the session that
made it. `PostInvariant` holds in every reachable state (`postInvariant_reachable`): every
blocked post and every written line was spawned by a session that had started, carries
that session's id as its `From`, and, when a connection's handler spawned it, names a
connection that session created; and in the order posts are spawned, each session's
introduction comes first.

Hence every line the loop writes during session `k` was posted by a session `j ≤ k`, from
`j`'s id (`written_posted`), but `j` may be an earlier session: a post still blocked when
its session ended is written by the next one (`staleIntroduction_written`). The
introduction is the first post its session spawns (`introduction_spawned_first`), but the
loop takes the blocked posts in whatever order their goroutines reach `a.lines`, so an
answer can be written before the introduction and a candidate before the offer of its
connection (`sessionOrder_violated`).
-/

namespace Weron

/-- The connection whose handler spawned a post, if a connection's. -/
def Source.conn : Source → Option Nat
  | .introduction => none
  | .offer conn => some conn
  | .answer conn => some conn
  | .candidate conn => some conn

/-- The post a written frame carries, if it is a line. -/
def Frame.post {Raw : Type} : Frame Raw → Option (Post Raw)
  | .line p => some p
  | _ => none

/-- Between sessions, or in the teardown: where the loop spawns no post and creates no
connection. -/
def Loop.idle {Raw : Type} : Loop Raw → Bool
  | .top | .dialing | .exited | .locking .teardown | .locking .reset => true
  | _ => false

/-- The connection the pending critical section registers, if any. -/
def Loop.registers {Raw : Type} : Loop Raw → Option Nat
  | .locking (.replace _ entry _) => some entry.conn
  | .locking (.install _ conn _ _) => some conn
  | _ => none

/-- An idle loop has no critical section to come. -/
theorem Loop.registers_of_idle {Raw : Type} {loop : Loop Raw} (idle : loop.idle = true) :
    loop.registers = none := by
  rcases loop with _ | _ | _ | _ | _ | ⟨_ | _ | _ | _ | _ | _⟩ <;> simp_all [Loop.idle, Loop.registers]

namespace Adapter

variable {Raw : Type} {codec : Codec Raw}

/-- Session `k`'s introduction has been spawned. -/
def Introduced (s : Adapter Raw) (k : Nat) : Prop :=
  ∃ q ∈ s.spawned, q.session = k ∧ q.source = .introduction

/-- A post of session `p.session`: a session that has started, whose id is the post's
`From`; a post spawned by a connection's handler names a connection of that session. -/
def PostOf (s : Adapter Raw) (p : Post Raw) : Prop :=
  1 ≤ p.session ∧ p.session ≤ s.session ∧ p.line.sender = s.idOf p.session ∧
    ∀ conn, p.source.conn = some conn → (s.conns.map Conn.session)[conn]? = some p.session

/-- The posts between moves. Once a session has started, its introduction is spawned before
the loop leaves `publishing`, and a critical section to come registers a connection of the
current session. Every connection belongs to a session whose introduction is spawned.
Blocked posts and written lines are posts of their sessions, and a line is written by its
session or a later one. Each session's introduction is the first post it spawns. -/
structure PostInvariant (s : Adapter Raw) : Prop where
  started : s.loop.idle = false → 1 ≤ s.session
  current : s.crashed = false → s.loop.idle = false → s.loop ≠ .publishing → s.Introduced s.session
  pending : ∀ conn, s.loop.registers = some conn →
    (s.conns.map Conn.session)[conn]? = some s.session
  conns : ∀ k ∈ s.conns.map Conn.session, 1 ≤ k ∧ k ≤ s.session ∧ s.Introduced k
  lines : ∀ p ∈ s.lines, s.PostOf p
  written : ∀ w ∈ s.written, w.session ≤ s.session ∧
    ∀ p, w.frame = .line p → s.PostOf p ∧ p.session ≤ w.session
  first : ∀ (j : Nat) (p : Post Raw), s.spawned[j]? = some p →
    ∃ i ≤ j, ∃ q : Post Raw, s.spawned[i]? = some q ∧ q.session = p.session ∧ q.source = .introduction
  logged : ∀ p ∈ s.lines, p ∈ s.spawned
  loggedWritten : ∀ w ∈ s.written, ∀ p, w.frame = .line p → p ∈ s.spawned

theorem postInvariant_newAdapter (config : Option AdapterConfig) :
    (newAdapter config : Adapter Raw).PostInvariant where
  started running := by simp [newAdapter, Loop.idle] at running
  current _ running := by simp [newAdapter, Loop.idle] at running
  pending _ registers := by simp [newAdapter, Loop.registers] at registers
  conns _ made := by simp [newAdapter] at made
  lines _ blocked := by simp [newAdapter] at blocked
  written _ sent := by simp [newAdapter] at sent
  first _ _ found := by simp [newAdapter] at found
  logged _ blocked := by simp [newAdapter] at blocked
  loggedWritten _ sent := by simp [newAdapter] at sent

/-- What stays of an entry of a list when the list grows at its end. -/
theorem getElem?_of_grown {α : Type} {x y : List α} (grown : x <+: y) {n : Nat} {a : α}
    (found : x[n]? = some a) : y[n]? = some a := by
  obtain ⟨rest, rfl⟩ := grown
  rw [List.getElem?_append_left (List.getElem?_eq_some_iff.mp found).1, found]

/-- A post of its session stays one while sessions start and connections are created. -/
theorem PostOf.mono {s t : Adapter Raw} {p : Post Raw} (posted : s.PostOf p)
    (sessions : s.sessions <+: t.sessions)
    (conns : s.conns.map Conn.session <+: t.conns.map Conn.session) :
    t.PostOf p := by
  obtain ⟨first, bounded, sender, named⟩ := posted
  have index : p.session - 1 < s.sessions.length := by unfold session at bounded; omega
  refine ⟨first, bounded.trans sessions.length_le, ?_, fun conn source => getElem?_of_grown conns (named conn source)⟩
  rw [sender]
  unfold idOf
  simp only [List.getD_eq_getElem?_getD, List.getElem?_eq_getElem index,
    getElem?_of_grown sessions (List.getElem?_eq_getElem index)]

theorem Introduced.mono {s t : Adapter Raw} {k : Nat} (introduced : s.Introduced k)
    (spawned : s.spawned <+: t.spawned) : t.Introduced k :=
  let ⟨q, mem, same, intro⟩ := introduced
  ⟨q, spawned.subset mem, same, intro⟩

/-- A move that touches neither the posts, the writes, the sessions nor the sessions of
the connections. -/
structure Quiet (s t : Adapter Raw) : Prop where
  lines : t.lines = s.lines
  written : t.written = s.written
  spawned : t.spawned = s.spawned
  sessions : t.sessions = s.sessions
  conns : t.conns.map Conn.session = s.conns.map Conn.session

theorem Closes.quiet {queues : List Nat} {s t : Adapter Raw} (closes : Closes queues s t) :
    Quiet s t := by
  rw [closes.eq]; exact ⟨rfl, rfl, rfl, rfl, rfl⟩

theorem Quiet.trans {s u t : Adapter Raw} (first : Quiet s u) (second : Quiet u t) : Quiet s t :=
  ⟨second.lines.trans first.lines, second.written.trans first.written, second.spawned.trans first.spawned,
    second.sessions.trans first.sessions, second.conns.trans first.conns⟩

/-- A quiet move keeps the invariant when the loop stays, falls idle, or goes back to its
`select` from within a session. -/
theorem PostInvariant.transfer {s t : Adapter Raw} (inv : s.PostInvariant)
    (alive : s.crashed = false)
    (quiet : Quiet s t)
    (loop : t.loop = s.loop ∨ t.loop.idle = true ∨
      (t.loop = .selecting ∧ s.loop.idle = false ∧ s.loop ≠ .publishing)) : t.PostInvariant := by
  have session : t.session = s.session := by unfold session; rw [quiet.sessions]
  have grown : ∀ p, s.PostOf p → t.PostOf p := fun p posted =>
    posted.mono (quiet.sessions ▸ List.prefix_refl _) (quiet.conns ▸ List.prefix_refl _)
  have introduced : ∀ k, s.Introduced k → t.Introduced k := fun k introduced =>
    introduced.mono (quiet.spawned ▸ List.prefix_refl _)
  have settled : t.loop.idle = false → s.loop.idle = false ∧ (t.loop ≠ .publishing → s.loop ≠ .publishing) := by
    intro running
    rcases loop with same | idle | ⟨_, was, settled⟩
    · exact ⟨same ▸ running, fun moved => same ▸ moved⟩
    · simp [idle] at running
    · exact ⟨was, fun _ => settled⟩
  refine ⟨fun running => ?_, fun _ running moved => ?_, fun conn registers => ?_, ?_, ?_, ?_, ?_, ?_, ?_⟩
  · rw [session]; exact inv.started (settled running).1
  · rw [session]; exact introduced _ (inv.current alive (settled running).1 ((settled running).2 moved))
  · rcases loop with same | idle | ⟨selecting, -⟩
    · rw [quiet.conns, session]; exact inv.pending conn (same ▸ registers)
    · rw [Loop.registers_of_idle idle] at registers; cases registers
    · rw [selecting] at registers; cases registers
  · intro k made
    obtain ⟨first, bounded, introducedK⟩ := inv.conns k (quiet.conns ▸ made)
    exact ⟨first, session ▸ bounded, introduced k introducedK⟩
  · intro p blocked; exact grown p (inv.lines p (quiet.lines ▸ blocked))
  · intro w sent
    obtain ⟨bounded, lines⟩ := inv.written w (quiet.written ▸ sent)
    exact ⟨session ▸ bounded, fun p line => ⟨grown p (lines p line).1, (lines p line).2⟩⟩
  · rw [quiet.spawned]; exact inv.first
  · intro p blocked; rw [quiet.spawned]; exact inv.logged p (quiet.lines ▸ blocked)
  · intro w sent; rw [quiet.spawned]; exact inv.loggedWritten w (quiet.written ▸ sent)

/-- A crash or a panic of the loop keeps the invariant. -/
theorem PostInvariant.unwind {s : Adapter Raw} (inv : s.PostInvariant) (alive : s.crashed = false) :
    s.unwind.PostInvariant :=
  inv.transfer alive ⟨rfl, rfl, rfl, rfl, rfl⟩ (.inr (.inl rfl))

theorem PostInvariant.resume {o : Outcome Raw} (inv : o.state.PostInvariant)
    (alive : o.state.crashed = false) : (resume o).PostInvariant := by
  rcases resume_cases o with resumed | resumed <;> rw [resumed]
  · exact inv
  · exact inv.unwind alive

/-- The posts spawned stay first of their sessions when one more is spawned: an
introduction, or a post whose session's introduction is spawned already. -/
theorem first_append {spawned : List (Post Raw)}
    (first : ∀ (j : Nat) (p : Post Raw), spawned[j]? = some p →
      ∃ i ≤ j, ∃ q : Post Raw, spawned[i]? = some q ∧ q.session = p.session ∧ q.source =
          .introduction)
    {p : Post Raw} (introduced : (∃ q ∈ spawned, q.session = p.session ∧ q.source = .introduction) ∨
      p.source = .introduction) :
    ∀ (j : Nat) (p' : Post Raw), (spawned ++ [p])[j]? = some p' →
      ∃ i ≤ j, ∃ q : Post Raw, (spawned ++ [p])[i]? = some q ∧ q.session = p'.session ∧
        q.source = .introduction := by
  intro j p' found
  by_cases old : j < spawned.length
  · rw [List.getElem?_append_left old] at found
    obtain ⟨i, le, q, foundQ, same, intro⟩ := first j p' found
    exact ⟨i, le, q, getElem?_of_grown (List.prefix_append _ _) foundQ, same, intro⟩
  · have last : j = spawned.length := by
      have := (List.getElem?_eq_some_iff.mp found).1
      simp only [List.length_append, List.length_singleton] at this
      omega
    subst last
    rw [List.getElem?_concat_length] at found
    cases found
    rcases introduced with ⟨q, mem, same, intro⟩ | intro
    · obtain ⟨i, foundQ⟩ := List.mem_iff_getElem?.mp mem
      exact ⟨i, (List.getElem?_eq_some_iff.mp foundQ).1.le, q,
        getElem?_of_grown (List.prefix_append _ _) foundQ, same, intro⟩
    · exact ⟨spawned.length, le_rfl, p, List.getElem?_concat_length _ _, rfl, intro⟩

/-- A blocked post stays logged when one more is spawned. -/
theorem logged_append {lines spawned : List (Post Raw)} (logged : ∀ p ∈ lines, p ∈ spawned)
    (q : Post Raw) :
    ∀ p ∈ lines ++ [q], p ∈ spawned ++ [q] := by
  intro p blocked
  rcases List.mem_append.mp blocked with old | new
  · exact List.mem_append_left _ (logged p old)
  · exact List.mem_append_right _ new

/-- **Spawning a post.** A post of its session whose session's introduction is spawned
keeps the invariant; on a closed `a.lines` the post crashes the process instead. -/
theorem PostInvariant.post {s : Adapter Raw} (inv : s.PostInvariant) {line : Envelope Raw}
    {session : Nat} {source : Source} (posted : s.PostOf ⟨line, session, s.spawned.length, source⟩)
    (introduced : s.Introduced session) : (s.post line session source).PostInvariant := by
  rw [post_eq]
  cases closed : s.linesClosed
  · refine ⟨inv.started, fun alive running moved => (inv.current (by simpa using alive) running moved).mono
      (List.prefix_append _ _), inv.pending, fun k made => ?_, fun p blocked => ?_, inv.written, ?_,
      logged_append inv.logged _, fun w sent p line => List.mem_append_left _ (inv.loggedWritten w sent p line)⟩
    · obtain ⟨first, bounded, introducedK⟩ := inv.conns k made
      exact ⟨first, bounded, introducedK.mono (List.prefix_append _ _)⟩
    · rcases List.mem_append.mp blocked with old | new
      · exact inv.lines p old
      · rw [List.mem_singleton.mp new]; exact posted
    · exact first_append inv.first (.inl introduced)
  · exact ⟨inv.started, fun alive => by simp at alive, inv.pending, inv.conns, inv.lines, inv.written, inv.first,
      inv.logged, inv.loggedWritten⟩

/-- Publishing spawns the session's introduction, the first post of the session. -/
theorem PostInvariant.publish {s : Adapter Raw} (inv : s.PostInvariant)
    (publishing : s.loop = .publishing) :
    s.publish.PostInvariant := by
  have started : 1 ≤ s.session := inv.started (by rw [publishing]; rfl)
  unfold Adapter.publish
  rw [post_eq]
  cases closed : s.linesClosed
  · refine ⟨fun _ => started, fun _ _ _ => ⟨_, List.mem_append_right _ (List.mem_singleton_self _), rfl, rfl⟩,
      fun _ registers => (by cases registers), fun k made => ?_, fun p blocked => ?_, inv.written, ?_,
      logged_append inv.logged _, fun w sent p line => List.mem_append_left _ (inv.loggedWritten w sent p line)⟩
    · obtain ⟨first, bounded, introducedK⟩ := inv.conns k made
      exact ⟨first, bounded, introducedK.mono (List.prefix_append _ _)⟩
    · rcases List.mem_append.mp blocked with old | new
      · exact inv.lines p old
      · rw [List.mem_singleton.mp new]
        exact ⟨started, le_rfl, rfl, fun _ source => by cases source⟩
    · exact first_append inv.first (.inr rfl)
  · exact ⟨fun _ => started, fun alive => by simp at alive, fun _ registers => (by cases registers), inv.conns,
      inv.lines, inv.written, inv.first, inv.logged, inv.loggedWritten⟩

/-- A dial that starts a session appends its id; the loop then publishes. -/
theorem PostInvariant.dial {s : Adapter Raw} (inv : s.PostInvariant) (id : String) (uuids : Nat) :
    PostInvariant { s with
      sessions := s.sessions ++ [id], uuids := uuids, reader := .reading, loop := .publishing } := by
  refine ⟨fun _ => by simp [session], fun _ _ moved => absurd rfl moved, fun _ registers => (by cases registers),
    fun k made => ?_,
    fun p blocked => (inv.lines p blocked).mono (List.prefix_append _ _) (List.prefix_refl _),
    fun w sent => ?_, inv.first, inv.logged, inv.loggedWritten⟩
  · obtain ⟨first, bounded, introducedK⟩ := inv.conns k made
    exact ⟨first, by simp only [session, List.length_append] at bounded ⊢; omega, introducedK⟩
  · obtain ⟨bounded, lines⟩ := inv.written w sent
    refine ⟨by simp only [session, List.length_append] at bounded ⊢; omega, fun p line => ?_⟩
    exact ⟨(lines p line).1.mono (List.prefix_append _ _) (List.prefix_refl _), (lines p line).2⟩

/-- Handling a frame at the `select` creates at most a connection of the current session,
whose introduction is spawned, and moves the loop as `Handled.Valid` says. -/
theorem PostInvariant.withHandled {s : Adapter Raw} (inv : s.PostInvariant)
    (alive : s.crashed = false)
    (selecting : s.loop = .selecting) {handled : Handled Raw} (valid : Handled.Valid s handled) :
    (s.withHandled handled).PostInvariant := by
  have running : s.loop.idle = false := by rw [selecting]; rfl
  have introduced := inv.current alive running (by simp [selecting])
  have grown : s.conns.map Conn.session <+: handled.conns.map Conn.session := by
    rcases valid.conns with same | more
    · exact same ▸ List.prefix_refl _
    · rw [more]; exact List.prefix_append _ _
  have postOf : ∀ p, s.PostOf p → PostOf (s.withHandled handled) p := fun p posted =>
    posted.mono (List.prefix_refl _) grown
  refine ⟨fun _ => inv.started running, fun _ _ _ => introduced, fun conn registers => ?_, fun k made => ?_,
    fun p blocked => postOf p (inv.lines p blocked), fun w sent => ?_, inv.first, inv.logged, inv.loggedWritten⟩
  · have loop : (s.withHandled handled).loop = handled.loop := rfl
    rw [loop] at registers
    rcases valid.loop with moved | moved | ⟨_, _, _, moved, -, -, registered⟩ |
        ⟨_, _, _, _, moved, registered⟩ | ⟨_, moved⟩ | ⟨_, moved⟩ <;>
      rw [moved] at registers <;> cases registers
    · exact registered
    · exact registered
  · have made : k ∈ handled.conns.map Conn.session := made
    rcases valid.conns with same | more
    · exact inv.conns k (same ▸ made)
    · rw [more, List.mem_append, List.mem_singleton] at made
      rcases made with old | rfl
      · exact inv.conns k old
      · exact ⟨inv.started running, le_rfl, introduced⟩
  · obtain ⟨bounded, lines⟩ := inv.written w sent
    exact ⟨bounded, fun p line => ⟨postOf p (lines p line).1, (lines p line).2⟩⟩

/-- Writing frames the loop received from `a.lines`, or empty frames and pings, in the
current session. -/
theorem PostInvariant.write {s : Adapter Raw} (inv : s.PostInvariant) {lines : List (Post Raw)}
    {written : List (Write Raw)} (kept : ∀ p ∈ lines, p ∈ s.lines)
    (sent : ∀ w ∈ written, w.session = s.session ∧ ∀ p, w.frame = .line p → p ∈ s.lines) :
    { s with lines := lines, written := s.written ++ written }.PostInvariant := by
  refine ⟨inv.started, inv.current, inv.pending, inv.conns, fun p blocked => inv.lines p (kept p blocked),
    fun w mem => ?_, inv.first, fun p blocked => inv.logged p (kept p blocked), fun w mem p line => ?_⟩
  · rcases List.mem_append.mp mem with old | new
    · exact inv.written w old
    · obtain ⟨now, lines⟩ := sent w new
      refine ⟨now.le, fun p line => ?_⟩
      have posted := inv.lines p (lines p line)
      exact ⟨posted, now ▸ posted.2.1⟩
  · rcases List.mem_append.mp mem with old | new
    · exact inv.loggedWritten w old p line
    · exact inv.logged p ((sent w new).2 p line)

/-- **A critical section's post.** The critical section the loop waits to run registers a
connection of the current session; after changes that leave the posts alone, the envelope
it posts, from the session's id, is a post of the session. -/
theorem PostInvariant.postRegistered {s t : Adapter Raw} (inv : s.PostInvariant)
    (alive : s.crashed = false)
    (conn : Nat) (registers : s.loop.registers = some conn) (quiet : Quiet s t)
    (selecting : t.loop = .selecting)
    {line : Envelope Raw} (sender : line.sender = s.id) {source : Source}
    (named : source.conn = some conn) :
    (t.post line t.session source).PostInvariant := by
  have running : s.loop.idle = false := by
    cases idle : s.loop.idle
    · rfl
    · rw [Loop.registers_of_idle idle] at registers; cases registers
  have settled : s.loop ≠ .publishing := fun publishing => by rw [publishing] at registers; cases registers
  have session : t.session = s.session := by unfold session; rw [quiet.sessions]
  refine (inv.transfer alive quiet (.inr (.inr ⟨selecting, running, settled⟩))).post ?_ ?_
  · refine ⟨session ▸ inv.started running, le_rfl, ?_, fun conn' source => ?_⟩
    · rw [sender, session]; unfold id idOf; rw [quiet.sessions]
    · rw [named] at source; cases source
      rw [quiet.conns, session]; exact inv.pending conn registers
  · rw [session]
    exact (inv.current alive running settled).mono (quiet.spawned ▸ List.prefix_refl _)

/-- **Every move keeps the post invariant.** -/
theorem Moves.posts {s t : Adapter Raw} {action : Action Raw} (move : Moves codec s action t)
    (inv : s.PostInvariant) :
    t.PostInvariant := by
  cases move with
  | stay => exact inv
  | check alive top =>
    rw [check_eq]
    exact inv.transfer alive ⟨rfl, rfl, rfl, rfl, rfl⟩ (.inr (.inl (by split <;> rfl)))
  | dial replies alive dialing =>
    rcases s.dial_cases replies with failed | failed | ⟨id, uuids, started⟩
    · rw [failed]; exact inv.transfer alive ⟨rfl, rfl, rfl, rfl, rfl⟩ (.inr (.inl rfl))
    · rw [failed]; exact inv.unwind alive
    · rw [started]; exact inv.dial id uuids
  | publish alive publishing => exact inv.publish publishing
  | receive replies input alive selecting _ =>
    exact inv.withHandled alive selecting (s.dispatch_valid codec replies input)
  | acquire replies c alive locking _ =>
    cases c with
    | replace sender entry offer =>
      obtain ⟨u, closes, ⟨-, -, -, failed⟩ | returned⟩ := s.replace_cases replies sender entry offer
      all_goals have quiet : Quiet s u := (⟨rfl, rfl, rfl, rfl, rfl⟩ : Quiet s { s with peerLock := some .loop }).trans closes.quiet
      · show (resume (s.replace replies sender entry offer)).PostInvariant
        rw [failed]
        exact (inv.transfer alive quiet (.inl closes.loop)).unwind (closes.crashed ▸ alive)
      · show (resume (s.replace replies sender entry offer)).PostInvariant
        rw [returned]
        refine inv.postRegistered alive entry.conn (by rw [locking]; rfl) ?_ ?_ ?_ ?_
        · exact quiet.trans ⟨rfl, rfl, rfl, rfl, rfl⟩
        · rfl
        · show u.id = s.id
          unfold id idOf session; rw [quiet.sessions]
        · rfl
    | install sender conn iid answer =>
      refine inv.postRegistered alive conn (by rw [locking]; rfl) ?_ ?_ ?_ ?_
      · exact ⟨rfl, rfl, rfl, rfl, rfl⟩
      all_goals rfl
    | enqueue candidate =>
      obtain ⟨enqueues, enqueued⟩ := s.enqueue_eq candidate
      show (s.enqueue candidate).PostInvariant
      rw [enqueued]
      exact inv.transfer alive ⟨rfl, rfl, rfl, rfl, rfl⟩ (.inr (.inr ⟨rfl, by rw [locking]; rfl, by simp [locking]⟩))
    | lookup answer =>
      obtain ⟨conns, drains, looked, same⟩ := s.lookup_cases codec replies answer
      show (resume (s.lookup codec replies answer)).PostInvariant
      refine PostInvariant.resume ?_ (by rw [looked]; exact alive)
      rw [looked]
      exact inv.transfer alive ⟨rfl, rfl, rfl, rfl, same⟩ (.inr (.inr ⟨rfl, by rw [locking]; rfl, by simp [locking]⟩))
    | teardown =>
      obtain ⟨u, closes, torn⟩ := s.teardown_frame replies
      show (s.teardown replies).PostInvariant
      rw [torn]
      exact inv.transfer alive ((⟨rfl, rfl, rfl, rfl, rfl⟩ : Quiet s { s with loop := .locking .reset }).trans
        closes.quiet) (.inr (.inl (by rw [closes.loop]; rfl)))
    | reset => exact inv.transfer alive ⟨rfl, rfl, rfl, rfl, rfl⟩ (.inr (.inl rfl))
  | send replies i alive selecting =>
    obtain ⟨lines, written, sent, moved⟩ := s.send_cases codec replies i
    refine PostInvariant.resume ?_ (by rw [sent]; exact alive)
    rw [sent]
    rcases moved with ⟨rfl, empties⟩ | ⟨p, found, rfl, wrote⟩
    · exact inv.write (fun _ blocked => blocked) fun w mem => by rw [empties w mem]; exact ⟨rfl, fun _ frame => by cases frame⟩
    · refine inv.write (fun _ => List.mem_of_mem_eraseIdx) fun w mem => ?_
      rw [wrote w mem]
      exact ⟨rfl, fun q frame => by cases frame; exact List.mem_iff_getElem?.mpr ⟨_, found⟩⟩
  | ping replies alive selecting =>
    obtain ⟨written, pinged, pings⟩ := s.ping_cases replies
    refine PostInvariant.resume ?_ (by rw [pinged]; exact alive)
    rw [pinged]
    exact inv.write (fun _ blocked => blocked) fun w mem => by rw [pings w mem]; exact ⟨rfl, fun _ frame => by cases frame⟩
  | receiveError source alive selecting =>
    obtain ⟨reader, closedErrs, crashed, drains, loop, received, moved⟩ := s.receiveError_cases source
    rw [received]
    rcases moved with rfl | rfl
    · exact inv.transfer alive ⟨rfl, rfl, rfl, rfl, rfl⟩ (.inl rfl)
    · exact inv.transfer alive ⟨rfl, rfl, rfl, rfl, rfl⟩ (.inr (.inl rfl))
  | readError alive _ => exact inv.transfer alive ⟨rfl, rfl, rfl, rfl, rfl⟩ (.inl rfl)
  | disconnected replies conn alive _ =>
    obtain ⟨crashed, panicked⟩ := crashOnPanic_eq (s.disconnected replies conn)
    rw [panicked]
    rcases s.disconnected_cases replies conn with same | ⟨c, entry, u, -, -, closes, left | left⟩
    all_goals first
      | (rw [same]; exact inv.transfer alive ⟨rfl, rfl, rfl, rfl, rfl⟩ (.inl rfl))
      | (rw [left]; exact inv.transfer alive (closes.quiet.trans ⟨rfl, rfl, rfl, rfl, rfl⟩) (.inl closes.loop))
  | iceCandidate conn candidate alive =>
    rcases s.iceCandidate_cases conn candidate with same | ⟨c, found, -, posted⟩
    · rw [same]; exact inv
    · rw [posted]
      have made : c.session ∈ s.conns.map Conn.session := List.mem_map_of_mem _ (List.mem_iff_getElem?.mpr ⟨_, found⟩)
      obtain ⟨first, bounded, introduced⟩ := inv.conns _ made
      refine inv.post ⟨first, bounded, rfl, fun conn' source => ?_⟩ introduced
      cases source
      simp [found]
  | dataChannel conn label alive =>
    obtain ⟨channels, added⟩ := s.dataChannel_eq conn label
    rw [added]; exact inv.transfer alive ⟨rfl, rfl, rfl, rfl, rfl⟩ (.inl rfl)
  | channelOpen channel alive _ =>
    rcases s.channelOpen_cases channel with same | crashed | ⟨_, _, _, _, _, _, opened⟩
    all_goals first
      | (rw [same]; exact inv)
      | (rw [crashed]; exact inv.transfer alive ⟨rfl, rfl, rfl, rfl, rfl⟩ (.inl rfl))
      | (rw [opened]; exact inv.transfer alive ⟨rfl, rfl, rfl, rfl, rfl⟩ (.inl rfl))
  | channelClose replies channel alive _ =>
    obtain ⟨crashed, panicked⟩ := crashOnPanic_eq (s.channelClose replies channel)
    obtain ⟨u, closes, left | left | ⟨_, _, _, -, left⟩⟩ := s.channelClose_cases replies channel
    all_goals rw [panicked, left]
    all_goals exact inv.transfer alive (closes.quiet.trans ⟨rfl, rfl, rfl, rfl, rfl⟩) (.inl closes.loop)
  | drain replies k j alive =>
    obtain ⟨enqueues, conns, drains, crashed, drained, same⟩ := s.drain_cases replies k j
    rw [drained]; exact inv.transfer alive ⟨rfl, rfl, rfl, rfl, same⟩ (.inl rfl)
  | accept alive =>
    obtain ⟨accepted, peerLock, released⟩ := s.accept_eq
    rw [released]; exact inv.transfer alive ⟨rfl, rfl, rfl, rfl, rfl⟩ (.inl rfl)
  | close alive =>
    obtain ⟨crashed, closed⟩ := s.close_eq
    rw [closed]; exact inv.transfer alive ⟨rfl, rfl, rfl, rfl, rfl⟩ (.inl rfl)

/-- **The post invariant holds in every reachable state.** -/
theorem postInvariant_reachable {s : Adapter Raw} (reachable : Reachable codec s) :
    s.PostInvariant :=
  Reachable.induction postInvariant_newAdapter (fun s action inv => (step_moves codec s action).posts inv)
    reachable

/-- **Every written line is a post of a session up to the writer's.** In every reachable
state, a line the loop wrote during session `k` was spawned by a session `j ≤ k` that had
started; its `From` is `j`'s id, and when a connection's handler spawned it, it names a
connection created during `j`. -/
theorem written_posted {s : Adapter Raw} (reachable : Reachable codec s) {w : Write Raw}
    (sent : w ∈ s.written) {p : Post Raw} (line : w.frame = .line p) :
    1 ≤ p.session ∧ p.session ≤ w.session ∧ p.line.sender = s.idOf p.session ∧
      ∀ conn, p.source.conn = some conn → (s.conns.map Conn.session)[conn]? = some p.session := by
  obtain ⟨-, lines⟩ := (postInvariant_reachable reachable).written w sent
  obtain ⟨⟨first, -, sender, named⟩, earlier⟩ := lines p line
  exact ⟨first, earlier, sender, named⟩

/-- The introduction the opening writes is a post of the first session, from its id. -/
theorem opening_written_posted :
    1 ≤ 1 ∧ 1 ≤ 1 ∧ (Envelope.introduction "A" : Envelope Plain).sender = (replay opening).idOf 1 ∧
      ∀ conn, Source.introduction.conn = some conn →
        ((replay opening).conns.map Conn.session)[conn]? = some 1 :=
  written_posted (s := replay opening) (w := ⟨1, .line ⟨.introduction "A", 1, 0, .introduction⟩⟩) ⟨_, _, rfl⟩
    (List.mem_iff_getElem?.mpr ⟨0, rfl⟩) rfl

/-- Adapter A, with no configured id, opens a session. Its reader fails before the loop has
written the introduction, and the loop panics out of its `select`; the teardown and the
reset run, and the loop dials a second session under a fresh id, publishes, and takes the
first blocked post. -/
def staleIntroduction : List (Action Plain) :=
  [.check, .dial {}, .publish, .readError, .receiveError none, .acquire {}, .acquire {}, .check,
    .dial {}, .publish, .send 0 {}]

/-- The second session writes the first session's introduction, from the first session's
id. -/
theorem staleIntroduction_written :
    (run Codec.plain (newAdapter none) staleIntroduction).written.map
        (fun w => (w.session, w.frame.post.map fun p => (p.session, p.line.sender))) =
      [(2, some (1, "uuid-0"))] ∧
      (run Codec.plain (newAdapter none) staleIntroduction).id = "uuid-1" := by
  decide

/-- **Each session's introduction is the first post it spawns.** In every reachable state,
the introduction of a post's session was spawned before the post, or is the post. -/
theorem introduction_spawned_first {s : Adapter Raw} (reachable : Reachable codec s) {j : Nat}
    {p : Post Raw} (spawned : s.spawned[j]? = some p) :
    ∃ i ≤ j, ∃ q : Post Raw, s.spawned[i]? = some q ∧ q.session = p.session ∧
      q.source = .introduction :=
  (postInvariant_reachable reachable).first j p spawned

/-- The offer the introduction branch posts for B comes after the session's introduction. -/
theorem offer_after_introduction :
    ∃ i ≤ 1, ∃ q : Post Plain,
      (replay (opening ++ [.receive (.introduction "B") {}, .acquire {}])).spawned[i]? = some q ∧
        q.session = 1 ∧ q.source = .introduction :=
  introduction_spawned_first (p := ⟨.offer "A" "B" ⟨.offer, "A", 0⟩, 1, 1, .offer 0⟩) ⟨_, _, rfl⟩ rfl

/-- Adapter A opens a session, and B's offer arrives before the loop has written the
introduction; the loop takes the answer's post first. -/
def answerFirst : List (Action Plain) :=
  [.check, .dial {}, .publish, .receive (.exchange typeOffer "B" "A" (.description ⟨.offer, "B", 0⟩)) {},
    .acquire {}, .send 1 {}]

/-- Adapter A opens a session and handles B's introduction. The new connection gathers a
candidate before the critical section posts the offer, and the loop takes the candidate's
post first. -/
def candidateFirst : List (Action Plain) :=
  opening ++ [.receive (.introduction "B") {}, .iceCandidate 0 (.text "c"), .acquire {}, .send 0 {}]

/-- The answer goes out while the introduction still waits, and the candidate of connection
0 while its offer still waits. -/
theorem sessionOrder_violated :
    (replay answerFirst).written.map (fun w => w.frame.post.map Post.source) = [some (.answer 0)] ∧
      (replay answerFirst).lines.map Post.source = [.introduction] ∧
      (replay candidateFirst).written.map (fun w => w.frame.post.map Post.source) =
        [some .introduction, some (.candidate 0)] ∧
      (replay candidateFirst).lines.map Post.source = [.offer 0] := by
  decide

end Adapter

end Weron
