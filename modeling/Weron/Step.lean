import Weron.Callbacks

/-!
# Runs of the adapter

An `Action` is one move of one goroutine: the session loop, the reader, an engine callback,
a drain goroutine, or the host. `step` performs it when the goroutine can move, and
otherwise leaves the state as it is, so that any list of actions is a run (`run`); the
scheduler's freedom is the freedom to choose the list. Once a goroutine has panicked without
recovery (`crashed`), nothing moves.

`Reachable` is the set of states some run reaches from `newAdapter`, and
`Reachable.induction` turns a property that holds initially and survives every step into
one of all reachable states.
-/

namespace Weron

/-- One move of one goroutine. -/
inductive Action (Raw : Type)
  | check
  | dial (replies : Replies)
  | publish
  | receive (input : Raw) (replies : Replies)
  | acquire (replies : Replies)
  | send (post : Nat) (replies : Replies)
  | ping (replies : Replies)
  | readError
  | receiveError (drain : Option Nat)
  | disconnected (conn : Nat) (replies : Replies)
  | iceCandidate (conn : Nat) (candidate : Raw)
  | dataChannel (conn : Nat) (label : String)
  | channelOpen (channel : Nat)
  | channelClose (channel : Nat) (replies : Replies)
  | drain (drain enqueue : Nat) (replies : Replies)
  | accept
  | close

namespace Adapter

variable {Raw : Type} (codec : Codec Raw)

/-- One move, when the goroutine that makes it can: the session loop where it is, the
reader while it reads, the handlers that take `a.peerLock` when it is free. -/
def step (s : Adapter Raw) (action : Action Raw) : Adapter Raw :=
  if s.crashed then s else
  match action with
  | .check => match s.loop with
    | .top => s.check
    | _ => s
  | .dial replies => match s.loop with
    | .dialing => s.dial replies
    | _ => s
  | .publish => match s.loop with
    | .publishing => s.publish
    | _ => s
  | .receive input replies => match s.loop with
    | .selecting => if s.reader = .reading then s.withHandled (s.dispatch codec replies input) else s
    | _ => s
  | .acquire replies => match s.loop with
    | .locking critical => if s.peerLock.isNone then s.critical codec replies critical else s
    | _ => s
  | .send i replies => match s.loop with
    | .selecting => resume (s.send codec replies i)
    | _ => s
  | .ping replies => match s.loop with
    | .selecting => resume (s.ping replies)
    | _ => s
  | .receiveError source => match s.loop with
    | .selecting => s.receiveError source
    | _ => s
  | .readError => if s.reader = .reading then { s with reader := .failed } else s
  | .disconnected conn replies =>
    if s.peerLock.isNone then crashOnPanic (s.disconnected replies conn) else s
  | .iceCandidate conn candidate => s.iceCandidate conn candidate
  | .dataChannel conn label => s.dataChannel conn label
  | .channelOpen channel => if s.peerLock.isNone then s.channelOpen channel else s
  | .channelClose channel replies =>
    if s.peerLock.isNone then crashOnPanic (s.channelClose replies channel) else s
  | .drain k j replies => s.drain replies k j
  | .accept => s.accept
  | .close => s.close

/-- The state a list of moves leads to. -/
def run (s : Adapter Raw) (actions : List (Action Raw)) : Adapter Raw :=
  actions.foldl (step codec) s

@[simp] theorem run_nil (s : Adapter Raw) : run codec s [] = s := rfl

@[simp] theorem run_cons (s : Adapter Raw) (action : Action Raw) (actions : List (Action Raw)) :
    run codec s (action :: actions) = run codec (step codec s action) actions := rfl

theorem run_append (s : Adapter Raw) (first second : List (Action Raw)) :
    run codec s (first ++ second) = run codec (run codec s first) second :=
  List.foldl_append _ _ _ _

/-- A crashed process stays as it is. -/
theorem step_crashed {s : Adapter Raw} (crashed : s.crashed = true) (action : Action Raw) :
    step codec s action = s := by
  simp [step, crashed]

/-- The opening of a session: the loop dials, the caller receives the id, and the loop
writes the introduction. -/
def opening : List (Action Raw) := [.check, .dial {}, .publish, .send 0 {}]

/-- The adapter with id `"A"` after a run over the plain codec: the runs that replay a
failure start here. -/
def replay (actions : List (Action Plain)) : Adapter Plain :=
  run Codec.plain (newAdapter (some ⟨"A", ""⟩)) actions

/-- The states some run reaches from `NewAdapter`. -/
def Reachable (s : Adapter Raw) : Prop :=
  ∃ config actions, run codec (newAdapter config) actions = s

variable {codec}

/-- A property that holds of a state and survives every step holds after every run. -/
theorem run_induction {P : Adapter Raw → Prop}
    (preserved : ∀ s action, P s → P (step codec s action))
    {s : Adapter Raw} (holds : P s) (actions : List (Action Raw)) : P (run codec s actions) := by
  induction actions generalizing s with
  | nil => exact holds
  | cons action actions ih => exact ih (preserved s action holds)

/-- A property that holds initially and survives every step holds in every reachable state. -/
theorem Reachable.induction {P : Adapter Raw → Prop} (initial : ∀ config, P (newAdapter config))
    (preserved : ∀ s action, P s → P (step codec s action)) {s : Adapter Raw}
    (reachable : Reachable codec s) : P s := by
  obtain ⟨config, actions, rfl⟩ := reachable
  exact run_induction preserved (initial config) actions

/-- A run from a reachable state ends in a reachable state. -/
theorem Reachable.extend {s : Adapter Raw} (reachable : Reachable codec s)
    (actions : List (Action Raw)) :
    Reachable codec (run codec s actions) := by
  obtain ⟨config, first, rfl⟩ := reachable
  exact ⟨config, first ++ actions, run_append codec _ _ _⟩

end Adapter

end Weron
