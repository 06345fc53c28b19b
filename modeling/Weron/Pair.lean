import Weron.Moves

/-!
# Two adapters and the signaler

Two adapters of one community talk through the signaler. Each writes its frames to its own
socket; the signaler takes them in the order they were written and passes each to the other
adapter or drops it (the other adapter may not have joined yet), and each adapter's reader
receives the frames passed to it in order. Everything else each adapter does is a step of its
own model; the two directions and the two adapters' moves interleave freely (`Pair.step`).
-/

namespace Weron

/-- The signaler's copy of a written frame: the encrypted envelope of a line, or the encrypted
empty slice. A ping is a control frame the signaler answers itself. -/
def Frame.wire : Frame Plain → Option Plain
  | .line post => Codec.plain.encrypt (Codec.plain.marshal post.line)
  | .empty => Codec.plain.encrypt Codec.plain.empty
  | .ping => none

/-- Two adapters and the signaler between them: the frames passed to each adapter and not yet
received, how many frames of each adapter's socket the signaler has taken, and the frames
each adapter has received (ghost). -/
structure Pair where
  a : Adapter Plain
  b : Adapter Plain
  toA : List Plain
  toB : List Plain
  takenA : Nat
  takenB : Nat
  heardA : List Plain
  heardB : List Plain

/-- One move of the system: a move of one adapter other than a receive, a receive of the next
frame passed to it, or the signaler taking the next frame one adapter wrote, passing it on
or not. -/
inductive PairAction
  | a (action : Action Plain)
  | b (action : Action Plain)
  | deliverA (replies : Replies)
  | deliverB (replies : Replies)
  | relayA (forward : Bool)
  | relayB (forward : Bool)

namespace Pair

/-- Both adapters from `NewAdapter`, with nothing written or passed on. -/
def start (configA configB : Option AdapterConfig) : Pair :=
  ⟨newAdapter configA, newAdapter configB, [], [], 0, 0, [], []⟩

/-- An adapter's own move; its receives come only from the signaler. -/
def own (s : Adapter Plain) : Action Plain → Adapter Plain
  | .receive _ _ => s
  | action => Adapter.step Codec.plain s action

/-- The adapter's reader hands the next frame passed to it to its loop's `select`. -/
def deliver (s : Adapter Plain) (inbox : List Plain) (replies : Replies) :
    Option (Adapter Plain × List Plain × Plain) :=
  match inbox with
  | [] => none
  | frame :: rest =>
    if s.crashed = false ∧ s.loop = .selecting ∧ s.reader = .reading then
      some (Adapter.step Codec.plain s (.receive frame replies), rest, frame)
    else none

/-- The signaler takes the next frame an adapter wrote. -/
def relay (s : Adapter Plain) (taken : Nat) (outbox : List Plain) (forward : Bool) :
    Option (Nat × List Plain) :=
  s.written[taken]?.map fun w => (taken + 1, if forward then outbox ++ w.frame.wire.toList else outbox)

def step (p : Pair) : PairAction → Pair
  | .a action => { p with a := own p.a action }
  | .b action => { p with b := own p.b action }
  | .deliverA replies => match deliver p.a p.toA replies with
    | some (a, toA, frame) => { p with a := a, toA := toA, heardA := p.heardA ++ [frame] }
    | none => p
  | .deliverB replies => match deliver p.b p.toB replies with
    | some (b, toB, frame) => { p with b := b, toB := toB, heardB := p.heardB ++ [frame] }
    | none => p
  | .relayA forward => match relay p.a p.takenA p.toB forward with
    | some (takenA, toB) => { p with takenA := takenA, toB := toB }
    | none => p
  | .relayB forward => match relay p.b p.takenB p.toA forward with
    | some (takenB, toA) => { p with takenB := takenB, toA := toA }
    | none => p

/-- The state a list of moves leads to. -/
def run (p : Pair) (actions : List PairAction) : Pair := actions.foldl step p

@[simp] theorem run_nil (p : Pair) : run p [] = p := rfl

@[simp] theorem run_cons (p : Pair) (action : PairAction) (actions : List PairAction) :
    run p (action :: actions) = run (step p action) actions := rfl

theorem run_append (p : Pair) (first second : List PairAction) :
    run p (first ++ second) = run (run p first) second :=
  List.foldl_append _ _ _ _

/-- Adapter `A` and adapter `B` with configured ids. -/
def named : Pair := start (some ⟨"A", ""⟩) (some ⟨"B", ""⟩)

end Pair

end Weron
