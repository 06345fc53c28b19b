import Weron.Step

/-!
# The registry lock across a panic

The critical section of the introduction branch (475-496) closes the old entry's channels
and connection between `a.peerLock.Lock()` and `a.peerLock.Unlock()`, without a deferred
unlock, and panics when a close fails. The panic unwinds into the session's deferred
teardown, whose first act under the lock is `a.peerLock.Lock()` (182) on the same goroutine:
Go's mutex is not reentrant, so the loop waits for itself. `run_stuck` shows that no run
moves it again, and `failedReplacement_deadlocks` replays such a run.

The `OnOpen` handlers also hold the lock while they block on the unbuffered `a.peerChan`
(379, 428, 605), until the host calls `Accept`.
-/

namespace Weron

namespace Adapter

variable {Raw : Type} {codec : Codec Raw}

theorem iceCandidate_loop (s : Adapter Raw) (conn : Nat) (candidate : Raw) :
    (s.iceCandidate conn candidate).loop = s.loop ∧
      (s.iceCandidate conn candidate).peerLock = s.peerLock := by
  unfold iceCandidate; split <;> (try split) <;> simp

theorem drain_loop (s : Adapter Raw) (replies : Replies) (k j : Nat) :
    (s.drain replies k j).loop = s.loop ∧ (s.drain replies k j).peerLock = s.peerLock := by
  unfold drain
  split
  · dsimp only
    split_ifs <;> simp
  · simp

theorem close_loop (s : Adapter Raw) :
    s.close.loop = s.loop ∧ s.close.peerLock = s.peerLock := by
  unfold close; split <;> simp

theorem dataChannel_loop (s : Adapter Raw) (conn : Nat) (label : String) :
    (s.dataChannel conn label).loop = s.loop ∧ (s.dataChannel conn label).peerLock =
    s.peerLock := by
  unfold dataChannel; split <;> simp

/-- While the session loop holds the lock and waits at a `Lock` call, every step leaves it
there with the lock held: the loop's own moves need it elsewhere or need the lock free, the
handlers that take the lock need it free, and the others touch neither. -/
theorem step_stuck {s : Adapter Raw} {critical : Critical Raw} (held : s.peerLock = some .loop)
    (waiting : s.loop = .locking critical) (action : Action Raw) :
    (step codec s action).loop = .locking critical ∧ (step codec s action).peerLock =
    some .loop := by
  by_cases crashed : s.crashed = true
  · rw [step_crashed codec crashed]; exact ⟨waiting, held⟩
  simp only [step, crashed, Bool.false_eq_true, ↓reduceIte]
  cases action with
  | readError => dsimp only; split <;> exact ⟨waiting, held⟩
  | accept => simp [accept, held, waiting]
  | _ => simp only [waiting, held, Option.isNone_some, Bool.false_eq_true, ↓reduceIte,
    iceCandidate_loop, drain_loop, close_loop, dataChannel_loop, and_self]

/-- **A loop that panicked holding the lock waits forever.** Once the session loop holds
`a.peerLock` and waits at a `Lock` call, which its deferred teardown makes after a panic in
a critical section, no run moves it or frees the lock. -/
theorem run_stuck {s : Adapter Raw} {critical : Critical Raw} (held : s.peerLock = some .loop)
    (waiting : s.loop = .locking critical) (actions : List (Action Raw)) :
    (run codec s actions).loop = .locking critical ∧
      (run codec s actions).peerLock = some .loop :=
  run_induction (P := fun t => t.loop = .locking critical ∧ t.peerLock = some .loop)
    (fun _ action stuck => step_stuck stuck.2 stuck.1 action) ⟨waiting, held⟩ actions

/-- `B` is introduced; the primary channel of its entry opens and the host accepts it; `B` is
introduced again, and closing that opened channel fails inside the critical section that
replaces the first entry. -/
def failedReplacement : List (Action Plain) :=
  opening ++ [.receive (.introduction "B") {}, .acquire {}, .channelOpen 0, .accept,
    .receive (.introduction "B") {}, .acquire { closeChannel := fun _ => false }]

/-- After the failed replacement of an entry whose primary channel the host accepted, the
session's teardown waits forever for the lock its own goroutine holds, whatever runs next. -/
theorem failedReplacement_deadlocks (actions : List (Action Plain)) :
    (replay failedReplacement).accepted = [⟨"B", "primary", 0⟩] ∧
      (replay (failedReplacement ++ actions)).loop = .locking .teardown ∧
      (replay (failedReplacement ++ actions)).peerLock = some .loop := by
  refine ⟨by decide, ?_⟩
  rw [replay, run_append]
  exact run_stuck (by decide) (by decide) actions

end Adapter

end Weron
