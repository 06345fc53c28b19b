import Weron.Moves

/-!
# Shutdown

`Close` sets `a.done` and closes `a.lines`, and no move undoes either (`run_shut`). But
`a.done` is read only at the head of the reconnect loop. A session loop in its `select`
goes on, and since a receive from the closed `a.lines` succeeds at once with a nil slice,
it encrypts and writes an empty frame each time it takes that case (`send_shut`), as many
times as it is scheduled to (`run_sends_shut`). `writeAfterClose` replays one such write.
-/

namespace Weron

namespace Adapter

variable {Raw : Type} {codec : Codec Raw}

/-- `Close` has returned: `a.done` is set and `a.lines` is closed. -/
def Shut (s : Adapter Raw) : Prop := s.linesClosed = true ∧ s.done = true

instance (s : Adapter Raw) : Decidable s.Shut :=
  inferInstanceAs (Decidable (s.linesClosed = true ∧ s.done = true))

/-- Nothing reopens `a.lines` or clears `a.done`. -/
theorem Moves.shut {s t : Adapter Raw} {action : Action Raw} (move : Moves codec s action t)
    (shut : s.Shut) : t.Shut := by
  cases move with
  | stay => exact shut
  | check => rw [check_eq]; exact shut
  | dial replies =>
    rcases s.dial_cases replies with failed | failed | ⟨id, uuids, started⟩ <;>
      rw [‹s.dial replies = _›] <;> exact shut
  | publish => rw [Adapter.publish, post_eq]; exact shut
  | receive => exact shut
  | acquire replies c =>
    cases c with
    | replace sender entry offer =>
      obtain ⟨u, closes, ⟨-, -, -, failed⟩ | returned⟩ := s.replace_cases replies sender entry offer
      · rw [Adapter.critical, failed, closes.eq]; exact shut
      · rw [Adapter.critical, returned, closes.eq]; simpa [resume, Shut] using shut
    | install => simpa [Adapter.critical, Adapter.install, Shut] using shut
    | enqueue candidate =>
      obtain ⟨enqueues, enqueued⟩ := s.enqueue_eq candidate
      rw [Adapter.critical, enqueued]; exact shut
    | lookup answer =>
      obtain ⟨conns, drains, looked, -⟩ := s.lookup_cases codec replies answer
      rw [Adapter.critical]
      rcases resume_cases (s.lookup codec replies answer) with resumed | resumed <;>
        rw [resumed, looked] <;> exact shut
    | teardown =>
      obtain ⟨u, closes, torn⟩ := s.teardown_frame replies
      rw [Adapter.critical, torn, closes.eq]; exact shut
    | reset => exact shut
  | send replies i =>
    obtain ⟨lines, written, sent, -⟩ := s.send_cases codec replies i
    rcases resume_cases (s.send codec replies i) with resumed | resumed <;>
      rw [resumed, sent] <;> exact shut
  | ping replies =>
    obtain ⟨written, pinged, -⟩ := s.ping_cases replies
    rcases resume_cases (s.ping replies) with resumed | resumed <;>
      rw [resumed, pinged] <;> exact shut
  | receiveError source =>
    obtain ⟨reader, closedErrs, crashed, drains, loop, received, -⟩ := s.receiveError_cases source
    rw [received]; exact shut
  | readError => exact shut
  | disconnected replies conn =>
    obtain ⟨crashed, panicked⟩ := crashOnPanic_eq (s.disconnected replies conn)
    rw [panicked]
    rcases s.disconnected_cases replies conn with same | ⟨c, entry, u, -, -, closes, left | left⟩
    · rw [same]; exact shut
    all_goals rw [left, closes.eq]; exact shut
  | iceCandidate conn candidate =>
    rcases s.iceCandidate_cases conn candidate with same | ⟨c, -, -, posted⟩
    · rw [same]; exact shut
    · rw [posted, post_eq]; exact shut
  | dataChannel conn label =>
    obtain ⟨channels, added⟩ := s.dataChannel_eq conn label
    rw [added]; exact shut
  | channelOpen channel =>
    rcases s.channelOpen_cases channel with same | crashed | ⟨_, _, _, _, _, _, opened⟩ <;>
      rw [‹s.channelOpen channel = _›] <;> exact shut
  | channelClose replies channel =>
    obtain ⟨crashed, panicked⟩ := crashOnPanic_eq (s.channelClose replies channel)
    obtain ⟨u, closes, left | left | ⟨remote, entry, channels, -, left⟩⟩ := s.channelClose_cases replies channel
    all_goals rw [panicked, left, closes.eq]; exact shut
  | drain replies k j =>
    obtain ⟨enqueues, conns, drains, crashed, drained, -⟩ := s.drain_cases replies k j
    rw [drained]; exact shut
  | accept =>
    obtain ⟨accepted, peerLock, released⟩ := s.accept_eq
    rw [released]; exact shut
  | close => unfold Adapter.close; simp [shut.1, Shut]

/-- **Close is final.** Once `Close` has returned, every run keeps `a.done` set and `a.lines`
closed. -/
theorem run_shut {s : Adapter Raw} (shut : s.Shut) (actions : List (Action Raw)) :
    (run codec s actions).Shut :=
  run_induction (P := Shut) (fun s action shut => (step_moves codec s action).shut shut) shut actions

/-- **The loop writes after `Close`.** Once `a.lines` is closed, the `a.lines` case of the
`select` is always ready: each time the loop takes it and encrypting the empty slice
succeeds, it writes an empty frame and goes back to its `select`. -/
theorem send_shut {s : Adapter Raw} (closed : s.linesClosed = true) (alive : s.crashed = false)
    (selecting : s.loop = .selecting) {cipher : Raw}
    (encrypted : codec.encrypt codec.empty = some cipher) (i : Nat) :
    step codec s (.send i {}) = { s with written := s.written ++ [⟨s.session, .empty⟩] } := by
  simp [step, alive, selecting, send, closed, writeFrame, encrypted, resume]

/-- Every time the loop is scheduled on the closed `a.lines`, one more empty frame goes out. -/
theorem run_sends_shut {s : Adapter Raw} (closed : s.linesClosed = true) (alive : s.crashed = false)
    (selecting : s.loop = .selecting) {cipher : Raw}
    (encrypted : codec.encrypt codec.empty = some cipher) (i n : Nat) :
    run codec s (List.replicate n (.send i {})) =
      { s with written := s.written ++ List.replicate n ⟨s.session, .empty⟩ } := by
  induction n generalizing s with
  | zero => simp
  | succ n ih =>
    rw [List.replicate_succ, run_cons, send_shut closed alive selecting encrypted]
    rw [ih (s := { s with written := s.written ++ [⟨s.session, .empty⟩] }) closed alive selecting]
    simp [session, List.replicate_succ]

/-- The caller closes the adapter right after the opening of a session, and the loop then
takes the `a.lines` case of its `select`. -/
def writeAfterClose : List (Action Plain) := opening ++ [.close, .send 0 {}]

/-- After `Close` has returned, the loop writes a second frame. -/
theorem writeAfterClose_writes :
    (replay (opening ++ [.close])).Shut ∧ (replay (opening ++ [.close])).written.length = 1 ∧
      (replay writeAfterClose).written.length = 2 ∧ (replay writeAfterClose).crashed = false := by
  decide

end Adapter

end Weron
