import StorageArray.Job.Wait
/-!
# Waits on the clock

`Client.waitOnJob` counts the time that is left.  On the clock a wait begins at an instant and gives
up at another one, its deadline.  A clock that has no such instant stops the process at the
beginning of the wait, in the middle of whatever it was doing: there is no wait
(`Client.waitOnJobFrom?`), and no result (`Settings.performOnClock`).
-/

namespace StorageArray

namespace Settings

theorem pause_le (s : Settings) {left : Nat} (h : 0 < left) : s.pause left ≤ left := by
  unfold pause
  omega

/-- The instant after a pause on the way to a deadline. -/
def afterPause (s : Settings) {now deadline : Instant}
    (h : now.nanoseconds < deadline.nanoseconds) : Instant where
  nanoseconds := now.nanoseconds + s.pause (deadline.nanoseconds - now.nanoseconds)
  representable := by
    have hpause := s.pause_le (Nat.sub_pos_of_lt h)
    have hdeadline := deadline.representable
    omega

end Settings

namespace Client

/-- Polls a job after `failures` transient failures in a row, from an instant on and up to a
deadline. -/
def pollUntil (c : Client) (job : JobId) (failures : Nat) (deadline now : Instant) :
    Operation JobRecord := do
  match PollVerdict.of c.settings.maxPollRetries failures (← (c.getJob job).settle) with
  | .ended result => .ofExcept result
  | .goOn failures =>
    if h : now.nanoseconds < deadline.nanoseconds then
      c.pollUntil job failures deadline (c.settings.afterPause h)
    else .fail (.timeout job c.settings.jobTimeout)
  termination_by deadline.nanoseconds - now.nanoseconds
  decreasing_by simp only [Settings.afterPause, Settings.pause]; omega

/-- Polls a job from an instant on, until it has ended or the deadline has passed.  There is no wait
when the clock has no instant for the deadline. -/
def waitOnJobFrom? (c : Client) (now : Instant) (job : JobId) : Option (Operation JobRecord) :=
  (c.settings.deadline? now).map fun deadline => c.pollUntil job 0 deadline now

end Client

/-- A wait begins after this exchange: what was to change goes on as a job that has not ended. -/
def beginsWait (request : Request) : Answer → Bool
  | .error _ => false
  | .ok response => match Reply.classify request.method response ⟨"", ""⟩ with
    | .ok (.deferred job) => job.outcome?.isNone
    | _ => false

/-- Runs a program up to the first exchange that stops it; there is a value if none does.  Exchanges
are numbered from 0. -/
def Program.runUntil {α σ : Type} (stops : Nat → Request → Answer → Bool)
    (answerer : Answerer σ) : Program α → σ → Option α × σ
  | .done a, s => (some a, s)
  | .send site request resume, s =>
    let (answer, s) := answerer site request s
    if stops 0 request answer then (none, s)
    else (resume answer).runUntil (fun i => stops (i + 1)) answerer s

/-- Carries out an operation of clients with these settings.  After exchange `i` the clock shows
`clock i`, and there is no result when a wait begins then for whose deadline it has no instant. -/
def Settings.performOnClock {α σ : Type} (settings : Settings) (clock : Nat → Instant)
    (answerer : Program.Answerer σ) (op : Operation α) (s : σ) :
    Option (Except ArrayError α) × σ :=
  op.run.runUntil
    (fun i request answer => (settings.deadline? (clock i)).isNone && beginsWait request answer)
    answerer s

end StorageArray
