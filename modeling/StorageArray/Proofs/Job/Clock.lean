import Mathlib.Tactic.Common
import StorageArray.Config.Basic
import StorageArray.Job.Clock
import StorageArray.Proofs.Job.Polling
/-!
# What a wait on the clock comes to

A wait begins at an instant and has another one as its deadline, unless the clock cannot count it.
Between two instants a wait polls as it does when the time between them is left
(`Client.pollUntil_eq`).  So a wait that has a deadline is the one that counts the time left, from
the first poll to the last (`Client.waitOnJobFrom?_eq`), and poll `i` comes `i` intervals after the
beginning, or at the deadline (`Client.after_waitOnJob_eq_pollUntil`).  The whole statement stands
behind it.

The interval of an accepted configuration is not empty.  Its timeout has no bound above, and with
the largest ones there is no wait, whatever the clock shows.
-/

namespace StorageArray

open Poll (Decisive FirstDecisive failuresBefore)

namespace Client

variable {c : Client} {job : JobId} {now : Instant}

/-- Between two instants a wait goes on as it does when the time between them is left.  The pauses
end at the deadline at the latest, so every instant on the way can be counted. -/
lemma pollUntil_eq (failures : Nat) (deadline now : Instant) :
    c.pollUntil job failures deadline now =
      c.pollJob job failures (deadline.nanoseconds - now.nanoseconds) := by
  induction hleft : deadline.nanoseconds - now.nanoseconds using Nat.strong_induction_on
    generalizing failures now with
  | _ left ih =>
      rw [pollUntil, pollJob]
      congr 1
      funext result
      cases PollVerdict.of c.settings.maxPollRetries failures result with
      | ended result => rfl
      | goOn failures =>
          by_cases h : now.nanoseconds < deadline.nanoseconds
          · have hpos : left ≠ 0 := by omega
            have hpause := c.settings.pause_le (Nat.sub_pos_of_lt h)
            have hrest : deadline.nanoseconds - (c.settings.afterPause h).nanoseconds =
                left - c.settings.pause left := by
              simp only [Settings.afterPause, hleft]
              omega
            have hless : left - c.settings.pause left < left := by
              unfold Settings.pause
              omega
            simp only [dif_pos h, if_neg hpos]
            exact ih _ hless failures _ hrest
          · have hzero : left = 0 := by omega
            simp only [dif_neg h, if_pos hzero]

/-- A wait that has a deadline is the one that counts the time left. -/
lemma waitOnJobFrom?_eq :
    c.waitOnJobFrom? now job = (c.settings.deadline? now).map fun _ => c.waitOnJob job := by
  unfold waitOnJobFrom? Settings.deadline? Instant.after?
  split
  · rw [Option.map_some, Option.map_some, pollUntil_eq, waitOnJob, Nat.add_sub_cancel_left]
  · rfl

lemma waitOnJobFrom?_of_fits
    (h : now.nanoseconds + c.settings.jobTimeout.nanoseconds < clockRange) :
    c.waitOnJobFrom? now job = some (c.waitOnJob job) := by
  rw [waitOnJobFrom?_eq, Settings.deadline?, Instant.after?, dif_pos h, Option.map_some]

lemma waitOnJobFrom?_of_not_fits
    (h : ¬ now.nanoseconds + c.settings.jobTimeout.nanoseconds < clockRange) :
    c.waitOnJobFrom? now job = none := by
  rw [waitOnJobFrom?_eq, Settings.deadline?, Instant.after?, dif_neg h, Option.map_none]

/-- Poll `i` comes `i` strides after the beginning of the wait, but not after its deadline. -/
lemma after_waitOnJob_eq_pollUntil {answers : Nat → Answer} {i : Nat}
    (h : ∀ j < i, ¬ Decisive c.settings.maxPollRetries (c.pollResults job answers) j)
    (hi : i ≤ c.settings.lastPoll) {deadline : Instant}
    (hdeadline : deadline.nanoseconds = now.nanoseconds + c.settings.jobTimeout.nanoseconds) :
    ∃ instant : Instant,
      instant.nanoseconds = min (now.nanoseconds + i * c.settings.stride) deadline.nanoseconds ∧
      (c.waitOnJob job).run.after ((List.range i).map answers) =
        (c.pollUntil job (failuresBefore (c.pollResults job answers) i) deadline instant).run := by
  let instant : Instant :=
    ⟨min (now.nanoseconds + i * c.settings.stride) deadline.nanoseconds,
      Nat.lt_of_le_of_lt (Nat.min_le_right _ _) deadline.representable⟩
  have hleft : deadline.nanoseconds - instant.nanoseconds = c.settings.leftAt i := by
    simp only [instant, Settings.leftAt, hdeadline]
    omega
  refine ⟨instant, rfl, ?_⟩
  rw [after_waitOnJob h hi, pollUntil_eq, hleft]
  rfl

end Client

/-- **A wait on the clock follows its polls.**  Let a wait for a job begin at an instant, let the
polls be answered one after the other, and let `last` be the timeout divided by the interval,
rounded up.  When the clock cannot count the nanoseconds that it shows together with those of the
timeout, there is no wait, and nothing is sent.  Otherwise there is one, and its deadline is that
instant.

* If poll `n ≤ last` is the first decisive one, the wait sends the request of the job's path
  `n + 1` times and ends with the outcome of that poll.
* If no poll up to `last` is the first decisive one, it sends the request `last + 1` times and
  ends with a timeout.
* Each poll `i ≤ last` that is reached comes `i` intervals after the beginning, or at the deadline
  if this is earlier.  Before it the loop has the failures in a row on its counter, never more than
  are tolerated. -/
theorem wait_on_clock_follows_polls (c : Client) (job : JobId) (answers : Nat → Answer)
    (now : Instant) (hinterval : 0 < c.settings.pollInterval.nanoseconds) :
    let retries := c.settings.maxPollRetries
    let results := fun i => (c.getJob job).on (answers i)
    let timeout := c.settings.jobTimeout.nanoseconds
    let interval := c.settings.pollInterval.nanoseconds
    let last := timeout ⌈/⌉ interval
    let poll := (c.site, Request.get (c.systemPath ("job/" ++ job.text)))
    (¬ now.nanoseconds + timeout < clockRange → c.waitOnJobFrom? now job = none) ∧
    ∀ hfits : now.nanoseconds + timeout < clockRange,
      let deadline : Instant := ⟨now.nanoseconds + timeout, hfits⟩
      ∃ wait, c.waitOnJobFrom? now job = some wait ∧
        let trace := wait.run.trace (Program.sequence answers) 0
        (∀ n ≤ last, FirstDecisive retries results n →
          trace = (Poll.outcome (results n), List.replicate (n + 1) poll, n + 1)) ∧
        ((∀ n ≤ last, ¬ FirstDecisive retries results n) →
          trace = (.error (.timeout job c.settings.jobTimeout), List.replicate (last + 1) poll,
            last + 1)) ∧
        ∀ i ≤ last, (∀ j < i, ¬ Decisive retries results j) →
          (∃ instant : Instant,
            instant.nanoseconds = min (now.nanoseconds + i * interval) deadline.nanoseconds ∧
            wait.run.after ((List.range i).map answers) =
              (c.pollUntil job (failuresBefore results i) deadline instant).run) ∧
          failuresBefore results i ≤ retries := by
  intro retries results timeout interval last poll
  refine ⟨Client.waitOnJobFrom?_of_not_fits, fun hfits => ?_⟩
  intro deadline
  refine ⟨c.waitOnJob job, Client.waitOnJobFrom?_of_fits hfits, ?_⟩
  have hstride : c.settings.stride = interval := Nat.max_eq_right hinterval
  have hlast : c.settings.lastPoll = last := by rw [Settings.lastPoll, hstride]
  refine ⟨?_, ?_, ?_⟩
  · intro n hn hfirst
    exact Client.trace_of_yields_polls
      (Client.yields_waitOnJob_of_firstDecisive hfirst (hlast ▸ hn))
  · intro hnone
    have hall : ∀ i ≤ c.settings.lastPoll, ¬ Decisive retries results i := by
      intro i hi hdecisive
      obtain ⟨n, hn, hfirst⟩ := hdecisive.exists_firstDecisive
      exact hnone n (by omega) hfirst
    rw [← hlast]
    exact Client.trace_of_yields_polls (Client.yields_waitOnJob_of_deadline hall)
  · intro i hi hnot
    refine ⟨?_, Poll.failuresBefore_le hnot⟩
    rw [← hstride]
    exact Client.after_waitOnJob_eq_pollUntil hnot (hlast ▸ hi) rfl

/-- A wait whose deadline is the last nanosecond that the clock can count.  The job has ended at the
last poll, after one that goes on and one that the endpoint could not answer. -/
theorem wait_on_clock_follows_polls_to_the_last_instant :
    let c : Client := ⟨.home, ⟨"000197600123"⟩, { Settings.default with
      pollInterval := .ofSeconds 2, jobTimeout := .ofSeconds 3, maxPollRetries := 1 }⟩
    let report (status : String) : Answer :=
      .ok ⟨200, .object [("jobId", .string "1554"), ("status", .string status)]⟩
    let answers : Nat → Answer := fun
      | 0 => report "RUNNING"
      | 1 => .ok ⟨503, .null⟩
      | _ => report "SUCCEEDED"
    0 < c.settings.pollInterval.nanoseconds ∧
      (∃ wait, c.waitOnJobFrom? (.ofReading (clockRange - 3000000001)) ⟨"1554"⟩ = some wait ∧
        wait.run.trace (Program.sequence answers) 0 =
          (.ok ⟨⟨"1554"⟩, none, .succeeded, none, none, none⟩,
            List.replicate 3 (.home, .get "100/system/job/1554"), 3)) ∧
      c.waitOnJobFrom? (.ofReading (clockRange - 3000000000)) ⟨"1554"⟩ = none := by
  intro c report answers
  have hinterval : 0 < c.settings.pollInterval.nanoseconds := by decide
  have hfirst : FirstDecisive c.settings.maxPollRetries
      (fun i => (c.getJob ⟨"1554"⟩).on (answers i)) 2 := by
    decide
  have hall (now : Instant) := wait_on_clock_follows_polls c ⟨"1554"⟩ answers now hinterval
  obtain ⟨wait, hwait, htrace, -⟩ := (hall (.ofReading (clockRange - 3000000001))).2 (by decide)
  have hnone := (hall (.ofReading (clockRange - 3000000000))).1 (by decide)
  exact ⟨hinterval, ⟨wait, hwait, (htrace 2 (by decide) hfirst).trans rfl⟩, hnone⟩

/-! ### Accepted configurations -/

namespace Config

variable {config : Config}

lemma requirePositive_eq_ok_iff {value : Nat} {key : String} {u : Unit} :
    requirePositive value key = .ok u ↔ 0 < value := by
  unfold requirePositive
  split
  · rename_i h
    simp [h]
  · rename_i h
    exact iff_of_true rfl (Nat.pos_of_ne_zero h)

/-- A checked configuration polls at intervals, and for some time. -/
lemma pos_of_check (h : config.check = .ok ()) :
    0 < config.pollInterval.toNat ∧ 0 < config.jobTimeout.toNat := by
  simp only [check, Operation.except_bind_eq_ok_iff, requirePositive_eq_ok_iff] at h
  obtain ⟨_, -, _, -, _, -, _, -, _, -, _, -, _, -, _, hinterval, _, htimeout, -⟩ := h
  exact ⟨hinterval, htimeout⟩

/-- A checked configuration gives a positive interval. -/
lemma pollInterval_pos_of_check (h : config.check = .ok ()) :
    0 < config.settings.pollInterval.nanoseconds :=
  Nat.mul_pos (pos_of_check h).1 (by decide)

lemma client_of_check (h : config.check = .ok ()) :
    config.client = .ok ⟨.home, .ofString config.arrayId, config.settings⟩ := by
  rw [client, h]
  rfl

end Config

/-- An accepted configuration with the largest timeout has a client that polls at intervals, and
this client has no wait, whatever the clock shows. -/
theorem no_wait_with_largest_timeout :
    let config : Config := ⟨"http://array.example:8443", "smc", "s3cret", "000197600123", none,
      "100", true, 120, 3, 18446744073709551615, 3, 3, none⟩
    ∃ c, config.client = .ok c ∧ 0 < c.settings.pollInterval.nanoseconds ∧
      ∀ now job, c.waitOnJobFrom? now job = none := by
  intro config
  have hcheck : config.check = .ok () := by decide
  refine ⟨_, Config.client_of_check hcheck, Config.pollInterval_pos_of_check hcheck, ?_⟩
  intro now job
  refine Client.waitOnJobFrom?_of_not_fits (Nat.not_lt.2 ?_)
  have htimeout : clockRange ≤ config.settings.jobTimeout.nanoseconds := by decide
  exact Nat.le_trans htimeout (Nat.le_add_left _ _)

end StorageArray
