import Mathlib.Algebra.Order.Floor.Div
import Mathlib.Tactic.Common
import StorageArray.Job.Wait
import StorageArray.Proofs.Operation
/-!
# What a wait for a job comes to

A wait polls its job at fixed pauses until the job has ended, a failure is not tolerated,
or the deadline has passed.  Here this is said without a loop.  The polls are numbered from
0 and have results, one after the other; `Decisive` says which result ends the wait, and
the wait ends with the first decisive one, unless poll number ⌈timeout / interval⌉ comes
first and is not decisive either.

The invariant behind it is `after_waitOnJob`: before poll `i` the loop has
`failuresBefore results i` failures on its counter, never more than are tolerated, and `i`
pauses less on its clock than at the beginning.  `yields_waitOnJob_of_firstDecisive` and
`yields_waitOnJob_of_deadline` say how a wait ends, and `cases_of_yields_waitOnJob` that it ends in
no other way.

The clock here is the time that is left.  `StorageArray.Proofs.Job.Clock` says all of it of the
instants between which a wait polls.
-/

namespace StorageArray

namespace Poll

/-- The result of a poll is a failure after which the next poll may succeed. -/
def isTransient : Except ArrayError JobRecord → Bool
  | .ok _ => false
  | .error e => e.isTransient

variable (retries : Nat) (results : Nat → Except ArrayError JobRecord)

/-- Poll `i` ends the wait: the job has ended, or the failure is not transient, or it is
transient and as many transient failures as are tolerated stand directly before it. -/
def Decisive (i : Nat) : Prop :=
  match results i with
  | .ok record => record.status.isTerminal = true
  | .error e =>
    e.isTransient = true →
      retries ≤ i ∧ ∀ j < i, i - retries ≤ j → isTransient (results j) = true

/-- Poll `i` is the first that ends the wait. -/
def FirstDecisive (i : Nat) : Prop :=
  Decisive retries results i ∧ ∀ j < i, ¬ Decisive retries results j

instance (i : Nat) : Decidable (Decisive retries results i) :=
  match hresult : results i with
  | .ok record => decidable_of_iff (record.status.isTerminal = true) (by simp [Decisive, hresult])
  | .error e =>
    decidable_of_iff (e.isTransient = true →
        retries ≤ i ∧ ∀ j < i, i - retries ≤ j → isTransient (results j) = true)
      (by simp [Decisive, hresult])

instance (i : Nat) : Decidable (FirstDecisive retries results i) :=
  inferInstanceAs (Decidable (_ ∧ _))

/-- How a wait ends with a decisive poll: with the record of a job that succeeded, with the
failure of one that failed, with the result word for word, or with the error of the poll. -/
def outcome : Except ArrayError JobRecord → Except ArrayError JobRecord
  | .error e => .error e
  | .ok record => match record.status with
    | .failed => .error (.jobFailed record.id (record.result.getD ""))
    | _ => .ok record

/-- How many transient failures stand directly before poll `i`. -/
def failuresBefore : Nat → Nat
  | 0 => 0
  | i + 1 => if isTransient (results i) then failuresBefore i + 1 else 0

variable {retries results}

/-- No poll comes before the first. -/
lemma Decisive.firstDecisive (h : Decisive retries results 0) : FirstDecisive retries results 0 :=
  ⟨h, fun j hj => absurd hj (Nat.not_lt_zero j)⟩

/-- Of the decisive polls up to a number one is the first. -/
lemma Decisive.exists_firstDecisive {i : Nat} (h : Decisive retries results i) :
    ∃ n ≤ i, FirstDecisive retries results n := by
  have hex : ∃ n, Decisive retries results n := ⟨i, h⟩
  exact ⟨Nat.find hex, Nat.find_min' hex h, Nat.find_spec hex, fun _ hj => Nat.find_min hex hj⟩

lemma le_failuresBefore_iff {n i : Nat} :
    n ≤ failuresBefore results i ↔
      n ≤ i ∧ ∀ j < i, i - n ≤ j → isTransient (results j) = true := by
  induction i generalizing n with
  | zero =>
      simp only [failuresBefore, Nat.le_zero_eq, Nat.not_lt_zero, false_implies, implies_true,
        and_true]
  | succ i ih =>
      rw [failuresBefore]
      cases n with
      | zero =>
          simp only [Nat.zero_le, true_and, true_iff]
          intro j hj hle
          omega
      | succ n =>
          split
          · -- Poll `i` is one more failure in the row.
            rename_i ht
            rw [Nat.succ_le_succ_iff, ih]
            constructor
            · rintro ⟨hn, hall⟩
              refine ⟨by omega, fun j hj hle => ?_⟩
              rcases Nat.lt_succ_iff_lt_or_eq.1 hj with hlt | rfl
              · exact hall j hlt (by omega)
              · exact ht
            · rintro ⟨hn, hall⟩
              exact ⟨by omega, fun j hj hle => hall j (by omega) (by omega)⟩
          · -- Poll `i` has set the counter back, and it is among the last `n + 1`.
            rename_i ht
            constructor
            · intro h
              omega
            · rintro ⟨hn, hall⟩
              exact absurd (hall i (by omega) (by omega)) ht

/-- A poll that does not end the wait is followed by another one, the failures in a row
counted on. -/
lemma verdict_of_not_decisive {i : Nat} (h : ¬ Decisive retries results i) :
    PollVerdict.of retries (failuresBefore results i) (results i) =
      .goOn (failuresBefore results (i + 1)) := by
  unfold Decisive at h
  unfold PollVerdict.of
  rw [failuresBefore]
  cases hr : results i with
  | ok record =>
      simp only [hr] at h
      have hnone : record.outcome? = none := by
        rw [← Option.not_isSome_iff_eq_none, record.isSome_outcome?]
        exact h
      simp [hnone, isTransient]
  | error e =>
      simp only [hr, Classical.not_imp] at h
      obtain ⟨ht, hnot⟩ := h
      rw [← le_failuresBefore_iff] at hnot
      have hlt : failuresBefore results i < retries := by omega
      simp [ht, hlt, isTransient]

/-- A decisive poll ends the wait with its outcome. -/
lemma verdict_of_decisive {i : Nat} (h : Decisive retries results i) :
    PollVerdict.of retries (failuresBefore results i) (results i) =
      .ended (outcome (results i)) := by
  unfold Decisive at h
  unfold PollVerdict.of outcome
  cases hr : results i with
  | ok record =>
      simp only [hr] at h
      unfold JobRecord.outcome?
      unfold JobStatus.isTerminal at h
      cases hs : record.status <;> simp_all
  | error e =>
      simp only [hr] at h
      rw [← le_failuresBefore_iff] at h
      by_cases ht : e.isTransient = true
      · have hle := h ht
        simp [ht, Nat.not_lt.2 hle]
      · simp [ht]

/-- A failure is counted only while fewer are on the counter than are tolerated. -/
lemma failuresBefore_le {i : Nat} (h : ∀ j < i, ¬ Decisive retries results j) :
    failuresBefore results i ≤ retries := by
  cases i with
  | zero => exact Nat.zero_le _
  | succ i =>
      rw [failuresBefore]
      split
      · rename_i ht
        -- With more on the counter, poll `i` would have been decisive.
        by_contra hgt
        refine h i (Nat.lt_succ_self i) ?_
        unfold Decisive
        cases hr : results i with
        | ok record => simp [hr, isTransient] at ht
        | error e =>
            intro _
            rw [← le_failuresBefore_iff]
            omega
      · exact Nat.zero_le _

end Poll

open Poll (Decisive FirstDecisive failuresBefore)

namespace Settings

/-- How much time passes between two polls; it is never empty. -/
def stride (s : Settings) : Nat := max 1 s.pollInterval.nanoseconds

/-- The number of the last poll that is made before the deadline. -/
def lastPoll (s : Settings) : Nat := s.jobTimeout.nanoseconds ⌈/⌉ s.stride

/-- How much time is left at a poll. -/
def leftAt (s : Settings) (i : Nat) : Nat := s.jobTimeout.nanoseconds - i * s.stride

variable {s : Settings}

lemma leftAt_eq_zero_iff {i : Nat} : s.leftAt i = 0 ↔ s.lastPoll ≤ i := by
  have hpos : 0 < s.stride := Nat.lt_of_lt_of_le Nat.one_pos (Nat.le_max_left _ _)
  rw [leftAt, lastPoll, Nat.sub_eq_zero_iff_le, ceilDiv_le_iff_le_mul hpos, Nat.mul_comm]

/-- A pause takes the whole stride, or what is left of the time. -/
lemma leftAt_sub_pause (i : Nat) :
    s.leftAt i - s.pause (s.leftAt i) = s.leftAt (i + 1) := by
  have hsucc : s.leftAt (i + 1) = s.leftAt i - s.stride := by
    rw [leftAt, leftAt, Nat.add_mul, Nat.one_mul, Nat.sub_add_eq]
  rw [hsucc, pause, stride]
  omega

end Settings

namespace Client

variable (c : Client) (job : JobId)

/-- The request of a poll. -/
def pollRequest : Request := .get (c.systemPath ("job/" ++ job.text))

/-- Polls with these answers, from number `n` on. -/
def polls (answers : Nat → Answer) (n count : Nat) : Transcript :=
  (List.range' n count).map fun i => ⟨c.site, c.pollRequest job, answers i⟩

/-- The results of polls with these answers. -/
def pollResults (answers : Nat → Answer) (i : Nat) : Except ArrayError JobRecord :=
  (c.getJob job).on (answers i)

/-- The wait at poll `i`, when all polls before went on. -/
def waitAt (answers : Nat → Answer) (i : Nat) : Operation JobRecord :=
  c.pollJob job (failuresBefore (c.pollResults job answers) i) (c.settings.leftAt i)

variable {c job} {answers : Nat → Answer}

lemma answer_of_mem_polls {n count i : Nat} {e : Exchange}
    (h : (c.polls job answers n count)[i]? = some e) : e.answer = answers (n + i) := by
  simp only [polls, List.getElem?_map, Option.map_eq_some_iff] at h
  obtain ⟨m, hm, rfl⟩ := h
  obtain ⟨hi, rfl⟩ := List.getElem?_eq_some_iff.1 hm
  rw [List.getElem_range', Nat.one_mul]

lemma run_getJob :
    (c.getJob job).run = .send c.site (c.pollRequest job) fun answer =>
      .done ((c.getJob job).on answer) := by
  rw [getJob, run_read]
  simp only [on_read]
  rfl

lemma run_pollJob (failures left : Nat) :
    (c.pollJob job failures left).run = .send c.site (c.pollRequest job) fun answer =>
      match PollVerdict.of c.settings.maxPollRetries failures ((c.getJob job).on answer) with
      | .ended result => .done result
      | .goOn failures =>
        if left = 0 then .done (.error (.timeout job c.settings.jobTimeout))
        else (c.pollJob job failures (left - c.settings.pause left)).run := by
  rw [pollJob, Operation.run_bind, Operation.run_settle, run_getJob]
  simp only [Program.send_bind, Program.done_bind]
  rfl

lemma waitOnJob_eq_waitAt (answers : Nat → Answer) :
    c.waitOnJob job = c.waitAt job answers 0 := by
  simp [waitOnJob, waitAt, failuresBefore, Settings.leftAt]

/-- What a wait makes of the answer to its poll. -/
lemma run_waitAt (c : Client) (job : JobId) (answers : Nat → Answer) (i : Nat) :
    ∃ resume, (c.waitAt job answers i).run = .send c.site (c.pollRequest job) resume ∧
      resume (answers i) =
        match PollVerdict.of c.settings.maxPollRetries
          (failuresBefore (c.pollResults job answers) i) (c.pollResults job answers i) with
        | .ended result => .done result
        | .goOn failures =>
          if c.settings.leftAt i = 0 then .done (.error (.timeout job c.settings.jobTimeout))
          else (c.pollJob job failures (c.settings.leftAt (i + 1))).run := by
  refine ⟨_, run_pollJob _ _, ?_⟩
  rw [Settings.leftAt_sub_pause]
  rfl

section Steps

variable {i : Nat}

lemma run_waitAt_of_not_decisive
    (h : ¬ Decisive c.settings.maxPollRetries (c.pollResults job answers) i)
    (hi : i < c.settings.lastPoll) :
    ∃ resume, (c.waitAt job answers i).run = .send c.site (c.pollRequest job) resume ∧
      resume (answers i) = (c.waitAt job answers (i + 1)).run := by
  obtain ⟨resume, hrun, hresume⟩ := run_waitAt c job answers i
  have hleft : c.settings.leftAt i ≠ 0 := by
    rw [Ne, Settings.leftAt_eq_zero_iff]
    omega
  refine ⟨resume, hrun, ?_⟩
  rw [hresume, Poll.verdict_of_not_decisive h]
  simp only [if_neg hleft]
  rfl

lemma yields_waitAt_of_decisive
    (h : Decisive c.settings.maxPollRetries (c.pollResults job answers) i) :
    (c.waitAt job answers i).Yields (c.polls job answers i 1)
      (Poll.outcome (c.pollResults job answers i)) := by
  obtain ⟨resume, hrun, hresume⟩ := run_waitAt c job answers i
  rw [Operation.Yields, hrun]
  refine .send (answers i) ?_
  rw [hresume, Poll.verdict_of_decisive h]
  exact .done _

lemma yields_waitAt_of_deadline
    (h : ¬ Decisive c.settings.maxPollRetries (c.pollResults job answers) i)
    (hi : c.settings.lastPoll ≤ i) :
    (c.waitAt job answers i).Yields (c.polls job answers i 1)
      (.error (.timeout job c.settings.jobTimeout)) := by
  obtain ⟨resume, hrun, hresume⟩ := run_waitAt c job answers i
  rw [Operation.Yields, hrun]
  refine .send (answers i) ?_
  rw [hresume, Poll.verdict_of_not_decisive h]
  simp only [Settings.leftAt_eq_zero_iff.2 hi, if_true]
  exact .done _

end Steps

/-- Polls that go on are followed by the rest of the wait. -/
lemma yields_waitAt_append {i n : Nat} {t : Transcript} {r : Except ArrayError JobRecord}
    (hnot : ∀ j, i ≤ j → j < i + n →
      ¬ Decisive c.settings.maxPollRetries (c.pollResults job answers) j)
    (hlast : i + n ≤ c.settings.lastPoll) (h : (c.waitAt job answers (i + n)).Yields t r) :
    (c.waitAt job answers i).Yields (c.polls job answers i n ++ t) r := by
  induction n generalizing i with
  | zero => simpa [polls] using h
  | succ n ih =>
      obtain ⟨resume, hrun, hresume⟩ :=
        run_waitAt_of_not_decisive (hnot i (Nat.le_refl i) (by omega)) (by omega)
      have hrest : (c.waitAt job answers (i + 1)).Yields (c.polls job answers (i + 1) n ++ t) r :=
        ih (fun j hj hlt => hnot j (by omega) (by omega)) (by omega)
          (by rwa [Nat.add_right_comm])
      rw [Operation.Yields, hrun]
      refine .send (answers i) ?_
      rw [hresume]
      exact hrest

/-- A wait ends with the first decisive poll, if there is one before the deadline. -/
lemma yields_waitOnJob_of_firstDecisive {n : Nat}
    (h : FirstDecisive c.settings.maxPollRetries (c.pollResults job answers) n)
    (hn : n ≤ c.settings.lastPoll) :
    (c.waitOnJob job).Yields (c.polls job answers 0 (n + 1))
      (Poll.outcome (c.pollResults job answers n)) := by
  have hlast := yields_waitAt_of_decisive h.1
  rw [← Nat.zero_add n] at hlast
  have hall := yields_waitAt_append (fun j _ hj => h.2 j (by omega)) (by omega) hlast
  rw [Nat.zero_add] at hall
  rw [waitOnJob_eq_waitAt answers, polls, List.range'_1_concat]
  simpa [polls] using hall

/-- A wait without a decisive poll ends at the deadline. -/
lemma yields_waitOnJob_of_deadline
    (h : ∀ i ≤ c.settings.lastPoll,
      ¬ Decisive c.settings.maxPollRetries (c.pollResults job answers) i) :
    (c.waitOnJob job).Yields (c.polls job answers 0 (c.settings.lastPoll + 1))
      (.error (.timeout job c.settings.jobTimeout)) := by
  have hlast := yields_waitAt_of_deadline (h _ (Nat.le_refl _)) (Nat.le_refl _)
  rw [← Nat.zero_add c.settings.lastPoll] at hlast
  have hall := yields_waitAt_append (fun j _ hj => h j (by omega)) (by omega) hlast
  rw [Nat.zero_add] at hall
  rw [waitOnJob_eq_waitAt answers, polls, List.range'_1_concat]
  simpa [polls] using hall

/-- A wait in which every poll has gone on is not over before the deadline. -/
lemma not_yields_polls {n : Nat}
    (h : ∀ i < n, ¬ Decisive c.settings.maxPollRetries (c.pollResults job answers) i)
    (hn : n ≤ c.settings.lastPoll) {r : Except ArrayError JobRecord} :
    ¬ (c.waitOnJob job).Yields (c.polls job answers 0 n) r := by
  intro hyields
  -- The wait goes on with poll `n`, whatever comes after it.
  obtain ⟨resume, hrun, -⟩ := run_waitAt c job answers n
  let rest := (c.waitAt job answers n).run.transcript (Program.sequence answers) n
  let last := ((c.waitAt job answers n).run.run (Program.sequence answers) n).1
  have hrest : (c.waitAt job answers n).Yields rest last := Program.yields_transcript _ _ _
  have hall : (c.waitOnJob job).Yields (c.polls job answers 0 n ++ rest) last := by
    rw [waitOnJob_eq_waitAt answers]
    exact yields_waitAt_append (fun j _ hj => h j (by omega)) (by omega) (by rwa [Nat.zero_add])
  have hbegin : c.polls job answers 0 n ++ rest = c.polls job answers 0 n ++ rest ++ [] :=
    (List.append_nil _).symm
  obtain ⟨hsame, -⟩ := Program.Yields.eq_of_append_eq hyields hall hbegin
  have hnone : rest = [] := List.append_right_eq_self.1 hsame.symm
  rw [Operation.Yields, hrun, Program.yields_send_iff, hnone] at hrest
  obtain ⟨answer, later, hcons, -⟩ := hrest
  cases hcons

/-- Before poll `i` the loop has counted the failures in a row, and `i` pauses are gone. -/
lemma after_waitOnJob {i : Nat}
    (h : ∀ j < i, ¬ Decisive c.settings.maxPollRetries (c.pollResults job answers) j)
    (hi : i ≤ c.settings.lastPoll) :
    (c.waitOnJob job).run.after ((List.range i).map answers) = (c.waitAt job answers i).run := by
  induction i with
  | zero => rw [waitOnJob_eq_waitAt answers, List.range_zero, List.map_nil, Program.after_nil]
  | succ i ih =>
      have hbefore := ih (fun j hj => h j (by omega)) (by omega)
      obtain ⟨resume, hrun, hresume⟩ :=
        run_waitAt_of_not_decisive (h i (Nat.lt_succ_self i)) (by omega)
      rw [List.range_succ, List.map_append, Program.after_append, hbefore, hrun, List.map_singleton,
        Program.after_send_cons, hresume, Program.after_nil]

/-- The answers of a transcript as a sequence; what stands behind them does not matter. -/
def answersOf (t : Transcript) (i : Nat) : Answer :=
  (t[i]?.map (·.answer)).getD (.error ⟨.connect, "", ""⟩)

/-- Every wait ends with its first decisive poll, or at the deadline without one. -/
lemma cases_of_yields_waitOnJob {t : Transcript} {r : Except ArrayError JobRecord}
    (h : (c.waitOnJob job).Yields t r) :
    ∃ answers,
      (∃ n ≤ c.settings.lastPoll,
        FirstDecisive c.settings.maxPollRetries (c.pollResults job answers) n ∧
          t = c.polls job answers 0 (n + 1) ∧ r = Poll.outcome (c.pollResults job answers n)) ∨
      ((∀ i ≤ c.settings.lastPoll,
          ¬ Decisive c.settings.maxPollRetries (c.pollResults job answers) i) ∧
        t = c.polls job answers 0 (c.settings.lastPoll + 1) ∧
          r = .error (.timeout job c.settings.jobTimeout)) := by
  -- Against the answers of `t` the wait leaves polls, and the answers decide the transcript.
  refine ⟨answersOf t, ?_⟩
  have hagree : ∀ k (i : Nat) (e e' : Exchange), t[i]? = some e →
      (c.polls job (answersOf t) 0 k)[i]? = some e' → e.answer = e'.answer := by
    intro k i e e' he he'
    rw [answer_of_mem_polls he', Nat.zero_add]
    simp [answersOf, he]
  by_cases hex : ∃ i, i ≤ c.settings.lastPoll ∧
      Decisive c.settings.maxPollRetries (c.pollResults job (answersOf t)) i
  · left
    obtain ⟨i, hi, hdecisive⟩ := hex
    obtain ⟨n, hn, hfirst⟩ := hdecisive.exists_firstDecisive
    have hle : n ≤ c.settings.lastPoll := Nat.le_trans hn hi
    obtain ⟨ht, hr⟩ := Program.Yields.eq_of_answers h
      (yields_waitOnJob_of_firstDecisive hfirst hle) (hagree _)
    exact ⟨n, hle, hfirst, ht, hr⟩
  · right
    have hnone : ∀ i ≤ c.settings.lastPoll,
        ¬ Decisive c.settings.maxPollRetries (c.pollResults job (answersOf t)) i :=
      fun i hi hd => hex ⟨i, hi, hd⟩
    obtain ⟨ht, hr⟩ := Program.Yields.eq_of_answers h
      (yields_waitOnJob_of_deadline hnone) (hagree _)
    exact ⟨hnone, ht, hr⟩

lemma sent_polls (n : Nat) :
    (c.polls job answers 0 n).sent = List.replicate n (c.site, c.pollRequest job) := by
  simp [polls, Transcript.sent, List.eq_replicate_iff]

/-- A run of polls against the sequence of their answers. -/
lemma trace_of_yields_polls {n : Nat} {r : Except ArrayError JobRecord}
    (h : (c.waitOnJob job).Yields (c.polls job answers 0 n) r) :
    (c.waitOnJob job).run.trace (Program.sequence answers) 0 =
      (r, List.replicate n (c.site, c.pollRequest job), n) := by
  rw [Program.Yields.trace_sequence h fun i e he => answer_of_mem_polls he, sent_polls]
  simp [polls]

end Client

end StorageArray
