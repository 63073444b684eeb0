import Mathlib.Tactic.Common
import StorageArray.CommandLine.Run
import StorageArray.Proofs.Job.Clock
import StorageArray.Proofs.Source
/-!
# Deadlines on the clock

A wait has a deadline as long as the clock can count it: the seconds that it shows and those of the
timeout have 63 bits together.  Otherwise the process is stopped at the exchange after which an
operation would wait, and at no other one (`Client.beginsWait_head_iff`,
`Program.runUntil_of_meets`, `Program.runUntil_of_not_meets`).

So the runs on a clock that come to a result are those without a clock in which every wait has a
deadline (`Settings.performOnClock_eq_some_iff`).  What is said of all transcripts of an operation
therefore holds on every clock.

An accepted configuration bounds the timeout from below and not from above.  So none of them has a
deadline at every instant, and with the largest timeouts no instant has one.
-/

namespace StorageArray

/-! ### Exchanges after which an operation waits -/

section BeginsWait

variable {c : Client} {request : Request} {subject : Subject} {answer : Answer} {t : Transcript}

/-- Whether a job was started does not depend on what the request was about. -/
lemma Reply.ofAnswer_eq_deferred_iff {method : Method} {subject' : Subject} {job : JobRecord} :
    ofAnswer method subject answer = .ok (.deferred job) ↔
      ofAnswer method subject' answer = .ok (.deferred job) := by
  cases answer with
  | error e => simp [ofAnswer]
  | ok response =>
      simp only [ofAnswer]
      by_cases hm : method = .get
      · subst hm
        cases hs : response.isSuccess with
        | false => simp [classify_of_not_isSuccess hs]
        | true => simp [classify_get hs]
      · rw [classify_eq_deferred_iff hm, classify_eq_deferred_iff hm]

lemma beginsWait_iff (subject : Subject) :
    beginsWait request answer = true ↔
      ∃ job, Reply.ofAnswer request.method subject answer = .ok (.deferred job) ∧
        job.outcome? = none := by
  have hsubject (job : JobRecord) :
      Reply.ofAnswer request.method subject answer = .ok (.deferred job) ↔
        Reply.ofAnswer request.method ⟨"", ""⟩ answer = .ok (.deferred job) :=
    Reply.ofAnswer_eq_deferred_iff
  simp only [hsubject]
  cases answer with
  | error e => simp [beginsWait, Reply.ofAnswer]
  | ok response =>
      simp only [beginsWait, Reply.ofAnswer]
      rcases Reply.classify request.method response ⟨"", ""⟩ with e | body | job <;> simp

/-- A read does not begin a wait. -/
lemma beginsWait_of_get (hm : request.method = .get) : beginsWait request answer = false := by
  cases answer with
  | error e => rfl
  | ok response =>
      simp only [beginsWait, hm]
      cases hs : response.isSuccess with
      | false => simp [Reply.classify_of_not_isSuccess hs]
      | true => simp [Reply.classify_get hs]

/-- A wait polls at least once. -/
lemma Client.ne_nil_of_yields_waitOnJob {job : JobId} {q : Except ArrayError JobRecord}
    (h : (c.waitOnJob job).Yields t q) : t ≠ [] := by
  rw [waitOnJob, Operation.Yields, run_pollJob, Program.yields_send_iff] at h
  obtain ⟨answer, rest, rfl, -⟩ := h
  exact List.cons_ne_nil _ _

/-- A change waits after the answer to its request or not at all; what it sends then is the wait. -/
lemma Client.beginsWait_head_iff {r : Except ArrayError Unit}
    (h : (c.execute request subject).Yields t r) :
    ∃ e rest, t = e :: rest ∧ (∀ x ∈ rest, beginsWait x.request x.answer = false) ∧
      (beginsWait e.request e.answer = true ↔ ∃ job q, (c.waitOnJob job).Yields rest q) := by
  obtain ⟨answer, job, answers, n, rfl⟩ := shape_of_yields_execute h
  refine ⟨_, _, rfl, fun x hx => beginsWait_of_get (method_of_mem_polls hx), ?_⟩
  obtain ⟨answer', rest, heq, hrest⟩ := yields_execute_iff.1 h
  obtain ⟨hhead, rfl⟩ := List.cons.inj heq
  obtain rfl : answer = answer' := (Exchange.mk.inj hhead).2.2
  -- Without a wait nothing more is sent.
  have hnone : c.polls job answers 0 n = [] →
      ¬ ∃ job' q, (c.waitOnJob job').Yields (c.polls job answers 0 n) q := by
    rintro hnil ⟨job', q, hwait⟩
    exact ne_nil_of_yields_waitOnJob hwait hnil
  rw [beginsWait_iff subject]
  rcases hreply : Reply.ofAnswer request.method subject answer with e | body | handle
  · simp only [hreply] at hrest
    simpa using hnone hrest.1
  · simp only [hreply] at hrest
    simpa using hnone hrest.1
  · simp only [hreply] at hrest
    cases hended : handle.outcome? with
    | some outcome =>
        simp only [hended] at hrest
        simpa [hended] using hnone hrest.1
    | none =>
        simp only [hended] at hrest
        obtain ⟨q, hwait, -⟩ := hrest
        simp only [Except.ok.injEq, Reply.deferred.injEq, exists_eq_left', hended, true_iff]
        exact ⟨handle.id, q, hwait⟩

end BeginsWait

/-! ### Runs that are stopped -/

namespace Transcript

/-- An exchange of the transcript stops the run. -/
def Meets (stops : Nat → Request → Answer → Bool) (t : Transcript) : Prop :=
  ∃ i e, t[i]? = some e ∧ stops i e.request e.answer = true

variable {stops : Nat → Request → Answer → Bool}

@[simp] lemma not_meets_nil : ¬ Meets stops [] := by
  rintro ⟨i, e, hi, -⟩
  cases hi

@[simp] lemma meets_cons_iff {e : Exchange} {t : Transcript} :
    Meets stops (e :: t) ↔
      stops 0 e.request e.answer = true ∨ Meets (fun i => stops (i + 1)) t := by
  constructor
  · rintro ⟨_ | i, x, hi, hx⟩
    · cases hi
      exact .inl hx
    · exact .inr ⟨i, x, hi, hx⟩
  · rintro (hx | ⟨i, x, hi, hx⟩)
    · exact ⟨0, e, rfl, hx⟩
    · exact ⟨i + 1, x, hi, hx⟩

end Transcript

namespace Program

variable {α σ : Type} {stops : Nat → Request → Answer → Bool} {answerer : Answerer σ}
  {p : Program α} {s : σ}

/-- A run that no exchange stops is the whole run. -/
lemma runUntil_of_not_meets (h : ¬ (p.transcript answerer s).Meets stops) :
    p.runUntil stops answerer s = (some (p.run answerer s).1, (p.run answerer s).2) := by
  induction p generalizing stops s with
  | done a => rfl
  | send site request resume ih =>
      rw [transcript, Transcript.meets_cons_iff, not_or] at h
      simp only [runUntil, run, if_neg h.1]
      exact ih _ h.2

/-- A run has no value when an exchange stops it. -/
lemma runUntil_of_meets (h : (p.transcript answerer s).Meets stops) :
    (p.runUntil stops answerer s).1 = none := by
  induction p generalizing stops s with
  | done a => exact absurd h Transcript.not_meets_nil
  | send site request resume ih =>
      rw [transcript, Transcript.meets_cons_iff] at h
      simp only [runUntil]
      split
      · rfl
      · rename_i hstops
        exact ih _ (h.resolve_left hstops)

end Program

/-- Every wait that begins in the transcript has a deadline; after exchange `i` the clock shows
`clock i`. -/
def Transcript.HasDeadlines (settings : Settings) (clock : Nat → Instant) (t : Transcript) : Prop :=
  ∀ i e, t[i]? = some e → beginsWait e.request e.answer = true →
    (settings.deadline? (clock i)).isSome = true

namespace Settings

variable {α σ : Type} {settings : Settings} {clock : Nat → Instant}
  {answerer : Program.Answerer σ} {op : Operation α} {s s' : σ}

/-- What stops a run on the clock is a wait without a deadline. -/
lemma not_meets_iff {t : Transcript} :
    ¬ t.Meets (fun i request answer =>
        (settings.deadline? (clock i)).isNone && beginsWait request answer) ↔
      t.HasDeadlines settings clock := by
  simp only [Transcript.Meets, Transcript.HasDeadlines, not_exists, not_and, Bool.and_eq_true,
    Option.isNone_iff_eq_none, Option.isSome_iff_ne_none]
  exact forall_congr' fun i => forall_congr' fun e => imp_congr_right fun _ => imp_not_comm

/-- A run in which every wait has a deadline is the one without a clock. -/
lemma performOnClock_of_hasDeadlines
    (h : (op.run.transcript answerer s).HasDeadlines settings clock) :
    settings.performOnClock clock answerer op s =
      (some (op.run.run answerer s).1, (op.run.run answerer s).2) :=
  Program.runUntil_of_not_meets (not_meets_iff.2 h)

/-- A wait without a deadline leaves a run without a result. -/
lemma performOnClock_of_not_hasDeadlines
    (h : ¬ (op.run.transcript answerer s).HasDeadlines settings clock) :
    (settings.performOnClock clock answerer op s).1 = none :=
  Program.runUntil_of_meets (not_not.1 (mt not_meets_iff.1 h))

/-- A clock that has all deadlines makes no difference. -/
lemma performOnClock_eq (h : ∀ i, (settings.deadline? (clock i)).isSome = true) :
    settings.performOnClock clock answerer op s =
      (some (op.run.run answerer s).1, (op.run.run answerer s).2) :=
  performOnClock_of_hasDeadlines fun i _ _ _ => h i

/-- **Runs on a clock.**  A run on the clock comes to a result exactly when the operation has a
transcript with the source that leads to this result and in which every wait has a deadline.  So
what is said of all transcripts of an operation is said of its runs on any clock. -/
theorem performOnClock_eq_some_iff {r : Except ArrayError α} :
    settings.performOnClock clock answerer op s = (some r, s') ↔
      ∃ t, op.Yields t r ∧ Program.Served answerer t s s' ∧ t.HasDeadlines settings clock := by
  constructor
  · intro hrun
    have hdeadlines : (op.run.transcript answerer s).HasDeadlines settings clock := by
      by_contra hnot
      have hnone := performOnClock_of_not_hasDeadlines hnot
      rw [hrun] at hnone
      cases hnone
    rw [performOnClock_of_hasDeadlines hdeadlines] at hrun
    simp only [Prod.mk.injEq, Option.some.injEq] at hrun
    obtain ⟨rfl, rfl⟩ := hrun
    exact ⟨_, Program.yields_transcript _ _ _, .of_run _ _, hdeadlines⟩
  · rintro ⟨t, hyields, hserved, hdeadlines⟩
    have ht : op.run.transcript answerer s = t := hserved.transcript_eq hyields
    rw [← ht] at hdeadlines
    rw [performOnClock_of_hasDeadlines hdeadlines, hserved.run_eq hyields]

end Settings

/-! ### Accepted configurations -/

namespace Config

variable {config : Config} {now : Instant}

/-- The seconds that the clock shows and those of the timeout have 63 bits together. -/
def DeadlineFits (config : Config) (now : Instant) : Prop :=
  now.seconds + config.jobTimeout.toNat < 9223372036854775808

instance : Decidable (config.DeadlineFits now) :=
  inferInstanceAs (Decidable (_ < _))

lemma isSome_deadline?_iff : (config.settings.deadline? now).isSome ↔ config.DeadlineFits now :=
  Instant.isSome_after?_ofSeconds_iff

lemma deadline?_eq_none_iff : config.settings.deadline? now = none ↔ ¬ config.DeadlineFits now := by
  rw [← isSome_deadline?_iff, Option.not_isSome_iff_eq_none]

/-- An accepted timeout is not empty, so it leads beyond the last second of the clock. -/
lemma exists_not_deadlineFits (h : config.check = .ok ()) : ∃ now, ¬ config.DeadlineFits now := by
  refine ⟨⟨clockRange - 1, by decide⟩, ?_⟩
  have hpos := (pos_of_check h).2
  simp only [DeadlineFits, Instant.seconds, clockRange]
  omega

end Config

/-- The command that waits for a job is stopped before it has printed or sent anything. -/
lemma CommandLine.run_of_not_deadlineFits {config : Config} {now : Instant} {args : List String}
    {job : String} (hcommand : Command.ofArguments args = .ok (.waitForJob job))
    (h : config.check = .ok ()) (hlate : ¬ config.DeadlineFits now) (line : Http.Line) :
    (run args (.ok config) now line).1.exit = 101 ∧
      (run args (.ok config) now line).1.output = "" ∧
      (run args (.ok config) now line).2 = line := by
  have hnone := Config.deadline?_eq_none_iff.2 hlate
  have hstopped (c : Client) (connection : Connection) (hc : c.settings = config.settings) :
      perform c connection now (.waitForJob job) line = (stopped, line) := by
    unfold perform
    rw [Command.operation?, Client.waitOnJobFrom?, hc, hnone, Option.map_none, Option.map_none]
  have hrun : run args (.ok config) now line = (stopped, line) := by
    simp only [run, hcommand, Config.client_of_check h]
    exact hstopped _ _ rfl
  rw [hrun]
  exact ⟨rfl, rfl, rfl⟩

/-- **A wait is carried out as long as its deadline fits the clock, and no accepted configuration
makes every deadline fit.**  A wait that has a deadline is the one that counts the time left, and
without one there is no wait.  A change waits after the answer to its request or not at all.  So an
operation has its result, unless a wait begins in it at an instant that has no deadline; then it has
none. -/
theorem waits_while_deadlines_fit {config : Config} (h : config.check = .ok ()) :
    (∀ now, (config.settings.deadline? now).isSome ↔ config.DeadlineFits now) ∧
    (∃ now, ¬ config.DeadlineFits now) ∧
    (∀ (c : Client) (now : Instant) (job : JobId), c.settings = config.settings →
      c.waitOnJobFrom? now job =
        if config.DeadlineFits now then some (c.waitOnJob job) else none) ∧
    (∀ (c : Client) (request : Request) (subject : Subject) (t : Transcript)
      (r : Except ArrayError Unit), (c.execute request subject).Yields t r →
        ∃ e rest, t = e :: rest ∧ (∀ x ∈ rest, beginsWait x.request x.answer = false) ∧
          (beginsWait e.request e.answer = true ↔
            ∃ job q, (c.waitOnJob job).Yields rest q)) ∧
    ∀ {α σ : Type} (clock : Nat → Instant) (answerer : Program.Answerer σ) (op : Operation α)
      (s : σ),
      let waitsLate : Prop := ∃ i e, (op.run.transcript answerer s)[i]? = some e ∧
        beginsWait e.request e.answer = true ∧ ¬ config.DeadlineFits (clock i)
      (¬ waitsLate → config.settings.performOnClock clock answerer op s =
        (some (op.run.run answerer s).1, (op.run.run answerer s).2)) ∧
      (waitsLate → (config.settings.performOnClock clock answerer op s).1 = none) := by
  refine ⟨fun now => Config.isSome_deadline?_iff, Config.exists_not_deadlineFits h, ?_,
    fun c request subject t r => Client.beginsWait_head_iff, ?_⟩
  · intro c now job hc
    rw [Client.waitOnJobFrom?_eq, hc]
    split
    · rename_i hfits
      obtain ⟨deadline, hdeadline⟩ := Option.isSome_iff_exists.1
        (Config.isSome_deadline?_iff.2 hfits)
      rw [hdeadline, Option.map_some]
    · rename_i hfits
      rw [Config.deadline?_eq_none_iff.2 hfits, Option.map_none]
  · intro α σ clock answerer op s waitsLate
    have hlate : ¬ (op.run.transcript answerer s).HasDeadlines config.settings clock ↔
        waitsLate := by
      simp only [Transcript.HasDeadlines, Config.isSome_deadline?_iff, not_forall, exists_prop,
        waitsLate]
    constructor
    · intro hnot
      exact Settings.performOnClock_of_hasDeadlines (not_not.1 (mt hlate.1 hnot))
    · intro hwaits
      exact Settings.performOnClock_of_not_hasDeadlines (hlate.2 hwaits)

/-- The largest timeout that a file can hold, in a deletion that the array defers: on the clock's
second 0 there is a deadline for it, and one second later there is none. -/
theorem waits_while_deadlines_fit_on_second_zero :
    let config : Config := ⟨"http://array.example:8443", "smc", "s3cret", "000197600123", none,
      "100", true, 30, 5, 9223372036854775807, 3, 3, none⟩
    let c : Client := ⟨.home, ⟨"000197600123"⟩, config.settings⟩
    let deletion := c.deleteResource StorageGroup.resources "SG1"
    let report (status : String) : Json :=
      .object [("jobId", .string "7"), ("status", .string status)]
    let answers : Nat → Answer := fun
      | 0 => .ok ⟨202, report "RUNNING"⟩
      | _ => .ok ⟨200, report "SUCCEEDED"⟩
    let run (nanoseconds : Nat) :=
      config.settings.performOnClock (fun _ => .ofReading nanoseconds) (Program.sequence answers)
        deletion 0
    config.check = .ok () ∧ run 999999999 = (some (.ok ()), 2) ∧ (run 1000000000).1 = none := by
  intro config c deletion report answers run
  have hcheck : config.check = .ok () := by decide
  let record : JobRecord := ⟨⟨"7"⟩, none, .running, none, none, none⟩
  have hdefers : Response.Defers ⟨202, report "RUNNING"⟩ record := ⟨rfl, rfl, rfl⟩
  have hpoll : (c.getJob ⟨"7"⟩).on (answers 1) = .ok { record with status := .succeeded } := rfl
  have hyields : deletion.Yields _ (.ok ()) :=
    Client.yields_execute_of_first_poll Method.delete_ne_get record hdefers rfl hpoll rfl
  have htrace : deletion.run.trace (Program.sequence answers) 0 = _ :=
    hyields.trace_sequence fun
      | 0, _, rfl => rfl
      | 1, _, rfl => rfl
  rw [Program.trace_eq] at htrace
  simp only [Prod.mk.injEq] at htrace
  obtain ⟨hresult, -, hcount⟩ := htrace
  obtain ⟨-, -, -, -, hruns⟩ := waits_while_deadlines_fit hcheck
  refine ⟨hcheck, ?_, (hruns _ _ deletion 0).2 ⟨0, _, rfl, rfl, by decide⟩⟩
  refine ((hruns _ _ deletion 0).1 ?_).trans ?_
  · rintro ⟨i, e, -, -, hlate⟩
    exact hlate (by decide)
  · rw [hresult, hcount]
    rfl

/-- An accepted timeout for which no instant has a deadline.  The command that waits for a job is
stopped before it has printed or sent anything. -/
theorem no_deadline_for_accepted_timeout :
    let config : Config := ⟨"http://array.example:8443", "smc", "s3cret", "000197600123", none,
      "100", true, 120, 3, 18446744073709551615, 3, 3, none⟩
    config.check = .ok () ∧ (∀ now, config.settings.deadline? now = none) ∧
      (∀ now line, (CommandLine.run ["job", "wait", "7"] (.ok config) now line).1.exit = 101 ∧
        (CommandLine.run ["job", "wait", "7"] (.ok config) now line).1.output = "" ∧
        (CommandLine.run ["job", "wait", "7"] (.ok config) now line).2 = line) ∧
      ¬ ∀ config : Config, config.check = .ok () →
        ∀ now, (config.settings.deadline? now).isSome := by
  intro config
  have hcheck : config.check = .ok () := by decide
  have hlarge : 9223372036854775808 ≤ config.jobTimeout.toNat := by decide
  have hlate (now : Instant) : ¬ config.DeadlineFits now :=
    Nat.not_lt.2 (Nat.le_trans hlarge (Nat.le_add_left _ _))
  have hdeadline (now : Instant) : config.settings.deadline? now = none :=
    Config.deadline?_eq_none_iff.2 (hlate now)
  have hcommand : Command.ofArguments ["job", "wait", "7"] = .ok (.waitForJob "7") := by rfl
  refine ⟨hcheck, hdeadline, fun now line => ?_, fun hall => ?_⟩
  · exact CommandLine.run_of_not_deadlineFits hcommand hcheck (hlate now) line
  · have hsome := hall config hcheck (.ofReading 0)
    simp [hdeadline] at hsome

end StorageArray
