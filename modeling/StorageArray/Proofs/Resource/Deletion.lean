import Mathlib.Tactic.Common
import StorageArray.Proofs.Job.Settlement
import StorageArray.Resource.Host
/-!
# What a deletion says was there

A deletion of a resource that may be gone says `true` when it has deleted the resource, and `false`
when it was told that something is missing.  The array says so of the resource by answering the
deletion with the status 404.  A deletion that is deferred is followed by polls, and a poll that is
answered with the status 404 says so of the record of the job; whether there is a resource, and
whether it will be deleted, is not known then.

`Client.FoundAbsent` is the first of the two.  That the deletion says `false` means the same as
`FoundAbsent` exactly in the runs in which no poll is answered with the status 404; in the others it
says `false` as well.
-/

namespace StorageArray

namespace Client

variable {R S : Type} {c : Client} {k : ResourceClass R S} {name : String} {t : Transcript}

/-- A deletion that reports something as missing says that there was none. -/
lemma yields_deleteIfExists_iff {q : Except ArrayError Bool} :
    (c.deleteIfExists k name).Yields t q ↔
      ∃ r, (c.deleteResource k name).Yields t r ∧
        q = match r with
          | .ok _ => .ok true
          | .error e => if e.isNotFound then .ok false else .error e := by
  refine Operation.yields_settle_bind_ofExcept fun r => ?_
  cases r with
  | ok a => rfl
  | error e =>
      simp only
      split
      · rfl
      · rfl

variable (c k name t)

/-- The array has answered the deletion itself with the status 404. -/
def FoundAbsent : Prop :=
  ∃ x ∈ t, x.request = .delete (c.resourcePath k name) ∧ x.answer.IsMissing

variable {c k name t}

/-- Of the answers that say that something is missing, only those to polls are not about the
resource. -/
lemma foundAbsent_iff {r : Except ArrayError Unit} (h : (c.deleteResource k name).Yields t r) :
    c.FoundAbsent k name t ↔
      (∃ x ∈ t, x.answer.IsMissing) ∧ ∀ poll ∈ t.tail, ¬ poll.answer.IsMissing := by
  constructor
  · rintro ⟨x, hx, hrequest, hmissing⟩
    obtain rfl := eq_singleton_of_isMissing Method.delete_ne_get h hx hrequest hmissing
    exact ⟨⟨x, hx, hmissing⟩, fun poll hpoll => nomatch hpoll⟩
  · rintro ⟨⟨x, hx, hmissing⟩, hpolls⟩
    rw [eq_singleton_of_polls Method.delete_ne_get h hx hmissing hpolls]
    exact ⟨_, List.mem_cons_self, rfl, hmissing⟩

end Client

/-- **What a deletion says was there.**  It says `true` exactly when the array has confirmed the
deletion, and it says `false` exactly when an answer says that something is missing; every other run
ends with an error.  That it says `false` exactly when the deletion itself was answered with the
status 404 holds in a run if and only if no poll of its job was answered so.  In the runs every wait
has a deadline, and polls take no time. -/
theorem deleteIfExists_reports {R S : Type} (c : Client) (k : ResourceClass R S) (name : String)
    {t : Transcript} {r : Except ArrayError Bool} (hrun : (c.deleteIfExists k name).Yields t r) :
    (r = .ok true ↔ c.Settles (.delete (c.resourcePath k name)) t (.ok ())) ∧
      (r = .ok false ↔ ∃ x ∈ t, x.answer.IsMissing) ∧
      ((∃ e, r = .error e) ↔ ¬ c.Settles (.delete (c.resourcePath k name)) t (.ok ()) ∧
        ∀ x ∈ t, ¬ x.answer.IsMissing) ∧
      ((r = .ok false ↔ c.FoundAbsent k name t) ↔ ∀ poll ∈ t.tail, ¬ poll.answer.IsMissing) := by
  obtain ⟨q, hdelete, hr⟩ := Client.yields_deleteIfExists_iff.1 hrun
  have htrue : r = .ok true ↔ c.Settles (.delete (c.resourcePath k name)) t (.ok ()) := by
    have hq : r = .ok true ↔ q = .ok () := by
      rw [hr]
      cases q with
      | ok a => simp
      | error e => cases he : e.isNotFound <;> simp [he]
    rw [hq]
    constructor
    · rintro rfl
      exact (Client.yields_execute_ok_iff Method.delete_ne_get).1 hdelete
    · intro hsettles
      exact hdelete.unique (hsettles.yields_execute Method.delete_ne_get)
  have hfalse : r = .ok false ↔ ∃ x ∈ t, x.answer.IsMissing := by
    rw [← Client.reportsMissing_iff Method.delete_ne_get hdelete, hr]
    cases q with
    | ok a => simp
    | error e => cases he : e.isNotFound <;> simp [he]
  have herror : (∃ e, r = .error e) ↔ ¬ r = .ok true ∧ ¬ r = .ok false := by
    rcases r with e | _ | _ <;> simp
  refine ⟨htrue, hfalse, ?_, ?_⟩
  · rw [herror, htrue, hfalse]
    simp only [not_exists, not_and]
  · rw [hfalse, Client.foundAbsent_iff hdelete]
    refine ⟨fun h poll hpoll hmissing => ?_, fun hpolls => (and_iff_left hpolls).symm⟩
    exact (h.1 ⟨poll, List.mem_of_mem_tail hpoll, hmissing⟩).2 poll hpoll hmissing

/-- A deletion that is confirmed by the record of its job, and one of a host that is gone. -/
theorem deleteIfExists_reports_after_poll :
    let c : Client := ⟨.home, ⟨"000197600123"⟩, .default⟩
    let deletion : Request := .delete (c.resourcePath Host.resources "esx01")
    let job (status : String) : Json :=
      .object [("jobId", .string "7"), ("status", .string status)]
    let t : Transcript := [⟨.home, deletion, .ok ⟨202, job "RUNNING"⟩⟩,
      ⟨.home, c.pollRequest ⟨"7"⟩, .ok ⟨200, job "SUCCEEDED"⟩⟩]
    let u : Transcript := [⟨.home, deletion, .ok ⟨404, .null⟩⟩]
    (c.deleteIfExists Host.resources "esx01").Yields t (.ok true) ∧
      c.Settles deletion t (.ok ()) ∧
      (c.deleteIfExists Host.resources "esx01").Yields u (.ok false) ∧
      c.FoundAbsent Host.resources "esx01" u := by
  intro c deletion job t u
  have hdeleted : (c.deleteIfExists Host.resources "esx01").Yields t (.ok true) := by
    let handle : JobRecord := ⟨⟨"7"⟩, none, .running, none, none, none⟩
    have hdefers : Response.Defers ⟨202, job "RUNNING"⟩ handle := ⟨rfl, rfl, rfl⟩
    have hpoll : (c.getJob ⟨"7"⟩).on (.ok ⟨200, job "SUCCEEDED"⟩) =
        .ok { handle with status := .succeeded } := rfl
    refine Client.yields_deleteIfExists_iff.2 ⟨.ok (), ?_, rfl⟩
    exact Client.yields_execute_of_first_poll Method.delete_ne_get handle hdefers rfl hpoll rfl
  have habsent : (c.deleteIfExists Host.resources "esx01").Yields u (.ok false) :=
    Client.yields_deleteIfExists_iff.2
      ⟨_, Client.yields_execute_of_isMissing ⟨⟨404, .null⟩, rfl, rfl⟩, rfl⟩
  refine ⟨hdeleted, (deleteIfExists_reports c Host.resources "esx01" hdeleted).1.1 rfl, habsent, ?_⟩
  have hpolls : ∀ poll ∈ u.tail, ¬ poll.answer.IsMissing := nofun
  exact ((deleteIfExists_reports c Host.resources "esx01" habsent).2.2.2.2 hpolls).1 rfl

/-- A deletion that is deferred to a job.  The record of the job is gone when it is polled; the
deletion says that there was no host, although the array has accepted to delete it. -/
theorem deleteIfExists_false_without_answer :
    let c : Client := ⟨.home, ⟨"000197600123"⟩, .default⟩
    let handle : Json := .object [("jobId", .string "7"), ("status", .string "RUNNING")]
    let t : Transcript := [
      ⟨.home, .delete (c.resourcePath Host.resources "esx01"), .ok ⟨202, handle⟩⟩,
      ⟨.home, c.pollRequest ⟨"7"⟩, .ok ⟨404, .null⟩⟩]
    let s : Stage := { home := { queued := t.map (·.answer) } }
    (c.deleteIfExists Host.resources "esx01").run.transcript Stage.answer s = t ∧
      (s.perform (c.deleteIfExists Host.resources "esx01")).1 = .ok false ∧
      ¬ c.FoundAbsent Host.resources "esx01" t := by
  intro c handle t s
  have hdelete : (c.deleteResource Host.resources "esx01").Yields t
      (.error (.notFound "job" "7")) := by
    let record : JobRecord := ⟨⟨"7"⟩, none, .running, none, none, none⟩
    have hdefers : Response.Defers ⟨202, handle⟩ record := ⟨rfl, rfl, rfl⟩
    have hpoll : (c.getJob ⟨"7"⟩).on (.ok ⟨404, .null⟩) = .error (.notFound "job" "7") := rfl
    exact Client.yields_execute_of_first_poll Method.delete_ne_get record hdefers rfl hpoll nofun
  have hrun : (c.deleteIfExists Host.resources "esx01").Yields t (.ok false) :=
    Client.yields_deleteIfExists_iff.2 ⟨_, hdelete, rfl⟩
  have hoffers : s.Offers t := by
    rintro (_ | _)
    · exact ⟨[], rfl⟩
    · exact ⟨[], rfl⟩
  obtain ⟨htranscript, hresult⟩ := Program.Yields.transcript_of_offers hrun hoffers
  refine ⟨htranscript, hresult, fun habsent => ?_⟩
  obtain ⟨-, hpolls⟩ := (Client.foundAbsent_iff hdelete).1 habsent
  exact hpolls _ List.mem_cons_self ⟨⟨404, .null⟩, rfl, rfl⟩

end StorageArray
