import Mathlib.Tactic.Common
import StorageArray.Proofs.Resource.Creation
import StorageArray.Replication.Basic
/-!
# When an action has taken effect

An action on the replication of a group is one change.  When it fails with a benign text the
text alone is not believed: the state of the group is read once, and it has the last word.
`Client.yields_replicate_iff` says that the runs of an action are those of its change, followed by
such a reading after a benign failure and by nothing otherwise.

The state speaks for the action when there are pairs and each of them is in a state to which the
action leads.  One state of a pair is enough to tell two actions apart unless they lead to the same
states (`ReplicationAction.targetStates_eq_of_match`), so no state speaks for two actions that lead
to different ones.
-/

namespace StorageArray

/-! ### States and actions -/

namespace ReplicationState

/-- There are pairs, and each is in a state to which the action leads, up to the case of letters. -/
def Shows (s : ReplicationState) (action : ReplicationAction) : Prop :=
  s.states ≠ [] ∧ ∀ state ∈ s.states, ∃ target ∈ action.targetStates,
    state.toList.map Text.lowerAscii = target.toList.map Text.lowerAscii

lemma reflects_iff {s : ReplicationState} {action : ReplicationAction} :
    s.reflects action = true ↔ s.Shows action := by
  simp [reflects, Shows, Text.eqIgnoringAsciiCase]

end ReplicationState

namespace ReplicationAction

/-- Two actions that lead to a common state, up to the case of letters, lead to the same states. -/
lemma targetStates_eq_of_match {a b : ReplicationAction} {p q : String}
    (hp : p ∈ a.targetStates) (hq : q ∈ b.targetStates)
    (h : p.toList.map Text.lowerAscii = q.toList.map Text.lowerAscii) :
    a.targetStates = b.targetStates := by
  have hall : ∀ p ∈ a.targetStates, ∀ q ∈ b.targetStates,
      p.toList.map Text.lowerAscii = q.toList.map Text.lowerAscii →
        a.targetStates = b.targetStates := by
    cases a <;> cases b <;> decide
  exact hall p hp q hq h

/-- No state of a group speaks for two actions that lead to different states. -/
lemma targetStates_eq_of_shows {s : ReplicationState} {a b : ReplicationAction}
    (ha : s.Shows a) (hb : s.Shows b) : a.targetStates = b.targetStates := by
  obtain ⟨state, hstate⟩ := List.exists_mem_of_ne_nil _ ha.1
  obtain ⟨p, hp, hstatep⟩ := ha.2 state hstate
  obtain ⟨q, hq, hstateq⟩ := hb.2 state hstate
  exact targetStates_eq_of_match hp hq (hstatep.symm.trans hstateq)

/-- The answer carries a state of the group that speaks for the action. -/
def ConfirmedBy (action : ReplicationAction) (answer : Answer) : Prop :=
  ∃ state, answer.Carries ReplicationState.shape state ∧ state.Shows action

end ReplicationAction

/-! ### Runs of an action -/

namespace Client

variable (c : Client) (action : ReplicationAction) (group : String) (number : UInt32)
  (force star : Bool)

/-- The request that carries an action out. -/
def actionRequest : Request :=
  .put (c.replicationStatePath group number) (Replication.actionPayload action force star)

/-- The request that reads the state of a group. -/
def stateRequest : Request := .get (c.replicationStatePath group number)

/-- What the replication of a group is called in errors. -/
def replicationSubject (group : String) : Subject := ⟨"storage group replication", group⟩

/-- The exchanges in which the state of a group is read. -/
def stateReads (t : Transcript) : Transcript :=
  t.filter fun x => x.request.method = .get && x.request.path == c.replicationStatePath group number

/-- The change has failed, and the failure is benign. -/
def failsBenignly : Except ArrayError Unit → Bool
  | .ok _ => false
  | .error e => c.settings.benign.matchesError e

/-- What a state of the group makes of a change that has ended with `q`. -/
def stateVerdict (action : ReplicationAction) (q : Except ArrayError Unit)
    (state : ReplicationState) : Except ArrayError Unit :=
  if state.reflects action then .ok () else q

variable {c action group number force star} {t : Transcript} {r q : Except ArrayError Unit}

/-- A failure is overruled exactly by a state that speaks for the action. -/
lemma stateVerdict_eq_ok_iff {e : ArrayError} {state : ReplicationState} :
    stateVerdict action (.error e) state = .ok () ↔ state.Shows action := by
  rw [← ReplicationState.reflects_iff, stateVerdict]
  cases state.reflects action <;> simp

lemma stateVerdict_of_not_shows {state : ReplicationState} (h : ¬ state.Shows action) :
    stateVerdict action q state = q :=
  if_neg fun hreflects => h (ReplicationState.reflects_iff.1 hreflects)

/-- The result of an action after a benign failure that is checked against this answer. -/
def checked (c : Client) (action : ReplicationAction) (group : String) (number : UInt32)
    (q : Except ArrayError Unit) (answer : Answer) : Except ArrayError Unit :=
  ((c.getReplicationState group number).on answer).bind (stateVerdict action q)

/-- After a benign failure the state is read once; otherwise nothing more is sent. -/
lemma yields_replicate_iff :
    (c.replicate action group number force star).Yields t r ↔
      ∃ change later q, t = change ++ later ∧
        (c.execute (c.actionRequest action group number force star)
          (replicationSubject group)).Yields change q ∧
        if c.failsBenignly q = true then
          ∃ answer, later = [⟨c.site, c.stateRequest group number, answer⟩] ∧
            r = c.checked action group number q answer
        else later = [] ∧ r = q := by
  unfold replicate
  rw [Operation.yields_settle_bind]
  refine exists_congr fun change => exists_congr fun later => exists_congr fun q => ?_
  refine and_congr_right fun _ => and_congr_right fun _ => ?_
  cases q with
  | ok a => simp [failsBenignly]
  | error e =>
      cases hbenign : c.settings.benign.matchesError e with
      | false => simp [failsBenignly, hbenign]
      | true =>
          simp only [failsBenignly, hbenign, if_true]
          refine Operation.yields_bind_of_answer yields_read_on_iff fun state => ?_
          unfold stateVerdict
          split_ifs <;> rfl

lemma checked_of_carries {answer : Answer} {state : ReplicationState}
    (h : answer.Carries ReplicationState.shape state) :
    c.checked action group number q answer = stateVerdict action q state := by
  have hon : (c.getReplicationState group number).on answer = .ok state :=
    (on_read_eq_ok_iff rfl).2 h
  rw [checked, hon]
  rfl

/-- A state that cannot be read leaves the error of the reading. -/
lemma checked_of_not_carries {answer : Answer}
    (h : ∀ state, ¬ answer.Carries ReplicationState.shape state) :
    ∃ e, (c.getReplicationState group number).on answer = .error e ∧
      c.checked action group number q answer = .error e := by
  unfold checked
  cases hon : (c.getReplicationState group number).on answer with
  | error e => exact ⟨e, rfl, rfl⟩
  | ok state => exact absurd ((on_read_eq_ok_iff rfl).1 hon) (h state)

/-- A failure is overruled exactly by an answer that confirms the action. -/
lemma checked_eq_ok_iff {answer : Answer} {e : ArrayError} :
    c.checked action group number (.error e) answer = .ok () ↔ action.ConfirmedBy answer := by
  have hconfirmed : action.ConfirmedBy answer ↔
      ∃ state, (c.getReplicationState group number).on answer = .ok state ∧ state.Shows action :=
    exists_congr fun state => and_congr_left fun _ => (on_read_eq_ok_iff rfl).symm
  rw [hconfirmed, checked]
  cases (c.getReplicationState group number).on answer with
  | error e' => simp [Except.bind]
  | ok state => simp [Except.bind, stateVerdict_eq_ok_iff]

/-! ### Which exchanges read the state -/

lemma stateReads_append (t u : Transcript) :
    c.stateReads group number (t ++ u) =
      c.stateReads group number t ++ c.stateReads group number u :=
  List.filter_append _ _

lemma stateReads_stateRequest {answer : Answer} :
    c.stateReads group number [⟨c.site, c.stateRequest group number, answer⟩] =
      [⟨c.site, c.stateRequest group number, answer⟩] := by
  simp [stateReads, stateRequest, Request.get]

/-- The change of an action does not read the state: its polls are about the job. -/
lemma stateReads_of_yields_execute
    (h : (c.execute (c.actionRequest action group number force star)
      (replicationSubject group)).Yields t q) : c.stateReads group number t = [] := by
  refine List.filter_eq_nil_iff.2 fun x hx => ?_
  obtain ⟨-, hrequest | ⟨job, hrequest⟩⟩ := mem_of_yields_execute h hx
  · simp [hrequest, actionRequest, Request.put]
  · have hpath : (c.pollRequest job).path ≠ c.replicationStatePath group number := by
      rw [replicationStatePath, groupReplicationPath, replicationPath_append,
        replicationPath_append]
      exact systemPath_ne_replicationPath
    simp [hrequest, hpath]

end Client

open Client (replicationSubject) in
/-- **An action succeeds only when it is confirmed.**  Its change is carried out, or it fails with a
benign text and the state of the group, which is read after it, speaks for the action.  The state is
read once after a benign failure and not at all otherwise; a failure that is not overruled is
returned as it was, and a state that cannot be read leaves the error of the reading.  No state
speaks for two actions that lead to different states.  In the runs every wait has a deadline, and
polls take no time. -/
theorem replicate_confirmed (c : Client) (action : ReplicationAction) (group : String)
    (number : UInt32) (force star : Bool) {t : Transcript} {r : Except ArrayError Unit}
    (hrun : (c.replicate action group number force star).Yields t r) :
    (∃ change q,
      (c.execute (c.actionRequest action group number force star)
        (replicationSubject group)).Yields change q ∧
      t = change ++ c.stateReads group number t ∧
      (c.stateReads group number t).length = (if c.failsBenignly q = true then 1 else 0) ∧
      (r = .ok () ↔
        c.Settles (c.actionRequest action group number force star) change (.ok ()) ∨
          c.failsBenignly q = true ∧
            ∃ x ∈ c.stateReads group number t, action.ConfirmedBy x.answer) ∧
      (∀ e, q = .error e →
        (∀ x ∈ c.stateReads group number t, ∃ state,
          x.answer.Carries ReplicationState.shape state ∧ ¬ state.Shows action) →
        r = .error e) ∧
      ∀ x ∈ c.stateReads group number t,
        (∀ state, ¬ x.answer.Carries ReplicationState.shape state) →
          ∃ e, (c.getReplicationState group number).on x.answer = .error e ∧ r = .error e) ∧
      ∀ (state : ReplicationState) (a b : ReplicationAction),
        state.reflects a = true → state.reflects b = true →
          ∀ target, target ∈ a.targetStates ↔ target ∈ b.targetStates := by
  refine ⟨?_, fun state a b ha hb target => ?_⟩
  · obtain ⟨change, later, q, rfl, hchange, hlater⟩ := Client.yields_replicate_iff.1 hrun
    have hsettles : q = .ok () ↔
        c.Settles (c.actionRequest action group number force star) change (.ok ()) := by
      refine ⟨?_, fun h => hchange.unique (h.yields_execute Method.put_ne_get)⟩
      rintro rfl
      exact (Client.yields_execute_ok_iff Method.put_ne_get).1 hchange
    refine ⟨change, q, hchange, ?_⟩
    rw [Client.stateReads_append, Client.stateReads_of_yields_execute hchange, List.nil_append,
      ← hsettles]
    cases hbenign : c.failsBenignly q with
    | false =>
        simp only [hbenign, Bool.false_eq_true, if_false] at hlater
        obtain ⟨rfl, rfl⟩ := hlater
        simp [Client.stateReads]
    | true =>
        simp only [hbenign, if_true] at hlater
        obtain ⟨answer, rfl, rfl⟩ := hlater
        rw [Client.stateReads_stateRequest]
        cases q with
        | ok a => cases hbenign
        | error e =>
            refine ⟨rfl, rfl, ?_, ?_, ?_⟩
            · simp [Client.checked_eq_ok_iff]
            · rintro e' he hcontradicted
              obtain ⟨state, hstate, hnot⟩ := hcontradicted _ List.mem_cons_self
              rw [Client.checked_of_carries hstate, Client.stateVerdict_of_not_shows hnot, he]
            · rintro x hx hunread
              obtain rfl := List.mem_singleton.1 hx
              exact Client.checked_of_not_carries hunread
  · rw [ReplicationAction.targetStates_eq_of_shows (ReplicationState.reflects_iff.1 ha)
      (ReplicationState.reflects_iff.1 hb)]

/-- A group that is suspended already, in letters of another case: the refusal is benign, and the
state overrules it. -/
theorem replicate_confirmed_by_state :
    let c : Client := ⟨.home, ⟨"000197600123"⟩, .default⟩
    let refusal : Json := .object [("message", .string "The group is already suspended")]
    let state : Json := .object [("rdfGroupNumber", .nat 7), ("states", .strings ["SUSPENDED"]),
      ("storageGroupName", .string "SG1")]
    let t : Transcript := [
      ⟨.home, c.actionRequest .suspend "SG1" 7 false false, .ok ⟨500, refusal⟩⟩,
      ⟨.home, c.stateRequest "SG1" 7, .ok ⟨200, state⟩⟩]
    (c.replicate .suspend "SG1" 7 false false).Yields t (.ok ()) ∧
      ∃ x ∈ c.stateReads "SG1" 7 t, ReplicationAction.suspend.ConfirmedBy x.answer := by
  intro c refusal state t
  let text := "The group is already suspended"
  have hbenign : c.settings.benign.matchesError (.rejected 500 text) = true := by decide +kernel
  have hexists : ¬ Reply.SaysExists text := by
    rw [← Reply.saysExists_iff]
    decide +kernel
  have hexecute : (c.execute (c.actionRequest .suspend "SG1" 7 false false)
      (Client.replicationSubject "SG1")).Yields [t[0]] (.error (.rejected 500 text)) := by
    have hrefused : Response.isSuccess ⟨500, refusal⟩ = false := rfl
    have hrefusal : Reply.refusal (Client.replicationSubject "SG1") ⟨500, refusal⟩ =
        .rejected 500 text := Reply.refusal_of_rejected (by decide) (by decide) hexists
    refine Client.yields_execute_of_refused ?_
    rw [Reply.ofAnswer, Reply.classify_of_not_isSuccess hrefused, hrefusal]
  let record : ReplicationState := ⟨"SG1", none, 7, ["SUSPENDED"], []⟩
  have hshows : record.Shows .suspend := by
    rw [← ReplicationState.reflects_iff]
    decide
  have hconfirmed : ReplicationAction.suspend.ConfirmedBy (.ok ⟨200, state⟩) :=
    ⟨record, ⟨⟨200, state⟩, rfl, rfl, rfl⟩, hshows⟩
  have hrun : (c.replicate .suspend "SG1" 7 false false).Yields t (.ok ()) := by
    refine Client.yields_replicate_iff.2 ⟨_, _, _, rfl, hexecute, ?_⟩
    have hfails : c.failsBenignly (.error (.rejected 500 text)) = true := hbenign
    rw [if_pos hfails]
    exact ⟨_, rfl, (Client.checked_eq_ok_iff.2 hconfirmed).symm⟩
  refine ⟨hrun, ?_⟩
  obtain ⟨change, q, hchange, ht, -, hok, -⟩ :=
    (replicate_confirmed c .suspend "SG1" 7 false false hrun).1
  rcases hok.1 rfl with hsettles | ⟨-, hread⟩
  · -- The refused change is all of the run but the reading of the state.
    have hreads : c.stateReads "SG1" 7 t = [t[1]] := rfl
    rw [hreads] at ht
    have hparts : [t[0]] ++ [t[1]] = change ++ [t[1]] := ht
    obtain rfl := List.append_cancel_right hparts
    have hyields : (c.execute (c.actionRequest .suspend "SG1" 7 false false)
        (Client.replicationSubject "SG1")).Yields [t[0]] (.ok ()) :=
      hsettles.yields_execute Method.put_ne_get
    cases hyields.unique hexecute
  · exact hread

end StorageArray
