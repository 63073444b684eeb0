import Mathlib.Tactic.Common
import StorageArray.Proofs.Call
import StorageArray.Proofs.Job.Settlement
/-!
# Deferring a change makes no difference

An array may carry a change out at once, or hand over a job for it and carry it out later.
`arrays.Deferral t t'` says that the exchanges `t'` differ from `t` in nothing but this: some
changes of `t` are settled in another way in `t'`, with the same result.

`Operation.Transparent` is the property of operations that such a difference does not show: the
operation ends in the same result and sends the same requests, those for job records left out.
What only reads has it, a single change has it, and it passes from parts to wholes; so by
`Call.composed` every call has it, whatever its steps make of the results.
-/

namespace StorageArray

open Poll (FirstDecisive)

/-- The request reads the record of a job. -/
def Client.readsJob (c : Client) (request : Request) : Bool :=
  request.method = .get && (c.systemPath "job/").toList.isPrefixOf request.path.toList

namespace Arrays

variable (arrays : Arrays)

/-- The requests of a transcript in order, those that read job records left out. -/
def visible (t : Transcript) : List (Site × Request) :=
  t.sent.filter fun (site, request) => !(arrays.client site).readsJob request

/-- Some changes of the first transcript are settled in another way in the second one, with the
same result; all else is the same. -/
inductive Deferral : Transcript → Transcript → Prop
  /-- Nothing is left. -/
  | nil : Deferral [] []
  /-- The exchange is the same. -/
  | keep (e : Exchange) {t t' : Transcript} (rest : Deferral t t') : Deferral (e :: t) (e :: t')
  /-- The change is settled in two ways with one result. -/
  | change {site : Site} {request : Request} {s s' t t' : Transcript}
      {r : Except ArrayError Unit} (hm : request.method ≠ .get)
      (hs : (arrays.client site).Settles request s r)
      (hs' : (arrays.client site).Settles request s' r) (rest : Deferral t t') :
    Deferral (s ++ t) (s' ++ t')

variable {arrays} {site : Site} {request : Request} {subject : Subject}

lemma visible_append (t u : Transcript) :
    arrays.visible (t ++ u) = arrays.visible t ++ arrays.visible u := by
  simp only [visible, Transcript.sent, List.map_append, List.filter_append]

lemma readsJob_pollRequest (c : Client) (job : JobId) : c.readsJob (c.pollRequest job) = true := by
  simp [Client.readsJob, Client.pollRequest, Request.get, Client.systemPath, String.toList_append]

lemma readsJob_of_ne_get (c : Client) (hm : request.method ≠ .get) :
    c.readsJob request = false := by
  simp [Client.readsJob, hm]

lemma visible_polls (job : JobId) (answers : Nat → Answer) (n : Nat) :
    arrays.visible ((arrays.client site).polls job answers 0 n) = [] := by
  rw [visible, Client.sent_polls]
  refine List.filter_eq_nil_iff.2 fun x hx => ?_
  obtain ⟨-, rfl⟩ := List.mem_replicate.1 hx
  simp only [show (arrays.client site).site = site from rfl, readsJob_pollRequest]
  exact Bool.false_ne_true

end Arrays

namespace Arrays.Deferral

variable {arrays : Arrays}

/-- The exchanges that settle a change begin with its request. -/
lemma head_of_settles {c : Client} {request : Request} {t : Transcript}
    {r : Except ArrayError Unit} (h : c.Settles request t r) :
    ∃ answer rest, t = ⟨c.site, request, answer⟩ :: rest := by
  cases h with
  | atOnce hconfirms => exact ⟨_, _, rfl⟩
  | inHandle hdefers hended => exact ⟨_, _, rfl⟩
  | byPoll hdefers hgoesOn hfirst hdeadline hrecord => exact ⟨_, _, rfl⟩

lemma eq_nil {t' : Transcript} (h : arrays.Deferral [] t') : t' = [] := by
  generalize hw : [] = w at h
  cases h with
  | nil => rfl
  | keep e rest => cases hw
  | change hm hs hs' rest =>
      obtain ⟨answer, rest, rfl⟩ := head_of_settles hs
      cases hw

/-- Exchanges that read are the same on both sides. -/
lemma of_reads {t u t' : Transcript} (hreads : ∀ e ∈ t, e.request.method = .get)
    (h : arrays.Deferral (t ++ u) t') : ∃ u', t' = t ++ u' ∧ arrays.Deferral u u' := by
  induction t generalizing t' with
  | nil => exact ⟨t', rfl, h⟩
  | cons e t ih =>
      rw [List.cons_append] at h
      generalize hw : e :: (t ++ u) = w at h
      cases h with
      | nil => cases hw
      | keep e' rest =>
          obtain ⟨rfl, rfl⟩ := List.cons.inj hw
          obtain ⟨u', rfl, hrest⟩ := ih (fun x hx => hreads x (List.mem_cons_of_mem _ hx)) rest
          exact ⟨u', rfl, hrest⟩
      | @change site request s s' v v' r hm hs hs' rest =>
          -- A change would begin with a request that does not read.
          obtain ⟨answer, _, rfl⟩ := head_of_settles hs
          obtain ⟨rfl, -⟩ := List.cons.inj hw
          exact absurd (hreads _ List.mem_cons_self) hm

end Arrays.Deferral

/-! ### Operations that do not show the difference -/

namespace Operation

/-- Settling changes in another way shows neither in the result nor in the requests, those for
job records left out. -/
def Transparent {α : Type} (arrays : Arrays) (op : Operation α) : Prop :=
  ∀ ⦃t u t' : Transcript⦄ ⦃r : Except ArrayError α⦄,
    op.Yields t r → arrays.Deferral (t ++ u) t' →
      ∃ t₁ u', t' = t₁ ++ u' ∧ op.Yields t₁ r ∧ arrays.visible t₁ = arrays.visible t ∧
        arrays.Deferral u u'

namespace Transparent

variable {arrays : Arrays} {α β : Type} {site : Site} {request : Request} {subject : Subject}

lemma of_reads {op : Operation α}
    (hreads : ∀ {t r}, op.Yields t r → ∀ e ∈ t, e.request.method = .get) :
    Transparent arrays op := by
  intro t u t' r h hdeferral
  obtain ⟨u', rfl, hrest⟩ := hdeferral.of_reads (hreads h)
  exact ⟨t, u', rfl, h, rfl, hrest⟩

lemma bind {op : Operation α} {f : α → Operation β} (hop : Transparent arrays op)
    (hf : ∀ a, Transparent arrays (f a)) : Transparent arrays (op >>= f) := by
  intro t u t' r h hdeferral
  obtain ⟨t₁, t₂, a, rfl, h₁, h₂⟩ | ⟨e, herror, rfl⟩ := yields_bind.1 h
  · rw [List.append_assoc] at hdeferral
    obtain ⟨s₁, v, rfl, hs₁, hvisible₁, hrest⟩ := hop h₁ hdeferral
    obtain ⟨s₂, u', rfl, hs₂, hvisible₂, hrest⟩ := hf a h₂ hrest
    refine ⟨s₁ ++ s₂, u', by rw [List.append_assoc], ?_, ?_, hrest⟩
    · exact yields_bind.2 (.inl ⟨s₁, s₂, a, rfl, hs₁, hs₂⟩)
    · rw [Arrays.visible_append, Arrays.visible_append, hvisible₁, hvisible₂]
  · obtain ⟨s, u', rfl, hs, hvisible, hrest⟩ := hop herror hdeferral
    exact ⟨s, u', rfl, yields_bind.2 (.inr ⟨e, hs, rfl⟩), hvisible, hrest⟩

lemma settle {op : Operation α} (hop : Transparent arrays op) :
    Transparent arrays op.settle := by
  intro t u t' r h hdeferral
  obtain ⟨q, hq, rfl⟩ := yields_settle.1 h
  obtain ⟨s, u', rfl, hs, hvisible, hrest⟩ := hop hq hdeferral
  exact ⟨s, u', rfl, yields_settle.2 ⟨q, hs, rfl⟩, hvisible, hrest⟩

/-- However a change is settled, only its request is visible. -/
lemma visible_of_yields_execute (hm : request.method ≠ .get) {t : Transcript}
    {r : Except ArrayError Unit}
    (h : ((arrays.client site).execute request subject).Yields t r) :
    arrays.visible t = [(site, request)] := by
  obtain ⟨answer, job, answers, n, rfl⟩ := Client.shape_of_yields_execute h
  have hpolls : arrays.visible ((arrays.client site).polls job answers 0 n) = [] :=
    Arrays.visible_polls job answers n
  have hsite : (arrays.client site).site = site := rfl
  simp only [Arrays.visible, Transcript.sent, List.map_cons, hsite] at hpolls ⊢
  rw [List.filter_cons_of_pos (by simp [Arrays.readsJob_of_ne_get _ hm]), hpolls]

/-- A change that is settled in another way has the same result.  What follows it is not
affected: where a run of the change ends is seen from its answers. -/
lemma execute (hm : request.method ≠ .get) :
    Transparent arrays ((arrays.client site).execute request subject) := by
  intro t u t' r h hdeferral
  obtain ⟨answer, job, answers, n, ht⟩ := Client.shape_of_yields_execute h
  generalize hw : t ++ u = w at hdeferral
  cases hdeferral with
  | nil =>
      rw [ht] at hw
      cases hw
  -- The request is answered as before, and the polls after it only read.
  | @keep e v v' rest =>
      rw [ht, List.cons_append] at hw
      obtain ⟨rfl, rfl⟩ := List.cons.inj hw
      obtain ⟨u', rfl, hrest⟩ := rest.of_reads fun x hx => Client.method_of_mem_polls hx
      refine ⟨t, u', by rw [ht, List.cons_append], h, rfl, hrest⟩
  -- The exchanges that are replaced begin where the run begins, so they are the run.
  | @change site' request' s s' v v' r' hm' hs hs' rest =>
      obtain ⟨answer', rest', hs₀⟩ := Arrays.Deferral.head_of_settles hs
      have hhead := hw
      rw [ht, hs₀, List.cons_append, List.cons_append] at hhead
      obtain ⟨hhead, -⟩ := List.cons.inj hhead
      obtain ⟨hsite, rfl, -⟩ := Exchange.mk.inj hhead
      obtain rfl : site = site' := hsite
      obtain ⟨rfl, rfl⟩ := Program.Yields.eq_of_append_eq h (hs.yields_execute hm') hw
      have hyields : ((arrays.client site).execute request subject).Yields s' r :=
        hs'.yields_execute hm'
      refine ⟨s', v', rfl, hyields, ?_, ?_⟩
      · rw [visible_of_yields_execute hm hyields, visible_of_yields_execute hm h]
      · rw [List.append_cancel_left hw]
        exact rest

end Transparent

/-- What is put together from reads, waits and changes does not show how changes are settled. -/
lemma Composed.transparent {arrays : Arrays} {α : Type} {op : Operation α}
    (h : Composed arrays op) : Transparent arrays op := by
  induction h with
  | ofExcept result =>
      refine .of_reads fun h e he => ?_
      obtain ⟨rfl, -⟩ := yields_ofExcept.1 h
      cases he
  | @fetch site request subject hm _ =>
      refine .of_reads fun h e he => ?_
      obtain ⟨answer, rfl, -⟩ := Client.yields_fetch_iff.1 h
      obtain rfl := List.mem_singleton.1 he
      exact hm
  | @waitOnJob site job =>
      refine .of_reads fun h e he => ?_
      obtain ⟨answers, ⟨n, -, -, rfl, -⟩ | ⟨-, rfl, -⟩⟩ := Client.cases_of_yields_waitOnJob h
      · exact Client.method_of_mem_polls he
      · exact Client.method_of_mem_polls he
  | execute hm _ => exact .execute hm
  | bind _ _ hop hf => exact hop.bind hf
  | settle _ hop => exact hop.settle

end Operation

/-- **Deferral is transparent.**  Let a call run on one stage, and let some of the changes that it
makes there be settled in another way with the same result: at once, by a job that has ended in the
handle, or by one that a poll before the deadline sees ended.  On a stage with these answers the
call ends in the same result, and it sends the same requests in the same order, those for job
records left out.  In the runs every wait has a deadline, and polls take no time. -/
theorem perform_of_deferral {α : Type} (arrays : Arrays) (site partner : Site) (call : Call α)
    (s s' : Stage) (t' : Transcript) :
    let op := call.operation (arrays.client site) (arrays.client partner)
    arrays.Deferral (op.run.transcript Stage.answer s) t' → s'.Offers t' →
      (s'.perform op).1 = (s.perform op).1 ∧
        op.run.transcript Stage.answer s' = t' ∧
          arrays.visible (op.run.transcript Stage.answer s') =
            arrays.visible (op.run.transcript Stage.answer s) := by
  intro op hdeferral hoffers
  have hrun : op.Yields (op.run.transcript Stage.answer s) (s.perform op).1 :=
    Stage.yields_of_perform rfl rfl
  rw [← List.append_nil (op.run.transcript Stage.answer s)] at hdeferral
  obtain ⟨t₁, u', rfl, hyields, hvisible, hrest⟩ :=
    (call.composed arrays site partner).transparent hrun hdeferral
  -- The run has used up its transcript, so nothing of the other one is left.
  obtain rfl := hrest.eq_nil
  rw [List.append_nil] at hoffers ⊢
  obtain ⟨htranscript, hresult⟩ := Program.Yields.transcript_of_offers hyields hoffers
  exact ⟨hresult, htranscript, by rw [htranscript, hvisible]⟩

/-- A deletion that is carried out at once, and the same deletion by a job that goes on at a first
poll, has no answer at a second, and has ended at a third. -/
theorem perform_deleteIfExists_deferred :
    let arrays : Arrays := ⟨fun _ => ⟨"000197600123"⟩, fun _ => Settings.default⟩
    let op := (Call.deleteIfExists Host.resources "esx01").operation
      (arrays.client .home) (arrays.client .remote)
    let report (status : String) : Json :=
      .object [("jobId", .string "1554"), ("status", .string status)]
    let delete : Request := .delete "100/sloprovisioning/symmetrix/000197600123/host/esx01"
    let poll : Request := .get "100/system/job/1554"
    let t' : Transcript := [
      ⟨.home, delete, .ok ⟨202, report "CREATED"⟩⟩,
      ⟨.home, poll, .ok ⟨200, report "RUNNING"⟩⟩,
      ⟨.home, poll, .ok ⟨503, .null⟩⟩,
      ⟨.home, poll, .ok ⟨200, report "SUCCEEDED"⟩⟩]
    let s : Stage := { home := { queued := [.ok ⟨204, .null⟩] } }
    let s' : Stage := { home := { queued := t'.map (·.answer) } }
    arrays.Deferral (op.run.transcript Stage.answer s) t' ∧ s'.Offers t' ∧
      (s'.perform op).1 = .ok true ∧ arrays.visible t' = [(.home, delete)] := by
  intro arrays op report delete poll t' s s'
  let c := arrays.client .home
  let answers := Client.answersOf t'.tail
  have hsucceeded : c.pollResults ⟨"1554"⟩ answers 2 =
      .ok ⟨⟨"1554"⟩, none, .succeeded, none, none, none⟩ := rfl
  have hfirst : FirstDecisive c.settings.maxPollRetries (c.pollResults ⟨"1554"⟩ answers) 2 := by
    decide
  have hm : delete.method ≠ .get := by decide
  have hatOnce : c.Settles delete [⟨.home, delete, .ok ⟨204, .null⟩⟩] (.ok ()) :=
    .atOnce ⟨rfl, by decide, rfl⟩
  have hdefers : Response.Defers ⟨202, report "CREATED"⟩
      ⟨⟨"1554"⟩, none, .created, none, none, none⟩ :=
    ⟨rfl, rfl, rfl⟩
  have hbyPoll : c.Settles delete t' (.ok ()) := .byPoll hdefers rfl hfirst (by decide) hsucceeded
  have hdeferral : arrays.Deferral (op.run.transcript Stage.answer s) t' :=
    .change hm hatOnce hbyPoll .nil
  have hoffers : s'.Offers t' := by
    rintro (_ | _)
    · exact ⟨[], rfl⟩
    · exact ⟨[], rfl⟩
  obtain ⟨hresult, -, -⟩ :=
    perform_of_deferral arrays .home .remote (.deleteIfExists Host.resources "esx01") s s' t'
      hdeferral hoffers
  have hyields : (c.execute delete ⟨"host", "esx01"⟩).Yields t' (.ok ()) :=
    hbyPoll.yields_execute hm
  exact ⟨hdeferral, hoffers, hresult, Operation.Transparent.visible_of_yields_execute hm hyields⟩

end StorageArray
