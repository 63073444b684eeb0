import Mathlib.Tactic.Common
import StorageArray.Proofs.Volume.Teardown
/-!
# When tracks are released

A teardown releases the tracks of a volume when the removal from each group has succeeded, or
its error says that something is missing, for then the group is taken to be gone.  But the
missing thing need not be the group.  A removal that is deferred is followed by polls, and when
a poll is answered with the status 404, what is missing is the record of the job; of the
removal nothing is known.

`Client.Confirmed` says that the array itself has confirmed a removal.  For a removal that
counts as done this is the case exactly when no poll of its job was answered with the status
404 (`Client.confirmed_iff`), so this is also what decides whether all removals are confirmed
when the tracks of a volume are released.
-/

namespace StorageArray

namespace Client

variable {c : Client} {id : VolumeId}

/-- The request that removes a volume from a group. -/
def removalRequest (c : Client) (group : String) (id : VolumeId) : Request :=
  .put (c.storageGroupPath group) (Volume.removalPayload [id] none)

/-- The request that releases the tracks of a volume. -/
def releaseRequest (c : Client) (id : VolumeId) : Request :=
  .put (c.volumePath id) Volume.deallocationPayload

/-- The array has confirmed the removal: at once, or by the record of its job, or by answering
that there is no such group. -/
def Confirmed (c : Client) (id : VolumeId) (x : GroupRemoval) : Prop :=
  c.Settles (c.removalRequest x.group id) x.exchanges (.ok ()) ∨
    ∃ answer : Answer, answer.IsMissing ∧
      x.exchanges = [⟨c.site, c.removalRequest x.group id, answer⟩]

/-- A change that is settled does not end with something missing. -/
lemma Settles.ok_of_doneOrGone {request : Request} {t : Transcript} {r : Except ArrayError Unit}
    (h : c.Settles request t r) (hdone : doneOrGone r = true) : r = .ok () := by
  cases r with
  | ok a => rfl
  | error e =>
      obtain ⟨job, text, rfl⟩ := h.exists_jobFailed
      cases hdone

/-- A removal that counts as done is confirmed unless a poll of its job was answered with the
status 404. -/
lemma confirmed_iff {x : GroupRemoval}
    (hrun : (c.removeFromGroup x.group id).Yields x.exchanges x.result)
    (hdone : doneOrGone x.result = true) :
    c.Confirmed id x ↔ ∀ poll ∈ x.exchanges.tail, ¬ poll.answer.IsMissing := by
  constructor
  · rintro (hsettles | ⟨answer, -, heq⟩) poll hpoll
    · exact hsettles.not_isMissing poll (List.mem_of_mem_tail hpoll)
    · rw [heq] at hpoll
      cases hpoll
  · intro hpolls
    have hm : (c.removalRequest x.group id).method ≠ .get := Method.put_ne_get
    rcases cases_of_yields_execute hm hrun with hsettles | ⟨e, hresult, hunsettled⟩
    · rw [hsettles.ok_of_doneOrGone hdone] at hsettles
      exact .inl hsettles
    · rw [hresult, doneOrGone, hunsettled.isNotFound_iff] at hdone
      obtain ⟨y, hy, hmissing⟩ := hdone
      exact .inr ⟨y.answer, hmissing, eq_singleton_of_polls hm hrun hy hmissing hpolls⟩

/-! ### The release in the run of a teardown -/

/-- No other request of a teardown is that for the release of the tracks. -/
lemma ne_releaseRequest_of_execute {request : Request} {subject : Subject}
    (hne : request ≠ c.releaseRequest id) {t : Transcript} {r : Except ArrayError Unit}
    (h : (c.execute request subject).Yields t r) {e : Exchange} (he : e ∈ t) :
    e.request ≠ c.releaseRequest id := by
  rcases request_of_mem_execute h he with hrequest | hget
  · rwa [hrequest]
  · intro heq
    rw [heq] at hget
    cases hget

lemma ne_releaseRequest_of_marking {volume : Volume} {t : Transcript}
    {r : Except ArrayError (List ArrayError)} (h : (c.markForDeletion volume id).Yields t r)
    {e : Exchange} (he : e ∈ t) : e.request ≠ c.releaseRequest id := by
  rw [yields_markForDeletion_iff] at h
  split at h
  · rw [h.1] at he
    cases he
  · obtain ⟨q, h, -⟩ := h
    rw [renameVolume, Operation.yields_bind] at h
    obtain ⟨t₁, t₂, _, rfl, h₁, h₂⟩ | ⟨e, h, -⟩ := h
    · obtain ⟨rfl, -⟩ := Operation.yields_ofExcept.1 h₁
      have hne : Request.put (c.volumePath id) (Volume.renamePayload (deletionMarker id)) ≠
          c.releaseRequest id := by
        simp [Request.put, releaseRequest, Volume.renamePayload, Volume.deallocationPayload,
          Volume.volumeEdit]
      exact ne_releaseRequest_of_execute hne h₂ he
    · obtain ⟨rfl, -⟩ := Operation.yields_ofExcept.1 h
      cases he

lemma ne_releaseRequest_of_removal {group : String} {t : Transcript}
    {r : Except ArrayError Unit} (h : (c.removeFromGroup group id).Yields t r) {e : Exchange}
    (he : e ∈ t) : e.request ≠ c.releaseRequest id := by
  have hne : c.removalRequest group id ≠ c.releaseRequest id := by
    simp [Request.put, removalRequest, releaseRequest, Volume.removalPayload,
      Volume.deallocationPayload, Volume.groupEdit, Volume.volumeEdit]
  exact ne_releaseRequest_of_execute hne h he

/-- The last two steps begin with the release of the tracks. -/
lemma head_of_yields_releaseAndDelete {t : Transcript}
    {r : Except ArrayError (Bool × List ArrayError)} (h : (c.releaseAndDelete id).Yields t r) :
    ∃ answer rest, t = ⟨c.site, c.releaseRequest id, answer⟩ :: rest := by
  have hhead {t : Transcript} {r : Except ArrayError Unit}
      (h : (c.deallocateVolume id).Yields t r) :
      ∃ answer rest, t = ⟨c.site, c.releaseRequest id, answer⟩ :: rest := by
    obtain ⟨q, h, -⟩ := yields_executeTolerant_iff.1 h
    obtain ⟨answer, job, answers, n, rfl⟩ := shape_of_yields_execute h
    exact ⟨answer, _, rfl⟩
  obtain ⟨e, h, -⟩ | ⟨t₁, t₂, q, rfl, h₁, -, -⟩ := yields_releaseAndDelete_iff.1 h
  · exact hhead h
  · obtain ⟨answer, rest, rfl⟩ := hhead h₁
    exact ⟨answer, rest ++ t₂, rfl⟩

end Client

/-- **The release of the tracks.**  When a teardown sends the request that releases the tracks of
the volume, it has fetched the volume and made a removal for each group that the volume was reported
to be in, and a removal is confirmed by the array exactly when no poll of its job was answered with
the status 404.  In the runs every wait has a deadline, and polls take no time. -/
theorem release_after_removals (c : Client) (id : VolumeId) {t : Transcript}
    {r : Except ArrayError Unit} (hrun : (c.teardownVolume id).Yields t r)
    (hrelease : ∃ e ∈ t, e.request = c.releaseRequest id) :
    ∃ (answer : Answer) (volume : Volume) (marking : Transcript) (removals : List GroupRemoval)
        (release : Exchange) (rest : Transcript),
      t = ⟨c.site, .get (c.volumePath id), answer⟩ :: marking ++
        removals.flatMap (·.exchanges) ++ release :: rest ∧
      (c.getVolume id).on answer = .ok volume ∧
      (∀ e ∈ marking ++ removals.flatMap (·.exchanges),
        e.request ≠ c.releaseRequest id) ∧
      release.request = c.releaseRequest id ∧
      removals.map (·.group) = volume.storageGroups ∧
      ∀ x ∈ removals,
        (c.removeFromGroup x.group id).Yields x.exchanges x.result ∧
          (c.Confirmed id x ↔ ∀ poll ∈ x.exchanges.tail, ¬ poll.answer.IsMissing) := by
  have hread {t : Transcript} {q : Except ArrayError Volume} (h : (c.getVolume id).Yields t q) :
      ∃ answer, t = [⟨c.site, .get (c.volumePath id), answer⟩] ∧
        (c.getVolume id).on answer = q := by
    obtain ⟨answer, rfl, rfl⟩ := Client.yields_read_iff.1 h
    exact ⟨answer, rfl, Client.on_read answer⟩
  have hget {answer : Answer} :
      (⟨c.site, .get (c.volumePath id), answer⟩ : Exchange).request ≠ c.releaseRequest id :=
    fun heq => Method.put_ne_get (congrArg Request.method heq).symm
  obtain ⟨release, hmem, hrequest⟩ := hrelease
  obtain ⟨e, hfetch, -⟩ | ⟨t₁, t₂, t₃, t₄, volume, marking, detaching, fate, rfl, hfetch, hmark,
    hdetach, hfinish, -⟩ := Client.yields_teardownVolume_iff.1 hrun
  · obtain ⟨answer, rfl, -⟩ := hread hfetch
    obtain rfl := List.mem_singleton.1 hmem
    exact absurd hrequest hget
  obtain ⟨answer, rfl, hvolume⟩ := hread hfetch
  obtain ⟨removals, hgroups, hruns, rfl, hdetaching⟩ := Client.yields_detachFrom_iff.1 hdetach
  cases hdetaching
  have hbefore : ∀ e ∈ t₂ ++ removals.flatMap (·.exchanges), e.request ≠ c.releaseRequest id := by
    intro e he
    rcases List.mem_append.1 he with he | he
    · exact Client.ne_releaseRequest_of_marking hmark he
    · obtain ⟨x, hx, he⟩ := List.mem_flatMap.1 he
      exact Client.ne_releaseRequest_of_removal (hruns x hx) he
  unfold Client.finishTeardown at hfinish
  split at hfinish
  · rename_i hdetached
    obtain ⟨answer', rest, rfl⟩ := Client.head_of_yields_releaseAndDelete hfinish
    refine ⟨answer, volume, t₂, removals, ⟨c.site, c.releaseRequest id, answer'⟩, rest, by simp,
      hvolume, hbefore, rfl, hgroups, fun x hx => ⟨hruns x hx, ?_⟩⟩
    rw [List.isEmpty_iff, List.flatMap_eq_nil_iff] at hdetached
    exact Client.confirmed_iff (hruns x hx) (GroupRemoval.errors_eq_nil_iff.1 (hdetached x hx))
  · obtain ⟨rfl, -⟩ := Operation.yields_pure.1 hfinish
    rw [List.append_nil, List.mem_append, List.mem_singleton] at hmem
    rcases hmem with rfl | hmem
    · exact absurd hrequest hget
    · exact absurd hrequest (hbefore release hmem)

/-- A volume in two groups, of which one is gone when its removal is sent. -/
theorem release_after_two_removals :
    let c : Client := ⟨.home, ⟨"000197600123"⟩, .default⟩
    let id : VolumeId := ⟨"0012A"⟩
    let volume : Json := .object [("storageGroupId", .array [.string "SG1", .string "SG2"]),
      ("volumeId", .string "0012A")]
    let t : Transcript := [
      ⟨.home, .get (c.volumePath id), .ok ⟨200, volume⟩⟩,
      ⟨.home, .put (c.volumePath id) (Volume.renamePayload "_DEL0012A"), .ok ⟨200, .null⟩⟩,
      ⟨.home, c.removalRequest "SG1" id, .ok ⟨404, .null⟩⟩,
      ⟨.home, c.removalRequest "SG2" id, .ok ⟨200, .null⟩⟩,
      ⟨.home, c.releaseRequest id, .ok ⟨200, .null⟩⟩,
      ⟨.home, .delete (c.volumePath id), .ok ⟨204, .null⟩⟩]
    (c.teardownVolume id).Yields t (.ok ()) ∧ (∃ e ∈ t, e.request = c.releaseRequest id) ∧
      ∃ removals : List GroupRemoval, removals.map (·.group) = ["SG1", "SG2"] ∧
        ∀ x ∈ removals, c.Confirmed id x := by
  intro c id volume t
  let s : Stage := { home := { queued := t.map (·.answer) } }
  have htranscript : (c.teardownVolume id).run.transcript Stage.answer s = t := by
    unfold c id
    rfl
  have hresult : (s.perform (c.teardownVolume id)).1 = .ok () := by
    unfold c id
    rfl
  have hrun : (c.teardownVolume id).Yields t (.ok ()) :=
    Stage.yields_of_perform htranscript hresult
  have hrelease : ∃ e ∈ t, e.request = c.releaseRequest id :=
    ⟨⟨.home, c.releaseRequest id, .ok ⟨200, .null⟩⟩, by simp [t], rfl⟩
  refine ⟨hrun, hrelease, ?_⟩
  obtain ⟨answer, fetched, marking, removals, release, rest, ht, hfetched, -, -, hgroups, hall⟩ :=
    release_after_removals c id hrun hrelease
  have hanswer : answer = .ok ⟨200, volume⟩ := by
    simp only [t, List.cons_append, List.cons.injEq, Exchange.mk.injEq] at ht
    exact ht.1.2.2.symm
  subst hanswer
  have hgroups' : fetched.storageGroups = ["SG1", "SG2"] := by
    have hvolume : ((c.getVolume id).on (.ok ⟨200, volume⟩)).map (·.storageGroups) =
        .ok ["SG1", "SG2"] := rfl
    rw [hfetched] at hvolume
    exact Except.ok.inj hvolume
  refine ⟨removals, hgroups.trans hgroups', fun x hx => (hall x hx).2.2 fun poll hpoll => ?_⟩
  -- The only answer with the status 404 is that to a removal, not that to a poll.
  have hget : poll.request.method = .get := by
    obtain ⟨_, _, _, _, hshape⟩ := Client.shape_of_yields_execute (hall x hx).1
    rw [hshape] at hpoll
    exact Client.method_of_mem_polls hpoll
  have hmem : poll ∈ t := by
    have hflat : poll ∈ removals.flatMap (·.exchanges) :=
      List.mem_flatMap.2 ⟨x, hx, List.mem_of_mem_tail hpoll⟩
    rw [ht]
    exact List.mem_append_left _ (List.mem_append_right _ hflat)
  have hmethods : ∀ e ∈ t, e.request.method = .get → e.answer = .ok ⟨200, volume⟩ := by
    simp [t, Request.get, Request.put, Request.delete, Client.removalRequest,
      Client.releaseRequest]
  rintro ⟨response, hanswer, h404⟩
  rw [hmethods poll hmem hget] at hanswer
  cases hanswer
  cases h404

/-- A volume whose removal from a group is deferred to a job.  The record of the job is gone when
it is polled; the tracks are released, and the array has not confirmed the removal. -/
theorem release_without_confirmation :
    let c : Client := ⟨.home, ⟨"000197600123"⟩, .default⟩
    let id : VolumeId := ⟨"0012A"⟩
    let volume : Json := .object [("storageGroupId", .array [.string "SG1"]),
      ("volumeId", .string "0012A")]
    let handle : Json := .object [("jobId", .string "7"), ("status", .string "RUNNING")]
    let removal : GroupRemoval := ⟨"SG1", [
      ⟨.home, c.removalRequest "SG1" id, .ok ⟨202, handle⟩⟩,
      ⟨.home, c.pollRequest ⟨"7"⟩, .ok ⟨404, .null⟩⟩], .error (.notFound "job" "7")⟩
    let t : Transcript := [
      ⟨.home, .get (c.volumePath id), .ok ⟨200, volume⟩⟩,
      ⟨.home, .put (c.volumePath id) (Volume.renamePayload "_DEL0012A"), .ok ⟨200, .null⟩⟩] ++
      removal.exchanges ++ [
      ⟨.home, c.releaseRequest id, .ok ⟨200, .null⟩⟩,
      ⟨.home, .delete (c.volumePath id), .ok ⟨204, .null⟩⟩]
    let s : Stage := { home := { queued := t.map (·.answer) } }
    (c.teardownVolume id).run.transcript Stage.answer s = t ∧
      (s.perform (c.teardownVolume id)).1 = .ok () ∧
      ((c.getVolume id).on (.ok ⟨200, volume⟩)).map (·.storageGroups) = .ok [removal.group] ∧
      (c.removeFromGroup removal.group id).Yields removal.exchanges removal.result ∧
      ¬ c.Confirmed id removal := by
  intro c id volume handle removal t s
  let answers : Nat → Answer := fun _ => .ok ⟨404, .null⟩
  have hgone : (answers 0).IsMissing := ⟨⟨404, .null⟩, rfl, rfl⟩
  have hpoll : c.pollResults ⟨"7"⟩ answers 0 = .error (.notFound "job" "7") :=
    Client.pollResults_of_isMissing hgone
  have hwait : (c.waitOnJob ⟨"7"⟩).Yields (c.polls ⟨"7"⟩ answers 0 1)
      (.error (.notFound "job" "7")) := by
    have hfirst : Poll.FirstDecisive c.settings.maxPollRetries (c.pollResults ⟨"7"⟩ answers) 0 :=
      ⟨Client.decisive_of_isMissing hgone, fun j hj => absurd hj (Nat.not_lt_zero j)⟩
    have houtcome := Client.yields_waitOnJob_of_firstDecisive hfirst (Nat.zero_le _)
    rwa [hpoll] at houtcome
  have hremoval : (c.removeFromGroup removal.group id).Yields removal.exchanges removal.result :=
    Client.yields_execute_iff.2 ⟨_, _, rfl, _, hwait, rfl⟩
  have hunconfirmed : ¬ c.Confirmed id removal := by
    rw [Client.confirmed_iff hremoval rfl]
    intro hall
    exact hall ⟨.home, c.pollRequest ⟨"7"⟩, .ok ⟨404, .null⟩⟩ List.mem_cons_self hgone
  let v : Volume := ⟨id, none, .ofNat 0, [removal.group], false, false, [], none⟩
  have hfetch : (c.getVolume id).Yields [⟨.home, .get (c.volumePath id), .ok ⟨200, volume⟩⟩]
      (.ok v) :=
    Client.yields_read_iff.2 ⟨_, rfl, rfl⟩
  have hmark : (c.markForDeletion v id).Yields
      [⟨.home, .put (c.volumePath id) (Volume.renamePayload "_DEL0012A"), .ok ⟨200, .null⟩⟩]
      (.ok []) := by
    let s : Stage := { home := { queued := [.ok ⟨200, .null⟩] } }
    unfold v c id
    exact Stage.yields_of_perform (s := s) rfl rfl
  have hfinish : (c.finishTeardown id true).Yields
      [⟨.home, c.releaseRequest id, .ok ⟨200, .null⟩⟩,
        ⟨.home, .delete (c.volumePath id), .ok ⟨204, .null⟩⟩] (.ok (true, [])) := by
    let s : Stage := { home := { queued := [.ok ⟨200, .null⟩, .ok ⟨204, .null⟩] } }
    unfold c id
    exact Stage.yields_of_perform (s := s) rfl rfl
  have hdetach : (c.detachFrom id v.storageGroups).Yields removal.exchanges (.ok []) := by
    refine Client.yields_detachFrom_iff.2 ⟨[removal], rfl, ?_, rfl, rfl⟩
    intro x hx
    obtain rfl := List.mem_singleton.1 hx
    exact hremoval
  have hrun : (c.teardownVolume id).Yields t (.ok ()) :=
    Client.yields_teardownVolume_iff.2
      (.inr ⟨_, _, _, _, v, [], [], (true, []), rfl, hfetch, hmark, hdetach, hfinish, rfl⟩)
  have hoffers : s.Offers t := by
    rintro (_ | _)
    · exact ⟨[], rfl⟩
    · exact ⟨[], rfl⟩
  obtain ⟨htranscript, hresult⟩ := Program.Yields.transcript_of_offers hrun hoffers
  exact ⟨htranscript, hresult, rfl, hremoval, hunconfirmed⟩

end StorageArray
