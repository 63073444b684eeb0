import Mathlib.Tactic.Common
import StorageArray.Proofs.Replication.Teardown
/-!
# What the report on a pair says about its volumes

When the teardown of a pair fails after the pair is broken, its report says of each volume whether
it was deleted.  The array has shown that a volume is gone when it has confirmed the deletion, or
when it has answered the fetch or the deletion itself with the status 404.

A volume is reported as deleted exactly when its deletion was confirmed
(`Client.deletedBy_iff_confirmsDeletion`).  So the report of a deletion is always right, and a
volume that is reported as kept is gone all the same exactly when the array found it absent.
-/

namespace StorageArray

/-! ### Errors of single requests -/

/-- The error of an answer is no report on a teardown. -/
lemma Answer.Fails.ne_teardown {subject : Subject} {answer : Answer} {e : ArrayError}
    (h : answer.Fails subject e) (resource : String) (deleted : Bool) (errors : List ArrayError) :
    e ≠ .teardown resource deleted errors := by
  cases h with
  | lost e => simp
  | refused hrefused =>
      simp only [Reply.refusal]
      split_ifs
      · simp
      · simp
      · simp
  | unreadable hsuccess context detail => simp

namespace Client

variable {c : Client}

/-- The error of a change is no report on a teardown. -/
lemma ne_teardown_of_execute {request : Request} {subject : Subject} (hm : request.method ≠ .get)
    {t : Transcript} {e : ArrayError} (h : (c.execute request subject).Yields t (.error e))
    (resource : String) (deleted : Bool) (errors : List ArrayError) :
    e ≠ .teardown resource deleted errors := by
  rcases cases_of_yields_execute hm h with hsettles | ⟨e', he, hunsettled⟩
  · obtain ⟨job, text, rfl⟩ := hsettles.exists_jobFailed
    exact nofun
  · obtain rfl := Except.error.inj he
    obtain ⟨about, x, -, hfails⟩ | ⟨job, rfl⟩ := hunsettled.fails
    · exact hfails.ne_teardown resource deleted errors
    · exact nofun

end Client

/-! ### The exchanges of the deletion -/

namespace Transcript

variable {t u : Transcript}

/-- The exchanges from the deletion on. -/
def fromDeletion (t : Transcript) : Transcript := t.dropWhile fun x => x.request.method ≠ .delete

lemma fromDeletion_append (h : ∀ x ∈ t, x.request.method ≠ .delete) :
    (t ++ u).fromDeletion = u.fromDeletion :=
  List.dropWhile_append_of_pos fun x hx => decide_eq_true (h x hx)

lemma fromDeletion_cons_of_ne {x : Exchange} (h : x.request.method ≠ .delete) :
    fromDeletion (x :: t) = fromDeletion t :=
  List.dropWhile_cons_of_pos (decide_eq_true h)

lemma fromDeletion_cons {x : Exchange} (h : x.request.method = .delete) :
    fromDeletion (x :: t) = x :: t :=
  List.dropWhile_cons_of_neg (by simp [h])

lemma mem_fromDeletion {x : Exchange} (hx : x ∈ t) (hm : x.request.method = .delete) :
    x ∈ t.fromDeletion := by
  induction t with
  | nil => cases hx
  | cons y rest ih =>
      by_cases hy : y.request.method = .delete
      · rwa [fromDeletion_cons hy]
      · rw [fromDeletion_cons_of_ne hy]
        rcases List.mem_cons.1 hx with rfl | hx
        · exact absurd hm hy
        · exact ih hx

end Transcript

namespace Client

variable {c : Client} {id : VolumeId} {t : Transcript} {r : Except ArrayError Unit}

/-- The array has confirmed the deletion of the volume. -/
def ConfirmsDeletion (c : Client) (id : VolumeId) (t : Transcript) : Prop :=
  c.Settles (c.deletionRequest id) t.fromDeletion (.ok ())

/-- The array has answered the fetch or the deletion of the volume with the status 404. -/
def FindsAbsent (c : Client) (id : VolumeId) (t : Transcript) : Prop :=
  ∃ x ∈ t, (x.request = .get (c.volumePath id) ∨ x.request = c.deletionRequest id) ∧
    x.answer.IsMissing

/-- The array has shown that the volume is gone. -/
def ShowsGone (c : Client) (id : VolumeId) (t : Transcript) : Prop :=
  c.ConfirmsDeletion id t ∨ c.FindsAbsent id t

lemma not_settles_nil {request : Request} : ¬ c.Settles request [] r := nofun

lemma method_ne_delete_of_execute {request : Request} {subject : Subject}
    (hm : request.method ≠ .delete) (h : (c.execute request subject).Yields t r) :
    ∀ x ∈ t, x.request.method ≠ .delete := by
  intro x hx
  obtain hrequest | hget := request_of_mem_execute h hx
  · rwa [hrequest]
  · rw [hget]
    exact Method.get_ne_delete

end Client

open ChangeRun (exchangesOf errorsOf hasSucceeded)

namespace TeardownSteps

variable {c : Client} {id : VolumeId} {volume : Volume} {x : TeardownSteps}

/-- Before the deletion nothing is deleted. -/
lemma TakenBy.fromDeletion_exchanges (hx : x.TakenBy c id volume) :
    x.exchanges.fromDeletion = exchangesOf x.deletion := by
  have hmarking : ∀ e ∈ exchangesOf x.marking, e.request.method ≠ .delete := by
    cases hm : x.marking with
    | none => exact nofun
    | some s =>
        exact Client.method_ne_delete_of_execute Method.put_ne_delete
          (Client.yields_marking_iff.1 (hx.marking_run s hm))
  have hremovals : ∀ e ∈ x.removals.flatMap (·.exchanges), e.request.method ≠ .delete := by
    intro e he
    obtain ⟨removal, hremoval, he⟩ := List.mem_flatMap.1 he
    have hrun := hx.removal_run removal hremoval
    exact Client.method_ne_delete_of_execute Method.put_ne_delete hrun e he
  have hrelease : ∀ e ∈ exchangesOf x.release, e.request.method ≠ .delete := by
    cases hr : x.release with
    | none => exact nofun
    | some s =>
        obtain ⟨q, hrun, -⟩ := Client.yields_executeTolerant_iff.1 (hx.release_run s hr)
        exact Client.method_ne_delete_of_execute Method.put_ne_delete hrun
  rw [exchanges, afterMarking, Transcript.fromDeletion_append hmarking,
    Transcript.fromDeletion_append hremovals, Transcript.fromDeletion_append hrelease]
  cases hd : x.deletion with
  | none => rfl
  | some s =>
      obtain ⟨answer, job, answers, n, hshape⟩ :=
        Client.shape_of_yields_execute (hx.deletion_run s hd)
      change s.exchanges.fromDeletion = s.exchanges
      rw [hshape]
      exact Transcript.fromDeletion_cons rfl

/-- The volume is deleted exactly when the array confirms the deletion. -/
lemma TakenBy.deleted_iff (hx : x.TakenBy c id volume) :
    x.deleted = true ↔ c.Settles (c.deletionRequest id) (exchangesOf x.deletion) (.ok ()) := by
  unfold deleted
  cases hd : x.deletion with
  | none => exact ⟨nofun, fun h => absurd h Client.not_settles_nil⟩
  | some s =>
      have hrun := hx.deletion_run s hd
      rw [← Client.yields_execute_ok_iff Method.delete_ne_get]
      constructor
      · intro h
        obtain ⟨exchanges, _ | _⟩ := s
        · cases h
        · exact hrun
      · intro h
        have hdone : s.result = .ok () := Program.Yields.unique hrun h
        simp [hasSucceeded, hdone, Except.isOk, Except.toBool]

/-- When no step has failed, the volume is deleted. -/
lemma TakenBy.deleted_of_errors (hx : x.TakenBy c id volume) (h : x.errors = []) :
    x.deleted = true := by
  simp only [errors, List.append_eq_nil_iff] at h
  obtain ⟨⟨-, hremovals⟩, hrelease, hdeletion⟩ := h
  have hdone {step : Option ChangeRun} (herrors : errorsOf step = []) {s : ChangeRun}
      (hs : step = some s) : s.result = .ok () := by
    subst hs
    cases hr : s.result with
    | ok a => rfl
    | error e => simp [ChangeRun.errorsOf, errorOf, hr] at herrors
  obtain ⟨release, hreleased⟩ := Option.isSome_iff_exists.1
    (hx.release_iff.2 (Client.isEmpty_errors_iff.1 (List.isEmpty_iff.2 hremovals)))
  obtain ⟨deletion, hdeleted⟩ := Option.isSome_iff_exists.1
    (hx.deletion_iff.2 ⟨release, hreleased, hdone hrelease hreleased⟩)
  rw [deleted, hdeleted]
  simp [hasSucceeded, hdone hdeletion hdeleted, Except.isOk, Except.toBool]

lemma TakenBy.deletedBy_report (hx : x.TakenBy c id volume) :
    deletedBy (Client.teardownReport id x.deleted x.errors) = x.deleted := by
  unfold Client.teardownReport
  split
  · rename_i hnone
    exact (hx.deleted_of_errors (List.isEmpty_iff.1 hnone)).symm
  · rfl

end TeardownSteps

/-! ### Fates -/

namespace Client

variable {c : Client} {id : VolumeId} {t : Transcript} {r : Except ArrayError Unit}

lemma fromDeletion_fetch {answer : Answer} {rest : Transcript} :
    Transcript.fromDeletion (⟨c.site, .get (c.volumePath id), answer⟩ :: rest) =
      Transcript.fromDeletion rest :=
  Transcript.fromDeletion_cons_of_ne Method.get_ne_delete

/-- A teardown reports its volume as deleted exactly when the deletion was confirmed. -/
lemma deletedBy_iff_confirmsDeletion (h : (c.teardownVolume id).Yields t r) :
    deletedBy r = true ↔ c.ConfirmsDeletion id t := by
  unfold ConfirmsDeletion
  obtain ⟨answer, rest, rfl, ⟨e, hfailed, rfl, rfl⟩ | ⟨volume, x, -, hx, rfl, rfl⟩⟩ :=
    cases_of_yields_teardownVolume h
  · rw [fromDeletion_fetch]
    refine ⟨fun hdeleted => ?_, fun h => absurd h not_settles_nil⟩
    obtain hok | ⟨resource, errors, hreport⟩ := deletedBy_iff.1 hdeleted
    · cases hok
    · rw [getVolume, on_read] at hfailed
      exact absurd (Except.error.inj hreport) ((fails_of_valueIn hfailed).ne_teardown _ _ _)
  · rw [fromDeletion_fetch, hx.fromDeletion_exchanges, hx.deletedBy_report, hx.deleted_iff]

/-- A deletion is not confirmed where the volume was found absent. -/
lemma FindsAbsent.not_confirmsDeletion (habsent : c.FindsAbsent id t)
    (h : (c.teardownVolume id).Yields t r) : ¬ c.ConfirmsDeletion id t := by
  intro hconfirms
  obtain ⟨x, hx, hfetch | hdeletion, hmissing⟩ := habsent
  · obtain ⟨answer, rest, rfl, ⟨e, -, rfl, -⟩ | ⟨volume, steps, hfetched, hsteps, rfl, -⟩⟩ :=
      cases_of_yields_teardownVolume h
    · rw [ConfirmsDeletion, fromDeletion_fetch] at hconfirms
      exact not_settles_nil hconfirms
    · rcases List.mem_cons.1 hx with rfl | hx
      · rw [getVolume, on_read_of_isMissing hmissing] at hfetched
        cases hfetched
      · -- What is read after the fetch is the record of a job.
        obtain ⟨job, hpoll⟩ := hsteps.poll_of_get hx (by rw [hfetch]; rfl)
        exact systemPath_ne_provisioningPath (congrArg Request.path (hpoll.symm.trans hfetch))
  · have hmethod : x.request.method = .delete := by
      rw [hdeletion]
      rfl
    exact hconfirms.not_isMissing x (Transcript.mem_fromDeletion hx hmethod) hmissing

/-- What the report on a teardown with these exchanges says about its volume. -/
structure ReportOn (c : Client) (id : VolumeId) (t : Transcript) (deleted : Bool) : Prop where
  /-- The volume is reported as deleted exactly when the deletion was confirmed. -/
  deleted_iff : deleted = true ↔ c.ConfirmsDeletion id t
  /-- A volume that is reported as deleted is gone. -/
  gone_of_deleted : deleted = true → c.ShowsGone id t
  /-- A volume that is reported as kept is gone exactly when it was found absent. -/
  kept_gone_iff : deleted = false ∧ c.ShowsGone id t ↔ c.FindsAbsent id t

lemma reportOn_of_yields (h : (c.teardownVolume id).Yields t r) :
    c.ReportOn id t (deletedBy r) where
  deleted_iff := deletedBy_iff_confirmsDeletion h
  gone_of_deleted hdeleted := .inl ((deletedBy_iff_confirmsDeletion h).1 hdeleted)
  kept_gone_iff := by
    rw [← Bool.not_eq_true, deletedBy_iff_confirmsDeletion h]
    constructor
    · rintro ⟨hnot, hconfirms | habsent⟩
      · exact absurd hconfirms hnot
      · exact habsent
    · intro habsent
      exact ⟨habsent.not_confirmsDeletion h, .inr habsent⟩

end Client

/-- **What the report on a pair says about its volumes.**  A teardown of a pair that ends with such
a report has broken the pair and gone through both teardowns.  The report says of the volume, and
its text says of the partner, that it was deleted exactly when the array has confirmed the deletion.
Where it says otherwise the volume is gone all the same exactly when the array has answered its
fetch or its deletion with the status 404.  In the runs every wait has a deadline, and polls take no
time. -/
theorem teardownProtectedVolume_fates (c remote : Client) (number : UInt32)
    (group remoteGroup : String) (id : VolumeId) {t : Transcript} {resource : String}
    {deleted : Bool} {errors : List ArrayError}
    (hrun : (c.teardownProtectedVolume remote number group remoteGroup id).Yields t
      (.error (.teardown resource deleted errors))) :
    ∃ (answer : Answer) (pair : DevicePair) (unpairing here there : Transcript)
      (partnerDeleted : Bool),
      t = ⟨c.site, c.pairRequest number id, answer⟩ :: (unpairing ++ (here ++ there)) ∧
      (c.getDevicePair number id).on answer = .ok pair ∧
      (c.removeVolumesFrom group [id] (some ⟨remote.arrayId, remoteGroup, true⟩)).Yields
        unpairing (.ok ()) ∧
      (∃ r, (c.teardownVolume id).Yields here r) ∧
      (∃ r, (remote.teardownVolume pair.remoteVolume).Yields there r) ∧
      resource = "replicated volume " ++ id.text ++ " (partner " ++ pair.remoteVolume.text ++ " " ++
        (if partnerDeleted then "deleted" else "kept") ++ ")" ∧
      c.ReportOn id here deleted ∧ remote.ReportOn pair.remoteVolume there partnerDeleted := by
  rw [Client.teardownProtectedVolume_eq] at hrun
  have hcases := Client.yields_afterUnpairing_iff.1 hrun
  generalize hreport : Except.error (ArrayError.teardown resource deleted errors) = r at hcases
  cases hcases with
  | @notLookedUp answer e hfailed =>
      rw [Client.getDevicePair, Client.on_read] at hfailed
      have hne := (Client.fails_of_valueIn hfailed).ne_teardown resource deleted errors
      unfold Client.pairFailure at hreport
      split_ifs at hreport
      · cases hreport
      · exact absurd (Except.error.inj hreport).symm hne
  | otherPartner hfound hother => cases hreport
  | notUnpaired hfound hpartner hunpairing =>
      exact absurd (Except.error.inj hreport).symm
        (Client.ne_teardown_of_execute Method.put_ne_get hunpairing resource deleted errors)
  | @unpaired answer pair unpairing later r hfound hpartner hunpairing hboth =>
      obtain ⟨here, there, rfl, hhere, hthere, rfl⟩ := Client.yields_teardownBoth_iff.1 hboth
      unfold Client.pairReport at hreport
      split at hreport
      · cases hreport
      · simp only [Except.error.injEq, ArrayError.teardown.injEq] at hreport
        obtain ⟨rfl, rfl, -⟩ := hreport
        exact ⟨answer, pair, unpairing, here.exchanges, there.exchanges, deletedBy there.result,
          rfl, hfound, hunpairing, ⟨_, hhere⟩, ⟨_, hthere⟩, rfl, Client.reportOn_of_yields hhere,
          Client.reportOn_of_yields hthere⟩

/-- A volume that cannot be marked and is deleted all the same, and a partner that cannot be
fetched: the one is reported as deleted, the other as kept. -/
theorem teardownProtectedVolume_fates_differ :
    let c : Client := ⟨.home, ⟨"000197600123"⟩, .default⟩
    let remote : Client := ⟨.remote, ⟨"000197600456"⟩, .default⟩
    let id : VolumeId := ⟨"0012A"⟩
    let pair : Json := .object [("localVolumeName", .string "0012A"),
      ("remoteSymmetrixId", .string "000197600456"), ("remoteVolumeName", .string "00034")]
    let volume : Json := .object [("volumeId", .string "0012A")]
    let t : Transcript := [
      ⟨.home, c.pairRequest 7 id, .ok ⟨200, pair⟩⟩,
      ⟨.home, c.unpairingRequest remote "SG1" "SG2" id, .ok ⟨200, .null⟩⟩,
      ⟨.home, .get (c.volumePath id), .ok ⟨200, volume⟩⟩,
      ⟨.home, c.markingRequest id, .ok ⟨500, .string "busy"⟩⟩,
      ⟨.home, c.releaseRequest id, .ok ⟨200, .null⟩⟩,
      ⟨.home, c.deletionRequest id, .ok ⟨204, .null⟩⟩,
      ⟨.remote, .get (remote.volumePath ⟨"00034"⟩), .ok ⟨500, .string "busy"⟩⟩]
    let r : Except ArrayError Unit :=
      .error (.teardown "replicated volume 0012A (partner 00034 kept)" true
        [.teardown "volume 0012A" true [.rejected 500 "busy"], .rejected 500 "busy"])
    (c.teardownProtectedVolume remote 7 "SG1" "SG2" id).Yields t r ∧
      ∃ lookup unpairing here there, t = lookup :: (unpairing ++ (here ++ there)) ∧
        c.ConfirmsDeletion id here ∧ ¬ remote.ConfirmsDeletion ⟨"00034"⟩ there := by
  intro c remote id pair volume t r
  let home : Script := { queued := (t.take 6).map (·.answer) }
  let s : Stage := { home := home, remote := { queued := [.ok ⟨500, .string "busy"⟩] } }
  have htranscript :
      (c.teardownProtectedVolume remote 7 "SG1" "SG2" id).run.transcript Stage.answer s = t := by
    unfold c remote id
    rfl
  have hresult : (s.perform (c.teardownProtectedVolume remote 7 "SG1" "SG2" id)).1 = r := by
    unfold c remote id
    rfl
  have hrun : (c.teardownProtectedVolume remote 7 "SG1" "SG2" id).Yields t r :=
    Stage.yields_of_perform htranscript hresult
  refine ⟨hrun, ?_⟩
  obtain ⟨answer, found, unpairing, here, there, partnerDeleted, ht, hfound, -, -, -, hresource,
    hhere, hthere⟩ := teardownProtectedVolume_fates c remote 7 "SG1" "SG2" id hrun
  -- The first answer tells who the partner is, and the text what became of it.
  obtain rfl : answer = .ok ⟨200, pair⟩ :=
    (congrArg Exchange.answer (List.head_eq_of_cons_eq ht)).symm
  have hpartner : found.remoteVolume = ⟨"00034"⟩ :=
    congrArg DevicePair.remoteVolume (Except.ok.inj hfound).symm
  rw [hpartner] at hresource hthere
  obtain rfl : partnerDeleted = false := by
    cases partnerDeleted with
    | false => rfl
    | true => exact absurd hresource (by decide)
  exact ⟨_, unpairing, here, there, ht, hhere.deleted_iff.1 rfl,
    fun h => Bool.false_ne_true (hthere.deleted_iff.2 h)⟩

/-- A volume that is gone when it is to be deleted, and a partner that is gone from the start: both
are reported as kept. -/
theorem teardownProtectedVolume_keeps_what_is_gone :
    let c : Client := ⟨.home, ⟨"000197600123"⟩, .default⟩
    let remote : Client := ⟨.remote, ⟨"000197600456"⟩, .default⟩
    let id : VolumeId := ⟨"0012A"⟩
    let pair : Json := .object [("localVolumeName", .string "0012A"),
      ("remoteSymmetrixId", .string "000197600456"), ("remoteVolumeName", .string "00034")]
    let volume : Json := .object [("volumeId", .string "0012A")]
    let here : Transcript := [
      ⟨.home, .get (c.volumePath id), .ok ⟨200, volume⟩⟩,
      ⟨.home, c.markingRequest id, .ok ⟨200, .null⟩⟩,
      ⟨.home, c.releaseRequest id, .ok ⟨200, .null⟩⟩,
      ⟨.home, c.deletionRequest id, .ok ⟨404, .null⟩⟩]
    let there : Transcript := [⟨.remote, .get (remote.volumePath ⟨"00034"⟩), .ok ⟨404, .null⟩⟩]
    let t : Transcript :=
      [⟨.home, c.pairRequest 7 id, .ok ⟨200, pair⟩⟩,
        ⟨.home, c.unpairingRequest remote "SG1" "SG2" id, .ok ⟨200, .null⟩⟩] ++ (here ++ there)
    let s : Stage := { home := { queued := (t.take 6).map (·.answer) },
                       remote := { queued := [.ok ⟨404, .null⟩] } }
    (c.teardownProtectedVolume remote 7 "SG1" "SG2" id).run.transcript Stage.answer s = t ∧
      (s.perform (c.teardownProtectedVolume remote 7 "SG1" "SG2" id)).1 =
        .error (.teardown "replicated volume 0012A (partner 00034 kept)" false
          [.teardown "volume 0012A" false [.notFound "volume" "0012A"],
            .notFound "volume" "00034"]) ∧
      c.ShowsGone id here ∧ remote.ShowsGone ⟨"00034"⟩ there := by
  intro c remote id pair volume here there t s
  have htranscript :
      (c.teardownProtectedVolume remote 7 "SG1" "SG2" id).run.transcript Stage.answer s = t := by
    unfold c remote id
    rfl
  have hresult : (s.perform (c.teardownProtectedVolume remote 7 "SG1" "SG2" id)).1 =
      .error (.teardown "replicated volume 0012A (partner 00034 kept)" false
        [.teardown "volume 0012A" false [.notFound "volume" "0012A"],
          .notFound "volume" "00034"]) := by
    unfold c remote id
    rfl
  have hmissing : Answer.IsMissing (.ok ⟨404, .null⟩) := ⟨⟨404, .null⟩, rfl, rfl⟩
  refine ⟨htranscript, hresult, .inr ?_, .inr ?_⟩
  · exact ⟨_, List.mem_of_getLast? rfl, .inr rfl, hmissing⟩
  · exact ⟨_, List.mem_cons_self, .inl rfl, hmissing⟩

end StorageArray
