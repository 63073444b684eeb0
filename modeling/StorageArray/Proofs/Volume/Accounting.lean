import Mathlib.Tactic.Common
import StorageArray.Proofs.Volume.Release
/-!
# The account of a teardown

After the fetch of the volume a teardown takes at most four kinds of steps: it marks the volume,
removes it from its groups, releases its tracks, and deletes it.  `TeardownSteps` is the account of
the steps that were taken, each with its exchanges and with how it ended.  Which steps are taken is
said by `TeardownSteps.TakenBy`, and everything that is seen of the teardown from outside is read
off the account: the exchanges, the requests, the errors and the report.

`Client.yields_teardownVolume_steps_iff` says that the runs of a teardown are those with an
account; the main result puts together what this means for requests and errors.  That the marking
has no influence on what follows is `TeardownSteps.TakenBy.afterMarking_eq`.
-/

namespace StorageArray

/-- The exchanges of a change, and how it ended. -/
structure ChangeRun where
  /-- The exchanges, those of the polls of its job included. -/
  exchanges : Transcript
  /-- How it ended. -/
  result : Except ArrayError Unit

/-- The steps of a teardown after the fetch of the volume. -/
structure TeardownSteps where
  /-- The marking, unless the volume was marked already. -/
  marking : Option ChangeRun
  /-- The removals from the groups, in order. -/
  removals : List GroupRemoval
  /-- The release of the tracks, if it was sent. -/
  release : Option ChangeRun
  /-- The deletion, if it was sent. -/
  deletion : Option ChangeRun

namespace ChangeRun

/-- The exchanges of a step that is perhaps not taken. -/
def exchangesOf (step : Option ChangeRun) : Transcript := step.elim [] (·.exchanges)

/-- The errors of a step that is perhaps not taken. -/
def errorsOf (step : Option ChangeRun) : List ArrayError := step.elim [] fun s => errorOf s.result

/-- The step was taken and has succeeded. -/
def hasSucceeded (step : Option ChangeRun) : Bool := step.any fun s => s.result.isOk

/-- The request of a step that is perhaps not taken. -/
def requestOf (step : Option ChangeRun) (request : Request) : List Request :=
  (step.map fun _ => request).toList

end ChangeRun

open ChangeRun (exchangesOf errorsOf hasSucceeded requestOf)

namespace Client

/-- The request that marks a volume for deletion. -/
def markingRequest (c : Client) (id : VolumeId) : Request :=
  .put (c.volumePath id) (Volume.renamePayload (deletionMarker id))

/-- The request that deletes a volume. -/
def deletionRequest (c : Client) (id : VolumeId) : Request := .delete (c.volumePath id)

end Client

namespace TeardownSteps

/-- The exchanges after the marking. -/
def afterMarking (x : TeardownSteps) : Transcript :=
  x.removals.flatMap (·.exchanges) ++ (exchangesOf x.release ++ exchangesOf x.deletion)

/-- All exchanges. -/
def exchanges (x : TeardownSteps) : Transcript := exchangesOf x.marking ++ x.afterMarking

/-- The requests of the steps, without the polls. -/
def requests (c : Client) (id : VolumeId) (x : TeardownSteps) : List Request :=
  requestOf x.marking (c.markingRequest id) ++
    (x.removals.map fun removal => c.removalRequest removal.group id) ++
    requestOf x.release (c.releaseRequest id) ++ requestOf x.deletion (c.deletionRequest id)

/-- The errors of the failed steps, in order; a removal from a group that is gone has not
failed. -/
def errors (x : TeardownSteps) : List ArrayError :=
  errorsOf x.marking ++ x.removals.flatMap (·.errors) ++ (errorsOf x.release ++ errorsOf x.deletion)

/-- The volume was deleted. -/
def deleted (x : TeardownSteps) : Bool := hasSucceeded x.deletion

/-- These are steps that the teardown of the fetched volume takes. -/
structure TakenBy (c : Client) (id : VolumeId) (volume : Volume) (x : TeardownSteps) : Prop where
  /-- The volume is marked unless it is marked already. -/
  marking_iff : x.marking.isSome = true ↔ volume.name ≠ some (deletionMarker id)
  /-- The marking gives the volume its new name. -/
  marking_run : ∀ step ∈ x.marking,
    (c.renameVolume id (deletionMarker id)).Yields step.exchanges step.result
  /-- There is one removal for each group that the volume was reported to be in. -/
  groups : x.removals.map (·.group) = volume.storageGroups
  /-- A removal removes this volume from its group. -/
  removal_run : ∀ removal ∈ x.removals,
    (c.removeFromGroup removal.group id).Yields removal.exchanges removal.result
  /-- The tracks are released when each removal has succeeded or found its group gone. -/
  release_iff : x.release.isSome = true ↔ ∀ removal ∈ x.removals,
    removal.result = .ok () ∨ ∃ e, removal.result = .error e ∧ e.isNotFound = true
  /-- The release. -/
  release_run : ∀ step ∈ x.release, (c.deallocateVolume id).Yields step.exchanges step.result
  /-- The volume is deleted when the tracks have been released. -/
  deletion_iff : x.deletion.isSome = true ↔ ∃ step ∈ x.release, step.result = .ok ()
  /-- The deletion. -/
  deletion_run : ∀ step ∈ x.deletion, (c.deleteVolume id).Yields step.exchanges step.result

end TeardownSteps

lemma doneOrGone_iff {r : Except ArrayError Unit} :
    doneOrGone r = true ↔ r = .ok () ∨ ∃ e, r = .error e ∧ e.isNotFound = true := by
  cases r with
  | ok a => simp [doneOrGone]
  | error e => simp [doneOrGone]

/-! ### The requests of the steps -/

lemma Volume.checkName_deletionMarker (id : VolumeId) :
    checkName (deletionMarker id) = .ok () := by
  rw [checkName_eq_ok_iff]
  simp [Text.allBlank, deletionMarker, deletionPrefix, String.toList_append, Text.isBlank]

namespace Client

variable {c : Client} {id : VolumeId} {t : Transcript} {r : Except ArrayError Unit}

/-- A marker is a name that a volume may get, so the marking is sent. -/
lemma yields_marking_iff :
    (c.renameVolume id (deletionMarker id)).Yields t r ↔
      (c.execute (c.markingRequest id) ⟨"volume", id.text⟩).Yields t r := by
  rw [renameVolume, Volume.checkName_deletionMarker, Operation.yields_bind]
  constructor
  · rintro (⟨t₁, t₂, _, rfl, h₁, h₂⟩ | ⟨e, h, -⟩)
    · obtain ⟨rfl, -⟩ := Operation.yields_ofExcept.1 h₁
      exact h₂
    · obtain ⟨-, h⟩ := Operation.yields_ofExcept.1 h
      cases h
  · intro h
    exact .inl ⟨[], t, (), rfl, Operation.yields_ofExcept.2 ⟨rfl, rfl⟩, h⟩

lemma changes_of_marking (h : (c.renameVolume id (deletionMarker id)).Yields t r) :
    t.changes = [(c.site, c.markingRequest id)] :=
  changes_of_yields_execute Method.put_ne_get (yields_marking_iff.1 h)

lemma changes_of_removal {group : String} (h : (c.removeFromGroup group id).Yields t r) :
    t.changes = [(c.site, c.removalRequest group id)] :=
  changes_of_yields_execute Method.put_ne_get h

lemma changes_of_release (h : (c.deallocateVolume id).Yields t r) :
    t.changes = [(c.site, c.releaseRequest id)] := by
  obtain ⟨q, h, -⟩ := yields_executeTolerant_iff.1 h
  exact changes_of_yields_execute Method.put_ne_get h

lemma changes_of_deletion (h : (c.deleteVolume id).Yields t r) :
    t.changes = [(c.site, c.deletionRequest id)] :=
  changes_of_yields_execute Method.delete_ne_get h

end Client

/-! ### Runs and accounts -/

namespace Client

variable {c : Client} {id : VolumeId} {volume : Volume}

/-- The last two steps are a release and a deletion, as far as they are taken. -/
lemma yields_finishTeardown_iff {detached : Bool} {t : Transcript} {fate : Bool × List ArrayError} :
    (c.finishTeardown id detached).Yields t (.ok fate) ↔
      ∃ release deletion : Option ChangeRun, t = exchangesOf release ++ exchangesOf deletion ∧
        (release.isSome = true ↔ detached = true) ∧
        (∀ step ∈ release, (c.deallocateVolume id).Yields step.exchanges step.result) ∧
        (deletion.isSome = true ↔ ∃ step ∈ release, step.result = .ok ()) ∧
        (∀ step ∈ deletion, (c.deleteVolume id).Yields step.exchanges step.result) ∧
        fate = (hasSucceeded deletion, errorsOf release ++ errorsOf deletion) := by
  unfold finishTeardown
  cases detached with
  | false =>
      rw [if_neg Bool.false_ne_true, Operation.yields_pure, Except.ok.injEq]
      constructor
      · rintro ⟨rfl, rfl⟩
        exact ⟨none, none, rfl, by simp, by simp, by simp, by simp, rfl⟩
      · rintro ⟨release, deletion, rfl, hrelease, -, hdeletion, -, rfl⟩
        obtain rfl : release = none := by simpa using hrelease
        obtain rfl : deletion = none := by simpa using hdeletion
        exact ⟨rfl, rfl⟩
  | true =>
      rw [if_pos rfl, yields_releaseAndDelete_iff]
      constructor
      · rintro (⟨e, h, hfate⟩ | ⟨t₁, t₂, q, rfl, h₁, h₂, hfate⟩)
        · cases hfate
          exact ⟨some ⟨t, .error e⟩, none, by simp [exchangesOf], by simp, by simpa using h,
            by simp, by simp, rfl⟩
        · cases hfate
          refine ⟨some ⟨t₁, .ok ()⟩, some ⟨t₂, q⟩, rfl, by simp, by simpa using h₁, by simp,
            by simpa using h₂, rfl⟩
      · rintro ⟨release, deletion, rfl, hrelease, hreleased, hdeletion, hdeleted, rfl⟩
        obtain ⟨⟨t₁, q⟩, rfl⟩ := Option.isSome_iff_exists.1 (hrelease.2 rfl)
        have h₁ : (c.deallocateVolume id).Yields t₁ q := hreleased _ rfl
        cases q with
        | error e =>
            obtain rfl : deletion = none := by simpa using hdeletion
            exact .inl ⟨e, by simpa [exchangesOf] using h₁, rfl⟩
        | ok a =>
            obtain ⟨⟨t₂, q⟩, rfl⟩ := Option.isSome_iff_exists.1 (hdeletion.2 ⟨_, rfl, rfl⟩)
            exact .inr ⟨t₁, t₂, q, rfl, h₁, hdeleted _ rfl, rfl⟩

/-- The marking is a step that is taken unless the volume is marked. -/
lemma yields_markForDeletion_step_iff {t : Transcript} {errors : List ArrayError} :
    (c.markForDeletion volume id).Yields t (.ok errors) ↔
      ∃ marking : Option ChangeRun, t = exchangesOf marking ∧
        (marking.isSome = true ↔ volume.name ≠ some (deletionMarker id)) ∧
        (∀ step ∈ marking,
          (c.renameVolume id (deletionMarker id)).Yields step.exchanges step.result) ∧
        errors = errorsOf marking := by
  rw [yields_markForDeletion_iff]
  by_cases hmarked : volume.name = some (deletionMarker id)
  · rw [if_pos hmarked, Except.ok.injEq]
    constructor
    · rintro ⟨rfl, rfl⟩
      exact ⟨none, rfl, by simpa using hmarked, by simp, rfl⟩
    · rintro ⟨marking, rfl, hmarking, -, rfl⟩
      obtain rfl : marking = none := by simpa [hmarked] using hmarking
      exact ⟨rfl, rfl⟩
  · rw [if_neg hmarked]
    constructor
    · rintro ⟨q, h, herrors⟩
      cases herrors
      exact ⟨some ⟨t, q⟩, rfl, by simpa using hmarked, by simpa using h, rfl⟩
    · rintro ⟨marking, rfl, hmarking, hrun, rfl⟩
      obtain ⟨step, rfl⟩ := Option.isSome_iff_exists.1 (hmarking.2 hmarked)
      exact ⟨step.result, hrun step rfl, rfl⟩

/-- The removals are done when each has succeeded or found its group gone. -/
lemma isEmpty_errors_iff {removals : List GroupRemoval} :
    (removals.flatMap (·.errors)).isEmpty = true ↔ ∀ removal ∈ removals,
      removal.result = .ok () ∨ ∃ e, removal.result = .error e ∧ e.isNotFound = true := by
  rw [List.isEmpty_iff, List.flatMap_eq_nil_iff]
  exact forall₂_congr fun removal _ => GroupRemoval.errors_eq_nil_iff.trans doneOrGone_iff

/-- The runs of a teardown that has fetched the volume are those with an account. -/
lemma yields_teardownVolume_steps_iff {answer : Answer}
    (hfetched : (c.getVolume id).on answer = .ok volume) {rest : Transcript}
    {r : Except ArrayError Unit} :
    (c.teardownVolume id).Yields (⟨c.site, .get (c.volumePath id), answer⟩ :: rest) r ↔
      ∃ x : TeardownSteps, x.TakenBy c id volume ∧ rest = x.exchanges ∧
        r = teardownReport id x.deleted x.errors := by
  have hfetch : (c.getVolume id).Yields [⟨c.site, .get (c.volumePath id), answer⟩] (.ok volume) :=
    yields_read_on_iff.2 ⟨answer, rfl, hfetched.symm⟩
  rw [yields_teardownVolume_iff]
  constructor
  · rintro (⟨e, h, -⟩ | ⟨t₁, t₂, t₃, t₄, volume', marking, detaching, fate, ht, h₁, h₂, h₃, h₄,
      rfl⟩)
    · -- The answer to the fetch decides whether the teardown goes on.
      have ht : [⟨c.site, .get (c.volumePath id), answer⟩] ++ rest =
          ⟨c.site, .get (c.volumePath id), answer⟩ :: rest ++ [] := by simp
      obtain ⟨-, hvolume⟩ := Program.Yields.eq_of_append_eq hfetch h ht
      cases hvolume
    · rw [← List.singleton_append] at ht
      obtain ⟨rfl, hvolume⟩ := Program.Yields.eq_of_append_eq hfetch h₁ ht
      cases hvolume
      obtain rfl : rest = t₂ ++ (t₃ ++ t₄) := by simpa using ht
      obtain ⟨step, rfl, hmarking, hmarked, rfl⟩ := yields_markForDeletion_step_iff.1 h₂
      obtain ⟨removals, hgroups, hremovals, rfl, herrors⟩ := yields_detachFrom_iff.1 h₃
      cases herrors
      obtain ⟨release, deletion, rfl, hrelease, hreleased, hdeletion, hdeleted, rfl⟩ :=
        yields_finishTeardown_iff.1 h₄
      exact ⟨⟨step, removals, release, deletion⟩, ⟨hmarking, hmarked, hgroups, hremovals,
        hrelease.trans isEmpty_errors_iff, hreleased, hdeletion, hdeleted⟩, rfl, rfl⟩
  · rintro ⟨x, hx, rfl, rfl⟩
    refine .inr ⟨_, _, _, _, volume, errorsOf x.marking, x.removals.flatMap (·.errors),
      (x.deleted, errorsOf x.release ++ errorsOf x.deletion), rfl, hfetch, ?_, ?_, ?_, rfl⟩
    · exact yields_markForDeletion_step_iff.2 ⟨x.marking, rfl, hx.marking_iff, hx.marking_run, rfl⟩
    · exact yields_detachFrom_iff.2 ⟨x.removals, hx.groups, hx.removal_run, rfl, rfl⟩
    · exact yields_finishTeardown_iff.2 ⟨x.release, x.deletion, rfl,
        hx.release_iff.trans isEmpty_errors_iff.symm, hx.release_run, hx.deletion_iff,
        hx.deletion_run, rfl⟩

/-- A teardown fails with the fetch of the volume, or has an account. -/
lemma cases_of_yields_teardownVolume {t : Transcript} {r : Except ArrayError Unit}
    (h : (c.teardownVolume id).Yields t r) :
    ∃ answer rest, t = ⟨c.site, .get (c.volumePath id), answer⟩ :: rest ∧
      ((∃ e, (c.getVolume id).on answer = .error e ∧ rest = [] ∧ r = .error e) ∨
        ∃ volume x, (c.getVolume id).on answer = .ok volume ∧ TeardownSteps.TakenBy c id volume x ∧
          rest = x.exchanges ∧ r = teardownReport id x.deleted x.errors) := by
  obtain ⟨e, hfetch, rfl⟩ | ⟨t₁, t₂, t₃, t₄, volume, marking, detaching, fate, rfl, hfetch, -⟩ :=
    yields_teardownVolume_iff.1 h
  · obtain ⟨answer, rfl, hfailed⟩ := yields_read_on_iff.1 hfetch
    exact ⟨answer, [], rfl, .inl ⟨e, hfailed.symm, rfl, rfl⟩⟩
  · obtain ⟨answer, rfl, hfetched⟩ := yields_read_on_iff.1 hfetch
    obtain ⟨x, hx, hrest, hr⟩ := (yields_teardownVolume_steps_iff hfetched.symm).1 h
    exact ⟨answer, _, rfl, .inr ⟨volume, x, hfetched.symm, hx, hrest, hr⟩⟩

end Client

/-! ### What an account says -/

namespace ChangeRun

variable {c : Client} {request : Request} {step : Option ChangeRun}

lemma changes_exchangesOf (h : ∀ s ∈ step, s.exchanges.changes = [(c.site, request)]) :
    (exchangesOf step).changes = (requestOf step request).map (c.site, ·) := by
  cases step with
  | none => rfl
  | some s => exact h s rfl

lemma errorsOf_of_hasSucceeded (h : hasSucceeded step = true) : errorsOf step = [] := by
  cases step with
  | none => rfl
  | some s =>
      obtain ⟨exchanges, _ | _⟩ := s
      · cases h
      · rfl

end ChangeRun

namespace TeardownSteps

variable {c : Client} {id : VolumeId} {volume : Volume} {x y : TeardownSteps}

/-- The requests of the exchanges are those of the steps, and the polls of their jobs. -/
lemma TakenBy.changes_exchanges (hx : x.TakenBy c id volume) :
    x.exchanges.changes = (x.requests c id).map (c.site, ·) := by
  have hremovals : Transcript.changes (x.removals.flatMap (·.exchanges)) =
      (x.removals.map fun removal => c.removalRequest removal.group id).map (c.site, ·) := by
    rw [Transcript.changes_flatMap, List.map_map, List.map_eq_flatMap]
    exact List.flatMap_congr fun removal h => Client.changes_of_removal (hx.removal_run removal h)
  rw [exchanges, afterMarking, requests, Transcript.changes_append, Transcript.changes_append,
    Transcript.changes_append, hremovals,
    ChangeRun.changes_exchangesOf fun s h => Client.changes_of_marking (hx.marking_run s h),
    ChangeRun.changes_exchangesOf fun s h => Client.changes_of_release (hx.release_run s h),
    ChangeRun.changes_exchangesOf fun s h => Client.changes_of_deletion (hx.deletion_run s h)]
  simp only [List.map_append, List.append_assoc]

/-- Every exchange belongs to one of the changes. -/
lemma TakenBy.exists_execute (hx : x.TakenBy c id volume) {e : Exchange} (he : e ∈ x.exchanges) :
    ∃ request subject t r, request.method ≠ .get ∧ (c.execute request subject).Yields t r ∧
      e ∈ t := by
  have hstep {step : Option ChangeRun} (he : e ∈ exchangesOf step) :
      ∃ s ∈ step, e ∈ s.exchanges := by
    cases step with
    | none => cases he
    | some s => exact ⟨s, rfl, he⟩
  rw [exchanges, afterMarking, List.mem_append, List.mem_append, List.mem_append] at he
  -- The exchange is of the marking, of a removal, of the release or of the deletion.
  rcases he with he | he | he | he
  · obtain ⟨s, hs, he⟩ := hstep he
    exact ⟨_, _, _, _, Method.put_ne_get, Client.yields_marking_iff.1 (hx.marking_run s hs), he⟩
  · obtain ⟨removal, hremoval, he⟩ := List.mem_flatMap.1 he
    exact ⟨_, _, _, _, Method.put_ne_get, hx.removal_run removal hremoval, he⟩
  · obtain ⟨s, hs, he⟩ := hstep he
    obtain ⟨q, hrun, -⟩ := Client.yields_executeTolerant_iff.1 (hx.release_run s hs)
    exact ⟨_, _, _, _, Method.put_ne_get, hrun, he⟩
  · obtain ⟨s, hs, he⟩ := hstep he
    exact ⟨_, _, _, _, Method.delete_ne_get, hx.deletion_run s hs, he⟩

lemma TakenBy.site_eq (hx : x.TakenBy c id volume) {e : Exchange} (he : e ∈ x.exchanges) :
    e.site = c.site := by
  obtain ⟨request, subject, t, r, -, hrun, he⟩ := hx.exists_execute he
  exact (Client.mem_of_yields_execute hrun he).1

/-- What a step reads, it reads from the record of a job. -/
lemma TakenBy.poll_of_get (hx : x.TakenBy c id volume) {e : Exchange} (he : e ∈ x.exchanges)
    (hget : e.request.method = .get) : ∃ job, e.request = c.pollRequest job := by
  obtain ⟨request, subject, t, r, hm, hrun, he⟩ := hx.exists_execute he
  obtain ⟨-, rfl | hpoll⟩ := Client.mem_of_yields_execute hrun he
  · exact absurd hget hm
  · exact hpoll

/-- When the volume was deleted, only its marking can have failed. -/
lemma TakenBy.errors_of_deleted (hx : x.TakenBy c id volume) (h : x.deleted = true) :
    x.errors = errorsOf x.marking := by
  have hdeletion : x.deletion.isSome = true := by
    unfold deleted hasSucceeded at h
    cases hd : x.deletion with
    | none => rw [hd] at h; cases h
    | some s => rfl
  obtain ⟨s, hs, hreleased⟩ := hx.deletion_iff.1 hdeletion
  have hrelease : errorsOf x.release = [] := by
    rw [hs, ChangeRun.errorsOf, Option.elim, hreleased]
    rfl
  have hremovals : x.removals.flatMap (·.errors) = [] := by
    rw [List.flatMap_eq_nil_iff]
    intro removal hremoval
    rw [GroupRemoval.errors_eq_nil_iff, doneOrGone_iff]
    exact hx.release_iff.1 (Option.isSome_iff_exists.2 ⟨s, hs⟩) removal hremoval
  rw [errors, hremovals, hrelease, ChangeRun.errorsOf_of_hasSucceeded h]
  simp

/-- What follows the marking is decided by the answers to it: the outcome of the marking has no
influence. -/
lemma TakenBy.afterMarking_eq (hx : x.TakenBy c id volume) (hy : y.TakenBy c id volume)
    (heq : ∀ (i : Nat) (e e' : Exchange), x.afterMarking[i]? = some e →
      y.afterMarking[i]? = some e' → e.answer = e'.answer) :
    x.afterMarking = y.afterMarking := by
  -- The steps after the marking are a run of their own, in which the marking does not occur.
  let op : Operation (Bool × List ArrayError) := do
    let detaching ← c.detachFrom id volume.storageGroups
    c.finishTeardown id detaching.isEmpty
  have hrun {x : TeardownSteps} (hx : x.TakenBy c id volume) :
      op.Yields x.afterMarking (.ok (x.deleted, errorsOf x.release ++ errorsOf x.deletion)) := by
    refine Operation.yields_bind.2 (.inl ⟨_, _, x.removals.flatMap (·.errors), rfl, ?_, ?_⟩)
    · exact Client.yields_detachFrom_iff.2 ⟨x.removals, hx.groups, hx.removal_run, rfl, rfl⟩
    · exact Client.yields_finishTeardown_iff.2 ⟨x.release, x.deletion, rfl,
        hx.release_iff.trans Client.isEmpty_errors_iff.symm, hx.release_run, hx.deletion_iff,
        hx.deletion_run, rfl⟩
  exact (Program.Yields.eq_of_answers (hrun hx) (hrun hy) heq).1

end TeardownSteps

/-- A teardown sends everything to the site of its client. -/
lemma Client.site_of_yields_teardownVolume {c : Client} {id : VolumeId} {t : Transcript}
    {r : Except ArrayError Unit} (h : (c.teardownVolume id).Yields t r) {e : Exchange}
    (he : e ∈ t) : e.site = c.site := by
  obtain ⟨answer, rest, rfl, ⟨-, -, rfl, -⟩ | ⟨volume, x, -, hx, rfl, -⟩⟩ :=
    cases_of_yields_teardownVolume h
  · obtain rfl := List.mem_singleton.1 he
    rfl
  · rcases List.mem_cons.1 he with rfl | he
    · rfl
    · exact hx.site_eq he

/-- **The account of a teardown.**  When the volume has been fetched, the teardown takes the steps
of an account, in order, and what is seen of it is read off the account.

* Its requests are those of the steps; all else that it sends are polls of jobs.
* It succeeds exactly when no step has failed, and otherwise it reports the errors of the failed
  steps and whether the volume was deleted.
* If the volume was deleted all the same, the one error is that of the marking.
* Another teardown of such a volume that gets the same answers after its marking sends the same
  requests after its marking, however the markings have ended.

In the runs every wait has a deadline, and polls take no time. -/
theorem teardown_accounting (c : Client) (id : VolumeId) {answer : Answer} {volume : Volume}
    {rest : Transcript} {r : Except ArrayError Unit}
    (hfetched : (c.getVolume id).on answer = .ok volume)
    (hrun : (c.teardownVolume id).Yields (⟨c.site, .get (c.volumePath id), answer⟩ :: rest) r) :
    ∃ x : TeardownSteps, x.TakenBy c id volume ∧ rest = x.exchanges ∧
      rest.changes = (x.requests c id).map (c.site, ·) ∧
      (∀ e ∈ rest, e.request.method = .get → ∃ job, e.request = c.pollRequest job) ∧
      (r = .ok () ↔ x.errors = []) ∧
      (x.errors ≠ [] → r = .error (.teardown ("volume " ++ id.text) x.deleted x.errors)) ∧
      (∀ resource errors, r = .error (.teardown resource true errors) →
        ∃ marking e, x.marking = some marking ∧ marking.result = .error e ∧ errors = [e]) ∧
      ∀ y : TeardownSteps, y.TakenBy c id volume →
        (∀ (i : Nat) (e e' : Exchange), x.afterMarking[i]? = some e →
          y.afterMarking[i]? = some e' → e.answer = e'.answer) →
        x.afterMarking.sent = y.afterMarking.sent := by
  obtain ⟨x, hx, rfl, rfl⟩ := (Client.yields_teardownVolume_steps_iff hfetched).1 hrun
  refine ⟨x, hx, rfl, hx.changes_exchanges, fun e => hx.poll_of_get, ?_, ?_, ?_, ?_⟩
  · unfold Client.teardownReport
    split
    · rename_i h
      simpa using h
    · rename_i h
      simpa using h
  · intro hfailed
    rw [Client.teardownReport, if_neg (by simpa using hfailed)]
  · intro resource errors hreport
    unfold Client.teardownReport at hreport
    split at hreport
    · cases hreport
    · rename_i hfailed
      simp only [Except.error.injEq, ArrayError.teardown.injEq] at hreport
      obtain ⟨-, hdeleted, rfl⟩ := hreport
      rw [hx.errors_of_deleted hdeleted] at hfailed ⊢
      -- There is an error, so the volume was marked and the marking has failed.
      cases hm : x.marking with
      | none => simp [hm, ChangeRun.errorsOf] at hfailed
      | some marking =>
          rw [hm] at hfailed
          cases hr : marking.result with
          | ok a => simp [ChangeRun.errorsOf, hr, errorOf] at hfailed
          | error e => exact ⟨marking, e, rfl, hr, by simp [ChangeRun.errorsOf, hr, errorOf]⟩
  · intro y hy heq
    rw [hx.afterMarking_eq hy heq]

/-- A volume in two groups that cannot be marked; one of the groups is gone, the tracks are released
already, and the volume is deleted all the same. -/
theorem teardown_accounting_unmarked :
    let c : Client := ⟨.home, ⟨"000197600123"⟩, .default⟩
    let id : VolumeId := ⟨"0012A"⟩
    let body : Json := .object [("storageGroupId", .array [.string "SG1", .string "SG2"]),
      ("volumeId", .string "0012A")]
    let released : Json := .object [("jobId", .string "7"),
      ("result", .string "Device 0012A is already in the requested state"),
      ("status", .string "FAILED")]
    let volume : Volume := ⟨id, none, .zero, ["SG1", "SG2"], false, false, [], none⟩
    let fetch : Exchange := ⟨.home, .get (c.volumePath id), .ok ⟨200, body⟩⟩
    let rest : Transcript := [
      ⟨.home, c.markingRequest id, .ok ⟨500, .string "busy"⟩⟩,
      ⟨.home, c.removalRequest "SG1" id, .ok ⟨200, .null⟩⟩,
      ⟨.home, c.removalRequest "SG2" id, .ok ⟨404, .null⟩⟩,
      ⟨.home, c.releaseRequest id, .ok ⟨202, released⟩⟩,
      ⟨.home, c.deletionRequest id, .ok ⟨204, .null⟩⟩]
    let r : Except ArrayError Unit :=
      .error (.teardown "volume 0012A" true [.rejected 500 "busy"])
    (c.getVolume id).on fetch.answer = .ok volume ∧
      (c.teardownVolume id).Yields (fetch :: rest) r ∧
      ∃ x : TeardownSteps, x.TakenBy c id volume ∧ rest = x.exchanges ∧
        x.removals.map (·.group) = ["SG1", "SG2"] ∧
        ∃ marking, x.marking = some marking ∧ marking.result = .error (.rejected 500 "busy") := by
  intro c id body released volume fetch rest r
  let s : Stage := { home := { queued := (fetch :: rest).map (·.answer) } }
  have hfetched : (c.getVolume id).on fetch.answer = .ok volume := rfl
  have htranscript : (c.teardownVolume id).run.transcript Stage.answer s = fetch :: rest := by
    unfold c id
    rfl
  have hresult : (s.perform (c.teardownVolume id)).1 = r := by
    unfold c id
    rfl
  have hrun : (c.teardownVolume id).Yields (fetch :: rest) r :=
    Stage.yields_of_perform htranscript hresult
  obtain ⟨x, hx, hrest, -, -, -, -, hdeleted, -⟩ := teardown_accounting c id hfetched hrun
  obtain ⟨marking, e, hmarking, hfailed, herrors⟩ := hdeleted _ _ rfl
  cases herrors
  exact ⟨hfetched, hrun, x, hx, hrest, hx.groups, marking, hmarking, hfailed⟩

end StorageArray
