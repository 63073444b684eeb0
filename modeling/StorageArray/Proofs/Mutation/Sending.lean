import Mathlib.Tactic.Common
import StorageArray.Proofs.Mutation.Calls
import StorageArray.Proofs.Volume.Expansion
/-!
# Calls that send their changes

What a call sends besides reads is the request of its change (`MutatingCall.changesBy`).  That it
sends the request at all depends on its arguments, which some calls check first, and on the answers
to what they ask first: a creator asks for a record of the name, and an expansion for the size of
the volume.  `Operation.CanSend` says that some answers lead to the request.

It passes from a part to the whole when the part comes first.  A part in front of it has to be given
the answers that lead on: that there is no record yet, or that the volume is smaller.
-/

namespace StorageArray

/-! ### Arguments -/

/-- The action changes something about a snapshot with this name. -/
def SnapshotAction.Alters (name : String) : SnapshotAction → Prop
  | .link targets _ => targets ≠ []
  | .unlink targets => targets ≠ []
  | .rename newName => Text.allBlank newName = false ∧ newName ≠ name
  | .restore => True

lemma SnapshotAction.alters_iff {name : String} {action : SnapshotAction} :
    action.Alters name ↔ Snapshot.checkAction name action = .ok () ∧ action ≠ .rename name := by
  cases action with
  | link targets copy => simp [Alters, Snapshot.checkAction, Snapshot.checkTargets_eq_ok_iff]
  | unlink targets => simp [Alters, Snapshot.checkAction, Snapshot.checkTargets_eq_ok_iff]
  | rename newName =>
      simp only [Alters, Snapshot.checkAction, ne_eq, SnapshotAction.rename.injEq]
      cases Text.allBlank newName <;> simp
  | restore => simp [Alters, Snapshot.checkAction]

/-! ### Operations that can send a change -/

namespace Operation

variable {α β : Type} {op : Operation α} {x : Site × Request}

/-- Some run of the operation sends the change. -/
def CanSend (op : Operation α) (x : Site × Request) : Prop :=
  ∃ t r, op.Yields t r ∧ x ∈ t.changes

/-- Every operation has a run, for example one in which all requests are lost. -/
lemma exists_yields (op : Operation α) : ∃ t r, op.Yields t r :=
  ⟨_, _, Program.yields_transcript (fun _ _ s => (.error ⟨.connect, "", ""⟩, s)) op.run ()⟩

lemma not_canSend_ofExcept (result : Except ArrayError α) : ¬ CanSend (ofExcept result) x := by
  rintro ⟨t, r, h, hx⟩
  rw [reads_ofExcept result h] at hx
  cases hx

namespace CanSend

/-- What is sent in the end may depend on what is sent first. -/
lemma of_bind {f : α → Operation β} {t : Transcript} {a : α} (hop : op.Yields t (.ok a))
    (h : CanSend (f a) x) : CanSend (op >>= f) x := by
  obtain ⟨u, r, hyields, hx⟩ := h
  refine ⟨t ++ u, r, yields_bind.2 (.inl ⟨t, u, a, rfl, hop, hyields⟩), ?_⟩
  rw [Transcript.changes_append]
  exact List.mem_append_right _ hx

lemma of_settle_bind {f : Except ArrayError α → Operation β} {t : Transcript}
    {q : Except ArrayError α} (hop : op.Yields t q) (h : CanSend (f q) x) :
    CanSend (op.settle >>= f) x :=
  of_bind (yields_settle.2 ⟨q, hop, rfl⟩) h

/-- Whatever comes after it, the first part sends what it sends. -/
lemma bind (h : CanSend op x) (f : α → Operation β) : CanSend (op >>= f) x := by
  obtain ⟨t, q, hyields, hx⟩ := h
  cases q with
  | error e => exact ⟨t, .error e, yields_bind.2 (.inr ⟨e, hyields, rfl⟩), hx⟩
  | ok a =>
      obtain ⟨u, r, hrest⟩ := exists_yields (f a)
      refine ⟨t ++ u, r, yields_bind.2 (.inl ⟨t, u, a, rfl, hyields, hrest⟩), ?_⟩
      rw [Transcript.changes_append]
      exact List.mem_append_left _ hx

lemma settle (h : CanSend op x) : CanSend op.settle x := by
  obtain ⟨t, q, hyields, hx⟩ := h
  exact ⟨t, .ok q, yields_settle.2 ⟨q, hyields, rfl⟩, hx⟩

end CanSend

/-- What stands behind a check is sent exactly when the check is passed. -/
lemma canSend_check_bind_iff {q : Except ArrayError Unit} {f : Unit → Operation β} :
    CanSend (ofExcept q >>= f) x ↔ q = .ok () ∧ CanSend (f ()) x := by
  cases q with
  | ok u => exact (and_iff_right rfl).symm
  | error e => exact iff_of_false (not_canSend_ofExcept (.error e)) nofun

end Operation

open Operation (CanSend)

namespace Client

variable {c : Client}

lemma canSend_execute {request : Request} {subject : Subject} (hm : request.method ≠ .get) :
    CanSend (c.execute request subject) (c.site, request) := by
  obtain ⟨t, r, hyields⟩ := Operation.exists_yields (c.execute request subject)
  refine ⟨t, r, hyields, ?_⟩
  rw [changes_of_yields_execute hm hyields]
  exact List.mem_singleton_self _

/-- A creator sends its creation when the lookup before it finds nothing. -/
lemma canSend_createOrGet {R S : Type} (k : ResourceClass R S) (name : String) (spec : S) :
    CanSend (c.createOrGet k name spec) (c.site, c.createRequest k name spec) := by
  have hpos : 0 < max 1 c.settings.maxCreateAttempts := by omega
  obtain ⟨attempts, hattempts⟩ := Nat.exists_eq_add_one.2 hpos
  have hmissing : Answer.IsMissing (.ok ⟨404, .null⟩) := ⟨_, rfl, rfl⟩
  have hlookup : (c.getResource k name).Yields
      [⟨c.site, .get (c.resourcePath k name), .ok ⟨404, .null⟩⟩]
      (.error (.notFound k.kind name)) :=
    yields_read_on_iff.2 ⟨_, rfl, (on_getResource_of_isMissing hmissing).symm⟩
  rw [createOrGet, hattempts]
  exact .of_settle_bind hlookup ((canSend_execute Method.post_ne_get).settle.bind _)

lemma canSend_createVolumeIn_iff {group name : String} {size : UInt32}
    {remote : Option Volume.RemoteGroup} :
    CanSend (c.createVolumeIn group name size remote)
        (c.site, .put (c.storageGroupPath group) (Volume.creationPayload name size remote)) ↔
      Text.allBlank name = false ∧ size ≠ 0 := by
  rw [createVolumeIn, Operation.canSend_check_bind_iff, Volume.checkName_eq_ok_iff]
  refine and_congr_right fun _ => ?_
  split
  · rename_i hzero
    exact iff_of_false (Operation.not_canSend_ofExcept _) (not_not.2 hzero)
  · rename_i hsize
    exact iff_of_true ((canSend_execute Method.put_ne_get).bind _) hsize

/-- An expansion sends its change when the volume is seen to be smaller.  Below every size there is
a number, if need be below zero. -/
lemma canSend_expandVolume (id : VolumeId) (size : UInt32) :
    CanSend (c.expandVolume id size)
      (c.site, .put (c.volumePath id) (Volume.expansionPayload size)) := by
  let tiny : Binary64 := ⟨true, 1, by decide⟩
  let before : Volume := ⟨⟨"0012A"⟩, none, tiny, [], false, false, [], none⟩
  have hbefore : Answer.Carries (.ok ⟨200, GrowingArray.report tiny⟩) Volume.shape before :=
    ⟨_, rfl, rfl, rfl⟩
  have hsmall : ¬ Binary64.ofNat size.toNat ≤ before.capacity := by
    rw [Binary64.ofNat_size_le_iff, not_le]
    have hvalue : before.capacity.value = -Binary64.unit := by
      simp [before, tiny, Binary64.value, Binary64.unit, Binary64.significand, Binary64.exponent,
        Binary64.blockSize]
    rw [hvalue]
    exact (neg_lt_zero.2 Binary64.unit_pos).trans_le (Nat.cast_nonneg _)
  have hread : (c.getVolume id).Yields [c.volumeRead id (.ok ⟨200, GrowingArray.report tiny⟩)]
      (.ok before) :=
    yields_getVolume_iff.2 ⟨_, rfl, (on_getVolume_eq_ok_iff.2 hbefore).symm⟩
  rw [expandVolume_eq]
  refine .of_bind hread ?_
  rw [growFrom, if_neg hsmall]
  exact (canSend_execute Method.put_ne_get).bind _

lemma canSend_modifySnapshot_iff {name : String} {sources : List VolumeId}
    {generation : UInt32} {action : SnapshotAction} :
    CanSend (c.modifySnapshot name sources generation action)
        (c.site, .put (c.generationPath name generation)
          (Snapshot.changePayload sources generation action)) ↔
      (Text.allBlank name = false ∧ sources ≠ []) ∧ action.Alters name := by
  rw [modifySnapshot, Operation.canSend_check_bind_iff, Operation.canSend_check_bind_iff,
    Snapshot.checkArguments_eq_ok_iff, SnapshotAction.alters_iff]
  refine and_congr_right fun _ => and_congr_right fun _ => ?_
  split
  · rename_i hsame
    exact iff_of_false (Operation.not_canSend_ofExcept _) (not_not.2 hsame)
  · rename_i hother
    exact iff_of_true (canSend_execute Method.put_ne_get) hother

end Client

/-! ### Calls -/

namespace MutatingCall

/-- The arguments with which a call asks for its change.  Where a call checks them, a name is not
blank, a size not zero, a list of volumes not empty, and a new name is another one. -/
def Admissible : MutatingCall → Prop
  | .createVolume _ name size => Text.allBlank name = false ∧ size ≠ 0
  | .createProtectedVolume _ _ _ name size => Text.allBlank name = false ∧ size ≠ 0
  | .renameVolume _ name => Text.allBlank name = false
  | .createSnapshot name sources _ => Text.allBlank name = false ∧ sources ≠ []
  | .modifySnapshot name sources _ action =>
    (Text.allBlank name = false ∧ sources ≠ []) ∧ action.Alters name
  | .deleteSnapshot name sources _ => Text.allBlank name = false ∧ sources ≠ []
  | _ => True

/-- A call can send its change exactly when its arguments are admissible. -/
lemma canSend_change_iff (m : MutatingCall) (c remote : Client) :
    CanSend (m.call.operation c remote) (c.site, m.change.request c) ↔ m.Admissible := by
  cases m with
  | create k name spec => exact iff_of_true (Client.canSend_createOrGet _ _ _) trivial
  | createVolume => exact Client.canSend_createVolumeIn_iff
  | createProtectedVolume => exact Client.canSend_createVolumeIn_iff
  | expandVolume id size => exact iff_of_true (Client.canSend_expandVolume _ _) trivial
  | renameVolume id name =>
      refine Operation.canSend_check_bind_iff.trans ?_
      rw [Volume.checkName_eq_ok_iff]
      exact and_iff_left (Client.canSend_execute Method.put_ne_get)
  | createSnapshot name sources hours =>
      refine Operation.canSend_check_bind_iff.trans ?_
      rw [Snapshot.checkArguments_eq_ok_iff]
      exact and_iff_left (Client.canSend_execute Method.post_ne_get)
  | modifySnapshot => exact Client.canSend_modifySnapshot_iff
  | deleteSnapshot name sources generation =>
      refine Operation.canSend_check_bind_iff.trans ?_
      rw [Snapshot.checkArguments_eq_ok_iff]
      exact and_iff_left (Client.canSend_execute Method.delete_ne_get)
  | deallocateVolume | replicate =>
      exact iff_of_true ((Client.canSend_execute Method.put_ne_get).settle.bind _) trivial
  | deleteResource | deleteVolume =>
      exact iff_of_true (Client.canSend_execute Method.delete_ne_get) trivial
  | protectStorageGroup => exact iff_of_true (Client.canSend_execute Method.post_ne_get) trivial
  | addToGroup | addToProtectedGroup | removeFromGroup | removeFromProtectedGroup =>
      exact iff_of_true (Client.canSend_execute Method.put_ne_get) trivial

end MutatingCall

/-- **A call sends its change, and no other.**  It has a run in which it sends the request of its
change exactly when its arguments are admissible; and whatever a run sends besides reads is this
request.  In the runs every wait has a deadline, and polls take no time. -/
theorem call_sends_its_change (c remote : Client) (m : MutatingCall) :
    ((∃ t r, (m.call.operation c remote).Yields t r ∧
        (c.site, m.change.request c) ∈ t.changes) ↔ m.Admissible) ∧
      ∀ t r, (m.call.operation c remote).Yields t r →
        ∀ x ∈ t.changes, x = (c.site, m.change.request c) :=
  ⟨m.canSend_change_iff c remote, fun _ _ hrun => m.changesBy c remote hrun⟩

end StorageArray
