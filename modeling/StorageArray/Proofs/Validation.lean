import Mathlib.Tactic.Common
import StorageArray.Proofs.Call
import StorageArray.Proofs.Replication.Teardown
import StorageArray.Proofs.Sequence
import StorageArray.Proofs.Volume.Lookup
/-!
# Errors about arguments

An operation reports a validation error when its arguments, or the state that it has read, do not
allow what it was asked for.  `Operation.Accepted` is the property of operations that never report
one, and `Operation.ChecksFirst` that of operations that report one only while all that they have
sent are reads.  Requests are accepted (`Client.accepted_read`, `Client.accepted_execute`): what the
array answers is never taken for an error of the caller.  Both properties pass from parts to wholes,
so that of an operation follows from where its checks stand.

The main result goes through the calls that check arguments.  The creation of a volume is the one
that may report a validation error after its change, and `Client.cases_of_yields_createVolumeIn`
says when.
-/

namespace StorageArray

/-- The error is about arguments, or about a state of the array that does not allow them. -/
def ArrayError.isValidation : ArrayError → Bool
  | .validation _ => true
  | _ => false

/-- The error is one with which requests fail: the array has reported it, or it has not answered as
it should. -/
def ArrayError.isOfRequest : ArrayError → Bool
  | .notFound .. | .conflict .. | .rejected .. | .jobFailed .. => true
  | .timeout .. | .unexpectedResponse .. | .transport _ => true
  | _ => false

/-- No request fails because of the caller. -/
lemma ArrayError.isValidation_of_isOfRequest {e : ArrayError} (h : e.isOfRequest = true) :
    e.isValidation = false := by
  cases e with
  | validation detail => cases h
  | _ => rfl

/-! ### What answers are taken for -/

/-- A result that is only mapped keeps its error. -/
lemma error_of_map {α β ε : Type} {f : α → β} {x : Except ε α} {e : ε}
    (h : x.map f = .error e) : x = .error e := by
  cases x with
  | ok a => cases h
  | error e' =>
      cases h
      rfl

lemma Answer.Fails.isOfRequest {subject : Subject} {answer : Answer} {e : ArrayError}
    (h : answer.Fails subject e) : e.isOfRequest = true := by
  cases h with
  | lost e => rfl
  | refused hrefused =>
      simp only [Reply.refusal]
      split_ifs <;> rfl
  | unreadable hsuccess context detail => rfl

lemma Listing.isValidation_idOf {context : String} {value : Json} {e : ArrayError}
    (h : idOf context value = .error e) : e.isValidation = false := by
  unfold idOf at h
  split at h
  · cases h
  · cases h
  · cases h
    rfl

/-- A listing that cannot be read is no error of the caller. -/
lemma Listing.isValidation_listed {key : String} {body : Json} {e : ArrayError}
    (h : listed key body = .error e) : e.isValidation = false := by
  have hitems {items : List Json} (h : items.mapM (idOf (key ++ " listing")) = .error e) :
      e.isValidation = false := by
    obtain ⟨before, item, after, -, -, hitem⟩ := mapM_eq_error_iff.1 h
    exact isValidation_idOf hitem
  simp only [listed] at h
  split at h
  · cases h
  · split at h
    · exact hitems h
    · split at h
      · cases h
      · cases h
      · exact hitems h
      · exact isValidation_idOf (error_of_map h)
  · cases h
    rfl

namespace Client

variable {α : Type} {c : Client} {request : Request} {subject : Subject}

/-- A change fails with an error of its request, or of the polls after it. -/
lemma isOfRequest_of_yields_execute (hm : request.method ≠ .get) {t : Transcript} {e : ArrayError}
    (h : (c.execute request subject).Yields t (.error e)) : e.isOfRequest = true := by
  obtain hsettles | ⟨e', he, hunsettled⟩ := cases_of_yields_execute hm h
  · obtain ⟨job, text, rfl⟩ := hsettles.exists_jobFailed
    rfl
  · cases he
    obtain ⟨about, x, -, hfails⟩ | ⟨job, rfl⟩ := hunsettled.fails
    · exact hfails.isOfRequest
    · rfl

lemma isOfRequest_of_on_read {context : String} {shape : Shape α} {answer : Answer}
    {e : ArrayError} (h : (c.read request subject context shape).on answer = .error e) :
    e.isOfRequest = true := by
  rw [on_read] at h
  exact (fails_of_valueIn h).isOfRequest

end Client

/-! ### Operations and their checks -/

namespace Operation

variable {α β : Type}

/-- The operation never reports a validation error. -/
def Accepted (op : Operation α) : Prop :=
  ∀ ⦃t : Transcript⦄ ⦃e : ArrayError⦄, op.Yields t (.error e) → e.isValidation = false

/-- When the operation reports a validation error, all that it has sent are reads. -/
def ChecksFirst (op : Operation α) : Prop :=
  ∀ ⦃t : Transcript⦄ ⦃e : ArrayError⦄, op.Yields t (.error e) → e.isValidation = true →
    t.changes = []

namespace Accepted

lemma ofExcept {result : Except ArrayError α}
    (h : ∀ e, result = .error e → e.isValidation = false) : Accepted (.ofExcept result) := by
  intro t e hyields
  obtain ⟨-, hresult⟩ := yields_ofExcept.1 hyields
  exact h e hresult.symm

lemma pure (a : α) : Accepted (Pure.pure a : Operation α) := .ofExcept nofun

lemma bind {op : Operation α} {f : α → Operation β} (hop : Accepted op)
    (hf : ∀ a, Accepted (f a)) : Accepted (op >>= f) := by
  intro t e h
  obtain ⟨t₁, t₂, a, rfl, -, h₂⟩ | ⟨e', h, he⟩ := yields_bind.1 h
  · exact hf a h₂
  · cases he
    exact hop h

/-- A settled operation is accepted, whatever it reports as its value. -/
lemma settle (op : Operation α) : Accepted op.settle := by
  intro t e h
  obtain ⟨q, -, hq⟩ := yields_settle.1 h
  cases hq

lemma ite {p : Prop} [Decidable p] {op op' : Operation α} (hop : Accepted op)
    (hop' : Accepted op') : Accepted (if p then op else op') := by
  split
  · exact hop
  · exact hop'

end Accepted

namespace ChecksFirst

lemma of_accepted {op : Operation α} (h : Accepted op) : ChecksFirst op := by
  intro t e hyields hvalidation
  rw [h hyields] at hvalidation
  cases hvalidation

lemma of_reads {op : Operation α} (h : Reads op) : ChecksFirst op := fun _ _ hyields _ => h hyields

/-- What comes after reads may check as well. -/
lemma bind_of_reads {op : Operation α} {f : α → Operation β} (hop : Reads op)
    (hf : ∀ a, ChecksFirst (f a)) : ChecksFirst (op >>= f) := by
  intro t e h hvalidation
  obtain ⟨t₁, t₂, a, rfl, h₁, h₂⟩ | ⟨e', h, -⟩ := yields_bind.1 h
  · rw [Transcript.changes_append, hop h₁, hf a h₂ hvalidation, List.append_nil]
  · exact hop h

lemma ite {p : Prop} [Decidable p] {op op' : Operation α} (hop : ChecksFirst op)
    (hop' : ChecksFirst op') : ChecksFirst (if p then op else op') := by
  split
  · exact hop
  · exact hop'

end ChecksFirst

end Operation

namespace Client

open Operation (Accepted ChecksFirst)

variable {c : Client}

section Requests

variable {α : Type} {request : Request} {subject : Subject} {context : String} {shape : Shape α}

lemma accepted_read : Accepted (c.read request subject context shape) := by
  intro t e h
  obtain ⟨answer, -, he⟩ := yields_read_on_iff.1 h
  exact e.isValidation_of_isOfRequest (isOfRequest_of_on_read he.symm)

/-- A change that fails is no error of the caller. -/
lemma accepted_execute (hm : request.method ≠ .get) : Accepted (c.execute request subject) := by
  intro t e h
  exact e.isValidation_of_isOfRequest (isOfRequest_of_yields_execute hm h)

end Requests

section Volumes

open Volume (RemoteGroup)

variable {id : VolumeId} {group name : String} {size : UInt32}

lemma accepted_changeVolume (payload : Json) : Accepted (c.changeVolume id payload) :=
  accepted_execute Method.put_ne_get

lemma accepted_changeStorageGroup (payload : Json) :
    Accepted (c.changeStorageGroup group payload) :=
  accepted_execute Method.put_ne_get

lemma checksFirst_renameVolume : ChecksFirst (c.renameVolume id name) :=
  .bind_of_reads (Operation.reads_ofExcept _) fun _ => .of_accepted (accepted_changeVolume _)

/-- The size is checked between the read and the change. -/
lemma checksFirst_expandVolume : ChecksFirst (c.expandVolume id size) := by
  refine .bind_of_reads (reads_read rfl) fun before => .ite ?_ (.of_accepted ?_)
  · exact .of_reads (Operation.reads_ofExcept _)
  · refine .bind (accepted_changeVolume _) fun _ => .bind accepted_read fun after => ?_
    exact .ite (.pure ()) (.ofExcept fun e he => by cases he; rfl)

/-- A listing that fails is no error of the caller. -/
lemma isValidation_textsIn {request : Request} {subject : Subject} {key : String} {answer : Answer}
    {e : ArrayError} (h : textsIn request subject key answer = .error e) :
    e.isValidation = false := by
  unfold textsIn at h
  cases hbody : bodyIn request subject answer with
  | error e' =>
      rw [hbody] at h
      cases h
      exact e.isValidation_of_isOfRequest (fails_of_bodyIn hbody).isOfRequest
  | ok body =>
      rw [hbody] at h
      exact Listing.isValidation_listed h

lemma isValidation_volumesIn {name group : Option String} {answer : Answer} {e : ArrayError}
    (h : c.volumesIn name group answer = .error e) : e.isValidation = false := by
  unfold volumesIn at h
  cases htexts : textsIn (c.volumeQuery name group) ⟨"volume", name.getD "*"⟩ "volumeId" answer with
  | error e' =>
      rw [htexts] at h
      cases h
      exact isValidation_textsIn htexts
  | ok texts =>
      rw [htexts] at h
      cases h

/-- Only several volumes are too many. -/
lemma exists_ne_of_resolved {texts : List String} {e : ArrayError}
    (h : Resolved group name texts (.error e)) (he : e.isValidation = true) :
    ∃ x ∈ texts, ∃ y ∈ texts, (Identifier.ofString x : VolumeId) ≠ Identifier.ofString y := by
  have htexts : texts ≠ [] := by
    intro hnone
    cases h.none.2 hnone
    cases he
  obtain ⟨ids, hids, hlength, -⟩ := h.several htexts nofun
  match ids with
  | [] => cases hlength
  | [_] => exact absurd hlength (Nat.lt_irrefl 1)
  | a :: b :: ids =>
      have hne : a ≠ b := by
        rintro rfl
        exact (List.nodup_cons.1 hids.nodup).1 List.mem_cons_self
      obtain ⟨x, hx, rfl⟩ := List.mem_map.1 ((hids.mem_iff a).1 List.mem_cons_self)
      obtain ⟨y, hy, rfl⟩ :=
        List.mem_map.1 ((hids.mem_iff b).1 (List.mem_cons_of_mem _ List.mem_cons_self))
      exact ⟨x, hx, y, hy, hne⟩

/-- A creation reports a validation error before it sends anything, or when its change was confirmed
and several volumes are found. -/
lemma cases_of_yields_createVolumeIn {partner : Option RemoteGroup} {t : Transcript}
    {e : ArrayError}
    (h : (c.createVolumeIn group name size partner).Yields t (.error e))
    (he : e.isValidation = true) :
    t = [] ∨ ∃ changing response texts,
      t = changing ++ [⟨c.site, c.volumeQuery (some name) (some group), .ok response⟩] ∧
      c.Settles (.put (c.storageGroupPath group) (Volume.creationPayload name size partner))
        changing (.ok ()) ∧
      response.isSuccess = true ∧ Listing.listed "volumeId" response.body = .ok texts ∧
      ∃ x ∈ texts, ∃ y ∈ texts, (Identifier.ofString x : VolumeId) ≠ Identifier.ofString y := by
  by_cases hinvalid : Text.allBlank name = true ∨ size = 0
  · obtain ⟨detail, hrun⟩ : ∃ detail,
        (c.createVolumeIn group name size partner).run = .done (.error (.validation detail)) :=
      run_createVolumeIn_of_invalid hinvalid
    rw [Operation.Yields, hrun] at h
    exact .inl (Program.yields_done_iff.1 h).1
  · obtain ⟨hname, hsize⟩ := not_or.1 hinvalid
    obtain ⟨changing, rest, q, rfl, hchanging, hrest⟩ :=
      (yields_createVolumeIn_iff (Bool.eq_false_iff.2 hname) hsize).1 h
    cases q with
    | error e' =>
        obtain ⟨-, he'⟩ := hrest
        cases he'
        rw [accepted_changeStorageGroup _ hchanging] at he
        cases he
    | ok _ =>
        obtain ⟨answer, rfl, hresult⟩ := hrest
        cases hids : c.volumesIn (some name) (some group) answer with
        | error e' =>
            -- The lookup has failed, and this is no error of the caller.
            rw [hids] at hresult
            cases hresult
            rw [isValidation_volumesIn hids] at he
            cases he
        | ok ids =>
            obtain ⟨texts, ⟨response, rfl, hsuccess, hlisted⟩, rfl⟩ := volumesIn_eq_ok_iff.1 hids
            rw [hids] at hresult
            have hresolved : Resolved group name texts (.error e) := by
              rw [hresult]
              exact resolved_onlyVolume texts
            refine .inr ⟨changing, response, texts, rfl, ?_, hsuccess, hlisted,
              exists_ne_of_resolved hresolved he⟩
            exact (yields_execute_ok_iff Method.put_ne_get).1 hchanging

end Volumes

section Snapshots

variable {name : String} {sources : List VolumeId} {generation : UInt32}

lemma checksFirst_createSnapshot {hours : Option UInt32} :
    ChecksFirst (c.createSnapshot name sources hours) :=
  .bind_of_reads (Operation.reads_ofExcept _) fun _ =>
    .of_accepted (accepted_execute Method.post_ne_get)

lemma checksFirst_modifySnapshot {action : SnapshotAction} :
    ChecksFirst (c.modifySnapshot name sources generation action) := by
  refine .bind_of_reads (Operation.reads_ofExcept _) fun _ => ?_
  refine .bind_of_reads (Operation.reads_ofExcept _) fun _ => .of_accepted ?_
  exact .ite (.pure ()) (accepted_execute Method.put_ne_get)

lemma checksFirst_deleteSnapshot : ChecksFirst (c.deleteSnapshot name sources generation) :=
  .bind_of_reads (Operation.reads_ofExcept _) fun _ =>
    .of_accepted (accepted_execute Method.delete_ne_get)

/-- To rename a snapshot to the name that it has, nothing is sent. -/
lemma run_modifySnapshot_rename_self :
    (c.modifySnapshot name sources generation (.rename name)).run =
      .done (Snapshot.checkArguments name sources) := by
  have haction (h : Snapshot.checkArguments name sources = .ok ()) :
      Snapshot.checkAction name (.rename name) = .ok () := by
    obtain ⟨hname, -⟩ := Snapshot.checkArguments_eq_ok_iff.1 h
    rw [Snapshot.checkAction, hname]
    rfl
  rw [modifySnapshot, Operation.run_bind, Operation.run_ofExcept, Program.done_bind]
  cases harguments : Snapshot.checkArguments name sources with
  | error e => rfl
  | ok _ =>
      simp only [haction harguments]
      rfl

end Snapshots

/-- Of the stages of a teardown of a pair only the lookup comes before its check. -/
lemma checksFirst_teardownProtectedVolume {remote : Client} {number : UInt32}
    {group remoteGroup : String} {id : VolumeId} :
    ChecksFirst (c.teardownProtectedVolume remote number group remoteGroup id) := by
  refine .bind_of_reads (fun t r h => ?_) fun pair => .ite ?_ (.of_accepted ?_)
  · obtain ⟨answer, rfl, -⟩ := yields_requirePair_iff.1 h
    rfl
  · exact .of_reads (Operation.reads_ofExcept _)
  · refine .bind (accepted_changeStorageGroup _) fun _ => ?_
    refine .bind (.settle _) fun here => .bind (.settle _) fun there => ?_
    exact .ite (.pure ()) (.ofExcept fun e he => by cases he; rfl)

end Client

/-! ### Calls -/

namespace Call

/-- The calls whose arguments are checked before they change anything. -/
def ChecksArguments {α : Type} : Call α → Prop
  | .renameVolume .. | .expandVolume .. => True
  | .createSnapshot .. | .modifySnapshot .. | .deleteSnapshot .. => True
  | .linkSnapshot .. | .unlinkSnapshot .. | .renameSnapshot .. | .restoreSnapshot .. => True
  | .teardownProtectedVolume .. => True
  | _ => False

/-- The calls that create a volume, with their arguments. -/
inductive Creates :
    Call VolumeId → String → String → UInt32 → Option Volume.RemoteGroup → Prop
  /-- A volume without a partner. -/
  | alone (group name : String) (size : UInt32) :
    Creates (.createVolume group name size) group name size none
  /-- A volume with a partner. -/
  | paired (remoteArray : ArrayId) (group remoteGroup name : String) (size : UInt32) :
    Creates (.createProtectedVolume remoteArray group remoteGroup name size) group name size
      (some ⟨remoteArray, remoteGroup, false⟩)

lemma ChecksArguments.checksFirst {α : Type} {call : Call α} (h : call.ChecksArguments)
    (c remote : Client) : Operation.ChecksFirst (call.operation c remote) := by
  open Client in
  cases call with
  | renameVolume id name => exact checksFirst_renameVolume
  | expandVolume id size => exact checksFirst_expandVolume
  | createSnapshot name sources hours => exact checksFirst_createSnapshot
  | modifySnapshot name sources generation action => exact checksFirst_modifySnapshot
  | linkSnapshot name sources generation targets copy => exact checksFirst_modifySnapshot
  | unlinkSnapshot name sources generation targets => exact checksFirst_modifySnapshot
  | renameSnapshot name sources generation newName => exact checksFirst_modifySnapshot
  | restoreSnapshot name sources generation => exact checksFirst_modifySnapshot
  | deleteSnapshot name sources generation => exact checksFirst_deleteSnapshot
  | teardownProtectedVolume number group remoteGroup id =>
      exact checksFirst_teardownProtectedVolume
  | _ => exact h.elim

lemma Creates.operation_eq {call : Call VolumeId} {group name : String} {size : UInt32}
    {partner : Option Volume.RemoteGroup} (h : call.Creates group name size partner)
    (c remote : Client) :
    call.operation c remote = c.createVolumeIn group name size partner := by
  cases h with
  | alone => rfl
  | paired => rfl

end Call

/-- **Errors about arguments leave the arrays untouched.**

* When a call that checks arguments reports a validation error, no request but reads was sent to
  either array.
* The creation of a volume without a name or without a size reports a validation error and sends
  nothing.  It reports one after its change only when the change was confirmed and the lookup has
  listed two identifiers that differ.
* To rename a snapshot to the name that it has sends nothing, whatever the generation, and succeeds
  when there is a name and there are sources.

In the runs every wait has a deadline, and polls take no time. -/
theorem validation_leaves_arrays_untouched (c remote : Client) :
    (∀ {α : Type} (call : Call α), call.ChecksArguments → ∀ (t : Transcript) (detail : String),
      (call.operation c remote).Yields t (.error (.validation detail)) → t.changes = []) ∧
    (∀ (call : Call VolumeId) (group name : String) (size : UInt32)
        (partner : Option Volume.RemoteGroup), call.Creates group name size partner →
      (Text.allBlank name = true ∨ size = 0 →
        ∃ detail, (call.operation c remote).run = .done (.error (.validation detail))) ∧
      ∀ (t : Transcript) (detail : String),
        (call.operation c remote).Yields t (.error (.validation detail)) →
          t = [] ∨ ∃ changing response texts,
            t = changing ++ [⟨c.site, c.volumeQuery (some name) (some group), .ok response⟩] ∧
            c.Settles (.put (c.storageGroupPath group) (Volume.creationPayload name size partner))
              changing (.ok ()) ∧
            response.isSuccess = true ∧ Listing.listed "volumeId" response.body = .ok texts ∧
            ∃ x ∈ texts, ∃ y ∈ texts,
              (Identifier.ofString x : VolumeId) ≠ Identifier.ofString y) ∧
    ∀ (name : String) (sources : List VolumeId) (generation : UInt32),
      ((Call.renameSnapshot name sources generation name).operation c remote).run =
          .done (Snapshot.checkArguments name sources) ∧
        ((Call.modifySnapshot name sources generation (.rename name)).operation c remote).run =
          .done (Snapshot.checkArguments name sources) ∧
        (Text.allBlank name = false → sources ≠ [] →
          Snapshot.checkArguments name sources = .ok ()) := by
  refine ⟨?_, ?_, ?_⟩
  · intro α call hcall t detail h
    exact hcall.checksFirst c remote h rfl
  · intro call group name size partner hcall
    rw [hcall.operation_eq]
    exact ⟨Client.run_createVolumeIn_of_invalid, fun t detail h =>
      Client.cases_of_yields_createVolumeIn h rfl⟩
  · intro name sources generation
    refine ⟨Client.run_modifySnapshot_rename_self, Client.run_modifySnapshot_rename_self, ?_⟩
    intro hname hsources
    exact Snapshot.checkArguments_eq_ok_iff.2 ⟨hname, hsources⟩

/-- A creation by a job, after which two volumes are found, one of them twice. -/
theorem validation_leaves_arrays_untouched_ambiguous :
    let c : Client := ⟨.home, ⟨"000197600123"⟩, .default⟩
    let remote : Client := ⟨.remote, ⟨"000197600456"⟩, .default⟩
    let call : Call VolumeId := .createVolume "SG1" "data01" 10
    let change : Request :=
      .put (c.storageGroupPath "SG1") (Volume.creationPayload "data01" 10 none)
    let job : Json := .object [("jobId", .string "7"), ("status", .string "SUCCEEDED")]
    let listing : Json := .object
      [("volumeId", .array [.string "0012A", .string "0012B", .string " 0012A"])]
    let t : Transcript := [⟨.home, change, .ok ⟨202, job⟩⟩,
      ⟨.home, c.volumeQuery (some "data01") (some "SG1"), .ok ⟨200, listing⟩⟩]
    let detail := "2 volumes named data01 in storage group SG1: 0012A, 0012B"
    call.Creates "SG1" "data01" 10 none ∧
      (call.operation c remote).Yields t (.error (.validation detail)) ∧
      ∃ changing lookup, t = changing ++ [lookup] ∧ c.Settles change changing (.ok ()) := by
  intro c remote call change job listing t detail
  let s : Stage := { home := { queued := t.map (·.answer) } }
  have htranscript : (call.operation c remote).run.transcript Stage.answer s = t := by
    unfold c call
    rfl
  have hresult : (s.perform (call.operation c remote)).1 = .error (.validation detail) := by
    unfold c call
    rfl
  have hcreates : call.Creates "SG1" "data01" 10 none := .alone "SG1" "data01" 10
  have hrun : (call.operation c remote).Yields t (.error (.validation detail)) :=
    Stage.yields_of_perform htranscript hresult
  obtain ⟨-, hcreation, -⟩ := validation_leaves_arrays_untouched c remote
  obtain hnone | ⟨changing, response, texts, ht, hsettles, -⟩ :=
    (hcreation call "SG1" "data01" 10 none hcreates).2 _ _ hrun
  · exact absurd hnone (List.cons_ne_nil _ _)
  · exact ⟨hcreates, hrun, changing, _, ht, hsettles⟩

end StorageArray
