import Mathlib.Tactic.Common
import StorageArray.Proofs.Validation
import StorageArray.Snapshot.Bracket
/-!
# A step between a link and its unlink

`linkDuring` runs a step, which may be any operation, between a link and an unlink.  The
arguments of the two are checked alike, so a link that was sent is followed by an unlink that is
sent (`Client.yields_unlinkSnapshot_iff`).  `Client.yields_linkDuring_iff` takes a run apart: it
is that of a link that has failed, or those of the link, the step and the unlink, one after the
other.  The main result says what this means for the requests and for the result.
-/

namespace StorageArray

/-- The checks before an action is sent. -/
def Snapshot.check (name : String) (sources : List VolumeId) (action : SnapshotAction) :
    Except ArrayError Unit :=
  checkArguments name sources >>= fun _ => checkAction name action

namespace Client

/-- The request of an action on a generation. -/
def generationRequest (c : Client) (name : String) (sources : List VolumeId)
    (generation : UInt32) (action : SnapshotAction) : Request :=
  .put (c.generationPath name generation) (Snapshot.changePayload sources generation action)

variable {c : Client} {name : String} {sources : List VolumeId} {generation : UInt32}
  {targets : List VolumeId} {action : SnapshotAction} {t : Transcript}

/-! ### Actions -/

/-- An action is sent when its arguments pass the checks. -/
lemma yields_modifySnapshot_iff (haction : action ≠ .rename name) {r : Except ArrayError Unit} :
    (c.modifySnapshot name sources generation action).Yields t r ↔
      match Snapshot.check name sources action with
      | .error e => t = [] ∧ r = .error e
      | .ok _ => (c.execute (c.generationRequest name sources generation action)
          ⟨"snapshot", name⟩).Yields t r := by
  have hrun : (c.modifySnapshot name sources generation action).run =
      match Snapshot.check name sources action with
      | .error e => .done (.error e)
      | .ok _ => (c.execute (c.generationRequest name sources generation action)
          ⟨"snapshot", name⟩).run := by
    unfold modifySnapshot Snapshot.check
    rw [if_neg haction]
    cases Snapshot.checkArguments name sources with
    | error e => rfl
    | ok _ => cases Snapshot.checkAction name action <;> rfl
  rw [Operation.Yields, hrun]
  cases Snapshot.check name sources action with
  | error e => exact Program.yields_done_iff
  | ok _ => exact Iff.rfl

/-- A link is sent when its arguments pass the checks. -/
lemma yields_linkSnapshot_iff {copy : Bool} {r : Except ArrayError Unit} :
    (c.linkSnapshot name sources generation targets copy).Yields t r ↔
      match Snapshot.check name sources (.unlink targets) with
      | .error e => t = [] ∧ r = .error e
      | .ok _ => (c.execute (c.generationRequest name sources generation (.link targets copy))
          ⟨"snapshot", name⟩).Yields t r :=
  have hlink : SnapshotAction.link targets copy ≠ .rename name := nofun
  yields_modifySnapshot_iff hlink

/-- The arguments of an unlink pass the checks when those of a link do. -/
lemma yields_unlinkSnapshot_iff {r : Except ArrayError Unit} :
    (c.unlinkSnapshot name sources generation targets).Yields t r ↔
      match Snapshot.check name sources (.unlink targets) with
      | .error e => t = [] ∧ r = .error e
      | .ok _ => (c.execute (c.generationRequest name sources generation (.unlink targets))
          ⟨"snapshot", name⟩).Yields t r :=
  have hunlink : SnapshotAction.unlink targets ≠ .rename name := nofun
  yields_modifySnapshot_iff hunlink

lemma generationRequest_link_ne_unlink {copy : Bool} :
    c.generationRequest name sources generation (.link targets copy) ≠
      c.generationRequest name sources generation (.unlink targets) := by
  intro h
  have hbody := congrArg Request.body h
  simp [generationRequest, Request.put, Snapshot.changePayload, SnapshotAction.verb] at hbody

/-! ### Brackets -/

/-- A run of a step in its bracket is that of a link that has failed, or those of the link, of the
step and of the unlink. -/
lemma yields_linkDuring_iff {α : Type} {step : Operation α} {r : Except ArrayError α} :
    (c.linkDuring name sources generation targets step).Yields t r ↔
      (∃ e, (c.linkSnapshot name sources generation targets false).Yields t (.error e) ∧
        r = .error e) ∨
      ∃ linking stepping unlinking outcome unlinked,
        t = linking ++ (stepping ++ unlinking) ∧
        (c.linkSnapshot name sources generation targets false).Yields linking (.ok ()) ∧
        step.Yields stepping outcome ∧
        (c.unlinkSnapshot name sources generation targets).Yields unlinking unlinked ∧
        r = Snapshot.bracketResult ("link of snapshot " ++ name ++ " generation "
          ++ toString generation.toNat) outcome unlinked := by
  rw [linkDuring, Operation.yields_bind, or_comm]
  refine or_congr Iff.rfl ?_
  constructor
  · rintro ⟨linking, rest, _, rfl, hlink, hrest⟩
    obtain ⟨stepping, rest, outcome, rfl, hstep, hrest⟩ := Operation.yields_settle_bind.1 hrest
    obtain ⟨unlinking, rest, unlinked, rfl, hunlink, hrest⟩ := Operation.yields_settle_bind.1 hrest
    obtain ⟨rfl, rfl⟩ := Operation.yields_ofExcept.1 hrest
    rw [List.append_nil]
    exact ⟨linking, stepping, unlinking, outcome, unlinked, rfl, hlink, hstep, hunlink, rfl⟩
  · rintro ⟨linking, stepping, unlinking, outcome, unlinked, rfl, hlink, hstep, hunlink, rfl⟩
    refine ⟨linking, _, (), rfl, hlink, ?_⟩
    refine Operation.yields_settle_bind.2 ⟨stepping, _, outcome, rfl, hstep, ?_⟩
    refine Operation.yields_settle_bind.2
      ⟨unlinking, [], unlinked, (List.append_nil _).symm, hunlink, ?_⟩
    exact Operation.yields_ofExcept.2 ⟨rfl, rfl⟩

end Client

/-- **A step runs in a bracket.**  When the link fails, its error is the result, and nothing is sent
but the link and the polls of its job; in particular no unlink.  Else the exchanges are those of the
link, those of one run of the step, and those of the unlink, in this order.

* The link and the unlink each send one change, for the same generation of the same snapshot, with
  the same sources and targets, and besides it polls of its job.
* The unlink is never refused for its arguments.
* The result is the value of the step when step and unlink succeed, and the one error when one of
  them fails.  When both fail, both errors are reported, that of the step first.

In the runs every wait has a deadline, and polls take no time. -/
theorem linkDuring_brackets {α : Type} (c : Client) (name : String) (sources : List VolumeId)
    (generation : UInt32) (targets : List VolumeId) (step : Operation α) {t : Transcript}
    {r : Except ArrayError α}
    (hrun : (c.linkDuring name sources generation targets step).Yields t r) :
    let link := c.generationRequest name sources generation (.link targets false)
    let unlink := c.generationRequest name sources generation (.unlink targets)
    let resource := "link of snapshot " ++ name ++ " generation " ++ toString generation.toNat
    (∃ e, (c.linkSnapshot name sources generation targets false).Yields t (.error e) ∧
      r = .error e ∧ (t = [] ∨ c.IsOneChange link t) ∧ ∀ x ∈ t, x.request ≠ unlink) ∨
    ∃ linking stepping unlinking outcome unlinked,
      t = linking ++ (stepping ++ unlinking) ∧
      (c.linkSnapshot name sources generation targets false).Yields linking (.ok ()) ∧
      c.IsOneChange link linking ∧
      step.Yields stepping outcome ∧
      (c.unlinkSnapshot name sources generation targets).Yields unlinking unlinked ∧
      c.IsOneChange unlink unlinking ∧
      (∀ detail, unlinked ≠ .error (.validation detail)) ∧
      (∀ a, outcome = .ok a → unlinked = .ok () → r = .ok a) ∧
      (∀ e, outcome = .error e → unlinked = .ok () → r = .error e) ∧
      (∀ a e, outcome = .ok a → unlinked = .error e → r = .error e) ∧
      ∀ e e', outcome = .error e → unlinked = .error e' →
        r = .error (.teardown resource false [e, e']) := by
  intro link unlink resource
  obtain ⟨e, hlink, rfl⟩ | ⟨linking, stepping, unlinking, outcome, unlinked, rfl, hlink, hstep,
    hunlink, rfl⟩ := Client.yields_linkDuring_iff.1 hrun
  · left
    have hsent := Client.yields_linkSnapshot_iff.1 hlink
    split at hsent
    · obtain ⟨rfl, -⟩ := hsent
      exact ⟨e, hlink, rfl, .inl rfl, nofun⟩
    · refine ⟨e, hlink, rfl, .inr (Client.shape_of_yields_execute hsent), fun x hx heq => ?_⟩
      rcases Client.request_of_mem_execute hsent hx with hrequest | hget
      · exact Client.generationRequest_link_ne_unlink (hrequest.symm.trans heq)
      · rw [heq] at hget
        exact Method.put_ne_get hget
  · right
    -- The link has passed the checks, and those of the unlink are the same.
    have hchecked : Snapshot.check name sources (.unlink targets) = .ok () := by
      rw [Client.yields_linkSnapshot_iff] at hlink
      split at hlink
      · cases hlink.2
      · assumption
    have hlinking := hlink
    have hunlinking := hunlink
    rw [Client.yields_linkSnapshot_iff, hchecked] at hlinking
    rw [Client.yields_unlinkSnapshot_iff, hchecked] at hunlinking
    refine ⟨linking, stepping, unlinking, outcome, unlinked, rfl, hlink,
      Client.shape_of_yields_execute hlinking, hstep, hunlink,
      Client.shape_of_yields_execute hunlinking, ?_, ?_, ?_, ?_, ?_⟩
    · rintro detail rfl
      have haccepted := Client.accepted_execute Method.put_ne_get hunlinking
      cases haccepted
    · rintro a rfl rfl
      rfl
    · rintro e rfl rfl
      rfl
    · rintro a e rfl rfl
      rfl
    · rintro e e' rfl rfl
      rfl

/-- A bracket in a bracket.  The step of the inner one fails, then the outer unlink is refused. -/
theorem linkDuring_brackets_nested :
    let c : Client := ⟨.home, ⟨"000197600123"⟩, .default⟩
    let inner : Operation Unit :=
      c.linkDuring "nightly" [⟨"0012A"⟩] 1 [⟨"0012C"⟩] (c.renameVolume ⟨"0012C"⟩ "mounted")
    let link := c.generationRequest "hourly" [⟨"0012A"⟩] 0 (.link [⟨"0012B"⟩] false)
    let unlink := c.generationRequest "hourly" [⟨"0012A"⟩] 0 (.unlink [⟨"0012B"⟩])
    let handle : Json := .object [("jobId", .string "7"), ("status", .string "SUCCEEDED")]
    let stepping : Transcript := [
      ⟨.home, c.generationRequest "nightly" [⟨"0012A"⟩] 1 (.link [⟨"0012C"⟩] false),
        .ok ⟨202, handle⟩⟩,
      ⟨.home, .put (c.volumePath ⟨"0012C"⟩) (Volume.renamePayload "mounted"), .ok ⟨404, .null⟩⟩,
      ⟨.home, c.generationRequest "nightly" [⟨"0012A"⟩] 1 (.unlink [⟨"0012C"⟩]),
        .ok ⟨200, .null⟩⟩]
    let t : Transcript := ⟨.home, link, .ok ⟨200, .null⟩⟩ ::
      (stepping ++ [⟨.home, unlink, .ok ⟨500, .string "busy"⟩⟩])
    let r : Except ArrayError Unit := .error (.teardown "link of snapshot hourly generation 0" false
      [.notFound "volume" "0012C", .rejected 500 "busy"])
    (c.linkDuring "hourly" [⟨"0012A"⟩] 0 [⟨"0012B"⟩] inner).Yields t r ∧
      ∃ linking middle unlinking outcome, t = linking ++ (middle ++ unlinking) ∧
        c.IsOneChange link linking ∧ inner.Yields middle outcome ∧
        c.IsOneChange unlink unlinking := by
  intro c inner link unlink handle stepping t r
  let s : Stage := { home := { queued := t.map (·.answer) } }
  let outer := c.linkDuring "hourly" [⟨"0012A"⟩] 0 [⟨"0012B"⟩] inner
  have htranscript : outer.run.transcript Stage.answer s = t := by
    unfold outer inner c
    rfl
  have hresult : (s.perform outer).1 = r := by
    unfold outer inner c
    rfl
  have hrun : outer.Yields t r := Stage.yields_of_perform htranscript hresult
  refine ⟨hrun, ?_⟩
  obtain ⟨e, -, -, -, hunlink⟩ | ⟨linking, middle, unlinking, outcome, _, ht, -, hlinking,
    hmiddle, -, hunlinking, -⟩ :=
    linkDuring_brackets c "hourly" [⟨"0012A"⟩] 0 [⟨"0012B"⟩] inner hrun
  · have hlast : (⟨.home, unlink, .ok ⟨500, .string "busy"⟩⟩ : Exchange) ∈ t := by simp [t]
    exact absurd rfl (hunlink _ hlast)
  · exact ⟨linking, middle, unlinking, outcome, ht, hlinking, hmiddle, hunlinking⟩

end StorageArray
