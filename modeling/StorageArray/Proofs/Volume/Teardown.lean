import Mathlib.Tactic.Common
import StorageArray.Proofs.Job.Settlement
import StorageArray.Volume.Teardown
/-!
# The run of a teardown

The exchanges of a teardown are those of its steps: the fetch of the volume, the marking, one
removal for each group, and, when all of these count as done, the release of the tracks and the
deletion.  `Client.yields_teardownVolume_iff` cuts a run into these pieces; `GroupRemoval` is
the piece of one group, and `Client.yields_detachFrom_iff` is the loop over the groups.
-/

namespace StorageArray

namespace Client

variable {c : Client} {id : VolumeId}

lemma yields_markForDeletion_iff {volume : Volume} {t : Transcript}
    {r : Except ArrayError (List ArrayError)} :
    (c.markForDeletion volume id).Yields t r ↔
      if volume.name = some (deletionMarker id) then t = [] ∧ r = .ok []
      else ∃ q, (c.renameVolume id (deletionMarker id)).Yields t q ∧ r = .ok (errorOf q) := by
  unfold markForDeletion
  split
  · exact Operation.yields_pure
  · exact Operation.yields_settle_bind_ofExcept fun q => rfl

end Client

/-- What became of the removal of a volume from one group. -/
structure GroupRemoval where
  /-- The group. -/
  group : String
  /-- The exchanges of the removal. -/
  exchanges : Transcript
  /-- How it ended. -/
  result : Except ArrayError Unit

/-- The errors that a removal leaves for the report. -/
def GroupRemoval.errors (x : GroupRemoval) : List ArrayError :=
  if doneOrGone x.result then [] else errorOf x.result

lemma GroupRemoval.errors_eq_nil_iff {x : GroupRemoval} :
    x.errors = [] ↔ doneOrGone x.result = true := by
  unfold errors
  cases hr : x.result with
  | ok a => simp [doneOrGone]
  | error e =>
      by_cases hmissing : e.isNotFound = true
      · simp [doneOrGone, hmissing]
      · simp [doneOrGone, errorOf, hmissing]

namespace Client

variable {c : Client} {id : VolumeId}

/-- The loop over the groups makes one removal for each, in order, whatever became of those
before. -/
lemma yields_detachFrom_iff {groups : List String} {t : Transcript}
    {r : Except ArrayError (List ArrayError)} :
    (c.detachFrom id groups).Yields t r ↔
      ∃ removals : List GroupRemoval, removals.map (·.group) = groups ∧
        (∀ x ∈ removals, (c.removeFromGroup x.group id).Yields x.exchanges x.result) ∧
        t = removals.flatMap (·.exchanges) ∧ r = .ok (removals.flatMap (·.errors)) := by
  induction groups generalizing t r with
  | nil =>
      rw [detachFrom, Operation.yields_pure]
      constructor
      · rintro ⟨rfl, rfl⟩
        exact ⟨[], rfl, by simp, rfl, rfl⟩
      · rintro ⟨removals, hgroups, -, rfl, rfl⟩
        obtain rfl := List.map_eq_nil_iff.1 hgroups
        exact ⟨rfl, rfl⟩
  | cons group rest ih =>
      rw [detachFrom, Operation.yields_settle_bind]
      constructor
      · rintro ⟨t₁, t₂, q, rfl, h₁, h₂⟩
        obtain ⟨t₂, t₃, errors, rfl, hloop, h₃⟩ | ⟨e, hloop, -⟩ := Operation.yields_bind.1 h₂
        · obtain ⟨rfl, rfl⟩ := Operation.yields_pure.1 h₃
          obtain ⟨removals, hgroups, hruns, rfl, herrors⟩ := ih.1 hloop
          cases herrors
          refine ⟨⟨group, t₁, q⟩ :: removals, by rw [List.map_cons, hgroups], ?_, by simp, ?_⟩
          · intro x hx
            rcases List.mem_cons.1 hx with rfl | hx
            · exact h₁
            · exact hruns x hx
          · rw [List.flatMap_cons, GroupRemoval.errors]
            split
            · rfl
            · rfl
        · -- The loop collects errors and has none of its own.
          obtain ⟨removals, -, -, -, herrors⟩ := ih.1 hloop
          cases herrors
      · rintro ⟨removals, hgroups, hruns, rfl, rfl⟩
        obtain ⟨x, removals, rfl, rfl, rfl⟩ := List.map_eq_cons_iff.1 hgroups
        refine ⟨x.exchanges, removals.flatMap (·.exchanges), x.result, by simp,
          hruns x List.mem_cons_self, ?_⟩
        refine Operation.yields_bind.2 (.inl ⟨_, [], removals.flatMap (·.errors),
          (List.append_nil _).symm, ?_, ?_⟩)
        · exact ih.2 ⟨removals, rfl, fun y hy => hruns y (List.mem_cons_of_mem _ hy), rfl, rfl⟩
        · refine Operation.yields_pure.2 ⟨rfl, ?_⟩
          rw [List.flatMap_cons, GroupRemoval.errors]
          split
          · rfl
          · rfl

/-- The last two steps: the tracks are released, and then the volume is deleted. -/
lemma yields_releaseAndDelete_iff {t : Transcript}
    {r : Except ArrayError (Bool × List ArrayError)} :
    (c.releaseAndDelete id).Yields t r ↔
      (∃ e, (c.deallocateVolume id).Yields t (.error e) ∧ r = .ok (false, [e])) ∨
        ∃ t₁ t₂ q, t = t₁ ++ t₂ ∧ (c.deallocateVolume id).Yields t₁ (.ok ()) ∧
          (c.deleteVolume id).Yields t₂ q ∧ r = .ok (q.isOk, errorOf q) := by
  rw [releaseAndDelete, Operation.yields_settle_bind]
  constructor
  · rintro ⟨t₁, t₂, q, rfl, h₁, h₂⟩
    cases q with
    | error e =>
        obtain ⟨rfl, rfl⟩ := Operation.yields_pure.1 h₂
        rw [List.append_nil]
        exact .inl ⟨e, h₁, rfl⟩
    | ok a =>
        obtain ⟨t₂, t₃, q, rfl, hq, h₃⟩ := Operation.yields_settle_bind.1 h₂
        cases q with
        | error e =>
            obtain ⟨rfl, rfl⟩ := Operation.yields_pure.1 h₃
            rw [List.append_nil]
            exact .inr ⟨t₁, t₂, .error e, rfl, h₁, hq, rfl⟩
        | ok a =>
            obtain ⟨rfl, rfl⟩ := Operation.yields_pure.1 h₃
            rw [List.append_nil]
            exact .inr ⟨t₁, t₂, .ok a, rfl, h₁, hq, rfl⟩
  · rintro (⟨e, h, rfl⟩ | ⟨t₁, t₂, q, rfl, h₁, h₂, rfl⟩)
    · exact ⟨t, [], .error e, (List.append_nil t).symm, h, Operation.yields_pure.2 ⟨rfl, rfl⟩⟩
    · refine ⟨t₁, t₂, .ok (), rfl, h₁, ?_⟩
      refine Operation.yields_settle_bind.2 ⟨t₂, [], q, (List.append_nil t₂).symm, h₂, ?_⟩
      cases q with
      | error e => exact Operation.yields_pure.2 ⟨rfl, rfl⟩
      | ok a => exact Operation.yields_pure.2 ⟨rfl, rfl⟩

/-- The last two steps if the volume has left its groups, else nothing. -/
def finishTeardown (c : Client) (id : VolumeId) (detached : Bool) :
    Operation (Bool × List ArrayError) :=
  if detached then c.releaseAndDelete id else pure (false, [])

/-- The report of a teardown: nothing when no step has failed. -/
def teardownReport (id : VolumeId) (deleted : Bool) (errors : List ArrayError) :
    Except ArrayError Unit :=
  if errors.isEmpty then .ok () else .error (.teardown ("volume " ++ id.text) deleted errors)

/-- The steps of a teardown in a row. -/
lemma teardownVolume_eq :
    c.teardownVolume id = (do
      let volume ← c.getVolume id
      let marking ← c.markForDeletion volume id
      let detaching ← c.detachFrom id volume.storageGroups
      let fate ← c.finishTeardown id detaching.isEmpty
      .ofExcept (teardownReport id fate.1 (marking ++ detaching ++ fate.2))) := by
  have hreport (deleted : Bool) (errors : List ArrayError) :
      (if errors.isEmpty then pure ()
        else .fail (.teardown ("volume " ++ id.text) deleted errors) : Operation Unit) =
        .ofExcept (teardownReport id deleted errors) := by
    unfold teardownReport
    split
    · rfl
    · rfl
  unfold teardownVolume
  simp only [hreport]
  congr 1
  funext volume
  congr 1
  funext marking
  congr 1
  funext detaching
  unfold finishTeardown
  split
  · rfl
  · rfl

/-- A teardown ends with the fetch of the volume, or goes through its steps. -/
lemma yields_teardownVolume_iff {t : Transcript} {r : Except ArrayError Unit} :
    (c.teardownVolume id).Yields t r ↔
      (∃ e, (c.getVolume id).Yields t (.error e) ∧ r = .error e) ∨
        ∃ t₁ t₂ t₃ t₄ volume marking detaching fate, t = t₁ ++ (t₂ ++ (t₃ ++ t₄)) ∧
          (c.getVolume id).Yields t₁ (.ok volume) ∧
          (c.markForDeletion volume id).Yields t₂ (.ok marking) ∧
          (c.detachFrom id volume.storageGroups).Yields t₃ (.ok detaching) ∧
          (c.finishTeardown id detaching.isEmpty).Yields t₄ (.ok fate) ∧
          r = teardownReport id fate.1 (marking ++ detaching ++ fate.2) := by
  -- Only the fetch can end the teardown early: the other steps turn errors into values.
  have hmark {volume : Volume} {t : Transcript} {r : Except ArrayError (List ArrayError)}
      (h : (c.markForDeletion volume id).Yields t r) : ∃ marking, r = .ok marking := by
    rw [yields_markForDeletion_iff] at h
    split at h
    · exact ⟨[], h.2⟩
    · obtain ⟨q, -, rfl⟩ := h
      exact ⟨errorOf q, rfl⟩
  have hdetach {groups : List String} {t : Transcript} {r : Except ArrayError (List ArrayError)}
      (h : (c.detachFrom id groups).Yields t r) : ∃ detaching, r = .ok detaching := by
    obtain ⟨removals, -, -, -, rfl⟩ := yields_detachFrom_iff.1 h
    exact ⟨removals.flatMap (·.errors), rfl⟩
  have hfinish {detached : Bool} {t : Transcript}
      {r : Except ArrayError (Bool × List ArrayError)}
      (h : (c.finishTeardown id detached).Yields t r) : ∃ fate, r = .ok fate := by
    unfold finishTeardown at h
    split at h
    · obtain ⟨e, -, rfl⟩ | ⟨t₁, t₂, q, -, -, -, rfl⟩ := yields_releaseAndDelete_iff.1 h
      · exact ⟨(false, [e]), rfl⟩
      · exact ⟨(q.isOk, errorOf q), rfl⟩
    · exact ⟨(false, []), (Operation.yields_pure.1 h).2⟩
  rw [teardownVolume_eq, Operation.yields_bind, or_comm]
  refine or_congr Iff.rfl ?_
  constructor
  · rintro ⟨t₁, rest, volume, rfl, h₁, hrest⟩
    obtain ⟨t₂, rest, marking, rfl, h₂, hrest⟩ := (Operation.yields_bind_of_succeeds hmark).1 hrest
    obtain ⟨t₃, rest, detaching, rfl, h₃, hrest⟩ :=
      (Operation.yields_bind_of_succeeds hdetach).1 hrest
    obtain ⟨t₄, rest, fate, rfl, h₄, hrest⟩ :=
      (Operation.yields_bind_of_succeeds hfinish).1 hrest
    obtain ⟨rfl, rfl⟩ := Operation.yields_ofExcept.1 hrest
    rw [List.append_nil]
    exact ⟨t₁, t₂, t₃, t₄, volume, marking, detaching, fate, rfl, h₁, h₂, h₃, h₄, rfl⟩
  · rintro ⟨t₁, t₂, t₃, t₄, volume, marking, detaching, fate, rfl, h₁, h₂, h₃, h₄, rfl⟩
    refine ⟨t₁, _, volume, rfl, h₁, ?_⟩
    refine (Operation.yields_bind_of_succeeds hmark).2 ⟨t₂, _, marking, rfl, h₂, ?_⟩
    refine (Operation.yields_bind_of_succeeds hdetach).2 ⟨t₃, t₄, detaching, rfl, h₃, ?_⟩
    refine (Operation.yields_bind_of_succeeds hfinish).2
      ⟨t₄, [], fate, (List.append_nil _).symm, h₄, ?_⟩
    exact Operation.yields_ofExcept.2 ⟨rfl, rfl⟩

end Client

end StorageArray
