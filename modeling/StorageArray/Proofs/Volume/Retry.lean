import Mathlib.Data.Finset.Basic
import Mathlib.Logic.Relation
import Mathlib.Tactic.Common
import StorageArray.Proofs.Resource.Creation
import StorageArray.Proofs.Source
import StorageArray.Proofs.Volume.Accounting
/-!
# Repeated teardowns

A teardown that fails is sent again.  What it finds then depends on how far those before it have
come, and this in turn on the faults that they met: answers were lost, and groups were taken for
gone, or tracks for released, on the word of a fault.

`VolumeArray` describes an array by what it does when a teardown asks for it, and only then; `Sound`
are the states that the description is about.  A disturbed teardown leads from a sound state to a
sound state (`VolumeArray.Disturbed.sound`), since it removes the volume only from groups that it is
in, and a teardown without faults completes from every sound state.
-/

namespace StorageArray

open ChangeRun (exchangesOf errorsOf hasSucceeded)

/-- What an array holds about a volume that has neither snapshots nor a pair. -/
structure StoredVolume where
  /-- The name. -/
  name : Option String
  /-- The groups that the volume is in. -/
  groups : Finset String
  /-- The volume has tracks. -/
  allocated : Bool

/-- The changes that a teardown makes to a volume. -/
inductive TeardownChange where
  /-- The volume gets the name that marks it. -/
  | marking
  /-- The volume leaves a group. -/
  | removal (group : String)
  /-- The tracks are released. -/
  | release
  /-- The volume is deleted. -/
  | deletion

namespace TeardownChange

/-- The request of a change. -/
def request (c : Client) (id : VolumeId) : TeardownChange → Request
  | .marking => c.markingRequest id
  | .removal group => c.removalRequest group id
  | .release => c.releaseRequest id
  | .deletion => c.deletionRequest id

/-- There is something to change: the volume is removed from groups that it is in. -/
def Concerns : TeardownChange → StoredVolume → Prop
  | .removal group, v => group ∈ v.groups
  | _, _ => True

/-- The array reports success.  Tracks are released when there are any, and a volume is deleted when
it has neither groups nor tracks. -/
def Succeeds : TeardownChange → StoredVolume → Prop
  | .release, v => v.allocated = true
  | .deletion, v => v.groups = ∅ ∧ v.allocated = false
  | _, _ => True

/-- What becomes of the volume. -/
def effect (id : VolumeId) : TeardownChange → StoredVolume → Option StoredVolume
  | .marking, v => some { v with name := some (deletionMarker id) }
  | .removal group, v => some { v with groups := v.groups.erase group }
  | .release, v => some { v with allocated := false }
  | .deletion, v => if v.groups = ∅ ∧ v.allocated = false then none else some v

lemma method_request_ne_get (c : Client) (id : VolumeId) (change : TeardownChange) :
    (change.request c id).method ≠ .get := by
  cases change with
  | marking => exact Method.put_ne_get
  | removal group => exact Method.put_ne_get
  | release => exact Method.put_ne_get
  | deletion => exact Method.delete_ne_get

end TeardownChange

/-- The array says that there is nothing to release: by a job that fails for this reason, or by a
refusal that says neither that something is missing nor that there is a conflict. -/
def Client.ReleasedBefore {σ : Type} (c : Client) (id : VolumeId) (answerer : Program.Answerer σ)
    (s : σ) : Prop :=
  ∃ text, Text.contains text "already in the requested state" = true ∧
    ((∃ job, c.SettledBy answerer (c.releaseRequest id) s (.error (.jobFailed job text))) ∨
      ∃ response : Response, (answerer c.site (c.releaseRequest id) s).1 = .ok response ∧
        response.isSuccess = false ∧
        Reply.refusal ⟨"volume", id.text⟩ response = .rejected response.status text)

/-- An array that holds at most one volume, as a teardown of this volume sees it. -/
structure VolumeArray (c : Client) (id : VolumeId) (σ : Type) where
  /-- The answer to a request, and the state after it. -/
  serve : Program.Answerer σ
  /-- The volume, unless it is gone. -/
  volume : σ → Option StoredVolume
  /-- The states that the rest is about. -/
  Sound : σ → Prop
  /-- The volume is reported as it is, each of its groups once. -/
  fetch_present : ∀ s v, Sound s → volume s = some v →
    ∃ record : Volume, (serve c.site (.get (c.volumePath id)) s).1.Carries Volume.shape record ∧
      record.name = v.name ∧ record.storageGroups.Nodup ∧ record.storageGroups.toFinset = v.groups
  /-- A volume that is gone is reported as missing. -/
  fetch_absent : ∀ s, Sound s → volume s = none →
    (serve c.site (.get (c.volumePath id)) s).1.IsMissing
  /-- A report changes nothing. -/
  fetch_effect : ∀ s, Sound s →
    let next := (serve c.site (.get (c.volumePath id)) s).2
    Sound next ∧ volume next = volume s
  /-- A poll changes nothing. -/
  poll_effect : ∀ s job, Sound s →
    let next := (serve c.site (c.pollRequest job) s).2
    Sound next ∧ volume next = volume s
  /-- The request of a change has its effect. -/
  change_effect : ∀ s v change, Sound s → volume s = some v → TeardownChange.Concerns change v →
    let next := (serve c.site (change.request c id) s).2
    Sound next ∧ volume next = change.effect id v
  /-- Success is reported, at once or by a job. -/
  change_success : ∀ s v change, Sound s → volume s = some v → TeardownChange.Concerns change v →
    change.Succeeds v → c.SettledBy serve (change.request c id) s (.ok ())
  /-- A release without tracks fails in a way that says so. -/
  release_again : ∀ s v, Sound s → volume s = some v → v.allocated = false →
    c.ReleasedBefore id serve s

/-- An answer that takes the place of that of the array: none at all, or an error with any text. -/
def Answer.IsFault : Answer → Prop
  | .error _ => True
  | .ok response => 400 ≤ response.status

lemma Answer.IsFault.not_carries {α : Type} {answer : Answer} {shape : Shape α} {value : α}
    (h : answer.IsFault) : ¬ answer.Carries shape value := by
  rintro ⟨response, rfl, hsuccess, -⟩
  simp only [Response.isSuccess, Bool.and_eq_true, decide_eq_true_eq] at hsuccess
  have hstatus : 400 ≤ response.status := h
  omega

namespace VolumeArray

variable {c : Client} {id : VolumeId} {σ : Type} (A : VolumeArray c id σ)

/-- The array is in a sound state, with or without a volume. -/
def Holds (s : σ) (volume : Option StoredVolume) : Prop := A.Sound s ∧ A.volume s = volume

/-- A teardown leads from the one state to the other, and some of the answers to it, those to polls
included, are replaced by faults, whether or not their requests have taken effect. -/
def Disturbed (s s' : σ) : Prop :=
  ∃ t r, (c.teardownVolume id).Yields t r ∧ Program.Answered A.serve Answer.IsFault t s s'

variable {A} {s s' : σ} {v : StoredVolume} {t : Transcript} {fault : Answer → Prop}

lemma Holds.fetch {volume : Option StoredVolume} (h : A.Holds s volume) :
    A.Holds (A.serve c.site (.get (c.volumePath id)) s).2 volume := by
  obtain ⟨hsound, hvolume⟩ := A.fetch_effect s h.1
  exact ⟨hsound, hvolume.trans h.2⟩

lemma Holds.poll {volume : Option StoredVolume} (h : A.Holds s volume) (job : JobId) :
    A.Holds (A.serve c.site (c.pollRequest job) s).2 volume := by
  obtain ⟨hsound, hvolume⟩ := A.poll_effect s job h.1
  exact ⟨hsound, hvolume.trans h.2⟩

/-! ### Disturbed teardowns -/

/-- A change has its effect or not, however it has ended. -/
lemma Holds.of_change (h : A.Holds s (some v)) (change : TeardownChange)
    (hconcerns : change.Concerns v) {subject : Subject} {r : Except ArrayError Unit}
    (hrun : (c.execute (change.request c id) subject).Yields t r)
    (hanswered : Program.Answered A.serve fault t s s') :
    A.Holds s' (some v) ∨ A.Holds s' (change.effect id v) := by
  refine hanswered.invariant_of_execute hrun
    (P := fun s => A.Holds s (some v) ∨ A.Holds s (change.effect id v)) (.inl h) (.inr ?_) ?_
  · exact A.change_effect s v change h.1 h.2 hconcerns
  · intro job s hs
    exact hs.imp (·.poll job) (·.poll job)

/-- The same for a change that is perhaps not sent. -/
lemma Holds.of_step (h : A.Holds s (some v)) (change : TeardownChange)
    (hconcerns : change.Concerns v) {subject : Subject} {step : Option ChangeRun}
    (hrun : ∀ run ∈ step, ∃ r, (c.execute (change.request c id) subject).Yields run.exchanges r)
    (hanswered : Program.Answered A.serve fault (exchangesOf step) s s') :
    A.Holds s' (some v) ∨ A.Holds s' (change.effect id v) := by
  cases step with
  | none =>
      cases hanswered with
      | nil s => exact .inl h
  | some run =>
      obtain ⟨r, hexecute⟩ := hrun run rfl
      exact h.of_change change hconcerns hexecute hanswered

/-- After some removals the volume is at least in the groups that are still to come. -/
lemma Holds.of_removals {removals : List GroupRemoval} (h : A.Holds s (some v))
    (hnodup : (removals.map (·.group)).Nodup)
    (hmem : ∀ removal ∈ removals, removal.group ∈ v.groups)
    (hrun : ∀ removal ∈ removals,
      (c.removeFromGroup removal.group id).Yields removal.exchanges removal.result)
    (hanswered : Program.Answered A.serve fault (removals.flatMap (·.exchanges)) s s') :
    ∃ v', A.Holds s' (some v') := by
  induction removals generalizing s v with
  | nil =>
      cases hanswered with
      | nil s => exact ⟨v, h⟩
  | cons removal removals ih =>
      rw [List.map_cons, List.nodup_cons] at hnodup
      rw [List.flatMap_cons] at hanswered
      obtain ⟨s₁, hfirst, hrest⟩ := hanswered.of_append
      have hgroup : removal.group ∈ v.groups := hmem removal List.mem_cons_self
      have hlater : ∀ other ∈ removals, other.group ∈ v.groups := fun other hother =>
        hmem other (List.mem_cons_of_mem _ hother)
      have hruns : ∀ other ∈ removals,
          (c.removeFromGroup other.group id).Yields other.exchanges other.result :=
        fun other hother => hrun other (List.mem_cons_of_mem _ hother)
      have hexecute := hrun removal List.mem_cons_self
      rcases h.of_change (.removal removal.group) hgroup hexecute hfirst with h | h
      · exact ih h hnodup.2 hlater hruns hrest
      · -- The group that was left does not come a second time.
        refine ih h hnodup.2 (fun other hother => ?_) hruns hrest
        refine Finset.mem_erase.2 ⟨fun heq => hnodup.1 ?_, hlater other hother⟩
        rw [← heq]
        exact List.mem_map_of_mem hother

/-- A volume that is fetched is reported as it is. -/
lemma Holds.of_fetched {volume : Option StoredVolume} (h : A.Holds s volume) {record : Volume}
    (hcarries : (A.serve c.site (.get (c.volumePath id)) s).1.Carries Volume.shape record) :
    ∃ v, volume = some v ∧ record.name = v.name ∧ record.storageGroups.Nodup ∧
      record.storageGroups.toFinset = v.groups := by
  cases volume with
  | none =>
      have hrecord : (c.getVolume id).on _ = .ok record :=
        (Client.on_read_eq_ok_iff rfl).2 hcarries
      have hmissing : (c.getVolume id).on _ = .error _ :=
        Client.on_read_of_isMissing (A.fetch_absent s h.1 h.2)
      rw [hmissing] at hrecord
      cases hrecord
  | some v =>
      obtain ⟨reported, hreported, hname, hnodup, hgroups⟩ := A.fetch_present s v h.1 h.2
      obtain rfl := hcarries.unique hreported
      exact ⟨v, rfl, hname, hnodup, hgroups⟩

/-- Whatever its faults, a teardown leaves a sound state behind. -/
lemma Disturbed.sound (h : A.Disturbed s s') (hs : A.Sound s) : A.Sound s' := by
  obtain ⟨t, r, hrun, hanswered⟩ := h
  obtain ⟨answer, rest, rfl, ⟨e, -, rfl, -⟩ | ⟨record, x, hfetched, hx, rfl, -⟩⟩ :=
    Client.cases_of_yields_teardownVolume hrun
  · exact hanswered.invariant_of_cons hs (A.fetch_effect s hs).1 (by simp)
  · have hcarries : answer.Carries Volume.shape record :=
      (Client.on_read_eq_ok_iff rfl).1 hfetched
    -- No fault carries a volume, so the answer to the fetch is that of the array.
    cases hanswered with
    | lost hfault rest => exact absurd hcarries hfault.not_carries
    | replaced hfault rest => exact absurd hcarries hfault.not_carries
    | served rest =>
        have hholds : A.Holds s (A.volume s) := ⟨hs, rfl⟩
        obtain ⟨v, hv, -, hnodup, hgroups⟩ := hholds.of_fetched hcarries
        rw [hv] at hholds
        obtain ⟨s₁, hmarking, rest⟩ := rest.of_append
        obtain ⟨s₂, hremovals, rest⟩ := rest.of_append
        obtain ⟨s₃, hrelease, hdeletion⟩ := rest.of_append
        obtain ⟨v₁, h₁, hv₁⟩ : ∃ v₁, A.Holds s₁ (some v₁) ∧ v₁.groups = v.groups := by
          have hrun : ∀ run ∈ x.marking, ∃ q,
              (c.execute (c.markingRequest id) ⟨"volume", id.text⟩).Yields run.exchanges q :=
            fun run hrun => ⟨_, Client.yields_marking_iff.1 (hx.marking_run run hrun)⟩
          rcases hholds.fetch.of_step .marking trivial hrun hmarking with h | h
          · exact ⟨v, h, rfl⟩
          · exact ⟨_, h, rfl⟩
        have hmem : ∀ removal ∈ x.removals, removal.group ∈ v₁.groups := by
          intro removal hremoval
          rw [hv₁, ← hgroups, List.mem_toFinset, ← hx.groups]
          exact List.mem_map_of_mem hremoval
        rw [← hx.groups] at hnodup
        obtain ⟨v₂, h₂⟩ := h₁.of_removals hnodup hmem hx.removal_run hremovals
        obtain ⟨v₃, h₃⟩ : ∃ v₃, A.Holds s₃ (some v₃) := by
          have hrun : ∀ run ∈ x.release, ∃ q,
              (c.execute (c.releaseRequest id) ⟨"volume", id.text⟩).Yields run.exchanges q := by
            intro run hrun
            obtain ⟨q, hexecute, -⟩ := Client.yields_executeTolerant_iff.1 (hx.release_run run hrun)
            exact ⟨q, hexecute⟩
          rcases h₂.of_step .release trivial hrun hrelease with h | h
          · exact ⟨v₂, h⟩
          · exact ⟨_, h⟩
        rcases h₃.of_step .deletion trivial (fun run hrun => ⟨_, hx.deletion_run run hrun⟩)
          hdeletion with h | h
        · exact h.1
        · exact h.1

/-! ### Teardowns without faults -/

/-- A change that concerns the volume is carried out. -/
lemma Holds.exists_served_change (h : A.Holds s (some v)) (change : TeardownChange)
    (hconcerns : change.Concerns v) (hsucceeds : change.Succeeds v) (subject : Subject) :
    ∃ t s', (c.execute (change.request c id) subject).Yields t (.ok ()) ∧
      Program.Served A.serve t s s' ∧ A.Holds s' (change.effect id v) := by
  obtain ⟨t, s', hsettles, hserved⟩ := A.change_success s v change h.1 h.2 hconcerns hsucceeds
  have hrun : (c.execute (change.request c id) subject).Yields t (.ok ()) :=
    hsettles.yields_execute (change.method_request_ne_get c id)
  refine ⟨t, s', hrun, hserved, ?_⟩
  refine hserved.invariant_of_execute hrun (P := fun s => A.Holds s (change.effect id v)) ?_ ?_
  · exact A.change_effect s v change h.1 h.2 hconcerns
  · intro job s hs
    exact hs.poll job

end VolumeArray

lemma BenignFailures.isMatch_builtin {text : String}
    (h : Text.contains text "already in the requested state" = true) :
    builtin.isMatch text = true := by
  have hplain : ∀ a ∈ "already in the requested state".toList, Text.IsPlain a := by
    simp [Text.IsPlain]
  have hpatterns : builtin.patterns = builtinTexts := rfl
  have hmem : "already in the requested state" ∈ builtin.patterns := by
    rw [hpatterns]
    exact List.mem_cons_self
  exact List.any_eq_true.2 ⟨_, hmem, Text.contains_lowercase hplain h⟩

/-- A release that finds nothing to release succeeds with the benign failures that are built in. -/
lemma Client.ReleasedBefore.exists_served {c : Client} {id : VolumeId} {σ : Type}
    {answerer : Program.Answerer σ} {s : σ} (h : c.ReleasedBefore id answerer s)
    (hbenign : c.settings.benign = .builtin) :
    ∃ t q s', (c.execute (c.releaseRequest id) ⟨"volume", id.text⟩).Yields t q ∧
      (c.deallocateVolume id).Yields t (.ok ()) ∧ Program.Served answerer t s s' := by
  obtain ⟨text, htext, h⟩ := h
  have hmatch : c.settings.benign.isMatch text = true := by
    rw [hbenign]
    exact BenignFailures.isMatch_builtin htext
  obtain ⟨job, t, s', hsettles, hserved⟩ | ⟨response, hanswer, hrefused, hrefusal⟩ := h
  · have hrun : (c.execute (c.releaseRequest id) ⟨"volume", id.text⟩).Yields t
        (.error (.jobFailed job text)) := hsettles.yields_execute Method.put_ne_get
    exact ⟨t, _, s', hrun, yields_executeTolerant_of_benign hrun hmatch, hserved⟩
  · have hreply : Reply.ofAnswer (c.releaseRequest id).method ⟨"volume", id.text⟩
        (.ok response) = .error (.rejected response.status text) := by
      rw [Reply.ofAnswer, Reply.classify_of_not_isSuccess hrefused, hrefusal]
    have hrun := Client.yields_execute_of_refused (c := c) hreply
    refine ⟨_, _, (answerer c.site (c.releaseRequest id) s).2, hrun,
      yields_executeTolerant_of_benign hrun hmatch, ?_⟩
    rw [← hanswer]
    exact .cons (.nil _)

namespace VolumeArray

variable {c : Client} {id : VolumeId} {σ : Type} {A : VolumeArray c id σ} {s : σ}
  {v : StoredVolume}

/-- The marking succeeds if it is sent. -/
lemma Holds.exists_served_marking (h : A.Holds s (some v)) :
    ∃ (marking : Option ChangeRun) (s' : σ),
      (marking.isSome = true ↔ v.name ≠ some (deletionMarker id)) ∧
      (∀ step ∈ marking,
        (c.renameVolume id (deletionMarker id)).Yields step.exchanges step.result) ∧
      errorsOf marking = [] ∧ Program.Served A.serve (exchangesOf marking) s s' ∧
      ∃ v', A.Holds s' (some v') ∧ v'.groups = v.groups := by
  by_cases hmarked : v.name = some (deletionMarker id)
  · exact ⟨none, s, by simpa using hmarked, by simp, rfl, .nil s, v, h, rfl⟩
  · obtain ⟨t, s', hrun, hserved, hs'⟩ :=
      h.exists_served_change .marking trivial trivial ⟨"volume", id.text⟩
    refine ⟨some ⟨t, .ok ()⟩, s', by simpa using hmarked, ?_, rfl, hserved, _, hs', rfl⟩
    simpa using Client.yields_marking_iff.2 hrun

/-- All removals succeed, and the volume leaves the groups. -/
lemma Holds.exists_served_removals {groups : List String} (h : A.Holds s (some v))
    (hnodup : groups.Nodup) (hmem : ∀ group ∈ groups, group ∈ v.groups) :
    ∃ (removals : List GroupRemoval) (s' : σ), removals.map (·.group) = groups ∧
      (∀ removal ∈ removals, removal.result = .ok () ∧
        (c.removeFromGroup removal.group id).Yields removal.exchanges removal.result) ∧
      Program.Served A.serve (removals.flatMap (·.exchanges)) s s' ∧
      ∃ v', A.Holds s' (some v') ∧ v'.groups = v.groups \ groups.toFinset := by
  induction groups generalizing s v with
  | nil => exact ⟨[], s, rfl, by simp, .nil s, v, h, by simp⟩
  | cons group groups ih =>
      rw [List.nodup_cons] at hnodup
      obtain ⟨t, s₁, hrun, hserved, h₁⟩ := h.exists_served_change (.removal group)
        (hmem group List.mem_cons_self) trivial ⟨"storage group", group⟩
      -- A group comes once, so the volume is still in those after the first.
      have hrest : ∀ other ∈ groups, other ∈ v.groups.erase group := by
        intro other hother
        refine Finset.mem_erase.2 ⟨?_, hmem other (List.mem_cons_of_mem _ hother)⟩
        rintro rfl
        exact hnodup.1 hother
      obtain ⟨removals, s', rfl, hruns, hserved', v', h', hv'⟩ := ih h₁ hnodup.2 hrest
      refine ⟨⟨group, t, .ok ()⟩ :: removals, s', rfl, ?_, hserved.append hserved', v', h', ?_⟩
      · intro removal hremoval
        rcases List.mem_cons.1 hremoval with rfl | hremoval
        · exact ⟨rfl, hrun⟩
        · exact hruns removal hremoval
      · rw [hv', List.toFinset_cons, Finset.sdiff_insert, Finset.erase_sdiff_comm]

/-- The release succeeds, whether there is anything to release or not. -/
lemma Holds.exists_served_release (h : A.Holds s (some v))
    (hbenign : c.settings.benign = .builtin) :
    ∃ t s', (c.deallocateVolume id).Yields t (.ok ()) ∧ Program.Served A.serve t s s' ∧
      A.Holds s' (some { v with allocated := false }) := by
  cases hallocated : v.allocated with
  | true =>
      obtain ⟨t, s', hrun, hserved, h'⟩ :=
        h.exists_served_change .release trivial hallocated ⟨"volume", id.text⟩
      exact ⟨t, s', Client.yields_executeTolerant_iff.2 ⟨.ok (), hrun, rfl⟩, hserved, h'⟩
  | false =>
      obtain ⟨t, q, s', hrun, hrelease, hserved⟩ :=
        (A.release_again s v h.1 h.2 hallocated).exists_served hbenign
      refine ⟨t, s', hrelease, hserved, ?_⟩
      refine hserved.invariant_of_execute hrun
        (P := fun s => A.Holds s (some { v with allocated := false })) ?_ ?_
      · exact A.change_effect s v .release h.1 h.2 trivial
      · intro job s hs
        exact hs.poll job

/-- A teardown without faults deletes the volume. -/
lemma Holds.exists_served_teardown (h : A.Holds s (some v))
    (hbenign : c.settings.benign = .builtin) :
    ∃ t s', (c.teardownVolume id).Yields t (.ok ()) ∧ Program.Served A.serve t s s' ∧
      A.Holds s' none := by
  obtain ⟨record, hcarries, hname, hnodup, hgroups⟩ := A.fetch_present s v h.1 h.2
  obtain ⟨marking, s₁, hmarking, hmarked, hnoError, hserved₁, v₁, h₁, hv₁⟩ :=
    h.fetch.exists_served_marking
  have hmem : ∀ group ∈ record.storageGroups, group ∈ v₁.groups := by
    intro group hgroup
    rw [hv₁, ← hgroups]
    exact List.mem_toFinset.2 hgroup
  obtain ⟨removals, s₂, hremoved, hremovals, hserved₂, v₂, h₂, hv₂⟩ :=
    h₁.exists_served_removals hnodup hmem
  have hleft : v₂.groups = ∅ := by rw [hv₂, hgroups, hv₁, Finset.sdiff_self]
  obtain ⟨t₃, s₃, hrelease, hserved₃, h₃⟩ := h₂.exists_served_release hbenign
  obtain ⟨t₄, s₄, hdeletion, hserved₄, h₄⟩ :=
    h₃.exists_served_change .deletion trivial ⟨hleft, rfl⟩ ⟨"volume", id.text⟩
  have hdeleted : (c.deleteVolume id).Yields t₄ (.ok ()) := hdeletion
  have hgone : TeardownChange.effect id .deletion { v₂ with allocated := false } = none :=
    if_pos ⟨hleft, rfl⟩
  rw [hgone] at h₄
  let x : TeardownSteps := ⟨marking, removals, some ⟨t₃, .ok ()⟩, some ⟨t₄, .ok ()⟩⟩
  have hx : x.TakenBy c id record := by
    refine ⟨?_, hmarked, hremoved, fun removal hremoval => (hremovals removal hremoval).2, ?_, ?_,
      ?_, ?_⟩
    · rw [hname]
      exact hmarking
    · simpa [x] using fun removal hremoval => Or.inl (hremovals removal hremoval).1
    · simpa [x] using hrelease
    · simp [x]
    · simpa [x] using hdeleted
  have herrors : x.errors = [] := by
    have hremovalErrors : removals.flatMap (·.errors) = [] := by
      rw [List.flatMap_eq_nil_iff]
      intro removal hremoval
      rw [GroupRemoval.errors_eq_nil_iff, (hremovals removal hremoval).1]
      rfl
    change errorsOf marking ++ removals.flatMap (·.errors) ++ [] = []
    rw [hnoError, hremovalErrors]
    rfl
  have hfetched : (c.getVolume id).on _ = .ok record := (Client.on_read_eq_ok_iff rfl).2 hcarries
  have hrun := (Client.yields_teardownVolume_steps_iff hfetched).2 ⟨x, hx, rfl, rfl⟩
  rw [herrors] at hrun
  refine ⟨_, s₄, hrun, .cons (hserved₁.append (hserved₂.append ?_)), h₄⟩
  exact hserved₃.append hserved₄

/-- Without a volume the fetch says so. -/
lemma Holds.exists_served_missing (h : A.Holds s none) :
    ∃ t s', (c.teardownVolume id).Yields t (.error (.notFound "volume" id.text)) ∧
      Program.Served A.serve t s s' ∧ A.Holds s' none := by
  have hmissing : (c.getVolume id).on _ = .error (.notFound "volume" id.text) :=
    Client.on_read_of_isMissing (A.fetch_absent s h.1 h.2)
  have hfetch := Client.yields_read_on_iff.2 ⟨_, rfl, hmissing.symm⟩
  exact ⟨_, _, Client.yields_teardownVolume_iff.2 (.inl ⟨_, hfetch, rfl⟩), .cons (.nil _), h.fetch⟩

end VolumeArray

/-- **Teardowns can be repeated.**  After any teardowns, of whose answers any number were replaced
by faults, a teardown without faults deletes the volume if it is still there, and otherwise reports
that it is missing.  In the runs every wait has a deadline, and polls take no time. -/
theorem teardown_retry {c : Client} {id : VolumeId} {σ : Type} (A : VolumeArray c id σ)
    (hbenign : c.settings.benign = .builtin) {s s' : σ} (hs : A.Sound s)
    (hruns : Relation.ReflTransGen A.Disturbed s s') :
    (A.volume s' ≠ none → ∃ s'', (c.teardownVolume id).run.run A.serve s' = (.ok (), s'') ∧
      A.volume s'' = none) ∧
    (A.volume s' = none → ∃ s'', (c.teardownVolume id).run.run A.serve s' =
      (.error (.notFound "volume" id.text), s'') ∧ A.volume s'' = none) := by
  have hsound : A.Sound s' := by
    induction hruns with
    | refl => exact hs
    | tail _ hlast ih => exact hlast.sound ih
  constructor
  · intro hvolume
    obtain ⟨v, hv⟩ := Option.ne_none_iff_exists'.1 hvolume
    have hholds : A.Holds s' (some v) := ⟨hsound, hv⟩
    obtain ⟨t, s'', hrun, hserved, h⟩ := hholds.exists_served_teardown hbenign
    exact ⟨s'', hserved.run_eq hrun, h.2⟩
  · intro hgone
    have hholds : A.Holds s' none := ⟨hsound, hgone⟩
    obtain ⟨t, s'', hrun, hserved, h⟩ := hholds.exists_served_missing
    exact ⟨s'', hserved.run_eq hrun, h.2⟩

/-! ### An array that works by jobs -/

namespace ReleasingArray

/-- The client of the array. -/
def client : Client := ⟨.home, ⟨"000197600123"⟩, .default⟩

/-- The volume. -/
def id : VolumeId := ⟨"0012A"⟩

/-- What the array keeps about the volume, which may be in two groups. -/
structure Entry where
  /-- The volume is marked; else it has no name. -/
  marked : Bool
  /-- It is in the first group. -/
  inFirst : Bool
  /-- It is in the second group. -/
  inSecond : Bool
  /-- There are tracks. -/
  allocated : Bool

namespace Entry

/-- The name. -/
def name (v : Entry) : Option String := if v.marked then some (deletionMarker id) else none

/-- The groups. -/
def groups (v : Entry) : List String :=
  (if v.inFirst then ["SG1"] else []) ++ (if v.inSecond then ["SG2"] else [])

/-- The entry as a stored volume. -/
def stored (v : Entry) : StoredVolume := ⟨v.name, v.groups.toFinset, v.allocated⟩

/-- The volume as the array reports it. -/
def report (v : Entry) : Json :=
  .object [("storageGroupId", .strings v.groups), ("volumeId", .string id.text),
    ("volume_identifier", .optionString v.name)]

end Entry

/-- The identifier of the job of a change that succeeds, and of one that fails. -/
def jobId (succeeds : Bool) : JobId := ⟨if succeeds then "1" else "2"⟩

/-- The job when it is handed over. -/
def handleReport (succeeds : Bool) : Json :=
  .object [("jobId", .string (jobId succeeds).text), ("status", .string "RUNNING")]

/-- The job when it has ended. -/
def jobReport : Bool → Json
  | true => .object [("jobId", .string "1"), ("status", .string "SUCCEEDED")]
  | false => .object [("jobId", .string "2"),
      ("result", .string "Device 0012A is already in the requested state"),
      ("status", .string "FAILED")]

/-- The answer to a read. -/
def read (path : String) (s : Option Entry) : Answer :=
  if path = client.volumePath id then s.elim (.ok ⟨404, .null⟩) fun v => .ok ⟨200, v.report⟩
  else .ok ⟨200, jobReport (path ≠ (client.pollRequest (jobId false)).path)⟩

/-- A payload releases tracks. -/
def releases (body : Option Json) : Bool :=
  ((body.bind (·.member? "editVolumeActionParam")).bind (·.member? "freeVolumeParam")).isSome

/-- The answer to a change, and what becomes of the volume. -/
def change (request : Request) (v : Entry) : Answer × Option Entry :=
  if request.method = .delete then
    if v.groups.isEmpty && !v.allocated then (.ok ⟨204, .null⟩, none)
    else (.ok ⟨400, .string "Device 0012A is in use"⟩, some v)
  else if request.path = client.volumePath id then
    if releases request.body then
      (.ok ⟨202, handleReport v.allocated⟩, some { v with allocated := false })
    else (.ok ⟨200, .null⟩, some { v with marked := true })
  else if request.path = client.storageGroupPath "SG1" then
    (.ok ⟨202, handleReport true⟩, some { v with inFirst := false })
  else (.ok ⟨202, handleReport true⟩, some { v with inSecond := false })

/-- The answer to a request, and the state after it. -/
def serve (_ : Site) (request : Request) (s : Option Entry) : Answer × Option Entry :=
  if request.method = .get then (read request.path s, s)
  else s.elim (.ok ⟨404, .null⟩, none) (change request)

lemma Entry.nodup_groups (v : Entry) : v.groups.Nodup := by
  obtain ⟨_, _ | _, _ | _, _⟩ := v <;> simp [groups]

lemma Entry.mem_groups {v : Entry} {group : String} (h : group ∈ v.groups) :
    group = "SG1" ∨ group = "SG2" := by
  obtain ⟨_, _ | _, _ | _, _⟩ := v <;> simp_all [groups]

/-- A change that is handed over ends as its job does at the first poll. -/
lemma settledBy_of_handleReport {request : Request} {s s' : Option Entry} (succeeds : Bool)
    (h : serve .home request s = (.ok ⟨202, handleReport succeeds⟩, s')) :
    client.SettledBy serve request s
      (if succeeds then .ok ()
        else .error (.jobFailed ⟨"2"⟩ "Device 0012A is already in the requested state")) := by
  have hanswer : (serve client.site request s).1 = .ok ⟨202, handleReport succeeds⟩ :=
    congrArg Prod.fst h
  have hdefers : Response.Defers ⟨202, handleReport succeeds⟩
      ⟨jobId succeeds, none, .running, none, none, none⟩ := by
    cases succeeds <;> exact ⟨rfl, rfl, rfl⟩
  cases succeeds with
  | true =>
      let ended : JobRecord := ⟨⟨"1"⟩, none, .succeeded, none, none, none⟩
      have hpoll : (client.getJob (jobId true)).on (serve client.site
          (client.pollRequest (jobId true)) (serve client.site request s).2).1 = .ok ended := rfl
      exact .of_first_poll hanswer hdefers rfl hpoll rfl
  | false =>
      let ended : JobRecord := ⟨⟨"2"⟩, none, .failed,
        some "Device 0012A is already in the requested state", none, none⟩
      have hpoll : (client.getJob (jobId false)).on (serve client.site
          (client.pollRequest (jobId false)) (serve client.site request s).2).1 = .ok ended := rfl
      exact .of_first_poll hanswer hdefers rfl hpoll rfl

/-- The array. -/
def array : VolumeArray client id (Option Entry) where
  serve := serve
  volume s := s.map (·.stored)
  Sound _ := True
  fetch_present s v _ hv := by
    obtain ⟨v, rfl, rfl⟩ := Option.map_eq_some_iff.1 hv
    refine ⟨⟨id, v.name, .zero, v.groups, false, false, [], none⟩, ⟨_, rfl, rfl, ?_⟩, rfl,
      v.nodup_groups, rfl⟩
    obtain ⟨_ | _, _ | _, _ | _, _⟩ := v <;> rfl
  fetch_absent s _ hs := by
    obtain rfl := Option.map_eq_none_iff.1 hs
    exact ⟨_, rfl, rfl⟩
  fetch_effect s _ := ⟨trivial, rfl⟩
  poll_effect s job _ := ⟨trivial, rfl⟩
  change_effect s v change _ hv hconcerns := by
    refine ⟨trivial, ?_⟩
    obtain ⟨v, rfl, rfl⟩ := Option.map_eq_some_iff.1 hv
    cases change with
    | marking => rfl
    | removal group =>
        rcases v.mem_groups (List.mem_toFinset.1 hconcerns) with rfl | rfl
        · obtain ⟨_, _ | _, _ | _, _⟩ := v <;> rfl
        · obtain ⟨_, _ | _, _ | _, _⟩ := v <;> rfl
    | release => rfl
    | deletion =>
        obtain ⟨_, _ | _, _ | _, _ | _⟩ := v <;> rfl
  change_success s v change _ hv hconcerns hsucceeds := by
    obtain ⟨v, rfl, rfl⟩ := Option.map_eq_some_iff.1 hv
    cases change with
    | marking =>
        have hanswer : (serve client.site (client.markingRequest id) (some v)).1 =
            .ok ⟨200, .null⟩ := rfl
        exact .of_confirms hanswer ⟨rfl, by decide, rfl⟩
    | removal group =>
        rcases v.mem_groups (List.mem_toFinset.1 hconcerns) with rfl | rfl
        · exact settledBy_of_handleReport true rfl
        · exact settledBy_of_handleReport true rfl
    | release =>
        obtain ⟨_, _, _, allocated⟩ := v
        obtain rfl : allocated = true := hsucceeds
        exact settledBy_of_handleReport true rfl
    | deletion =>
        have hgroups : v.groups = [] := List.toFinset_eq_empty_iff v.groups |>.1 hsucceeds.1
        have hfree : v.allocated = false := hsucceeds.2
        have hanswer : (serve client.site (client.deletionRequest id) (some v)).1 =
            .ok ⟨204, .null⟩ := by
          simp [serve, change, Client.deletionRequest, Request.delete, hgroups, hfree]
        exact .of_confirms hanswer ⟨rfl, by decide, rfl⟩
  release_again s v _ hv hfree := by
    obtain ⟨⟨marked, inFirst, inSecond, allocated⟩, rfl, rfl⟩ := Option.map_eq_some_iff.1 hv
    obtain rfl : allocated = false := hfree
    exact ⟨_, by decide, .inl ⟨_, settledBy_of_handleReport false rfl⟩⟩

/-- A teardown that gets nowhere: the marking is not answered, the removal from the first group is
lost and that from the second is not, both on the word that the group is gone, the release is said
to be done before, and the deletion is refused. -/
def disturbance : Transcript := [
  ⟨.home, .get (client.volumePath id), .ok ⟨200, (Entry.mk false true true true).report⟩⟩,
  ⟨.home, client.markingRequest id, .error ⟨.timedOut, "array", "no answer"⟩⟩,
  ⟨.home, client.removalRequest "SG1" id, .ok ⟨404, .null⟩⟩,
  ⟨.home, client.removalRequest "SG2" id, .ok ⟨404, .null⟩⟩,
  ⟨.home, client.releaseRequest id, .ok ⟨500, .string "already in the requested state"⟩⟩,
  ⟨.home, client.deletionRequest id, .ok ⟨400, .string "Device 0012A is in use"⟩⟩]

lemma disturbed :
    array.Disturbed (some ⟨false, true, true, true⟩) (some ⟨true, true, false, false⟩) := by
  let s : Stage := { home := { queued := disturbance.map (·.answer) } }
  have htranscript : (client.teardownVolume id).run.transcript Stage.answer s = disturbance := by
    unfold disturbance client id
    rfl
  have hunanswered (e : TransportError) : Answer.IsFault (.error e) := trivial
  have hfault (status : Nat) (body : Json) (h : 400 ≤ status) :
      Answer.IsFault (.ok ⟨status, body⟩) := h
  have hanswered : Program.Answered serve Answer.IsFault disturbance
      (some ⟨false, true, true, true⟩) (some ⟨true, true, false, false⟩) := by
    refine .of_serve rfl ?_
    refine .replaced (hunanswered _) ?_
    refine .lost (hfault 404 _ (by decide)) ?_
    refine .replaced (hfault 404 _ (by decide)) ?_
    refine .replaced (hfault 500 _ (by decide)) ?_
    refine .of_serve rfl ?_
    exact .nil _
  exact ⟨disturbance, _, Stage.yields_of_perform htranscript rfl, hanswered⟩

end ReleasingArray

/-- A teardown after one that has marked the volume, taken it out of one group of two, and released
its tracks. -/
theorem teardown_retry_released :
    let s : Option ReleasingArray.Entry := some ⟨false, true, true, true⟩
    let s' : Option ReleasingArray.Entry := some ⟨true, true, false, false⟩
    ReleasingArray.client.settings.benign = .builtin ∧ ReleasingArray.array.Sound s ∧
      Relation.ReflTransGen ReleasingArray.array.Disturbed s s' ∧
      ∃ s'', (ReleasingArray.client.teardownVolume ReleasingArray.id).run.run
        ReleasingArray.array.serve s' = (.ok (), s'') ∧ ReleasingArray.array.volume s'' = none := by
  intro s s'
  have hruns : Relation.ReflTransGen ReleasingArray.array.Disturbed s s' :=
    .single ReleasingArray.disturbed
  obtain ⟨hpresent, -⟩ := teardown_retry ReleasingArray.array rfl trivial hruns
  exact ⟨rfl, trivial, hruns, hpresent nofun⟩

end StorageArray
