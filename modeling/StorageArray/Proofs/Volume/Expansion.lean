import Mathlib.Tactic.Common
import StorageArray.Proofs.Decimal.Value
import StorageArray.Proofs.Resource.Creation
import StorageArray.Proofs.Source
import StorageArray.Proofs.Validation
/-!
# Expanding a volume

An expansion reads the volume, changes it and reads it again.  `Client.Expansion` lists the ways in
which a run of it ends, and `Client.expansion_of_yields` says that there are no others.  So what is
sent and what is reported can be read off: the volume is changed only when it was seen to be smaller
than the size that is asked for, and success means that it was seen to have this size.

With an array that stores the size of a confirmed expansion (`SizedArray`) only three of these ways
are left (`SizedArray.Ends`), and a volume that has been expanded is not expanded again to the same
or a smaller size.
-/

namespace StorageArray

/-- The capacity is at least the size exactly when its value is. -/
lemma Binary64.ofNat_size_le_iff {size : UInt32} {x : Binary64} :
    ofNat size.toNat ≤ x ↔ (size.toNat : ℚ) ≤ x.value := by
  have hsize : size.toNat < 2 ^ 53 := size.toNat_lt.trans (by decide)
  rw [← value_le_value_iff, value_ofNat hsize]

lemma Binary64.sameValue_ofNat_size_iff {size : UInt32} {x : Binary64} :
    x.SameValue (ofNat size.toNat) ↔ x.value = size.toNat := by
  have hsize : size.toNat < 2 ^ 53 := size.toNat_lt.trans (by decide)
  rw [← value_eq_value_iff, value_ofNat hsize]

/-- The error for a size that is not larger than the volume. -/
def ArrayError.notLarger (id : VolumeId) (size : UInt32) (capacity : Binary64) : ArrayError :=
  .validation ("volume " ++ id.text ++ " is " ++ capacity.textIn .capacity
    ++ " GB; expansion to " ++ toString size.toNat ++ " GB must grow it")

namespace Client

variable (c : Client) (id : VolumeId) (size : UInt32)

/-- The request that expands a volume to a size. -/
def expansionRequest : Request := .put (c.volumePath id) (Volume.expansionPayload size)

/-- The request for the record of a volume, with its answer. -/
def volumeRead (answer : Answer) : Exchange := ⟨c.site, .get (c.volumePath id), answer⟩

/-- The volume was seen to be smaller than the size, its change to the size was confirmed, and the
record is what was seen of it after that. -/
def Observes (t : Transcript) (after : Volume) : Prop :=
  ∃ answer before change answer',
    t = c.volumeRead id answer :: (change ++ [c.volumeRead id answer']) ∧
    answer.Carries Volume.shape before ∧ before.capacity.value < size.toNat ∧
    c.Settles (c.expansionRequest id size) change (.ok ()) ∧ answer'.Carries Volume.shape after

/-- The ways in which an expansion ends, with its exchanges. -/
inductive Expansion : Transcript → Except ArrayError Unit → Prop
  /-- The volume cannot be read. -/
  | unread {answer : Answer} {e : ArrayError} (hread : (c.getVolume id).on answer = .error e) :
    Expansion [c.volumeRead id answer] (.error e)
  /-- The volume has the size, or is larger. -/
  | notLarger {answer : Answer} {before : Volume} (hbefore : answer.Carries Volume.shape before)
      (hlarge : size.toNat ≤ before.capacity.value) :
    Expansion [c.volumeRead id answer] (.error (.notLarger id size before.capacity))
  /-- The change is not confirmed. -/
  | unchanged {answer : Answer} {before : Volume} {change : Transcript} {e : ArrayError}
      (hbefore : answer.Carries Volume.shape before)
      (hsmall : before.capacity.value < size.toNat)
      (hchange : (c.changeVolume id (Volume.expansionPayload size)).Yields change (.error e)) :
    Expansion (c.volumeRead id answer :: change) (.error e)
  /-- The change is confirmed, and the volume cannot be read after it. -/
  | unobserved {answer answer' : Answer} {before : Volume} {change : Transcript} {e : ArrayError}
      (hbefore : answer.Carries Volume.shape before)
      (hsmall : before.capacity.value < size.toNat)
      (hchange : c.Settles (c.expansionRequest id size) change (.ok ()))
      (hread : (c.getVolume id).on answer' = .error e) :
    Expansion (c.volumeRead id answer :: (change ++ [c.volumeRead id answer'])) (.error e)
  /-- The change is confirmed, and the volume has the size after it. -/
  | grown {t : Transcript} {after : Volume} (hafter : c.Observes id size t after)
      (hsize : after.capacity.value = size.toNat) : Expansion t (.ok ())
  /-- The change is confirmed, and the volume has another size after it. -/
  | mismatched {t : Transcript} {after : Volume} (hafter : c.Observes id size t after)
      (hsize : after.capacity.value ≠ size.toNat) :
    Expansion t (.error (.sizeMismatch id size after.capacity))

variable {c id size} {t : Transcript} {r : Except ArrayError Unit}

lemma yields_getVolume_iff {q : Except ArrayError Volume} :
    (c.getVolume id).Yields t q ↔
      ∃ answer, t = [c.volumeRead id answer] ∧ q = (c.getVolume id).on answer :=
  yields_read_on_iff

lemma on_getVolume_eq_ok_iff {answer : Answer} {volume : Volume} :
    (c.getVolume id).on answer = .ok volume ↔ answer.Carries Volume.shape volume :=
  on_read_eq_ok_iff rfl

/-- What is left of an expansion after its change. -/
def observeSize (c : Client) (id : VolumeId) (size : UInt32) : Operation Unit := do
  let after ← c.getVolume id
  if after.capacity.SameValue (.ofNat size.toNat) then pure ()
  else .fail (.sizeMismatch id size after.capacity)

/-- What is left of an expansion when the volume has been read. -/
def growFrom (c : Client) (id : VolumeId) (size : UInt32) (before : Volume) : Operation Unit :=
  if .ofNat size.toNat ≤ before.capacity then .fail (.notLarger id size before.capacity)
  else c.changeVolume id (Volume.expansionPayload size) >>= fun _ => c.observeSize id size

lemma expandVolume_eq : c.expandVolume id size = c.getVolume id >>= c.growFrom id size := rfl

lemma yields_observeSize_iff :
    (c.observeSize id size).Yields t r ↔
      ∃ answer, t = [c.volumeRead id answer] ∧
        r = ((c.getVolume id).on answer).bind fun after =>
          if after.capacity.value = size.toNat then .ok ()
          else .error (.sizeMismatch id size after.capacity) := by
  have hcheck : ∀ after : Volume,
      (if after.capacity.SameValue (.ofNat size.toNat) then pure ()
        else Operation.fail (.sizeMismatch id size after.capacity)) =
      Operation.ofExcept (if after.capacity.value = size.toNat then .ok ()
        else .error (.sizeMismatch id size after.capacity)) := by
    intro after
    simp only [Binary64.sameValue_ofNat_size_iff]
    split <;> rfl
  exact Operation.yields_bind_of_answer yields_getVolume_iff hcheck

lemma yields_growFrom_of_large {before : Volume} (hlarge : size.toNat ≤ before.capacity.value) :
    (c.growFrom id size before).Yields t r ↔
      t = [] ∧ r = .error (.notLarger id size before.capacity) := by
  rw [growFrom, if_pos (Binary64.ofNat_size_le_iff.2 hlarge)]
  exact Operation.yields_fail

lemma yields_growFrom_of_small {before : Volume} (hsmall : before.capacity.value < size.toNat) :
    (c.growFrom id size before).Yields t r ↔
      (∃ change rest, t = change ++ rest ∧
        c.Settles (c.expansionRequest id size) change (.ok ()) ∧
        (c.observeSize id size).Yields rest r) ∨
      ∃ e, (c.changeVolume id (Volume.expansionPayload size)).Yields t (.error e) ∧
        r = .error e := by
  have hchange {t : Transcript} :
      (c.changeVolume id (Volume.expansionPayload size)).Yields t (.ok ()) ↔
        c.Settles (c.expansionRequest id size) t (.ok ()) :=
    yields_execute_ok_iff Method.put_ne_get
  rw [growFrom, if_neg fun h => not_le_of_gt hsmall (Binary64.ofNat_size_le_iff.1 h),
    Operation.yields_bind]
  refine or_congr_left ?_
  constructor
  · rintro ⟨t₁, t₂, _, rfl, h₁, h₂⟩
    exact ⟨t₁, t₂, rfl, hchange.1 h₁, h₂⟩
  · rintro ⟨t₁, t₂, rfl, h₁, h₂⟩
    exact ⟨t₁, t₂, (), rfl, hchange.2 h₁, h₂⟩

/-- A run of an expansion ends in one of these ways. -/
lemma expansion_of_yields (h : (c.expandVolume id size).Yields t r) : c.Expansion id size t r := by
  rw [expandVolume_eq] at h
  obtain ⟨t₁, t₂, before, rfl, hread, hrest⟩ | ⟨e, hread, rfl⟩ := Operation.yields_bind.1 h
  · obtain ⟨answer, rfl, hon⟩ := yields_getVolume_iff.1 hread
    have hbefore : answer.Carries Volume.shape before := on_getVolume_eq_ok_iff.1 hon.symm
    -- What was seen decides whether anything is changed.
    rcases le_or_gt (size.toNat : ℚ) before.capacity.value with hlarge | hsmall
    · obtain ⟨rfl, rfl⟩ := (yields_growFrom_of_large hlarge).1 hrest
      exact .notLarger hbefore hlarge
    · obtain ⟨change, rest, rfl, hchange, hobserve⟩ | ⟨e, hchange, rfl⟩ :=
        (yields_growFrom_of_small hsmall).1 hrest
      · obtain ⟨answer', rfl, rfl⟩ := yields_observeSize_iff.1 hobserve
        cases hon' : (c.getVolume id).on answer' with
        | error e => exact .unobserved hbefore hsmall hchange hon'
        | ok after =>
            have hafter : c.Observes id size
                (c.volumeRead id answer :: (change ++ [c.volumeRead id answer'])) after :=
              ⟨answer, before, change, answer', rfl, hbefore, hsmall, hchange,
                on_getVolume_eq_ok_iff.1 hon'⟩
            by_cases hsize : after.capacity.value = size.toNat
            · rw [Except.bind, if_pos hsize]
              exact .grown hafter hsize
            · rw [Except.bind, if_neg hsize]
              exact .mismatched hafter hsize
      · exact .unchanged hbefore hsmall hchange
  · obtain ⟨answer, rfl, hon⟩ := yields_getVolume_iff.1 hread
    exact .unread hon.symm

/-- What follows the first read decides. -/
lemma yields_expandVolume_of_carries {answer : Answer} {before : Volume}
    (hbefore : answer.Carries Volume.shape before)
    (hrest : (c.growFrom id size before).Yields t r) :
    (c.expandVolume id size).Yields (c.volumeRead id answer :: t) r := by
  have hread : (c.getVolume id).Yields [c.volumeRead id answer] (.ok before) :=
    yields_getVolume_iff.2 ⟨answer, rfl, (on_getVolume_eq_ok_iff.2 hbefore).symm⟩
  exact Operation.yields_bind.2 (.inl ⟨_, t, before, rfl, hread, hrest⟩)

/-- When the volume is seen after its change, its capacity decides. -/
lemma Observes.yields {after : Volume} (h : c.Observes id size t after) :
    (c.expandVolume id size).Yields t (if after.capacity.value = size.toNat then .ok ()
      else .error (.sizeMismatch id size after.capacity)) := by
  obtain ⟨answer, before, change, answer', rfl, hbefore, hsmall, hchange, hafter⟩ := h
  refine yields_expandVolume_of_carries hbefore ((yields_growFrom_of_small hsmall).2 (.inl ?_))
  refine ⟨change, _, rfl, hchange, yields_observeSize_iff.2 ⟨answer', rfl, ?_⟩⟩
  rw [on_getVolume_eq_ok_iff.2 hafter]
  rfl

/-! ### What is sent and what is reported -/

lemma changes_volumeRead_cons (answer : Answer) (t : Transcript) :
    Transcript.changes (c.volumeRead id answer :: t) = t.changes := rfl

/-- Of a confirmed change between two reads only its request changes something. -/
lemma Settles.changes_between {change : Transcript}
    (h : c.Settles (c.expansionRequest id size) change (.ok ())) (answer answer' : Answer) :
    Transcript.changes (c.volumeRead id answer :: (change ++ [c.volumeRead id answer'])) =
      [(c.site, c.expansionRequest id size)] := by
  have hrun : (c.execute (c.expansionRequest id size) ⟨"volume", id.text⟩).Yields change (.ok ()) :=
    h.yields_execute Method.put_ne_get
  have hchange : change.changes = [(c.site, c.expansionRequest id size)] :=
    changes_of_yields_execute Method.put_ne_get hrun
  rw [changes_volumeRead_cons, Transcript.changes_append, hchange]
  exact List.append_nil _

lemma Observes.changes {after : Volume} (h : c.Observes id size t after) :
    t.changes = [(c.site, c.expansionRequest id size)] := by
  obtain ⟨answer, before, change, answer', rfl, -, -, hchange, -⟩ := h
  exact hchange.changes_between answer answer'

lemma Observes.exists_before {after : Volume} (h : c.Observes id size t after) :
    ∃ answer before rest, t = c.volumeRead id answer :: rest ∧
      answer.Carries Volume.shape before ∧ before.capacity.value < size.toNat := by
  obtain ⟨answer, before, change, answer', ht, hbefore, hsmall, -⟩ := h
  exact ⟨answer, before, _, ht, hbefore, hsmall⟩

/-- A volume is changed once or not at all, and when it is, a first read has found it too small. -/
lemma Expansion.changes_cases (h : c.Expansion id size t r) :
    t.changes = [] ∨ t.changes = [(c.site, c.expansionRequest id size)] ∧
      ∃ answer before rest, t = c.volumeRead id answer :: rest ∧
        answer.Carries Volume.shape before ∧ before.capacity.value < size.toNat := by
  cases h with
  | unread hread => exact .inl rfl
  | notLarger hbefore hlarge => exact .inl rfl
  | unchanged hbefore hsmall hchange =>
      have hchanges := changes_of_yields_execute Method.put_ne_get hchange
      exact .inr ⟨hchanges, _, _, _, rfl, hbefore, hsmall⟩
  | unobserved hbefore hsmall hchange hread =>
      exact .inr ⟨hchange.changes_between _ _, _, _, _, rfl, hbefore, hsmall⟩
  | grown hafter hsize => exact .inr ⟨hafter.changes, hafter.exists_before⟩
  | mismatched hafter hsize => exact .inr ⟨hafter.changes, hafter.exists_before⟩

/-- What an expansion reports: success, a size that does not match, a volume that is large enough,
or an error of one of its requests. -/
lemma Expansion.result_cases (h : c.Expansion id size t r) :
    (∃ after, c.Observes id size t after ∧ after.capacity.value = size.toNat ∧ r = .ok ()) ∨
    (∃ after, c.Observes id size t after ∧ after.capacity.value ≠ size.toNat ∧
      r = .error (.sizeMismatch id size after.capacity)) ∨
    (∃ answer before, t = [c.volumeRead id answer] ∧ answer.Carries Volume.shape before ∧
      size.toNat ≤ before.capacity.value ∧ r = .error (.notLarger id size before.capacity)) ∨
    ∃ e, r = .error e ∧ e.isOfRequest = true := by
  cases h with
  | unread hread => exact .inr (.inr (.inr ⟨_, rfl, isOfRequest_of_on_read hread⟩))
  | notLarger hbefore hlarge => exact .inr (.inr (.inl ⟨_, _, rfl, hbefore, hlarge, rfl⟩))
  | unchanged hbefore hsmall hchange =>
      exact .inr (.inr (.inr ⟨_, rfl, isOfRequest_of_yields_execute Method.put_ne_get hchange⟩))
  | unobserved hbefore hsmall hchange hread =>
      exact .inr (.inr (.inr ⟨_, rfl, isOfRequest_of_on_read hread⟩))
  | grown hafter hsize => exact .inl ⟨_, hafter, hsize, rfl⟩
  | mismatched hafter hsize => exact .inr (.inl ⟨_, hafter, hsize, rfl⟩)

lemma expandVolume_ok_iff (h : (c.expandVolume id size).Yields t r) :
    r = .ok () ↔ ∃ after, c.Observes id size t after ∧ after.capacity.value = size.toNat := by
  constructor
  · rintro rfl
    obtain ⟨after, hafter, hsize, -⟩ | ⟨_, _, _, hr⟩ | ⟨_, _, _, _, _, hr⟩ | ⟨_, hr, -⟩ :=
      (expansion_of_yields h).result_cases
    · exact ⟨after, hafter, hsize⟩
    · cases hr
    · cases hr
    · cases hr
  · rintro ⟨after, hafter, hsize⟩
    rw [h.unique hafter.yields, if_pos hsize]

lemma expandVolume_sizeMismatch_iff (h : (c.expandVolume id size).Yields t r) {id' : VolumeId}
    {size' : UInt32} {reported : Binary64} :
    r = .error (.sizeMismatch id' size' reported) ↔ id' = id ∧ size' = size ∧
      ∃ after, c.Observes id size t after ∧ after.capacity.value ≠ size.toNat ∧
        reported = after.capacity := by
  constructor
  · rintro rfl
    obtain ⟨_, _, _, hr⟩ | ⟨after, hafter, hsize, hr⟩ | ⟨_, _, _, _, _, hr⟩ | ⟨_, hr, he⟩ :=
      (expansion_of_yields h).result_cases
    · cases hr
    · cases hr
      exact ⟨rfl, rfl, after, hafter, hsize, rfl⟩
    · cases hr
    · cases hr
      cases he
  · rintro ⟨rfl, rfl, after, hafter, hsize, rfl⟩
    rw [h.unique hafter.yields, if_neg hsize]

lemma expandVolume_validation_iff (h : (c.expandVolume id size).Yields t r) :
    (∃ detail, r = .error (.validation detail)) ↔
      ∃ answer before rest, t = c.volumeRead id answer :: rest ∧
        answer.Carries Volume.shape before ∧ size.toNat ≤ before.capacity.value := by
  constructor
  · rintro ⟨detail, rfl⟩
    obtain ⟨_, _, _, hr⟩ | ⟨_, _, _, hr⟩ | ⟨answer, before, rfl, hbefore, hlarge, -⟩ |
      ⟨_, hr, he⟩ := (expansion_of_yields h).result_cases
    · cases hr
    · cases hr
    · exact ⟨answer, before, [], rfl, hbefore, hlarge⟩
    · cases hr
      cases he
  · rintro ⟨answer, before, rest, rfl, hbefore, hlarge⟩
    have hrefused : (c.expandVolume id size).Yields [c.volumeRead id answer]
        (.error (.notLarger id size before.capacity)) :=
      yields_expandVolume_of_carries hbefore ((yields_growFrom_of_large hlarge).2 ⟨rfl, rfl⟩)
    -- The first exchange decides, so the two runs are the same.
    have hstart : c.volumeRead id answer :: rest ++ [] = [c.volumeRead id answer] ++ rest :=
      List.append_nil _
    obtain ⟨-, rfl⟩ := Program.Yields.eq_of_append_eq h hrefused hstart
    exact ⟨_, rfl⟩

end Client

/-! ### Arrays that store sizes -/

/-- An array that holds a volume, reports its capacity and stores the size of a confirmed
expansion. -/
structure SizedArray (c : Client) (id : VolumeId) (σ : Type) where
  /-- The answers. -/
  serve : Program.Answerer σ
  /-- The capacity of the volume. -/
  capacity : σ → Binary64
  /-- The volume is reported with its capacity. -/
  fetch_report : ∀ s, ∃ record : Volume,
    (serve c.site (.get (c.volumePath id)) s).1.Carries Volume.shape record ∧
      record.capacity = capacity s
  /-- A report does not change it. -/
  fetch_effect : ∀ s, capacity (serve c.site (.get (c.volumePath id)) s).2 = capacity s
  /-- After an expansion that was confirmed the volume has the size. -/
  expansion_effect : ∀ {s s' : σ} {t : Transcript} {size : UInt32},
    (capacity s).value < size.toNat → c.Settles (c.expansionRequest id size) t (.ok ()) →
      Program.Served serve t s s' → (capacity s').value = size.toNat

namespace SizedArray

variable {c : Client} {id : VolumeId} {σ : Type} (A : SizedArray c id σ) {s s' : σ}
  {size : UInt32} {t : Transcript} {r : Except ArrayError Unit}

/-- The state after a read of the volume. -/
def fetched (s : σ) : σ := (A.serve c.site (.get (c.volumePath id)) s).2

variable {A}

/-- A read that is served carries the capacity. -/
lemma of_volumeRead {answer : Answer}
    (h : Program.Served A.serve (c.volumeRead id answer :: t) s s') :
    (∃ record : Volume, answer.Carries Volume.shape record ∧ record.capacity = A.capacity s) ∧
      Program.Served A.serve t (A.fetched s) s' := by
  obtain ⟨rfl, hrest⟩ := h.of_cons
  exact ⟨A.fetch_report s, hrest⟩

/-- The volume that is seen has the capacity. -/
lemma capacity_of_carries {answer : Answer} {before : Volume}
    (h : Program.Served A.serve (c.volumeRead id answer :: t) s s')
    (hbefore : answer.Carries Volume.shape before) :
    before.capacity = A.capacity s ∧ Program.Served A.serve t (A.fetched s) s' := by
  obtain ⟨⟨record, hrecord, hcapacity⟩, hrest⟩ := of_volumeRead h
  obtain rfl := hbefore.unique hrecord
  exact ⟨hcapacity, hrest⟩

/-- A read does not fail. -/
lemma not_of_volumeRead {answer : Answer} {e : ArrayError}
    (h : Program.Served A.serve (c.volumeRead id answer :: t) s s') :
    (c.getVolume id).on answer ≠ .error e := by
  obtain ⟨⟨record, hrecord, -⟩, -⟩ := of_volumeRead h
  rw [Client.on_getVolume_eq_ok_iff.2 hrecord]
  exact nofun

/-- The exchanges of an expansion after which the volume was seen. -/
lemma of_observes {after : Volume} (h : c.Observes id size t after)
    (hserved : Program.Served A.serve t s s') :
    (A.capacity s).value < size.toNat ∧ after.capacity = A.capacity s' ∧
      (A.capacity s').value = size.toNat ∧
      c.SettledBy A.serve (c.expansionRequest id size) (A.fetched s) (.ok ()) := by
  obtain ⟨answer, before, change, answer', rfl, hbefore, hsmall, hchange, hafter⟩ := h
  obtain ⟨hcapacity, hrest⟩ := capacity_of_carries hserved hbefore
  rw [hcapacity] at hsmall
  obtain ⟨s₁, hserved₁, hserved₂⟩ := hrest.of_append
  obtain ⟨hcapacity', hnone⟩ := capacity_of_carries hserved₂ hafter
  have hs' : s' = A.fetched s₁ := by
    cases hnone
    rfl
  have hkept : A.capacity s' = A.capacity s₁ := by
    rw [hs']
    exact A.fetch_effect s₁
  -- The first read leaves the volume as small as it was.
  have hfetched : (A.capacity (A.fetched s)).value < size.toNat := by
    rw [fetched, A.fetch_effect]
    exact hsmall
  refine ⟨hsmall, hcapacity'.trans hkept.symm, ?_, change, s₁, hchange, hserved₁⟩
  rw [hkept]
  exact A.expansion_effect hfetched hchange hserved₁

/-- What an expansion comes to: its result and the state after it. -/
inductive Ends (A : SizedArray c id σ) (size : UInt32) (s : σ) (t : Transcript) :
    Except ArrayError Unit → σ → Prop
  /-- The volume is large enough, and nothing changes. -/
  | refused {s' : σ} {detail : String} (hlarge : size.toNat ≤ (A.capacity s).value)
      (hchanges : t.changes = []) (hkept : A.capacity s' = A.capacity s) :
    Ends A size s t (.error (.validation detail)) s'
  /-- The change is confirmed, and the volume has the size. -/
  | grown {s' : σ} (hsmall : (A.capacity s).value < size.toNat)
      (hstored : (A.capacity s').value = size.toNat)
      (hsettled : c.SettledBy A.serve (c.expansionRequest id size) (A.fetched s) (.ok ())) :
    Ends A size s t (.ok ()) s'
  /-- The change is not confirmed, and the volume may have any size. -/
  | unconfirmed {s' : σ} {e : ArrayError} (hsmall : (A.capacity s).value < size.toNat)
      (herror : e.isOfRequest = true)
      (hunsettled : ¬ c.SettledBy A.serve (c.expansionRequest id size) (A.fetched s) (.ok ())) :
    Ends A size s t (.error e) s'

/-- An expansion that the array serves ends in one of the three ways. -/
lemma ends_of_expansion (h : c.Expansion id size t r) (hserved : Program.Served A.serve t s s') :
    A.Ends size s t r s' := by
  cases h with
  | unread hread => exact absurd hread (not_of_volumeRead hserved)
  | notLarger hbefore hlarge =>
      obtain ⟨hcapacity, hrest⟩ := capacity_of_carries hserved hbefore
      rw [hcapacity] at hlarge
      cases hrest
      exact .refused hlarge rfl (A.fetch_effect s)
  | unchanged hbefore hsmall hchange =>
      obtain ⟨hcapacity, hrest⟩ := capacity_of_carries hserved hbefore
      rw [hcapacity] at hsmall
      refine .unconfirmed hsmall
        (Client.isOfRequest_of_yields_execute Method.put_ne_get hchange) ?_
      -- The change is answered in one way only.
      rintro ⟨t', s'', hsettles, hserved'⟩
      have hconfirmed : (c.changeVolume id (Volume.expansionPayload size)).Yields t' (.ok ()) :=
        hsettles.yields_execute Method.put_ne_get
      have hrun := hserved'.run_eq hconfirmed
      rw [hrest.run_eq hchange] at hrun
      cases hrun
  | unobserved hbefore hsmall hchange hread =>
      obtain ⟨-, hrest⟩ := capacity_of_carries hserved hbefore
      obtain ⟨s₁, -, hserved₂⟩ := hrest.of_append
      exact absurd hread (not_of_volumeRead hserved₂)
  | grown hafter hsize =>
      obtain ⟨hsmall, -, hstored, hsettled⟩ := of_observes hafter hserved
      exact .grown hsmall hstored hsettled
  | mismatched hafter hsize =>
      obtain ⟨-, hcapacity, hstored, -⟩ := of_observes hafter hserved
      rw [hcapacity] at hsize
      exact absurd hstored hsize

/-- So does a run against the array. -/
lemma ends_run (A : SizedArray c id σ) (s : σ) (size : UInt32) :
    A.Ends size s ((c.expandVolume id size).run.transcript A.serve s)
      ((c.expandVolume id size).run.run A.serve s).1
      ((c.expandVolume id size).run.run A.serve s).2 :=
  ends_of_expansion (Client.expansion_of_yields (Program.yields_transcript A.serve _ s))
    (Program.Served.of_run _ s)

lemma Ends.ok_iff (h : A.Ends size s t r s') :
    r = .ok () ↔ (A.capacity s).value < size.toNat ∧
      c.SettledBy A.serve (c.expansionRequest id size) (A.fetched s) (.ok ()) := by
  cases h with
  | refused hlarge hchanges hkept => exact iff_of_false nofun fun h => not_le_of_gt h.1 hlarge
  | grown hsmall hstored hsettled => exact iff_of_true rfl ⟨hsmall, hsettled⟩
  | unconfirmed hsmall herror hunsettled => exact iff_of_false nofun fun h => hunsettled h.2

lemma Ends.validation_iff (h : A.Ends size s t r s') :
    (∃ detail, r = .error (.validation detail)) ↔ size.toNat ≤ (A.capacity s).value := by
  cases h with
  | refused hlarge hchanges hkept => exact iff_of_true ⟨_, rfl⟩ hlarge
  | grown hsmall hstored hsettled => exact iff_of_false nofun (not_le_of_gt hsmall)
  | unconfirmed hsmall herror hunsettled =>
      refine iff_of_false ?_ (not_le_of_gt hsmall)
      rintro ⟨detail, hdetail⟩
      cases hdetail
      cases herror

/-- Unless its change was not confirmed, the volume has at least the size. -/
lemma Ends.large_after (h : A.Ends size s t r s')
    (hr : r = .ok () ∨ ∃ detail, r = .error (.validation detail)) :
    size.toNat ≤ (A.capacity s').value := by
  cases h with
  | refused hlarge hchanges hkept =>
      rw [hkept]
      exact hlarge
  | grown hsmall hstored hsettled => exact hstored.ge
  | unconfirmed hsmall herror hunsettled =>
      obtain hok | ⟨detail, hdetail⟩ := hr
      · cases hok
      · cases hdetail
        cases herror

/-- A volume that is large enough is left as it is. -/
lemma Ends.of_large (h : A.Ends size s t r s') (hlarge : size.toNat ≤ (A.capacity s).value) :
    (∃ detail, r = .error (.validation detail)) ∧ t.changes = [] ∧
      A.capacity s' = A.capacity s := by
  cases h with
  | refused _ hchanges hkept => exact ⟨⟨_, rfl⟩, hchanges, hkept⟩
  | grown hsmall hstored hsettled => exact absurd hlarge (not_le_of_gt hsmall)
  | unconfirmed hsmall herror hunsettled => exact absurd hlarge (not_le_of_gt hsmall)

end SizedArray

/-! ### An array that grows volumes by jobs -/

namespace GrowingArray

/-- The client of the array. -/
def client : Client := ⟨.home, ⟨"000197600123"⟩, .default⟩

/-- The volume. -/
def id : VolumeId := ⟨"0012A"⟩

/-- The volume as the array reports it. -/
def report (capacity : Binary64) : Json :=
  .object [("cap_gb", .number (.real capacity)), ("volumeId", .string id.text)]

/-- The job of an expansion. -/
def job (status : String) : Json :=
  .object [("jobId", .string "1"), ("status", .string status)]

/-- The size that a payload asks for. -/
def sizeIn (body : Option Json) : Nat :=
  let change := ((body.bind (·.member? "editVolumeActionParam")).bind
    (·.member? "expandVolumeParam")).bind (·.member? "volumeAttribute")
  match change.bind (·.member? "volume_size") with
  | some (.string digits) => Nat.ofDigitChars 10 digits.toList 0
  | _ => 0

/-- The answer to a request, and the capacity after it. -/
def serve (_ : Site) (request : Request) (capacity : Binary64) : Answer × Binary64 :=
  if request.method = .get then
    if request.path = client.volumePath id then (.ok ⟨200, report capacity⟩, capacity)
    else (.ok ⟨200, job "SUCCEEDED"⟩, capacity)
  else (.ok ⟨202, job "RUNNING"⟩, .ofNat (sizeIn request.body))

lemma sizeIn_expansionPayload (size : UInt32) :
    sizeIn (some (Volume.expansionPayload size)) = size.toNat := by
  change Nat.ofDigitChars 10 (Nat.repr size.toNat).toList 0 = size.toNat
  rw [Nat.toList_repr, Nat.ofDigitChars_ten_toDigits]

lemma serve_of_get {site : Site} {request : Request} (hm : request.method = .get)
    (capacity : Binary64) : (serve site request capacity).2 = capacity := by
  rw [serve, if_pos hm]
  split <;> rfl

/-- The first poll finds the job of an expansion ended. -/
lemma settledBy (capacity : Binary64) (size : UInt32) :
    client.SettledBy serve (client.expansionRequest id size) capacity (.ok ()) := by
  let request := client.expansionRequest id size
  let handle : JobRecord := ⟨⟨"1"⟩, none, .running, none, none, none⟩
  let ended : JobRecord := ⟨⟨"1"⟩, none, .succeeded, none, none, none⟩
  have hanswer : (serve client.site request capacity).1 = .ok ⟨202, job "RUNNING"⟩ := rfl
  have hdefers : Response.Defers ⟨202, job "RUNNING"⟩ handle := ⟨rfl, rfl, rfl⟩
  have hpoll : (client.getJob handle.id).on (serve client.site (client.pollRequest handle.id)
      (serve client.site request capacity).2).1 = .ok ended := rfl
  exact .of_first_poll hanswer hdefers rfl hpoll rfl

/-- The array. -/
def array : SizedArray client id Binary64 where
  serve := serve
  capacity s := s
  fetch_report s := ⟨⟨id, none, s, [], false, false, [], none⟩, ⟨_, rfl, rfl, rfl⟩, rfl⟩
  fetch_effect _ := rfl
  expansion_effect {s s' t size} _ hsettles hserved := by
    have hrun : (client.changeVolume id (Volume.expansionPayload size)).Yields t (.ok ()) :=
      hsettles.yields_execute Method.put_ne_get
    refine hserved.invariant_of_execute hrun (P := fun s => s.value = size.toNat) ?_
      fun job s hs => ?_
    · change (Binary64.ofNat (sizeIn (some (Volume.expansionPayload size)))).value = _
      rw [sizeIn_expansionPayload]
      exact Binary64.value_ofNat (size.toNat_lt.trans (by decide))
    · rw [serve_of_get rfl]
      exact hs

end GrowingArray

/-- **An expansion only grows a volume, and reports what was seen.**  In every run:

* at most one request changes something; it is the one for exactly the size, and before it the
  volume was read and seen to be smaller;
* success means that the change was confirmed and that the volume was read again and seen to have
  the size; when it was seen to have another one, this is reported as a mismatch;
* a validation error means that the first read has shown the size or a larger one.

With an array that stores the size of a confirmed expansion, the first expansion succeeds exactly
when the volume is smaller and the array confirms the change, and is refused exactly when the volume
is not smaller.  In both cases, and whenever the volume has at least the size afterwards, the next
expansion to the same or a smaller size is refused and changes nothing.  In the runs every wait has
a deadline, and polls take no time. -/
theorem expansion_only_grows (c : Client) (id : VolumeId) :
    (∀ (size : UInt32) (t : Transcript) (r : Except ArrayError Unit),
      (c.expandVolume id size).Yields t r →
      (t.changes = [] ∨ t.changes = [(c.site, c.expansionRequest id size)] ∧
        ∃ answer before rest, t = c.volumeRead id answer :: rest ∧
          answer.Carries Volume.shape before ∧ before.capacity.value < size.toNat) ∧
      (r = .ok () ↔ ∃ after, c.Observes id size t after ∧ after.capacity.value = size.toNat) ∧
      (∀ id' size' reported, r = .error (.sizeMismatch id' size' reported) ↔
        id' = id ∧ size' = size ∧ ∃ after, c.Observes id size t after ∧
          after.capacity.value ≠ size.toNat ∧ reported = after.capacity) ∧
      ((∃ detail, r = .error (.validation detail)) ↔
        ∃ answer before rest, t = c.volumeRead id answer :: rest ∧
          answer.Carries Volume.shape before ∧ size.toNat ≤ before.capacity.value)) ∧
    ∀ {σ : Type} (A : SizedArray c id σ) (s : σ) (size size' : UInt32), size' ≤ size →
      let first := (c.expandVolume id size).run.run A.serve s
      let next := (c.expandVolume id size').run.run A.serve first.2
      (first.1 = .ok () ↔ (A.capacity s).value < size.toNat ∧
        c.SettledBy A.serve (c.expansionRequest id size) (A.fetched s) (.ok ())) ∧
      ((∃ detail, first.1 = .error (.validation detail)) ↔
        size.toNat ≤ (A.capacity s).value) ∧
      (first.1 = .ok () ∨ (∃ detail, first.1 = .error (.validation detail)) ∨
          size.toNat ≤ (A.capacity first.2).value →
        (∃ detail, next.1 = .error (.validation detail)) ∧
        ((c.expandVolume id size').run.transcript A.serve first.2).changes = [] ∧
        A.capacity next.2 = A.capacity first.2) := by
  refine ⟨fun size t r hrun => ?_, fun {σ} A s size size' hle => ?_⟩
  · exact ⟨(Client.expansion_of_yields hrun).changes_cases, Client.expandVolume_ok_iff hrun,
      fun _ _ _ => Client.expandVolume_sizeMismatch_iff hrun,
      Client.expandVolume_validation_iff hrun⟩
  intro first next
  have hfirst := A.ends_run s size
  refine ⟨hfirst.ok_iff, hfirst.validation_iff, fun h => ?_⟩
  have hstored : size.toNat ≤ (A.capacity first.2).value := by
    obtain hok | hrefused | hstored := h
    · exact hfirst.large_after (.inl hok)
    · exact hfirst.large_after (.inr hrefused)
    · exact hstored
  have hsizes : (size'.toNat : ℚ) ≤ size.toNat := Nat.cast_le.2 (UInt32.le_iff_toNat_le.1 hle)
  exact (A.ends_run first.2 size').of_large (hsizes.trans hstored)

/-- A volume of 4.5 GB is expanded to 10 GB by a job, and not again to 8 GB. -/
theorem expansion_only_grows_by_job :
    let c := GrowingArray.client
    let id := GrowingArray.id
    let start : Binary64 := ⟨false, 1025 * Binary64.blockSize + Binary64.blockSize / 8, by decide⟩
    let first := (c.expandVolume id 10).run.run GrowingArray.array.serve start
    let next := (c.expandVolume id 8).run.run GrowingArray.array.serve first.2
    let t := (c.expandVolume id 10).run.transcript GrowingArray.array.serve start
    (c.expandVolume id 10).Yields t first.1 ∧ (8 : UInt32) ≤ 10 ∧ first.1 = .ok () ∧
      t.changes = [(c.site, c.expansionRequest id 10)] ∧
      (∃ after, c.Observes id 10 t after ∧ after.capacity.value = (10 : UInt32).toNat) ∧
      (∃ detail, next.1 = .error (.validation detail)) ∧
      ((c.expandVolume id 8).run.transcript GrowingArray.array.serve first.2).changes = [] := by
  intro c id start first next t
  have hsmall : start.value < (10 : UInt32).toNat :=
    not_le.1 fun h => absurd (Binary64.ofNat_size_le_iff.2 h) (by decide)
  have hsettled : c.SettledBy GrowingArray.array.serve (c.expansionRequest id 10)
      (GrowingArray.array.fetched start) (.ok ()) := GrowingArray.settledBy _ 10
  have hrun : (c.expandVolume id 10).Yields t first.1 := Program.yields_transcript _ _ _
  have hle : (8 : UInt32) ≤ 10 := by decide
  obtain ⟨hruns, harrays⟩ := expansion_only_grows c id
  obtain ⟨hok, -, hnext⟩ := harrays GrowingArray.array start 10 8 hle
  have hfirst : first.1 = .ok () := hok.2 ⟨hsmall, hsettled⟩
  obtain ⟨hrefused, hnone, -⟩ := hnext (.inl hfirst)
  obtain ⟨-, hobserved, -⟩ := hruns 10 t first.1 hrun
  obtain ⟨after, hafter, hsize⟩ := hobserved.1 hfirst
  exact ⟨hrun, hle, hfirst, hafter.changes, ⟨after, hafter, hsize⟩, hrefused, hnone⟩

end StorageArray
