import Mathlib.Tactic.Common
import StorageArray.Proofs.Volume.Accounting
import StorageArray.Replication.Teardown
/-!
# The teardown of a replicated volume

The teardown of a pair goes through four stages: it looks the pair up, breaks it, tears the volume
down, and tears its partner down.  The first two can end it; the last two are both gone through,
and their errors are reported together.  `Client.UnpairingRun` lists how the first two can end, and
`Client.yields_teardownBoth_iff` takes the last two apart.

What is sent to the array of the volume is what `Client.teardownHomeHalf` sends: an operation that
leaves the partner alone.  So the answers of the partner array have no influence on it.
-/

namespace StorageArray

namespace Transcript

variable {t : Transcript} {site : Site}

lemma exchangesAt_append (t u : Transcript) (site : Site) :
    (t ++ u).exchangesAt site = t.exchangesAt site ++ u.exchangesAt site :=
  List.filter_append t u

lemma exchangesAt_eq_self (h : ∀ e ∈ t, e.site = site) : t.exchangesAt site = t := by
  simpa [exchangesAt, List.filter_eq_self] using h

lemma exchangesAt_eq_nil (h : ∀ e ∈ t, e.site ≠ site) : t.exchangesAt site = [] := by
  simpa [exchangesAt, List.filter_eq_nil_iff] using h

end Transcript

namespace Client

variable {c remote : Client} {number : UInt32} {group remoteGroup : String} {id : VolumeId}
  {t : Transcript}

/-- The request that looks the pair of a volume up. -/
def pairRequest (c : Client) (number : UInt32) (id : VolumeId) : Request :=
  .get (c.replicationPath ("rdf_group/" ++ toString number.toNat ++ "/volume/" ++ id.text))

/-- The remote half of the change that breaks a pair. -/
def partnerGroup (remote : Client) (remoteGroup : String) : Volume.RemoteGroup :=
  ⟨remote.arrayId, remoteGroup, true⟩

/-- The request that breaks a pair: the volume and its partner leave their groups. -/
def unpairingRequest (c remote : Client) (group remoteGroup : String) (id : VolumeId) : Request :=
  .put (c.storageGroupPath group)
    (Volume.removalPayload [id] (some (remote.partnerGroup remoteGroup)))

/-- The error of a lookup of a pair that has failed. -/
def pairFailure (number : UInt32) (id : VolumeId) (e : ArrayError) : ArrayError :=
  if e.isNotFound then .pairNotFound id number else e

/-! ### Stages -/

/-- A lookup of a pair is one exchange. -/
lemma yields_requirePair_iff {r : Except ArrayError DevicePair} :
    (c.requirePair number id).Yields t r ↔
      ∃ answer, t = [⟨c.site, c.pairRequest number id, answer⟩] ∧
        r = ((c.getDevicePair number id).on answer).mapError (pairFailure number id) := by
  have hrequire : (c.requirePair number id).Yields t r ↔
      ∃ q, (c.getDevicePair number id).Yields t q ∧ r = q.mapError (pairFailure number id) :=
    Operation.yields_settle_bind_ofExcept fun q => by cases q <;> rfl
  rw [hrequire]
  constructor
  · rintro ⟨q, h, rfl⟩
    obtain ⟨answer, rfl, rfl⟩ := yields_read_on_iff.1 h
    exact ⟨answer, rfl, rfl⟩
  · rintro ⟨answer, rfl, rfl⟩
    exact ⟨_, yields_read_on_iff.2 ⟨answer, rfl, rfl⟩, rfl⟩

/-- The error of a volume that is paired with another array than the one that was given. -/
def otherPartner (remote : Client) (id : VolumeId) (pair : DevicePair) : ArrayError :=
  .validation ("volume " ++ id.text ++ " is paired with array " ++ pair.remoteArray.text ++ ", not "
    ++ remote.arrayId.text)

/-- The report on the teardown of a volume and of its partner. -/
def pairReport (id partner : VolumeId) (here there : Except ArrayError Unit) :
    Except ArrayError Unit :=
  if (errorOf here ++ errorOf there).isEmpty then .ok ()
  else .error (.teardown ("replicated volume " ++ id.text ++ " (partner " ++ partner.text ++ " "
    ++ (if deletedBy there then "deleted" else "kept") ++ ")") (deletedBy here)
    (errorOf here ++ errorOf there))

/-- Tears a volume and then its partner down. -/
def teardownBoth (c remote : Client) (id partner : VolumeId) : Operation Unit := do
  let here ← (c.teardownVolume id).settle
  let there ← (remote.teardownVolume partner).settle
  .ofExcept (pairReport id partner here there)

/-- Looks the pair of a volume up, breaks it, and goes on. -/
def afterUnpairing (c remote : Client) (number : UInt32) (group remoteGroup : String)
    (id : VolumeId) (next : DevicePair → Operation Unit) : Operation Unit := do
  let pair ← c.requirePair number id
  if pair.remoteArray ≠ remote.arrayId then .fail (remote.otherPartner id pair)
  else
    c.removeVolumesFrom group [id] (some (remote.partnerGroup remoteGroup))
    next pair

/-- The stages in a row. -/
lemma teardownProtectedVolume_eq :
    c.teardownProtectedVolume remote number group remoteGroup id =
      c.afterUnpairing remote number group remoteGroup id fun pair =>
        c.teardownBoth remote id pair.remoteVolume := by
  unfold teardownProtectedVolume afterUnpairing
  congr 1
  funext pair
  refine if_congr Iff.rfl rfl ?_
  congr 1
  funext _
  unfold teardownBoth
  congr 1
  funext here
  congr 1
  funext there
  exact (apply_ite Operation.ofExcept _ _ _).symm

variable (c remote number group remoteGroup id)

/-- The ways in which an operation ends that breaks a pair and goes on. -/
inductive UnpairingRun (next : DevicePair → Operation Unit) :
    Transcript → Except ArrayError Unit → Prop
  /-- The pair could not be looked up. -/
  | notLookedUp {answer : Answer} {e : ArrayError}
      (hfailed : (c.getDevicePair number id).on answer = .error e) :
    UnpairingRun next [⟨c.site, c.pairRequest number id, answer⟩] (.error (pairFailure number id e))
  /-- The partner is on another array than that of the other client. -/
  | otherPartner {answer : Answer} {pair : DevicePair}
      (hfound : (c.getDevicePair number id).on answer = .ok pair)
      (hother : pair.remoteArray ≠ remote.arrayId) :
    UnpairingRun next [⟨c.site, c.pairRequest number id, answer⟩]
      (.error (remote.otherPartner id pair))
  /-- The pair could not be broken. -/
  | notUnpaired {answer : Answer} {pair : DevicePair} {unpairing : Transcript} {e : ArrayError}
      (hfound : (c.getDevicePair number id).on answer = .ok pair)
      (hpartner : pair.remoteArray = remote.arrayId)
      (hunpairing : (c.removeVolumesFrom group [id]
        (some (remote.partnerGroup remoteGroup))).Yields unpairing (.error e)) :
    UnpairingRun next (⟨c.site, c.pairRequest number id, answer⟩ :: unpairing) (.error e)
  /-- The pair is broken. -/
  | unpaired {answer : Answer} {pair : DevicePair} {unpairing later : Transcript}
      {r : Except ArrayError Unit}
      (hfound : (c.getDevicePair number id).on answer = .ok pair)
      (hpartner : pair.remoteArray = remote.arrayId)
      (hunpairing : (c.removeVolumesFrom group [id]
        (some (remote.partnerGroup remoteGroup))).Yields unpairing (.ok ()))
      (hnext : (next pair).Yields later r) :
    UnpairingRun next (⟨c.site, c.pairRequest number id, answer⟩ :: (unpairing ++ later)) r

variable {c remote number group remoteGroup id}

lemma yields_afterUnpairing_iff {next : DevicePair → Operation Unit} {r : Except ArrayError Unit} :
    (c.afterUnpairing remote number group remoteGroup id next).Yields t r ↔
      c.UnpairingRun remote number group remoteGroup id next t r := by
  rw [afterUnpairing, Operation.yields_bind_cases]
  constructor
  · rintro ⟨t₁, rest, q, rfl, hlookup, hrest⟩
    obtain ⟨answer, rfl, rfl⟩ := yields_requirePair_iff.1 hlookup
    cases hfound : (c.getDevicePair number id).on answer with
    | error e =>
        rw [hfound] at hrest
        obtain ⟨rfl, rfl⟩ := hrest
        exact .notLookedUp hfound
    | ok pair =>
        rw [hfound] at hrest
        simp only [Except.mapError] at hrest
        split at hrest
        · rename_i hother
          obtain ⟨rfl, rfl⟩ := Operation.yields_fail.1 hrest
          exact .otherPartner hfound hother
        · rename_i hpartner
          rw [not_not] at hpartner
          obtain ⟨unpairing, later, _, rfl, h₁, h₂⟩ | ⟨e, h, rfl⟩ := Operation.yields_bind.1 hrest
          · rw [List.singleton_append]
            exact .unpaired hfound hpartner h₁ h₂
          · exact .notUnpaired hfound hpartner h
  · intro h
    cases h with
    | @notLookedUp answer e hfailed =>
        refine ⟨_, [], _, (List.append_nil _).symm, yields_requirePair_iff.2 ⟨answer, rfl, rfl⟩, ?_⟩
        rw [hfailed]
        exact ⟨rfl, rfl⟩
    | @otherPartner answer pair hfound hother =>
        refine ⟨_, [], _, (List.append_nil _).symm, yields_requirePair_iff.2 ⟨answer, rfl, rfl⟩, ?_⟩
        rw [hfound]
        simp only [Except.mapError, if_pos hother]
        exact Operation.yields_fail.2 ⟨rfl, rfl⟩
    | @notUnpaired answer pair unpairing e hfound hpartner hunpairing =>
        refine ⟨_, unpairing, _, rfl, yields_requirePair_iff.2 ⟨answer, rfl, rfl⟩, ?_⟩
        rw [hfound]
        simp only [Except.mapError, if_neg (not_not.2 hpartner)]
        exact Operation.yields_bind.2 (.inr ⟨e, hunpairing, rfl⟩)
    | @unpaired answer pair unpairing later r hfound hpartner hunpairing hnext =>
        refine ⟨_, unpairing ++ later, _, rfl, yields_requirePair_iff.2 ⟨answer, rfl, rfl⟩, ?_⟩
        rw [hfound]
        simp only [Except.mapError, if_neg (not_not.2 hpartner)]
        exact Operation.yields_bind.2 (.inl ⟨unpairing, later, (), rfl, hunpairing, hnext⟩)

/-- Both teardowns are gone through, whatever becomes of the first. -/
lemma yields_teardownBoth_iff {partner : VolumeId} {r : Except ArrayError Unit} :
    (c.teardownBoth remote id partner).Yields t r ↔
      ∃ here there : ChangeRun, t = here.exchanges ++ there.exchanges ∧
        (c.teardownVolume id).Yields here.exchanges here.result ∧
        (remote.teardownVolume partner).Yields there.exchanges there.result ∧
        r = pairReport id partner here.result there.result := by
  have hpartner (here : Except ArrayError Unit) {t : Transcript} {r : Except ArrayError Unit} :
      Operation.Yields (do
        let there ← (remote.teardownVolume partner).settle
        .ofExcept (pairReport id partner here there)) t r ↔
        ∃ there, (remote.teardownVolume partner).Yields t there ∧
          r = pairReport id partner here there :=
    Operation.yields_settle_bind_ofExcept fun there => rfl
  rw [teardownBoth, Operation.yields_settle_bind]
  constructor
  · rintro ⟨t₁, t₂, here, rfl, h₁, hrest⟩
    obtain ⟨there, h₂, rfl⟩ := (hpartner here).1 hrest
    exact ⟨⟨t₁, here⟩, ⟨t₂, there⟩, rfl, h₁, h₂, rfl⟩
  · rintro ⟨here, there, rfl, h₁, h₂, rfl⟩
    exact ⟨_, _, here.result, rfl, h₁, (hpartner here.result).2 ⟨there.result, h₂, rfl⟩⟩

lemma pairReport_eq_ok_iff {partner : VolumeId} {here there : Except ArrayError Unit} :
    pairReport id partner here there = .ok () ↔ here = .ok () ∧ there = .ok () := by
  unfold pairReport
  cases here with
  | error e => simp [errorOf]
  | ok a =>
      cases there with
      | error e => simp [errorOf]
      | ok a => simp [errorOf]

lemma deletedBy_iff {r : Except ArrayError Unit} :
    deletedBy r = true ↔
      r = .ok () ∨ ∃ resource errors, r = .error (.teardown resource true errors) := by
  cases r with
  | ok a => simp [deletedBy]
  | error e => cases e <;> simp [deletedBy]

/-! ### Runs -/

/-- The change that breaks a pair sends its request and polls. -/
lemma changes_of_unpairing {r : Except ArrayError Unit}
    (h : (c.removeVolumesFrom group [id] (some (remote.partnerGroup remoteGroup))).Yields t r) :
    t.changes = [(c.site, c.unpairingRequest remote group remoteGroup id)] :=
  changes_of_yields_execute Method.put_ne_get h

lemma site_of_unpairing {r : Except ArrayError Unit}
    (h : (c.removeVolumesFrom group [id] (some (remote.partnerGroup remoteGroup))).Yields t r)
    {e : Exchange} (he : e ∈ t) : e.site = c.site :=
  (mem_of_yields_execute h he).1

/-- What a teardown of a pair does at home: the partner is left alone. -/
def teardownHomeHalf (c remote : Client) (number : UInt32) (group remoteGroup : String)
    (id : VolumeId) : Operation Unit :=
  c.afterUnpairing remote number group remoteGroup id fun _ => c.teardownVolume id

/-- The exchanges with the array of the volume are a run of the half at home. -/
lemma exists_yields_teardownHomeHalf (hsites : c.site ≠ remote.site)
    {r : Except ArrayError Unit}
    (h : (c.teardownProtectedVolume remote number group remoteGroup id).Yields t r) :
    ∃ q, (c.teardownHomeHalf remote number group remoteGroup id).Yields
      (t.exchangesAt c.site) q := by
  rw [teardownProtectedVolume_eq] at h
  suffices hhome : ∃ q, c.UnpairingRun remote number group remoteGroup id
      (fun _ => c.teardownVolume id) (t.exchangesAt c.site) q by
    obtain ⟨q, hhome⟩ := hhome
    exact ⟨q, yields_afterUnpairing_iff.2 hhome⟩
  have hlookup (answer : Answer) (rest : Transcript) :
      Transcript.exchangesAt (⟨c.site, c.pairRequest number id, answer⟩ :: rest) c.site =
        ⟨c.site, c.pairRequest number id, answer⟩ :: rest.exchangesAt c.site := by
    simp [Transcript.exchangesAt]
  have hunpaired {unpairing : Transcript} {q : Except ArrayError Unit}
      (h : (c.removeVolumesFrom group [id] (some (remote.partnerGroup remoteGroup))).Yields
        unpairing q) : unpairing.exchangesAt c.site = unpairing :=
    Transcript.exchangesAt_eq_self fun e => site_of_unpairing h
  cases yields_afterUnpairing_iff.1 h with
  | notLookedUp hfailed =>
      rw [hlookup]
      exact ⟨_, .notLookedUp hfailed⟩
  | otherPartner hfound hother =>
      rw [hlookup]
      exact ⟨_, .otherPartner hfound hother⟩
  | notUnpaired hfound hpartner hunpairing =>
      rw [hlookup, hunpaired hunpairing]
      exact ⟨_, .notUnpaired hfound hpartner hunpairing⟩
  | unpaired hfound hpartner hunpairing hboth =>
      obtain ⟨here, there, rfl, hhere, hthere, -⟩ := yields_teardownBoth_iff.1 hboth
      have hhome : here.exchanges.exchangesAt c.site = here.exchanges :=
        Transcript.exchangesAt_eq_self fun e => site_of_yields_teardownVolume hhere
      -- Nothing of the teardown of the partner is seen at home.
      have hthere_home : there.exchanges.exchangesAt c.site = [] :=
        Transcript.exchangesAt_eq_nil fun e he =>
          (site_of_yields_teardownVolume hthere he).trans_ne hsites.symm
      rw [hlookup, Transcript.exchangesAt_append, Transcript.exchangesAt_append,
        hunpaired hunpairing, hhome, hthere_home, List.append_nil]
      exact ⟨_, .unpaired hfound hpartner hunpairing hhere⟩

end Client

/-- The teardowns of a volume and of its partner, the exchanges of both, and the report on them. -/
structure BothTornDown (c remote : Client) (id partner : VolumeId) (t : Transcript)
    (r : Except ArrayError Unit) (here there : ChangeRun) : Prop where
  /-- The volume comes first. -/
  exchanges_eq : t = here.exchanges ++ there.exchanges
  /-- The teardown of the volume. -/
  here_run : (c.teardownVolume id).Yields here.exchanges here.result
  /-- It is sent to its own array. -/
  here_site : ∀ e ∈ here.exchanges, e.site = c.site
  /-- The teardown of the partner. -/
  there_run : (remote.teardownVolume partner).Yields there.exchanges there.result
  /-- It is sent to the array of the partner. -/
  there_site : ∀ e ∈ there.exchanges, e.site = remote.site
  /-- All is well exactly when both have succeeded. -/
  report_ok : r = .ok () ↔ here.result = .ok () ∧ there.result = .ok ()
  /-- Else the errors of both are reported, and whether the volume was deleted. -/
  report_error : r ≠ .ok () → ∃ resource deleted,
    r = .error (.teardown resource deleted (errorOf here.result ++ errorOf there.result)) ∧
      (deleted = true ↔ here.result = .ok () ∨
        ∃ resource errors, here.result = .error (.teardown resource true errors))

lemma Client.exists_bothTornDown {c remote : Client} {id partner : VolumeId} {t : Transcript}
    {r : Except ArrayError Unit} (h : (c.teardownBoth remote id partner).Yields t r) :
    ∃ here there, BothTornDown c remote id partner t r here there := by
  obtain ⟨here, there, rfl, hhere, hthere, rfl⟩ := yields_teardownBoth_iff.1 h
  refine ⟨here, there, rfl, hhere, fun e => site_of_yields_teardownVolume hhere, hthere,
    fun e => site_of_yields_teardownVolume hthere, pairReport_eq_ok_iff, fun hfailed => ?_⟩
  unfold pairReport at hfailed ⊢
  split
  · rename_i hnone
    exact absurd (if_pos hnone) hfailed
  · exact ⟨_, deletedBy here.result, rfl, deletedBy_iff⟩

/-- **The stages of a teardown of a pair.**  The teardown looks the pair of the volume up.

* When the lookup fails, or finds a partner on another array than that of the other client, this
  is all that it sends.
* Else it breaks the pair, and when this fails nothing more is sent to either array.
* Else it tears the volume down and then its partner, whatever became of the volume.  It succeeds
  when both do, and otherwise its report has the errors of both and says whether the volume was
  deleted.
* Another run in which the array of the volume gives the same answers has the same exchanges with
  this array, whatever the array of the partner answers.

In the runs every wait has a deadline, and polls take no time. -/
theorem teardownProtectedVolume_staged (c remote : Client) (number : UInt32)
    (group remoteGroup : String) (id : VolumeId) (hsites : c.site ≠ remote.site)
    {t : Transcript} {r : Except ArrayError Unit}
    (hrun : (c.teardownProtectedVolume remote number group remoteGroup id).Yields t r) :
    (∃ (answer : Answer) (rest : Transcript),
      t = ⟨c.site, c.pairRequest number id, answer⟩ :: rest ∧
      (∀ e, (c.getDevicePair number id).on answer = .error e →
        rest = [] ∧ r = .error (if e.isNotFound then .pairNotFound id number else e)) ∧
      ∀ pair, (c.getDevicePair number id).on answer = .ok pair →
        (pair.remoteArray ≠ remote.arrayId →
          rest = [] ∧ ∃ detail, r = .error (.validation detail)) ∧
        (pair.remoteArray = remote.arrayId → ∃ (unpairing : ChangeRun) (later : Transcript),
          rest = unpairing.exchanges ++ later ∧
            (c.removeVolumesFrom group [id] (some ⟨remote.arrayId, remoteGroup, true⟩)).Yields
              unpairing.exchanges unpairing.result ∧
            unpairing.exchanges.changes =
              [(c.site, c.unpairingRequest remote group remoteGroup id)] ∧
            (∀ e ∈ unpairing.exchanges, e.site = c.site) ∧
            (∀ e, unpairing.result = .error e → later = [] ∧ r = .error e) ∧
            (unpairing.result = .ok () → ∃ here there,
              BothTornDown c remote id pair.remoteVolume later r here there))) ∧
      ∀ t' r', (c.teardownProtectedVolume remote number group remoteGroup id).Yields t' r' →
        (∀ (i : Nat) (e e' : Exchange), (t.exchangesAt c.site)[i]? = some e →
          (t'.exchangesAt c.site)[i]? = some e' → e.answer = e'.answer) →
        t.exchangesAt c.site = t'.exchangesAt c.site := by
  constructor
  · rw [Client.teardownProtectedVolume_eq] at hrun
    cases Client.yields_afterUnpairing_iff.1 hrun with
    | @notLookedUp answer e hfailed =>
        refine ⟨answer, [], rfl, ?_, ?_⟩
        · intro e' hfailed'
          obtain rfl : e = e' := Except.error.inj (hfailed.symm.trans hfailed')
          exact ⟨rfl, rfl⟩
        · intro pair hfound
          cases hfailed.symm.trans hfound
    | @otherPartner answer pair hfound hother =>
        refine ⟨answer, [], rfl, ?_, ?_⟩
        · intro e hfailed
          cases hfailed.symm.trans hfound
        · intro pair' hfound'
          obtain rfl : pair = pair' := Except.ok.inj (hfound.symm.trans hfound')
          exact ⟨fun _ => ⟨rfl, _, rfl⟩, fun hpartner => absurd hpartner hother⟩
    | @notUnpaired answer pair unpairing e hfound hpartner hunpairing =>
        refine ⟨answer, unpairing, rfl, ?_, ?_⟩
        · intro e hfailed
          cases hfailed.symm.trans hfound
        · intro pair' hfound'
          obtain rfl : pair = pair' := Except.ok.inj (hfound.symm.trans hfound')
          refine ⟨fun hother => absurd hpartner hother, fun _ =>
            ⟨⟨unpairing, .error e⟩, [], (List.append_nil _).symm, hunpairing,
              Client.changes_of_unpairing hunpairing, fun e => Client.site_of_unpairing hunpairing,
              ?_, ?_⟩⟩
          · intro e' he
            obtain rfl : e = e' := Except.error.inj he
            exact ⟨rfl, rfl⟩
          · intro hdone
            cases hdone
    | @unpaired answer pair unpairing later r hfound hpartner hunpairing hboth =>
        refine ⟨answer, unpairing ++ later, rfl, ?_, ?_⟩
        · intro e hfailed
          cases hfailed.symm.trans hfound
        · intro pair' hfound'
          obtain rfl : pair = pair' := Except.ok.inj (hfound.symm.trans hfound')
          refine ⟨fun hother => absurd hpartner hother, fun _ =>
            ⟨⟨unpairing, .ok ()⟩, later, rfl, hunpairing,
              Client.changes_of_unpairing hunpairing, fun e => Client.site_of_unpairing hunpairing,
              ?_, fun _ => Client.exists_bothTornDown hboth⟩⟩
          intro e he
          cases he
  · -- Both runs have halves at home, and of one operation, whatever partner was reported.
    intro t' r' hrun' heq
    obtain ⟨q, hhome⟩ := Client.exists_yields_teardownHomeHalf hsites hrun
    obtain ⟨q', hhome'⟩ := Client.exists_yields_teardownHomeHalf hsites hrun'
    exact (Program.Yields.eq_of_answers hhome hhome' heq).1

/-- A volume that cannot be deleted after its pair is broken, and a partner that is gone: both
errors are reported. -/
theorem teardownProtectedVolume_staged_twice_failed :
    let c : Client := ⟨.home, ⟨"000197600123"⟩, .default⟩
    let remote : Client := ⟨.remote, ⟨"000197600456"⟩, .default⟩
    let id : VolumeId := ⟨"0012A"⟩
    let pair : Json := .object [("localVolumeName", .string "0012A"),
      ("remoteSymmetrixId", .string "000197600456"), ("remoteVolumeName", .string "00034")]
    let volume : Json := .object [("volumeId", .string "0012A")]
    let unpairing : Exchange :=
      ⟨.home, c.unpairingRequest remote "SG1" "SG2" id, .ok ⟨200, .null⟩⟩
    let later : Transcript := [
      ⟨.home, .get (c.volumePath id), .ok ⟨200, volume⟩⟩,
      ⟨.home, c.markingRequest id, .ok ⟨200, .null⟩⟩,
      ⟨.home, c.releaseRequest id, .ok ⟨200, .null⟩⟩,
      ⟨.home, c.deletionRequest id, .ok ⟨500, .string "busy"⟩⟩,
      ⟨.remote, .get (remote.volumePath ⟨"00034"⟩), .ok ⟨404, .null⟩⟩]
    let t : Transcript := ⟨.home, c.pairRequest 7 id, .ok ⟨200, pair⟩⟩ :: unpairing :: later
    let errors : List ArrayError :=
      [.teardown "volume 0012A" false [.rejected 500 "busy"], .notFound "volume" "00034"]
    let r : Except ArrayError Unit :=
      .error (.teardown "replicated volume 0012A (partner 00034 kept)" false errors)
    c.site ≠ remote.site ∧
      (c.teardownProtectedVolume remote 7 "SG1" "SG2" id).Yields t r ∧
      ∃ here there, BothTornDown c remote id ⟨"00034"⟩ later r here there ∧
        errorOf here.result ++ errorOf there.result = errors := by
  intro c remote id pair volume unpairing later t errors r
  let home : Script := { queued := (t.take 6).map (·.answer) }
  let s : Stage := { home := home, remote := { queued := [.ok ⟨404, .null⟩] } }
  have htranscript :
      (c.teardownProtectedVolume remote 7 "SG1" "SG2" id).run.transcript Stage.answer s = t := by
    unfold c remote id
    rfl
  have hresult : (s.perform (c.teardownProtectedVolume remote 7 "SG1" "SG2" id)).1 = r := by
    unfold c remote id
    rfl
  have hrun : (c.teardownProtectedVolume remote 7 "SG1" "SG2" id).Yields t r :=
    Stage.yields_of_perform htranscript hresult
  have hsites : c.site ≠ remote.site := by decide
  refine ⟨hsites, hrun, ?_⟩
  obtain ⟨⟨answer, rest, ht, -, hfound⟩, -⟩ :=
    teardownProtectedVolume_staged c remote 7 "SG1" "SG2" id hsites hrun
  simp only [t, List.cons.injEq, Exchange.mk.injEq] at ht
  obtain ⟨⟨-, -, rfl⟩, rfl⟩ := ht
  obtain ⟨-, hbroken⟩ := hfound _ rfl
  obtain ⟨broken, later', hrest, hunpairing, -, -, -, hboth⟩ := hbroken rfl
  -- The answer to the change says that the pair is broken.
  have hunpaired : (c.removeVolumesFrom "SG1" [id] (some ⟨remote.arrayId, "SG2", true⟩)).Yields
      [unpairing] (.ok ()) :=
    Client.yields_execute_iff.2 ⟨_, _, rfl, rfl, rfl⟩
  obtain ⟨hexchanges, hbrokenResult⟩ := Program.Yields.eq_of_append_eq hunpaired hunpairing hrest
  rw [← hexchanges] at hrest
  obtain rfl : later = later' := List.tail_eq_of_cons_eq hrest
  obtain ⟨here, there, htorn⟩ := hboth hbrokenResult.symm
  refine ⟨here, there, htorn, ?_⟩
  obtain ⟨resource, deleted, hreport, -⟩ := htorn.report_error nofun
  simp only [r, Except.error.injEq, ArrayError.teardown.injEq] at hreport
  exact hreport.2.2.symm

end StorageArray
