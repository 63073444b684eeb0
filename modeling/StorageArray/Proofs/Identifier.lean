import Mathlib.Tactic.Common
import StorageArray.Proofs.Validation
import StorageArray.Proofs.Wire.Identifier
import StorageArray.Snapshot.Basic
/-!
# Identifiers that are made and identifiers that are read

What a caller gives is trimmed when it becomes an identifier, and so is what a listing reports.  An
identifier inside of a record is the text as the array has written it.  Two identifiers of one thing
are equal as long as the texts in records have no white space at either end
(`Identifier.IsTrimmed`), and the tests for equality in the library answer as they should exactly
then.
-/

namespace StorageArray

namespace Identifier

variable {kind : IdentifierKind} {i : Identifier kind} {s : String}

/-- There is no white space at either end of the identifier. -/
def IsTrimmed (i : Identifier kind) : Prop := Text.trim i.text = i.text

lemma eq_ofString_iff : i = ofString s ↔ i.text = Text.trim s := by
  cases i
  simp [ofString]

lemma isTrimmed_ofString : (ofString s : Identifier kind).IsTrimmed := Text.trim_trim s

/-- The identifiers that are made from a text are those without white space at either end. -/
lemma eq_ofString_text_iff : i = ofString i.text ↔ i.IsTrimmed := by
  rw [eq_ofString_iff, eq_comm]
  rfl

/-- The identifier that is made from a text is the one that has the text up to white space and has
none itself. -/
lemma eq_ofString_iff_isTrimmed :
    i = ofString s ↔ ofString i.text = (ofString s : Identifier kind) ∧ i.IsTrimmed := by
  constructor
  · rintro rfl
    exact ⟨ofString_text_ofString s, isTrimmed_ofString⟩
  · rintro ⟨hsame, htrimmed⟩
    exact (eq_ofString_text_iff.2 htrimmed).trans hsame

end Identifier

/-! ### Tests for equality -/

/-- A generation is linked to a volume when one of its active targets is the volume. -/
lemma GenerationInfo.isLinkedTo_iff {g : GenerationInfo} {target : VolumeId} :
    g.isLinkedTo target = true ↔ ∃ d ∈ g.linkedDevices, d.linked = true ∧ d.target = target := by
  simp [isLinkedTo, and_comm]

namespace Client

variable {c remote : Client} {number : UInt32} {group remoteGroup : String} {id : VolumeId}
  {t : Transcript}

/-- The volumes that are found are made from the texts of the listing. -/
lemma isTrimmed_of_mem_findVolumes {name owner : Option String} {ids : List VolumeId}
    (h : (c.findVolumes name owner).Yields t (.ok ids)) {i : VolumeId} (hi : i ∈ ids) :
    i.IsTrimmed := by
  obtain ⟨answer, -, hr⟩ := yields_findVolumes_iff.1 h
  obtain ⟨texts, -, rfl⟩ := volumesIn_eq_ok_iff.1 hr.symm
  rw [(Listing.distinctOf_firstOccurrences _).mem_iff] at hi
  obtain ⟨s, -, rfl⟩ := List.mem_map.1 hi
  exact Identifier.isTrimmed_ofString

/-- The report on the teardowns of a pair is no error about arguments. -/
lemma isValidation_of_pairReport {partner : VolumeId} {here there : Except ArrayError Unit}
    {e : ArrayError} (h : pairReport id partner here there = .error e) :
    e.isValidation = false := by
  unfold pairReport at h
  split at h
  · cases h
  · cases h
    rfl

/-- A teardown of a pair that was found is refused exactly when the partner is on another array than
that of the other client. -/
lemma refused_iff_of_yields_teardownProtectedVolume {answer : Answer} {pair : DevicePair}
    {rest : Transcript} {r : Except ArrayError Unit}
    (hfound : (c.getDevicePair number id).on answer = .ok pair)
    (hrun : (c.teardownProtectedVolume remote number group remoteGroup id).Yields
      (⟨c.site, c.pairRequest number id, answer⟩ :: rest) r) :
    r = .error (remote.otherPartner id pair) ↔ pair.remoteArray ≠ remote.arrayId := by
  rw [teardownProtectedVolume_eq] at hrun
  have hcases := yields_afterUnpairing_iff.1 hrun
  generalize ht : (⟨c.site, c.pairRequest number id, answer⟩ :: rest : Transcript) = t at hcases
  have hsame {answer' : Answer} {pair' : DevicePair} {rest' : Transcript}
      (ht : (⟨c.site, c.pairRequest number id, answer⟩ :: rest : Transcript) =
        ⟨c.site, c.pairRequest number id, answer'⟩ :: rest')
      (hfound' : (c.getDevicePair number id).on answer' = .ok pair') : pair' = pair := by
    obtain rfl : answer = answer' := congrArg Exchange.answer (List.head_eq_of_cons_eq ht)
    exact Except.ok.inj (hfound'.symm.trans hfound)
  -- An error that is not about arguments is not the refusal.
  have hother {e : ArrayError} (he : e.isValidation = false) : e ≠ remote.otherPartner id pair := by
    rintro rfl
    cases he
  cases hcases with
  | @notLookedUp answer' e hfailed =>
      obtain rfl : answer = answer' := congrArg Exchange.answer (List.head_eq_of_cons_eq ht)
      cases hfound.symm.trans hfailed
  | otherPartner hfound' hne =>
      obtain rfl := hsame ht hfound'
      exact ⟨fun _ => hne, fun _ => rfl⟩
  | @notUnpaired answer' pair' unpairing e hfound' hpartner hunpairing =>
      obtain rfl := hsame ht hfound'
      have he : e.isValidation = false :=
        ArrayError.isValidation_of_isOfRequest
          (isOfRequest_of_yields_execute Method.put_ne_get hunpairing)
      exact ⟨fun hr => absurd (Except.error.inj hr) (hother he), fun hne => absurd hpartner hne⟩
  | @unpaired answer' pair' unpairing later r' hfound' hpartner hunpairing hboth =>
      obtain rfl := hsame ht hfound'
      obtain ⟨here, there, -, -, -, rfl⟩ := yields_teardownBoth_iff.1 hboth
      exact ⟨fun hr => absurd rfl (hother (isValidation_of_pairReport hr)),
        fun hne => absurd hpartner hne⟩

end Client

/-- **Identifiers are those of a constructor exactly when they were written without white space.**

* What is made from a text has no white space at either end.  What is read from a text in JSON is
  the same exactly when the text has none.
* The identifiers in a record are the texts in the places of identifiers in the body, and these are
  the texts that a constructor keeps exactly when none has white space at either end.
* A generation is linked to a volume that is named by a caller exactly when it reports an active
  target that has this name up to white space, and reports it without.
* The volumes that are found have no white space at either end.  A volume that is read is among
  them exactly when the volume of its name is, and it was reported without white space.
* A teardown of a pair with the client of the array that the pair reports is refused exactly when
  the serial number was reported with white space at an end. -/
theorem identifiers_agree_iff_isTrimmed (c remote : Client) :
    (∀ (kind : IdentifierKind) (s : String), (Identifier.ofString s : Identifier kind).IsTrimmed ∧
      ((Shape.identifier kind).decode (.string s) = .ok (.ofString s) ↔ Text.trim s = s)) ∧
    (∀ {α : Type} (kind : RecordKind α) (body : Json) (a : α), kind.shape.decode body = .ok a →
      kind.shape.identifiersOf a = kind.shape.identifiersIn body ∧
      (kind.shape.identifiersOf a = (kind.shape.identifiersIn body).map Text.trim ↔
        ∀ s ∈ kind.shape.identifiersIn body, Text.trim s = s)) ∧
    (∀ (g : GenerationInfo) (s : String), g.isLinkedTo (.ofString s) = true ↔
      ∃ d ∈ g.linkedDevices, d.linked = true ∧ Text.trim d.target.text = Text.trim s ∧
        d.target.IsTrimmed) ∧
    (∀ (name group : Option String) (id : VolumeId) (t t' : Transcript) (ids : List VolumeId)
        (v : Volume), (c.findVolumes name group).Yields t (.ok ids) →
      (c.getVolume id).Yields t' (.ok v) →
      (∀ i ∈ ids, i.IsTrimmed) ∧ (v.id ∈ ids ↔ .ofString v.id.text ∈ ids ∧ v.id.IsTrimmed)) ∧
    ∀ (number : UInt32) (group remoteGroup : String) (id : VolumeId) (answer : Answer)
      (pair : DevicePair) (rest : Transcript) (r : Except ArrayError Unit),
      (c.getDevicePair number id).on answer = .ok pair →
      remote.arrayId = .ofString pair.remoteArray.text →
      (c.teardownProtectedVolume remote number group remoteGroup id).Yields
        (⟨c.site, c.pairRequest number id, answer⟩ :: rest) r →
      (r = .error (remote.otherPartner id pair) ↔ ¬ pair.remoteArray.IsTrimmed) := by
  refine ⟨?_, ?_, ?_, ?_, ?_⟩
  · intro kind s
    refine ⟨Identifier.isTrimmed_ofString, ?_⟩
    change Except.ok (⟨s⟩ : Identifier kind) = .ok (.ofString s) ↔ _
    rw [Except.ok.injEq, Identifier.eq_ofString_iff, eq_comm]
  · intro α kind body a hread
    have htexts : kind.shape.identifiersOf a = kind.shape.identifiersIn body :=
      Shape.identifiersOf_of_decode kind.keepsIdentifiers_shape hread
    refine ⟨htexts, ?_⟩
    rw [htexts, eq_comm]
    simpa using List.map_inj_left (l := kind.shape.identifiersIn body) (f := Text.trim) (g := id)
  · intro g s
    rw [GenerationInfo.isLinkedTo_iff]
    refine exists_congr fun d => and_congr_right fun _ => and_congr_right fun _ => ?_
    rw [Identifier.eq_ofString_iff_isTrimmed, Identifier.eq_ofString_iff]
    rfl
  · intro name group id t t' ids v hfound hread
    have htrimmed : ∀ i ∈ ids, i.IsTrimmed := fun i => Client.isTrimmed_of_mem_findVolumes hfound
    refine ⟨htrimmed, fun hv => ⟨?_, htrimmed _ hv⟩, fun ⟨hv, hid⟩ => ?_⟩
    · rwa [← Identifier.eq_ofString_text_iff.2 (htrimmed _ hv)]
    · rwa [Identifier.eq_ofString_text_iff.2 hid]
  · intro number group remoteGroup id answer pair rest r hfound hserial hrun
    rw [Client.refused_iff_of_yields_teardownProtectedVolume hfound hrun, hserial, ne_eq,
      Identifier.eq_ofString_text_iff]

/-- A listing with white space in it, a volume and a pair that are reported without any, and the
teardown of this pair: the volume is found, and the teardown is carried out. -/
theorem identifiers_agree_iff_isTrimmed_in_clean_records :
    let c : Client := ⟨.home, ⟨"000197600123"⟩, .default⟩
    let remote : Client := ⟨.remote, ⟨"000197600456"⟩, .default⟩
    let id : VolumeId := ⟨"0012A"⟩
    let partner : VolumeId := ⟨"00034"⟩
    let listing : Json := .object [("volumeId", .array [.string " 0012A"])]
    let volume : Json := .object [("volumeId", .string "0012A")]
    let record : Json := .object [("localVolumeName", .string "0012A"),
      ("remoteSymmetrixId", .string "000197600456"), ("remoteVolumeName", .string "00034")]
    let found : Transcript := [⟨.home, c.volumeQuery none none, .ok ⟨200, listing⟩⟩]
    let read : Transcript := [⟨.home, .get (c.volumePath id), .ok ⟨200, volume⟩⟩]
    let torn : Transcript := [
      ⟨.home, c.pairRequest 7 id, .ok ⟨200, record⟩⟩,
      ⟨.home, c.unpairingRequest remote "SG1" "SG2" id, .ok ⟨200, .null⟩⟩,
      ⟨.home, .get (c.volumePath id), .ok ⟨200, volume⟩⟩,
      ⟨.home, c.markingRequest id, .ok ⟨200, .null⟩⟩,
      ⟨.home, c.releaseRequest id, .ok ⟨200, .null⟩⟩,
      ⟨.home, c.deletionRequest id, .ok ⟨204, .null⟩⟩,
      ⟨.remote, .get (remote.volumePath partner), .ok ⟨200, volume⟩⟩,
      ⟨.remote, remote.markingRequest partner, .ok ⟨200, .null⟩⟩,
      ⟨.remote, remote.releaseRequest partner, .ok ⟨200, .null⟩⟩,
      ⟨.remote, remote.deletionRequest partner, .ok ⟨204, .null⟩⟩]
    let pair : DevicePair := ⟨id, partner, ⟨"000197600456"⟩, "", "", 0, 0⟩
    DevicePair.shape.decode record = .ok pair ∧
      DevicePair.shape.identifiersOf pair = ["0012A", "00034", "000197600456"] ∧
      (c.findVolumes none none).Yields found (.ok [id]) ∧
      (∃ v, (c.getVolume id).Yields read (.ok v) ∧ v.id ∈ [id] ∧ v.id.IsTrimmed) ∧
      (c.teardownProtectedVolume remote 7 "SG1" "SG2" id).Yields torn (.ok ()) ∧
      pair.remoteArray.IsTrimmed := by
  intro c remote id partner listing volume record found read torn pair
  let s (t : Transcript) : Stage :=
    { home := { queued := (t.exchangesAt .home).map (·.answer) },
      remote := { queued := (t.exchangesAt .remote).map (·.answer) } }
  have hfound : (c.findVolumes none none).Yields found (.ok [id]) :=
    Stage.yields_of_perform (s := s found) rfl rfl
  obtain ⟨v, hvolume, hread⟩ : ∃ v, v.id = id ∧ (c.getVolume id).Yields read (.ok v) :=
    ⟨_, rfl, Stage.yields_of_perform (s := s read) rfl rfl⟩
  have hrun : (c.teardownProtectedVolume remote 7 "SG1" "SG2" id).Yields torn (.ok ()) := by
    refine Stage.yields_of_perform (s := s torn) ?_ ?_
    · unfold c remote id
      rfl
    · unfold c remote id
      rfl
  have hdecoded : DevicePair.shape.decode record = .ok pair := rfl
  have hmem : v.id ∈ [id] := hvolume ▸ List.mem_singleton_self _
  obtain ⟨-, hrecords, -, hlookups, hteardown⟩ := identifiers_agree_iff_isTrimmed c remote
  refine ⟨hdecoded, (hrecords .devicePair record pair hdecoded).1, hfound, ⟨v, hread, hmem, ?_⟩,
    hrun, ?_⟩
  · exact ((hlookups none none id found read [id] v hfound hread).2.1 hmem).2
  · by_contra hpadded
    have hserial : remote.arrayId = .ofString pair.remoteArray.text := by decide
    cases (hteardown 7 "SG1" "SG2" id _ pair _ _ rfl hserial hrun).2 hpadded

/-- A partner whose serial number is reported with a space behind it: the teardown is refused to the
client of this very array, and nothing but the lookup is sent. -/
theorem teardownProtectedVolume_refuses_padded_serial :
    let serial := "000197600456 "
    let c : Client := ⟨.home, ⟨"000197600123"⟩, .default⟩
    let remote : Client := ⟨.remote, ⟨"000197600456"⟩, .default⟩
    let id : VolumeId := ⟨"0012A"⟩
    let record : Json := .object [("localVolumeName", .string "0012A"),
      ("remoteSymmetrixId", .string serial), ("remoteVolumeName", .string "00034")]
    remote.arrayId = .ofString serial ∧
      (Shape.identifier .array).decode (.string serial) ≠ .ok remote.arrayId ∧
      (c.teardownProtectedVolume remote 7 "SG1" "SG2" id).Yields
        [⟨.home, c.pairRequest 7 id, .ok ⟨200, record⟩⟩]
        (.error (.validation
          "volume 0012A is paired with array 000197600456 , not 000197600456")) := by
  intro serial c remote id record
  refine ⟨by decide, ?_, ?_⟩
  · intro hsame
    exact absurd (congrArg Identifier.text (Except.ok.inj hsame)) (by decide)
  · refine Stage.yields_of_perform
      (s := { home := { queued := [.ok ⟨200, record⟩] } }) ?_ ?_
    · unfold c remote id
      rfl
    · unfold c remote id
      rfl

end StorageArray
