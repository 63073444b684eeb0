import Mathlib.Tactic.Common
import StorageArray.Proofs.Listing
import StorageArray.Proofs.Listing.Request
import StorageArray.Volume.Basic
/-!
# Volumes that are looked up

A lookup sends one request, and the volumes that it finds are those that the answer lists, each once
(`Client.volumesIn_eq_ok_iff`).  When one volume is wanted, `Resolved` says what is made of the
texts that are listed: there is none, or there is one, or there are several and the error names
them.

The creation of a volume is a change of its group and, when this has succeeded, a lookup of the name
in the group (`Client.yields_createVolumeIn_iff`).
-/

namespace StorageArray

open Listing (DistinctOf)

/-- The error for several volumes with a name in a group. -/
def ArrayError.severalVolumes (group name : String) (ids : List VolumeId) : ArrayError :=
  .validation (toString ids.length ++ " volumes named " ++ name ++ " in storage group " ++ group ++
    ": " ++ ", ".intercalate (ids.map (·.text)))

/-- The result is the one volume that the listed texts are identifiers of, or tells why there is no
such volume. -/
structure Resolved (group name : String) (texts : List String) (r : Except ArrayError VolumeId) :
    Prop where
  /-- A volume is the result when the texts are its identifiers and those of no other. -/
  one : ∀ id, r = .ok id ↔ ∀ x, x ∈ texts.map Identifier.ofString ↔ x = id
  /-- A volume is missing when no text is listed. -/
  none : r = .error (.volumeNotFound name group) ↔ texts = []
  /-- Otherwise the error counts the volumes and names each, in the order of the listing. -/
  several : texts ≠ [] → (∀ id, r ≠ .ok id) → ∃ ids,
    DistinctOf (texts.map Identifier.ofString) ids ∧ 1 < ids.length ∧
      r = .error (.severalVolumes group name ids)

namespace Client

variable {c : Client} {answer : Answer} {t : Transcript}

/-! ### Lookups -/

section Lookup

variable {name group : Option String}

/-- The volumes that an answer to a lookup lists. -/
def volumesIn (c : Client) (name group : Option String) (answer : Answer) :
    Except ArrayError (List VolumeId) :=
  (textsIn (c.volumeQuery name group) ⟨"volume", name.getD "*"⟩ "volumeId" answer).bind fun texts =>
    .ok (Listing.firstOccurrences (texts.map Identifier.ofString))

/-- A lookup leaves one exchange, and what it finds is in the answer. -/
lemma yields_findVolumes_iff {r : Except ArrayError (List VolumeId)} :
    (c.findVolumes name group).Yields t r ↔
      ∃ answer, t = [⟨c.site, c.volumeQuery name group, answer⟩] ∧
        r = c.volumesIn name group answer :=
  yields_fetch_listed_iff fun _ => rfl

/-- The volumes that are found are those that the texts of the listing name, each once. -/
lemma volumesIn_eq_ok_iff {ids : List VolumeId} :
    c.volumesIn name group answer = .ok ids ↔ ∃ texts, answer.Lists "volumeId" texts ∧
      ids = Listing.firstOccurrences (texts.map Identifier.ofString) :=
  bind_textsIn_eq_ok_iff rfl

end Lookup

/-! ### The volume that is wanted -/

variable {group name : String}

lemma onlyVolume_eq_ok_iff {ids : List VolumeId} {id : VolumeId} :
    onlyVolume group name ids = .ok id ↔ ids = [id] := by
  match ids with
  | [] => simp [onlyVolume]
  | [id'] => simp [onlyVolume]
  | _ :: _ :: _ => simp [onlyVolume]

lemma onlyVolume_eq_volumeNotFound_iff {ids : List VolumeId} :
    onlyVolume group name ids = .error (.volumeNotFound name group) ↔ ids = [] := by
  match ids with
  | [] => simp [onlyVolume]
  | [id'] => simp [onlyVolume]
  | _ :: _ :: _ => simp [onlyVolume]

lemma onlyVolume_of_several {ids : List VolumeId} (h : 1 < ids.length) :
    onlyVolume group name ids = .error (.severalVolumes group name ids) := by
  match ids with
  | [] => cases h
  | [_] => exact absurd h (Nat.lt_irrefl 1)
  | _ :: _ :: _ => rfl

lemma resolved_onlyVolume (texts : List String) :
    Resolved group name texts
      (onlyVolume group name (Listing.firstOccurrences (texts.map Identifier.ofString))) := by
  let listed : List VolumeId := texts.map Identifier.ofString
  have hdistinct : DistinctOf listed (Listing.firstOccurrences listed) :=
    Listing.distinctOf_firstOccurrences listed
  have hone (id : VolumeId) : onlyVolume group name (Listing.firstOccurrences listed) = .ok id ↔
      ∀ x, x ∈ listed ↔ x = id := by
    rw [onlyVolume_eq_ok_iff, hdistinct.eq_singleton_iff]
  have hnone : onlyVolume group name (Listing.firstOccurrences listed) =
      .error (.volumeNotFound name group) ↔ texts = [] := by
    rw [onlyVolume_eq_volumeNotFound_iff, hdistinct.eq_nil_iff, List.map_eq_nil_iff]
  refine ⟨hone, hnone, fun htexts hnot => ?_⟩
  have hseveral : 1 < (Listing.firstOccurrences listed).length := by
    match hids : Listing.firstOccurrences listed with
    | [] => exact absurd (hnone.1 (onlyVolume_eq_volumeNotFound_iff.2 hids)) htexts
    | [id] => exact absurd (onlyVolume_eq_ok_iff.2 hids) (hnot id)
    | _ :: _ :: _ => exact Nat.succ_lt_succ (Nat.succ_pos _)
  exact ⟨_, hdistinct, hseveral, onlyVolume_of_several hseveral⟩

/-! ### Creations -/

section Creation

variable {size : UInt32} {partner : Option Volume.RemoteGroup} {r : Except ArrayError VolumeId}

/-- A creation whose arguments are not allowed sends nothing. -/
lemma run_createVolumeIn_of_invalid (h : Text.allBlank name = true ∨ size = 0) :
    ∃ detail, (c.createVolumeIn group name size partner).run =
      .done (.error (.validation detail)) := by
  unfold createVolumeIn Volume.checkName
  by_cases hblank : Text.allBlank name = true
  · rw [if_pos hblank]
    exact ⟨_, rfl⟩
  · rw [if_neg hblank, if_pos (h.resolve_left hblank)]
    exact ⟨_, rfl⟩

/-- A creation whose arguments are allowed changes the group.  When this has failed, nothing more is
sent; otherwise the name is looked up in the group. -/
lemma yields_createVolumeIn_iff (hname : Text.allBlank name = false) (hsize : size ≠ 0) :
    (c.createVolumeIn group name size partner).Yields t r ↔
      ∃ change rest q, t = change ++ rest ∧
        (c.changeStorageGroup group (Volume.creationPayload name size partner)).Yields change q ∧
        match q with
        | .error e => rest = [] ∧ r = .error e
        | .ok _ => ∃ answer,
            rest = [⟨c.site, c.volumeQuery (some name) (some group), answer⟩] ∧
            r = (c.volumesIn (some name) (some group) answer).bind (onlyVolume group name) := by
  have hrun : (c.createVolumeIn group name size partner).run =
      (c.changeStorageGroup group (Volume.creationPayload name size partner) >>= fun _ =>
        c.findVolumes (some name) (some group) >>= fun ids =>
          Operation.ofExcept (onlyVolume group name ids)).run := by
    rw [createVolumeIn, Volume.checkName_eq_ok_iff.2 hname, Operation.run_bind]
    simp only [if_false, Operation.run_ofExcept, Program.done_bind, hsize]
  rw [Operation.Yields, hrun, ← Operation.Yields, Operation.yields_bind_cases]
  refine exists_congr fun change => exists_congr fun rest => exists_congr fun q => ?_
  refine and_congr_right fun _ => and_congr_right fun _ => ?_
  cases q with
  | error e => rfl
  | ok _ =>
      exact Operation.yields_bind_of_answer yields_findVolumes_iff fun _ => rfl

end Creation

end Client

end StorageArray
