import Mathlib.Tactic.Common
import StorageArray.Proofs.Listing.Shape
import StorageArray.Proofs.Validation
/-!
# Creating a volume

The array does not say which volume it has created, so a creation looks its name up in the group
afterwards.  The main result says what a run of a creation is: its change, and after a change that
was confirmed one lookup, whose listing decides the result (`Resolved`).  Nothing is sent again,
whatever has failed.
-/

namespace StorageArray

/-- **A creation finds one volume, and creates no more than one.**  The request that changes
something is sent once.

* When it was not confirmed, its error is the result and nothing else is sent.
* When it was confirmed, at once or by a job, one lookup with both the name and the group follows.
  If this fails, its error is the result; otherwise the listed texts decide, whatever the shape of
  the listing: the result is the one volume that they are identifiers of, and else an error says
  that there is none, or how many there are and which.

In the runs every wait has a deadline, and polls take no time. -/
theorem creation_finds_one_volume (c remote : Client) {call : Call VolumeId} {group name : String}
    {size : UInt32} {partner : Option Volume.RemoteGroup}
    (hcall : call.Creates group name size partner) (hname : Text.allBlank name = false)
    (hsize : size ≠ 0) {t : Transcript} {r : Except ArrayError VolumeId}
    (hrun : (call.operation c remote).Yields t r) :
    let creation : Request :=
      .put (c.storageGroupPath group) (Volume.creationPayload name size partner)
    let lookup : Request :=
      { Request.get (c.provisioningPath "volume") with
        query := [("volume_identifier", name), ("storageGroupId", group)] }
    t.changes = [(c.site, creation)] ∧
    ∃ change rest q, t = change ++ rest ∧
      (c.execute creation ⟨"storage group", group⟩).Yields change q ∧
      (q = .ok () ↔ c.Settles creation change (.ok ())) ∧
      (∀ e, q = .error e → rest = [] ∧ r = .error e) ∧
      (q = .ok () → ∃ answer found, rest = [⟨c.site, lookup, answer⟩] ∧
        (c.findVolumes (some name) (some group)).Yields rest found ∧
        (∀ e, found = .error e → r = .error e) ∧
        ((∃ e, found = .error e) ∨ ∃ texts, answer.Lists "volumeId" texts) ∧
        ∀ texts, answer.Lists "volumeId" texts → Resolved group name texts r) := by
  intro creation lookup
  rw [hcall.operation_eq] at hrun
  obtain ⟨change, rest, q, rfl, hchange, hrest⟩ :=
    (Client.yields_createVolumeIn_iff hname hsize).1 hrun
  have hchanges : change.changes = [(c.site, creation)] :=
    Client.changes_of_yields_execute Method.put_ne_get hchange
  have hconfirmed : (c.execute creation ⟨"storage group", group⟩).Yields change (.ok ()) ↔
      c.Settles creation change (.ok ()) := Client.yields_execute_ok_iff Method.put_ne_get
  have hsettles : q = .ok () ↔ c.Settles creation change (.ok ()) := by
    rw [← hconfirmed]
    exact ⟨fun hq => hq ▸ hchange, fun hok => hchange.unique hok⟩
  cases q with
  | error e =>
      obtain ⟨rfl, rfl⟩ := hrest
      refine ⟨?_, change, [], _, rfl, hchange, hsettles, fun e' he' => ?_, nofun⟩
      · rw [List.append_nil, hchanges]
      · cases he'
        exact ⟨rfl, rfl⟩
  | ok _ =>
      obtain ⟨answer, rfl, rfl⟩ := hrest
      have hlookup : Transcript.changes [⟨c.site, lookup, answer⟩] = [] := rfl
      refine ⟨?_, change, _, _, rfl, hchange, hsettles, nofun, fun _ => ?_⟩
      · rw [Transcript.changes_append, hchanges]
        exact List.append_nil _
      have hfind : (c.findVolumes (some name) (some group)).Yields [⟨c.site, lookup, answer⟩]
          (c.volumesIn (some name) (some group) answer) :=
        Client.yields_findVolumes_iff.2 ⟨answer, rfl, rfl⟩
      refine ⟨answer, _, rfl, hfind, fun e he => ?_, ?_, fun texts htexts => ?_⟩
      · rw [he]
        rfl
      · cases hfound : c.volumesIn (some name) (some group) answer with
        | error e => exact .inl ⟨e, rfl⟩
        | ok ids =>
            obtain ⟨texts, htexts, -⟩ := Client.volumesIn_eq_ok_iff.1 hfound
            exact .inr ⟨texts, htexts⟩
      · rw [Client.volumesIn_eq_ok_iff.2 ⟨texts, htexts, rfl⟩]
        exact Client.resolved_onlyVolume texts

/-- A volume and its partner are created by a job that has ended, and the listing has the volume
twice, once with a blank before its identifier. -/
theorem creation_finds_one_volume_listed_twice :
    let c : Client := ⟨.home, ⟨"000197600123"⟩, .default⟩
    let remote : Client := ⟨.remote, ⟨"000197600456"⟩, .default⟩
    let call : Call VolumeId := .createProtectedVolume ⟨"000197600456"⟩ "SG1" "SG1R" "data01" 10
    let partner : Volume.RemoteGroup := ⟨⟨"000197600456"⟩, "SG1R", false⟩
    let creation : Request :=
      .put (c.storageGroupPath "SG1") (Volume.creationPayload "data01" 10 (some partner))
    let job : Json := .object [("jobId", .string "7"), ("status", .string "SUCCEEDED")]
    let listing : Json := Listing.envelopeOf "volumeId" [.string "0012A", .string " 0012A"]
    let t : Transcript := [⟨.home, creation, .ok ⟨202, job⟩⟩] ++
      [⟨.home, c.volumeQuery (some "data01") (some "SG1"), .ok ⟨200, listing⟩⟩]
    call.Creates "SG1" "data01" 10 (some partner) ∧ Text.allBlank "data01" = false ∧
      (10 : UInt32) ≠ 0 ∧ (call.operation c remote).Yields t (.ok ⟨"0012A"⟩) ∧
      t.changes = [(.home, creation)] ∧
      Resolved "SG1" "data01" ["0012A", " 0012A"] (.ok ⟨"0012A"⟩) := by
  intro c remote call partner creation job listing t
  let s : Stage := { home := { queued := t.map (·.answer) } }
  have htranscript : (call.operation c remote).run.transcript Stage.answer s = t := by
    unfold c call
    rfl
  have hresult : (s.perform (call.operation c remote)).1 = .ok ⟨"0012A"⟩ := by
    unfold c call
    rfl
  have hcreates : call.Creates "SG1" "data01" 10 (some partner) :=
    .paired ⟨"000197600456"⟩ "SG1" "SG1R" "data01" 10
  have hname : Text.allBlank "data01" = false := by decide
  have hsize : (10 : UInt32) ≠ 0 := by decide
  have hrun : (call.operation c remote).Yields t (.ok ⟨"0012A"⟩) :=
    Stage.yields_of_perform htranscript hresult
  obtain ⟨hchanges, change, rest, q, ht, -, -, herror, hok⟩ :=
    creation_finds_one_volume c remote hcreates hname hsize hrun
  refine ⟨hcreates, hname, hsize, hrun, hchanges, ?_⟩
  cases q with
  | error e => cases (herror e rfl).2
  | ok _ =>
      obtain ⟨answer, found, rfl, -, -, -, hresolved⟩ := hok rfl
      -- The lookup is the last exchange of the run.
      obtain ⟨-, hlast⟩ := List.append_inj' ht rfl
      obtain ⟨-, -, rfl⟩ := Exchange.mk.inj (List.cons.inj hlast).1
      exact hresolved _ ⟨_, rfl, rfl, rfl⟩

end StorageArray
