import Mathlib.Tactic.Common
import StorageArray.Proofs.Listing.Shape
import StorageArray.Proofs.Resource.Creation
import StorageArray.Proofs.Resource.Deletion
import StorageArray.Proofs.Resource.NameMap
import StorageArray.Proofs.Source
import StorageArray.Resource.Host
/-!
# Named resources as a map

`MapArray` is an array that keeps a map from names to records of one class of resources.  It may
report success at once or through a job, and list the names in either shape.  Every call against it
is a step of the map (`MapArray.exists_served_call`), so a session of calls is a run of the map.
-/

namespace StorageArray

/-! ### Listings -/

namespace Listing

/-- The body lists the names under the key. -/
inductive Lists (key : String) : Json → List String → Prop
  /-- The names stand in an array under the key. -/
  | plain {members : List (String × Json)} {names : List String}
      (hkey : Json.find? key members = some (.strings names))
      (hplain : envelope? (.object members) = none) : Lists key (.object members) names
  /-- The names stand in the entries of an envelope, one in each. -/
  | enveloped {members : List (String × Json)} {entries : List Json} {names : List String}
      (henvelope : envelope? (.object members) = some entries)
      (hentries : entries.map (·.member? key) = names.map fun name => some (.string name)) :
    Lists key (.object members) names

lemma mapM_idOf_strings (context : String) (names : List String) :
    (names.map Json.string).mapM (idOf context) = .ok names :=
  mapM_eq_ok_iff.2 (List.forall₂_map_left_iff.2 (List.forall₂_same.2 fun _ _ => rfl))

/-- Names are read from either shape. -/
lemma Lists.listed_eq {key : String} {body : Json} {names : List String}
    (h : Lists key body names) : listed key body = .ok names := by
  cases h with
  | @plain members names hkey hplain =>
      have hitems : (Json.object members).member? key = some (.array (names.map .string)) := hkey
      rw [listed_of_items hitems hplain]
      exact mapM_idOf_strings _ names
  | @enveloped members entries names henvelope hentries =>
      have hfilter : entries.filterMap (·.member? key) = names.map .string := by
        have hfirst : entries.filterMap (·.member? key) =
            (entries.map (·.member? key)).filterMap id := by
          rw [List.filterMap_map]
          rfl
        rw [hfirst, hentries, List.filterMap_map, ← List.filterMap_eq_map]
        rfl
      rw [listed_of_envelope henvelope, hfilter]
      exact mapM_idOf_strings _ names

end Listing

/-- The request of a change. -/
def MapChange.request {R S : Type} (c : Client) (k : ResourceClass R S) : MapChange S → Request
  | .insertion name spec => c.createRequest k name spec
  | .removal name | .vainRemoval name => .delete (c.resourcePath k name)

/-- An array that keeps a map of the resources of a class. -/
structure MapArray (c : Client) {R S : Type} (k : ResourceClass R S) (σ : Type) where
  /-- The answer to a request, and the state after it. -/
  serve : Program.Answerer σ
  /-- The map. -/
  map : σ → NameMap R
  /-- The record that a payload creates. -/
  build : Json → R
  /-- A read changes nothing. -/
  read_effect : ∀ s request, request.method = .get → map (serve c.site request s).2 = map s
  /-- A lookup is answered with the record if there is one. -/
  lookup_present : ∀ s name record, (map s).record name = some record →
    (serve c.site (.get (c.resourcePath k name)) s).1.Carries k.shape record
  /-- Otherwise it is answered with the status 404. -/
  lookup_absent : ∀ s name, (map s).record name = none →
    (serve c.site (.get (c.resourcePath k name)) s).1.IsMissing
  /-- The collection is answered with the names, in one of the two shapes. -/
  listing : ∀ s, ∃ response : Response,
    (serve c.site (.get (c.provisioningPath k.collection)) s).1 = .ok response ∧
      response.isSuccess = true ∧ Listing.Lists k.idKey response.body (map s).names
  /-- A creation puts the record of the payload under its name, if there is none. -/
  create_effect : ∀ s name spec, (map s).record name = none →
    (map (serve c.site (c.createRequest k name spec) s).2).record =
      Function.update (map s).record name (some (build (k.payload name spec)))
  /-- Its success is reported, at once or by a job. -/
  create_success : ∀ s name spec, (map s).record name = none →
    c.SettledBy serve (c.createRequest k name spec) s (.ok ())
  /-- A deletion removes the record. -/
  delete_effect : ∀ s name record, (map s).record name = some record →
    (map (serve c.site (.delete (c.resourcePath k name)) s).2).record =
      Function.update (map s).record name none
  /-- Its success is reported, at once or by a job. -/
  delete_success : ∀ s name record, (map s).record name = some record →
    c.SettledBy serve (.delete (c.resourcePath k name)) s (.ok ())
  /-- Without a record the answer has the status 404, and nothing is changed. -/
  delete_absent : ∀ s name, (map s).record name = none →
    let served := serve c.site (.delete (c.resourcePath k name)) s
    served.1.IsMissing ∧ map served.2 = map s

namespace Client

variable {R S : Type}

/-- The operation of a call. -/
def resourceCall (c : Client) (k : ResourceClass R S) :
    ResourceCall S → Operation (ResourceResult R)
  | .createOrGet name spec => return .record (← c.createOrGet k name spec)
  | .get name => return .record (← c.getResource k name)
  | .list => return .names (← c.listResources k)
  | .delete name => do
    c.deleteResource k name
    return .deleted
  | .deleteIfExists name => return .existed (← c.deleteIfExists k name)

/-- The operations of calls one after the other, whatever they return. -/
def resourceSession (c : Client) (k : ResourceClass R S) :
    List (ResourceCall S) → Program (List (Except ArrayError (ResourceResult R)))
  | [] => .done []
  | call :: calls => (c.resourceCall k call).run.bind fun result =>
      (c.resourceSession k calls).bind fun results => .done (result :: results)

/-! ### Operations against answers -/

variable {c : Client} {k : ResourceClass R S} {name : String} {spec : S} {t u : Transcript}

lemma yields_map {α β : Type} {op : Operation α} {f : α → β} {r : Except ArrayError α}
    (h : op.Yields t r) : Operation.Yields (do return f (← op)) t (r.map f) := by
  rw [Operation.yields_bind_cases]
  refine ⟨t, [], r, (List.append_nil t).symm, h, ?_⟩
  cases r with
  | error e => exact ⟨rfl, rfl⟩
  | ok a => exact Operation.yields_pure.2 ⟨rfl, rfl⟩

/-- A creator that finds the resource returns it. -/
lemma yields_createOrGet_found {record : R} (h : (c.getResource k name).Yields t (.ok record)) :
    (c.createOrGet k name spec).Yields t (.ok record) := by
  obtain ⟨attempts, hattempts⟩ : ∃ n, max 1 c.settings.maxCreateAttempts = n + 1 :=
    ⟨_, (Nat.sub_add_cancel (Nat.le_max_left 1 _)).symm⟩
  rw [createOrGet, hattempts, createOrGetFrom, Operation.yields_settle_bind]
  exact ⟨t, [], .ok record, (List.append_nil t).symm, h, Operation.yields_pure.2 ⟨rfl, rfl⟩⟩

/-- A creator that does not find the resource creates it, and returns what it then finds. -/
lemma yields_createOrGet_created {e : ArrayError} {v : Transcript} {r : Except ArrayError R}
    (hmissing : (c.getResource k name).Yields t (.error e)) (he : e.isNotFound = true)
    (hcreate : (c.execute (c.createRequest k name spec) ⟨k.kind, name⟩).Yields u (.ok ()))
    (hfound : (c.getResource k name).Yields v r) :
    (c.createOrGet k name spec).Yields (t ++ (u ++ v)) r := by
  obtain ⟨attempts, hattempts⟩ : ∃ n, max 1 c.settings.maxCreateAttempts = n + 1 :=
    ⟨_, (Nat.sub_add_cancel (Nat.le_max_left 1 _)).symm⟩
  rw [createOrGet, hattempts, createOrGetFrom, Operation.yields_settle_bind]
  refine ⟨t, u ++ v, .error e, rfl, hmissing, ?_⟩
  simp only [he, if_true]
  exact Operation.yields_settle_bind.2 ⟨u, v, .ok (), rfl, hcreate, hfound⟩

/-- A listing is read from the body of its answer. -/
lemma yields_listResources {response : Response} (h : response.isSuccess = true) :
    (c.listResources k).Yields
      [⟨c.site, .get (c.provisioningPath k.collection), .ok response⟩]
      (Listing.listed k.idKey response.body) := by
  have hbody : bodyIn (.get (c.provisioningPath k.collection)) ⟨k.kind, k.collection⟩
      (.ok response) = .ok response.body := (bodyIn_eq_ok_iff rfl).2 ⟨response, rfl, h, rfl⟩
  refine (Operation.yields_bind_of_answer yields_fetch_iff fun _ => rfl).2 ⟨.ok response, rfl, ?_⟩
  rw [hbody]
  rfl

end Client

/-! ### Calls -/

namespace MapArray

variable {c : Client} {R S σ : Type} {k : ResourceClass R S} (A : MapArray c k σ) (s : σ)
  {name : String} {spec : S}

lemma exists_served_getResource (name : String) :
    ∃ t s', (c.getResource k name).Yields t ((A.map s).lookup k.kind name) ∧
      Program.Served A.serve t s s' ∧ A.map s' = A.map s ∧ t.changes = [] := by
  have hon : (c.getResource k name).on (A.serve c.site (.get (c.resourcePath k name)) s).1 =
      (A.map s).lookup k.kind name := by
    unfold NameMap.lookup
    cases hrecord : (A.map s).record name with
    | some record => exact Client.on_getResource_of_carries (A.lookup_present s name record hrecord)
    | none => exact Client.on_getResource_of_isMissing (A.lookup_absent s name hrecord)
  exact ⟨_, _, Client.yields_read_on_iff.2 ⟨_, rfl, hon.symm⟩, .cons (.nil _),
    A.read_effect s _ rfl, rfl⟩

lemma exists_served_listResources :
    ∃ t s', (c.listResources k).Yields t (.ok (A.map s).names) ∧
      Program.Served A.serve t s s' ∧ A.map s' = A.map s ∧ t.changes = [] := by
  obtain ⟨response, hanswer, hsuccess, hlists⟩ := A.listing s
  have hrun := Client.yields_listResources (c := c) (k := k) hsuccess
  rw [hlists.listed_eq, ← hanswer] at hrun
  exact ⟨_, _, hrun, .cons (.nil _), A.read_effect s _ rfl, rfl⟩

variable {s}

/-- A change that is settled with success is carried out, and the map is then as after its
request. -/
lemma exists_served_execute {request : Request} (hm : request.method ≠ .get)
    (hsettled : c.SettledBy A.serve request s (.ok ())) (subject : Subject) :
    ∃ t s', (c.execute request subject).Yields t (.ok ()) ∧ Program.Served A.serve t s s' ∧
      A.map s' = A.map (A.serve c.site request s).2 ∧ t.changes = [(c.site, request)] := by
  obtain ⟨t, s', hsettles, hserved⟩ := hsettled
  have hrun : (c.execute request subject).Yields t (.ok ()) := hsettles.yields_execute hm
  refine ⟨t, s', hrun, hserved, ?_, Client.changes_of_yields_execute hm hrun⟩
  -- After the request there are only polls, and these read.
  refine hserved.invariant_of_execute hrun
    (P := fun s' => A.map s' = A.map (A.serve c.site request s).2) rfl ?_
  intro job s' hs'
  rw [A.read_effect s' _ rfl, hs']

/-- A deletion without a record is refused. -/
lemma exists_served_missing (habsent : (A.map s).record name = none) :
    ∃ t s', (c.deleteResource k name).Yields t (.error (.notFound k.kind name)) ∧
      Program.Served A.serve t s s' ∧ A.map s' = A.map s ∧
      t.changes = [(c.site, .delete (c.resourcePath k name))] := by
  obtain ⟨hmissing, heffect⟩ := A.delete_absent s name habsent
  have hrun : (c.deleteResource k name).Yields _ (.error (.notFound k.kind name)) :=
    Client.yields_execute_of_isMissing hmissing
  exact ⟨_, _, hrun, .cons (.nil _), heffect,
    Client.changes_of_yields_execute Method.delete_ne_get hrun⟩

/-- A deletion of a resource that exists removes it. -/
lemma exists_served_deleteResource {record : R} (hpresent : (A.map s).record name = some record) :
    ∃ t s', (c.deleteResource k name).Yields t (.ok ()) ∧ Program.Served A.serve t s s' ∧
      (A.map s').record = Function.update (A.map s).record name none ∧
      t.changes = [(c.site, .delete (c.resourcePath k name))] := by
  obtain ⟨t, s', hrun, hserved, hmap, hchanges⟩ := A.exists_served_execute Method.delete_ne_get
    (A.delete_success s name record hpresent) ⟨k.kind, name⟩
  refine ⟨t, s', hrun, hserved, ?_, hchanges⟩
  rw [hmap]
  exact A.delete_effect s name record hpresent

variable (s)

lemma exists_served_createOrGet (name : String) (spec : S) :
    ∃ t s' record change, (c.createOrGet k name spec).Yields t (.ok record) ∧
      Program.Served A.serve t s s' ∧
      MapStep k A.build (A.map s) (.createOrGet name spec) (.ok (.record record)) change
        (A.map s') ∧
      t.changes = change.toList.map fun change => (c.site, change.request c k) := by
  obtain ⟨t, s₁, hlookup, hserved, hmap, hchanges⟩ := A.exists_served_getResource s name
  cases hrecord : (A.map s).record name with
  | some record =>
      have hfound : (A.map s).lookup k.kind name = .ok record := by rw [NameMap.lookup, hrecord]
      rw [hfound] at hlookup
      refine ⟨t, s₁, record, none, Client.yields_createOrGet_found hlookup, hserved, ?_, hchanges⟩
      rw [hmap]
      exact .found hrecord
  | none =>
      have hmissing : (A.map s).lookup k.kind name = .error (.notFound k.kind name) := by
        rw [NameMap.lookup, hrecord]
      rw [hmissing] at hlookup
      -- The creation is sent to the state after the lookup, which holds the same map.
      have habsent : (A.map s₁).record name = none := by rw [hmap, hrecord]
      obtain ⟨u, s₂, hcreate, hserved', hmap', hchanges'⟩ := A.exists_served_execute
        Method.post_ne_get (A.create_success s₁ name spec habsent) ⟨k.kind, name⟩
      obtain ⟨v, s₃, hread, hserved'', hmap'', hchanges''⟩ := A.exists_served_getResource s₂ name
      have hinserted := A.create_effect s₁ name spec habsent
      rw [← hmap', hmap] at hinserted
      have hfound : (A.map s₂).lookup k.kind name = .ok (A.build (k.payload name spec)) := by
        rw [NameMap.lookup, hinserted, Function.update_self]
      rw [hfound] at hread
      refine ⟨t ++ (u ++ v), s₃, _, some (.insertion name spec),
        Client.yields_createOrGet_created hlookup rfl hcreate hread,
        hserved.append (hserved'.append hserved''), ?_, ?_⟩
      · rw [hmap'']
        exact .created hrecord hinserted
      · rw [Transcript.changes_append, Transcript.changes_append, hchanges, hchanges', hchanges'']
        rfl

/-- Every call is a step of the map. -/
lemma exists_served_call (call : ResourceCall S) :
    ∃ t s' result change, (c.resourceCall k call).Yields t result ∧ Program.Served A.serve t s s' ∧
      MapStep k A.build (A.map s) call result change (A.map s') ∧
      t.changes = change.toList.map fun change => (c.site, change.request c k) := by
  cases call with
  | createOrGet name spec =>
      obtain ⟨t, s', record, change, hrun, hrest⟩ := A.exists_served_createOrGet s name spec
      exact ⟨t, s', _, change, Client.yields_map hrun, hrest⟩
  | get name =>
      obtain ⟨t, s', hrun, hserved, hmap, hchanges⟩ := A.exists_served_getResource s name
      refine ⟨t, s', _, none, Client.yields_map hrun, hserved, ?_, hchanges⟩
      rw [hmap]
      exact .got
  | list =>
      obtain ⟨t, s', hrun, hserved, hmap, hchanges⟩ := A.exists_served_listResources s
      refine ⟨t, s', _, none, Client.yields_map hrun, hserved, ?_, hchanges⟩
      rw [hmap]
      exact .listed
  | delete name =>
      have hcall {t : Transcript} {r : Except ArrayError Unit}
          (h : (c.deleteResource k name).Yields t r) :
          (c.resourceCall k (.delete name)).Yields t (r.map fun _ => .deleted) :=
        Client.yields_map h
      cases hrecord : (A.map s).record name with
      | some record =>
          obtain ⟨t, s', hrun, hserved, heffect, hchanges⟩ := A.exists_served_deleteResource hrecord
          exact ⟨t, s', _, some (.removal name), hcall hrun, hserved, .deleted hrecord heffect,
            hchanges⟩
      | none =>
          obtain ⟨t, s', hrun, hserved, hmap, hchanges⟩ := A.exists_served_missing hrecord
          refine ⟨t, s', _, some (.vainRemoval name), hcall hrun, hserved, ?_, hchanges⟩
          rw [hmap]
          exact .missing hrecord
  | deleteIfExists name =>
      cases hrecord : (A.map s).record name with
      | some record =>
          obtain ⟨t, s', hrun, hserved, heffect, hchanges⟩ := A.exists_served_deleteResource hrecord
          have hexisted : (c.deleteIfExists k name).Yields t (.ok true) :=
            Client.yields_deleteIfExists_iff.2 ⟨_, hrun, rfl⟩
          exact ⟨t, s', _, some (.removal name), Client.yields_map hexisted, hserved,
            .existed hrecord heffect, hchanges⟩
      | none =>
          obtain ⟨t, s', hrun, hserved, hmap, hchanges⟩ := A.exists_served_missing hrecord
          have hexisted : (c.deleteIfExists k name).Yields t (.ok false) :=
            Client.yields_deleteIfExists_iff.2 ⟨_, hrun, rfl⟩
          refine ⟨t, s', _, some (.vainRemoval name), Client.yields_map hexisted, hserved, ?_,
            hchanges⟩
          rw [hmap]
          exact .notExisted hrecord

/-- A session is a run of the map. -/
lemma exists_served_session (calls : List (ResourceCall S)) :
    ∃ t s' results changes, (c.resourceSession k calls).Yields t results ∧
      Program.Served A.serve t s s' ∧
      MapRun k A.build (A.map s) calls results changes (A.map s') ∧
      t.changes = changes.map fun change => (c.site, change.request c k) := by
  induction calls generalizing s with
  | nil => exact ⟨[], s, [], [], .done _, .nil s, .nil _, rfl⟩
  | cons call calls ih =>
      obtain ⟨t, s₁, result, change, hfirst, hserved, hstep, hchanges⟩ :=
        A.exists_served_call s call
      obtain ⟨u, s₂, results, changes, hrest, hserved', hsteps, hchanges'⟩ := ih s₁
      refine ⟨t ++ u, s₂, result :: results, change.toList ++ changes, ?_,
        hserved.append hserved', .cons hstep hsteps, ?_⟩
      · refine Program.yields_bind.2 ⟨t, u, result, rfl, hfirst, ?_⟩
        exact Program.yields_bind.2 ⟨u, [], results, (List.append_nil u).symm, hrest, .done _⟩
      · rw [Transcript.changes_append, hchanges, hchanges', List.map_append]

end MapArray

/-- **Named resources are a map.**  A session of any calls against an array that keeps a map returns
what the map says and leaves the map as it says, call by call.

* The requests that do more than read are those of the changes to the map, in order.
* A name that no call is about keeps what is under it.
* Between two insertions under one name there is a removal.

In the runs every wait has a deadline, and polls take no time. -/
theorem resource_session_refines {c : Client} {R S σ : Type} {k : ResourceClass R S}
    (A : MapArray c k σ) (s : σ) (calls : List (ResourceCall S)) :
    ∃ results s' changes, (c.resourceSession k calls).run A.serve s = (results, s') ∧
      MapRun k A.build (A.map s) calls results changes (A.map s') ∧
      ((c.resourceSession k calls).transcript A.serve s).changes =
        changes.map (fun change => (c.site, change.request c k)) ∧
      (∀ name, (∀ call ∈ calls, call.name? ≠ some name) →
        (A.map s').record name = (A.map s).record name) ∧
      ∀ before name spec between spec' after,
        changes = before ++ .insertion name spec :: (between ++ .insertion name spec' :: after) →
          .removal name ∈ between := by
  obtain ⟨t, s', results, changes, hrun, hserved, hsteps, hchanges⟩ :=
    A.exists_served_session s calls
  refine ⟨results, s', changes, hserved.run_eq hrun, hsteps, ?_, ?_, ?_⟩
  · rw [hserved.transcript_eq hrun, hchanges]
  · intro name hname
    exact hsteps.record_eq hname
  · rintro before name spec between spec' after rfl
    exact hsteps.removal_between

/-! ### An array of hosts -/

namespace Client

variable {c : Client} {R S : Type} {k : ResourceClass R S}

lemma resourcePath_inj {a b : String} : c.resourcePath k a = c.resourcePath k b ↔ a = b := by
  rw [resourcePath, resourcePath, provisioningPath_inj, String.append_right_inj]

/-- No resource has the path of its collection. -/
lemma resourcePath_ne_collection {name : String} :
    c.resourcePath k name ≠ c.provisioningPath k.collection := by
  rw [resourcePath, Ne, provisioningPath_inj]
  intro h
  have hlength := congrArg (fun s => s.toList.length) h
  simp [String.toList_append] at hlength

end Client

namespace HostArray

/-- The client of the array. -/
def client : Client := ⟨.home, ⟨"000197600123"⟩, .default⟩

/-- The names of the hosts that there are. -/
abbrev State := { names : List String // names.Nodup }

/-- The record of a host; the array does not keep initiators. -/
def host (name : String) : Host := ⟨name, [], [], 0⟩

/-- The name of the host that a payload creates. -/
def nameIn (payload : Json) : String :=
  match payload.member? "hostId" with
  | some (.string name) => name
  | _ => ""

/-- The host with a path. -/
def hostAt? (names : List String) (path : String) : Option String :=
  names.find? fun name => client.resourcePath Host.resources name = path

/-- The answer to a read. -/
def read (path : String) (names : List String) : Answer :=
  if path = (client.pollRequest ⟨"1"⟩).path then
    .ok ⟨200, .object [("jobId", .string "1"), ("status", .string "SUCCEEDED")]⟩
  else if path = client.provisioningPath Host.resources.collection then
    .ok ⟨200, .object [("hostId", .strings names)]⟩
  else match hostAt? names path with
    | some name => .ok ⟨200, .object [("hostId", .string name)]⟩
    | none => .ok ⟨404, .null⟩

/-- The state with one more host. -/
def add (name : String) (s : State) : State := ⟨s.1.insert name, s.2.insert⟩

/-- The answer to a request, and the state after it. -/
def serve (_ : Site) (request : Request) (s : State) : Answer × State :=
  match request.method with
  | .post =>
    let name := nameIn (request.body.getD .null)
    if name ∈ s.1 then (.ok ⟨409, .null⟩, s)
    else (.ok ⟨202, .object [("jobId", .string "1"), ("status", .string "RUNNING")]⟩, add name s)
  | .delete => match hostAt? s.1 request.path with
    | some name => (.ok ⟨204, .null⟩, ⟨s.1.erase name, s.2.erase name⟩)
    | none => (.ok ⟨404, .null⟩, s)
  | _ => (read request.path s.1, s)

lemma hostAt?_resourcePath (names : List String) (name : String) :
    hostAt? names (client.resourcePath Host.resources name) =
      if name ∈ names then some name else none := by
  simp only [hostAt?, Client.resourcePath_inj]
  induction names with
  | nil => rfl
  | cons first names ih =>
      by_cases hfirst : first = name
      · simp [hfirst]
      · simp [hfirst, ih, Ne.symm hfirst]

/-- The map of the hosts. -/
def map (s : State) : NameMap Host where
  record name := if name ∈ s.1 then some (host name) else none
  names := s.1
  nodup := s.2
  mem_names name := by simp

lemma mem_of_record {s : State} {name : String} {record : Host}
    (h : (map s).record name = some record) : name ∈ s.1 ∧ record = host name := by
  have hmem : name ∈ s.1 := ((map s).mem_names name).2 (by simp [h])
  simp only [map, if_pos hmem, Option.some.injEq] at h
  exact ⟨hmem, h.symm⟩

lemma not_mem_of_record {s : State} {name : String} (h : (map s).record name = none) :
    name ∉ s.1 := by
  intro hmem
  simp [map, hmem] at h

lemma read_resourcePath (names : List String) (name : String) :
    read (client.resourcePath Host.resources name) names =
      if name ∈ names then .ok ⟨200, .object [("hostId", .string name)]⟩ else .ok ⟨404, .null⟩ := by
  have hpoll : client.resourcePath Host.resources name ≠ (client.pollRequest ⟨"1"⟩).path :=
    Client.systemPath_ne_provisioningPath.symm
  rw [read, if_neg hpoll, if_neg Client.resourcePath_ne_collection, hostAt?_resourcePath]
  by_cases hmem : name ∈ names
  · simp [hmem]
  · simp [hmem]

lemma serve_get (path : String) (s : State) :
    serve client.site (.get path) s = (read path s.1, s) := rfl

/-- The creation of a host that is not there. -/
lemma serve_create {s : State} {name : String} (spec : HostSpec) (h : name ∉ s.1) :
    serve client.site (client.createRequest Host.resources name spec) s =
      (.ok ⟨202, .object [("jobId", .string "1"), ("status", .string "RUNNING")]⟩, add name s) :=
  if_neg h

/-- The deletion of a host. -/
lemma serve_delete (s : State) (name : String) :
    serve client.site (.delete (client.resourcePath Host.resources name)) s =
      if name ∈ s.1 then (.ok ⟨204, .null⟩, ⟨s.1.erase name, s.2.erase name⟩)
      else (.ok ⟨404, .null⟩, s) := by
  simp only [serve, Request.delete, hostAt?_resourcePath]
  by_cases hmem : name ∈ s.1
  · simp [hmem]
  · simp [hmem]

/-- An array that keeps the names of hosts and hands over a job for every creation. -/
def array : MapArray client Host.resources State where
  serve := serve
  map := map
  build payload := host (nameIn payload)
  read_effect s request hm := by
    simp [serve, hm]
  lookup_present s name record h := by
    obtain ⟨hmem, rfl⟩ := mem_of_record h
    refine ⟨⟨200, .object [("hostId", .string name)]⟩, ?_, rfl, rfl⟩
    rw [serve_get, read_resourcePath, if_pos hmem]
  lookup_absent s name h := by
    refine ⟨⟨404, .null⟩, ?_, rfl⟩
    rw [serve_get, read_resourcePath, if_neg (not_mem_of_record h)]
  listing s := by
    refine ⟨⟨200, .object [("hostId", .strings s.1)]⟩, rfl, rfl, ?_⟩
    exact .plain rfl rfl
  create_effect s name spec h := by
    have hbuild : host (nameIn (Host.resources.payload name spec)) = host name := rfl
    rw [serve_create spec (not_mem_of_record h), hbuild]
    funext other
    by_cases hother : other = name
    · simp [map, add, hother]
    · simp [map, add, hother]
  create_success s name spec h := by
    have hanswer := congrArg Prod.fst (serve_create spec (not_mem_of_record h))
    let ended : JobRecord := ⟨⟨"1"⟩, none, .succeeded, none, none, none⟩
    have hdefers : Response.Defers
        ⟨202, .object [("jobId", .string "1"), ("status", .string "RUNNING")]⟩
        ⟨⟨"1"⟩, none, .running, none, none, none⟩ := ⟨rfl, rfl, rfl⟩
    have hpoll : (client.getJob ⟨"1"⟩).on (serve client.site (client.pollRequest ⟨"1"⟩)
        (serve client.site (client.createRequest Host.resources name spec) s).2).1 =
          .ok ended := rfl
    exact .of_first_poll hanswer hdefers rfl hpoll rfl
  delete_effect s name record h := by
    obtain ⟨hmem, rfl⟩ := mem_of_record h
    rw [serve_delete, if_pos hmem]
    funext other
    by_cases hother : other = name
    · simp [map, hother, s.2.mem_erase_iff]
    · simp [map, hother, s.2.mem_erase_iff]
  delete_success s name record h := by
    have hanswer : (serve client.site (.delete (client.resourcePath Host.resources name)) s).1 =
        .ok ⟨204, .null⟩ := by
      rw [serve_delete, if_pos (mem_of_record h).1]
    exact .of_confirms hanswer ⟨rfl, by decide, rfl⟩
  delete_absent s name h := by
    rw [serve_delete, if_neg (not_mem_of_record h)]
    exact ⟨⟨_, rfl, rfl⟩, rfl⟩

end HostArray

/-- A host that is created, and deleted twice. -/
theorem resource_session_refines_host :
    let spec : HostSpec := ⟨["iqn.a"]⟩
    let calls : List (ResourceCall HostSpec) :=
      [.createOrGet "esx01" spec, .deleteIfExists "esx01", .deleteIfExists "esx01"]
    let none : HostArray.State := ⟨[], List.nodup_nil⟩
    ∃ s', (HostArray.client.resourceSession Host.resources calls).run HostArray.serve none =
        ([.ok (.record (HostArray.host "esx01")), .ok (.existed true), .ok (.existed false)], s') ∧
      ((HostArray.client.resourceSession Host.resources calls).transcript
        HostArray.serve none).changes =
          [(.home, HostArray.client.createRequest Host.resources "esx01" spec),
            (.home, .delete (HostArray.client.resourcePath Host.resources "esx01")),
            (.home, .delete (HostArray.client.resourcePath Host.resources "esx01"))] := by
  intro spec calls none
  obtain ⟨results, s', changes, hrun, hsteps, hchanges, -, -⟩ :=
    resource_session_refines HostArray.array none calls
  generalize HostArray.array.map s' = m at hsteps
  unfold calls at hsteps
  cases hsteps with
  | cons first rest =>
      cases first with
      | found hpresent => cases hpresent
      | created habsent heffect =>
          cases rest with
          | cons second rest =>
              cases second with
              | notExisted habsent =>
                  rw [heffect, Function.update_self] at habsent
                  cases habsent
              | existed hpresent heffect' =>
                  cases rest with
                  | cons third rest =>
                      cases rest
                      cases third with
                      | existed hpresent heffect'' =>
                          rw [heffect', Function.update_self] at hpresent
                          cases hpresent
                      | notExisted habsent => exact ⟨s', hrun, hchanges⟩

end StorageArray
