import Mathlib.Data.List.TakeWhile
import Mathlib.Tactic.Common
import StorageArray.Proofs.Mutation.Payload
import StorageArray.Proofs.Operation
/-!
# Changes and their requests

`Change` lists the changes that a client can ask an array for, with all that they depend on, and
`Change.request` is the request that asks for one.  Different changes have different requests
(`Change.request_eq_iff`).

The path of a request leads to a place: the part of the management interface, a first segment, and
the rest.  A first segment has no slash inside, so that the path determines the place
(`Place.path_inj`); names may have slashes, but what stands behind a name is either a fixed text or
a number, and a number has no slash either (`append_slash_repr_inj`).  Verb, part and first
segment tell the kinds of changes apart, and the payload then gives what the place leaves open.
-/

namespace StorageArray

/-! ### Segments -/

/-- What stands before the first slash can be read off a text. -/
lemma takeWhile_ne_slash {segment rest : List Char} (hsegment : '/' ∉ segment)
    (hrest : ∀ ch ∈ rest.head?, ch = '/') :
    (segment ++ rest).takeWhile (· ≠ '/') = segment := by
  have hinside : ∀ ch ∈ segment, decide (ch ≠ '/') = true := fun ch hch =>
    decide_eq_true fun h => hsegment (h ▸ hch)
  have hstop : rest.takeWhile (· ≠ '/') = [] := by
    cases rest with
    | nil => rfl
    | cons ch rest => simp [hrest ch rfl]
  rw [List.takeWhile_append_of_pos hinside, hstop, List.append_nil]

/-- What stands behind the last slash can be read off a text. -/
lemma append_slash_inj {text text' last last' : List Char} (hlast : '/' ∉ last)
    (hlast' : '/' ∉ last') :
    text ++ '/' :: last = text' ++ '/' :: last' ↔ text = text' ∧ last = last' := by
  refine ⟨fun h => ?_, fun ⟨htext, heq⟩ => by rw [htext, heq]⟩
  have hbackwards := congrArg (fun chars => chars.reverse.takeWhile (· ≠ '/')) h
  simp only [List.reverse_append, List.reverse_cons, List.append_assoc, List.singleton_append]
    at hbackwards
  rw [takeWhile_ne_slash (by simpa using hlast) (by simp),
    takeWhile_ne_slash (by simpa using hlast') (by simp), List.reverse_inj] at hbackwards
  subst hbackwards
  exact ⟨List.append_cancel_right h, rfl⟩

lemma slash_not_mem_repr (n : Nat) : '/' ∉ n.repr.toList := by
  intro h
  have hdigits : n.repr.toList = Nat.toDigits 10 n := String.toList_ofList
  rw [hdigits] at h
  have hdigit := Nat.isDigit_of_mem_toDigits (by decide) (by decide) h
  exact absurd hdigit (by decide)

/-- A number behind a slash can be read off the end of a text. -/
lemma append_slash_repr_inj {text text' : String} {m n : UInt32} :
    text ++ "/" ++ m.toNat.repr = text' ++ "/" ++ n.toNat.repr ↔ text = text' ∧ m = n := by
  simp only [← String.toList_inj, String.toList_append, List.append_assoc]
  refine (append_slash_inj (slash_not_mem_repr _) (slash_not_mem_repr _)).trans ?_
  simp only [String.toList_inj, repr_toNat_inj]

/-! ### Places -/

/-- The parts of the management interface that hold what a client changes. -/
inductive Area where
  /-- Resources and volumes. -/
  | provisioning
  /-- Snapshots and replication groups. -/
  | replication
deriving DecidableEq

/-- The path below an array in a part of the interface. -/
def Client.areaPath (c : Client) : Area → String → String
  | .provisioning => c.provisioningPath
  | .replication => c.replicationPath

lemma Client.areaPath_inj {c : Client} {area area' : Area} {a b : String} :
    c.areaPath area a = c.areaPath area' b ↔ area = area' ∧ a = b := by
  cases area <;> cases area'
  · simp [areaPath, provisioningPath_inj]
  · simp [areaPath, provisioningPath_ne_replicationPath]
  · simp [areaPath, provisioningPath_ne_replicationPath.symm]
  · simp [areaPath, replicationPath_inj]

/-- A place below an array. -/
structure Place where
  /-- The part of the interface. -/
  area : Area
  /-- The first segment below the array. -/
  segment : String
  /-- What follows it. -/
  rest : String
  /-- The first segment ends where it says. -/
  segment_slash : '/' ∉ segment.toList
  /-- What follows begins with another segment. -/
  rest_slash : ∀ ch ∈ rest.toList.head?, ch = '/'

namespace Place

/-- The path of a place. -/
def path (c : Client) (p : Place) : String := c.areaPath p.area (p.segment ++ p.rest)

/-- A path leads to one place. -/
lemma path_inj {c : Client} {p q : Place} :
    p.path c = q.path c ↔ p.area = q.area ∧ p.segment = q.segment ∧ p.rest = q.rest := by
  refine ⟨fun h => ?_, fun ⟨harea, hsegment, hrest⟩ => by rw [path, harea, hsegment, hrest]; rfl⟩
  obtain ⟨harea, htail⟩ := Client.areaPath_inj.1 h
  have hsegment : p.segment = q.segment := by
    have hfirst := congrArg (fun tail : String => tail.toList.takeWhile (· ≠ '/')) htail
    simp only [String.toList_append, takeWhile_ne_slash p.segment_slash p.rest_slash,
      takeWhile_ne_slash q.segment_slash q.rest_slash] at hfirst
    exact String.toList_inj.1 hfirst
  rw [hsegment] at htail
  exact ⟨harea, hsegment, (String.append_right_inj _).1 htail⟩

end Place

/-! ### Changes -/

/-- The classes of resources of an array. -/
inductive ResourceKind where
  | storageGroup
  | host
  | portGroup
  | maskingView
deriving DecidableEq

namespace ResourceKind

/-- The records of a class. -/
def Record : ResourceKind → Type
  | .storageGroup => StorageGroup
  | .host => Host
  | .portGroup => PortGroup
  | .maskingView => MaskingView

/-- The attributes of a new resource. -/
def Spec : ResourceKind → Type
  | .storageGroup => StorageGroupSpec
  | .host => HostSpec
  | .portGroup => PortGroupSpec
  | .maskingView => MaskingViewSpec

/-- The class. -/
def resources : (k : ResourceKind) → ResourceClass k.Record k.Spec
  | .storageGroup => StorageGroup.resources
  | .host => Host.resources
  | .portGroup => PortGroup.resources
  | .maskingView => MaskingView.resources

/-- The attributes with the policy of a storage group written out. -/
def explicit : (k : ResourceKind) → k.Spec → k.Spec
  | .storageGroup, spec => StorageGroupSpec.explicit spec
  | .host, spec => spec
  | .portGroup, spec => spec
  | .maskingView, spec => spec

lemma collection_inj {k k' : ResourceKind} :
    k.resources.collection = k'.resources.collection ↔ k = k' := by
  cases k <;> cases k' <;> simp [resources, StorageGroup.resources, Host.resources,
    PortGroup.resources, MaskingView.resources]

lemma collection_ne_volume (k : ResourceKind) : k.resources.collection ≠ "volume" := by
  cases k <;> simp [resources, StorageGroup.resources, Host.resources, PortGroup.resources,
    MaskingView.resources]

lemma slash_not_mem_collection (k : ResourceKind) : '/' ∉ k.resources.collection.toList := by
  cases k <;> simp [resources, StorageGroup.resources, Host.resources, PortGroup.resources,
    MaskingView.resources]

lemma payload_eq_iff {k : ResourceKind} {name name' : String} {spec spec' : k.Spec} :
    k.resources.payload name spec = k.resources.payload name' spec' ↔
      name = name' ∧ k.explicit spec = k.explicit spec' := by
  cases k
  · exact StorageGroup.payload_eq_iff
  · exact Host.payload_eq_iff
  · exact PortGroup.payload_eq_iff
  · exact MaskingView.payload_eq_iff

end ResourceKind

/-- A change that a client can ask an array for. -/
inductive Change where
  /-- Creates a resource. -/
  | create (k : ResourceKind) (name : String) (spec : k.Spec)
  /-- Deletes a resource. -/
  | deleteResource (k : ResourceKind) (name : String)
  /-- Changes which volumes are in a storage group. -/
  | editGroup (group : String) (edit : Volume.GroupEdit)
  /-- Changes a volume. -/
  | editVolume (id : VolumeId) (edit : Volume.VolumeEdit)
  /-- Deletes a volume. -/
  | deleteVolume (id : VolumeId)
  /-- Takes a snapshot. -/
  | takeSnapshot (name : String) (sources : List VolumeId) (hours : Option UInt32)
  /-- Carries out an action on a generation of a snapshot. -/
  | changeGeneration (name : String) (sources : List VolumeId) (generation : UInt32)
      (action : SnapshotAction)
  /-- Deletes a generation of a snapshot. -/
  | deleteGeneration (name : String) (sources : List VolumeId) (generation : UInt32)
  /-- Binds a storage group to one on a partner array. -/
  | protect (group : String) (remoteArray : ArrayId) (remoteGroup : String)
      (mode : ReplicationMode) (number : UInt32)
  /-- Carries out an action on the replication of a storage group. -/
  | replicate (action : ReplicationAction) (group : String) (number : UInt32) (force star : Bool)

namespace Change

/-- The request for a change. -/
def request (c : Client) : Change → Request
  | .create k name spec => c.createRequest k.resources name spec
  | .deleteResource k name => .delete (c.resourcePath k.resources name)
  | .editGroup group edit => .put (c.storageGroupPath group) edit.payload
  | .editVolume id edit => .put (c.volumePath id) edit.payload
  | .deleteVolume id => .delete (c.volumePath id)
  | .takeSnapshot name sources hours =>
    .post (c.snapshotPath name) (Snapshot.creationPayload sources hours)
  | .changeGeneration name sources generation action =>
    .put (c.generationPath name generation) (Snapshot.changePayload sources generation action)
  | .deleteGeneration name sources generation =>
    (Request.delete (c.generationPath name generation)).withBody
      (Snapshot.deletionPayload sources generation)
  | .protect group remoteArray remoteGroup mode number =>
    .post (c.groupReplicationPath group)
      (Replication.protectionPayload remoteArray remoteGroup mode number)
  | .replicate action group number force star =>
    .put (c.replicationStatePath group number) (Replication.actionPayload action force star)

/-- The change with the policy of a new storage group written out. -/
def explicit : Change → Change
  | .create k name spec => .create k name (k.explicit spec)
  | x => x

/-- The place that a change is sent to. -/
def place : Change → Place
  | .create k _ _ =>
    ⟨.provisioning, k.resources.collection, "", k.slash_not_mem_collection, by simp⟩
  | .deleteResource k name =>
    ⟨.provisioning, k.resources.collection, "/" ++ name, k.slash_not_mem_collection, by simp⟩
  | .editGroup group _ => ⟨.provisioning, "storagegroup", "/" ++ group, by simp, by simp⟩
  | .editVolume id _ | .deleteVolume id =>
    ⟨.provisioning, "volume", "/" ++ id.text, by simp, by simp⟩
  | .takeSnapshot name _ _ => ⟨.replication, "snapshot", "/" ++ name, by simp, by simp⟩
  | .changeGeneration name _ generation _ | .deleteGeneration name _ generation =>
    ⟨.replication, "snapshot", "/" ++ name ++ "/generation" ++ "/" ++ generation.toNat.repr,
      by simp, by simp⟩
  | .protect group _ _ _ _ =>
    ⟨.replication, "storagegroup", "/" ++ group ++ "/rdf_group", by simp, by simp⟩
  | .replicate _ group number _ _ =>
    ⟨.replication, "storagegroup", "/" ++ group ++ "/rdf_group" ++ "/" ++ number.toNat.repr,
      by simp, by simp⟩

/-- The path of a request is that of its place. -/
lemma path_request {c : Client} (x : Change) : (x.request c).path = x.place.path c := by
  rw [← String.toList_inj]
  cases x <;> simp [request, place, Place.path, Client.areaPath, Client.createRequest,
    Client.resourcePath, Client.storageGroupPath, Client.volumePath, Client.snapshotPath,
    Client.generationPath, Client.groupReplicationPath, Client.replicationStatePath,
    Client.provisioningPath, Client.replicationPath, Request.post, Request.put, Request.delete,
    Request.withBody]

/-- The verb of a change. -/
def method : Change → Method
  | .create .. | .takeSnapshot .. | .protect .. => .post
  | .editGroup .. | .editVolume .. | .changeGeneration .. | .replicate .. => .put
  | .deleteResource .. | .deleteVolume .. | .deleteGeneration .. => .delete

lemma method_request {c : Client} (x : Change) : (x.request c).method = x.method := by
  cases x <;> rfl

/-- What tells the kinds of changes apart. -/
def kind (x : Change) : Method × Area × String := (x.method, x.place.area, x.place.segment)

/-- Changes with the same request are the same once policies are written out. -/
lemma explicit_eq_of_request {c : Client} {x x' : Change}
    (hmethod : (x.request c).method = (x'.request c).method)
    (hpath : (x.request c).path = (x'.request c).path)
    (hbody : (x.request c).body = (x'.request c).body) : x.explicit = x'.explicit := by
  rw [path_request, path_request, Place.path_inj] at hpath
  obtain ⟨harea, hsegment, hrest⟩ := hpath
  have hkind : x.kind = x'.kind := by
    rw [kind, kind, ← method_request (c := c) x, ← method_request (c := c) x', hmethod, harea,
      hsegment]
  -- Two changes of one kind: the place gives the names, and the payload what they leave open.
  cases x with
  | create k name spec =>
      cases x' with
      | create k' name' spec' =>
          obtain rfl := ResourceKind.collection_inj.1 hsegment
          obtain ⟨rfl, hspec⟩ := ResourceKind.payload_eq_iff.1 (Option.some.inj hbody)
          rw [explicit, explicit, hspec]
      | _ => simp [kind, method, place] at hkind
  | deleteResource k name =>
      cases x' with
      | deleteResource k' name' =>
          obtain rfl := ResourceKind.collection_inj.1 hsegment
          obtain rfl := (String.append_right_inj _).1 hrest
          rfl
      | _ => simp [kind, method, place, ResourceKind.collection_ne_volume] at hkind
  | editGroup group edit =>
      cases x' with
      | editGroup group' edit' =>
          obtain rfl := (String.append_right_inj _).1 hrest
          obtain rfl := Volume.GroupEdit.payload_inj.1 (Option.some.inj hbody)
          rfl
      | _ => simp [kind, method, place] at hkind
  | editVolume id edit =>
      cases x' with
      | editVolume id' edit' =>
          obtain rfl := Identifier.text_inj.1 ((String.append_right_inj _).1 hrest)
          obtain rfl := Volume.VolumeEdit.payload_inj.1 (Option.some.inj hbody)
          rfl
      | _ => simp [kind, method, place] at hkind
  | deleteVolume id =>
      cases x' with
      | deleteVolume id' =>
          obtain rfl := Identifier.text_inj.1 ((String.append_right_inj _).1 hrest)
          rfl
      | _ => simp [kind, method, place, (ResourceKind.collection_ne_volume _).symm] at hkind
  | takeSnapshot name sources hours =>
      cases x' with
      | takeSnapshot name' sources' hours' =>
          obtain rfl := (String.append_right_inj _).1 hrest
          obtain ⟨rfl, rfl⟩ := Snapshot.creationPayload_inj.1 (Option.some.inj hbody)
          rfl
      | _ => simp [kind, method, place] at hkind
  | changeGeneration name sources generation action =>
      cases x' with
      | changeGeneration name' sources' generation' action' =>
          have hname := (append_slash_repr_inj.1 hrest).1
          obtain rfl := (String.append_right_inj _).1 ((String.append_left_inj _).1 hname)
          obtain ⟨rfl, rfl, rfl⟩ := Snapshot.changePayload_inj.1 (Option.some.inj hbody)
          rfl
      | _ => simp [kind, method, place] at hkind
  | deleteGeneration name sources generation =>
      cases x' with
      | deleteGeneration name' sources' generation' =>
          have hname := (append_slash_repr_inj.1 hrest).1
          obtain rfl := (String.append_right_inj _).1 ((String.append_left_inj _).1 hname)
          obtain ⟨rfl, rfl⟩ := Snapshot.deletionPayload_inj.1 (Option.some.inj hbody)
          rfl
      | _ => simp [kind, method, place] at hkind
  | protect group remoteArray remoteGroup mode number =>
      cases x' with
      | protect group' remoteArray' remoteGroup' mode' number' =>
          obtain rfl := (String.append_right_inj _).1 ((String.append_left_inj _).1 hrest)
          obtain ⟨rfl, rfl, rfl, rfl⟩ := Replication.protectionPayload_inj.1 (Option.some.inj hbody)
          rfl
      | _ => simp [kind, method, place] at hkind
  | replicate action group number force star =>
      cases x' with
      | replicate action' group' number' force' star' =>
          obtain ⟨hgroup, rfl⟩ := append_slash_repr_inj.1 hrest
          obtain rfl := (String.append_right_inj _).1 ((String.append_left_inj _).1 hgroup)
          obtain ⟨rfl, rfl, rfl⟩ := Replication.actionPayload_inj.1 (Option.some.inj hbody)
          rfl
      | _ => simp [kind, method, place] at hkind

/-- Writing the policy out does not change the request. -/
lemma request_explicit {c : Client} (x : Change) : x.explicit.request c = x.request c := by
  cases x with
  | create k name spec =>
      have hspec : k.explicit (k.explicit spec) = k.explicit spec := by
        cases k <;> rfl
      exact congrArg (Request.post _) (ResourceKind.payload_eq_iff.2 ⟨rfl, hspec⟩)
  | _ => rfl

/-- Two changes have the same verb, path and payload exactly when they are the same once policies
are written out. -/
lemma request_eq_iff {c : Client} {x x' : Change} :
    ((x.request c).method = (x'.request c).method ∧ (x.request c).path = (x'.request c).path ∧
      (x.request c).body = (x'.request c).body) ↔ x.explicit = x'.explicit := by
  refine ⟨fun ⟨hmethod, hpath, hbody⟩ => explicit_eq_of_request hmethod hpath hbody, fun h => ?_⟩
  have hrequest : x.request c = x'.request c := by
    rw [← request_explicit x, h, request_explicit]
  rw [hrequest]
  exact ⟨rfl, rfl, rfl⟩

end Change

end StorageArray
