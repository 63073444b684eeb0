import StorageArray.Job.Wait
import StorageArray.Listing
/-!
# Named resources

Storage groups, hosts, port groups and masking views are resources with names.  Each class
of them has a collection below the provisioning of an array, a payload that creates a
member, and a record that the array reports about it.  All classes share the operations of
this module: get, list, create unless there is one, delete, delete if there is one.
-/

namespace StorageArray

/-- A class of named resources with records in `R`, created from attributes in `S`. -/
structure ResourceClass (R S : Type) where
  /-- The class in words. -/
  kind : String
  /-- The segment of the collection. -/
  collection : String
  /-- The key of the names in a listing of the collection. -/
  idKey : String
  /-- How a record is written. -/
  shape : Shape R
  /-- The payload that creates a resource with a name and attributes. -/
  payload : String → S → Json
  /-- The name in a record. -/
  nameOf : R → String

/-- The error says that another creator of the same name was faster. -/
def ArrayError.isCreateRace : ArrayError → Bool
  | .conflict .. => true
  | .jobFailed _ detail => Text.contains (Text.lowercase detail) "already exists"
  | _ => false

namespace Client

variable {R S : Type}

/-- The path of a resource. -/
def resourcePath (c : Client) (k : ResourceClass R S) (name : String) : String :=
  c.provisioningPath (k.collection ++ "/" ++ name)

/-- The record of a resource. -/
def getResource (c : Client) (k : ResourceClass R S) (name : String) : Operation R :=
  c.read (.get (c.resourcePath k name)) ⟨k.kind, name⟩ k.kind k.shape

/-- The names of all resources of a class, in the order of the array. -/
def listResources (c : Client) (k : ResourceClass R S) : Operation (List String) := do
  .ofExcept (Listing.listed k.idKey
    (← c.fetch (.get (c.provisioningPath k.collection)) ⟨k.kind, k.collection⟩))

/-- The request that creates a resource. -/
def createRequest (c : Client) (k : ResourceClass R S) (name : String) (spec : S) : Request :=
  .post (c.provisioningPath k.collection) (k.payload name spec)

/-- Looks a resource up and creates it when there is none, at most `attempts` times as long
as other creators are faster; `last` is the error when no attempt is left. -/
def createOrGetFrom (c : Client) (k : ResourceClass R S) (name : String) (spec : S) :
    (attempts : Nat) → (last : ArrayError) → Operation R
  | 0, last => .fail last
  | attempts + 1, _ => do
    match ← (c.getResource k name).settle with
    | .ok record => pure record
    | .error e =>
      if e.isNotFound then
        match ← (c.execute (c.createRequest k name spec) ⟨k.kind, name⟩).settle with
        | .ok _ => c.getResource k name
        | .error e =>
          if e.isCreateRace then c.createOrGetFrom k name spec attempts e else .fail e
      else .fail e

/-- The resource with a name, created from the attributes when there is none.  A resource
that exists is returned as it is. -/
def createOrGet (c : Client) (k : ResourceClass R S) (name : String) (spec : S) :
    Operation R :=
  c.createOrGetFrom k name spec (max 1 c.settings.maxCreateAttempts) (.notFound k.kind name)

/-- Deletes a resource. -/
def deleteResource (c : Client) (k : ResourceClass R S) (name : String) : Operation Unit :=
  c.execute (.delete (c.resourcePath k name)) ⟨k.kind, name⟩

/-- Deletes a resource if it exists, and says whether it did. -/
def deleteIfExists (c : Client) (k : ResourceClass R S) (name : String) :
    Operation Bool := do
  match ← (c.deleteResource k name).settle with
  | .ok _ => pure true
  | .error e => if e.isNotFound then pure false else .fail e

end Client

end StorageArray
