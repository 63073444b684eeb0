import Mathlib.Logic.Function.Basic
import Mathlib.Tactic.Common
import StorageArray.Resource.Basic
/-!
# Maps of names

What the operations on named resources are to do is said by a map from names to records.
`MapStep` is one call against such a map: what it returns, what it does to the map, and which change
it asks for.  `MapRun` is a sequence of calls.

The changes of a run are consistent with the names that are held in between
(`MapRun.consistent`): what is inserted was not there, and what is removed was.  So between two
insertions under one name there is a removal (`MapRun.removal_between`).
-/

namespace StorageArray

/-- Records under names, each name with at most one record, and the names in some order. -/
structure NameMap (R : Type) where
  /-- The record under a name. -/
  record : String → Option R
  /-- The names that have a record. -/
  names : List String
  /-- Each of them is there once. -/
  nodup : names.Nodup
  /-- No other name is there. -/
  mem_names : ∀ name, name ∈ names ↔ (record name).isSome = true

namespace NameMap

variable {R : Type}

/-- There is a record under the name. -/
def holds (m : NameMap R) (name : String) : Bool := (m.record name).isSome

/-- The record under a name; there is none when the resource is missing. -/
def lookup (m : NameMap R) (kind name : String) : Except ArrayError R :=
  match m.record name with
  | some record => .ok record
  | none => .error (.notFound kind name)

/-- The names that are held when a record was put under a name, or removed. -/
lemma holds_eq_update {m m' : NameMap R} {name : String} {record : Option R}
    (h : m'.record = Function.update m.record name record) :
    m'.holds = Function.update m.holds name record.isSome := by
  funext other
  unfold holds
  rw [h]
  by_cases hname : other = name
  · subst hname
    simp
  · simp [hname]

end NameMap

/-- A call of an operation on named resources that are created from attributes in `S`. -/
inductive ResourceCall (S : Type) where
  /-- The resource with the name, created when there is none. -/
  | createOrGet (name : String) (spec : S)
  /-- The resource with the name. -/
  | get (name : String)
  /-- The names of all resources. -/
  | list
  /-- The resource is deleted. -/
  | delete (name : String)
  /-- The resource is deleted if it exists. -/
  | deleteIfExists (name : String)

namespace ResourceCall

variable {S : Type}

/-- The name that a call is about. -/
def name? : ResourceCall S → Option String
  | .createOrGet name _ | .get name | .delete name | .deleteIfExists name => some name
  | .list => none

end ResourceCall

/-- What a call returns. -/
inductive ResourceResult (R : Type) where
  /-- The record of the resource. -/
  | record (record : R)
  /-- The names. -/
  | names (names : List String)
  /-- The resource is deleted. -/
  | deleted
  /-- The resource is deleted, and there was one or not. -/
  | existed (existed : Bool)

/-- A change that a call asks for. -/
inductive MapChange (S : Type) where
  /-- A record is put under a name. -/
  | insertion (name : String) (spec : S)
  /-- The record under a name is removed. -/
  | removal (name : String)
  /-- A removal that finds nothing under the name. -/
  | vainRemoval (name : String)

section Steps

variable {R S : Type} (k : ResourceClass R S) (build : Json → R)

/-- One call against a map; `build` makes a record out of the payload of a creation. -/
inductive MapStep : NameMap R → ResourceCall S → Except ArrayError (ResourceResult R) →
    Option (MapChange S) → NameMap R → Prop
  /-- A resource that exists is returned as it is, whatever the attributes. -/
  | found {m : NameMap R} {name : String} {spec : S} {record : R}
      (hpresent : m.record name = some record) :
    MapStep m (.createOrGet name spec) (.ok (.record record)) none m
  /-- A resource that does not exist is created and returned. -/
  | created {m m' : NameMap R} {name : String} {spec : S} (habsent : m.record name = none)
      (heffect : m'.record =
        Function.update m.record name (some (build (k.payload name spec)))) :
    MapStep m (.createOrGet name spec) (.ok (.record (build (k.payload name spec))))
      (some (.insertion name spec)) m'
  /-- A lookup returns the record. -/
  | got {m : NameMap R} {name : String} :
    MapStep m (.get name) ((m.lookup k.kind name).map .record) none m
  /-- A listing returns the names in their order. -/
  | listed {m : NameMap R} : MapStep m .list (.ok (.names m.names)) none m
  /-- A resource that exists is deleted. -/
  | deleted {m m' : NameMap R} {name : String} {record : R}
      (hpresent : m.record name = some record)
      (heffect : m'.record = Function.update m.record name none) :
    MapStep m (.delete name) (.ok .deleted) (some (.removal name)) m'
  /-- A resource that does not exist is missing. -/
  | missing {m : NameMap R} {name : String} (habsent : m.record name = none) :
    MapStep m (.delete name) (.error (.notFound k.kind name)) (some (.vainRemoval name)) m
  /-- A resource that exists is deleted if it exists. -/
  | existed {m m' : NameMap R} {name : String} {record : R}
      (hpresent : m.record name = some record)
      (heffect : m'.record = Function.update m.record name none) :
    MapStep m (.deleteIfExists name) (.ok (.existed true)) (some (.removal name)) m'
  /-- When there is none, this is said. -/
  | notExisted {m : NameMap R} {name : String} (habsent : m.record name = none) :
    MapStep m (.deleteIfExists name) (.ok (.existed false)) (some (.vainRemoval name)) m

/-- Calls against a map, one after the other. -/
inductive MapRun : NameMap R → List (ResourceCall S) →
    List (Except ArrayError (ResourceResult R)) → List (MapChange S) → NameMap R → Prop
  /-- Without a call nothing happens. -/
  | nil (m : NameMap R) : MapRun m [] [] [] m
  /-- The first call, then the others. -/
  | cons {m m' m'' : NameMap R} {call : ResourceCall S} {calls : List (ResourceCall S)}
      {result : Except ArrayError (ResourceResult R)}
      {results : List (Except ArrayError (ResourceResult R))} {change : Option (MapChange S)}
      {changes : List (MapChange S)} (first : MapStep k build m call result change m')
      (rest : MapRun m' calls results changes m'') :
    MapRun m (call :: calls) (result :: results) (change.toList ++ changes) m''

end Steps

/-- The changes are consistent when these names are held before the first: nothing is inserted that
is there, and only what is there is removed. -/
def Consistent {S : Type} : (String → Bool) → List (MapChange S) → Prop
  | _, [] => True
  | held, .insertion name _ :: rest =>
    held name = false ∧ Consistent (Function.update held name true) rest
  | held, .removal name :: rest =>
    held name = true ∧ Consistent (Function.update held name false) rest
  | held, .vainRemoval name :: rest => held name = false ∧ Consistent held rest

section Consistency

variable {R S : Type} {k : ResourceClass R S} {build : Json → R} {m m' : NameMap R}
  {call : ResourceCall S} {result : Except ArrayError (ResourceResult R)}
  {change : Option (MapChange S)} {held : String → Bool} {name : String} {spec : S}
  {before between after : List (MapChange S)}

/-- After an insertion the name is held. -/
lemma Consistent.of_insertion (h : Consistent held (before ++ .insertion name spec :: after)) :
    ∃ held' : String → Bool, held' name = true ∧ Consistent held' after := by
  induction before generalizing held with
  | nil => exact ⟨_, Function.update_self name true held, h.2⟩
  | cons change before ih =>
      cases change with
      | insertion other spec' => exact ih h.2
      | removal other => exact ih h.2
      | vainRemoval other => exact ih h.2

/-- A name that is held is removed before it is inserted. -/
lemma Consistent.removal_mem (h : Consistent held (between ++ .insertion name spec :: after))
    (hheld : held name = true) : .removal name ∈ between := by
  induction between generalizing held with
  | nil =>
      have hfree : held name = false := h.1
      rw [hheld] at hfree
      cases hfree
  | cons change between ih =>
      -- Until it is removed, the name stays held.
      cases change with
      | insertion other spec' =>
          refine List.mem_cons_of_mem _ (ih h.2 ?_)
          by_cases hname : name = other
          · rw [hname, Function.update_self]
          · rw [Function.update_of_ne hname, hheld]
      | removal other =>
          by_cases hname : name = other
          · rw [hname]
            exact List.mem_cons_self
          · refine List.mem_cons_of_mem _ (ih h.2 ?_)
            rw [Function.update_of_ne hname, hheld]
      | vainRemoval other => exact List.mem_cons_of_mem _ (ih h.2 hheld)

/-- A call asks for a change that is consistent with what the map holds. -/
lemma MapStep.consistent (h : MapStep k build m call result change m')
    (hrest : Consistent m'.holds after) : Consistent m.holds (change.toList ++ after) := by
  have hpresence {m : NameMap R} {name : String} {record : Option R}
      (hrecord : m.record name = record) : m.holds name = record.isSome := by
    rw [NameMap.holds, hrecord]
  cases h with
  | found hpresent => exact hrest
  | created habsent heffect =>
      rw [NameMap.holds_eq_update heffect] at hrest
      exact ⟨hpresence habsent, hrest⟩
  | got => exact hrest
  | listed => exact hrest
  | deleted hpresent heffect =>
      rw [NameMap.holds_eq_update heffect] at hrest
      exact ⟨hpresence hpresent, hrest⟩
  | missing habsent => exact ⟨hpresence habsent, hrest⟩
  | existed hpresent heffect =>
      rw [NameMap.holds_eq_update heffect] at hrest
      exact ⟨hpresence hpresent, hrest⟩
  | notExisted habsent => exact ⟨hpresence habsent, hrest⟩

/-- A call changes at most the record under its own name. -/
lemma MapStep.record_eq (h : MapStep k build m call result change m')
    (hname : call.name? ≠ some name) : m'.record name = m.record name := by
  have hother {m m' : NameMap R} {other : String} {record : Option R}
      (heffect : m'.record = Function.update m.record other record)
      (hother : some other ≠ some name) : m'.record name = m.record name := by
    rw [heffect, Function.update_of_ne]
    rintro rfl
    exact hother rfl
  cases h with
  | found hpresent => rfl
  | created habsent heffect => exact hother heffect hname
  | got => rfl
  | listed => rfl
  | deleted hpresent heffect => exact hother heffect hname
  | missing habsent => rfl
  | existed hpresent heffect => exact hother heffect hname
  | notExisted habsent => rfl

variable {calls : List (ResourceCall S)} {results : List (Except ArrayError (ResourceResult R))}
  {changes : List (MapChange S)}

lemma MapRun.consistent (h : MapRun k build m calls results changes m') :
    Consistent m.holds changes := by
  induction h with
  | nil m => trivial
  | cons first rest ih => exact first.consistent ih

/-- A name that no call is about keeps what is under it. -/
lemma MapRun.record_eq (h : MapRun k build m calls results changes m')
    (hname : ∀ call ∈ calls, call.name? ≠ some name) : m'.record name = m.record name := by
  induction h with
  | nil m => rfl
  | cons first rest ih =>
      rw [ih fun call hcall => hname call (List.mem_cons_of_mem _ hcall)]
      exact first.record_eq (hname _ List.mem_cons_self)

/-- Between two insertions under one name there is a removal. -/
lemma MapRun.removal_between {spec' : S}
    (h : MapRun k build m calls results (before ++ .insertion name spec ::
      (between ++ .insertion name spec' :: after)) m') : .removal name ∈ between := by
  obtain ⟨held, hheld, hrest⟩ := h.consistent.of_insertion
  exact hrest.removal_mem hheld

end Consistency

end StorageArray
