import Mathlib.Tactic.Common
import StorageArray.Proofs.Wire.RoundTrip
/-!
# Identifiers in records

An identifier inside of a record is written as its text.  `Shape.identifiersIn` collects the texts
that a body has in the places of identifiers, and `Shape.identifiersOf` those of the identifiers in
a value.  A value that is read from a body has the texts of the body, each as it stands there
(`Shape.identifiersOf_of_decode`).

This needs of a shape that a record is taken apart into what it was made of, and that what is
missing in the body does not show up as an identifier.  The shapes of all records are of this kind.
-/

namespace StorageArray

variable {α ρ : Type}

mutual

/-- The texts of the identifiers in a value, in the order of the declarations. -/
def Shape.identifiersOf {α : Type} : Shape α → α → List String
  | .identifier _, i => [i.text]
  | .optional shape, a => match a with
    | none => []
    | some a => shape.identifiersOf a
  | .list shape, as => as.flatMap shape.identifiersOf
  | .record _ fields _ parts _, a => fields.identifiersOf (parts a)
  | _, _ => []

/-- The texts of the identifiers in the values of the members. -/
def Fields.identifiersOf {ρ : Type} : Fields ρ → ρ → List String
  | .nil, _ => []
  | .cons _ _ shape rest, (a, r) => shape.identifiersOf a ++ rest.identifiersOf r

end

mutual

/-- The texts that a JSON value has in the places of identifiers. -/
def Shape.identifiersIn {α : Type} : Shape α → Json → List String
  | .identifier _, v => match v with
    | .string s => [s]
    | _ => []
  | .optional shape, v => match v with
    | .null => []
    | _ => shape.identifiersIn v
  | .list shape, v => match v with
    | .array items => items.flatMap shape.identifiersIn
    | _ => []
  | .record _ fields _ _ _, v => match v with
    | .object members => fields.identifiersInMembers members
    | .array items => fields.identifiersInItems items
    | _ => []
  | _, _ => []

/-- The same for the declared members among the members of an object. -/
def Fields.identifiersInMembers {ρ : Type} : Fields ρ → List (String × Json) → List String
  | .nil, _ => []
  | .cons name _ shape rest, members =>
    (match Json.find? name members with
      | some v => shape.identifiersIn v
      | none => []) ++ rest.identifiersInMembers members

/-- The same for the declared members in the items of an array. -/
def Fields.identifiersInItems {ρ : Type} : Fields ρ → List Json → List String
  | .nil, _ => []
  | .cons _ _ _ _, [] => []
  | .cons _ _ shape rest, v :: items => shape.identifiersIn v ++ rest.identifiersInItems items

end

mutual

/-- A record is taken apart into what it was made of, and a member that need not be there brings no
identifier when it is not. -/
def Shape.KeepsIdentifiers {α : Type} : Shape α → Prop
  | .optional shape => shape.KeepsIdentifiers
  | .list shape => shape.KeepsIdentifiers
  | .record _ fields make parts _ => (∀ r, parts (make r) = r) ∧ fields.KeepsIdentifiers
  | _ => True

/-- The same of the declared members. -/
def Fields.KeepsIdentifiers {ρ : Type} : Fields ρ → Prop
  | .nil => True
  | .cons _ presence shape rest =>
    (presence = .defaulted → shape.identifiersOf shape.blank = []) ∧ shape.KeepsIdentifiers ∧
      rest.KeepsIdentifiers

end

namespace RecordKind

lemma keepsIdentifiers_shape (kind : RecordKind α) : kind.shape.KeepsIdentifiers := by
  cases kind <;>
    simp [shape, JobRecord.shape, JobStatus.shape, StorageGroup.shape, Host.shape,
      PortGroup.shape, PortKey.shape, MaskingView.shape, Volume.shape, VolumeReplication.shape,
      SnapshotInfo.shape, GenerationInfo.shape, LinkedDevice.shape, ReplicationGroup.shape,
      DevicePair.shape, ReplicationState.shape, Shape.KeepsIdentifiers, Fields.KeepsIdentifiers,
      Shape.identifiersOf, Shape.blank]

end RecordKind

/-! ### What is read -/

lemma flatMap_eq_of_forall₂ {ι κ β : Type} {f : ι → List β} {g : κ → List β} {as : List ι}
    {bs : List κ} (h : List.Forall₂ (fun a b => f a = g b) as bs) :
    as.flatMap f = bs.flatMap g := by
  induction h with
  | nil => rfl
  | cons hhead _ ih => rw [List.flatMap_cons, List.flatMap_cons, hhead, ih]

lemma Shape.identifiersIn_optional {shape : Shape α} {v : Json} (h : v ≠ .null) :
    shape.optional.identifiersIn v = shape.identifiersIn v := by
  cases v with
  | null => exact absurd rfl h
  | _ => rfl

lemma Fields.of_decodeItems_cons_nil {name record : String} {presence : Presence} {shape : Shape α}
    {rest : Fields ρ} {size position length : Nat} {a : α} {r : ρ}
    (h : (cons name presence shape rest).decodeItems record size position length [] = .ok (a, r)) :
    presence = .defaulted ∧ a = shape.blank ∧
      rest.decodeItems record size (position + 1) length [] = .ok r := by
  simp only [decodeItems] at h
  cases presence with
  | required => cases h
  | defaulted =>
      obtain ⟨hblank, hrest⟩ := pair_eq_ok_iff.1 h
      exact ⟨rfl, (Except.ok.inj hblank).symm, hrest⟩

lemma Fields.identifiersInItems_nil (fields : Fields ρ) : fields.identifiersInItems [] = [] := by
  cases fields <;> rfl

mutual

lemma Shape.identifiersOf_of_decode : ∀ {α : Type} {shape : Shape α}, shape.KeepsIdentifiers →
    ∀ {v : Json} {a : α}, shape.decode v = .ok a → shape.identifiersOf a = shape.identifiersIn v
  | _, .text, _, _, _, _ | _, .flag, _, _, _, _ | _, .real, _, _, _, _ | _, .word32, _, _, _, _
  | _, .word64, _, _, _, _ | _, .choice .., _, _, _, _ => rfl
  | _, .identifier _, _, v, _, h => by
      cases v with
      | string s => cases h; rfl
      | _ => cases h
  | _, .optional shape, hkeeps, v, a, h => by
      by_cases hnull : v = .null
      · subst hnull
        cases h
        rfl
      · rw [Shape.decode_optional hnull] at h
        obtain ⟨b, hb, rfl⟩ := map_eq_ok_iff.1 h
        have hshape : shape.KeepsIdentifiers := hkeeps
        have hread : shape.identifiersOf b = shape.identifiersIn v :=
          Shape.identifiersOf_of_decode hshape hb
        rw [Shape.identifiersIn_optional hnull, ← hread]
        rfl
  | _, .list shape, hkeeps, v, as, h => by
      cases v with
      | array items =>
          have hshape : shape.KeepsIdentifiers := hkeeps
          exact (flatMap_eq_of_forall₂ ((mapM_eq_ok_iff.1 h).imp fun _ _ hitem =>
            (Shape.identifiersOf_of_decode hshape hitem).symm)).symm
      | _ => cases h
  | _, .record name fields make parts _, hkeeps, v, a, h => by
      obtain ⟨hparts, hfields⟩ := hkeeps
      cases v with
      | object members =>
          -- The check for members that are there twice comes first, and gives no value.
          obtain ⟨_, -, h⟩ := Operation.except_bind_eq_ok_iff.1 h
          obtain ⟨r, hr, h⟩ := Operation.except_bind_eq_ok_iff.1 h
          obtain rfl := Except.ok.inj h
          rw [Shape.identifiersOf, hparts, Fields.identifiersOf_of_decodeMembers hfields hr]
          rfl
      | array items =>
          obtain ⟨r, hr, h⟩ := Operation.except_bind_eq_ok_iff.1 h
          obtain rfl := Except.ok.inj h
          rw [Shape.identifiersOf, hparts, Fields.identifiersOf_of_decodeItems hfields hr]
          rfl
      | _ => cases h

lemma Fields.identifiersOf_of_decodeMembers : ∀ {ρ : Type} {fields : Fields ρ},
    fields.KeepsIdentifiers → ∀ {members : List (String × Json)} {r : ρ},
    fields.decodeMembers members = .ok r →
      fields.identifiersOf r = fields.identifiersInMembers members
  | _, .nil, _, _, _, _ => rfl
  | _, .cons name presence shape rest, hkeeps, members, (a, r), h => by
      obtain ⟨hblank, hshape, hrest⟩ := hkeeps
      obtain ⟨hmember, h⟩ := Fields.of_decodeMembers_cons h
      rw [Fields.identifiersOf, Fields.identifiersInMembers,
        Fields.identifiersOf_of_decodeMembers hrest h]
      congr 1
      cases hfind : Json.find? name members with
      | some v =>
          rw [hfind] at hmember
          exact Shape.identifiersOf_of_decode hshape hmember
      | none =>
          -- The value is then the blank one, in which there is no identifier.
          rw [hfind] at hmember
          obtain ⟨hpresence, rfl⟩ := hmember
          exact hblank hpresence

lemma Fields.identifiersOf_of_decodeItems : ∀ {ρ : Type} {fields : Fields ρ},
    fields.KeepsIdentifiers →
    ∀ {record : String} {size position length : Nat} {items : List Json} {r : ρ},
    fields.decodeItems record size position length items = .ok r →
      fields.identifiersOf r = fields.identifiersInItems items
  | _, .nil, _, _, _, _, _, _, _, _ => rfl
  | _, .cons .., hkeeps, _, _, _, _, [], (a, r), h => by
      obtain ⟨hblank, -, hrest⟩ := hkeeps
      obtain ⟨hpresence, rfl, hr⟩ := Fields.of_decodeItems_cons_nil h
      rw [Fields.identifiersOf, Fields.identifiersInItems, hblank hpresence,
        Fields.identifiersOf_of_decodeItems hrest hr, Fields.identifiersInItems_nil]
      rfl
  | _, .cons .., hkeeps, _, _, _, _, v :: items, (a, r), h => by
      obtain ⟨-, hshape, hrest⟩ := hkeeps
      obtain ⟨hb, hr⟩ := pair_eq_ok_iff.1 h
      rw [Fields.identifiersOf, Fields.identifiersInItems, Shape.identifiersOf_of_decode hshape hb,
        Fields.identifiersOf_of_decodeItems hrest hr]

end

end StorageArray
