import Mathlib.Data.List.Forall2
import Mathlib.Tactic.Common
import StorageArray.Proofs.Operation
import StorageArray.Proofs.Sequence
import StorageArray.Replication.Basic
import StorageArray.Resource.Host
import StorageArray.Resource.MaskingView
import StorageArray.Resource.PortGroup
import StorageArray.Resource.StorageGroup
import StorageArray.Snapshot.Basic
/-!
# Records are read as they were written

A record is written as an object, and the object that is read back may hold more than what was
written: the array reports members that no shape declares, in the record itself and in the records
inside it, and it chooses the order.  `Shape.Carries` says that a value is of this kind for a given
record.

Reading a value that carries a record gives the record.  Two slips in a shape would break this: two
members of one name, and a value that may be null inside a value that may be null.
`Shape.isSound` excludes both; it is computed, and every shape of a record passes it.
-/

namespace StorageArray

variable {α ρ : Type}

namespace Json

/-- Where names are distinct, a member is what its name is looked up to. -/
lemma find?_eq_some_of_mem {name : String} {value : Json} {members : List (String × Json)}
    (hnames : (members.map Prod.fst).Nodup) (hmem : (name, value) ∈ members) :
    find? name members = some value := by
  induction members with
  | nil => cases hmem
  | cons member rest ih =>
      obtain ⟨n, v⟩ := member
      obtain ⟨hn, hrest⟩ := List.nodup_cons.1 hnames
      rw [find?_cons]
      rcases List.mem_cons.1 hmem with h | h
      · obtain ⟨rfl, rfl⟩ := Prod.mk.injEq .. ▸ h
        exact if_pos rfl
      · have hne : n ≠ name := by
          rintro rfl
          exact hn (List.mem_map.2 ⟨(n, value), h, rfl⟩)
        rw [if_neg hne]
        exact ih hrest h

end Json

/-! ## Sound shapes -/

/-- Null is one of the values. -/
def Shape.isNullable : Shape α → Bool
  | .optional _ => true
  | _ => false

mutual

/-- Members have distinct names, and what may be null is nowhere directly inside what may be
null. -/
def Shape.isSound {α : Type} : Shape α → Bool
  | .optional shape => !shape.isNullable && shape.isSound
  | .list shape => shape.isSound
  | .record _ fields _ _ _ => fields.isSound
  | _ => true

/-- The same of the declared members. -/
def Fields.isSound {ρ : Type} : Fields ρ → Bool
  | .nil => true
  | .cons name _ shape rest => !rest.names.contains name && shape.isSound && rest.isSound

end

/-! ## Values that carry a record -/

mutual

/-- The value is what is written for the given one, up to order and further members: an object
holds every declared member with a value that carries the value of this member, and its names are
distinct. -/
def Shape.Carries {α : Type} : Shape α → Json → α → Prop
  | .text, v, s => v = .string s
  | .identifier _, v, i => v = .string i.text
  | .flag, v, b => v = .bool b
  | .real, v, x => v = .number (.real x)
  | .word32, v, n => v = .nat n.toNat
  | .word64, v, n => v = .nat n.toNat
  | .choice _ name _, v, a => v = .string (name a)
  | .optional shape, v, a => match a with
    | none => v = .null
    | some a => shape.Carries v a
  | .list shape, v, as => ∃ items, v = .array items ∧ List.Forall₂ shape.Carries items as
  | .record _ fields _ parts _, v, a => ∃ members, v = .object members ∧
      (members.map Prod.fst).Nodup ∧ fields.Carries members (parts a)

/-- Every declared member is there, with a value that carries its part. -/
def Fields.Carries {ρ : Type} : Fields ρ → List (String × Json) → ρ → Prop
  | .nil, _, _ => True
  | .cons name _ shape rest, members, (a, r) =>
    (∃ v, (name, v) ∈ members ∧ shape.Carries v a) ∧ rest.Carries members r

end

lemma Fields.isSound_cons {name : String} {presence : Presence} {shape : Shape α}
    {rest : Fields ρ} :
    (cons name presence shape rest).isSound ↔
      name ∉ rest.names ∧ shape.isSound ∧ rest.isSound := by
  simp [isSound, and_assoc]

lemma Fields.carries_cons {name : String} {presence : Presence} {shape : Shape α}
    {rest : Fields ρ} {members : List (String × Json)} {a : α} {r : ρ} :
    (cons name presence shape rest).Carries members (a, r) ↔
      (∃ v, (name, v) ∈ members ∧ shape.Carries v a) ∧ rest.Carries members r := .rfl

lemma Fields.Carries.mono {members more : List (String × Json)} (hsub : members ⊆ more) :
    ∀ {ρ : Type} {fields : Fields ρ} {r : ρ}, fields.Carries members r → fields.Carries more r
  | _, .nil, _, _ => trivial
  | _, .cons _ _ _ _, (_, _), h => by
      obtain ⟨⟨v, hmem, hv⟩, hrest⟩ := carries_cons.1 h
      exact carries_cons.2 ⟨⟨v, hsub hmem, hv⟩, hrest.mono hsub⟩

/-- Neither further members nor another order do any harm. -/
lemma Shape.Carries.mono {members more : List (String × Json)} (hsub : members ⊆ more)
    (hnames : (more.map Prod.fst).Nodup) : ∀ {α : Type} {shape : Shape α} {a : α},
    shape.Carries (.object members) a → shape.Carries (.object more) a
  | _, .text, _, h | _, .identifier _, _, h | _, .flag, _, h | _, .real, _, h
  | _, .word32, _, h | _, .word64, _, h | _, .choice .., _, h | _, .optional _, none, h => nomatch h
  | _, .optional shape, some a, h => by
      have hshape : shape.Carries (.object members) a := h
      exact hshape.mono hsub hnames
  | _, .list _, _, h => by
      obtain ⟨_, h, -⟩ := h
      cases h
  | _, .record .., _, h => by
      obtain ⟨_, hobject, -, hfields⟩ := h
      cases hobject
      exact ⟨more, rfl, hnames, hfields.mono hsub⟩

/-! ## What is written carries the record -/

lemma Fields.map_fst_encode : ∀ {ρ : Type} (fields : Fields ρ) (r : ρ),
    (fields.encode r).map Prod.fst = fields.names
  | _, .nil, _ => rfl
  | _, .cons name _ _ rest, (_, r) => congrArg (name :: ·) (rest.map_fst_encode r)

lemma Fields.nodup_names : ∀ {ρ : Type} {fields : Fields ρ}, fields.isSound → fields.names.Nodup
  | _, .nil, _ => .nil
  | _, .cons _ _ _ _, h => by
      obtain ⟨hname, -, hrest⟩ := isSound_cons.1 h
      exact List.nodup_cons.2 ⟨hname, nodup_names hrest⟩

mutual

lemma Shape.carries_encode : ∀ {α : Type} {shape : Shape α}, shape.isSound → ∀ a : α,
    shape.Carries (shape.encode a) a
  | _, .text, _, _ | _, .identifier _, _, _ | _, .flag, _, _ | _, .real, _, _
  | _, .word32, _, _ | _, .word64, _, _ | _, .choice .., _, _ => rfl
  | _, .optional _, _, none => rfl
  | _, .optional _, h, some a => Shape.carries_encode (Bool.and_eq_true_iff.1 h).2 a
  | _, .list shape, h, as => by
      have hshape : shape.isSound := h
      exact ⟨_, rfl, List.forall₂_map_left_iff.2
        (List.forall₂_same.2 fun a _ => Shape.carries_encode hshape a)⟩
  | _, .record _ fields _ parts _, h, a =>
      ⟨_, rfl, fields.map_fst_encode (parts a) ▸ Fields.nodup_names h,
        Fields.carries_encode h (parts a)⟩

lemma Fields.carries_encode : ∀ {ρ : Type} {fields : Fields ρ}, fields.isSound → ∀ r : ρ,
    fields.Carries (fields.encode r) r
  | _, .nil, _, _ => trivial
  | _, .cons _ _ _ rest, h, (a, r) => by
      obtain ⟨-, hshape, hrest⟩ := Fields.isSound_cons.1 h
      refine Fields.carries_cons.2 ⟨⟨_, List.mem_cons_self, Shape.carries_encode hshape a⟩, ?_⟩
      exact (Fields.carries_encode hrest r).mono (List.subset_cons_self ..)

end

/-! ## What carries a record is read as this record -/

lemma Fields.decodeMembers_cons {name : String} {presence : Presence} {shape : Shape α}
    {rest : Fields ρ} {members : List (String × Json)} {v : Json} {a : α} {r : ρ}
    (hnames : (members.map Prod.fst).Nodup) (hmem : (name, v) ∈ members) :
    (cons name presence shape rest).decodeMembers members = .ok (a, r) ↔
      shape.decode v = .ok a ∧ rest.decodeMembers members = .ok r := by
  simp only [decodeMembers, Json.find?_eq_some_of_mem hnames hmem]
  exact pair_eq_ok_iff

/-- Where the declared members have values, the first one has the value that stands under its name,
or need not be there. -/
lemma Fields.of_decodeMembers_cons {name : String} {presence : Presence} {shape : Shape α}
    {rest : Fields ρ} {members : List (String × Json)} {a : α} {r : ρ}
    (h : (cons name presence shape rest).decodeMembers members = .ok (a, r)) :
    (match Json.find? name members with
      | some v => shape.decode v = .ok a
      | none => presence = .defaulted ∧ a = shape.blank) ∧
      rest.decodeMembers members = .ok r := by
  simp only [decodeMembers] at h
  split at h
  · rename_i v hfind
    rw [hfind]
    exact pair_eq_ok_iff.1 h
  · rename_i hfind
    rw [hfind]
    obtain ⟨hblank, hrest⟩ := pair_eq_ok_iff.1 h
    exact ⟨⟨rfl, (Except.ok.inj hblank).symm⟩, hrest⟩
  · cases (pair_eq_ok_iff.1 h).1

/-- Where the declared members have values, no member is bad: the one that is checked under a
declared name is the one that is read under it. -/
lemma Fields.check_of_decodeMembers {members : List (String × Json)} {n : String} {v : Json}
    (hnames : (members.map Prod.fst).Nodup) (hmem : (n, v) ∈ members) :
    ∀ {ρ : Type} {fields : Fields ρ} {r : ρ}, fields.decodeMembers members = .ok r →
      fields.check n v = .ok ()
  | _, .nil, _, _ => rfl
  | _, .cons name presence shape rest, (a, r), h => by
      rw [check]
      split_ifs with hname
      · subst hname
        obtain ⟨hshape, -⟩ := (decodeMembers_cons hnames hmem).1 h
        rw [hshape]
        rfl
      · exact check_of_decodeMembers hnames hmem (of_decodeMembers_cons h).2

lemma Shape.decode_object {name : String} {fields : Fields ρ} {make : ρ → α} {parts : α → ρ}
    {make_parts : ∀ a, make (parts a) = a} {members : List (String × Json)} {r : ρ}
    (hnames : (members.map Prod.fst).Nodup) (h : fields.decodeMembers members = .ok r) :
    (record name fields make parts make_parts).decode (.object members) = .ok (make r) := by
  have hcheck : members.forM (fun member => fields.check member.1 member.2) = .ok () :=
    forM_eq_ok fun _ hmem => Fields.check_of_decodeMembers hnames hmem h
  change (members.forM (fun member => fields.check member.1 member.2) >>= fun _ =>
    fields.decodeMembers members >>= fun r => pure (make r)) = .ok (make r)
  rw [hcheck, h]
  rfl

lemma decodeWord_nat {bound n : Nat} {wanted : String} (h : n < bound) :
    decodeWord bound wanted (.nat n) = .ok n := by
  simp [decodeWord, Json.nat, h]

/-- Only what may be null is written as null. -/
lemma Shape.ne_null_of_carries : ∀ {α : Type} {shape : Shape α} {v : Json} {a : α},
    !shape.isNullable → shape.Carries v a → v ≠ .null
  | _, .text, _, _, _, h | _, .identifier _, _, _, _, h | _, .flag, _, _, _, h
  | _, .real, _, _, _, h | _, .word32, _, _, _, h | _, .word64, _, _, _, h
  | _, .choice .., _, _, _, h => by
      rw [h]
      exact Json.noConfusion
  | _, .list _, _, _, _, h | _, .record .., _, _, _, h => by
      obtain ⟨_, rfl, -⟩ := h
      exact Json.noConfusion

lemma Shape.decode_optional {shape : Shape α} {v : Json} (h : v ≠ .null) :
    shape.optional.decode v = (shape.decode v).map some := by
  cases v with
  | null => exact absurd rfl h
  | _ => rfl

mutual

lemma Shape.decode_of_carries : ∀ {α : Type} {shape : Shape α} {v : Json} {a : α},
    shape.isSound → shape.Carries v a → shape.decode v = .ok a
  | _, .text, _, _, _, h | _, .identifier _, _, _, _, h | _, .flag, _, _, _, h
  | _, .real, _, _, _, h => by
      rw [h]
      rfl
  | _, .word32, _, n, _, h => by
      rw [h, Shape.decode, decodeWord_nat n.toNat_lt, Except.map, UInt32.ofNat_toNat]
  | _, .word64, _, n, _, h => by
      rw [h, Shape.decode, decodeWord_nat n.toNat_lt, Except.map, UInt64.ofNat_toNat]
  | _, .choice ofName name ofName_name, _, a, _, h => by
      rw [h]
      exact congrArg Except.ok (ofName_name a)
  | _, .optional _, _, none, _, h => by
      rw [h]
      rfl
  | _, .optional shape, v, some a, hsound, h => by
      obtain ⟨hnull, hshape⟩ := Bool.and_eq_true_iff.1 hsound
      have hv : v ≠ .null := Shape.ne_null_of_carries hnull h
      rw [Shape.decode_optional hv, Shape.decode_of_carries hshape h, Except.map]
  | _, .list shape, _, as, hsound, h => by
      obtain ⟨items, rfl, hitems⟩ := h
      have hshape : shape.isSound := hsound
      exact mapM_eq_ok_iff.2 (hitems.imp fun _ _ h => Shape.decode_of_carries hshape h)
  | _, .record _ fields make parts make_parts, _, a, hsound, h => by
      obtain ⟨members, rfl, hnames, hmembers⟩ := h
      rw [Shape.decode_object hnames (Fields.decodeMembers_of_carries hsound hnames hmembers),
        make_parts]

lemma Fields.decodeMembers_of_carries : ∀ {ρ : Type} {fields : Fields ρ}
    {members : List (String × Json)} {r : ρ}, fields.isSound →
    (members.map Prod.fst).Nodup → fields.Carries members r → fields.decodeMembers members = .ok r
  | _, .nil, _, _, _, _, _ => rfl
  | _, .cons _ _ _ _, _, (_, _), hsound, hnames, h => by
      obtain ⟨-, hshape, hrest⟩ := Fields.isSound_cons.1 hsound
      obtain ⟨⟨v, hmem, hv⟩, hmembers⟩ := Fields.carries_cons.1 h
      exact (Fields.decodeMembers_cons hnames hmem).2
        ⟨Shape.decode_of_carries hshape hv,
          Fields.decodeMembers_of_carries hrest hnames hmembers⟩

end

/-! ## The records of the array -/

/-- The kinds of records that the array reports. -/
inductive RecordKind : Type → Type 1 where
  | job : RecordKind JobRecord
  | storageGroup : RecordKind StorageGroup
  | host : RecordKind Host
  | portGroup : RecordKind PortGroup
  | port : RecordKind PortKey
  | maskingView : RecordKind MaskingView
  | volume : RecordKind Volume
  | volumeReplication : RecordKind VolumeReplication
  | snapshot : RecordKind SnapshotInfo
  | generation : RecordKind GenerationInfo
  | linkedDevice : RecordKind LinkedDevice
  | replicationGroup : RecordKind ReplicationGroup
  | devicePair : RecordKind DevicePair
  | replicationState : RecordKind ReplicationState

namespace RecordKind

/-- How records of the kind are written. -/
def shape : RecordKind α → Shape α
  | job => JobRecord.shape
  | storageGroup => StorageGroup.shape
  | host => Host.shape
  | portGroup => PortGroup.shape
  | port => PortKey.shape
  | maskingView => MaskingView.shape
  | volume => Volume.shape
  | volumeReplication => VolumeReplication.shape
  | snapshot => SnapshotInfo.shape
  | generation => GenerationInfo.shape
  | linkedDevice => LinkedDevice.shape
  | replicationGroup => ReplicationGroup.shape
  | devicePair => DevicePair.shape
  | replicationState => ReplicationState.shape

lemma isSound_shape (kind : RecordKind α) : kind.shape.isSound := by
  cases kind <;> decide

end RecordKind

/-- **Records are read as they were written.**  What is written for a record carries it, and goes on
to do so when the object gets further members or another order; the same holds of the records
inside.  Whatever carries a record is read as exactly this record.  So a body that was read as a
record may be replaced by what is written for the record. -/
theorem decode_undoes_encode (kind : RecordKind α) (r : α) :
    kind.shape.Carries (kind.shape.encode r) r ∧
      (∀ members more, kind.shape.Carries (.object members) r → members ⊆ more →
        (more.map Prod.fst).Nodup → kind.shape.Carries (.object more) r) ∧
      (∀ v, kind.shape.Carries v r → kind.shape.decode v = .ok r) ∧
      ∀ body, kind.shape.decode body = .ok r → kind.shape.decode (kind.shape.encode r) = .ok r := by
  have hcarries : kind.shape.Carries (kind.shape.encode r) r :=
    Shape.carries_encode kind.isSound_shape r
  have hdecode (v : Json) (h : kind.shape.Carries v r) : kind.shape.decode v = .ok r :=
    Shape.decode_of_carries kind.isSound_shape h
  exact ⟨hcarries, fun _ _ h hsub hnames => h.mono hsub hnames, hdecode,
    fun _ _ => hdecode _ hcarries⟩

/-- A port group as the array reports it: sorted members, with members that no shape declares in the
group and in its port. -/
theorem decode_undoes_encode_with_further_members :
    let group : PortGroup := ⟨"PG1", [⟨"FA-1D", "4"⟩], ["MV1", "MV2"]⟩
    let members : List (String × Json) := [
      ("maskingview", .strings ["MV1", "MV2"]),
      ("num_of_ports", .nat 1),
      ("portGroupId", .string "PG1"),
      ("symmetrixPortKey", .array [.object [
        ("directorId", .string "FA-1D"), ("online", .null), ("portId", .string "4")]])]
    PortGroup.shape.Carries (.object members) group ∧
      PortGroup.shape.decode (.object members) = .ok group ∧
      PortGroup.shape.decode (PortGroup.shape.encode group) = .ok group := by
  intro group members
  have hport : PortKey.shape.Carries (.object [
      ("directorId", .string "FA-1D"), ("online", .null), ("portId", .string "4")])
      ⟨"FA-1D", "4"⟩ :=
    ⟨_, rfl, by decide, ⟨_, .head _, rfl⟩, ⟨_, .tail _ (.tail _ (.head _)), rfl⟩, trivial⟩
  have hcarries : PortGroup.shape.Carries (.object (members.filter (·.1 ≠ "num_of_ports"))) group :=
    ⟨_, rfl, by decide, ⟨_, .tail _ (.head _), rfl⟩,
      ⟨_, .tail _ (.tail _ (.head _)), _, rfl, .cons hport .nil⟩,
      ⟨_, .head _, _, rfl, .cons rfl (.cons rfl .nil)⟩, trivial⟩
  obtain ⟨-, hmore, hread, hagain⟩ := decode_undoes_encode .portGroup group
  have hall := hmore _ members hcarries List.filter_sublist.subset (by decide)
  exact ⟨hall, hread _ hall, hagain _ (hread _ hall)⟩

end StorageArray
