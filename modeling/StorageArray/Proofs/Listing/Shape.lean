import Mathlib.Tactic.Common
import StorageArray.Listing
import StorageArray.Proofs.Sequence
/-!
# The two shapes of a listing

An array lists identifiers in one of two shapes: in an array under a key, or in an envelope with one
entry for each.  `Listing.Plain` and `Listing.Enveloped` say that a body lists given values in the
one or the other shape, whatever else it holds: further members, and in an envelope also entries
that do not have the key.

What is read depends on the values alone.  Each of them has to be an identifier (`Renders`); the
texts are then given in order, and otherwise the first value that is none is reported.
-/

namespace StorageArray.Listing

variable {key : String} {value : Json} {values : List Json} {body : Json} {text : String}
  {texts : List String} {e : ArrayError}

/-! ### Identifiers -/

/-- The value is an identifier with this text: a text is its own, and a number is written in its
own notation. -/
inductive Renders : Json → String → Prop
  | text (s : String) : Renders (.string s) s
  | number (n : JsonNumber) : Renders (.number n) (Json.numberText n)

/-- The value is an identifier. -/
def IsIdentifier (value : Json) : Prop := ∃ text, Renders value text

/-- The error for a value under the key that is no identifier. -/
def notAnIdentifier (key : String) (value : Json) : ArrayError :=
  .unexpectedResponse (key ++ " listing") ("expected an identifier, found " ++ value.compact)

lemma idOf_eq_ok_iff {context : String} : idOf context value = .ok text ↔ Renders value text := by
  constructor
  · intro h
    unfold idOf at h
    split at h
    · cases h
      exact .text _
    · cases h
      exact .number _
    · cases h
  · intro h
    cases h <;> rfl

lemma idOf_eq_error_iff :
    idOf (key ++ " listing") value = .error e ↔
      ¬ IsIdentifier value ∧ e = notAnIdentifier key value := by
  constructor
  · intro h
    refine ⟨fun ⟨text, htext⟩ => ?_, ?_⟩
    · rw [idOf_eq_ok_iff.2 htext] at h
      cases h
    · unfold idOf at h
      split at h
      · cases h
      · cases h
      · exact (Except.error.inj h).symm
  · rintro ⟨hvalue, rfl⟩
    unfold idOf
    split
    · exact absurd ⟨_, .text _⟩ hvalue
    · exact absurd ⟨_, .number _⟩ hvalue
    · rfl

/-! ### Shapes -/

/-- The body has the values in an array under the key, and no envelope. -/
structure Plain (key : String) (values : List Json) (body : Json) : Prop where
  /-- The array under the key. -/
  items : body.member? key = some (.array values)
  /-- Other members are free, but for the one that would hold an envelope. -/
  resultList : key ≠ "resultList" → body.member? "resultList" = none

/-- Of the entries, those that have the key have these values there, in order. -/
inductive Entries (key : String) : List Json → List Json → Prop
  | nil : Entries key [] []
  | value {entry v : Json} {entries values : List Json} (hentry : entry.member? key = some v)
      (rest : Entries key entries values) : Entries key (entry :: entries) (v :: values)
  | other {entry : Json} {entries values : List Json} (hentry : entry.member? key = none)
      (rest : Entries key entries values) : Entries key (entry :: entries) values

/-- The body has the values in the entries of an envelope. -/
inductive Enveloped (key : String) (values : List Json) (body : Json) : Prop
  | intro {list : Json} {entries : List Json} (hlist : body.member? "resultList" = some list)
      (hresult : list.member? "result" = some (.array entries))
      (hentries : Entries key entries values) : Enveloped key values body

/-- The body lists the values in one of the two shapes. -/
def InEitherShape (key : String) (values : List Json) (body : Json) : Prop :=
  Plain key values body ∨ Enveloped key values body

/-- The envelope of a list of values. -/
def envelopeOf (key : String) (values : List Json) : Json :=
  .object [("resultList", .object [("result", .array (values.map fun v => .object [(key, v)]))])]

lemma plain_object (key : String) (values : List Json) :
    Plain key values (.object [(key, .array values)]) := by
  refine ⟨?_, fun hkey => ?_⟩
  · rw [Json.member?_object, Json.find?_cons, if_pos rfl]
  · rw [Json.member?_object, Json.find?_cons, if_neg hkey, Json.find?_nil]

lemma enveloped_envelopeOf (key : String) (values : List Json) :
    Enveloped key values (envelopeOf key values) := by
  refine .intro rfl rfl ?_
  induction values with
  | nil => exact .nil
  | cons v values ih =>
      refine .value ?_ ih
      rw [Json.member?_object, Json.find?_cons, if_pos rfl]

lemma Entries.filterMap_eq {entries : List Json} (h : Entries key entries values) :
    entries.filterMap (·.member? key) = values := by
  induction h with
  | nil => rfl
  | value hentry _ ih => simp only [List.filterMap_cons, hentry, ih]
  | other hentry _ ih => simp only [List.filterMap_cons, hentry, ih]

/-! ### Reading -/

lemma exists_object_of_member? {name : String} (h : body.member? name = some value) :
    ∃ members, body = .object members := by
  cases body with
  | object members => exact ⟨members, rfl⟩
  | _ => cases h

/-- An array under the key is read item by item. -/
lemma listed_of_items (hitems : body.member? key = some (.array values))
    (hplain : envelope? body = none) :
    listed key body = values.mapM (idOf (key ++ " listing")) := by
  obtain ⟨members, rfl⟩ := exists_object_of_member? hitems
  simp only [listed, hplain, hitems]

/-- An envelope is read entry by entry. -/
lemma listed_of_envelope {entries : List Json} (h : envelope? body = some entries) :
    listed key body =
      (entries.filterMap (·.member? key)).mapM (idOf (key ++ " listing")) := by
  obtain ⟨members, rfl⟩ : ∃ members, body = .object members := by
    cases body with
    | object members => exact ⟨members, rfl⟩
    | _ => cases h
  simp only [listed, h]

/-- In either shape a listing is its values, read one after the other. -/
lemma InEitherShape.listed_eq (h : InEitherShape key values body) :
    listed key body = values.mapM (idOf (key ++ " listing")) := by
  rcases h with ⟨hitems, hresultList⟩ | ⟨hlist, hresult, hentries⟩
  · refine listed_of_items hitems ?_
    -- Under the key `resultList` stands an array then, and an array has no members.
    by_cases hkey : key = "resultList"
    · subst hkey
      rw [envelope?, hitems]
      rfl
    · rw [envelope?, hresultList hkey]
      rfl
  · rw [listed_of_envelope (by rw [envelope?, hlist, Option.bind_some, hresult]),
      hentries.filterMap_eq]

lemma InEitherShape.listed_eq_ok_iff (h : InEitherShape key values body) :
    listed key body = .ok texts ↔ List.Forall₂ Renders values texts := by
  rw [h.listed_eq, mapM_eq_ok_iff]
  simp only [idOf_eq_ok_iff]

lemma InEitherShape.listed_eq_error_iff (h : InEitherShape key values body) :
    listed key body = .error e ↔ ∃ before value after, values = before ++ value :: after ∧
      (∀ v ∈ before, IsIdentifier v) ∧ ¬ IsIdentifier value ∧ e = notAnIdentifier key value := by
  rw [h.listed_eq, mapM_eq_error_iff]
  simp only [idOf_eq_ok_iff, idOf_eq_error_iff, IsIdentifier]

/-- **The two shapes of a listing are read alike, and nothing is lost.**  From the values in an
array under the key comes the text of each, in order, when all of them are texts or numbers, and
otherwise the error for the first that is neither.  From an envelope with an entry for each value
comes the same, and so it does from every body that has the values in one of the two shapes,
whatever else it holds. -/
theorem listed_alike_in_either_shape (key : String) (values : List Json) :
    let flat : Json := .object [(key, .array values)]
    (∀ texts, listed key flat = .ok texts ↔ List.Forall₂ Renders values texts) ∧
    (∀ e, listed key flat = .error e ↔ ∃ before value after, values = before ++ value :: after ∧
      (∀ v ∈ before, IsIdentifier v) ∧ ¬ IsIdentifier value ∧ e = notAnIdentifier key value) ∧
    listed key (envelopeOf key values) = listed key flat ∧
    Plain key values flat ∧ Enveloped key values (envelopeOf key values) ∧
    (∀ body, Plain key values body → listed key body = listed key flat) ∧
    ∀ body, Enveloped key values body → listed key body = listed key (envelopeOf key values) := by
  intro flat
  have hflat : Plain key values flat := plain_object key values
  have henvelope : Enveloped key values (envelopeOf key values) := enveloped_envelopeOf key values
  have halike {body body' : Json} (h : InEitherShape key values body)
      (h' : InEitherShape key values body') : listed key body = listed key body' := by
    rw [h.listed_eq, h'.listed_eq]
  refine ⟨fun texts => ?_, fun e => ?_, halike (.inr henvelope) (.inl hflat), hflat, henvelope,
    fun body hbody => halike (.inl hbody) (.inl hflat),
    fun body hbody => halike (.inr hbody) (.inr henvelope)⟩
  · exact InEitherShape.listed_eq_ok_iff (.inl hflat)
  · exact InEitherShape.listed_eq_error_iff (.inl hflat)

/-- A truth value among identifiers is found in an envelope, beside a member under the key and among
entries that do not have it, and in an array beside another member. -/
theorem listed_alike_in_either_shape_among_others :
    let values : List Json := [.string "0012A", .nat 7, .bool true, .null]
    let entries : List Json := [
      .object [("capacity", .nat 4), ("volumeId", .string "0012A")], .object [("note", .null)],
      .object [("volumeId", .nat 7)], .string "volumeId", .object [("volumeId", .bool true)],
      .object [("volumeId", .null), ("wwn", .string "6000")]]
    let enveloped : Json := .object [("count", .nat 4),
      ("resultList", .object [("from", .nat 1), ("result", .array entries)]),
      ("volumeId", .string "0034F")]
    let plain : Json := .object [("count", .nat 4), ("volumeId", .array values)]
    Enveloped "volumeId" values enveloped ∧ Plain "volumeId" values plain ∧
      listed "volumeId" enveloped = .error (notAnIdentifier "volumeId" (.bool true)) ∧
      listed "volumeId" plain = .error (notAnIdentifier "volumeId" (.bool true)) := by
  intro values entries enveloped plain
  have hentries : Entries "volumeId" entries values :=
    .value rfl <| .other rfl <| .value rfl <| .other rfl <| .value rfl <| .value rfl .nil
  have henveloped : Enveloped "volumeId" values enveloped := .intro rfl rfl hentries
  have hplain : Plain "volumeId" values plain := ⟨rfl, fun _ => rfl⟩
  obtain ⟨-, herror, hshapes, -, -, hflat, henvelope⟩ :=
    listed_alike_in_either_shape "volumeId" values
  have hflag : ¬ IsIdentifier (.bool true) := nofun
  have hfirst : ∀ v ∈ [Json.string "0012A", .nat 7], IsIdentifier v := by
    intro v hv
    rcases List.mem_pair.1 hv with rfl | rfl
    · exact ⟨_, .text _⟩
    · exact ⟨_, .number _⟩
  have hlisted := (herror _).2 ⟨_, .bool true, [.null], rfl, hfirst, hflag, rfl⟩
  refine ⟨henveloped, hplain, ?_, ?_⟩
  · rw [henvelope enveloped henveloped, hshapes, hlisted]
  · rw [hflat plain hplain, hlisted]

end StorageArray.Listing
