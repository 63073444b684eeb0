import Mathlib.Data.List.Sort
import StorageArray.Proofs.Listing.Shape
import StorageArray.Proofs.Resource.Creation
import StorageArray.Proofs.Volume.Lookup
import StorageArray.Replication.Basic
import StorageArray.Snapshot.Basic
/-!
# Listings without repetitions

What the loop keeps after it has seen some items is determined: the items that it has not seen, in
the order of their first occurrences (`eq_firstOccurrencesAfter`).  So at each point the items that
it has gone through stand for those that it has seen (`firstOccurrencesAfter_append`).

From this follow the laws of `firstOccurrences`, whatever the items are: there is no other list of
the distinct items (`distinctOf_iff`), nothing is left to drop from it, and what is kept of a second
list behind a first one is what does not occur in the first (`firstOccurrences_append`).

Volumes, snapshots and replication groups are listed so.  For an operation `Operation.ListsOnce`
says that it asks once and succeeds with the distinct items of what the answer lists.
-/

namespace StorageArray

namespace Listing

variable {α : Type} [DecidableEq α] {seen items kept : List α}

/-! ### What the loop keeps -/

/-- What is kept is a part of the list. -/
lemma firstOccurrencesAfter_sublist (seen items : List α) :
    (firstOccurrencesAfter seen items).Sublist items := by
  induction items generalizing seen with
  | nil => exact List.Sublist.slnil
  | cons a items ih =>
      rw [firstOccurrencesAfter]
      split
      · exact (ih seen).cons a
      · exact (ih (a :: seen)).cons_cons a

/-- The items that have not been seen stand in one way in the order of their first occurrences. -/
lemma eq_firstOccurrencesAfter (hmem : ∀ a, a ∈ kept ↔ a ∈ items ∧ a ∉ seen)
    (hordered : kept.Pairwise fun a b => items.idxOf a < items.idxOf b) :
    kept = firstOccurrencesAfter seen items := by
  let r (a b : α) : Prop := items.idxOf a < items.idxOf b
  have hirrefl : Std.Irrefl r := ⟨fun a => Nat.lt_irrefl _⟩
  have hantisymm : Std.Antisymm r := ⟨fun a b hab hba => absurd hab (Nat.lt_asymm hba)⟩
  have hkept := pairwise_firstOccurrencesAfter seen items
  refine List.Pairwise.eq_of_mem_iff (r := r) hordered hkept fun a => ?_
  rw [hmem, mem_firstOccurrencesAfter_iff]

/-- The items that have been seen before the loop begins are left out, and this is all that they
change. -/
lemma firstOccurrencesAfter_eq_filter (seen items : List α) :
    firstOccurrencesAfter seen items = (firstOccurrences items).filter (· ∉ seen) := by
  have hdistinct := distinctOf_firstOccurrences items
  refine (eq_firstOccurrencesAfter (fun a => ?_) (hdistinct.ordered.filter _)).symm
  rw [List.mem_filter, hdistinct.mem_iff, decide_eq_true_iff]

/-- Behind the first part of a list the loop goes on as if it had seen that part. -/
lemma firstOccurrencesAfter_append (seen items more : List α) :
    firstOccurrencesAfter seen (items ++ more) =
      firstOccurrencesAfter seen items ++ firstOccurrencesAfter (items ++ seen) more := by
  have hfirst {a : α} (ha : a ∈ firstOccurrencesAfter seen items) : a ∈ items :=
    (mem_firstOccurrencesAfter_iff.1 ha).1
  have hnew {a : α} (ha : a ∈ firstOccurrencesAfter (items ++ seen) more) : a ∉ items :=
    fun hitems => (mem_firstOccurrencesAfter_iff.1 ha).2 (List.mem_append_left seen hitems)
  refine (eq_firstOccurrencesAfter (fun a => ?_) ?_).symm
  · simp only [List.mem_append, mem_firstOccurrencesAfter_iff]
    tauto
  · refine List.pairwise_append.2 ⟨?_, ?_, fun a ha b hb => ?_⟩
    · refine (pairwise_firstOccurrencesAfter seen items).imp_of_mem fun ha hb hlt => ?_
      rwa [List.idxOf_append_of_mem (hfirst ha), List.idxOf_append_of_mem (hfirst hb)]
    · refine (pairwise_firstOccurrencesAfter (items ++ seen) more).imp_of_mem fun ha hb hlt => ?_
      rw [List.idxOf_append_of_notMem (hnew ha), List.idxOf_append_of_notMem (hnew hb)]
      exact Nat.add_lt_add_left hlt _
    · -- What the first part has occurs in it, and the rest behind it.
      rw [List.idxOf_append_of_mem (hfirst ha), List.idxOf_append_of_notMem (hnew hb)]
      exact Nat.lt_add_right _ (List.idxOf_lt_length_of_mem (hfirst ha))

/-! ### The distinct items -/

/-- There is one list of the distinct items. -/
lemma distinctOf_iff : DistinctOf items kept ↔ kept = firstOccurrences items := by
  constructor
  · intro h
    exact eq_firstOccurrencesAfter (fun a => by simp [h.mem_iff]) h.ordered
  · rintro rfl
    exact distinctOf_firstOccurrences items

namespace DistinctOf

/-- A list without repetitions is that of its distinct items. -/
lemma of_nodup (h : items.Nodup) : DistinctOf items items := by
  refine ⟨fun _ => Iff.rfl, List.pairwise_iff_getElem.2 fun i j hi hj hij => ?_⟩
  rwa [h.idxOf_getElem i hi, h.idxOf_getElem j hj]

/-- What stands earlier among the distinct items occurs earlier. -/
lemma idxOf_lt_of_idxOf_lt (h : DistinctOf items kept) {a b : α}
    (hlt : kept.idxOf a < kept.idxOf b) : items.idxOf a < items.idxOf b := by
  have hi : kept.idxOf a < kept.length := Nat.lt_of_lt_of_le hlt List.idxOf_le_length
  by_cases hb : b ∈ kept
  · have hj : kept.idxOf b < kept.length := List.idxOf_lt_length_of_mem hb
    have hordered := List.pairwise_iff_getElem.1 h.ordered _ _ hi hj hlt
    rwa [List.getElem_idxOf, List.getElem_idxOf] at hordered
  · rw [List.idxOf_eq_length_iff.2 (mt (h.mem_iff b).2 hb)]
    exact List.idxOf_lt_length_of_mem ((h.mem_iff a).1 (List.idxOf_lt_length_iff.1 hi))

/-- The distinct items stand as they first occur; one that does not occur counts as the last. -/
lemma idxOf_lt_iff (h : DistinctOf items kept) (a b : α) :
    kept.idxOf a < kept.idxOf b ↔ items.idxOf a < items.idxOf b := by
  refine ⟨h.idxOf_lt_of_idxOf_lt, fun hlt => ?_⟩
  have ha : a ∈ kept := (h.mem_iff a).2
    (List.idxOf_lt_length_iff.1 (Nat.lt_of_lt_of_le hlt List.idxOf_le_length))
  rcases Nat.lt_trichotomy (kept.idxOf a) (kept.idxOf b) with hbefore | heq | hbehind
  · exact hbefore
  · obtain rfl := (List.idxOf_inj ha).1 heq
    exact absurd hlt (Nat.lt_irrefl _)
  · exact absurd hlt (Nat.lt_asymm (h.idxOf_lt_of_idxOf_lt hbehind))

end DistinctOf

lemma firstOccurrences_firstOccurrences (items : List α) :
    firstOccurrences (firstOccurrences items) = firstOccurrences items :=
  (distinctOf_iff.1 (.of_nodup (distinctOf_firstOccurrences items).nodup)).symm

/-- What is kept of a list behind another one is what the first does not have. -/
lemma firstOccurrences_append (items more : List α) :
    firstOccurrences (items ++ more) =
      firstOccurrences items ++ (firstOccurrences more).filter (· ∉ items) := by
  have happend := firstOccurrencesAfter_append [] items more
  rw [List.append_nil, firstOccurrencesAfter_eq_filter items] at happend
  exact happend

end Listing

/-! ### Operations that list -/

open Listing (DistinctOf firstOccurrences)

/-- The operation asks once, and succeeds with what the answer lists, each item once. -/
def Operation.ListsOnce {α : Type} [DecidableEq α] (op : Operation (List α)) (site : Site)
    (request : Request) (Listed : Answer → List α → Prop) : Prop :=
  ∀ t items, op.Yields t (.ok items) ↔
    ∃ answer listed, t = [⟨site, request, answer⟩] ∧ Listed answer listed ∧
      DistinctOf listed items

/-- The items are told by the answer, and the first occurrences are kept of those that it lists. -/
lemma Operation.ListsOnce.of_yields {α : Type} [DecidableEq α] {op : Operation (List α)}
    {site : Site} {request : Request} {Listed : Answer → List α → Prop}
    {value : Answer → Except ArrayError (List α)}
    (hyields : ∀ {t r}, op.Yields t r ↔
      ∃ answer, t = [⟨site, request, answer⟩] ∧ r = value answer)
    (hvalue : ∀ {answer items}, value answer = .ok items ↔
      ∃ listed, Listed answer listed ∧ items = firstOccurrences listed) :
    op.ListsOnce site request Listed := by
  intro t items
  simp only [hyields, eq_comm (a := Except.ok items), hvalue, Listing.distinctOf_iff,
    exists_and_left]

namespace Client

variable (c : Client)

lemma findVolumes_listsOnce (name group : Option String) :
    (c.findVolumes name group).ListsOnce c.site (c.volumeQuery name group) fun answer ids =>
      ∃ texts, answer.Lists "volumeId" texts ∧ ids = texts.map Identifier.ofString := by
  refine .of_yields yields_findVolumes_iff fun {answer items} => volumesIn_eq_ok_iff.trans ?_
  constructor
  · rintro ⟨texts, htexts, rfl⟩
    exact ⟨_, ⟨texts, htexts, rfl⟩, rfl⟩
  · rintro ⟨_, ⟨texts, htexts, rfl⟩, rfl⟩
    exact ⟨texts, htexts, rfl⟩

lemma listSnapshots_listsOnce (source : VolumeId) :
    (c.listSnapshots source).ListsOnce c.site (.get (c.sourcePath source)) fun answer names =>
      answer.Lists "snapshotName" names :=
  .of_yields (yields_fetch_listed_iff fun _ => rfl) (bind_textsIn_eq_ok_iff rfl)

lemma listReplicationGroups_listsOnce :
    c.listReplicationGroups.ListsOnce c.site (.get (c.replicationPath "rdf_group"))
      fun answer numbers => ∃ listing, answer.Carries ReplicationGroupListing.shape listing ∧
        numbers = listing.groups.map (·.number) := by
  refine .of_yields (Operation.yields_bind_of_answer yields_read_iff fun _ => rfl)
    fun {answer items} => ?_
  refine Operation.except_bind_eq_ok_iff.trans ?_
  constructor
  · rintro ⟨listing, hlisting, hitems⟩
    exact ⟨_, ⟨listing, (valueIn_eq_ok_iff rfl).1 hlisting, rfl⟩, (Except.ok.inj hitems).symm⟩
  · rintro ⟨_, ⟨listing, hlisting, rfl⟩, rfl⟩
    exact ⟨listing, (valueIn_eq_ok_iff rfl).2 hlisting, rfl⟩

end Client

/-- In either shape an answer lists the texts of the values that its body has, in their order. -/
lemma Answer.lists_iff_of_inEitherShape {key : String} {values : List Json} {texts : List String}
    {response : Response} (hsuccess : response.isSuccess = true)
    (hshape : Listing.InEitherShape key values response.body) :
    Answer.Lists (.ok response) key texts ↔ List.Forall₂ Listing.Renders values texts := by
  rw [← hshape.listed_eq_ok_iff]
  constructor
  · rintro ⟨_, hanswer, -, hlisted⟩
    cases hanswer
    exact hlisted
  · intro hlisted
    exact ⟨response, rfl, hsuccess, hlisted⟩

/-- **Of a list each item is kept once, where it first occurs.**  What is kept is a part of the list
without repetitions and with all of its items, in the order of their first occurrences; this
determines it, so keeping twice is keeping once, and of a second list behind a first one is kept
what the first does not have.  The volumes, the snapshots and the replication groups that are listed
are the distinct ones of the answer, in its order; the texts of an answer are those of the values in
its body, whichever shape it has. -/
theorem listings_keep_first_occurrences :
    (∀ {α : Type} [DecidableEq α] (items more : List α),
      (firstOccurrences items).Sublist items ∧ (firstOccurrences items).Nodup ∧
      (∀ a, a ∈ firstOccurrences items ↔ a ∈ items) ∧
      (∀ a b, (firstOccurrences items).idxOf a < (firstOccurrences items).idxOf b ↔
        items.idxOf a < items.idxOf b) ∧
      (∀ kept, DistinctOf items kept ↔ kept = firstOccurrences items) ∧
      firstOccurrences (firstOccurrences items) = firstOccurrences items ∧
      firstOccurrences (items ++ more) =
        firstOccurrences items ++ (firstOccurrences more).filter (· ∉ items)) ∧
    (∀ (key : String) (values : List Json) (texts : List String) (response : Response),
      response.isSuccess = true → Listing.InEitherShape key values response.body →
        (Answer.Lists (.ok response) key texts ↔ List.Forall₂ Listing.Renders values texts)) ∧
    ∀ c : Client,
      (∀ name group : Option String,
        (c.findVolumes name group).ListsOnce c.site (c.volumeQuery name group) fun answer ids =>
          ∃ texts, answer.Lists "volumeId" texts ∧ ids = texts.map Identifier.ofString) ∧
      (∀ source : VolumeId,
        (c.listSnapshots source).ListsOnce c.site (.get (c.sourcePath source)) fun answer names =>
          answer.Lists "snapshotName" names) ∧
      c.listReplicationGroups.ListsOnce c.site (.get (c.replicationPath "rdf_group"))
        fun answer numbers => ∃ listing, answer.Carries ReplicationGroupListing.shape listing ∧
          numbers = listing.groups.map (·.number) := by
  refine ⟨fun items more => ?_, fun key values texts response => Answer.lists_iff_of_inEitherShape,
    fun c => ⟨c.findVolumes_listsOnce, c.listSnapshots_listsOnce,
      c.listReplicationGroups_listsOnce⟩⟩
  have hdistinct := Listing.distinctOf_firstOccurrences items
  exact ⟨Listing.firstOccurrencesAfter_sublist [] items, hdistinct.nodup, hdistinct.mem_iff,
    hdistinct.idxOf_lt_iff, fun kept => Listing.distinctOf_iff,
    Listing.firstOccurrences_firstOccurrences items, Listing.firstOccurrences_append items more⟩

/-- Identifiers with white space around them and a number, listed in an envelope: two of the four
name one volume. -/
theorem listings_keep_first_occurrences_of_padded_identifiers :
    let c : Client := ⟨.home, ⟨"000197600123"⟩, Settings.default⟩
    let values : List Json := [.string " 0012A", .nat 7, .string "0012A ", .string "0034F"]
    let response : Response := ⟨200, Listing.envelopeOf "volumeId" values⟩
    (c.findVolumes none (some "SG1")).Yields
      [⟨.home, c.volumeQuery none (some "SG1"), .ok response⟩]
      (.ok [⟨"0012A"⟩, ⟨"7"⟩, ⟨"0034F"⟩]) := by
  intro c values response
  obtain ⟨hlists, htexts, hclients⟩ := listings_keep_first_occurrences
  have hrendered : List.Forall₂ Listing.Renders values [" 0012A", "7", "0012A ", "0034F"] :=
    .cons (.text _) (.cons (.number _) (.cons (.text _) (.cons (.text _) .nil)))
  have hlisted := (htexts "volumeId" values _ response rfl
    (.inr (Listing.enveloped_envelopeOf _ _))).2 hrendered
  refine ((hclients c).1 none (some "SG1") _ _).2 ⟨_, _, rfl, ⟨_, hlisted, rfl⟩, ?_⟩
  exact ((hlists _ []).2.2.2.2.1 _).2 (by decide)

end StorageArray
