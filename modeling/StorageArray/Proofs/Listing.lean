import Mathlib.Data.List.Nodup
import Mathlib.Tactic.Common
import StorageArray.Listing
/-!
# What is kept of a listing

`Listing.firstOccurrences` keeps each item of a listing once, at its first occurrence
(`Listing.DistinctOf`).  The loop behind it carries the items that it has seen, and its lemmas are
about what is left of the items for any list of those: `mem_firstOccurrencesAfter_iff` says which
items are kept and `pairwise_firstOccurrencesAfter` in which order.
-/

namespace StorageArray.Listing

variable {α : Type} [DecidableEq α]

/-- An item is kept exactly when it occurs and has not been seen. -/
lemma mem_firstOccurrencesAfter_iff {seen items : List α} {a : α} :
    a ∈ firstOccurrencesAfter seen items ↔ a ∈ items ∧ a ∉ seen := by
  induction items generalizing seen with
  | nil => simp [firstOccurrencesAfter]
  | cons b items ih =>
      rw [firstOccurrencesAfter]
      split
      · rename_i hb
        rw [ih, List.mem_cons]
        refine and_congr_left fun ha => (or_iff_right ?_).symm
        rintro rfl
        exact ha hb
      · rename_i hb
        rw [List.mem_cons, ih, List.mem_cons, List.mem_cons, not_or]
        constructor
        · rintro (rfl | ⟨ha, -, hseen⟩)
          · exact ⟨.inl rfl, hb⟩
          · exact ⟨.inr ha, hseen⟩
        · rintro ⟨rfl | ha, hseen⟩
          · exact .inl rfl
          · by_cases hab : a = b
            · exact .inl hab
            · exact .inr ⟨ha, hab, hseen⟩

/-- What is kept stands in the order of the first occurrences. -/
lemma pairwise_firstOccurrencesAfter (seen items : List α) :
    (firstOccurrencesAfter seen items).Pairwise fun a b => items.idxOf a < items.idxOf b := by
  induction items generalizing seen with
  | nil => exact List.Pairwise.nil
  | cons b items ih =>
      -- An item that is kept of the rest is another one, so it occurs one place later than there.
      have hrest {seen' : List α} (hb : b ∈ seen') :
          (firstOccurrencesAfter seen' items).Pairwise fun x y =>
            (b :: items).idxOf x < (b :: items).idxOf y := by
        have hne {a : α} (ha : a ∈ firstOccurrencesAfter seen' items) : b ≠ a := by
          rintro rfl
          exact (mem_firstOccurrencesAfter_iff.1 ha).2 hb
        refine (ih seen').imp_of_mem fun hx hy hlt => ?_
        rw [List.idxOf_cons_ne _ (hne hx), List.idxOf_cons_ne _ (hne hy)]
        exact Nat.succ_lt_succ hlt
      rw [firstOccurrencesAfter]
      split
      · rename_i hb
        exact hrest hb
      · refine List.pairwise_cons.2 ⟨fun a ha => ?_, hrest List.mem_cons_self⟩
        have hne : b ≠ a := by
          rintro rfl
          exact (mem_firstOccurrencesAfter_iff.1 ha).2 List.mem_cons_self
        rw [List.idxOf_cons_self, List.idxOf_cons_ne _ hne]
        exact Nat.succ_pos _

/-- The list has each of the items once, in the order of their first occurrences. -/
structure DistinctOf (items distinct : List α) : Prop where
  /-- The members are the items. -/
  mem_iff : ∀ a, a ∈ distinct ↔ a ∈ items
  /-- An item that occurs first comes first. -/
  ordered : distinct.Pairwise fun a b => items.idxOf a < items.idxOf b

lemma distinctOf_firstOccurrences (items : List α) : DistinctOf items (firstOccurrences items) := by
  refine ⟨fun a => ?_, pairwise_firstOccurrencesAfter [] items⟩
  rw [firstOccurrences, mem_firstOccurrencesAfter_iff]
  exact and_iff_left List.not_mem_nil

namespace DistinctOf

variable {items distinct : List α}

lemma nodup (h : DistinctOf items distinct) : distinct.Nodup := by
  refine h.ordered.imp fun hlt => ?_
  rintro rfl
  exact Nat.lt_irrefl _ hlt

lemma eq_nil_iff (h : DistinctOf items distinct) : distinct = [] ↔ items = [] := by
  simp only [List.eq_nil_iff_forall_not_mem, h.mem_iff]

/-- There is one distinct item exactly when all items are this one. -/
lemma eq_singleton_iff (h : DistinctOf items distinct) {a : α} :
    distinct = [a] ↔ ∀ b, b ∈ items ↔ b = a := by
  constructor
  · rintro rfl b
    rw [← h.mem_iff, List.mem_singleton]
  · intro hall
    have hperm := (List.perm_ext_iff_of_nodup h.nodup (List.nodup_singleton a)).2
    refine List.perm_singleton.1 (hperm fun b => ?_)
    rw [h.mem_iff, hall, List.mem_singleton]

end DistinctOf

end StorageArray.Listing
