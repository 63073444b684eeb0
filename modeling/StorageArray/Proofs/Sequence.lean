import Mathlib.Data.List.Forall2
import Mathlib.Tactic.Common
/-!
# Lists that are gone through until something fails

Items are checked or turned into results one after the other, and the first one that fails ends
this.  `mapM_eq_ok_iff` and `mapM_eq_error_iff` say what comes of it: a result for each item, or the
error of an item before which all went well.  `map_eq_ok_iff` and `pair_eq_ok_iff` say the same of
one result and of two.
-/

namespace StorageArray

variable {ι α β ε : Type}

lemma map_eq_ok_iff {f : α → β} {x : Except ε α} {b : β} :
    x.map f = .ok b ↔ ∃ a, x = .ok a ∧ f a = b := by
  cases x <;> simp [Except.map]

lemma pair_eq_ok_iff {x : Except ε α} {y : Except ε β} {a : α} {b : β} :
    (do pure (← x, ← y)) = Except.ok (a, b) ↔ x = .ok a ∧ y = .ok b := by
  cases x with
  | error e => simp [bind, Except.bind]
  | ok a' => cases y <;> simp [bind, Except.bind, pure, Except.pure]

lemma forM_eq_ok {f : ι → Except ε Unit} {items : List ι} (h : ∀ item ∈ items, f item = .ok ()) :
    items.forM f = .ok () := by
  induction items with
  | nil => rfl
  | cons item items ih =>
      rw [List.forM_eq_forM, List.forM_cons, h item List.mem_cons_self]
      exact ih fun item hitem => h item (List.mem_cons_of_mem _ hitem)

variable {f : ι → Except ε α} {items : List ι}

/-- A list goes through exactly when each of its items does, and gives their results in order. -/
lemma mapM_eq_ok_iff {results : List α} :
    items.mapM f = .ok results ↔ List.Forall₂ (fun item a => f item = .ok a) items results := by
  induction items generalizing results with
  | nil => cases results <;> simp [pure, Except.pure]
  | cons item items ih =>
      rw [List.mapM_cons, List.forall₂_cons_left_iff]
      cases hitem : f item with
      | error e => simp [bind, Except.bind]
      | ok a =>
          cases hitems : items.mapM f with
          | error e => simp [bind, Except.bind, ← ih, hitems]
          | ok rest => simp [bind, Except.bind, pure, Except.pure, ← ih, hitems, eq_comm]

/-- A list does not go through exactly when one of its items does not and all before it do. -/
lemma mapM_eq_error_iff {e : ε} :
    items.mapM f = .error e ↔ ∃ before item after, items = before ++ item :: after ∧
      (∀ a ∈ before, ∃ b, f a = .ok b) ∧ f item = .error e := by
  induction items with
  | nil => simp [pure, Except.pure]
  | cons item items ih =>
      rw [List.mapM_cons]
      cases hitem : f item with
      | error e' =>
          -- The first item decides.
          constructor
          · intro h
            cases h
            exact ⟨[], item, items, rfl, nofun, hitem⟩
          · rintro ⟨before, item', after, hitems, hbefore, hfails⟩
            cases before with
            | nil =>
                obtain ⟨rfl, -⟩ := List.cons.inj hitems
                rw [hitem] at hfails
                cases hfails
                rfl
            | cons first before =>
                obtain ⟨rfl, -⟩ := List.cons.inj hitems
                obtain ⟨b, hb⟩ := hbefore item List.mem_cons_self
                rw [hitem] at hb
                cases hb
      | ok a =>
          -- The first item goes through, and what follows it decides.
          have hrest : (Except.ok a >>= fun a => items.mapM f >>= fun rest => pure (a :: rest)) =
              .error e ↔ items.mapM f = .error e := by
            cases items.mapM f <;> simp [bind, Except.bind, pure, Except.pure]
          rw [hrest, ih]
          constructor
          · rintro ⟨before, item', after, rfl, hbefore, hfails⟩
            refine ⟨item :: before, item', after, rfl, ?_, hfails⟩
            exact List.forall_mem_cons.2 ⟨⟨a, hitem⟩, hbefore⟩
          · rintro ⟨before, item', after, hitems, hbefore, hfails⟩
            cases before with
            | nil =>
                obtain ⟨rfl, -⟩ := List.cons.inj hitems
                rw [hitem] at hfails
                cases hfails
            | cons first before =>
                obtain ⟨-, rfl⟩ := List.cons.inj hitems
                exact ⟨before, item', after, rfl, (List.forall_mem_cons.1 hbefore).2, hfails⟩

end StorageArray
