import Mathlib.Data.List.Basic
import Mathlib.Data.Option.Basic

/-!
# Loops whose steps touch one key each

A loop over items with a key, seen through a `view` of its state at one key `k`. Where a step at another key leaves the view
as it is (the frame), the loop over items with different keys is, at `k`, the one step of the item with that key, or nothing.
Where the items come in blocks, and no two blocks hold items for one key, the order of the blocks does not matter
(`flatMap_eq_of_perm`).
-/

namespace KeyedFold

variable {σ α κ β : Type}

/-- A loop whose steps all leave the view as it is leaves it as it is. -/
theorem foldl_view {step : σ → α → σ} {view : σ → β} (l : List α) (h : ∀ s, ∀ a ∈ l, view (step s a) = view s) (s : σ) :
    view (l.foldl step s) = view s := by
  induction l generalizing s with
  | nil => rfl
  | cons a l ih => rw [List.foldl_cons, ih (fun s b hb => h s b (by simp [hb])), h s a (by simp)]

/-- A loop whose steps all change nothing changes nothing. -/
theorem foldl_unchanged {step : σ → α → σ} (l : List α) (h : ∀ s, ∀ a ∈ l, step s a = s) (s : σ) : l.foldl step s = s := by
  induction l with
  | nil => rfl
  | cons a l ih => rw [List.foldl_cons, h s a (by simp), ih (fun s b hb => h s b (by simp [hb]))]

/-- A loop over items of different keys is, at one of the keys, the step of its item, from a state with the view of the
start. -/
theorem foldl_of_find [DecidableEq κ] {step : σ → α → σ} {key : α → κ} {view : σ → β} {k : κ}
    (frame : ∀ s a, key a ≠ k → view (step s a) = view s) {l : List α} (hl : (l.map key).Nodup) {a : α}
    (ha : l.find? (fun b => key b = k) = some a) (s : σ) :
    ∃ s', view s' = view s ∧ view (l.foldl step s) = view (step s' a) := by
  induction l generalizing s with
  | nil => cases ha
  | cons b l ih =>
    rw [List.map_cons, List.nodup_cons] at hl
    rw [List.foldl_cons]
    by_cases hb : key b = k
    · rw [List.find?_cons_of_pos (by simpa using hb), Option.some.injEq] at ha
      subst ha
      refine ⟨s, rfl, foldl_view l (fun s c hc => frame s c fun hk => hl.1 ?_) _⟩
      exact List.mem_map.mpr ⟨c, hc, hk.trans hb.symm⟩
    · rw [List.find?_cons_of_neg (by simpa using hb)] at ha
      obtain ⟨s', hs', hv⟩ := ih hl.2 ha (step s b)
      exact ⟨s', hs'.trans (frame s b hb), hv⟩

/-- Related lists whose related items have one key find related items, or none, at every key. -/
theorem find_rel [DecidableEq κ] {R : α → α → Prop} {key : α → κ} (hkey : ∀ a b, R a b → key a = key b) {l m : List α}
    (h : List.Forall₂ R l m) (k : κ) :
    Option.Rel R (l.find? (fun a => key a = k)) (m.find? (fun a => key a = k)) := by
  induction h with
  | nil => exact Option.Rel.none
  | @cons a b l m hab _ ih =>
    by_cases hk : key a = k
    · rw [List.find?_cons_of_pos (by simpa using hk), List.find?_cons_of_pos (by simpa [← hkey a b hab] using hk)]
      exact Option.Rel.some hab
    · rw [List.find?_cons_of_neg (by simpa using hk), List.find?_cons_of_neg (by simpa [← hkey a b hab] using hk)]
      exact ih

/-- Blocks of which at most one is not empty follow one another in any order. -/
theorem flatMap_eq_of_perm {block : α → List β} {l m : List α} (h : l.Perm m)
    (hone : l.Pairwise fun a b => block a = [] ∨ block b = []) : l.flatMap block = m.flatMap block := by
  induction h with
  | nil => rfl
  | cons a _ ih => rw [List.flatMap_cons, List.flatMap_cons, ih (List.pairwise_cons.mp hone).2]
  | swap a b l =>
    simp only [List.flatMap_cons]
    rcases (List.pairwise_cons.mp hone).1 a (by simp) with hb | ha
    · rw [hb, List.nil_append, List.nil_append]
    · rw [ha, List.nil_append, List.nil_append]
  | trans hlm _ ih ih' => exact (ih hone).trans (ih' ((hlm.pairwise_iff fun hab => hab.symm).mp hone))

end KeyedFold
