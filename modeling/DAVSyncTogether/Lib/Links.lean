import Mathlib.Algebra.BigOperators.Group.Finset.Piecewise
import Mathlib.Data.Fintype.Prod

/-!
# Links between the members of a group

Every member of a group sends to all others, each over a link of its own that keeps the order and loses nothing: posting appends
to every link of the sender (`queue_broadcast`), and a message is taken from the front of one link (`queue_pop`). In a finite
group `underWay` counts the messages on all links.
-/

/-- A sum over the members of a group, where one of them changes. -/
theorem sum_apply_update {ι α : Type} [DecidableEq ι] [Fintype ι] (f : α → Nat) (g : ι → α) (i : ι) (x : α) :
    (∑ a, f (Function.update g i x a)) + f (g i) = (∑ a, f (g a)) + f x := by
  have hsame : (fun a => f (Function.update g i x a)) = Function.update (f ∘ g) i (f x) := Function.comp_update f g i x
  rw [hsame, Finset.sum_update_of_mem (Finset.mem_univ i), ← Finset.add_sum_erase Finset.univ (fun a => f (g a)) (Finset.mem_univ i),
    Finset.sdiff_singleton_eq_erase]
  simp only [Function.comp_apply]
  omega

/-- What is under way from one member to another, the oldest first. -/
structure Links (ι μ : Type) where
  queue : ι → ι → List μ

namespace Links

variable {ι μ : Type} [DecidableEq ι]

/-- A member sends to all others, not to itself. -/
def broadcast (links : Links ι μ) (i : ι) (messages : List μ) : Links ι μ :=
  ⟨fun a b => if a = i ∧ b ≠ i then links.queue a b ++ messages else links.queue a b⟩

/-- The oldest message of a link is taken from it. -/
def pop (links : Links ι μ) (i j : ι) : Links ι μ :=
  ⟨fun a b => if a = i ∧ b = j then (links.queue a b).tail else links.queue a b⟩

@[simp] theorem queue_broadcast (links : Links ι μ) (i : ι) (messages : List μ) (a b : ι) :
    (links.broadcast i messages).queue a b = if a = i ∧ b ≠ i then links.queue a b ++ messages else links.queue a b := rfl

@[simp] theorem queue_pop (links : Links ι μ) (i j a b : ι) :
    (links.pop i j).queue a b = if a = i ∧ b = j then (links.queue a b).tail else links.queue a b := rfl

/-! ## How much is under way -/

/-- The number of messages on all links. -/
def underWay [Fintype ι] (links : Links ι μ) : Nat := ∑ link : ι × ι, (links.queue link.1 link.2).length

/-- Taking a message leaves one less under way. -/
theorem underWay_pop [Fintype ι] (links : Links ι μ) {i j : ι} (h : links.queue i j ≠ []) :
    (links.pop i j).underWay + 1 = links.underWay := by
  have hpop : (fun link : ι × ι => (links.pop i j).queue link.1 link.2) =
      Function.update (fun link : ι × ι => links.queue link.1 link.2) (i, j) (links.queue i j).tail := by
    funext link
    obtain ⟨a, b⟩ := link
    by_cases hlink : (a, b) = (i, j)
    · obtain ⟨rfl, rfl⟩ := Prod.mk.inj hlink
      rw [Function.update_self, queue_pop, if_pos ⟨rfl, rfl⟩]
    · rw [Function.update_of_ne hlink, queue_pop, if_neg fun hc => hlink (Prod.ext hc.1 hc.2)]
  have hsum := sum_apply_update List.length (fun link : ι × ι => links.queue link.1 link.2) (i, j) (links.queue i j).tail
  rw [← hpop, List.length_tail] at hsum
  dsimp only at hsum
  have hpos := List.length_pos_iff.mpr h
  unfold underWay
  omega

/-- Posting nothing changes nothing. -/
@[simp] theorem broadcast_nil (links : Links ι μ) (i : ι) : links.broadcast i [] = links := by
  simp [broadcast]

end Links
