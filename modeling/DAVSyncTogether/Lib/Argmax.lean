import DAVSyncTogether.Lib.SortUnique

/-!
# The best item of a list, by one loop

`keepBetter` keeps the item in hand unless the next one is better: for a strict total order the loop returns the item that no
other one beats (`foldl_keepBetter_eq_some`). `keepMax` keeps the first item of the greatest score and notes whether the
score is shared: without repetitions, the loop ends unshared exactly at an item whose score is greater than all others
(`foldl_keepMax_eq_some`).
-/

namespace Argmax

open SortUnique

variable {α β : Type}

/-! ## The best item -/

/-- The item in hand, or the next one when it is better. -/
def keepBetter (better : α → α → Bool) (best : Option α) (a : α) : Option α :=
  match best with
  | none => some a
  | some b => if better a b then some a else some b

section

variable {better : α → α → Bool}

/-- The loop over a nonempty list returns an item of the list that no item beats. -/
theorem foldl_keepBetter (h : StrictTotal better) {l : List α} (hl : l ≠ []) :
    ∃ b ∈ l, l.foldl (keepBetter better) none = some b ∧ ∀ a ∈ l, better a b = false := by
  induction l using List.reverseRecOn with
  | nil => exact absurd rfl hl
  | append_singleton l a ih =>
    rw [List.foldl_concat]
    by_cases hnil : l = []
    · subst hnil
      refine ⟨a, by simp, rfl, fun c hc => ?_⟩
      rw [List.nil_append, List.mem_singleton] at hc
      exact hc ▸ h.irrefl a
    · obtain ⟨b, hb, hfold, hbest⟩ := ih hnil
      rw [hfold, keepBetter]
      cases hab : better a b with
      | true =>
        refine ⟨a, by simp, rfl, fun c hc => ?_⟩
        rcases List.mem_append.mp hc with hc | hc
        · -- What beats the new item would beat the old one.
          by_contra hca
          have hcb := h.trans c a b (by simpa using hca) hab
          rw [hbest c hc] at hcb
          cases hcb
        · exact List.mem_singleton.mp hc ▸ h.irrefl a
      | false =>
        refine ⟨b, by simp [hb], rfl, fun c hc => ?_⟩
        rcases List.mem_append.mp hc with hc | hc
        · exact hbest c hc
        · exact List.mem_singleton.mp hc ▸ hab

/-- The loop returns the item of the list that no item beats. -/
theorem foldl_keepBetter_eq_some (h : StrictTotal better) {l : List α} {b : α} :
    l.foldl (keepBetter better) none = some b ↔ b ∈ l ∧ ∀ a ∈ l, better a b = false := by
  by_cases hl : l = []
  · subst hl
    simp
  · obtain ⟨c, hc, hfold, hbest⟩ := foldl_keepBetter h hl
    rw [hfold, Option.some.injEq]
    refine ⟨fun hcb => hcb ▸ ⟨hc, hbest⟩, fun ⟨hb, hb'⟩ => ?_⟩
    rcases h.total c b with hlt | heq | hgt
    · rw [hb' c hc] at hlt
      cases hlt
    · exact heq
    · rw [hbest b hb] at hgt
      cases hgt

end

/-! ## The item of the greatest score -/

section

variable [LinearOrder β] (score : α → β)

/-- The first item of the greatest score so far, and whether another one has that score. -/
def keepMax (best : Option (α × Bool)) (a : α) : Option (α × Bool) :=
  match best with
  | none => some (a, false)
  | some (b, tied) =>
    if score b < score a then some (a, false)
    else if score a = score b then some (b, true)
    else some (b, tied)

/-- The loop over a nonempty list without repetitions returns an item of the greatest score, and whether another one shares
it. -/
theorem foldl_keepMax {l : List α} (hl : l ≠ []) (hnodup : l.Nodup) :
    ∃ b ∈ l, ∃ tied, l.foldl (keepMax score) none = some (b, tied) ∧ (∀ a ∈ l, score a ≤ score b) ∧
      (tied = true ↔ ∃ a ∈ l, a ≠ b ∧ score a = score b) := by
  induction l using List.reverseRecOn with
  | nil => exact absurd rfl hl
  | append_singleton l a ih =>
    rw [List.foldl_concat]
    by_cases hnil : l = []
    · subst hnil
      exact ⟨a, by simp, false, rfl, by simp, by simp⟩
    · rw [← List.concat_eq_append, List.nodup_concat] at hnodup
      obtain ⟨b, hb, tied, hfold, hmax, htied⟩ := ih hnil hnodup.2
      have hne : a ≠ b := fun h => hnodup.1 (h ▸ hb)
      rw [hfold, keepMax]
      rcases lt_trichotomy (score b) (score a) with hlt | heq | hgt
      · rw [if_pos hlt]
        refine ⟨a, by simp, false, rfl, fun c hc => ?_, ?_⟩
        · rcases List.mem_append.mp hc with hc | hc
          · exact (hmax c hc).trans hlt.le
          · rw [List.mem_singleton.mp hc]
        · refine ⟨nofun, fun ⟨c, hc, hca, hs⟩ => ?_⟩
          rcases List.mem_append.mp hc with hc | hc
          · exact absurd (hs ▸ hmax c hc) (not_le.mpr hlt)
          · exact absurd (List.mem_singleton.mp hc) hca
      · rw [if_neg heq.not_lt, if_pos heq.symm]
        refine ⟨b, by simp [hb], true, rfl, fun c hc => ?_, ?_⟩
        · rcases List.mem_append.mp hc with hc | hc
          · exact hmax c hc
          · rw [List.mem_singleton.mp hc, heq]
        · exact ⟨fun _ => ⟨a, by simp, hne, heq.symm⟩, fun _ => rfl⟩
      · rw [if_neg hgt.not_gt, if_neg hgt.ne]
        refine ⟨b, by simp [hb], tied, rfl, fun c hc => ?_, ?_⟩
        · rcases List.mem_append.mp hc with hc | hc
          · exact hmax c hc
          · rw [List.mem_singleton.mp hc]
            exact hgt.le
        · rw [htied]
          refine ⟨fun ⟨c, hc, hcb, hs⟩ => ⟨c, by simp [hc], hcb, hs⟩, fun ⟨c, hc, hcb, hs⟩ => ?_⟩
          rcases List.mem_append.mp hc with hc | hc
          · exact ⟨c, hc, hcb, hs⟩
          · rw [List.mem_singleton.mp hc] at hs
            exact absurd hs hgt.ne

/-- Without repetitions, the loop ends unshared exactly at an item whose score is greater than those of the others. -/
theorem foldl_keepMax_eq_some {l : List α} (hnodup : l.Nodup) {b : α} :
    l.foldl (keepMax score) none = some (b, false) ↔ b ∈ l ∧ ∀ a ∈ l, a ≠ b → score a < score b := by
  by_cases hl : l = []
  · subst hl
    simp
  · obtain ⟨c, hc, tied, hfold, hmax, htied⟩ := foldl_keepMax score hl hnodup
    rw [hfold, Option.some.injEq, Prod.mk.injEq]
    constructor
    · rintro ⟨rfl, rfl⟩
      refine ⟨hc, fun a ha hne => lt_of_le_of_ne (hmax a ha) fun hs => ?_⟩
      have := htied.mpr ⟨a, ha, hne, hs⟩
      cases this
    · rintro ⟨hb, hbest⟩
      have hcb : c = b := by
        by_contra hne
        exact absurd (hmax b hb) (not_le.mpr (hbest c hc hne))
      subst hcb
      refine ⟨rfl, ?_⟩
      rw [← Bool.not_eq_true, htied]
      rintro ⟨a, ha, hne, hs⟩
      exact absurd hs (hbest a ha hne).ne

end

end Argmax
