import Mathlib.Data.List.AList
import Mathlib.Data.List.Forall2
import Mathlib.Data.List.Sort
import Mathlib.Data.Option.Basic

/-!
# Related options, lists and maps

Two computations over related data agree when every test they make agrees on related items. `rel_cases` splits related
options, `any_of_forall₂` and `all_of_forall₂` are about tests on lists, `forall₂_insertionSort` about sorting, and `MapRel`
about maps: the same keys, and related values.
-/

namespace Related

variable {α β κ : Type}

/-! ## Options -/

section

variable {R : α → β → Prop} {x : Option α} {y : Option β}

/-- Related options are both empty, or hold related values. -/
theorem rel_cases (h : Option.Rel R x y) : (x = none ∧ y = none) ∨ ∃ a b, x = some a ∧ y = some b ∧ R a b := by
  cases h with
  | none => exact Or.inl ⟨rfl, rfl⟩
  | some hab => exact Or.inr ⟨_, _, rfl, rfl, hab⟩

theorem rel_some_left {a : α} (h : Option.Rel R (some a) y) : ∃ b, y = some b ∧ R a b := by
  cases h with
  | some hab => exact ⟨_, rfl, hab⟩

end

/-! ## Lists -/

section

variable {R : α → β → Prop} {l : List α} {m : List β}

theorem any_of_forall₂ {p : α → Bool} {q : β → Bool} (h : List.Forall₂ R l m) (hpq : ∀ a b, R a b → p a = q b) :
    l.any p = m.any q := by
  induction h with
  | nil => rfl
  | cons hab _ ih => rw [List.any_cons, List.any_cons, hpq _ _ hab, ih]

theorem all_of_forall₂ {p : α → Bool} {q : β → Bool} (h : List.Forall₂ R l m) (hpq : ∀ a b, R a b → p a = q b) :
    l.all p = m.all q := by
  induction h with
  | nil => rfl
  | cons hab _ ih => rw [List.all_cons, List.all_cons, hpq _ _ hab, ih]

/-- Inserting related items at the place that related tests give. -/
theorem forall₂_orderedInsert {r : α → α → Prop} {t : β → β → Prop} [DecidableRel r] [DecidableRel t]
    (hrt : ∀ a b a' b', R a b → R a' b' → (r a a' ↔ t b b')) {a : α} {b : β} (hab : R a b) (h : List.Forall₂ R l m) :
    List.Forall₂ R (l.orderedInsert r a) (m.orderedInsert t b) := by
  induction h with
  | nil => exact List.Forall₂.cons hab List.Forall₂.nil
  | @cons a' b' l m hab' hlm ih =>
    rw [List.orderedInsert, List.orderedInsert]
    by_cases hr : r a a'
    · rw [if_pos hr, if_pos ((hrt a b a' b' hab hab').mp hr)]
      exact List.Forall₂.cons hab (List.Forall₂.cons hab' hlm)
    · rw [if_neg hr, if_neg (fun ht => hr ((hrt a b a' b' hab hab').mpr ht))]
      exact List.Forall₂.cons hab' ih

/-- Sorting related lists by related tests. -/
theorem forall₂_insertionSort {r : α → α → Prop} {t : β → β → Prop} [DecidableRel r] [DecidableRel t]
    (hrt : ∀ a b a' b', R a b → R a' b' → (r a a' ↔ t b b')) (h : List.Forall₂ R l m) :
    List.Forall₂ R (l.insertionSort r) (m.insertionSort t) := by
  induction h with
  | nil => exact List.Forall₂.nil
  | cons hab _ ih => exact forall₂_orderedInsert hrt hab ih

end

/-! ## Maps -/

/-- What is found after an insertion is the inserted value, or was found before. -/
theorem lookup_insert_eq_some [DecidableEq κ] {m : AList (fun _ : κ => α)} {k k' : κ} {a b : α}
    (h : (m.insert k a).lookup k' = some b) : b = a ∨ m.lookup k' = some b := by
  by_cases hk : k' = k
  · subst hk
    rw [AList.lookup_insert, Option.some.injEq] at h
    exact Or.inl h.symm
  · rw [AList.lookup_insert_ne hk] at h
    exact Or.inr h

/-- Some value that is found after an insertion has a property exactly when the inserted value has it, or one under another
key. -/
theorem exists_lookup_insert [DecidableEq κ] {m : AList (fun _ : κ => α)} {k : κ} {a : α} (p : α → Prop) :
    (∃ k' b, (m.insert k a).lookup k' = some b ∧ p b) ↔ p a ∨ ∃ k' b, k' ≠ k ∧ m.lookup k' = some b ∧ p b := by
  constructor
  · rintro ⟨k', b, hb, hp⟩
    by_cases hk : k' = k
    · rw [hk, AList.lookup_insert, Option.some.injEq] at hb
      exact Or.inl (hb ▸ hp)
    · rw [AList.lookup_insert_ne hk] at hb
      exact Or.inr ⟨k', b, hk, hb, hp⟩
  · rintro (hp | ⟨k', b, hk, hb, hp⟩)
    · exact ⟨k, a, AList.lookup_insert m, hp⟩
    · exact ⟨k', b, (AList.lookup_insert_ne hk).trans hb, hp⟩

/-- An insertion that keeps the property at its key keeps whether some value has it. -/
theorem exists_lookup_insert_iff [DecidableEq κ] {m : AList (fun _ : κ => α)} {k : κ} {a : α} (p : α → Prop)
    (h : p a ↔ ∃ b, m.lookup k = some b ∧ p b) :
    (∃ k' b, (m.insert k a).lookup k' = some b ∧ p b) ↔ ∃ k' b, m.lookup k' = some b ∧ p b := by
  rw [exists_lookup_insert, h]
  constructor
  · rintro (⟨b, hb, hp⟩ | ⟨k', b, -, hb, hp⟩)
    · exact ⟨k, b, hb, hp⟩
    · exact ⟨k', b, hb, hp⟩
  · rintro ⟨k', b, hb, hp⟩
    by_cases hk : k' = k
    · exact Or.inl ⟨b, hk ▸ hb, hp⟩
    · exact Or.inr ⟨k', b, hk, hb, hp⟩

/-- A property of everything that a map finds is one of its entries, and so can be tested. -/
theorem forall_lookup_iff [DecidableEq κ] {m : AList (fun _ : κ => α)} {P : κ → α → Prop} :
    (∀ k a, m.lookup k = some a → P k a) ↔ ∀ e ∈ m.entries, P e.1 e.2 :=
  ⟨fun h e he => h e.1 e.2 (AList.mem_lookup_iff.mpr he), fun h k a hk => h ⟨k, a⟩ (AList.mem_lookup_iff.mp hk)⟩

/-- Two maps with the same keys, in one order, and related values. -/
structure MapRel [DecidableEq κ] (R : α → β → Prop) (m : AList (fun _ : κ => α)) (n : AList (fun _ : κ => β)) : Prop where
  keys : m.keys = n.keys
  lookup : ∀ k, Option.Rel R (m.lookup k) (n.lookup k)

section

variable [DecidableEq κ] {R : α → β → Prop} {m : AList (fun _ : κ => α)} {n : AList (fun _ : κ => β)}

theorem MapRel.empty : MapRel (κ := κ) R ∅ ∅ := ⟨rfl, fun _ => Option.Rel.none⟩

theorem MapRel.insert (h : MapRel R m n) (k : κ) {a : α} {b : β} (hab : R a b) : MapRel R (m.insert k a) (n.insert k b) := by
  refine ⟨by rw [AList.keys_insert, AList.keys_insert, h.keys], fun k' => ?_⟩
  by_cases hk : k' = k
  · subst hk
    rw [AList.lookup_insert, AList.lookup_insert]
    exact Option.Rel.some hab
  · rw [AList.lookup_insert_ne hk, AList.lookup_insert_ne hk]
    exact h.lookup k'

theorem MapRel.isSome (h : MapRel R m n) (k : κ) : (m.lookup k).isSome = (n.lookup k).isSome := by
  rcases rel_cases (h.lookup k) with ⟨ha, hb⟩ | ⟨a, b, ha, hb, -⟩
  · rw [ha, hb]
    rfl
  · rw [ha, hb]
    rfl

/-- The keys of the entries that pass a test, from the keys and the lookups. -/
theorem map_fst_filter_entries (m : AList (fun _ : κ => α)) (p : α → Bool) :
    (m.entries.filter (fun e => p e.2)).map (·.1) = m.keys.filter (fun k => (m.lookup k).any p) := by
  have hkeys : m.keys = m.entries.map (·.1) := rfl
  rw [hkeys, List.filter_map]
  refine congrArg (List.map _) (List.filter_congr fun e he => ?_)
  have hlookup : m.lookup e.1 = some e.2 := AList.mem_lookup_iff.mpr he
  rw [Function.comp_apply, hlookup, Option.any_some]

/-- Related tests are passed by the same keys. -/
theorem MapRel.filter_entries (h : MapRel R m n) {p : α → Bool} {q : β → Bool} (hpq : ∀ a b, R a b → p a = q b) :
    (m.entries.filter (fun e => p e.2)).map (·.1) = (n.entries.filter (fun e => q e.2)).map (·.1) := by
  rw [map_fst_filter_entries, map_fst_filter_entries, h.keys]
  refine List.filter_congr fun k _ => ?_
  rcases rel_cases (h.lookup k) with ⟨ha, hb⟩ | ⟨a, b, ha, hb, hab⟩
  · rw [ha, hb]
    rfl
  · rw [ha, hb]
    exact hpq a b hab

end

end Related
