import Mathlib.Data.List.Destutter
import Mathlib.Data.List.Sort

/-!
# Sorting, then dropping repeated neighbours

`sortUnique lt eqv` is `std::sort` with the order `lt` followed by `std::unique` with the equivalence `eqv`. Where `lt` is a
strict total order and `eqv` tells the elements of the list apart, the result is the strictly increasing list of the same
elements (`pairwise_sortUnique`, `mem_sortUnique`): a canonical form of a finite set, which does not depend on the order of
the list nor on repetitions (`sortUnique_congr`) and commutes with every map that keeps the order and the equivalence
(`sortUnique_map`). Of a list in a linear order, sorting makes the first element that passes a test the least one
(`find?_insertionSort_eq_some`).
-/

namespace SortUnique

variable {α β : Type}

/-- A strict total order, as a test. -/
structure StrictTotal (lt : α → α → Bool) : Prop where
  irrefl : ∀ a, lt a a = false
  trans : ∀ a b c, lt a b = true → lt b c = true → lt a c = true
  total : ∀ a b, lt a b = true ∨ a = b ∨ lt b a = true

/-- `a` may stand before `b`: `b` is not less than `a`. -/
abbrev NotAfter (lt : α → α → Bool) (a b : α) : Prop := lt b a = false

/-- `std::sort`, then `std::unique`, then the erasure of what `std::unique` left behind. -/
def sortUnique (lt eqv : α → α → Bool) (l : List α) : List α :=
  (l.insertionSort (NotAfter lt)).destutter (fun a b => eqv a b = false)

/-- The equivalence tells the elements of the list apart. -/
def Separates (eqv : α → α → Bool) (l : List α) : Prop := ∀ a ∈ l, ∀ b ∈ l, (eqv a b = true ↔ a = b)

/-! ## The order -/

theorem StrictTotal.asymm {lt : α → α → Bool} (h : StrictTotal lt) {a b : α} (hab : lt a b = true) : lt b a = false := by
  by_contra hba
  have := h.trans a b a hab (by simpa using hba)
  rw [h.irrefl] at this
  cases this

/-- Of two different elements, the one that may stand before the other is less. -/
theorem StrictTotal.lt_of_notAfter {lt : α → α → Bool} (h : StrictTotal lt) {a b : α} (hab : NotAfter lt a b)
    (hne : a ≠ b) : lt a b = true := by
  rcases h.total a b with hlt | heq | hgt
  · exact hlt
  · exact absurd heq hne
  · rw [hab] at hgt
    cases hgt

theorem StrictTotal.notAfter_trans {lt : α → α → Bool} (h : StrictTotal lt) : IsTrans α (NotAfter lt) := by
  refine ⟨fun a b c hab hbc => ?_⟩
  by_cases h1 : a = b
  · exact h1 ▸ hbc
  · by_cases h2 : b = c
    · exact h2 ▸ hab
    · exact h.asymm (h.trans a b c (h.lt_of_notAfter hab h1) (h.lt_of_notAfter hbc h2))

theorem StrictTotal.notAfter_total {lt : α → α → Bool} (h : StrictTotal lt) : Std.Total (NotAfter lt) := by
  refine ⟨fun a b => ?_⟩
  cases hba : lt b a
  · exact Or.inl hba
  · exact Or.inr (h.asymm hba)

/-- A test that compares an injective key in a linear order is a strict total order. -/
theorem StrictTotal.ofKey [LinearOrder β] {lt : α → α → Bool} {key : α → β} (h : ∀ a b, lt a b = true ↔ key a < key b)
    (hkey : Function.Injective key) : StrictTotal lt where
  irrefl a := by
    rw [← Bool.not_eq_true, h]
    exact lt_irrefl _
  trans a b c hab hbc := by
    rw [h] at hab hbc ⊢
    exact lt_trans hab hbc
  total a b := by
    rw [h, h]
    rcases lt_trichotomy (key a) (key b) with hlt | heq | hgt
    · exact Or.inl hlt
    · exact Or.inr (Or.inl (hkey heq))
    · exact Or.inr (Or.inr hgt)

/-! ## Sorting is determined by the elements -/

/-- Lists of the same elements, each as often, sorted by a key that tells the elements apart, are equal. -/
theorem insertionSort_congr {lt : β → β → Bool} (h : StrictTotal lt) (key : α → β) {l l' : List α} (hp : l.Perm l')
    (hkey : ∀ a ∈ l, ∀ b ∈ l, key a = key b → a = b) :
    l.insertionSort (NotAfter fun a b => lt (key a) (key b)) = l'.insertionSort (NotAfter fun a b => lt (key a) (key b)) := by
  have : IsTrans α (NotAfter fun a b => lt (key a) (key b)) := ⟨fun a b c => h.notAfter_trans.trans (key a) (key b) (key c)⟩
  have : Std.Total (NotAfter fun a b => lt (key a) (key b)) := ⟨fun a b => h.notAfter_total.total (key a) (key b)⟩
  have hp' := ((List.perm_insertionSort (NotAfter fun a b => lt (key a) (key b)) l).trans hp).trans
    (List.perm_insertionSort (NotAfter fun a b => lt (key a) (key b)) l').symm
  refine hp'.eq_of_pairwise ?_ (List.pairwise_insertionSort _ l) (List.pairwise_insertionSort _ l')
  intro a b ha hb hab hba
  by_contra hne
  have hb' : b ∈ l := hp.mem_iff.mpr ((List.mem_insertionSort _).mp hb)
  have hlt : lt (key a) (key b) = true :=
    h.lt_of_notAfter hab fun heq => hne (hkey a ((List.mem_insertionSort _).mp ha) b hb' heq)
  exact absurd hlt (ne_true_of_eq_false hba)

/-! ## Sorted linear orders -/

section

variable [LinearOrder α]

/-- The first element of a sorted list that passes a test is the least one that does. -/
theorem find?_insertionSort_eq_some {l : List α} {p : α → Bool} {a : α} :
    (l.insertionSort (· ≤ ·)).find? p = some a ↔ a ∈ l ∧ p a = true ∧ ∀ b ∈ l, p b = true → a ≤ b := by
  have least : ∀ {a}, (l.insertionSort (· ≤ ·)).find? p = some a → a ∈ l ∧ p a = true ∧ ∀ b ∈ l, p b = true → a ≤ b := by
    intro a h
    have ha := (List.mem_insertionSort _).mp (List.mem_of_find?_eq_some h)
    obtain ⟨hp, before, after, hsplit, hbefore⟩ := List.find?_eq_some_iff_append.mp h
    refine ⟨ha, hp, fun b hb hpb => ?_⟩
    have hsorted := List.pairwise_insertionSort (· ≤ ·) l
    rw [hsplit, List.pairwise_append, List.pairwise_cons] at hsorted
    rw [← List.mem_insertionSort (· ≤ ·), hsplit, List.mem_append, List.mem_cons] at hb
    rcases hb with hb | rfl | hb
    · have := hbefore b hb
      rw [hpb] at this
      cases this
    · exact le_refl b
    · exact hsorted.2.1.1 b hb
  refine ⟨least, fun ⟨ha, hp, hle⟩ => ?_⟩
  cases hfind : (l.insertionSort (· ≤ ·)).find? p with
  | none => exact absurd hp (List.find?_eq_none.mp hfind a ((List.mem_insertionSort _).mpr ha))
  | some b =>
    obtain ⟨hb, hpb, hleb⟩ := least hfind
    rw [le_antisymm (hleb a ha hp) (hle b hb hpb)]

/-- Sorting a list without repetitions makes it strictly increasing. -/
theorem pairwise_lt_insertionSort {l : List α} (h : l.Nodup) : (l.insertionSort (· ≤ ·)).Pairwise (· < ·) := by
  have hnodup := (List.perm_insertionSort (· ≤ ·) l).nodup_iff.mpr h
  exact ((List.pairwise_insertionSort (· ≤ ·) l).and hnodup).imp fun h => lt_of_le_of_ne h.1 h.2

end

/-! ## What `sortUnique` returns -/

/-- Dropping repeated neighbours keeps an equivalent of every element: an element is dropped for the one kept before it. -/
theorem exists_mem_destutter' {eqv : α → α → Bool} (l : List α) (a : α) (hrefl : ∀ b ∈ a :: l, eqv b b = true) :
    ∀ b ∈ a :: l, ∃ c ∈ l.destutter' (fun x y => eqv x y = false) a, eqv c b = true := by
  induction l generalizing a with
  | nil =>
    intro b hb
    rw [List.mem_singleton.mp hb]
    exact ⟨a, List.mem_singleton_self a, hrefl a (List.mem_singleton_self a)⟩
  | cons d l ih =>
    intro b hb
    have hd := ih d fun x hx => hrefl x (List.mem_cons_of_mem _ hx)
    have ha := ih a fun x hx => hrefl x (by rcases List.mem_cons.mp hx with rfl | hx <;> simp [*])
    rw [List.destutter'_cons]
    split
    · rcases List.mem_cons.mp hb with rfl | hb
      · exact ⟨b, List.mem_cons_self, hrefl b List.mem_cons_self⟩
      · obtain ⟨c, hc, hcb⟩ := hd b hb
        exact ⟨c, List.mem_cons_of_mem _ hc, hcb⟩
    · rename_i had
      rcases List.mem_cons.mp hb with rfl | hb
      · exact ha b List.mem_cons_self
      · rcases List.mem_cons.mp hb with rfl | hb
        · exact ⟨a, List.mem_destutter' _ _ a, by simpa using had⟩
        · exact ha b (List.mem_cons_of_mem _ hb)

/-- The result holds nothing that the list does not hold. -/
theorem sortUnique_subset (lt eqv : α → α → Bool) (l : List α) : ∀ a ∈ sortUnique lt eqv l, a ∈ l := by
  intro a ha
  have := (List.destutter_sublist (fun x y => eqv x y = false) (l.insertionSort (NotAfter lt))).subset ha
  exact (List.mem_insertionSort (NotAfter lt)).mp this

/-- The result holds an equivalent of every element of the list. -/
theorem exists_mem_sortUnique {lt eqv : α → α → Bool} {l : List α} (hrefl : ∀ a ∈ l, eqv a a = true) {a : α} (ha : a ∈ l) :
    ∃ b ∈ sortUnique lt eqv l, eqv b a = true := by
  have hrefl' : ∀ b ∈ l.insertionSort (NotAfter lt), eqv b b = true := fun b hb => hrefl b ((List.mem_insertionSort _).mp hb)
  have ha' : a ∈ l.insertionSort (NotAfter lt) := (List.mem_insertionSort _).mpr ha
  unfold sortUnique
  cases hl : l.insertionSort (NotAfter lt) with
  | nil =>
    rw [hl] at ha'
    cases ha'
  | cons b t =>
    rw [hl] at ha' hrefl'
    exact exists_mem_destutter' t b hrefl' a ha'

/-- The result holds exactly the elements of the list. -/
theorem mem_sortUnique {lt eqv : α → α → Bool} {l : List α} (hs : Separates eqv l) (a : α) :
    a ∈ sortUnique lt eqv l ↔ a ∈ l := by
  refine ⟨sortUnique_subset lt eqv l a, fun ha => ?_⟩
  have hrep : ∃ b ∈ sortUnique lt eqv l, eqv b a = true := exists_mem_sortUnique (fun c hc => (hs c hc c hc).mpr rfl) ha
  obtain ⟨b, hb, hba⟩ := hrep
  rw [(hs b (sortUnique_subset lt eqv l b hb) a ha).mp hba] at hb
  exact hb

/-- The result is empty only for the empty list. -/
theorem sortUnique_eq_nil {lt eqv : α → α → Bool} {l : List α} : sortUnique lt eqv l = [] ↔ l = [] := by
  rw [sortUnique, List.destutter_eq_nil]
  constructor
  · intro h
    have := (List.perm_insertionSort (NotAfter lt) l).length_eq
    rw [h] at this
    exact List.eq_nil_of_length_eq_zero this.symm
  · rintro rfl
    rfl

/-- A sorted list whose neighbours differ is strictly increasing. -/
theorem pairwise_lt_of_sorted {lt : α → α → Bool} (h : StrictTotal lt) {l : List α} (hle : l.Pairwise (NotAfter lt))
    (hne : l.IsChain (· ≠ ·)) : l.Pairwise (fun a b => lt a b = true) := by
  have : Trans (fun a b => lt a b = true) (fun a b => lt a b = true) (fun a b => lt a b = true) :=
    ⟨fun {a b c} => h.trans a b c⟩
  rw [← List.isChain_iff_pairwise]
  induction l with
  | nil => exact List.isChain_nil
  | cons a l ih =>
    have hl := ih (List.pairwise_cons.mp hle).2 hne.tail
    cases l with
    | nil => exact List.isChain_singleton a
    | cons b l =>
      have hab := (List.pairwise_cons.mp hle).1 b (by simp)
      exact List.isChain_cons_cons.mpr ⟨h.lt_of_notAfter hab (List.isChain_cons_cons.mp hne).1, hl⟩

/-- The result is strictly increasing. -/
theorem pairwise_sortUnique {lt eqv : α → α → Bool} (h : StrictTotal lt) {l : List α} (hs : Separates eqv l) :
    (sortUnique lt eqv l).Pairwise (fun a b => lt a b = true) := by
  have := h.notAfter_trans
  have := h.notAfter_total
  have hsorted : (sortUnique lt eqv l).Pairwise (NotAfter lt) :=
    (List.pairwise_insertionSort (NotAfter lt) l).sublist (List.destutter_sublist _ _)
  have hchain : (sortUnique lt eqv l).IsChain (fun a b => eqv a b = false) := List.isChain_destutter _ _
  have hmem := sortUnique_subset lt eqv l
  refine pairwise_lt_of_sorted h hsorted (List.IsChain.imp_of_mem_imp ?_ hchain)
  intro a b ha hb hne hab
  rw [(hs a (hmem a ha) b (hmem b hb)).mpr hab] at hne
  cases hne

/-- Lists of the same elements have the same canonical form. -/
theorem sortUnique_congr {lt eqv : α → α → Bool} (h : StrictTotal lt) {l l' : List α} (hs : Separates eqv l)
    (hm : ∀ a, a ∈ l ↔ a ∈ l') : sortUnique lt eqv l = sortUnique lt eqv l' := by
  have hs' : Separates eqv l' := fun a ha b hb => hs a ((hm a).mpr ha) b ((hm b).mpr hb)
  have : Std.Irrefl (fun a b => lt a b = true) := ⟨fun a ha => by rw [h.irrefl] at ha; cases ha⟩
  have : Std.Antisymm (fun a b => lt a b = true) := ⟨fun a b hab hba => by rw [h.asymm hab] at hba; cases hba⟩
  refine List.Pairwise.eq_of_mem_iff (pairwise_sortUnique h hs) (pairwise_sortUnique h hs') fun a => ?_
  rw [mem_sortUnique hs, mem_sortUnique hs', hm]

/-- Sorting and dropping repeated neighbours commutes with a map that keeps both tests. -/
theorem sortUnique_map {lt eqv : α → α → Bool} {lt' eqv' : β → β → Bool} (f : α → β) (l : List α)
    (hlt : ∀ a ∈ l, ∀ b ∈ l, lt' (f a) (f b) = lt a b) (heq : ∀ a ∈ l, ∀ b ∈ l, eqv' (f a) (f b) = eqv a b) :
    sortUnique lt' eqv' (l.map f) = (sortUnique lt eqv l).map f := by
  have hsort : (l.insertionSort (NotAfter lt)).map f = (l.map f).insertionSort (NotAfter lt') :=
    List.map_insertionSort _ _ f l fun a ha b hb => by simp only [NotAfter, hlt b hb a ha]
  unfold sortUnique
  rw [← hsort]
  refine (List.map_destutter fun a ha b hb => ?_).symm
  rw [heq a ((List.mem_insertionSort _).mp ha) b ((List.mem_insertionSort _).mp hb)]

end SortUnique
