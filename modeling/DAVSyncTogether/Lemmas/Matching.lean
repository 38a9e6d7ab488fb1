import DAVSyncTogether.Lemmas.Loading

/-!
# What a variant renders

The rule that a variant has for a base addon, said without the loops of the source (`VariantRule.Affects`), and what the two
ways of matching compute from it: the pool of a replaced armor holds what is rendered in the place of some affected base
addon, and the expected addons of a hidden one what is rendered for each base addon.
-/

namespace DAVSyncTogether

open ByteString Related SortUnique

/-- The addons that a variant renders in the place of a base addon that it affects: those of the addon's own entry, or,
without one, those of the smallest of the variant's slots that the addon uses. -/
inductive VariantRule.Affects (s : Session) (variant : VariantRule) (base : FormIdentity) : List FormIdentity → Prop where
  | form (l : List FormIdentity) (hl : variant.replaceByForm.lookup base.stableKey = some l) : Affects s variant base l
  | slot (addon : TESObjectARMA) (slot : UInt32) (l : List FormIdentity)
      (hform : variant.replaceByForm.lookup base.stableKey = none) (haddon : resolveAddon s base = some addon)
      (hl : variant.replaceBySlot.lookup slot = some l) (huses : armorAddonUsesSlot addon slot = true)
      (hleast : ∀ slot' ∈ variant.replaceBySlot, armorAddonUsesSlot addon slot' = true → slot ≤ slot') :
      Affects s variant base l

/-- The addons rendered for a base addon: the replacements of a base addon that the variant affects, or the base addon
itself. -/
inductive VariantRule.Renders (s : Session) (variant : VariantRule) (base : FormIdentity) : List FormIdentity → Prop where
  | replaced (l : List FormIdentity) (h : variant.Affects s base l) : Renders s variant base l
  | kept (h : ∀ l, ¬variant.Affects s base l) : Renders s variant base [base]

/-- The rules of the variant name addons with a source file. -/
structure VariantRule.Stable (variant : VariantRule) : Prop where
  forms : ∀ k l, variant.replaceByForm.lookup k = some l → ∀ i ∈ l, i.isStable = true
  slots : ∀ slot l, variant.replaceBySlot.lookup slot = some l → ∀ i ∈ l, i.isStable = true

/-- The rules of every variant name addons with a source file. -/
def DAVConfigIndex.Stable (index : DAVConfigIndex) : Prop :=
  ∀ name variant, index.variants.lookup name = some variant → variant.Stable

instance decStable (variant : VariantRule) : Decidable variant.Stable :=
  decidable_of_iff
    ((∀ e ∈ variant.replaceByForm.entries, ∀ i ∈ e.2, i.isStable = true) ∧
      ∀ e ∈ variant.replaceBySlot.entries, ∀ i ∈ e.2, i.isStable = true)
    ⟨fun ⟨forms, slots⟩ => ⟨forall_lookup_iff.mpr forms, forall_lookup_iff.mpr slots⟩,
     fun ⟨forms, slots⟩ => ⟨forall_lookup_iff.mp forms, forall_lookup_iff.mp slots⟩⟩

instance decIndexStable (index : DAVConfigIndex) : Decidable index.Stable :=
  decidable_of_iff (∀ e ∈ index.variants.entries, e.2.Stable)
    (forall_lookup_iff (P := fun _ variant => VariantRule.Stable variant)).symm

/-- An addon is rendered in the place of some base addon of the armor that the variant affects. -/
def VariantRule.InPool (s : Session) (variant : VariantRule) (armor : WornArmorState) (i : FormIdentity) : Prop :=
  ∃ base ∈ armor.baseArmorAddons, ∃ l, variant.Affects s base l ∧ i ∈ l

section

variable {s : Session} {variant : VariantRule} {base : FormIdentity}

/-- The loops of the source find the rule. -/
theorem ruleFor_eq_some (l : List FormIdentity) : variant.ruleFor s base = some l ↔ variant.Affects s base l := by
  unfold VariantRule.ruleFor
  cases hform : variant.replaceByForm.lookup base.stableKey with
  | some direct =>
    refine ⟨fun h => ?_, fun h => ?_⟩
    · cases h
      exact .form _ hform
    · cases h with
      | form l hl => exact hform.symm.trans hl
      | slot addon slot l hnone => rw [hnone] at hform; cases hform
  | none =>
    cases haddon : resolveAddon s base with
    | none =>
      refine ⟨nofun, fun h => ?_⟩
      cases h with
      | form l hl => rw [hl] at hform; cases hform
      | slot addon slot l _ hsome => rw [hsome] at haddon; cases haddon
    | some addon =>
      dsimp only
      rw [Option.bind_eq_some_iff]
      refine ⟨fun ⟨slot, hfind, hl⟩ => ?_, fun h => ?_⟩
      · obtain ⟨-, huses, hleast⟩ := find?_insertionSort_eq_some.mp hfind
        exact .slot addon slot l hform haddon hl huses hleast
      · cases h with
        | form l hl => rw [hl] at hform; cases hform
        | slot addon' slot l _ hsome hl huses hleast =>
          rw [haddon, Option.some.injEq] at hsome
          subst hsome
          exact ⟨slot, find?_insertionSort_eq_some.mpr
            ⟨AList.lookup_isSome.mp (by rw [hl]; rfl), huses, hleast⟩, hl⟩

theorem ruleFor_eq_none : variant.ruleFor s base = none ↔ ∀ l, ¬variant.Affects s base l := by
  rw [Option.eq_none_iff_forall_ne_some]
  exact forall_congr' fun l => not_congr (ruleFor_eq_some l)

end

/-! ## The lists that the matching loops collect -/

section

variable {s : Session} {variant : VariantRule} {armor : WornArmorState}

/-- A loop that appends a list for each item collects the lists. -/
theorem foldl_collect {α β : Type} {step : Bool × List β → α → Bool × List β} {f : α → List β}
    (hstep : ∀ r a, (step r a).2 = r.2 ++ f a) (l : List α) (r : Bool × List β) : (l.foldl step r).2 = r.2 ++ l.flatMap f := by
  induction l generalizing r with
  | nil => simp
  | cons a l ih => rw [List.foldl_cons, ih, hstep, List.flatMap_cons, List.append_assoc]

theorem replacementPool_eq : (variant.replacementPool s armor).2 =
    sortAndUnique (armor.baseArmorAddons.flatMap fun base => (variant.ruleFor s base).getD []) := by
  unfold VariantRule.replacementPool
  dsimp only
  rw [foldl_collect (f := fun base => (variant.ruleFor s base).getD []) fun r base => ?_, List.nil_append]
  cases variant.ruleFor s base <;> simp

theorem buildExpectedActive_eq : (variant.buildExpectedActive s armor).2 =
    sortAndUnique (armor.baseArmorAddons.flatMap fun base => (variant.ruleFor s base).getD [base]) := by
  unfold VariantRule.buildExpectedActive
  dsimp only
  rw [foldl_collect (f := fun base => (variant.ruleFor s base).getD [base]) fun r base => ?_, List.nil_append]
  cases variant.ruleFor s base <;> simp

/-- A loop over the base addons that notes whether the variant has a rule for one of them. -/
theorem foldl_affected (s : Session) (variant : VariantRule)
    {step : Bool × List FormIdentity → FormIdentity → Bool × List FormIdentity}
    (hstep : ∀ r base, (step r base).1 = (r.1 || (variant.ruleFor s base).isSome)) (bases : List FormIdentity)
    (r : Bool × List FormIdentity) :
    (bases.foldl step r).1 = (r.1 || bases.any (fun base => (variant.ruleFor s base).isSome)) := by
  induction bases generalizing r with
  | nil => simp
  | cons base bases ih => rw [List.foldl_cons, ih, hstep, List.any_cons, Bool.or_assoc]

/-- A replaced armor is affected when the variant has a rule for one of its base addons. -/
theorem replacementPool_affected :
    (variant.replacementPool s armor).1 = armor.baseArmorAddons.any (fun base => (variant.ruleFor s base).isSome) := by
  unfold VariantRule.replacementPool
  dsimp only
  rw [foldl_affected s variant (fun r base => ?_), Bool.false_or]
  cases variant.ruleFor s base <;> simp

/-- As for a replaced armor, so for a hidden one. -/
theorem buildExpectedActive_affected :
    (variant.buildExpectedActive s armor).1 = armor.baseArmorAddons.any (fun base => (variant.ruleFor s base).isSome) := by
  unfold VariantRule.buildExpectedActive
  dsimp only
  rw [foldl_affected s variant (fun r base => ?_), Bool.false_or]
  cases variant.ruleFor s base <;> simp

theorem mem_collected (i : FormIdentity) :
    (i ∈ armor.baseArmorAddons.flatMap fun base => (variant.ruleFor s base).getD []) ↔ variant.InPool s armor i := by
  rw [List.mem_flatMap]
  refine exists_congr fun base => and_congr_right fun _ => ?_
  cases h : variant.ruleFor s base with
  | none => simp [ruleFor_eq_none.mp h]
  | some r =>
    refine ⟨fun hi => ⟨r, (ruleFor_eq_some r).mp h, hi⟩, fun ⟨l, hl, hi⟩ => ?_⟩
    rw [← ruleFor_eq_some, h, Option.some.injEq] at hl
    exact hl ▸ hi

theorem containsStable_iff (values : List FormIdentity) (needle : FormIdentity) :
    containsStable values needle = true ↔ ∃ value ∈ values, value.stableEquivalent needle = true := List.any_eq_true

/-- What a variant of stable rules renders is stable. -/
theorem VariantRule.Stable.isStable_of_inPool (h : variant.Stable) {i : FormIdentity} (hi : variant.InPool s armor i) :
    i.isStable = true := by
  obtain ⟨base, -, l, hl, hmem⟩ := hi
  cases hl with
  | form l hl => exact h.forms _ l hl i hmem
  | slot addon slot l _ _ hl => exact h.slots slot l hl i hmem

/-- Sorting and dropping repetitions keeps some addon exactly when there is one. -/
theorem replacementPool_ne_nil : (variant.replacementPool s armor).2 ≠ [] ↔ ∃ i, variant.InPool s armor i := by
  rw [replacementPool_eq, sortAndUnique, Ne, sortUnique_eq_nil, ← Ne, ← List.isEmpty_eq_false_iff,
    List.isEmpty_eq_false_iff_exists_mem]
  exact exists_congr mem_collected

/-- Of stable identities, sorting and dropping repetitions keeps an equivalent of everything in the pool, and the equivalence
with a stable addon does not tell the two apart. -/
theorem VariantRule.Stable.containsStable_replacementPool (h : variant.Stable) {active : FormIdentity}
    (hactive : active.isStable = true) :
    containsStable (variant.replacementPool s armor).2 active = true ↔
      ∃ i, variant.InPool s armor i ∧ i.stableEquivalent active = true := by
  rw [containsStable_iff, replacementPool_eq]
  constructor
  · rintro ⟨i, hi, heq⟩
    exact ⟨i, (mem_collected i).mp (sortUnique_subset _ _ _ i hi), heq⟩
  · rintro ⟨i, hi, heq⟩
    obtain ⟨kept, hkept, hrep⟩ : ∃ kept ∈ sortAndUnique (armor.baseArmorAddons.flatMap fun base =>
        (variant.ruleFor s base).getD []), kept.stableEquivalent i = true :=
      exists_mem_sortUnique (fun j _ => j.stableEquivalent_refl) ((mem_collected i).mpr hi)
    have hstable : kept.isStable = true := h.isStable_of_inPool ((mem_collected kept).mp (sortUnique_subset _ _ _ kept hkept))
    have hi' : i.isStable = true := h.isStable_of_inPool hi
    exact ⟨kept, hkept, FormIdentity.stableEquivalent_trans hstable hi' hactive hrep heq⟩

/-- A variant renders nothing when every base addon is rendered, exactly when it renders nothing for each. -/
theorem buildExpectedActive_eq_nil :
    (variant.buildExpectedActive s armor).2 = [] ↔ ∀ base ∈ armor.baseArmorAddons, variant.Affects s base [] := by
  rw [buildExpectedActive_eq, sortAndUnique, sortUnique_eq_nil, List.flatMap_eq_nil_iff]
  refine forall₂_congr fun base _ => ?_
  rw [← ruleFor_eq_some]
  cases variant.ruleFor s base <;> simp

end

/-! ## The list of matches -/

section

variable {s : Session} {index : DAVConfigIndex} {armor : WornArmorState}

/-- The names of the variants that pass a test, sorted. -/
theorem mem_sorted_names (variants : AList (fun _ : Bytes => VariantRule)) (p : VariantRule → Bool) (name : Bytes) :
    name ∈ ((variants.entries.filter (fun e => p e.2)).map (·.1)).insertionSort (· ≤ ·) ↔
      ∃ variant, variants.lookup name = some variant ∧ p variant = true := by
  rw [List.mem_insertionSort, List.mem_map]
  refine ⟨fun ⟨⟨name', variant⟩, he, hname⟩ => ?_, fun ⟨variant, hv, hp⟩ => ?_⟩
  · obtain ⟨hentry, hp⟩ := List.mem_filter.mp he
    cases hname
    exact ⟨variant, AList.mem_lookup_iff.mpr hentry, hp⟩
  · exact ⟨⟨name, variant⟩, List.mem_filter.mpr ⟨AList.mem_lookup_iff.mp hv, hp⟩, rfl⟩

theorem mem_findMatchingVariants_replaced (hl : index.loaded = true) (h : armor.visualState = .replaced) (name : Bytes) :
    name ∈ index.findMatchingVariants s armor ↔
      ∃ variant, index.variants.lookup name = some variant ∧ variant.matchesReplaced s armor = true := by
  simp only [DAVConfigIndex.findMatchingVariants, hl, h, Bool.not_true, Bool.false_eq_true, if_false]
  exact mem_sorted_names index.variants (fun variant => variant.matchesReplaced s armor) name

theorem mem_findMatchingVariants_hidden (hl : index.loaded = true) (h : armor.visualState = .hidden) (name : Bytes) :
    name ∈ index.findMatchingVariants s armor ↔
      ∃ variant, index.variants.lookup name = some variant ∧ variant.matchesHidden s armor = true := by
  simp only [DAVConfigIndex.findMatchingVariants, hl, h, Bool.not_true, Bool.false_eq_true, if_false]
  exact mem_sorted_names index.variants (fun variant => variant.matchesHidden s armor) name

/-- A match of any armor explains it as a replaced or as a hidden one. -/
theorem exists_of_mem_findMatchingVariants {name : Bytes} (h : name ∈ index.findMatchingVariants s armor) :
    ∃ variant, index.variants.lookup name = some variant ∧
      (variant.matchesReplaced s armor = true ∨ variant.matchesHidden s armor = true) := by
  unfold DAVConfigIndex.findMatchingVariants at h
  split at h
  · cases h
  · split at h
    · obtain ⟨variant, hv, hmatch⟩ := (mem_sorted_names _ (fun variant => variant.matchesReplaced s armor) name).mp h
      exact ⟨variant, hv, Or.inl hmatch⟩
    · obtain ⟨variant, hv, hmatch⟩ := (mem_sorted_names _ (fun variant => variant.matchesHidden s armor) name).mp h
      exact ⟨variant, hv, Or.inr hmatch⟩
    · cases h

/-- The matches are strictly sorted. -/
theorem pairwise_findMatchingVariants (s : Session) (index : DAVConfigIndex) (armor : WornArmorState) :
    (index.findMatchingVariants s armor).Pairwise (· < ·) := by
  have sorted : ∀ p : Sigma (fun _ : Bytes => VariantRule) → Bool,
      (((index.variants.entries.filter p).map (·.1)).insertionSort (· ≤ ·)).Pairwise (· < ·) := by
    intro p
    refine pairwise_lt_insertionSort ?_
    exact (List.filter_sublist.map _).nodup index.variants.keys_nodup
  unfold DAVConfigIndex.findMatchingVariants
  split
  · exact List.Pairwise.nil
  · split
    · exact sorted _
    · exact sorted _
    · exact List.Pairwise.nil

end

end DAVSyncTogether
