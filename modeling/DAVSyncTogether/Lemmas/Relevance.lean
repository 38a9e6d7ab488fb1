import DAVSyncTogether.Lemmas.Matching

/-!
# Relevance depends on the base addons

While a configuration is loaded, every rule of every variant goes into the sets of sources too (`load_covered`), so a variant
that explains an armor touches one of its base addons (`touches_of_match`), and `IsArmorRelevant` is decided by the base
addons alone (`isArmorRelevant_eq_touches`).
-/

namespace DAVSyncTogether

open ByteString Related

/-! ## Loading keeps the sources -/

/-- Every addon and every slot that a rule of the variant names is a source of the index. -/
structure VariantRule.CoveredBy (variant : VariantRule) (index : DAVConfigIndex) : Prop where
  forms : ∀ k ∈ variant.replaceByForm, k ∈ index.sourceArmorAddons
  slots : ∀ slot ∈ variant.replaceBySlot, slot ∈ index.sourceSlots

/-- Every variant of the index is covered by its sources. -/
def DAVConfigIndex.Covered (index : DAVConfigIndex) : Prop :=
  ∀ name variant, index.variants.lookup name = some variant → variant.CoveredBy index

/-- Every index that `Load` builds has every rule of every variant among its sources. -/
theorem load_covered (s : Session) (root : Option (List DirectoryEntry)) : (load s root).Covered := by
  have h := load_invariant s root
  exact fun name variant hv => ⟨fun k hk => (h.addons k).mpr ⟨name, variant, hv, hk⟩,
    fun slot hslot => (h.slots slot).mpr ⟨name, variant, hv, hslot⟩⟩

/-! ## A match touches a base addon -/

section

variable {s : Session} {index : DAVConfigIndex} {variant : VariantRule} {armor : WornArmorState}

/-- A base addon for which a covered variant has a rule is touched by the index. -/
theorem touches_of_ruleFor (h : variant.CoveredBy index) {base : FormIdentity} (hrule : (variant.ruleFor s base).isSome = true) :
    index.touches s base = true := by
  obtain ⟨l, hl⟩ := Option.isSome_iff_exists.mp hrule
  unfold DAVConfigIndex.touches
  rw [Bool.or_eq_true]
  cases (ruleFor_eq_some l).mp hl with
  | form l hform => exact Or.inl (decide_eq_true (h.forms _ (AList.lookup_isSome.mp (by rw [hform]; rfl))))
  | slot addon slot l _ haddon hslot huses =>
    rw [haddon]
    exact Or.inr (decide_eq_true ⟨slot, h.slots slot (AList.lookup_isSome.mp (by rw [hslot]; rfl)), huses⟩)

/-- A variant that explains an armor has a rule for one of its base addons. -/
theorem ruleFor_of_match {name : Bytes} (h : name ∈ index.findMatchingVariants s armor) :
    ∃ variant, index.variants.lookup name = some variant ∧
      armor.baseArmorAddons.any (fun base => (variant.ruleFor s base).isSome) = true := by
  obtain ⟨variant, hv, hmatch⟩ := exists_of_mem_findMatchingVariants h
  refine ⟨variant, hv, ?_⟩
  rcases hmatch with hmatch | hmatch
  · simp only [VariantRule.matchesReplaced, Bool.and_eq_true] at hmatch
    rw [← replacementPool_affected]
    exact hmatch.1.1.1
  · simp only [VariantRule.matchesHidden, Bool.and_eq_true] at hmatch
    rw [← buildExpectedActive_affected]
    exact hmatch.1

/-- In a covered index, an armor that some variant explains touches the index. -/
theorem touches_of_match (h : index.Covered) (hmatch : index.findMatchingVariants s armor ≠ []) :
    armor.baseArmorAddons.any (index.touches s) = true := by
  obtain ⟨name, hname⟩ := List.exists_mem_of_ne_nil _ hmatch
  obtain ⟨variant, hv, hany⟩ := ruleFor_of_match hname
  obtain ⟨base, hbase, hrule⟩ := List.any_eq_true.mp hany
  exact List.any_eq_true.mpr ⟨base, hbase, touches_of_ruleFor (h name variant hv) hrule⟩

/-- In a covered index, relevance is decided by the base addons. -/
theorem isArmorRelevant_eq_touches (h : index.Covered) :
    index.isArmorRelevant s armor = armor.baseArmorAddons.any (index.touches s) := by
  unfold DAVConfigIndex.isArmorRelevant
  by_cases hm : index.findMatchingVariants s armor = []
  · rw [hm]
    rfl
  · rw [touches_of_match h hm, Bool.or_true]

end

end DAVSyncTogether
