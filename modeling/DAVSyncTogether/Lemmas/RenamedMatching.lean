import DAVSyncTogether.Lemmas.RenamedIndex
import DAVSyncTogether.Probe

/-!
# Matching in two load orders

Two armors that name the same forms, asked of two indexes that name the same forms: a variant has the same rule for them,
matches both or neither and gets one score, so the lists of matching variants, the choice among them and the messages agree.
-/

namespace DAVSyncTogether

open ByteString Related

/-- Two worn armors that name the same forms and are shown in one way. -/
structure WornArmorState.Alike (s₁ s₂ : Session) (a b : WornArmorState) : Prop where
  armor : SameName s₁ s₂ a.armor b.armor
  visualState : a.visualState = b.visualState
  base : SameNames s₁ s₂ a.baseArmorAddons b.baseArmorAddons
  active : SameNames s₁ s₂ a.activeArmorAddons b.activeArmorAddons

/-- What the loops over the base addons of an armor keep: one verdict, and addons of the same names. -/
def PoolsAlike (s₁ s₂ : Session) (r r' : Bool × List FormIdentity) : Prop := r.1 = r'.1 ∧ SameNames s₁ s₂ r.2 r'.2

section

variable {ρ : FormID → FormID} {root : Option (List DirectoryEntry)} {s₁ s₂ : Session} {v w : VariantRule} {x y : DAVConfigIndex}
  {a b : WornArmorState} {i j : FormIdentity}

/-! ## The rules of one variant -/

/-- The slots an addon uses are read off its mask. -/
theorem armorAddonUsesSlot_rename (addon : TESObjectARMA) :
    armorAddonUsesSlot (addon.rename ρ) = armorAddonUsesSlot addon := rfl

/-- A base addon has the same rule in both games. -/
theorem LoadOrders.ruleFor_sameNames (h : LoadOrders ρ root s₁ s₂) (hvw : v.Alike s₁ s₂ w) (hij : SameName s₁ s₂ i j) :
    Option.Rel (SameNames s₁ s₂) (v.ruleFor s₁ i) (w.ruleFor s₂ j) := by
  unfold VariantRule.ruleFor
  rw [← hij.stableKey, h.resolveAddon_rename hij, ← hvw.slots.keys]
  rcases rel_cases (hvw.forms.lookup i.stableKey) with ⟨hl, hm⟩ | ⟨l, m, hl, hm, hlm⟩
  · rw [hl, hm]
    cases resolveAddon s₁ i with
    | none => exact Option.Rel.none
    | some addon =>
      dsimp only [Option.map_some]
      rw [armorAddonUsesSlot_rename]
      cases (v.replaceBySlot.keys.insertionSort (· ≤ ·)).find? (armorAddonUsesSlot addon) with
      | none => exact Option.Rel.none
      | some slot => exact hvw.slots.lookup slot
  · rw [hl, hm]
    exact Option.Rel.some hlm

theorem PoolsAlike.sorted (h : LoadOrders ρ root s₁ s₂) {r r' : Bool × List FormIdentity} (hr : PoolsAlike s₁ s₂ r r') :
    PoolsAlike s₁ s₂ (r.1, sortAndUnique r.2) (r'.1, sortAndUnique r'.2) :=
  ⟨hr.1, hr.2.sortUnique h.lawful₁ h.lawful₂⟩

/-- A variant can render the same addons for the two armors, and affects both or neither. -/
theorem LoadOrders.replacementPool_alike (h : LoadOrders ρ root s₁ s₂) (hvw : v.Alike s₁ s₂ w) (hab : a.Alike s₁ s₂ b) :
    PoolsAlike s₁ s₂ (v.replacementPool s₁ a) (w.replacementPool s₂ b) := by
  refine PoolsAlike.sorted h (List.rel_foldl (P := PoolsAlike s₁ s₂) (R := SameName s₁ s₂) ?_ ⟨rfl, List.Forall₂.nil⟩ hab.base)
  intro r r' hr i j hij
  dsimp only
  rcases rel_cases (h.ruleFor_sameNames hvw hij) with ⟨hl, hm⟩ | ⟨l, m, hl, hm, hlm⟩
  · rw [hl, hm]
    exact hr
  · rw [hl, hm]
    exact ⟨rfl, List.rel_append hr.2 hlm⟩

/-- A variant is expected to render the same addons for the two armors. -/
theorem LoadOrders.buildExpectedActive_alike (h : LoadOrders ρ root s₁ s₂) (hvw : v.Alike s₁ s₂ w) (hab : a.Alike s₁ s₂ b) :
    PoolsAlike s₁ s₂ (v.buildExpectedActive s₁ a) (w.buildExpectedActive s₂ b) := by
  refine PoolsAlike.sorted h (List.rel_foldl (P := PoolsAlike s₁ s₂) (R := SameName s₁ s₂) ?_ ⟨rfl, List.Forall₂.nil⟩ hab.base)
  intro r r' hr i j hij
  dsimp only
  rcases rel_cases (h.ruleFor_sameNames hvw hij) with ⟨hl, hm⟩ | ⟨l, m, hl, hm, hlm⟩
  · rw [hl, hm]
    exact ⟨hr.1, List.rel_append hr.2 (List.Forall₂.cons hij List.Forall₂.nil)⟩
  · rw [hl, hm]
    exact ⟨rfl, List.rel_append hr.2 hlm⟩

/-! ## Matching -/

theorem containsStable_sameNames {l m : List FormIdentity} (hlm : SameNames s₁ s₂ l m) (hij : SameName s₁ s₂ i j) :
    containsStable l i = containsStable m j :=
  any_of_forall₂ hlm fun _ _ h => h.stableEquivalent hij

/-- A variant explains both replaced armors or neither. -/
theorem LoadOrders.matchesReplaced_eq (h : LoadOrders ρ root s₁ s₂) (hvw : v.Alike s₁ s₂ w) (hab : a.Alike s₁ s₂ b) :
    v.matchesReplaced s₁ a = w.matchesReplaced s₂ b := by
  have hpools := h.replacementPool_alike hvw hab
  unfold VariantRule.matchesReplaced
  generalize v.replacementPool s₁ a = r at hpools ⊢
  generalize w.replacementPool s₂ b = r' at hpools ⊢
  obtain ⟨affected, pool⟩ := r
  obtain ⟨affected', pool'⟩ := r'
  obtain ⟨haffected, hpool⟩ : affected = affected' ∧ SameNames s₁ s₂ pool pool' := hpools
  have hall : a.activeArmorAddons.all (fun active => containsStable pool active || containsStable a.baseArmorAddons active) =
      b.activeArmorAddons.all (fun active => containsStable pool' active || containsStable b.baseArmorAddons active) := by
    refine all_of_forall₂ hab.active fun i j hij => ?_
    rw [containsStable_sameNames hpool hij, containsStable_sameNames hab.base hij]
  have hany : a.activeArmorAddons.any (containsStable pool) = b.activeArmorAddons.any (containsStable pool') :=
    any_of_forall₂ hab.active fun i j hij => containsStable_sameNames hpool hij
  dsimp only
  rw [haffected, hpool.isEmpty, hall, hany]

/-- A variant explains both hidden armors or neither. -/
theorem LoadOrders.matchesHidden_eq (h : LoadOrders ρ root s₁ s₂) (hvw : v.Alike s₁ s₂ w) (hab : a.Alike s₁ s₂ b) :
    v.matchesHidden s₁ a = w.matchesHidden s₂ b := by
  have hpools := h.buildExpectedActive_alike hvw hab
  unfold VariantRule.matchesHidden
  generalize v.buildExpectedActive s₁ a = r at hpools ⊢
  generalize w.buildExpectedActive s₂ b = r' at hpools ⊢
  obtain ⟨affected, expected⟩ := r
  obtain ⟨affected', expected'⟩ := r'
  obtain ⟨haffected, hexpected⟩ : affected = affected' ∧ SameNames s₁ s₂ expected expected' := hpools
  dsimp only
  rw [haffected, hexpected.identityVectorsEquivalent hab.active]

/-- The same variants match the two armors. -/
theorem LoadOrders.findMatchingVariants_eq (h : LoadOrders ρ root s₁ s₂) (hxy : x.Alike s₁ s₂ y) (hab : a.Alike s₁ s₂ b) :
    x.findMatchingVariants s₁ a = y.findMatchingVariants s₂ b := by
  unfold DAVConfigIndex.findMatchingVariants
  rw [hxy.loaded, hab.visualState, hxy.variants.filter_entries fun v w hvw => h.matchesReplaced_eq hvw hab,
    hxy.variants.filter_entries fun v w hvw => h.matchesHidden_eq hvw hab]

/-- A rule of the index names both base addons or neither. -/
theorem LoadOrders.touches_eq (h : LoadOrders ρ root s₁ s₂) (hxy : x.Alike s₁ s₂ y) (hij : SameName s₁ s₂ i j) :
    x.touches s₁ i = y.touches s₂ j := by
  unfold DAVConfigIndex.touches
  rw [hxy.sourceArmorAddons, hxy.sourceSlots, hij.stableKey, h.resolveAddon_rename hij]
  cases resolveAddon s₁ i with
  | none => rfl
  | some addon => rfl

/-- Both armors are relevant or neither. -/
theorem LoadOrders.isArmorRelevant_eq (h : LoadOrders ρ root s₁ s₂) (hxy : x.Alike s₁ s₂ y) (hab : a.Alike s₁ s₂ b) :
    x.isArmorRelevant s₁ a = y.isArmorRelevant s₂ b := by
  unfold DAVConfigIndex.isArmorRelevant
  rw [h.findMatchingVariants_eq hxy hab, any_of_forall₂ hab.base fun i j hij => h.touches_eq hxy hij]

/-! ## Choosing -/

/-- A variant has one score for the two hidden armors. -/
theorem LoadOrders.scoreHidden_eq (h : LoadOrders ρ root s₁ s₂) (hvw : v.Alike s₁ s₂ w) (hab : a.Alike s₁ s₂ b) :
    v.scoreHidden s₁ a = w.scoreHidden s₂ b := by
  unfold VariantRule.scoreHidden
  rw [hvw.overrideHead, hvw.slots.isSome, hvw.slots.isSome]
  refine List.rel_foldl (P := Eq) (R := SameName s₁ s₂) ?_ rfl hab.base
  rintro score _ rfl i j hij
  dsimp only
  rw [hvw.forms.isSome, hij.stableKey, h.resolveAddon_rename hij]
  cases resolveAddon s₁ i with
  | none => rfl
  | some addon => rfl

theorem VariantRule.Alike.isPlayerScoped (hvw : v.Alike s₁ s₂ w) : v.isPlayerScoped = w.isPlayerScoped := by
  unfold VariantRule.isPlayerScoped
  rw [hvw.name, hvw.linkTo]

/-- A variant has one score for the two replaced armors. -/
theorem LoadOrders.scoreReplaced_eq (h : LoadOrders ρ root s₁ s₂) (hvw : v.Alike s₁ s₂ w) (hab : a.Alike s₁ s₂ b) :
    v.scoreReplaced s₁ a = w.scoreReplaced s₂ b := by
  unfold VariantRule.scoreReplaced
  rw [hvw.isPlayerScoped, hvw.slots.keys, hvw.forms.keys]
  refine congrArg (fun score : Int => score - _ - _) ?_
  refine List.rel_foldl (P := Eq) (R := SameName s₁ s₂) ?_ rfl hab.base
  rintro score _ rfl i j hij
  dsimp only
  rw [hvw.forms.isSome, hij.stableKey, h.resolveAddon_rename hij]
  cases resolveAddon s₁ i with
  | none => rfl
  | some addon => rfl

/-- The chooser of hidden variants takes one step in both games. -/
theorem LoadOrders.hiddenChoiceStep_eq (h : LoadOrders ρ root s₁ s₂) (hxy : x.Alike s₁ s₂ y) (hab : a.Alike s₁ s₂ b) :
    hiddenChoiceStep s₁ x a = hiddenChoiceStep s₂ y b := by
  funext best name
  unfold hiddenChoiceStep
  rcases rel_cases (hxy.variants.lookup name) with ⟨hv, hw⟩ | ⟨v, w, hv, hw, hvw⟩
  · rw [hv, hw]
  · rw [hv, hw]
    dsimp only
    rw [h.scoreHidden_eq hvw hab]

/-- The chooser of replaced variants takes one step in both games. -/
theorem LoadOrders.replacedChoiceStep_eq (h : LoadOrders ρ root s₁ s₂) (hxy : x.Alike s₁ s₂ y) (hab : a.Alike s₁ s₂ b) :
    replacedChoiceStep s₁ x a = replacedChoiceStep s₂ y b := by
  funext best name
  unfold replacedChoiceStep
  rcases rel_cases (hxy.variants.lookup name) with ⟨hv, hw⟩ | ⟨v, w, hv, hw, hvw⟩
  · rw [hv, hw]
  · rw [hv, hw]
    dsimp only
    rw [h.scoreReplaced_eq hvw hab]

/-- One variant is selected for the two armors. -/
theorem LoadOrders.selectVariant_eq (h : LoadOrders ρ root s₁ s₂) (hxy : x.Alike s₁ s₂ y) (hab : a.Alike s₁ s₂ b) :
    DAVProbe.selectVariant s₁ x a = DAVProbe.selectVariant s₂ y b := by
  unfold DAVProbe.selectVariant DAVConfigIndex.choosePreferredHiddenVariant DAVConfigIndex.choosePreferredReplacedVariant
  rw [h.findMatchingVariants_eq hxy hab, hab.visualState, h.hiddenChoiceStep_eq hxy hab, h.replacedChoiceStep_eq hxy hab]

/-! ## Messages and hashes -/

theorem SameName.encodeIdentity_eq (hij : SameName s₁ s₂ i j) : encodeIdentity i = encodeIdentity j := by
  unfold encodeIdentity
  rw [hij.plugin, hij.localFormID]

theorem SameNames.encodeActive_eq {l m : List FormIdentity} (hlm : SameNames s₁ s₂ l m) : encodeActive l = encodeActive m := by
  have htail : ∀ {l m : List FormIdentity}, SameNames s₁ s₂ l m →
      l.flatMap (fun a => ascii "," ++ encodeIdentity a) =
        m.flatMap (fun a => ascii "," ++ encodeIdentity a) := by
    intro l m hlm
    induction hlm with
    | nil => rfl
    | cons hij _ ih => rw [List.flatMap_cons, List.flatMap_cons, hij.encodeIdentity_eq, ih]
  cases hlm with
  | nil => rfl
  | cons hij hlm => rw [encodeActive, encodeActive, hij.encodeIdentity_eq, htail hlm]

/-- The messages about the two armors are the same bytes. -/
theorem WornArmorState.Alike.encodeArmorState_eq (hab : a.Alike s₁ s₂ b) (variant : Bytes) (unequipped : Bool) :
    encodeArmorState a variant unequipped = encodeArmorState b variant unequipped := by
  unfold encodeArmorState encodedState
  rw [hab.armor.encodeIdentity_eq, hab.visualState, hab.active.encodeActive_eq]

/-- The service hands the same payload to the API for both armors, or none for either. -/
theorem LoadOrders.sendArmorState_eq (h : LoadOrders ρ root s₁ s₂) (hxy : x.Alike s₁ s₂ y) (hab : a.Alike s₁ s₂ b)
    (service : DAVNetworkService) (variant : Bytes) (unequipped : Bool) :
    sendArmorState s₁ x service a variant unequipped = sendArmorState s₂ y service b variant unequipped := by
  unfold sendArmorState
  rw [hab.armor.left.stable, hab.armor.right.stable, h.isArmorRelevant_eq hxy hab, hab.encodeArmorState_eq]

theorem SameName.feedIdentity_eq (hij : SameName s₁ s₂ i j) (hash : UInt64) : feedIdentity hash i = feedIdentity hash j := by
  unfold feedIdentity
  rw [if_pos hij.left.stable, if_pos hij.right.stable, hij.plugin, hij.localFormID]

/-- Snapshots of armors that name the same forms have one hash. -/
theorem stateHash_of_alike {c d : DAVStateSnapshot} (hloaded : c.davLoaded = d.davLoaded)
    (hworn : List.Forall₂ (WornArmorState.Alike s₁ s₂) c.wornArmors d.wornArmors) : c.stateHash = d.stateHash := by
  unfold DAVStateSnapshot.stateHash
  rw [hloaded]
  refine List.rel_foldl (P := Eq) (R := WornArmorState.Alike s₁ s₂) ?_ rfl hworn
  rintro hash _ rfl a b hab
  have hactive : ∀ hash, a.activeArmorAddons.foldl feedIdentity hash = b.activeArmorAddons.foldl feedIdentity hash := by
    intro hash
    refine List.rel_foldl (P := Eq) (R := SameName s₁ s₂) ?_ rfl hab.active
    rintro hash _ rfl i j hij
    exact hij.feedIdentity_eq hash
  dsimp only
  rw [hab.armor.feedIdentity_eq, hab.visualState, hactive]

end

end DAVSyncTogether
