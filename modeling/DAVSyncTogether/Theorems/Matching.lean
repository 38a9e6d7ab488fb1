import DAVSyncTogether.Lemmas.Matching
import DAVSyncTogether.Lemmas.Relevance
import DAVSyncTogether.Lemmas.Games

/-!
# Which variants explain a state

An armor lists addons for every sex and race, and an actor renders some of them. A replaced armor is explained by the
variants whose pool accounts for what is rendered, whatever part of the addons that is (`replaced_matching_exact`). A hidden
one is explained by a variant only when the variant hides every addon of the armor, also those the actor does not render
(`hidden_matching_iff`).
-/

namespace DAVSyncTogether

open ByteString

/-! ## A hood for two races -/

namespace Hood

/-- The human addon covers slot 31, that of the other race slot 30. -/
def human : TESObjectARMA := addonForm 0x801 2

def khajiit : TESObjectARMA := addonForm 0x802 1

def races : List TESObjectARMA := [human, khajiit]

theorem lawful_races : (session races).Lawful := lawful (by decide) (by decide) (by decide)

/-- One variant lowers the hood of humans, another hides what covers slot 31. -/
def variants : List Json :=
  [.object [(ascii "name", .string (ascii "LoweredHood")),
      (ascii "replaceByForm", .object [(ascii "Hood.esp|801", .string (ascii "Hood.esp|8FF"))])],
    .object [(ascii "name", .string (ascii "HideHood")), (ascii "replaceBySlot", .object [(ascii "31", .array [])])]]

end Hood

/-! ## A replaced armor -/

section

variable {s : Session} {variant : VariantRule} {armor : WornArmorState}

/-- A variant accounts for what is rendered of a replaced armor: its pool is not empty, every rendered addon is in the pool or a
base addon, and one of them is in the pool. -/
structure VariantRule.AccountsFor (s : Session) (variant : VariantRule) (armor : WornArmorState) : Prop where
  pool : ∃ i, variant.InPool s armor i
  compatible : ∀ active ∈ armor.activeArmorAddons, (∃ i, variant.InPool s armor i ∧ i.stableEquivalent active = true) ∨
    ∃ base ∈ armor.baseArmorAddons, base.stableEquivalent active = true
  replacement : ∃ active ∈ armor.activeArmorAddons, ∃ i, variant.InPool s armor i ∧ i.stableEquivalent active = true

/-- A variant that has a pool affects the armor. -/
theorem affected_of_inPool {i : FormIdentity} (h : variant.InPool s armor i) : (variant.replacementPool s armor).1 = true := by
  obtain ⟨base, hbase, l, hl, -⟩ := h
  rw [replacementPool_affected, List.any_eq_true]
  exact ⟨base, hbase, by rw [(ruleFor_eq_some l).mpr hl]; rfl⟩

/-- What the matching loop of a replaced armor tests. -/
theorem matchesReplaced_iff (h : variant.Stable) (hactive : ∀ active ∈ armor.activeArmorAddons, active.isStable = true) :
    variant.matchesReplaced s armor = true ↔ variant.AccountsFor s armor := by
  have hpool : ∀ active ∈ armor.activeArmorAddons, (containsStable (variant.replacementPool s armor).2 active = true ↔
      ∃ i, variant.InPool s armor i ∧ i.stableEquivalent active = true) :=
    fun active hmem => h.containsStable_replacementPool (hactive active hmem)
  have hnonempty : (!(variant.replacementPool s armor).2.isEmpty) = true ↔ ∃ i, variant.InPool s armor i := by
    rw [Bool.not_eq_true', List.isEmpty_eq_false_iff]
    exact replacementPool_ne_nil
  unfold VariantRule.matchesReplaced
  dsimp only
  simp only [Bool.and_eq_true, List.all_eq_true, List.any_eq_true, Bool.or_eq_true, hnonempty,
    containsStable_iff armor.baseArmorAddons]
  rw [forall₂_congr fun active hmem => or_congr_left (hpool active hmem),
    exists_congr fun active => and_congr_right (hpool active)]
  constructor
  · rintro ⟨⟨⟨-, hne⟩, hall⟩, hany⟩
    exact ⟨hne, hall, hany⟩
  · rintro ⟨⟨i, hi⟩, hall, hany⟩
    exact ⟨⟨⟨affected_of_inPool hi, i, hi⟩, hall⟩, hany⟩

/-- A variant accounts for an armor when every rendered addon is one that it renders for some base addon that the actor may render,
and one of them is no base addon. -/
theorem accountsFor_of_rendered {rendered : List FormIdentity} (hsub : rendered ⊆ armor.baseArmorAddons)
    (hunion : ∀ active ∈ armor.activeArmorAddons, ∃ base ∈ rendered, ∃ l, variant.Renders s base l ∧
      ∃ i ∈ l, i.stableEquivalent active = true)
    (hnew : ∃ active ∈ armor.activeArmorAddons, ∀ base ∈ armor.baseArmorAddons, base.stableEquivalent active = false) :
    variant.AccountsFor s armor := by
  -- What is rendered for a base addon is in the pool, or the base addon itself.
  have hcover : ∀ active ∈ armor.activeArmorAddons, (∃ i, variant.InPool s armor i ∧ i.stableEquivalent active = true) ∨
      ∃ base ∈ armor.baseArmorAddons, base.stableEquivalent active = true := by
    intro active hactive
    obtain ⟨base, hbase, l, hl, i, hi, heq⟩ := hunion active hactive
    cases hl with
    | replaced l hl => exact Or.inl ⟨i, ⟨base, hsub hbase, l, hl, hi⟩, heq⟩
    | kept =>
      rw [List.mem_singleton] at hi
      subst hi
      exact Or.inr ⟨i, hsub hbase, heq⟩
  obtain ⟨active, hactive, hnone⟩ := hnew
  have hpool : ∃ i, variant.InPool s armor i ∧ i.stableEquivalent active = true := by
    rcases hcover active hactive with h | ⟨base, hbase, heq⟩
    · exact h
    · rw [hnone base hbase] at heq
      cases heq
  obtain ⟨i, hi, heq⟩ := hpool
  exact ⟨⟨i, hi⟩, hcover, active, hactive, i, hi, heq⟩

end

/-- For every index that `Load` builds and every replaced armor, when the rules and the rendered addons have source files: the
matches are strictly sorted; a variant is among them exactly when its pool is not empty, every rendered addon is in the pool or
a base addon, and one is in the pool; so a variant is returned whenever the rendered addons are among those it renders for some
of the base addons, and one of them is no base addon. -/
theorem replaced_matching_exact (s : Session) (root : Option (List DirectoryEntry)) (armor : WornArmorState)
    (hrules : (load s root).Stable) (hactive : ∀ active ∈ armor.activeArmorAddons, active.isStable = true)
    (hstate : armor.visualState = .replaced) :
    let matching := (load s root).findMatchingVariants s armor
    matching.Pairwise (· < ·) ∧
    (∀ name, name ∈ matching ↔ ∃ variant, (load s root).variants.lookup name = some variant ∧ variant.AccountsFor s armor) ∧
    ∀ name variant, (load s root).variants.lookup name = some variant → ∀ rendered ⊆ armor.baseArmorAddons,
      (∀ active ∈ armor.activeArmorAddons, ∃ base ∈ rendered, ∃ l, variant.Renders s base l ∧
        ∃ i ∈ l, i.stableEquivalent active = true) →
      (∃ active ∈ armor.activeArmorAddons, ∀ base ∈ armor.baseArmorAddons, base.stableEquivalent active = false) →
      name ∈ matching := by
  intro matching
  have hexact : ∀ name, name ∈ matching ↔ ∃ variant, (load s root).variants.lookup name = some variant ∧
      variant.AccountsFor s armor := by
    intro name
    rw [mem_findMatchingVariants_replaced (load_loaded s root) hstate]
    exact exists_congr fun variant => and_congr_right fun hv => matchesReplaced_iff (hrules name variant hv) hactive
  refine ⟨pairwise_findMatchingVariants s _ armor, hexact, fun name variant hv rendered hsub hunion hnew => ?_⟩
  exact (hexact name).mpr ⟨variant, hv, accountsFor_of_rendered hsub hunion hnew⟩

/-- A human with the hood lowered: the variant that lowers it for humans is found, although it does nothing to the other
addon. -/
theorem replaced_matching_exact_hood : ascii "LoweredHood" ∈
    (load (Hood.session Hood.races) (Hood.root Hood.variants)).findMatchingVariants (Hood.session Hood.races)
      (Hood.worn Hood.races .replaced [makeFormIdentity Hood.lowered.toTESForm]) := by
  obtain ⟨variant, hv, hrule⟩ := exists_variant (load (Hood.session Hood.races) (Hood.root Hood.variants)) (ascii "LoweredHood")
    (fun variant => decide (variant.ruleFor (Hood.session Hood.races) (makeFormIdentity Hood.human.toTESForm) =
      some [makeFormIdentity Hood.lowered.toTESForm])) (by decide)
  refine (replaced_matching_exact (Hood.session Hood.races) (Hood.root Hood.variants)
    (Hood.worn Hood.races .replaced [makeFormIdentity Hood.lowered.toTESForm]) (by decide) (by decide) rfl).2.2
    (ascii "LoweredHood") variant hv [makeFormIdentity Hood.human.toTESForm] (by decide) ?_ (by decide)
  intro active hactive
  exact ⟨_, List.mem_singleton.mpr rfl, _, .replaced _ ((ruleFor_eq_some _).mp (of_decide_eq_true hrule)), active, hactive,
    FormIdentity.stableEquivalent_refl active⟩

/-! ## A hidden armor -/

/-- A variant renders nothing for a base addon when its rule for it is empty. -/
theorem renders_nil {s : Session} {variant : VariantRule} {base : FormIdentity} :
    variant.Renders s base [] ↔ variant.Affects s base [] := by
  refine ⟨fun h => ?_, .replaced []⟩
  cases h with
  | replaced l hl => exact hl

/-- For every index that `Load` builds, every hidden armor with nothing rendered and every part of its base addons for which
a variant renders nothing: the variant is among the matches exactly when it renders nothing for every base addon of the
armor. -/
theorem hidden_matching_iff (s : Session) (root : Option (List DirectoryEntry)) (armor : WornArmorState)
    (hstate : armor.visualState = .hidden) (hactive : armor.activeArmorAddons = []) (name : Bytes) (variant : VariantRule)
    (hv : (load s root).variants.lookup name = some variant) (rendered : List FormIdentity) (hne : rendered ≠ [])
    (hsub : rendered ⊆ armor.baseArmorAddons) (hempty : ∀ base ∈ rendered, variant.Renders s base []) :
    name ∈ (load s root).findMatchingVariants s armor ↔ ∀ base ∈ armor.baseArmorAddons, variant.Renders s base [] := by
  rw [mem_findMatchingVariants_hidden (load_loaded s root) hstate]
  have haffected : (variant.buildExpectedActive s armor).1 = true := by
    obtain ⟨base, hbase⟩ := List.exists_mem_of_ne_nil rendered hne
    rw [buildExpectedActive_affected, List.any_eq_true]
    exact ⟨base, hsub hbase, by rw [(ruleFor_eq_some []).mpr (renders_nil.mp (hempty base hbase))]; rfl⟩
  have hmatches : variant.matchesHidden s armor = true ↔ ∀ base ∈ armor.baseArmorAddons, variant.Renders s base [] := by
    unfold VariantRule.matchesHidden
    dsimp only
    rw [haffected, hactive, Bool.true_and]
    simp only [renders_nil, ← buildExpectedActive_eq_nil]
    cases (variant.buildExpectedActive s armor).2 <;> simp
  refine ⟨fun ⟨variant', hv', h⟩ => ?_, fun h => ⟨variant, hv, hmatches.mpr h⟩⟩
  rw [hv, Option.some.injEq] at hv'
  subst hv'
  exact hmatches.mp h

/-- The helmet, whose one addon is hidden by its slot. -/
theorem hidden_matching_helmet : ascii "HideHelmet" ∈ Helmet.index.findMatchingVariants Helmet.session Helmet.hidden := by
  obtain ⟨variant, hv, hrule⟩ := exists_variant Helmet.index (ascii "HideHelmet")
    (fun variant => decide (variant.ruleFor Helmet.session (makeFormIdentity Helmet.addonForm.toTESForm) = some [])) (by decide)
  have hrenders : ∀ base ∈ Helmet.hidden.baseArmorAddons, variant.Renders Helmet.session base [] := by
    intro base hbase
    rw [List.mem_singleton.mp hbase]
    exact .replaced [] ((ruleFor_eq_some []).mp (of_decide_eq_true hrule))
  exact (hidden_matching_iff Helmet.session
    (some [{ isRegularFile := true, extension := ascii ".json", opens := true, json := some Helmet.config }]) Helmet.hidden rfl rfl
    (ascii "HideHelmet") variant hv Helmet.hidden.baseArmorAddons (by decide) (fun _ h => h) hrenders).mpr hrenders

/-- The hood is hidden on a human by a variant that hides slot 31. The addon of the other race covers slot 30 only, and the
variant is not found. -/
theorem unrendered_addon_blocks_match :
    ¬∀ (s : Session) (root : Option (List DirectoryEntry)) (armor : WornArmorState) (name : Bytes) (variant : VariantRule)
      (rendered : List FormIdentity), s.Lawful → armor.visualState = .hidden → armor.activeArmorAddons = [] →
      (load s root).variants.lookup name = some variant → rendered ≠ [] → rendered ⊆ armor.baseArmorAddons →
      (∀ base ∈ rendered, variant.Renders s base []) → name ∈ (load s root).findMatchingVariants s armor := by
  intro h
  obtain ⟨variant, hv, hrule⟩ := exists_variant (load (Hood.session Hood.races) (Hood.root Hood.variants)) (ascii "HideHood")
    (fun variant => decide (variant.ruleFor (Hood.session Hood.races) (makeFormIdentity Hood.human.toTESForm) = some []))
    (by decide)
  have hfound := h (Hood.session Hood.races) (Hood.root Hood.variants) (Hood.worn Hood.races .hidden []) (ascii "HideHood") variant
    [makeFormIdentity Hood.human.toTESForm] Hood.lawful_races rfl rfl hv (by decide) (by decide) (fun base hbase => by
      rw [List.mem_singleton.mp hbase]
      exact .replaced [] ((ruleFor_eq_some []).mp (of_decide_eq_true hrule)))
  revert hfound
  decide

end DAVSyncTogether
