import DAVSyncTogether.Lemmas.Matching
import DAVSyncTogether.Lib.Argmax
import DAVSyncTogether.Probe

/-!
# What the choosers choose

Each chooser is one loop over the candidates and their scores. The chooser of hidden variants returns the candidate that no
other one outranks, by score and then by name, when its score is above the threshold; the chooser of replaced variants
returns the candidate whose score is greater than those of the others. A score is a sum over the base addons, of terms that
depend on the rules alone.
-/

namespace DAVSyncTogether

open ByteString SortUnique Argmax DAVProbe

/-! ## Scores as sums -/

/-- The variant has an entry of its own for a base addon. -/
def VariantRule.ownEntry (variant : VariantRule) (base : FormIdentity) : Bool :=
  (variant.replaceByForm.lookup base.stableKey).isSome

/-- Without an entry of its own, a base addon uses a slot that the variant has. -/
def VariantRule.usesSlot (s : Session) (variant : VariantRule) (slot : UInt32) (base : FormIdentity) : Bool :=
  !variant.ownEntry base && (variant.replaceBySlot.lookup slot).isSome &&
    (resolveAddon s base).any fun addon => armorAddonUsesSlot addon slot

/-- Without an entry of its own, a base addon uses some slot that the variant has. -/
def VariantRule.usesSomeSlot (s : Session) (variant : VariantRule) (base : FormIdentity) : Bool :=
  !variant.ownEntry base && (resolveAddon s base).any fun addon => variant.replaceBySlot.keys.any (armorAddonUsesSlot addon)

/-- What the setting for the head adds to the score of a hidden variant. -/
def headWeight (overrideHead : Bytes) : Int :=
  if overrideHead = ascii "showAll" then 1000
  else if overrideHead = ascii "showHead" then 800
  else if overrideHead = ascii "hideHair" then -200
  else if overrideHead = ascii "hideAll" then -2000
  else 0

/-- The score of a hidden variant: the setting for the head, and the base addons it has an entry for, or slot 30, or slot 31. -/
def VariantRule.hiddenWeight (s : Session) (variant : VariantRule) (armor : WornArmorState) : Int :=
  headWeight variant.overrideHead + 2000 * armor.baseArmorAddons.countP variant.ownEntry +
    600 * armor.baseArmorAddons.countP (variant.usesSlot s 30) + 400 * armor.baseArmorAddons.countP (variant.usesSlot s 31)

/-- The score of a replaced variant: a penalty for the player's own variants, the base addons it has an entry for or a slot,
and a small penalty for each rule. -/
def VariantRule.replacedWeight (s : Session) (variant : VariantRule) (armor : WornArmorState) : Int :=
  (if variant.isPlayerScoped then -100000 else 0) + 10000 * armor.baseArmorAddons.countP variant.ownEntry +
    1000 * armor.baseArmorAddons.countP (variant.usesSomeSlot s) - 10 * variant.replaceByForm.keys.length -
    variant.replaceBySlot.keys.length

theorem scoreHidden_eq (s : Session) (variant : VariantRule) (armor : WornArmorState) :
    variant.scoreHidden s armor = variant.hiddenWeight s armor := by
  unfold VariantRule.scoreHidden VariantRule.hiddenWeight
  change armor.baseArmorAddons.foldl _ (headWeight variant.overrideHead) = _
  generalize headWeight variant.overrideHead = score
  induction armor.baseArmorAddons generalizing score with
  | nil => simp
  | cons base bases ih =>
    rw [List.foldl_cons, ih, List.countP_cons, List.countP_cons, List.countP_cons]
    by_cases hown : (variant.replaceByForm.lookup base.stableKey).isSome = true
    · simp [VariantRule.usesSlot, VariantRule.ownEntry, hown]
      omega
    · cases haddon : resolveAddon s base with
      | none => simp [VariantRule.usesSlot, VariantRule.ownEntry, hown, haddon]
      | some addon =>
        simp only [VariantRule.usesSlot, VariantRule.ownEntry, hown, haddon, Option.any_some, Bool.not_false, Bool.true_and]
        by_cases h30 : ((variant.replaceBySlot.lookup 30).isSome && armorAddonUsesSlot addon 30) = true <;>
          by_cases h31 : ((variant.replaceBySlot.lookup 31).isSome && armorAddonUsesSlot addon 31) = true <;>
            simp only [h30, h31, Bool.false_eq_true, if_true, if_false] <;> omega

theorem scoreReplaced_eq (s : Session) (variant : VariantRule) (armor : WornArmorState) :
    variant.scoreReplaced s armor = variant.replacedWeight s armor := by
  unfold VariantRule.scoreReplaced VariantRule.replacedWeight
  dsimp only
  generalize (if variant.isPlayerScoped then (-100000 : Int) else 0) = score
  induction armor.baseArmorAddons generalizing score with
  | nil =>
    simp
    omega
  | cons base bases ih =>
    rw [List.foldl_cons, ih, List.countP_cons, List.countP_cons]
    by_cases hown : (variant.replaceByForm.lookup base.stableKey).isSome = true
    · simp [VariantRule.usesSomeSlot, VariantRule.ownEntry, hown]
      omega
    · cases haddon : resolveAddon s base with
      | none => simp [VariantRule.usesSomeSlot, VariantRule.ownEntry, hown, haddon]
      | some addon =>
        simp only [VariantRule.usesSomeSlot, VariantRule.ownEntry, hown, haddon, Option.any_some, Bool.not_false, Bool.true_and]
        by_cases hany : variant.replaceBySlot.keys.any (armorAddonUsesSlot addon) = true <;>
          simp only [hany, Bool.false_eq_true, if_true, if_false] <;> omega

/-! ## The candidates and their scores -/

/-- The candidates that the index knows, with their scores. -/
def DAVConfigIndex.scored (index : DAVConfigIndex) (score : VariantRule → Int) (candidates : List Bytes) : List (Bytes × Int) :=
  candidates.filterMap fun name => (index.variants.lookup name).map fun variant => (name, score variant)

/-- A candidate outranks another by a higher score, or by a smaller name at the same score. -/
def outranks (a b : Bytes × Int) : Bool := decide (b.2 < a.2) || (decide (a.2 = b.2) && decide (a.1 < b.1))

theorem outranks_strictTotal : StrictTotal outranks := by
  have hlex : ∀ a b : Bytes × Int, outranks a b = true ↔
      toLex (OrderDual.toDual a.2, a.1) < toLex (OrderDual.toDual b.2, b.1) := by
    intro a b
    rw [Prod.Lex.toLex_lt_toLex]
    simp [outranks]
  refine StrictTotal.ofKey hlex fun a b h => ?_
  simp only [EmbeddingLike.apply_eq_iff_eq, Prod.mk.injEq] at h
  exact Prod.ext h.2 h.1

theorem outranks_eq_false {a b : Bytes × Int} : outranks a b = false ↔ a.2 < b.2 ∨ (a.2 = b.2 ∧ b.1 ≤ a.1) := by
  rw [← Bool.not_eq_true]
  simp only [outranks, Bool.or_eq_true, Bool.and_eq_true, decide_eq_true_iff, not_or, not_and, not_lt]
  constructor
  · rintro ⟨hle, heq⟩
    rcases lt_or_eq_of_le hle with h | h
    · exact Or.inl h
    · exact Or.inr ⟨h, heq h⟩
  · rintro (h | ⟨h, hle⟩)
    · exact ⟨h.le, fun heq => absurd heq h.ne⟩
    · exact ⟨h.le, fun _ => hle⟩

section

variable {s : Session} {index : DAVConfigIndex} {armor : WornArmorState} {candidates : List Bytes} {name : Bytes}

theorem mem_scored {score : VariantRule → Int} {c : Bytes × Int} :
    c ∈ index.scored score candidates ↔
      c.1 ∈ candidates ∧ ∃ variant, index.variants.lookup c.1 = some variant ∧ score variant = c.2 := by
  simp only [DAVConfigIndex.scored, List.mem_filterMap, Option.map_eq_some_iff]
  constructor
  · rintro ⟨name, hname, variant, hv, rfl⟩
    exact ⟨hname, variant, hv, rfl⟩
  · rintro ⟨hname, variant, hv, hscore⟩
    exact ⟨c.1, hname, variant, hv, by rw [hscore]⟩

theorem nodup_scored (score : VariantRule → Int) (h : candidates.Nodup) : (index.scored score candidates).Nodup := by
  refine h.filterMap fun name name' c hc hc' => ?_
  obtain ⟨variant, -, rfl⟩ := Option.map_eq_some_iff.mp hc
  obtain ⟨variant', -, heq⟩ := Option.map_eq_some_iff.mp hc'
  exact (congrArg Prod.fst heq).symm

/-! ## The two loops -/

/-- The loop of the chooser of hidden variants keeps the candidate that no other one outranks. -/
theorem foldl_hiddenChoiceStep (best : Option (Bytes × Int)) : candidates.foldl (hiddenChoiceStep s index armor) best =
    (index.scored (fun variant => variant.scoreHidden s armor) candidates).foldl (keepBetter outranks) best := by
  unfold DAVConfigIndex.scored
  rw [List.foldl_filterMap]
  congr 1
  funext best name
  unfold hiddenChoiceStep
  cases index.variants.lookup name with
  | none => rfl
  | some variant =>
    cases best with
    | none => rfl
    | some b => simp [keepBetter, outranks]

/-- The loop of the chooser of replaced variants keeps the first candidate of the greatest score, and notes whether it is
shared. -/
theorem foldl_replacedChoiceStep (best : Option ((Bytes × Int) × Bool)) :
    candidates.foldl (replacedChoiceStep s index armor) (best.map fun b => (b.1.1, b.1.2, b.2)) =
      ((index.scored (fun variant => variant.scoreReplaced s armor) candidates).foldl (keepMax Prod.snd) best).map
        fun b => (b.1.1, b.1.2, b.2) := by
  induction candidates generalizing best with
  | nil => rfl
  | cons name candidates ih =>
    unfold DAVConfigIndex.scored at ih ⊢
    rw [List.foldl_cons, List.filterMap_cons]
    cases hv : index.variants.lookup name with
    | none =>
      have hstep : ∀ b, replacedChoiceStep s index armor b name = b := fun b => by rw [replacedChoiceStep, hv]
      rw [hstep]
      exact ih best
    | some variant =>
      have hstep : replacedChoiceStep s index armor (best.map fun b => (b.1.1, b.1.2, b.2)) name =
          (keepMax Prod.snd best (name, variant.scoreReplaced s armor)).map fun b => (b.1.1, b.1.2, b.2) := by
        rw [replacedChoiceStep, hv]
        cases best with
        | none => rfl
        | some b =>
          dsimp only [keepMax, Option.map_some]
          split
          · rfl
          · split
            · rfl
            · rfl
      rw [hstep]
      exact ih _

/-- The chosen hidden variant is the scored candidate above the threshold that no other one outranks. -/
theorem choosePreferredHiddenVariant_iff_scored : index.choosePreferredHiddenVariant s armor candidates = some name ↔
    ∃ score, (name, score) ∈ index.scored (fun variant => variant.scoreHidden s armor) candidates ∧
      (∀ c ∈ index.scored (fun variant => variant.scoreHidden s armor) candidates, outranks c (name, score) = false) ∧
      -500 < score := by
  have hbest : ∀ b : Bytes × Int, candidates.foldl (hiddenChoiceStep s index armor) none = some b ↔
      b ∈ index.scored (fun variant => variant.scoreHidden s armor) candidates ∧
        ∀ c ∈ index.scored (fun variant => variant.scoreHidden s armor) candidates, outranks c b = false := by
    intro b
    rw [foldl_hiddenChoiceStep, foldl_keepBetter_eq_some outranks_strictTotal]
  have hchoose : index.choosePreferredHiddenVariant s armor candidates = some name ↔
      ∃ score, candidates.foldl (hiddenChoiceStep s index armor) none = some (name, score) ∧ -500 < score := by
    unfold DAVConfigIndex.choosePreferredHiddenVariant
    cases candidates.foldl (hiddenChoiceStep s index armor) none with
    | none => simp
    | some b =>
      obtain ⟨best, score⟩ := b
      simp [and_comm]
  simp only [hchoose, hbest, and_assoc]

/-- The chosen hidden variant is the candidate above the threshold that no other one outranks. -/
theorem choosePreferredHiddenVariant_eq_some : index.choosePreferredHiddenVariant s armor candidates = some name ↔
    name ∈ candidates ∧ ∃ variant, index.variants.lookup name = some variant ∧ -500 < variant.scoreHidden s armor ∧
      ∀ other ∈ candidates, ∀ variant', index.variants.lookup other = some variant' →
        variant'.scoreHidden s armor < variant.scoreHidden s armor ∨
          (variant'.scoreHidden s armor = variant.scoreHidden s armor ∧ name ≤ other) := by
  rw [choosePreferredHiddenVariant_iff_scored]
  constructor
  · rintro ⟨score, hmem, hall, hscore⟩
    obtain ⟨hname, variant, hv, rfl⟩ := mem_scored.mp hmem
    exact ⟨hname, variant, hv, hscore, fun other hother variant' hv' =>
      outranks_eq_false.mp (hall (other, _) (mem_scored.mpr ⟨hother, variant', hv', rfl⟩))⟩
  · rintro ⟨hname, variant, hv, hscore, hall⟩
    refine ⟨_, mem_scored.mpr ⟨hname, variant, hv, rfl⟩, fun c hc => ?_, hscore⟩
    obtain ⟨hc1, variant', hv', hc2⟩ := mem_scored.mp hc
    rw [outranks_eq_false, ← hc2]
    exact hall c.1 hc1 variant' hv'

/-- Among candidates without repetitions, the chosen replaced variant is the scored one whose score is greater than those of
the others. -/
theorem choosePreferredReplacedVariant_iff_scored (h : candidates.Nodup) :
    index.choosePreferredReplacedVariant s armor candidates = some name ↔
      ∃ score, (name, score) ∈ index.scored (fun variant => variant.scoreReplaced s armor) candidates ∧
        ∀ c ∈ index.scored (fun variant => variant.scoreReplaced s armor) candidates, c ≠ (name, score) → c.2 < score := by
  have hchoose : index.choosePreferredReplacedVariant s armor candidates = some name ↔
      ∃ score, (index.scored (fun variant => variant.scoreReplaced s armor) candidates).foldl (keepMax Prod.snd) none =
        some ((name, score), false) := by
    unfold DAVConfigIndex.choosePreferredReplacedVariant
    rw [show (none : Option (Bytes × Int × Bool)) = Option.map (fun b : (Bytes × Int) × Bool => (b.1.1, b.1.2, b.2)) none from rfl,
      foldl_replacedChoiceStep]
    cases (index.scored (fun variant => variant.scoreReplaced s armor) candidates).foldl (keepMax Prod.snd) none with
    | none => simp
    | some b =>
      obtain ⟨⟨best, score⟩, tied⟩ := b
      cases tied <;> simp
  simp only [hchoose, foldl_keepMax_eq_some Prod.snd (nodup_scored _ h)]

/-- Among candidates without repetitions, the chosen replaced variant is the one whose score is greater than those of the
others. -/
theorem choosePreferredReplacedVariant_eq_some (h : candidates.Nodup) :
    index.choosePreferredReplacedVariant s armor candidates = some name ↔
      name ∈ candidates ∧ ∃ variant, index.variants.lookup name = some variant ∧
        ∀ other ∈ candidates, other ≠ name → ∀ variant', index.variants.lookup other = some variant' →
          variant'.scoreReplaced s armor < variant.scoreReplaced s armor := by
  rw [choosePreferredReplacedVariant_iff_scored h]
  constructor
  · rintro ⟨score, hmem, hall⟩
    obtain ⟨hname, variant, hv, rfl⟩ := mem_scored.mp hmem
    refine ⟨hname, variant, hv, fun other hother hne variant' hv' => ?_⟩
    exact hall (other, _) (mem_scored.mpr ⟨hother, variant', hv', rfl⟩) fun heq => hne (congrArg Prod.fst heq)
  · rintro ⟨hname, variant, hv, hall⟩
    refine ⟨variant.scoreReplaced s armor, mem_scored.mpr ⟨hname, variant, hv, rfl⟩, fun c hc hne => ?_⟩
    obtain ⟨hc1, variant', hv', hc2⟩ := mem_scored.mp hc
    rw [← hc2]
    refine hall c.1 hc1 (fun heq => hne ?_) variant' hv'
    rw [heq, hv, Option.some.injEq] at hv'
    subst hv'
    exact Prod.ext heq hc2.symm

/-! ## Other orders -/

/-- The same rules, in another order of iteration. -/
structure VariantRule.Reordered (variant variant' : VariantRule) : Prop where
  name : variant.name = variant'.name
  linkTo : variant.linkTo = variant'.linkTo
  overrideHead : variant.overrideHead = variant'.overrideHead
  forms : variant.replaceByForm.entries.Perm variant'.replaceByForm.entries
  slots : variant.replaceBySlot.entries.Perm variant'.replaceBySlot.entries

/-- The same variants under the same names, with their rules in another order of iteration. -/
def DAVConfigIndex.Reordered (index index' : DAVConfigIndex) : Prop :=
  ∀ name, Option.Rel VariantRule.Reordered (index.variants.lookup name) (index'.variants.lookup name)

theorem DAVConfigIndex.Reordered.refl (index : DAVConfigIndex) : index.Reordered index := by
  intro name
  cases index.variants.lookup name with
  | none => exact Option.Rel.none
  | some variant => exact Option.Rel.some ⟨rfl, rfl, rfl, List.Perm.refl _, List.Perm.refl _⟩

theorem VariantRule.Reordered.scoreHidden_eq {variant variant' : VariantRule} (h : variant.Reordered variant') (s : Session)
    (armor : WornArmorState) : variant.scoreHidden s armor = variant'.scoreHidden s armor := by
  have hforms (k : Bytes) : variant.replaceByForm.lookup k = variant'.replaceByForm.lookup k := AList.perm_lookup h.forms
  have hslots (slot : UInt32) : variant.replaceBySlot.lookup slot = variant'.replaceBySlot.lookup slot :=
    AList.perm_lookup h.slots
  simp only [VariantRule.scoreHidden, h.overrideHead, hforms, hslots]

theorem VariantRule.Reordered.scoreReplaced_eq {variant variant' : VariantRule} (h : variant.Reordered variant') (s : Session)
    (armor : WornArmorState) : variant.scoreReplaced s armor = variant'.scoreReplaced s armor := by
  have hforms (k : Bytes) : variant.replaceByForm.lookup k = variant'.replaceByForm.lookup k := AList.perm_lookup h.forms
  have hkeys : variant.replaceBySlot.keys.Perm variant'.replaceBySlot.keys := h.slots.map Sigma.fst
  have hany (addon : TESObjectARMA) : variant.replaceBySlot.keys.any (armorAddonUsesSlot addon) =
      variant'.replaceBySlot.keys.any (armorAddonUsesSlot addon) := hkeys.any_eq
  have hlength : variant.replaceByForm.keys.length = variant'.replaceByForm.keys.length := (h.forms.map Sigma.fst).length_eq
  have hscoped : variant.isPlayerScoped = variant'.isPlayerScoped := by
    rw [VariantRule.isPlayerScoped, VariantRule.isPlayerScoped, h.name, h.linkTo]
  simp only [VariantRule.scoreReplaced, hscoped, hforms, hany, hlength, hkeys.length_eq]

/-- Neither the order of the candidates nor that of the rules changes which candidates have which scores. -/
theorem mem_scored_reordered {index' : DAVConfigIndex} {candidates' : List Bytes} (hindex : index.Reordered index')
    (hperm : candidates.Perm candidates') {score : VariantRule → Int}
    (hscore : ∀ variant variant', VariantRule.Reordered variant variant' → score variant = score variant') (c : Bytes × Int) :
    c ∈ index.scored score candidates ↔ c ∈ index'.scored score candidates' := by
  have hsame : (fun name => (index.variants.lookup name).map fun variant => (name, score variant)) =
      fun name => (index'.variants.lookup name).map fun variant => (name, score variant) := by
    funext name
    have hrules := hindex name
    generalize index.variants.lookup name = variant, index'.variants.lookup name = variant' at hrules ⊢
    cases hrules with
    | none => rfl
    | some h => rw [Option.map_some, Option.map_some, hscore _ _ h]
  rw [DAVConfigIndex.scored, hsame]
  exact (hperm.filterMap _).mem_iff

theorem choosePreferredHiddenVariant_reordered {index' : DAVConfigIndex} {candidates' : List Bytes} (hindex : index.Reordered index')
    (hperm : candidates.Perm candidates') :
    index.choosePreferredHiddenVariant s armor candidates = index'.choosePreferredHiddenVariant s armor candidates' := by
  refine Option.ext fun name => ?_
  simp only [choosePreferredHiddenVariant_iff_scored, mem_scored_reordered hindex hperm fun _ _ h => h.scoreHidden_eq s armor]

theorem choosePreferredReplacedVariant_reordered {index' : DAVConfigIndex} {candidates' : List Bytes}
    (hindex : index.Reordered index') (hperm : candidates.Perm candidates') (h : candidates.Nodup) :
    index.choosePreferredReplacedVariant s armor candidates = index'.choosePreferredReplacedVariant s armor candidates' := by
  refine Option.ext fun name => ?_
  simp only [choosePreferredReplacedVariant_iff_scored h, choosePreferredReplacedVariant_iff_scored (hperm.nodup h),
    mem_scored_reordered hindex hperm fun _ _ h => h.scoreReplaced_eq s armor]

/-- The variant selected for an armor is one of its matches. -/
theorem mem_of_selectVariant (h : selectVariant s index armor = some name) : name ∈ index.findMatchingVariants s armor := by
  unfold selectVariant at h
  split at h
  · cases h
  · rename_i single hsingle
    rw [Option.some.injEq] at h
    rw [hsingle, h]
    exact List.mem_singleton.mpr rfl
  · split at h
    · exact (choosePreferredHiddenVariant_eq_some.mp h).1
    · have hnodup := (pairwise_findMatchingVariants s index armor).imp fun hlt => ne_of_lt hlt
      exact ((choosePreferredReplacedVariant_eq_some hnodup).mp h).1
    · cases h

end

end DAVSyncTogether
