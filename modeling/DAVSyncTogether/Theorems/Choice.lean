import DAVSyncTogether.Lemmas.Choosers
import DAVSyncTogether.Lemmas.Games

/-!
# The choice among several matches

The preferences of the choosers are sums, of a term for the head or the player and a term for each base addon, so enough base
addons outweigh them. The chooser of hidden variants is safe for the head exactly when every unsafe candidate is below the
threshold or beaten by a safe one (`head_safe_iff`); the chooser of replaced variants avoids the player's own variants
exactly when each of them is equalled by another candidate (`proxy_safe_iff`). Which candidate either of them returns does not
depend on any order, neither of the candidates nor of the rules (`choosers_argmax`).
-/

namespace DAVSyncTogether

open ByteString Hex

/-! ## The greatest scores -/

/-- A candidate that the index knows. -/
def DAVConfigIndex.Known (index : DAVConfigIndex) (candidates : List Bytes) (name : Bytes) (variant : VariantRule) : Prop :=
  name ∈ candidates ∧ index.variants.lookup name = some variant

/-- For candidates without repetitions, in any order and known to the index or not: the chooser of replaced variants returns the
known candidate whose score is greater than that of every other one, or nothing; the chooser of hidden variants returns the
smallest name among the known candidates of the greatest score, when that score is above -500, or nothing; and neither
changes with the order of the candidates or of the rules. -/
theorem choosers_argmax (s : Session) (index : DAVConfigIndex) (armor : WornArmorState) {candidates : List Bytes}
    (h : candidates.Nodup) :
    (∀ name, index.choosePreferredReplacedVariant s armor candidates = some name ↔ ∃ variant, index.Known candidates name variant ∧
      ∀ other variant', index.Known candidates other variant' → other ≠ name →
        variant'.scoreReplaced s armor < variant.scoreReplaced s armor) ∧
    (∀ name, index.choosePreferredHiddenVariant s armor candidates = some name ↔ ∃ variant, index.Known candidates name variant ∧
      (∀ other variant', index.Known candidates other variant' → variant'.scoreHidden s armor ≤ variant.scoreHidden s armor) ∧
      (∀ other variant', index.Known candidates other variant' → variant'.scoreHidden s armor = variant.scoreHidden s armor →
        name ≤ other) ∧
      -500 < variant.scoreHidden s armor) ∧
    ∀ index' candidates', index.Reordered index' → candidates.Perm candidates' →
      index.choosePreferredReplacedVariant s armor candidates = index'.choosePreferredReplacedVariant s armor candidates' ∧
      index.choosePreferredHiddenVariant s armor candidates = index'.choosePreferredHiddenVariant s armor candidates' := by
  refine ⟨fun name => ?_, fun name => ?_, fun index' candidates' hindex hperm => ?_⟩
  · rw [choosePreferredReplacedVariant_eq_some h]
    constructor
    · rintro ⟨hname, variant, hv, hall⟩
      exact ⟨variant, ⟨hname, hv⟩, fun other variant' hother hne => hall other hother.1 hne variant' hother.2⟩
    · rintro ⟨variant, ⟨hname, hv⟩, hall⟩
      exact ⟨hname, variant, hv, fun other hother hne variant' hv' => hall other variant' ⟨hother, hv'⟩ hne⟩
  · rw [choosePreferredHiddenVariant_eq_some]
    constructor
    · rintro ⟨hname, variant, hv, hscore, hall⟩
      refine ⟨variant, ⟨hname, hv⟩, fun other variant' hother => ?_, fun other variant' hother heq => ?_, hscore⟩
      · rcases hall other hother.1 variant' hother.2 with hlt | ⟨heq, -⟩
        · exact hlt.le
        · exact heq.le
      · rcases hall other hother.1 variant' hother.2 with hlt | ⟨-, hle⟩
        · exact absurd heq hlt.ne
        · exact hle
    · rintro ⟨variant, ⟨hname, hv⟩, hmax, hmin, hscore⟩
      refine ⟨hname, variant, hv, hscore, fun other hother variant' hv' => ?_⟩
      rcases lt_or_eq_of_le (hmax other variant' ⟨hother, hv'⟩) with hlt | heq
      · exact Or.inl hlt
      · exact Or.inr ⟨heq, hmin other variant' ⟨hother, hv'⟩ heq⟩
  · exact ⟨choosePreferredReplacedVariant_reordered hindex hperm h, choosePreferredHiddenVariant_reordered hindex hperm⟩

/-- A name that the index does not know, before or behind the one it knows. -/
theorem choosers_argmax_helmet :
    Helmet.index.choosePreferredHiddenVariant Helmet.session Helmet.hidden [ascii "HideHelmet", ascii "Missing"] =
      Helmet.index.choosePreferredHiddenVariant Helmet.session Helmet.hidden [ascii "Missing", ascii "HideHelmet"] :=
  ((choosers_argmax Helmet.session Helmet.index Helmet.hidden (by decide)).2.2 Helmet.index _
    (DAVConfigIndex.Reordered.refl Helmet.index) (List.Perm.swap _ _ _)).2

/-! ## Hidden variants -/

/-- A variant that shows the head is among the candidates. -/
def DAVConfigIndex.OffersHead (index : DAVConfigIndex) (candidates : List Bytes) : Prop :=
  ∃ name ∈ candidates, ∃ variant, index.variants.lookup name = some variant ∧
    (variant.overrideHead = ascii "showAll" ∨ variant.overrideHead = ascii "showHead")

/-- The variant does not hide all of the head, nor the hair when a candidate shows the head. -/
def DAVConfigIndex.HeadSafe (index : DAVConfigIndex) (candidates : List Bytes) (variant : VariantRule) : Prop :=
  (index.OffersHead candidates → variant.overrideHead ≠ ascii "hideHair" ∧ variant.overrideHead ≠ ascii "hideAll") ∧
    variant.overrideHead ≠ ascii "hideAll"

/-- The chooser returns something as soon as a candidate is above the threshold. -/
theorem exists_choosePreferredHiddenVariant {s : Session} {index : DAVConfigIndex} {armor : WornArmorState}
    {candidates : List Bytes} {name : Bytes} {variant : VariantRule} (hname : name ∈ candidates)
    (hv : index.variants.lookup name = some variant) (hscore : -500 < variant.scoreHidden s armor) :
    ∃ best, index.choosePreferredHiddenVariant s armor candidates = some best := by
  have hmem : (name, variant.scoreHidden s armor) ∈ index.scored (fun variant => variant.scoreHidden s armor) candidates :=
    mem_scored.mpr ⟨hname, variant, hv, rfl⟩
  obtain ⟨b, -, hfold, hbest⟩ := Argmax.foldl_keepBetter outranks_strictTotal (List.ne_nil_of_mem hmem)
  have hle : variant.scoreHidden s armor ≤ b.2 := by
    rcases outranks_eq_false.mp (hbest _ hmem) with hlt | ⟨heq, -⟩
    · exact hlt.le
    · exact heq.le
  refine ⟨b.1, ?_⟩
  unfold DAVConfigIndex.choosePreferredHiddenVariant
  rw [foldl_hiddenChoiceStep, hfold]
  exact if_pos (lt_of_lt_of_le hscore hle)

/-- The chosen hidden variant is safe for the head, for any armor and any candidates, exactly when every candidate that is
not safe weighs at most -500, or less than a safe one, or as much as a safe one of a smaller name. -/
theorem head_safe_iff (s : Session) (index : DAVConfigIndex) (armor : WornArmorState) (candidates : List Bytes) :
    (∀ name variant, index.choosePreferredHiddenVariant s armor candidates = some name →
      index.variants.lookup name = some variant → index.HeadSafe candidates variant) ↔
    ∀ name ∈ candidates, ∀ variant, index.variants.lookup name = some variant → ¬index.HeadSafe candidates variant →
      variant.hiddenWeight s armor ≤ -500 ∨
      ∃ other ∈ candidates, ∃ variant', index.variants.lookup other = some variant' ∧ index.HeadSafe candidates variant' ∧
        (variant.hiddenWeight s armor < variant'.hiddenWeight s armor ∨
          (variant.hiddenWeight s armor = variant'.hiddenWeight s armor ∧ other < name)) := by
  simp only [← scoreHidden_eq]
  constructor
  · intro hsafe name hname variant hv hunsafe
    by_cases hscore : -500 < variant.scoreHidden s armor
    · obtain ⟨best, hbest⟩ := exists_choosePreferredHiddenVariant hname hv hscore
      obtain ⟨hmem, variant', hv', -, hall⟩ := choosePreferredHiddenVariant_eq_some.mp hbest
      have hsafe' := hsafe best variant' hbest hv'
      refine Or.inr ⟨best, hmem, variant', hv', hsafe', ?_⟩
      rcases hall name hname variant hv with hlt | ⟨heq, hle⟩
      · exact Or.inl hlt
      · refine Or.inr ⟨heq, lt_of_le_of_ne hle fun hsame => ?_⟩
        rw [hsame, hv, Option.some.injEq] at hv'
        exact hunsafe (hv' ▸ hsafe')
    · exact Or.inl (not_lt.mp hscore)
  · intro hbeaten name variant hchosen hv
    by_contra hunsafe
    obtain ⟨hmem, variant', hv', hscore, hall⟩ := choosePreferredHiddenVariant_eq_some.mp hchosen
    rw [hv, Option.some.injEq] at hv'
    subst hv'
    rcases hbeaten name hmem variant hv hunsafe with hlow | ⟨other, hother, variant', hv', -, hbeats⟩
    · exact absurd hscore (not_lt.mpr hlow)
    · rcases hall other hother variant' hv' with hlt | ⟨heq, hle⟩
      · rcases hbeats with hgt | ⟨hsame, -⟩
        · exact absurd hlt hgt.not_gt
        · exact absurd hsame hlt.ne'
      · rcases hbeats with hgt | ⟨-, hsmaller⟩
        · exact absurd heq hgt.ne'
        · exact absurd hsmaller (not_lt.mpr hle)

namespace Hood

/-- Two addons that cover both the head and the hair. -/
def helmets : List TESObjectARMA := [addonForm 0x801 3, addonForm 0x802 3]

/-- One variant hides both slots and the hair, the other hides slot 31 and shows the head. -/
def headVariants : List Json :=
  [.object [(ascii "name", .string (ascii "HideHair")), (ascii "overrideHead", .string (ascii "hideHair")),
      (ascii "replaceBySlot", .object [(ascii "30", .array []), (ascii "31", .array [])])],
    .object [(ascii "name", .string (ascii "ShowHead")), (ascii "overrideHead", .string (ascii "showHead")),
      (ascii "replaceBySlot", .object [(ascii "31", .array [])])]]

end Hood

/-- With two base addons that cover both slots, the second slot outweighs the head: the variant that hides the hair gets
1800, the one that shows the head 1600. -/
theorem slots_outweigh_head :
    ¬∀ (s : Session) (root : Option (List DirectoryEntry)) (armor : WornArmorState), s.Lawful → armor.visualState = .hidden →
      ∀ name variant,
        (load s root).choosePreferredHiddenVariant s armor ((load s root).findMatchingVariants s armor) = some name →
        (load s root).variants.lookup name = some variant →
        (load s root).HeadSafe ((load s root).findMatchingVariants s armor) variant := by
  intro h
  obtain ⟨hides, hhides, hhair⟩ := exists_variant (load (Hood.session Hood.helmets) (Hood.root Hood.headVariants))
    (ascii "HideHair") (fun variant => variant.overrideHead == ascii "hideHair") (by decide)
  obtain ⟨shows, hshows, hhead⟩ := exists_variant (load (Hood.session Hood.helmets) (Hood.root Hood.headVariants))
    (ascii "ShowHead") (fun variant => variant.overrideHead == ascii "showHead") (by decide)
  have hsafe := h (Hood.session Hood.helmets) (Hood.root Hood.headVariants) (Hood.worn Hood.helmets .hidden [])
    (Hood.lawful (by decide) (by decide) (by decide)) rfl (ascii "HideHair") hides (by decide) hhides
  exact (hsafe.1 ⟨ascii "ShowHead", by decide, shows, hshows, Or.inr (eq_of_beq hhead)⟩).1 (eq_of_beq hhair)

/-! ## Replaced variants -/

/-- A variant that is not the player's own is among the candidates. -/
def DAVConfigIndex.OffersGeneric (index : DAVConfigIndex) (candidates : List Bytes) : Prop :=
  ∃ name ∈ candidates, ∃ variant, index.variants.lookup name = some variant ∧ variant.isPlayerScoped = false

/-- When a variant that is not the player's own is among the matches, none of the player's own is chosen for a replaced
armor, in any index, exactly when each of the player's own weighs at most as much as another match. -/
theorem proxy_safe_iff (s : Session) (index : DAVConfigIndex) (armor : WornArmorState) :
    let candidates := index.findMatchingVariants s armor
    (index.OffersGeneric candidates → ∀ name variant, index.choosePreferredReplacedVariant s armor candidates = some name →
      index.variants.lookup name = some variant → variant.isPlayerScoped = false) ↔
    (index.OffersGeneric candidates → ∀ name ∈ candidates, ∀ variant, index.variants.lookup name = some variant →
      variant.isPlayerScoped = true →
      ∃ other ∈ candidates, other ≠ name ∧ ∃ variant', index.variants.lookup other = some variant' ∧
        variant.replacedWeight s armor ≤ variant'.replacedWeight s armor) := by
  intro candidates
  have hnodup : candidates.Nodup := (pairwise_findMatchingVariants s index armor).imp fun hlt => ne_of_lt hlt
  refine imp_congr_right fun _ => ?_
  simp only [choosePreferredReplacedVariant_eq_some hnodup, ← scoreReplaced_eq]
  constructor
  · intro hgeneric name hname variant hv hplayer
    by_contra hbeats
    -- Without an equal the player's own variant would be the greatest.
    have hchosen := hgeneric name variant ⟨hname, variant, hv, fun other hother hne variant' hv' => ?_⟩ hv
    · rw [hplayer] at hchosen
      cases hchosen
    · by_contra hle
      exact hbeats ⟨other, hother, hne, variant', hv', not_lt.mp hle⟩
  · rintro hbeaten name variant ⟨hname, variant', hv', hall⟩ hv
    rw [hv, Option.some.injEq] at hv'
    subst hv'
    by_contra hplayer
    rw [Bool.not_eq_false] at hplayer
    obtain ⟨other, hother, hne, variant', hv', hle⟩ := hbeaten name hname variant hv hplayer
    exact absurd (hall other hother hne variant' hv') (not_lt.mpr hle)

namespace Hood

/-- An addon for each of twelve races. -/
def twelve : List TESObjectARMA := (List.range 12).map fun i => addonForm (0x801 + UInt32.ofNat i) 2

/-- The player's own variant has an entry for each race, the other one a rule for their slot. -/
def loweredVariants : List Json :=
  [.object [(ascii "name", .string (ascii "HoodPlayer")),
      (ascii "replaceByForm", .object ((List.range 12).map fun i =>
        (ascii "Hood.esp|" ++ hexPadded 3 (0x801 + i), .string (ascii "Hood.esp|8FF"))))],
    .object [(ascii "name", .string (ascii "LoweredHood")),
      (ascii "replaceBySlot", .object [(ascii "31", .string (ascii "Hood.esp|8FF"))])]]

end Hood

/-- With an entry for each of twelve races the player's own variant gets 19880, and the one for everybody 11999. -/
theorem entries_outweigh_penalty :
    ¬∀ (s : Session) (root : Option (List DirectoryEntry)) (armor : WornArmorState), s.Lawful → armor.visualState = .replaced →
      (load s root).OffersGeneric ((load s root).findMatchingVariants s armor) →
      ∀ name variant,
        (load s root).choosePreferredReplacedVariant s armor ((load s root).findMatchingVariants s armor) = some name →
        (load s root).variants.lookup name = some variant → variant.isPlayerScoped = false := by
  intro h
  obtain ⟨player, hplayer, hscoped⟩ := exists_variant (load (Hood.session Hood.twelve) (Hood.root Hood.loweredVariants))
    (ascii "HoodPlayer") VariantRule.isPlayerScoped (by decide +kernel)
  obtain ⟨generic, hgeneric, hfree⟩ := exists_variant (load (Hood.session Hood.twelve) (Hood.root Hood.loweredVariants))
    (ascii "LoweredHood") (fun variant => !variant.isPlayerScoped) (by decide +kernel)
  have hsafe := h (Hood.session Hood.twelve) (Hood.root Hood.loweredVariants)
    (Hood.worn Hood.twelve .replaced [makeFormIdentity Hood.lowered.toTESForm])
    (Hood.lawful (by decide +kernel) (by decide +kernel) (by decide)) rfl
    ⟨ascii "LoweredHood", by decide +kernel, generic, hgeneric, by simpa using hfree⟩ (ascii "HoodPlayer") player
    (by decide +kernel) hplayer
  rw [hscoped] at hsafe
  cases hsafe

end DAVSyncTogether
