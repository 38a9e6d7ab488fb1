import DAVSyncTogether.Lemmas.RenamedMatching
import DAVSyncTogether.Lemmas.Walk

/-!
# Captures in two load orders

`PlayersAlike` says that one player is looked at in two games: the trees render the same addons for the same armors, and the
same armors are worn, up to the renaming and in any order. Runtime IDs sort what is rendered, and are searched in what an
armor has; only membership comes out of that (`mem_lookup_visitArmorNodes`, `classifyVisualState_rename`), so the captured
armors name the same forms in the same order (`PlayersAlike.capture_alike`).
-/

namespace DAVSyncTogether

open ByteString SortUnique Related

/-- The pairs of addon and armor that the names in a tree parse to. -/
def NiAVObject.parsedPairs (o : NiAVObject) : Set (FormID × FormID) :=
  {r | ∃ p ∈ o.objects, DAVProbe.parseArmorNode p.1 = some r}

theorem NiAVObject.mem_parsedPairs (o : NiAVObject) (r : FormID × FormID) :
    r ∈ o.parsedPairs ↔ r ∈ o.objects.filterMap fun p => DAVProbe.parseArmorNode p.1 :=
  List.mem_filterMap.symm

/-- The armors the player wears, as the inventory lists them. -/
def PlayerCharacter.worn (p : PlayerCharacter) : List TESObjectARMO := p.inventory.filterMap DAVProbe.wornArmor

/-- One player in two games; the forms of what is worn and rendered come from files. -/
structure PlayersAlike (ρ : FormID → FormID) (s₁ s₂ : Session) (p q : PlayerCharacter) : Prop where
  object3D : p.object3D = .null ↔ q.object3D = .null
  parsedPairs : q.object3D.parsedPairs = Prod.map ρ ρ '' p.object3D.parsedPairs
  worn : (p.worn.map fun a => ρ a.formID).Perm (q.worn.map fun b => b.formID)
  loaded₁ : ∀ a ∈ p.worn, s₁.Loaded (.armo a)
  loaded₂ : ∀ b ∈ q.worn, s₂.Loaded (.armo b)
  armorFiles : ∀ a ∈ p.worn, a.sourceFile ≠ none
  addonFiles : ∀ a ∈ p.worn, ∀ addon, some addon ∈ a.armorAddons → addon.sourceFile ≠ none
  renderedFiles : ∀ a ∈ p.worn, ∀ id, (id, a.formID) ∈ p.object3D.parsedPairs →
    ∃ f, s₁.lookupByID id = some f ∧ f.toTESForm.sourceFile ≠ none

namespace DAVProbe

/-! ## What is rendered -/

/-- The walk collects for each armor the addons that the tree renders for it. -/
theorem mem_lookup_visitArmorNodes (o : NiAVObject) (arma armo : FormID) :
    arma ∈ ((visitArmorNodes o ∅).lookup armo).getD [] ↔ (arma, armo) ∈ o.parsedPairs := by
  rw [lookup_visitArmorNodes, AList.lookup_empty, Option.getD_none, List.nil_append, List.mem_filterMap]
  simp only [addonOf_eq_some]
  rfl

/-! ## The snapshot -/

theorem captureLocalPlayer_null (s : Session) (davLoaded : Bool) {p : PlayerCharacter} (h : p.object3D = .null) :
    captureLocalPlayer s davLoaded (some p) = { davLoaded } := by
  simp only [captureLocalPlayer, h]

/-- The captured armors: the states of the worn ones, sorted by identity. -/
theorem wornArmors_captureLocalPlayer (s : Session) (davLoaded : Bool) {p : PlayerCharacter} (h : p.object3D ≠ .null) :
    (captureLocalPlayer s davLoaded (some p)).wornArmors =
      (p.worn.map (captureArmor s (visitArmorNodes p.object3D ∅))).insertionSort
        (NotAfter fun a b => formIdentityLess a.armor b.armor) := by
  unfold captureLocalPlayer
  cases hobject : p.object3D with
  | null => exact absurd hobject h
  | geometry name appCulled => simp only [hobject]; rfl
  | node name appCulled children => simp only [hobject]; rfl

theorem captureLocalPlayer_davLoaded (s : Session) (davLoaded : Bool) (p : PlayerCharacter) :
    (captureLocalPlayer s davLoaded (some p)).davLoaded = davLoaded := by
  unfold captureLocalPlayer
  dsimp only
  split <;> rfl

/-! ## One armor -/

theorem mem_sortAndUniqueIDs (l : List FormID) (n : FormID) : n ∈ sortAndUniqueIDs l ↔ n ∈ l :=
  mem_sortUnique (fun a _ b _ => by simp) n

theorem mem_sortAndUniqueIDs_map {ρ : FormID → FormID} {l l' : List FormID} (h : ∀ n, n ∈ l' ↔ n ∈ l.map ρ) (n : FormID) :
    n ∈ sortAndUniqueIDs l' ↔ n ∈ (sortAndUniqueIDs l).map ρ := by
  rw [mem_sortAndUniqueIDs, h]
  simp only [List.mem_map, mem_sortAndUniqueIDs]

/-- Only membership decides the visual state, and an injective renaming keeps it. -/
theorem classifyVisualState_rename {ρ : FormID → FormID} (hρ : Function.Injective ρ) {base base' active active' : List FormID}
    (hbase : ∀ n, n ∈ base' ↔ n ∈ base.map ρ) (hactive : ∀ n, n ∈ active' ↔ n ∈ active.map ρ) :
    classifyVisualState base active = classifyVisualState base' active' := by
  have hempty : ∀ {l l' : List FormID}, (∀ n, n ∈ l' ↔ n ∈ l.map ρ) → l.isEmpty = l'.isEmpty := by
    intro l l' h
    rw [Bool.eq_iff_iff, List.isEmpty_iff, List.isEmpty_iff, List.eq_nil_iff_forall_not_mem, List.eq_nil_iff_forall_not_mem]
    simp only [h, List.mem_map, not_exists, not_and]
    exact ⟨fun hl n m hm => absurd hm (hl m), fun hl n hn => hl (ρ n) n hn rfl⟩
  have hall : active.all (fun n => decide (n ∈ base)) = active'.all (fun n => decide (n ∈ base')) := by
    rw [Bool.eq_iff_iff, List.all_eq_true, List.all_eq_true]
    simp only [decide_eq_true_eq, hactive, hbase, List.forall_mem_map, List.mem_map_of_injective hρ]
  unfold classifyVisualState
  rw [hempty hbase, hempty hactive, hall]

end DAVProbe

section

variable {ρ : FormID → FormID} {root : Option (List DirectoryEntry)} {s₁ s₂ : Session} {a b : TESObjectARMO}
  {p q : PlayerCharacter}

/-- The identity made of a runtime ID, of a form with a file, names the form that the renamed ID finds in the other game. -/
theorem LoadOrders.sameName_ofID (h : LoadOrders ρ root s₁ s₂) {id : FormID} {f : Form} (hf : s₁.lookupByID id = some f)
    (hfile : f.toTESForm.sourceFile ≠ none) :
    SameName s₁ s₂ (makeFormIdentityOfID s₁ id) (makeFormIdentityOfID s₂ (ρ id)) := by
  have hrel := h.lookupByID id
  rw [hf] at hrel
  unfold makeFormIdentityOfID
  rw [hf]
  obtain ⟨g, hg, hfg⟩ := rel_some_left hrel
  rw [hg]
  have hloaded : s₁.Loaded f := by rw [Session.Loaded, h.lawful₁.formID_of_lookup id f hf, hf]
  have hloaded' : s₂.Loaded g := by rw [Session.Loaded, h.lawful₂.formID_of_lookup (ρ id) g hg, hg]
  exact h.sameName hfg hloaded hloaded' hfile

/-- Armors of the two games with corresponding runtime IDs correspond. -/
theorem LoadOrders.armo_renamed (h : LoadOrders ρ root s₁ s₂) (ha : s₁.Loaded (.armo a)) (hb : s₂.Loaded (.armo b))
    (hid : ρ a.formID = b.formID) : a.Renamed ρ b := by
  have hrel := h.lookupByID a.formID
  rw [hid, show s₁.lookupByID a.formID = some (.armo a) from ha] at hrel
  obtain ⟨g, hg, hag⟩ := rel_some_left hrel
  rw [show s₂.lookupByID b.formID = some (.armo b) from hb, Option.some.injEq] at hg
  subst hg
  cases hag with
  | armo hab => exact hab

/-- The addons of corresponding armors correspond one by one. -/
theorem TESObjectARMO.Renamed.addons (hab : a.Renamed ρ b) :
    b.armorAddons.filterMap id = (a.armorAddons.filterMap id).map (TESObjectARMA.rename ρ) := by
  rw [hab.armorAddons, List.filterMap_map, List.map_filterMap]
  rfl

/-- The addons of corresponding armors name the same forms. -/
theorem LoadOrders.addons_sameNames (h : LoadOrders ρ root s₁ s₂) (hab : a.Renamed ρ b) (ha : s₁.Loaded (.armo a))
    (hb : s₂.Loaded (.armo b)) (hfiles : ∀ addon, some addon ∈ a.armorAddons → addon.sourceFile ≠ none) :
    SameNames s₁ s₂ ((a.armorAddons.filterMap id).map fun addon => makeFormIdentity addon.toTESForm)
      ((b.armorAddons.filterMap id).map fun addon => makeFormIdentity addon.toTESForm) := by
  rw [hab.addons, List.map_map]
  refine List.forall₂_map_left_iff.mpr (List.forall₂_map_right_iff.mpr (List.forall₂_same.mpr ?_))
  intro addon haddon
  have hmem : some addon ∈ a.armorAddons := by simpa using haddon
  have hmem' : some (addon.rename ρ) ∈ b.armorAddons := by
    rw [hab.armorAddons]
    exact List.mem_map.mpr ⟨some addon, hmem, rfl⟩
  exact h.sameName (Form.Renamed.arma addon) (h.lawful₁.loaded_of_armorAddons a ha addon hmem)
    (h.lawful₂.loaded_of_armorAddons b hb _ hmem') (hfiles addon hmem)

/-- What is rendered for an armor names the same forms in both games, in whatever order the trees list it. -/
theorem LoadOrders.rendered_sameNames (h : LoadOrders ρ root s₁ s₂) {l l' : List FormID} (hl : ∀ n, n ∈ l' ↔ n ∈ l.map ρ)
    (hforms : ∀ n ∈ l, ∃ f, s₁.lookupByID n = some f ∧ f.toTESForm.sourceFile ≠ none) :
    SameNames s₁ s₂ (DAVProbe.sortAndUniqueIdentities (l.map (makeFormIdentityOfID s₁)))
      (DAVProbe.sortAndUniqueIdentities (l'.map (makeFormIdentityOfID s₂))) := by
  have hnames : ∀ n ∈ l, SameName s₁ s₂ (makeFormIdentityOfID s₁ n) (makeFormIdentityOfID s₂ (ρ n)) := by
    intro n hn
    obtain ⟨f, hf, hfile⟩ := hforms n hn
    exact h.sameName_ofID hf hfile
  refine sameNames_sortUnique h.lawful₁ h.lawful₂ ?_ ?_ ?_
  · simp only [List.forall_mem_map]
    exact fun n hn => (hnames n hn).left
  · simp only [List.forall_mem_map, hl]
    exact fun n hn => (hnames n hn).right
  · intro name
    simp only [List.mem_map, hl, exists_exists_and_eq_and]
    constructor
    · rintro ⟨n, hn, rfl⟩
      exact ⟨n, hn, (hnames n hn).stableName.symm⟩
    · rintro ⟨n, hn, rfl⟩
      exact ⟨n, hn, (hnames n hn).stableName⟩

/-- Two captures of one armor name the same forms, when the same addons are rendered for it, in any order. -/
theorem LoadOrders.captureArmor_alike (h : LoadOrders ρ root s₁ s₂) (hab : a.Renamed ρ b) (ha : s₁.Loaded (.armo a))
    (hb : s₂.Loaded (.armo b)) (hfile : a.sourceFile ≠ none)
    (hfiles : ∀ addon, some addon ∈ a.armorAddons → addon.sourceFile ≠ none) {m₁ m₂ : DAVProbe.ActiveAddonMap}
    (hactive : ∀ n, n ∈ (m₂.lookup b.formID).getD [] ↔ n ∈ ((m₁.lookup a.formID).getD []).map ρ)
    (hforms : ∀ n ∈ (m₁.lookup a.formID).getD [], ∃ f, s₁.lookupByID n = some f ∧ f.toTESForm.sourceFile ≠ none) :
    (DAVProbe.captureArmor s₁ m₁ a).Alike s₁ s₂ (DAVProbe.captureArmor s₂ m₂ b) := by
  have hbase : ∀ n, n ∈ (b.armorAddons.filterMap id).map (fun addon => addon.formID) ↔
      n ∈ ((a.armorAddons.filterMap id).map fun addon => addon.formID).map ρ := by
    intro n
    rw [hab.addons, List.map_map, List.map_map]
    rfl
  have hrendered := DAVProbe.mem_sortAndUniqueIDs_map hactive
  exact {
    armor := h.sameName (Form.Renamed.armo hab) ha hb hfile
    visualState := DAVProbe.classifyVisualState_rename h.injective (DAVProbe.mem_sortAndUniqueIDs_map hbase) hrendered
    base := (h.addons_sameNames hab ha hb hfiles).sortUnique h.lawful₁ h.lawful₂
    active := h.rendered_sameNames hrendered fun n hn => hforms n ((DAVProbe.mem_sortAndUniqueIDs _ n).mp hn) }

/-! ## The snapshot -/

/-- The two games list one player's worn armors up to the renaming and a permutation. -/
theorem PlayersAlike.worn_renamed (hpq : PlayersAlike ρ s₁ s₂ p q) (h : LoadOrders ρ root s₁ s₂) :
    ∃ l, List.Forall₂ (fun a b => a ∈ p.worn ∧ b ∈ q.worn ∧ a.Renamed ρ b) p.worn l ∧ l.Perm q.worn := by
  have hids : List.Forall₂ (fun n (b : TESObjectARMO) => n = b.formID) (q.worn.map fun b => b.formID) q.worn :=
    List.forall₂_map_left_iff.mpr (List.forall₂_same.mpr fun _ _ => rfl)
  obtain ⟨l, hl, hperm⟩ := List.perm_comp_forall₂ hpq.worn hids
  refine ⟨l, ?_, hperm⟩
  rw [List.forall₂_map_left_iff] at hl
  have hmem : List.Forall₂ (fun a b => a ∈ p.worn ∧ b ∈ l ∧ ρ a.formID = b.formID) p.worn l := by
    refine List.forall₂_iff_zip.mpr ⟨hl.length_eq, fun {a b} hab => ?_⟩
    exact ⟨(List.of_mem_zip hab).1, (List.of_mem_zip hab).2, (List.forall₂_iff_zip.mp hl).2 hab⟩
  refine hmem.imp fun a b ⟨ha, hb, hid⟩ => ?_
  have hb' := hperm.mem_iff.mp hb
  exact ⟨ha, hb', h.armo_renamed (hpq.loaded₁ a ha) (hpq.loaded₂ b hb') hid⟩

/-- The trees of one player render corresponding addons for corresponding armors. -/
theorem PlayersAlike.rendered (hpq : PlayersAlike ρ s₁ s₂ p q) (hρ : Function.Injective ρ) (armo n : FormID) :
    n ∈ ((DAVProbe.visitArmorNodes q.object3D ∅).lookup (ρ armo)).getD [] ↔
      n ∈ (((DAVProbe.visitArmorNodes p.object3D ∅).lookup armo).getD []).map ρ := by
  rw [DAVProbe.mem_lookup_visitArmorNodes, hpq.parsedPairs]
  simp only [List.mem_map, DAVProbe.mem_lookup_visitArmorNodes]
  constructor
  · rintro ⟨⟨x, y⟩, hxy, heq⟩
    obtain ⟨hx, hy⟩ := Prod.mk.inj heq
    exact ⟨x, hρ hy ▸ hxy, hx⟩
  · rintro ⟨x, hx, rfl⟩
    exact ⟨(x, armo), hx, rfl⟩

/-- An armor that is loaded is found again by the identity made of it. -/
theorem Session.Loaded.eq_of_makeFormIdentity {s : Session} (ha : s.Loaded (.armo a)) (hb : s.Loaded (.armo b))
    (hab : makeFormIdentity a.toTESForm = makeFormIdentity b.toTESForm) : a = b := by
  have hid : a.formID = b.formID := by
    rw [← makeFormIdentity_runtimeFormID a.toTESForm, hab, makeFormIdentity_runtimeFormID]
  have ha' : s.lookupByID a.formID = some (.armo a) := ha
  have hb' : s.lookupByID b.formID = some (.armo b) := hb
  rw [hid, hb', Option.some.injEq, Form.armo.injEq] at ha'
  exact ha'.symm

/-- The order of the inventory is gone after the sort: captured armors with one identity are captures of one armor. -/
theorem sort_captureArmor_perm {s : Session} {l l' : List TESObjectARMO} (hp : l.Perm l') (hl : ∀ a ∈ l, s.Loaded (.armo a))
    (m : DAVProbe.ActiveAddonMap) :
    (l.map (DAVProbe.captureArmor s m)).insertionSort (NotAfter fun a b => formIdentityLess a.armor b.armor) =
      (l'.map (DAVProbe.captureArmor s m)).insertionSort (NotAfter fun a b => formIdentityLess a.armor b.armor) := by
  refine insertionSort_congr formIdentityLess_strictTotal WornArmorState.armor (hp.map _) ?_
  simp only [List.forall_mem_map]
  intro a ha b hb hab
  rw [(hl a ha).eq_of_makeFormIdentity (hl b hb) hab]

/-- A worn armor is captured alike in both games. -/
theorem PlayersAlike.captureArmor_alike (hpq : PlayersAlike ρ s₁ s₂ p q) (h : LoadOrders ρ root s₁ s₂) (ha : a ∈ p.worn)
    (hb : b ∈ q.worn) (hab : a.Renamed ρ b) :
    (DAVProbe.captureArmor s₁ (DAVProbe.visitArmorNodes p.object3D ∅) a).Alike s₁ s₂
      (DAVProbe.captureArmor s₂ (DAVProbe.visitArmorNodes q.object3D ∅) b) := by
  have hid : b.formID = ρ a.formID := congrArg TESForm.formID hab.toTESForm
  refine h.captureArmor_alike hab (hpq.loaded₁ a ha) (hpq.loaded₂ b hb) (hpq.armorFiles a ha) (hpq.addonFiles a ha) ?_ ?_
  · intro n
    rw [hid]
    exact hpq.rendered h.injective a.formID n
  · intro n hn
    exact hpq.renderedFiles a ha n ((DAVProbe.mem_lookup_visitArmorNodes _ _ _).mp hn)

/-- Both games capture one player in armors that name the same forms, in the same order. -/
theorem PlayersAlike.capture_alike (hpq : PlayersAlike ρ s₁ s₂ p q) (h : LoadOrders ρ root s₁ s₂) (davLoaded : Bool) :
    List.Forall₂ (WornArmorState.Alike s₁ s₂) (DAVProbe.captureLocalPlayer s₁ davLoaded (some p)).wornArmors
      (DAVProbe.captureLocalPlayer s₂ davLoaded (some q)).wornArmors := by
  by_cases hnull : p.object3D = .null
  · rw [DAVProbe.captureLocalPlayer_null s₁ davLoaded hnull, DAVProbe.captureLocalPlayer_null s₂ davLoaded (hpq.object3D.mp hnull)]
    exact List.Forall₂.nil
  · rw [DAVProbe.wornArmors_captureLocalPlayer s₁ davLoaded hnull,
      DAVProbe.wornArmors_captureLocalPlayer s₂ davLoaded (mt hpq.object3D.mpr hnull)]
    obtain ⟨l, hl, hperm⟩ := hpq.worn_renamed h
    rw [← sort_captureArmor_perm hperm fun b hb => hpq.loaded₂ b (hperm.mem_iff.mp hb)]
    refine forall₂_insertionSort (R := WornArmorState.Alike s₁ s₂) ?_ ?_
    · intro a b a' b' hab hab'
      rw [NotAfter, NotAfter, hab'.armor.formIdentityLess h.lawful₁ h.lawful₂ hab.armor]
    · exact List.forall₂_map_left_iff.mpr (List.forall₂_map_right_iff.mpr
        (hl.imp fun a b ⟨ha, hb, hab⟩ => hpq.captureArmor_alike h ha hb hab))

end

end DAVSyncTogether
