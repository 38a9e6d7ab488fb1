import DAVSyncTogether.Lemmas.SwappedFiles

/-!
# What leaves the game does not depend on the load order

Two games of one player, with the same forms in two load orders, the same configuration, the same things rendered and the
same armors worn: both capture the same names in the same order, and tell the remotes the same bytes.
-/

namespace DAVSyncTogether

open ByteString DAVProbe

/-- Nothing that leaves the game for one armor depends on the game: each identity is its file and local ID, and the variants
and the messages agree. -/
structure SameOutside (s₁ s₂ : Session) (x y : DAVConfigIndex) (a b : WornArmorState) : Prop where
  stable : a.armor.isStable = true ∧ b.armor.isStable = true
  armor : a.armor.stableName = b.armor.stableName
  visualState : a.visualState = b.visualState
  activeStable : (∀ i ∈ a.activeArmorAddons, i.isStable = true) ∧ ∀ j ∈ b.activeArmorAddons, j.isStable = true
  active : a.activeArmorAddons.map FormIdentity.stableName = b.activeArmorAddons.map FormIdentity.stableName
  matching : x.findMatchingVariants s₁ a = y.findMatchingVariants s₂ b
  selected : selectVariant s₁ x a = selectVariant s₂ y b
  payload : ∀ variant unequipped, encodeArmorState a variant unequipped = encodeArmorState b variant unequipped
  transmission : ∀ service variant unequipped,
    sendArmorState s₁ x service a variant unequipped = sendArmorState s₂ y service b variant unequipped

/-- Armors that name the same forms leave the game alike. -/
theorem WornArmorState.Alike.sameOutside {ρ : FormID → FormID} {root : Option (List DirectoryEntry)} {s₁ s₂ : Session}
    {x y : DAVConfigIndex} {a b : WornArmorState} (hab : a.Alike s₁ s₂ b) (h : LoadOrders ρ root s₁ s₂) (hxy : x.Alike s₁ s₂ y) :
    SameOutside s₁ s₂ x y a b := by
  obtain ⟨hleft, hright, hnames⟩ := sameNames_iff.mp hab.active
  exact {
    stable := ⟨hab.armor.left.stable, hab.armor.right.stable⟩
    armor := hab.armor.stableName
    visualState := hab.visualState
    activeStable := ⟨fun i hi => (hleft i hi).stable, fun j hj => (hright j hj).stable⟩
    active := hnames
    matching := h.findMatchingVariants_eq hxy hab
    selected := h.selectVariant_eq hxy hab
    payload := hab.encodeArmorState_eq
    transmission := h.sendArmorState_eq hxy hab }

/-- In two load orders, with the indexes loaded from the same files, the captures of one player have one hash, and armor by
armor the same stable identity, visual state, stable rendered addons, matching variants, selected variant and messages. -/
theorem load_order_independent {ρ : FormID → FormID} {root : Option (List DirectoryEntry)} {s₁ s₂ : Session}
    (h : LoadOrders ρ root s₁ s₂) (davLoaded : Bool) {p q : PlayerCharacter} (hpq : PlayersAlike ρ s₁ s₂ p q) :
    (captureLocalPlayer s₁ davLoaded (some p)).stateHash = (captureLocalPlayer s₂ davLoaded (some q)).stateHash ∧
    List.Forall₂ (SameOutside s₁ s₂ (load s₁ root) (load s₂ root)) (captureLocalPlayer s₁ davLoaded (some p)).wornArmors
      (captureLocalPlayer s₂ davLoaded (some q)).wornArmors := by
  have hworn := hpq.capture_alike h davLoaded
  refine ⟨stateHash_of_alike ?_ hworn, hworn.imp fun a b hab => hab.sameOutside h h.load_alike⟩
  rw [captureLocalPlayer_davLoaded, captureLocalPlayer_davLoaded]

/-- It applies to the boots, the helmet and the hood: the file of the boots keeps its place, those of the other two exchange
theirs. -/
theorem load_order_independent_swapped :
    let c := captureLocalPlayer SwappedFiles.session₁ true (some SwappedFiles.player₁)
    let d := captureLocalPlayer SwappedFiles.session₂ true (some SwappedFiles.player₂)
    c.stateHash = d.stateHash ∧
    List.Forall₂ (SameOutside SwappedFiles.session₁ SwappedFiles.session₂ (load SwappedFiles.session₁ SwappedFiles.root)
      (load SwappedFiles.session₂ SwappedFiles.root)) c.wornArmors d.wornArmors :=
  load_order_independent SwappedFiles.loadOrders true SwappedFiles.playersAlike

/-- The player's armors there: the hidden helmet and the replaced hood, with a variant each, and the visible boots. -/
example : (captureLocalPlayer SwappedFiles.session₁ true (some SwappedFiles.player₁)).wornArmors.map
      (fun a => (a.visualState, selectVariant SwappedFiles.session₁ (load SwappedFiles.session₁ SwappedFiles.root) a)) =
    [(.hidden, some (ascii "HideHelmet")), (.replaced, some (ascii "HoodDown")), (.visible, none)] := by
  decide

end DAVSyncTogether
