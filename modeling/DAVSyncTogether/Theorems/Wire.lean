import DAVSyncTogether.Lemmas.Wire
import DAVSyncTogether.Lemmas.Games

/-!
# The wire

A message survives the way to a game with another load order (`decode_encode`), whatever bytes the names are made of. The
sender checks the identity of the armor before it sends, and not those of the rendered addons, so one addon without a source
file makes the receiver refuse the whole message (`transmitted_refused`); nothing else does (`transmitted_accepted_iff`).
-/

namespace DAVSyncTogether

open ByteString

/-- The receiver decodes what the sender encoded: the armor's file and local ID, the state, the variant, and the rendered
addons in order, each with the runtime ID that the receiver's own lookup finds, or 0. -/
theorem decode_encode (receiver : Session) (armor : WornArmorState) (variant : Bytes) (unequipped : Bool)
    (harmor : armor.armor.isStable = true) (haddons : ∀ i ∈ armor.activeArmorAddons, i.isStable = true) :
    decodeArmorState receiver (encodeArmorState armor variant unequipped) = some
      { armor := armor.armor.received receiver
        state :=
          if unequipped = true then .unequipped
          else if armor.visualState = .hidden then .hidden
          else if armor.visualState = .replaced then .replaced
          else .visible
        variant := variant
        activeArmorAddons := if unequipped = true then [] else armor.activeArmorAddons.map (FormIdentity.received receiver) } := by
  have hstable : ∀ i ∈ listedAddons armor unequipped, i.isStable = true := by
    cases unequipped with
    | true => exact fun i hi => absurd hi List.not_mem_nil
    | false => exact haddons
  rw [decodeArmorState_encode, mapM_accepted, if_pos hstable, FormIdentity.accepted, if_pos harmor]
  cases unequipped with
  | true => rfl
  | false =>
    cases hv : armor.visualState <;> simp [listedAddons, encodedState, hv]

/-- The helmet as it is drawn, with a variant name that looks like a field. -/
theorem decode_encode_helmet :
    decodeArmorState Helmet.session (encodeArmorState Helmet.visible (ascii "|state=HIDDEN") false) = some
      { armor := Helmet.visible.armor, state := .visible, variant := ascii "|state=HIDDEN"
        activeArmorAddons := Helmet.visible.activeArmorAddons } := by
  rw [decode_encode Helmet.session Helmet.visible (ascii "|state=HIDDEN") false (by decide) (by decide)]
  decide

/-! ## What the sender transmits -/

/-- A payload the sender hands to the API is the encoded message of an armor with a stable identity. -/
theorem sendArmorState_eq_some {s : Session} {index : DAVConfigIndex} {service : DAVNetworkService} {armor : WornArmorState}
    {variant : Bytes} {unequipped : Bool} {tx : Transmission}
    (h : sendArmorState s index service armor variant unequipped = some tx) :
    armor.armor.isStable = true ∧ index.isArmorRelevant s armor = true ∧
      tx.payload = encodeArmorState armor variant unequipped := by
  unfold sendArmorState at h
  split at h
  · split at h
    · cases h
    · rename_i hstable
      split at h
      · cases h
      · rename_i hrelevant
        cases h
        exact ⟨by simpa using hstable, by simpa using hrelevant, rfl⟩
  · cases h

/-- A transmitted payload is accepted by the decoder, on any receiver, exactly when it tells that the armor was taken off or
every rendered addon has a source file. -/
theorem transmitted_accepted_iff (sender receiver : Session) (index : DAVConfigIndex) (service : DAVNetworkService)
    (armor : WornArmorState) (variant : Bytes) (unequipped : Bool) (tx : Transmission)
    (h : sendArmorState sender index service armor variant unequipped = some tx) :
    (decodeArmorState receiver tx.payload).isSome = true ↔
      unequipped = true ∨ ∀ i ∈ armor.activeArmorAddons, i.isStable = true := by
  obtain ⟨hstable, -, hpayload⟩ := sendArmorState_eq_some h
  rw [hpayload, decodeArmorState_encode, FormIdentity.accepted, if_pos hstable, mapM_accepted]
  cases unequipped <;> simp [listedAddons]

/-- The visible helmet is transmitted with the addon that is rendered for it, and accepted. -/
theorem transmitted_accepted_helmet :
    (decodeArmorState Helmet.session (encodeArmorState Helmet.visible (ascii "HideHelmet") false)).isSome = true :=
  (transmitted_accepted_iff Helmet.session Helmet.session Helmet.index Helmet.sending Helmet.visible (ascii "HideHelmet") false
    { payload := encodeArmorState Helmet.visible (ascii "HideHelmet") false, result := .ok } (by decide)).mpr
    (Or.inr (by decide))

/-- The helmet rendered by an addon that the game made while it ran: the addon's runtime ID finds no form of a file. -/
def Helmet.dynamic : WornArmorState := Helmet.worn .replaced [makeFormIdentityOfID Helmet.session 0xFF000801]

/-- The helmet rendered by an addon of no file passes the checks of the sender, and its message is refused. -/
theorem transmitted_refused :
    ¬∀ (sender receiver : Session) (index : DAVConfigIndex) (service : DAVNetworkService) (armor : WornArmorState)
      (variant : Bytes) (unequipped : Bool) (tx : Transmission),
      (∀ i ∈ armor.activeArmorAddons, ∃ id, i = makeFormIdentityOfID sender id) →
      sendArmorState sender index service armor variant unequipped = some tx →
      (decodeArmorState receiver tx.payload).isSome = true := by
  intro h
  have haccepted := h Helmet.session Helmet.session Helmet.index Helmet.sending Helmet.dynamic (ascii "HideHelmet") false
    { payload := encodeArmorState Helmet.dynamic (ascii "HideHelmet") false, result := .ok }
    (fun i hi => ⟨0xFF000801, List.mem_singleton.mp hi⟩) (by decide)
  rw [decodeArmorState_encode] at haccepted
  revert haccepted
  decide

end DAVSyncTogether
