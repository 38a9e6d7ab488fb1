import DAVSyncTogether.Lemmas.Choosers
import DAVSyncTogether.Lemmas.Relevance
import DAVSyncTogether.Lemmas.Games

/-!
# The filter of the sender

`IsArmorRelevant` asks whether a variant matches now or some rule could ever touch the armor. Its answer depends on the base
addons alone, so an apply and its reset pass the filter together (`filter_passes_both`).
-/

namespace DAVSyncTogether

open ByteString DAVProbe

/-- `sendArmorState` with a running service hands over the message of a relevant armor with a stable identity. -/
theorem sendArmorState_of_relevant {s : Session} {index : DAVConfigIndex} {armor : WornArmorState}
    (hstable : armor.armor.isStable = true) (hrelevant : index.isArmorRelevant s armor = true) (send : Bytes → STRPMResult)
    (variant : Bytes) (unequipped : Bool) :
    sendArmorState s index { running := true, send := some send } armor variant unequipped = some
      { payload := encodeArmorState armor variant unequipped, result := send (encodeArmorState armor variant unequipped) } := by
  simp [sendArmorState, hstable, hrelevant]

/-- Of two states of an armor with the same base addons, in any loaded index: the filter answers the same on both; it passes
a state that some variant explains; and once a variant is selected for one of them, every message about the other is handed
to a service that runs, whatever it tells: the apply, and every reset. -/
theorem filter_passes_both (s : Session) (root : Option (List DirectoryEntry)) (a b : WornArmorState)
    (h : a.baseArmorAddons = b.baseArmorAddons) :
    (load s root).isArmorRelevant s a = (load s root).isArmorRelevant s b ∧
    ((load s root).findMatchingVariants s a ≠ [] → (load s root).isArmorRelevant s a = true) ∧
    ∀ selected, selectVariant s (load s root) a = some selected → b.armor.isStable = true →
      ∀ send variant unequipped,
        sendArmorState s (load s root) { running := true, send := some send } b variant unequipped = some
          { payload := encodeArmorState b variant unequipped, result := send (encodeArmorState b variant unequipped) } := by
  have hcovered := load_covered s root
  have hsame : (load s root).isArmorRelevant s a = (load s root).isArmorRelevant s b := by
    rw [isArmorRelevant_eq_touches hcovered, isArmorRelevant_eq_touches hcovered, h]
  have hmatch : (load s root).findMatchingVariants s a ≠ [] → (load s root).isArmorRelevant s a = true := fun hm => by
    rw [isArmorRelevant_eq_touches hcovered]
    exact touches_of_match hcovered hm
  refine ⟨hsame, hmatch, fun selected hsel hstable send variant unequipped => ?_⟩
  have hrelevant : (load s root).isArmorRelevant s b = true := by
    rw [← hsame]
    exact hmatch (List.ne_nil_of_mem (mem_of_selectVariant hsel))
  exact sendArmorState_of_relevant hstable hrelevant send variant unequipped

/-- The hidden and the visible helmet. -/
theorem filter_passes_both_helmet :
    Helmet.index.isArmorRelevant Helmet.session Helmet.hidden = Helmet.index.isArmorRelevant Helmet.session Helmet.visible ∧
      Helmet.index.isArmorRelevant Helmet.session Helmet.hidden = true := by
  have h := filter_passes_both Helmet.session
    (some [{ isRegularFile := true, extension := ascii ".json", opens := true, json := some Helmet.config }]) Helmet.hidden
    Helmet.visible rfl
  exact ⟨h.1, h.2.1 (by decide)⟩

end DAVSyncTogether
