import DAVSyncTogether.Lemmas.Delivering
import DAVSyncTogether.Lemmas.Games

/-!
# Variants that armors share

DAV applies a variant to an actor and resets an armor: a reset takes out every variant that affects the armor, also one that
another armor is shown with. A tick sends the states of the armors now worn first, and then the resets of those that were
taken off, so a helmet that is swapped for another one of the same variant loses it (`swapped_helmet_shown`). A tracked
variant is active exactly when every such reset is followed by a message that applies it (`tracked_active_iff`).
-/

namespace DAVSyncTogether

open ByteString DAVProbe DynamicArmor

section

variable (sender receiving : Session) (root : Option (List DirectoryEntry)) (p₀ : State) (ticks : List Tick) (r : Receiver)
  (c : ConnectionID) (vm : VirtualMachine) (proxy : TESForm)

/-- The active variants of the proxy, once the messages of a run from a reset have been handled in the order sent. -/
def proxyVariants : List Bytes :=
  let ms := messages ((probe sender (load sender root)).run (reset p₀) ticks).2
  activeVariants receiving (load receiving root)
    (((receiver receiving).run r (ms.map fun m => .handle (m.delivery c vm))).1.actors proxy.formID).papyrusCalls

/-- Sender and receiver share the configuration, the receiver has a shown proxy for the sender, and every message is
dispatched. Then after each tick of a run from a reset, a variant that the sender tracks for an armor is active on the proxy
exactly when every message that resets another armor that the variant affects is followed by a message that applies the
variant. -/
theorem tracked_active_iff (hlawful : receiving.Lawful) (hproxy : r.proxyActor receiving c = some proxy)
    (hshown : (r.actors proxy.formID).object3D ≠ .null)
    (hdispatched : ∀ m ∈ messages ((probe sender (load sender root)).run (reset p₀) ticks).2, Dispatched receiving c vm m)
    (k v : Bytes)
    (htracked : ((probe sender (load sender root)).run (reset p₀) ticks).1.networkTrackedVariants.lookup k = some v) :
    v ∈ proxyVariants sender receiving root p₀ ticks r c vm proxy ↔
      ∀ pre m post, messages ((probe sender (load sender root)).run (reset p₀) ticks).2 = pre ++ m :: post → m.stableKey ≠ k →
        m.Resets receiving (load receiving root) v → ∃ m' ∈ post, m'.Applies v := by
  have hm := mirror_run sender (load sender root) p₀ ticks
  have hdelivered := (hm.armors k).delivered.trans htracked
  unfold proxyVariants
  generalize messages ((probe sender (load sender root)).run (reset p₀) ticks).2 = ms at hdispatched hdelivered ⊢
  obtain ⟨last, hlast, happlies⟩ := exists_applies hdelivered
  rw [activeVariants_run _ _ _ _ hlawful r proxy hproxy hshown ms hdispatched,
    SetOp.mem_replay _ _ ⟨last, hlast, (last.op_eq_add _ _ v).mpr happlies⟩]
  simp only [StateMessage.op_eq_add, StateMessage.op_sweeps]
  refine ⟨fun h pre m post hsplit _ => h pre m post hsplit, fun h pre m post hsplit hresets => ?_⟩
  by_cases hk : m.stableKey = k
  · exact exists_applies_after (hsplit ▸ hdelivered) hk (m.value_update_eq_none.mpr hresets.1)
  · exact h pre m post hsplit hk hresets

end

/-! ## Two helmets of one variant -/

namespace Swap

def otherAddon : TESObjectARMA :=
  { formID := 0x05000803, sourceFile := some (ascii "Helmet.esp"), localFormID := 0x803, slotMask := 2 }

def otherForm : TESObjectARMO :=
  { formID := 0x05000802, sourceFile := some (ascii "Helmet.esp"), localFormID := 0x802, slotMask := 2
    editorID := none, name := some (ascii "Other helmet"), armorAddons := [some otherAddon] }

def forms : List Form :=
  [.armo Helmet.armorForm, .arma Helmet.addonForm, .armo otherForm, .arma otherAddon, .actor Proxy.form]

/-- Both players have both helmets. -/
def session : Session := Session.ofForms forms

theorem listsForms : ListsForms forms := by
  refine ⟨by decide, by decide, by decide, fun a ha addon haddon => ?_⟩
  obtain rfl | rfl : a = Helmet.armorForm ∨ a = otherForm := by simpa [forms] using ha
  · obtain rfl : addon = Helmet.addonForm := by simpa [Helmet.armorForm] using haddon
    simp [forms]
  · obtain rfl : addon = otherAddon := by simpa [otherForm] using haddon
    simp [forms]

theorem lawful : session.Lawful := listsForms.lawful

/-- The one variant hides what covers slot 31. -/
def root : Option (List DirectoryEntry) :=
  Hood.root [.object [(ascii "name", .string (ascii "HideHelmet")), (ascii "replaceBySlot", .object [(ascii "31", .array [])])]]

/-- The other helmet, hidden. -/
def other : WornArmorState :=
  { armor := makeFormIdentity otherForm.toTESForm, visualState := .hidden, activeArmorAddons := []
    baseArmorAddons := [makeFormIdentity otherAddon.toTESForm] }

/-- What is sent about a hidden helmet, and when it is taken off. -/
def message (armor : WornArmorState) (unequipped : Bool) : StateMessage := { armor, variant := ascii "HideHelmet", unequipped }

/-- The messages of the swap: the new helmet is sent before the old one is reset. -/
def sent : List StateMessage := [message Helmet.hidden false, message other false, message Helmet.hidden true]

theorem messages_swap :
    messages ((probe session (load session root)).run (reset {}) [Helmet.tick Helmet.sending Helmet.hidden,
      Helmet.tick Helmet.sending other]).2 = sent := by
  decide

/-- The other helmet, seen as it is. -/
def otherVisible : WornArmorState :=
  { other with visualState := .visible, activeArmorAddons := [makeFormIdentity otherAddon.toTESForm] }

/-- After the swap the new helmet is shown, and hidden again. -/
def hiddenAgain : List Tick := [Helmet.hidden, other, otherVisible, other].map (Helmet.tick Helmet.sending)

def sentAgain : List StateMessage := sent ++ [message otherVisible false, message other false]

theorem messages_hiddenAgain : messages ((probe session (load session root)).run (reset {}) hiddenAgain).2 = sentAgain := by
  decide

/-- The receiver finds what the messages name, and DAV takes every call. -/
theorem dispatched : ∀ m ∈ sentAgain, Dispatched session 1 Proxy.dispatching m := by
  have hall : ∀ m ∈ sentAgain, m.armor.armor.isStable = true ∧ m.variant ≠ [] ∧
      (∀ i ∈ listedAddons m.armor m.unequipped, i.isStable = true ∧ (resolveAddon session i).isSome = true) ∧
      ((m.armor.armor.resolve session).bind Form.asARMO).any (fun found => found.formID != 0) = true := by decide
  intro m hm
  obtain ⟨hstable, hvariant, hlisted, hfound⟩ := hall m hm
  obtain ⟨found, hfound, hid⟩ := (Option.any_eq_true _ _).mp hfound
  have hvalid : (validMessage session (m.delivery 1 Proxy.dispatching).payload).isSome = true :=
    (validMessage_encode_isSome hstable fun i hi => (hlisted i hi).1).mpr
      ⟨by rw [hfound]; rfl, fun i hi => (hlisted i hi).2⟩
  exact dispatched_of_valid lawful hvalid (by rw [hfound]; exact hid) ⟨rfl, rfl⟩ hvariant

end Swap

/-- The reset of the old helmet takes the variant out, and the new helmet, hidden again, puts it back. -/
theorem tracked_active_helmet :
    ascii "HideHelmet" ∈ proxyVariants Swap.session Swap.session Swap.root {} Swap.hiddenAgain Proxy.mapped 1 Proxy.dispatching
      Proxy.form := by
  refine (tracked_active_iff Swap.session Swap.session Swap.root {} Swap.hiddenAgain Proxy.mapped 1 Proxy.dispatching Proxy.form
    Swap.lawful (by decide) nofun ?_ Swap.other.stableKey (ascii "HideHelmet") (by decide)).mpr ?_
  · rw [Swap.messages_hiddenAgain]
    exact Swap.dispatched
  · rw [Swap.messages_hiddenAgain]
    intro pre m post hsplit hk _
    -- The last message applies the variant, and it is about the new helmet.
    have hlast := congrArg List.getLast? hsplit
    rcases List.eq_nil_or_concat post with rfl | ⟨init, m', rfl⟩
    · rw [List.getLast?_concat] at hlast
      have hm : some (Swap.message Swap.other false) = some m := hlast
      rw [← Option.some.inj hm] at hk
      exact absurd rfl hk
    · rw [List.concat_eq_append, ← List.cons_append, ← List.append_assoc, List.getLast?_concat] at hlast
      have hm : some (Swap.message Swap.other false) = some m' := hlast
      exact ⟨m', by simp, by rw [← Option.some.inj hm]; exact ⟨Or.inl rfl, rfl⟩⟩

/-- A hidden helmet is swapped for another one of the same variant, within one tick: the variant is tracked for the new
helmet, and no longer active on the proxy. -/
theorem swapped_helmet_shown :
    ¬∀ (sender receiving : Session) (root : Option (List DirectoryEntry)) (p₀ : State) (ticks : List Tick) (r : Receiver)
      (c : ConnectionID) (vm : VirtualMachine) (proxy : TESForm), sender.Lawful → receiving.Lawful →
      r.proxyActor receiving c = some proxy → (r.actors proxy.formID).object3D ≠ .null →
      (∀ m ∈ messages ((probe sender (load sender root)).run (reset p₀) ticks).2, Dispatched receiving c vm m) →
      ∀ k v, ((probe sender (load sender root)).run (reset p₀) ticks).1.networkTrackedVariants.lookup k = some v →
        v ∈ proxyVariants sender receiving root p₀ ticks r c vm proxy := by
  intro h
  have hdispatched : ∀ m ∈ messages ((probe Swap.session (load Swap.session Swap.root)).run (reset {})
      [Helmet.tick Helmet.sending Helmet.hidden, Helmet.tick Helmet.sending Swap.other]).2,
      Dispatched Swap.session 1 Proxy.dispatching m := by
    rw [Swap.messages_swap]
    exact fun m hm => Swap.dispatched m (List.mem_append_left _ hm)
  have hactive := h Swap.session Swap.session Swap.root {}
    [Helmet.tick Helmet.sending Helmet.hidden, Helmet.tick Helmet.sending Swap.other] Proxy.mapped 1 Proxy.dispatching Proxy.form
    Swap.lawful Swap.lawful (by decide) nofun hdispatched Swap.other.stableKey (ascii "HideHelmet") (by decide)
  unfold proxyVariants at hactive
  dsimp only at hactive
  rw [activeVariants_run _ _ _ _ Swap.lawful Proxy.mapped Proxy.form (by decide) nofun _ hdispatched,
    Swap.messages_swap] at hactive
  revert hactive
  decide

end DAVSyncTogether
