import DAVSyncTogether.Lemmas.Receiving
import DAVSyncTogether.Lemmas.Games

/-!
# What reaches the proxy

A message is passed to `Apply` when the receiver finds its armor and all the rendered addons it lists. A hidden armor lists
none, a visible one lists its own: a receiver without one of them hides the armor and never shows it again
(`visible_refused`), and only then (`reset_accepted_iff`). A message that is handled before its sender has a proxy is lost,
so what a proxy shows is decided by the messages since (`applied_since_mapping`, `unmapped_messages_lost`).
-/

namespace DAVSyncTogether

open ByteString DAVRemoteApplier

/-- The identities that a state of an armor sends are stable. -/
def WornArmorState.Stable (a : WornArmorState) : Prop := a.armor.isStable = true ∧ ∀ i ∈ a.activeArmorAddons, i.isStable = true

/-- The encoded message of a state is passed to `Apply` for the proxy. -/
def Accepts (s : Session) (vm : VirtualMachine) (r : Receiver) (c : ConnectionID) (proxy : TESForm) (armor : WornArmorState)
    (variant : Bytes) (unequipped : Bool) : Prop :=
  ∃ x, (handleReceivedMessageOnGameThread s vm r ⟨encodeArmorState armor variant unequipped, c⟩).2 = some x ∧ x.PassedTo proxy

theorem accepts_iff {s : Session} {vm : VirtualMachine} {r : Receiver} {c : ConnectionID} {proxy : TESForm}
    {armor : WornArmorState} {variant : Bytes} {unequipped : Bool} (h : armor.Stable) :
    Accepts s vm r c proxy armor variant unequipped ↔
      (((armor.armor.resolve s).bind Form.asARMO).isSome = true ∧
        ∀ i ∈ listedAddons armor unequipped, (resolveAddon s i).isSome = true) ∧ r.proxyActor s c = some proxy := by
  have hlisted : ∀ i ∈ listedAddons armor unequipped, i.isStable = true := by
    cases unequipped with
    | true => exact fun i hi => absurd hi List.not_mem_nil
    | false => exact h.2
  rw [Accepts, handle_passedTo_iff, validMessage_encode_isSome h.1 hlisted]

/-! ## Applying and resetting -/

/-- On any receiver, once a message about an armor has been passed to `Apply` for the proxy of its sender, a later message
about that armor is passed to `Apply` for the same proxy exactly when it tells that the armor was taken off or the receiver
finds every rendered addon. -/
theorem reset_accepted_iff (s : Session) (vm vm' : VirtualMachine) (r r' : Receiver) (c : ConnectionID) (proxy : TESForm)
    (first later : WornArmorState) (variant variant' : Bytes) (unequipped unequipped' : Bool) (hfirst : first.Stable)
    (hlater : later.Stable) (hsame : first.armor.stableEquivalent later.armor = true) (hmapping : r'.resolver = r.resolver)
    (haccepted : Accepts s vm r c proxy first variant unequipped) :
    Accepts s vm' r' c proxy later variant' unequipped' ↔
      unequipped' = true ∨ ∀ i ∈ later.activeArmorAddons, (resolveAddon s i).isSome = true := by
  rw [accepts_iff hfirst] at haccepted
  obtain ⟨⟨harmor, -⟩, hproxy⟩ := haccepted
  obtain ⟨hplugin, hlocal⟩ := (FormIdentity.stableEquivalent_of_stable hfirst.1 hlater.1).mp hsame
  have hresolve : later.armor.resolve s = first.armor.resolve s := by
    simp [FormIdentity.resolve, hfirst.1, hlater.1, hplugin, hlocal]
  rw [accepts_iff hlater, hresolve, proxyActor_congr hmapping, hproxy]
  cases unequipped' with
  | true => simp [harmor, listedAddons]
  | false => simp [harmor, listedAddons]

/-! ### A patched helmet -/

namespace Patch

def forms : List Form := [.armo Helmet.armorForm, .arma Helmet.addonForm, .actor Proxy.form]

/-- The receiver has the helmet and not the patch. -/
def session : Session := Session.ofForms forms

theorem listsForms : ListsForms forms := by
  refine ⟨by decide, by decide, by decide, fun a ha addon haddon => ?_⟩
  obtain rfl : a = Helmet.armorForm := by simpa [forms] using ha
  obtain rfl : addon = Helmet.addonForm := by simpa [Helmet.armorForm] using haddon
  simp [forms]

theorem lawful : session.Lawful := listsForms.lawful

/-- On the sender a patch puts an addon of its own in the place of the helmet's. -/
def addon : FormIdentity := { runtimeFormID := 0x06000801, localFormID := 0x801, plugin := ascii "Patch.esp" }

def hidden : WornArmorState := { Helmet.hidden with baseArmorAddons := [addon] }

def visible : WornArmorState := { Helmet.visible with baseArmorAddons := [addon], activeArmorAddons := [addon] }

theorem hidden_stable : hidden.Stable := ⟨by decide, by decide⟩

theorem hidden_accepted : Accepts session Proxy.dispatching Proxy.mapped 1 Proxy.form hidden (ascii "HideHelmet") false :=
  (accepts_iff hidden_stable).mpr (by decide)

end Patch

/-- A helmet without the patch is shown again. -/
theorem reset_accepted_helmet :
    Accepts Patch.session Proxy.dispatching Proxy.mapped 1 Proxy.form Helmet.visible (ascii "HideHelmet") false :=
  (reset_accepted_iff Patch.session Proxy.dispatching Proxy.dispatching Proxy.mapped Proxy.mapped 1 Proxy.form Patch.hidden
    Helmet.visible (ascii "HideHelmet") (ascii "HideHelmet") false false Patch.hidden_stable ⟨by decide, by decide⟩ (by decide) rfl
    Patch.hidden_accepted).mpr (Or.inr (by decide))

/-- The helmet is hidden on a receiver that lacks the addon it is rendered with: the message that shows it again is refused. -/
theorem visible_refused :
    ¬∀ (s : Session) (vm : VirtualMachine) (r : Receiver) (c : ConnectionID) (proxy : TESForm) (first later : WornArmorState)
      (variant variant' : Bytes) (unequipped : Bool), s.Lawful → first.Stable → later.Stable →
      first.armor.stableEquivalent later.armor = true →
      encodedState first false = .hidden ∨ encodedState first false = .replaced →
      encodedState later unequipped = .visible ∨ encodedState later unequipped = .unequipped →
      Accepts s vm r c proxy first variant false → Accepts s vm r c proxy later variant' unequipped := by
  intro h
  have hlater : Patch.visible.Stable := ⟨by decide, by decide⟩
  have haccepted := h Patch.session Proxy.dispatching Proxy.mapped 1 Proxy.form Patch.hidden Patch.visible (ascii "HideHelmet")
    (ascii "HideHelmet") false Patch.lawful Patch.hidden_stable hlater (by decide) (Or.inl rfl) (Or.inl rfl) Patch.hidden_accepted
  rw [accepts_iff hlater] at haccepted
  revert haccepted
  decide

/-! ## Messages before the mapping -/

/-- The last of some states about an armor. -/
def lastAbout (k : Bytes) (states : List RemoteArmorState) : Option RemoteArmorState :=
  (states.filter fun state => state.armor.stableKey = k).getLast?

/-- A connection sends messages, its proxy appears among them, shown, and all are handled. For each armor, the last state
passed to `Apply` for the proxy is that of the last valid message about the armor since the proxy appeared, and none is when
there is no such message; and DAV's script has been called as those messages say, in their order, and not otherwise. -/
theorem applied_since_mapping (s : Session) (c : ConnectionID) (r : Receiver) (before after : List Delivery)
    (resolver : ProxyResolver) (actors : FormID → ProxyActor) (proxy : TESForm) (hfrom : ∀ d ∈ before ++ after, d.connectionID = c)
    (hunmapped : r.proxyActor s c = none)
    (hmapped : ({ resolver := some resolver, actors } : Receiver).proxyActor s c = some proxy)
    (hshown : (actors proxy.formID).object3D ≠ .null) :
    let x := (receiver s).run r (before.map .handle ++ .mapping resolver actors :: after.map .handle)
    (∀ k, lastAbout k (passedTo proxy x.2) = lastAbout k (validStates s after)) ∧
      (x.1.actors proxy.formID).papyrusCalls = (actors proxy.formID).papyrusCalls ++ validCalls s after := by
  have hrun := run_mapping s c r hunmapped before after hfrom resolver actors proxy hmapped hshown
  exact ⟨fun k => by rw [hrun.passed], hrun.calls⟩

namespace Patch

/-- A message about the helmet, from the one connection. -/
def delivery (armor : WornArmorState) : Delivery where
  payload := encodeArmorState armor (ascii "HideHelmet") false
  connectionID := 1
  vm := Proxy.dispatching

end Patch

/-- The helmet is hidden before the proxy appears, and visible after it: the last state the proxy is given is the visible
one. -/
theorem applied_since_mapping_helmet :
    lastAbout Patch.hidden.stableKey (passedTo Proxy.form ((receiver Patch.session).run Proxy.unmapped
        ([Patch.delivery Patch.hidden].map .handle ++ .mapping (fun _ => (.ok, Proxy.form.formID)) Proxy.mapped.actors ::
          [Patch.delivery Helmet.visible].map .handle)).2) =
      lastAbout Patch.hidden.stableKey (validStates Patch.session [Patch.delivery Helmet.visible]) :=
  (applied_since_mapping Patch.session 1 Proxy.unmapped [Patch.delivery Patch.hidden] [Patch.delivery Helmet.visible]
    (fun _ => (.ok, Proxy.form.formID)) Proxy.mapped.actors Proxy.form (by decide) rfl (by decide) nofun).1
    Patch.hidden.stableKey

/-- The helmet is hidden before the proxy appears, and the message is lost: the proxy is never given the state. -/
theorem unmapped_messages_lost :
    ¬∀ (s : Session) (c : ConnectionID) (r : Receiver) (before after : List Delivery) (resolver : ProxyResolver)
      (actors : FormID → ProxyActor) (proxy : TESForm),
      (∀ d ∈ before ++ after, d.connectionID = c ∧ (validMessage s d.payload).isSome = true) → r.proxyActor s c = none →
      ({ resolver := some resolver, actors } : Receiver).proxyActor s c = some proxy →
      (actors proxy.formID).object3D ≠ .null →
      ∀ k, lastAbout k (passedTo proxy
          ((receiver s).run r (before.map .handle ++ .mapping resolver actors :: after.map .handle)).2) =
        lastAbout k (validStates s (before ++ after)) := by
  intro h
  have hvalid : (validMessage Patch.session (Patch.delivery Patch.hidden).payload).isSome = true :=
    (validMessage_encode_isSome (by decide) (by decide)).mpr (by decide)
  obtain ⟨state, hstate⟩ := Option.isSome_iff_exists.mp hvalid
  have hlast := h Patch.session 1 Proxy.unmapped [Patch.delivery Patch.hidden] [] (fun _ => (.ok, Proxy.form.formID))
    Proxy.mapped.actors Proxy.form (fun d hd => by rw [List.mem_singleton.mp hd]; exact ⟨rfl, hvalid⟩) rfl (by decide) nofun
    state.armor.stableKey
  rw [(run_mapping Patch.session 1 Proxy.unmapped rfl [Patch.delivery Patch.hidden] [] (by decide)
    (fun _ => (.ok, Proxy.form.formID))
    Proxy.mapped.actors Proxy.form (by decide) nofun).passed] at hlast
  simp [lastAbout, validStates, hstate] at hlast

end DAVSyncTogether
