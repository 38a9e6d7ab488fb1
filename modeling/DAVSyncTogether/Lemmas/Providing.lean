import DAVSyncTogether.Lemmas.Views

/-!
# Games with the files of another one

A game provides the files of another one when it finds, by the names of the forms of that one, forms of the same kinds. A captured
state whose rendered addons are addons of files is valid in every game that provides the files of its own
(`validIn_of_captures`).
-/

namespace DAVSyncTogether

open DAVProbe

/-- By the file and the local ID of every form of the second game the first one finds a form of the same kind. -/
def Session.Provides (s₁ s₂ : Session) : Prop :=
  ∀ f p, s₂.Loaded f → f.toTESForm.sourceFile = some p → ∃ g, s₁.lookupForm f.toTESForm.localFormID p = some g ∧
    (f.asARMO.isSome = true → g.asARMO.isSome = true) ∧ (f.asARMA.isSome = true → g.asARMA.isSome = true)

/-- A game that finds its own forms provides its files. -/
theorem Session.FindsForms.provides {s : Session} (h : s.FindsForms) : s.Provides s :=
  fun f p hf hfile => ⟨f, h f p hf hfile, id, id⟩

/-- The same forms in another load order are provided. -/
theorem Renaming.provides {ρ : FormID → FormID} {s₁ s₂ : Session} (h : Renaming ρ s₁.NamesForm s₁ s₂) (h₁ : s₁.FindsForms) :
    s₂.Provides s₁ := by
  intro f p hf hfile
  have hrel := h.lookupForm _ p ⟨f, hf, rfl, hfile⟩
  rw [h₁ f p hf hfile] at hrel
  obtain ⟨g, hg, hfg⟩ := Related.rel_some_left hrel
  refine ⟨g, hg, ?_, ?_⟩
  · cases hfg <;> exact id
  · cases hfg <;> exact id

/-- An identity is one of an addon of the game that comes from a file. -/
def Session.NamesAddon (s : Session) (i : FormIdentity) : Prop :=
  ∃ addon : TESObjectARMA, s.Loaded (.arma addon) ∧ addon.sourceFile ≠ none ∧ i = makeFormIdentity addon.toTESForm

section

variable {s s₁ s₂ : Session} {i : FormIdentity}

/-- What the identity of a form of a file finds in a game that provides the file. -/
theorem Session.Provides.resolve (h : s₁.Provides s₂) {f : Form} (hf : s₂.Loaded f)
    (hstable : (makeFormIdentity f.toTESForm).isStable = true) :
    ∃ g, (makeFormIdentity f.toTESForm).resolve s₁ = some g ∧ (f.asARMO.isSome = true → g.asARMO.isSome = true) ∧
      (f.asARMA.isSome = true → g.asARMA.isSome = true) := by
  obtain ⟨hsource, hlocal⟩ := makeFormIdentity_stable hstable
  rw [FormIdentity.resolve, hstable, ← hlocal]
  exact h f _ hf hsource

/-- The identity of an armor of a file finds an armor in a game that provides the file. -/
theorem Session.Provides.resolve_armo (h : s₁.Provides s₂) {armor : TESObjectARMO} (hloaded : s₂.Loaded (.armo armor))
    (hstable : (makeFormIdentity armor.toTESForm).isStable = true) :
    (((makeFormIdentity armor.toTESForm).resolve s₁).bind Form.asARMO).isSome = true := by
  obtain ⟨g, hg, harmo, -⟩ := h.resolve (f := .armo armor) hloaded hstable
  change ((makeFormIdentity armor.toTESForm).resolve s₁) = some g at hg
  rw [hg]
  exact harmo rfl

/-- The identity of an addon of a file finds an addon in a game that provides the file. -/
theorem Session.Provides.resolve_arma (h : s₁.Provides s₂) (hs : s₂.Lawful) (hi : s₂.NamesAddon i) :
    i.isStable = true ∧ (resolveAddon s₁ i).isSome = true := by
  obtain ⟨addon, hloaded, hfile, rfl⟩ := hi
  have hstable := (hs.names (f := .arma addon) hloaded hfile).stable
  obtain ⟨g, hg, -, harma⟩ := h.resolve (f := .arma addon) hloaded hstable
  change ((makeFormIdentity addon.toTESForm).resolve s₁) = some g at hg
  refine ⟨hstable, ?_⟩
  rw [resolveAddon, hg]
  exact harma rfl

variable {m : StateMessage}

/-- A valid message tells of stable identities. -/
theorem stable_of_validIn (h : m.validIn s = true) :
    m.armor.armor.isStable = true ∧ ∀ i ∈ listedAddons m.armor m.unequipped, i.isStable = true := by
  obtain ⟨state, hstate⟩ := Option.isSome_iff_exists.mp h
  obtain ⟨decoded, hdecoded, -⟩ := Option.bind_eq_some_iff.mp hstate
  obtain ⟨hstable, hlisted, -⟩ := decodeArmorState_encode_eq_some hdecoded
  exact ⟨hstable, hlisted⟩

/-- A message is valid in a game exactly when the game finds its armor, and each of the addons that it lists, all from files. -/
theorem validIn_iff :
    m.validIn s = true ↔
      (m.armor.armor.isStable = true ∧ ∀ i ∈ listedAddons m.armor m.unequipped, i.isStable = true) ∧
        ((m.armor.armor.resolve s).bind Form.asARMO).isSome = true ∧
          ∀ i ∈ listedAddons m.armor m.unequipped, (resolveAddon s i).isSome = true := by
  constructor
  · intro h
    have hstable := stable_of_validIn h
    exact ⟨hstable, (validMessage_encode_isSome hstable.1 hstable.2).mp h⟩
  · rintro ⟨hstable, hfound⟩
    exact (validMessage_encode_isSome hstable.1 hstable.2).mpr hfound

/-- What a game finds of an identity that a message lists: the same name, with the runtime ID of the addon of that name. -/
structure FoundAddon (s : Session) (sent received : FormIdentity) : Prop where
  stableName : received.stableName = sent.stableName
  found : ∃ addon, resolveAddon s sent = some addon ∧ received.runtimeFormID = addon.formID

/-- What `Apply` is given for a message: its armor, its state and its variant, and the addons that it lists, found in the game. -/
structure DAVProbe.StateMessage.ReceivedAs (s : Session) (m : StateMessage) (x : RemoteArmorState) : Prop where
  armor : x.armor.stableName = m.armor.armor.stableName
  found : ∃ armor, (m.armor.armor.resolve s).bind Form.asARMO = some armor ∧ x.armor.runtimeFormID = armor.formID
  state : x.state = m.state
  variant : x.variant = m.variant
  addons : List.Forall₂ (FoundAddon s) (listedAddons m.armor m.unequipped) x.activeArmorAddons

/-- A valid message is received as what it tells. -/
theorem receivedAs_of_validIn (h : m.validIn s = true) :
    ∃ state, validMessage s m.payload = some state ∧ m.ReceivedAs s state := by
  obtain ⟨⟨hstable, hlisted⟩, harmor, haddons⟩ := validIn_iff.mp h
  obtain ⟨found, hfound⟩ := Option.isSome_iff_exists.mp harmor
  obtain ⟨state, hstate⟩ := Option.isSome_iff_exists.mp h
  refine ⟨state, hstate, ?_⟩
  obtain ⟨decoded, hdecoded, hvalid⟩ := Option.bind_eq_some_iff.mp hstate
  obtain ⟨-, ⟨⟩⟩ := Option.ite_none_right_eq_some.mp hvalid
  obtain ⟨-, -, rfl⟩ := decodeArmorState_encode_eq_some hdecoded
  have hresolved : (m.armor.armor.received s).resolve s = m.armor.armor.resolve s := resolve_received hstable
  refine ⟨?_, ⟨found, hfound, ?_⟩, rfl, rfl, ?_⟩
  · simp only [resolveMessage, hresolved, hfound]
    rfl
  · simp only [resolveMessage, hresolved, hfound]
  · simp only [resolveMessage, List.map_map, List.forall₂_map_right_iff]
    refine List.forall₂_same.mpr fun i hi => ?_
    obtain ⟨addon, haddon⟩ := Option.isSome_iff_exists.mp (haddons i hi)
    have hreceived : resolveAddon s (i.received s) = some addon := by
      rw [resolveAddon, resolve_received (hlisted i hi)]
      exact haddon
    simp only [Function.comp_apply, resolveActive, hreceived]
    exact ⟨rfl, addon, haddon, rfl⟩

/-- The state of a captured armor of a file is valid in every game that provides the files, when the addons that it lists are addons
of files. -/
theorem validIn_of_captures (hprovides : s₁.Provides s₂) (hs : s₂.Lawful) (hcaptures : s₂.Captures m.armor)
    (hstable : m.armor.armor.isStable = true) (hlisted : ∀ i ∈ listedAddons m.armor m.unequipped, s₂.NamesAddon i) :
    m.validIn s₁ = true := by
  have haddons := fun i hi => hprovides.resolve_arma hs (hlisted i hi)
  obtain ⟨rendered, armor, hloaded, hcaptured⟩ := hcaptures
  have hidentity : m.armor.armor = makeFormIdentity armor.toTESForm := by rw [hcaptured]; rfl
  refine validIn_iff.mpr ⟨⟨hstable, fun i hi => (haddons i hi).1⟩, ?_, fun i hi => (haddons i hi).2⟩
  rw [hidentity] at hstable ⊢
  exact hprovides.resolve_armo hloaded hstable

end

end DAVSyncTogether
