import DAVSyncTogether.Lemmas.Proxies
import DAVSyncTogether.Lemmas.RenamedIndex
import DAVSyncTogether.Theorems.Accepted

/-!
# Applying in two load orders

What a proxy shows is in its nodes, named after runtime IDs, and in the calls of DAV's script, which pass them. Two proxies, one
in each game, are alike when their nodes correspond one by one, with the same flags, and their calls pass corresponding armors.
A payload that names forms of the games is valid in both or in neither (`Renaming.validMessage`), and applied to two proxies that
are alike it leaves them alike (`Renaming.run_applier`). The payloads of captured states name forms of the sender's game
(`named_of_captures`).
-/

namespace DAVSyncTogether

open DAVRemoteApplier Related

/-! ## Proxies that are alike -/

/-- A call of DAV's script under other runtime IDs. -/
def PapyrusCall.rename (ρ : FormID → FormID) : PapyrusCall → PapyrusCall
  | .applyVariant variant => .applyVariant variant
  | .resetVariant armor => .resetVariant (ρ armor)

/-- Two names tell of corresponding addons and armors, or both of none. -/
def NamesAlike (ρ : FormID → FormID) (name name' : Bytes) : Prop :=
  parseArmorNode name' = (parseArmorNode name).map (Prod.map ρ ρ)

instance (ρ : FormID → FormID) (name name' : Bytes) : Decidable (NamesAlike ρ name name') :=
  inferInstanceAs (Decidable (_ = _))

/-- Two trees have the same shape and flags, and their objects have names that are alike. -/
inductive NiAVObject.Alike (ρ : FormID → FormID) : NiAVObject → NiAVObject → Prop where
  | null : NiAVObject.Alike ρ .null .null
  | geometry {name name' : Bytes} (hname : NamesAlike ρ name name') (appCulled : Bool) :
      NiAVObject.Alike ρ (.geometry name appCulled) (.geometry name' appCulled)
  | node {name name' : Bytes} (hname : NamesAlike ρ name name') (appCulled : Bool) {children children' : List NiAVObject}
      (hchildren : List.Forall₂ (NiAVObject.Alike ρ) children children') :
      NiAVObject.Alike ρ (.node name appCulled children) (.node name' appCulled children')

/-- Two proxies show the same, and DAV was called alike for them. -/
structure ProxyActor.Alike (ρ : FormID → FormID) (a b : ProxyActor) : Prop where
  object3D : a.object3D.Alike ρ b.object3D
  papyrusCalls : b.papyrusCalls = a.papyrusCalls.map (PapyrusCall.rename ρ)

/-- Two states say the same to `Apply`, of corresponding armors. -/
structure RemoteArmorState.Alike (ρ : FormID → FormID) (a b : RemoteArmorState) : Prop where
  armor : b.armor.runtimeFormID = ρ a.armor.runtimeFormID
  state : b.state = a.state
  variant : b.variant = a.variant

/-- Two calls of `Apply` meet the same Papyrus machine and say the same. -/
structure DAVRemoteApplier.ApplyCall.Alike (ρ : FormID → FormID) (a b : ApplyCall) : Prop where
  vm : b.vm = a.vm
  state : a.state.Alike ρ b.state

/-! ## Trees -/

section

variable {ρ : FormID → FormID} {f g : Bytes → Bool → Bool}

mutual

/-- Flags that are computed alike from names that are alike keep two trees alike. -/
theorem NiAVObject.Alike.mapFlags (hfg : ∀ name name' appCulled, NamesAlike ρ name name' → f name appCulled = g name' appCulled)
    (o o' : NiAVObject) (ho : o.Alike ρ o') : (o.mapFlags f).Alike ρ (o'.mapFlags g) := by
  cases o with
  | null =>
    cases ho
    exact .null
  | geometry name appCulled =>
    cases ho with
    | geometry hname =>
      rw [NiAVObject.mapFlags, NiAVObject.mapFlags, hfg _ _ appCulled hname]
      exact .geometry hname _
  | node name appCulled children =>
    cases ho with
    | node hname _ hchildren =>
      rw [NiAVObject.mapFlags, NiAVObject.mapFlags, hfg _ _ appCulled hname]
      exact .node hname _ (NiAVObject.Alike.mapFlagsOf hfg children _ hchildren)

theorem NiAVObject.Alike.mapFlagsOf
    (hfg : ∀ name name' appCulled, NamesAlike ρ name name' → f name appCulled = g name' appCulled)
    (children children' : List NiAVObject) (hchildren : List.Forall₂ (NiAVObject.Alike ρ) children children') :
    List.Forall₂ (NiAVObject.Alike ρ) (NiAVObject.mapFlagsOf f children) (NiAVObject.mapFlagsOf g children') := by
  cases children with
  | nil =>
    cases hchildren
    exact .nil
  | cons child children =>
    cases hchildren with
    | cons hchild hrest =>
      exact .cons (NiAVObject.Alike.mapFlags hfg child _ hchild) (NiAVObject.Alike.mapFlagsOf hfg children _ hrest)

end

end

section

variable {ρ : FormID → FormID}

/-- Names that are alike say of corresponding armors that they are rendered, or not. -/
theorem NamesAlike.rendersArmor (hρ : Function.Injective ρ) {name name' : Bytes} (h : NamesAlike ρ name name') (armor : FormID) :
    rendersArmor (ρ armor) name' = rendersArmor armor name := by
  rw [DAVRemoteApplier.rendersArmor, DAVRemoteApplier.rendersArmor, h]
  cases parseArmorNode name with
  | none => rfl
  | some r =>
    rw [Option.map_some, Option.any_some, Option.any_some, Prod.map_snd, Bool.eq_iff_iff, beq_iff_eq, beq_iff_eq, hρ.eq_iff]

/-- The fallback for corresponding armors keeps two trees alike. -/
theorem NiAVObject.Alike.fallbackCull (hρ : Function.Injective ρ) {o o' : NiAVObject} (h : o.Alike ρ o') (armor : FormID)
    (cull : Bool) (n n' : Nat) : (fallbackCull armor cull o n).1.Alike ρ (fallbackCull (ρ armor) cull o' n').1 := by
  rw [fallbackCull_eq, fallbackCull_eq]
  refine NiAVObject.Alike.mapFlags (fun name name' appCulled hname => ?_) o o' h
  rw [setFlag, setFlag, hname.rendersArmor hρ]

/-- A tree is there when one that is alike is. -/
theorem NiAVObject.Alike.null_iff {o o' : NiAVObject} (h : o.Alike ρ o') : o = .null ↔ o' = .null := by
  cases h with
  | null => exact Iff.rfl
  | geometry => exact ⟨nofun, nofun⟩
  | node => exact ⟨nofun, nofun⟩

end

/-! ## Messages -/

/-- The armor and the addons of a decoded message have names among the given ones. -/
structure RemoteArmorState.Named (names : FormID → Bytes → Prop) (r : RemoteArmorState) : Prop where
  armor : names r.armor.localFormID r.armor.plugin
  addons : ∀ i ∈ r.activeArmorAddons, names i.localFormID i.plugin

/-- A message about a captured armor names forms of the game in which it was captured. -/
theorem named_of_captures {s receiver : Session} (hs : s.Lawful) {m : DAVProbe.StateMessage} (hcaptures : s.Captures m.armor)
    {r : RemoteArmorState} (hr : decodeArmorState receiver m.payload = some r) : r.Named s.NamesForm := by
  obtain ⟨hstable, hlisted, rfl⟩ := decodeArmorState_encode_eq_some hr
  have hmakes := hs.makes_of_captures hcaptures
  refine ⟨Session.Names.namesForm (i := m.armor.armor) ⟨hmakes _ List.mem_cons_self, hstable⟩, fun i hi => ?_⟩
  obtain ⟨sent, hsent, rfl⟩ := List.mem_map.mp hi
  refine Session.Names.namesForm (i := sent) ⟨hmakes sent (List.mem_cons_of_mem _ ?_), hlisted sent hsent⟩
  unfold listedAddons at hsent
  split at hsent
  · cases hsent
  · exact hsent

section

variable {ρ : FormID → FormID} {names : FormID → Bytes → Prop} {s₁ s₂ : Session}

theorem Form.Renamed.asARMO {f g : Form} (h : f.Renamed ρ g) : Option.Rel (TESObjectARMO.Renamed ρ) f.asARMO g.asARMO := by
  cases h with
  | armo h => exact .some h
  | _ => exact .none

theorem Form.Renamed.asARMA {f g : Form} (h : f.Renamed ρ g) : g.asARMA.isSome = f.asARMA.isSome := by
  cases h <;> rfl

/-- What a file and a local ID name in the two games. -/
theorem Renaming.resolve_stable (h : Renaming ρ names s₁ s₂) {i : FormIdentity} (hi : i.isStable = true)
    (hnames : names i.localFormID i.plugin) :
    Option.Rel (Form.Renamed ρ) (i.resolve s₁) ((i.received s₂).resolve s₂) := by
  rw [resolve_received hi, FormIdentity.resolve, FormIdentity.resolve, hi]
  exact h.lookupForm _ _ hnames

/-- The armor of a message in the two games. -/
theorem Renaming.findArmor (h : Renaming ρ names s₁ s₂) {i : FormIdentity} (hi : i.isStable = true)
    (hnames : names i.localFormID i.plugin) :
    Option.Rel (TESObjectARMO.Renamed ρ) ((i.resolve s₁).bind Form.asARMO) (((i.received s₂).resolve s₂).bind Form.asARMO) := by
  rcases rel_cases (h.resolve_stable hi hnames) with ⟨hf, hg⟩ | ⟨f, g, hf, hg, hfg⟩
  · rw [hf, hg]
    exact .none
  · rw [hf, hg]
    exact hfg.asARMO

/-- Whether an addon of a message is found. -/
theorem Renaming.findAddon (h : Renaming ρ names s₁ s₂) {i : FormIdentity} (hi : i.isStable = true)
    (hnames : names i.localFormID i.plugin) :
    (resolveAddon s₂ (i.received s₂)).isSome = (resolveAddon s₁ i).isSome := by
  unfold resolveAddon
  rcases rel_cases (h.resolve_stable hi hnames) with ⟨hf, hg⟩ | ⟨f, g, hf, hg, hfg⟩
  · rw [hf, hg]
  · rw [hf, hg]
    exact hfg.asARMA

/-- When a message is valid. -/
theorem resolveMessage_valid (s : Session) (r : RemoteArmorState) : (resolveMessage s r).2 =
    (((r.armor.resolve s).bind Form.asARMO).isSome && (r.activeArmorAddons.map (resolveActive s)).all Prod.snd) := rfl

/-- The armor of a message has the runtime ID of the armor that is found. -/
theorem resolveMessage_armor {s : Session} {r : RemoteArmorState} {armor : TESObjectARMO}
    (h : (r.armor.resolve s).bind Form.asARMO = some armor) : (resolveMessage s r).1.armor.runtimeFormID = armor.formID := by
  unfold resolveMessage
  simp only [h]

/-- A decoded message of such names is valid in both games, and says the same there, or in neither. -/
theorem Renaming.resolveMessage_alike (h : Renaming ρ names s₁ s₂) {r : RemoteArmorState} (hr : r.WellFormed s₁)
    (hnamed : r.Named names) :
    Option.Rel (RemoteArmorState.Alike ρ) (if (resolveMessage s₁ r).2 then some (resolveMessage s₁ r).1 else none)
      (if (resolveMessage s₂ (r.received s₂)).2 then some (resolveMessage s₂ (r.received s₂)).1 else none) := by
  have haddons : ((r.received s₂).activeArmorAddons.map (resolveActive s₂)).all Prod.snd =
      (r.activeArmorAddons.map (resolveActive s₁)).all Prod.snd := by
    rw [Bool.eq_iff_iff, all_resolveActive, all_resolveActive, RemoteArmorState.received, List.forall_mem_map]
    exact forall₂_congr fun i hi => by rw [h.findAddon (hr.addons i hi) (hnamed.addons i hi)]
  rw [resolveMessage_valid, resolveMessage_valid, haddons]
  rcases rel_cases (h.findArmor hr.armor hnamed.armor) with ⟨ha, hb⟩ | ⟨a, b, ha, hb, hab⟩
  · have hb' : ((r.received s₂).armor.resolve s₂).bind Form.asARMO = none := hb
    rw [ha, hb']
    exact .none
  · have hb' : ((r.received s₂).armor.resolve s₂).bind Form.asARMO = some b := hb
    rw [ha, hb', Option.isSome_some, Option.isSome_some, Bool.true_and]
    cases (r.activeArmorAddons.map (resolveActive s₁)).all Prod.snd with
    | false => exact .none
    | true =>
      refine .some ⟨?_, rfl, rfl⟩
      rw [resolveMessage_armor ha, resolveMessage_armor hb', hab.toTESForm]
      rfl

/-- A payload of such names is valid in both games, and says the same there, or in neither. -/
theorem Renaming.validMessage (h : Renaming ρ names s₁ s₂) {payload : Bytes}
    (hnamed : ∀ r, decodeArmorState s₁ payload = some r → r.Named names) :
    Option.Rel (RemoteArmorState.Alike ρ) (validMessage s₁ payload) (validMessage s₂ payload) := by
  unfold DAVSyncTogether.validMessage
  cases hdecoded : decodeArmorState s₁ payload with
  | none =>
    cases hother : decodeArmorState s₂ payload with
    | none => exact .none
    | some r =>
      rw [(decodeArmorState_eq_some hother).2 s₁] at hdecoded
      cases hdecoded
  | some r =>
    obtain ⟨hformed, hany⟩ := decodeArmorState_eq_some hdecoded
    rw [hany s₂]
    exact h.resolveMessage_alike hformed (hnamed r hdecoded)

end

/-! ## Calls of `Apply` -/

section

variable {ρ : FormID → FormID} {names : FormID → Bytes → Prop} {s₁ s₂ : Session} (h : Renaming ρ names s₁ s₂)
  (h₁ : s₁.lookupByID 0 = none) (h₂ : s₂.lookupByID 0 = none)

include h h₁ h₂

/-- The armors that `Apply` looks up correspond; 0 is the ID of no form in either game. -/
theorem Renaming.resolvedArmor {a b : RemoteArmorState} (hab : a.Alike ρ b) :
    Option.Rel (TESObjectARMO.Renamed ρ) (resolvedArmor s₁ a) (resolvedArmor s₂ b) := by
  have hzero : ∀ (s : Session) (state : RemoteArmorState), s.lookupByID 0 = none →
      DAVRemoteApplier.resolvedArmor s state = (s.lookupByID state.armor.runtimeFormID).bind Form.asARMO := by
    intro s state hs
    unfold DAVRemoteApplier.resolvedArmor
    split
    · rename_i hid
      rw [hid, hs, Option.bind_none]
    · rfl
  rw [hzero s₁ a h₁, hzero s₂ b h₂, hab.armor]
  rcases rel_cases (h.lookupByID a.armor.runtimeFormID) with ⟨hf, hg⟩ | ⟨f, g, hf, hg, hfg⟩
  · rw [hf, hg]
    exact .none
  · rw [hf, hg]
    exact hfg.asARMO

variable {a b : ApplyCall} (hab : a.Alike ρ b)

include hab

/-- The fallback is taken in both games, or in neither. -/
theorem Renaming.fallback : fallback s₂ b = fallback s₁ a := by
  unfold DAVRemoteApplier.fallback
  rcases rel_cases (h.resolvedArmor h₁ h₂ hab.state) with ⟨hf, hg⟩ | ⟨f, g, hf, hg, hfg⟩
  · rw [hf, hg]
  · rw [hf, hg]
    dsimp only
    rw [armorTouchesHeadOrHair, armorTouchesHeadOrHair, hfg.slotMask, hab.state.state, hab.state.variant, hab.vm]

/-- DAV's script is called for corresponding armors. -/
theorem Renaming.papyrusCall : papyrusCall s₂ b.vm b.state = (papyrusCall s₁ a.vm a.state).map (PapyrusCall.rename ρ) := by
  unfold DAVRemoteApplier.papyrusCall
  rcases rel_cases (h.resolvedArmor h₁ h₂ hab.state) with ⟨hf, hg⟩ | ⟨f, g, hf, hg, hfg⟩
  · rw [hf, hg]
    rfl
  · have hid : g.formID = ρ f.formID := congrArg TESForm.formID hfg.toTESForm
    rw [hf, hg, Option.bind_some, Option.bind_some, hab.state.state, hab.state.variant, hab.vm, hid]
    cases a.state.state <;> dsimp only <;> split <;> rfl

/-- One call keeps two proxies alike. -/
theorem Renaming.apply_alike {x y : ProxyActor} (hxy : x.Alike ρ y) :
    (apply s₁ a.vm x a.state).1.Alike ρ (apply s₂ b.vm y b.state).1 := by
  refine ⟨?_, ?_⟩
  · rw [apply_object3D, apply_object3D, h.fallback h₁ h₂ hab, hab.state.armor]
    cases DAVRemoteApplier.fallback s₁ a with
    | none => exact hxy.object3D
    | some cull => exact hxy.object3D.fallbackCull h.injective _ cull 0 0
  · by_cases hnull : x.object3D = .null
    · have hsame : ∀ (s : Session) (call : ApplyCall) (x : ProxyActor), x.object3D = .null →
          (apply s call.vm x call.state).1 = x := by
        intro s call x hx
        unfold apply
        rw [hx]
      rw [hsame s₁ a x hnull, hsame s₂ b y (hxy.object3D.null_iff.mp hnull)]
      exact hxy.papyrusCalls
    · rw [apply_papyrusCalls hnull, apply_papyrusCalls (mt hxy.object3D.null_iff.mpr hnull), h.papyrusCall h₁ h₂ hab,
        hxy.papyrusCalls, List.map_append]
      cases DAVRemoteApplier.papyrusCall s₁ a.vm a.state <;> rfl

end

/-! ## Runs of `Apply` -/

section

variable {ρ : FormID → FormID} {names : FormID → Bytes → Prop} {s₁ s₂ : Session} (h : Renaming ρ names s₁ s₂)
  (h₁ : s₁.lookupByID 0 = none) (h₂ : s₂.lookupByID 0 = none)

include h h₁ h₂

/-- Calls that say the same keep two proxies alike. -/
theorem Renaming.run_applier {x y : ProxyActor} (hxy : x.Alike ρ y) {calls calls' : List ApplyCall}
    (hcalls : List.Forall₂ (ApplyCall.Alike ρ) calls calls') :
    ((applier s₁).run x calls).1.Alike ρ ((applier s₂).run y calls').1 :=
  Machine.run_simulation (applier s₁) (applier s₂) (fun _ _ _ _ hxy hab => h.apply_alike h₁ h₂ hab hxy) hcalls hxy

end

/-- The same messages of such names, met by Papyrus machines that answer alike, lead to calls that say the same. -/
theorem Renaming.applyCalls {ρ : FormID → FormID} {names : FormID → Bytes → Prop} {s₁ s₂ : Session} (h : Renaming ρ names s₁ s₂)
    {l m : List Delivery} (hpayloads : (l.map fun d => d.payload) = m.map fun d => d.payload)
    (hvm : l.map Delivery.vm = m.map Delivery.vm)
    (hnamed : ∀ d ∈ l, ∀ r, decodeArmorState s₁ d.payload = some r → r.Named names) :
    List.Forall₂ (ApplyCall.Alike ρ) (applyCalls s₁ l) (applyCalls s₂ m) := by
  have hzip : ∀ (s : Session) (l : List Delivery), DAVSyncTogether.applyCalls s l =
      ((l.map fun d => d.payload).zip (l.map Delivery.vm)).filterMap fun p =>
        (DAVSyncTogether.validMessage s p.1).map fun state => { vm := p.2, state } := by
    intro s l
    rw [List.zip_map', List.filterMap_map]
    rfl
  have hsame : List.Forall₂ (fun p q => p = q ∧ ∀ r, decodeArmorState s₁ p.1 = some r → r.Named names)
      ((l.map fun d => d.payload).zip (l.map Delivery.vm)) ((l.map fun d => d.payload).zip (l.map Delivery.vm)) := by
    refine List.forall₂_same.mpr fun p hp => ⟨rfl, ?_⟩
    obtain ⟨d, hd, hpayload⟩ := List.mem_map.mp (List.of_mem_zip hp).1
    exact hpayload ▸ hnamed d hd
  rw [hzip, hzip s₂, ← hpayloads, ← hvm]
  refine List.rel_filterMap ?_ hsame
  rintro p _ ⟨rfl, hp⟩
  dsimp only
  rcases rel_cases (h.validMessage hp) with ⟨ha, hb⟩ | ⟨a, b, ha, hb, hab⟩
  · rw [ha, hb]
    exact .none
  · rw [ha, hb]
    exact .some ⟨rfl, hab⟩

end DAVSyncTogether
