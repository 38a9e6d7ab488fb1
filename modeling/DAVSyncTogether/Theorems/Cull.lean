import DAVSyncTogether.Lemmas.Applying
import DAVSyncTogether.Lib.Machine

/-!
# The node fallback of a proxy

Each call of `Apply` chooses by itself between DAV and the node fallback. A reset that DAV takes leaves the nodes alone, also
when the fallback culled them: nodes culled for a message without a variant stay culled once DAV takes the reset
(`dispatched_reset_leaves_culled`). This happens exactly when a fallback cull is still open (`reset_uncovers_iff`), and never
to an armor of head or hair (`leftCulled_of_head`).
-/

namespace DAVSyncTogether

open ByteString

namespace DAVRemoteApplier

/-- One call of `Apply`: the state received, and the Papyrus machine it meets. -/
structure ApplyCall where
  vm : VirtualMachine
  state : RemoteArmorState

/-- `Apply` on one proxy, call after call. -/
def applier (s : Session) : Machine ProxyActor ApplyCall RemoteApplyResult where
  step actor call :=
    let r := apply s call.vm actor call.state
    (r.1, [r.2])

/-- Some object that renders the armor is culled. -/
def culled (armorFormID : FormID) (o : NiAVObject) : Bool := o.objects.any (fun p => rendersArmor armorFormID p.1 && p.2)

/-- Some object renders the armor. -/
def rendered (armorFormID : FormID) (o : NiAVObject) : Bool := o.objects.any (fun p => rendersArmor armorFormID p.1)

/-- The flag a call sets on the armor's nodes, when it takes the node fallback: the armor resolves, covers neither head nor
hair, and DAV does not take the call. -/
def fallback (s : Session) (call : ApplyCall) : Option Bool :=
  match resolvedArmor s call.state with
  | none => none
  | some armor =>
    if armorTouchesHeadOrHair armor then none
    else
      match call.state.state with
      | .hidden => if dispatchApplyVariant call.vm call.state.variant then none else some true
      | .replaced => none
      | .visible | .unequipped => if dispatchResetVariant call.vm then none else some false

/-- What the calls so far leave of an armor, read off the calls: the last of them that took the fallback for it culled it. -/
def leftCulled (s : Session) (o : NiAVObject) (armorFormID : FormID) (calls : List ApplyCall) : Bool :=
  calls.foldl
    (fun left call =>
      match fallback s call with
      | some cull => if call.state.armor.runtimeFormID = armorFormID then cull && rendered armorFormID o else left
      | none => left)
    false

/-- One more call replaces what was left, when it takes the fallback for the armor. -/
theorem leftCulled_concat (s : Session) (o : NiAVObject) (armorFormID : FormID) (calls : List ApplyCall) (call : ApplyCall) :
    leftCulled s o armorFormID (calls ++ [call]) =
      match fallback s call with
      | some cull =>
        if call.state.armor.runtimeFormID = armorFormID then cull && rendered armorFormID o
        else leftCulled s o armorFormID calls
      | none => leftCulled s o armorFormID calls := by
  rw [leftCulled, List.foldl_concat]
  rfl

/-! ## One call -/

/-- A call changes the 3D by the fallback it takes, and in no other way. -/
theorem apply_object3D (s : Session) (actor : ProxyActor) (call : ApplyCall) :
    (apply s call.vm actor call.state).1.object3D =
      match fallback s call with
      | some cull => (fallbackCull call.state.armor.runtimeFormID cull actor.object3D 0).1
      | none => actor.object3D := by
  by_cases hnull : actor.object3D = .null
  · have hsame : (apply s call.vm actor call.state).1 = actor := by
      unfold apply
      rw [hnull]
    rw [hsame, hnull]
    cases fallback s call <;> rfl
  · unfold apply fallback
    cases resolvedArmor s call.state with
    | none =>
      split
      · rfl
      · rfl
      · rename_i hsome _
        cases hsome
    | some armor =>
      dsimp only
      split
      · rename_i h
        exact absurd h hnull
      · rename_i hnone _
        cases hnone
      · rename_i hsome _
        cases hsome
        simp only [supported_and_dispatched]
        cases armorTouchesHeadOrHair armor with
        | true => cases call.state.state <;> simp
        | false =>
          cases call.state.state with
          | hidden => cases dispatchApplyVariant call.vm call.state.variant <;> simp
          | replaced => simp
          | visible => cases dispatchResetVariant call.vm <;> simp
          | unequipped => cases dispatchResetVariant call.vm <;> simp

/-- After a fallback the armor is culled when the fallback culls and finds a node of it. -/
theorem culled_fallbackCull (armorFormID : FormID) (cull : Bool) (o : NiAVObject) (n : Nat) :
    culled armorFormID (fallbackCull armorFormID cull o n).1 = (cull && rendered armorFormID o) := by
  unfold culled rendered
  rw [fallbackCull_objects]
  induction o.objects with
  | nil => simp
  | cons p objects ih =>
    rw [List.map_cons, List.any_cons, ih, List.any_cons, setFlag]
    cases rendersArmor armorFormID p.1 <;> cases cull <;> simp

/-- A name renders one armor. -/
theorem rendersArmor_ne {a b : FormID} (h : a ≠ b) {name : Bytes} (hname : rendersArmor a name = true) :
    rendersArmor b name = false := by
  unfold rendersArmor at hname ⊢
  cases hp : parseArmorNode name with
  | none => rfl
  | some r =>
    rw [hp, Option.any_some, beq_iff_eq] at hname
    simpa [hname] using h

/-- A fallback for one armor leaves the others as they are. -/
theorem culled_fallbackCull_of_ne {a b : FormID} (h : a ≠ b) (cull : Bool) (o : NiAVObject) (n : Nat) :
    culled b (fallbackCull a cull o n).1 = culled b o := by
  unfold culled
  rw [fallbackCull_objects, List.any_map]
  congr 1
  funext p
  dsimp only [Function.comp_apply, setFlag]
  cases ha : rendersArmor a p.1 with
  | true => simp [rendersArmor_ne h ha]
  | false => simp

/-- A fallback renames nothing. -/
theorem rendered_fallbackCull (a b : FormID) (cull : Bool) (o : NiAVObject) (n : Nat) :
    rendered b (fallbackCull a cull o n).1 = rendered b o := by
  unfold rendered
  rw [fallbackCull_objects, List.any_map]
  rfl

/-! ## Whole runs -/

/-- In every run from a tree with nothing culled, what is culled of an armor is what the calls leave of it. -/
theorem culled_run (s : Session) (actor : ProxyActor) (hstart : ∀ p ∈ actor.object3D.objects, p.2 = false)
    (calls : List ApplyCall) (armorFormID : FormID) :
    culled armorFormID ((applier s).run actor calls).1.object3D = leftCulled s actor.object3D armorFormID calls ∧
      rendered armorFormID ((applier s).run actor calls).1.object3D = rendered armorFormID actor.object3D := by
  refine (applier s).run_induction (P := fun calls a _ =>
    culled armorFormID a.object3D = leftCulled s actor.object3D armorFormID calls ∧
      rendered armorFormID a.object3D = rendered armorFormID actor.object3D) ⟨?_, rfl⟩ ?_ calls
  · rw [leftCulled, List.foldl_nil, culled, List.any_eq_false]
    intro p hp
    simp [hstart p hp]
  · rintro calls a _ call ⟨hculled, hrendered⟩
    change culled armorFormID (apply s call.vm a call.state).1.object3D = _ ∧
      rendered armorFormID (apply s call.vm a call.state).1.object3D = _
    rw [apply_object3D, leftCulled_concat]
    cases fallback s call with
    | none => exact ⟨hculled, hrendered⟩
    | some cull =>
      dsimp only
      rw [rendered_fallbackCull]
      refine ⟨?_, hrendered⟩
      by_cases h : call.state.armor.runtimeFormID = armorFormID
      · rw [if_pos h, h, culled_fallbackCull, hrendered]
      · rw [if_neg h, culled_fallbackCull_of_ne h, hculled]

/-- The armor of a state depends on the runtime ID it carries. -/
theorem resolvedArmor_congr (s : Session) {a b : RemoteArmorState} (h : a.armor.runtimeFormID = b.armor.runtimeFormID) :
    resolvedArmor s a = resolvedArmor s b := by
  unfold resolvedArmor
  rw [h]

/-- Nothing is ever left culled of an armor of head or hair. -/
theorem leftCulled_of_head (s : Session) (o : NiAVObject) {state : RemoteArmorState} {armor : TESObjectARMO}
    (hres : resolvedArmor s state = some armor) (hhead : armorTouchesHeadOrHair armor = true) (calls : List ApplyCall) :
    leftCulled s o state.armor.runtimeFormID calls = false := by
  have hstep : ∀ call : ApplyCall, call.state.armor.runtimeFormID = state.armor.runtimeFormID → fallback s call = none := by
    intro call h
    simp only [fallback, resolvedArmor_congr s h, hres, hhead, if_true]
  induction calls using List.reverseRecOn with
  | nil => rfl
  | append_singleton calls call ih =>
    rw [leftCulled_concat]
    by_cases h : call.state.armor.runtimeFormID = state.armor.runtimeFormID
    · rw [hstep call h]
      exact ih
    · cases fallback s call with
      | none => exact ih
      | some cull =>
        dsimp only
        rw [if_neg h]
        exact ih

/-- A reset that DAV does not take uncovers the armor's nodes. -/
theorem fallback_of_reset {s : Session} {call : ApplyCall} {armor : TESObjectARMO}
    (hreset : call.state.state = .visible ∨ call.state.state = .unequipped) (hres : resolvedArmor s call.state = some armor) :
    fallback s call =
      if armorTouchesHeadOrHair armor || dispatchResetVariant call.vm then none else some false := by
  unfold fallback
  rw [hres]
  rcases hreset with h | h <;>
    simp only [h] <;>
    cases armorTouchesHeadOrHair armor <;> cases dispatchResetVariant call.vm <;> rfl

/-- After a call that resets an armor that resolves, in any sequence of calls on a tree with nothing culled at first, no node
of the armor is culled exactly when DAV did not take the reset, or the calls before left nothing of the armor culled. -/
theorem reset_uncovers_iff (s : Session) (actor : ProxyActor) (hstart : ∀ p ∈ actor.object3D.objects, p.2 = false)
    (calls : List ApplyCall) (call : ApplyCall) (armor : TESObjectARMO)
    (hreset : call.state.state = .visible ∨ call.state.state = .unequipped) (hres : resolvedArmor s call.state = some armor) :
    (∀ p ∈ ((applier s).run actor (calls ++ [call])).1.object3D.objects,
        rendersArmor call.state.armor.runtimeFormID p.1 = true → p.2 = false) ↔
      dispatchResetVariant call.vm = false ∨ leftCulled s actor.object3D call.state.armor.runtimeFormID calls = false := by
  have hculled := (culled_run s actor hstart (calls ++ [call]) call.state.armor.runtimeFormID).1
  rw [leftCulled_concat, fallback_of_reset hreset hres] at hculled
  have hnodes : (∀ p ∈ ((applier s).run actor (calls ++ [call])).1.object3D.objects,
      rendersArmor call.state.armor.runtimeFormID p.1 = true → p.2 = false) ↔
      culled call.state.armor.runtimeFormID ((applier s).run actor (calls ++ [call])).1.object3D = false := by
    simp [culled, List.any_eq_false]
  rw [hnodes, hculled]
  cases hhead : armorTouchesHeadOrHair armor with
  | true =>
    have hleft := leftCulled_of_head s actor.object3D hres hhead calls
    simp [hleft]
  | false => cases dispatchResetVariant call.vm <;> simp

end DAVRemoteApplier

/-! ## A cuirass that stays culled -/

namespace Cuirass

open DAVRemoteApplier

def armorForm : TESObjectARMO :=
  { formID := 0x06000800, sourceFile := some (ascii "Cuirass.esp"), localFormID := 0x800, slotMask := 4
    editorID := none, name := some (ascii "Cuirass"), armorAddons := [] }

def session : Session where
  lookupByID id := if id = 0x06000800 then some (.armo armorForm) else none
  lookupForm l p := if p = ascii "Cuirass.esp" ∧ l = 0x800 then some (.armo armorForm) else none

/-- A proxy that renders the cuirass. -/
def proxy : ProxyActor where
  object3D := .node (ascii "Skeleton") false [.geometry (ascii "Torso (06000801)[0]/Cuirass (06000800)[50%]") false]

/-- A call about the cuirass, taken by DAV unless it names no variant. -/
def call (state : NetworkArmorState) (variant : Bytes) : ApplyCall where
  vm := { available := true, dispatchStaticCall := true }
  state := { armor := makeFormIdentity armorForm.toTESForm, state, variant }

end Cuirass

namespace DAVRemoteApplier

/-- The cuirass is hidden by DAV and shown again by it: DAV takes the reset, and the fallback never ran. -/
theorem reset_uncovers_cuirass :
    dispatchResetVariant (Cuirass.call .visible (ascii "HideCuirass")).vm = true ∧
      ∀ p ∈ ((applier Cuirass.session).run Cuirass.proxy
          ([Cuirass.call .hidden (ascii "HideCuirass")] ++ [Cuirass.call .visible (ascii "HideCuirass")])).1.object3D.objects,
        rendersArmor 0x06000800 p.1 = true → p.2 = false :=
  ⟨by decide, (reset_uncovers_iff Cuirass.session Cuirass.proxy (by decide) [Cuirass.call .hidden (ascii "HideCuirass")]
    (Cuirass.call .visible (ascii "HideCuirass")) Cuirass.armorForm (Or.inl rfl) (by decide)).mpr (Or.inr (by decide))⟩

/-- A state `HIDDEN` without a variant culls the nodes of the cuirass, and DAV takes the reset: they stay culled. -/
theorem dispatched_reset_leaves_culled :
    ¬∀ (s : Session) (actor : ProxyActor), (∀ p ∈ actor.object3D.objects, p.2 = false) →
      ∀ (calls : List ApplyCall) (call : ApplyCall) (armor : TESObjectARMO),
        call.state.state = .visible ∨ call.state.state = .unequipped → resolvedArmor s call.state = some armor →
        ∀ p ∈ ((applier s).run actor (calls ++ [call])).1.object3D.objects,
          rendersArmor call.state.armor.runtimeFormID p.1 = true → p.2 = false := by
  intro h
  have huncovered := h Cuirass.session Cuirass.proxy (by decide) [Cuirass.call .hidden []] (Cuirass.call .visible [])
    Cuirass.armorForm (Or.inl rfl) (by decide) (ascii "Torso (06000801)[0]/Cuirass (06000800)[50%]", true) (by decide) (by decide)
  cases huncovered

end DAVRemoteApplier

end DAVSyncTogether
