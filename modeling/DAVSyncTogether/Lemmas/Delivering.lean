import DAVSyncTogether.DynamicArmor
import DAVSyncTogether.Lemmas.Receiving
import DAVSyncTogether.Lemmas.Mirror
import DAVSyncTogether.Lemmas.Loading

/-!
# From the sender's messages to the active variants

A message that is dispatched is one operation on the active variants of the proxy (`op_of_call`): it adds its variant, or
sweeps out those that affect its armor. So the messages of a run, delivered in order, are replayed on them
(`activeVariants_run`).
-/

namespace DAVSyncTogether

open DAVRemoteApplier DynamicArmor

namespace DAVProbe

/-- What a dispatched message does to the active variants. -/
def StateMessage.op (s : Session) (index : DAVConfigIndex) (m : StateMessage) : SetOp Bytes :=
  match m.state with
  | .hidden | .replaced => .add m.variant
  | .visible | .unequipped => .sweep fun variant =>
    ((m.armor.armor.resolve s).bind Form.asARMO).any fun armor => affects s index armor variant

theorem StateMessage.op_eq_add (s : Session) (index : DAVConfigIndex) (m : StateMessage) (v : Bytes) :
    m.op s index = .add v ↔ m.Applies v := by
  unfold StateMessage.op StateMessage.Applies
  cases m.state <;> simp

theorem StateMessage.op_sweeps (s : Session) (index : DAVConfigIndex) (m : StateMessage) (v : Bytes) :
    (m.op s index).Sweeps v ↔ m.Resets s index v := by
  unfold StateMessage.op StateMessage.Resets
  cases m.state <;> simp [SetOp.Sweeps, Option.any_eq_true]

/-- A message sets the variant of its armor when it applies one, and else clears it. -/
theorem StateMessage.applies_of_value {m : StateMessage} {v : Bytes} (h : m.update.value = some v) : m.Applies v := by
  unfold StateMessage.update at h
  unfold StateMessage.Applies
  cases hstate : m.state <;> simp [hstate, Update.value] at h
  · exact ⟨Or.inl rfl, h⟩
  · exact ⟨Or.inr rfl, h⟩

/-- When a reset of an armor is not the last that remotes hear of it, what they hold in the end was applied after it. -/
theorem exists_applies_after {pre post : List StateMessage} {m : StateMessage} {k v : Bytes}
    (h : (delivered (pre ++ m :: post)).lookup k = some v) (hk : m.stableKey = k) (hreset : m.update.value = none) :
    ∃ m' ∈ post, m'.Applies v := by
  rw [List.append_cons, lookup_delivered_append] at h
  cases hlast : (about k post).getLast? with
  | none =>
    have habout : about k [m] = [m] := by simp [about, hk]
    rw [hlast] at h
    dsimp only at h
    rw [lookup_delivered_append, habout] at h
    have hnone : none = some v := hreset.symm.trans h
    cases hnone
  | some m' =>
    rw [hlast] at h
    exact ⟨m', (List.mem_filter.mp (List.mem_of_getLast? hlast)).1, StateMessage.applies_of_value h⟩

/-- What remotes hold was applied by some message. -/
theorem exists_applies {ms : List StateMessage} {k v : Bytes} (h : (delivered ms).lookup k = some v) : ∃ m ∈ ms, m.Applies v := by
  rw [lookup_delivered] at h
  obtain ⟨m, hm, hvalue⟩ := Option.bind_eq_some_iff.mp h
  exact ⟨m, (List.mem_filter.mp (List.mem_of_getLast? hm)).1, StateMessage.applies_of_value hvalue⟩

section

variable (s : Session) (index : DAVConfigIndex) (c : ConnectionID) (vm : VirtualMachine)

/-- The message is valid, and DAV's script is called for it. -/
def Dispatched (m : StateMessage) : Prop := ((validMessage s (m.delivery c vm).payload).bind (papyrusCall s vm)).isSome = true

variable {s c vm}

/-- `Apply` looks up the armor that the receiver found for a valid message; 0 is the ID of none. -/
theorem resolvedArmor_of_valid (hs : s.Lawful) {m : StateMessage} {state : RemoteArmorState}
    (h : validMessage s (m.delivery c vm).payload = some state) :
    ∃ found, (m.armor.armor.resolve s).bind Form.asARMO = some found ∧ s.lookupByID found.formID = some (.armo found) ∧
      resolvedArmor s state = (if found.formID = 0 then none else some found) ∧ state.state = m.state ∧
        state.variant = m.variant := by
  obtain ⟨found, hfound, hid, hstate, hvariant⟩ := validMessage_encode_eq_some h
  have hloaded : s.lookupByID found.formID = some (.armo found) := by
    obtain ⟨form, hform, harmo⟩ := Option.bind_eq_some_iff.mp hfound
    cases form with
    | armo a =>
      cases harmo
      exact hs.loaded_of_resolve hform
    | _ => cases harmo
  exact ⟨found, hfound, hloaded, by rw [resolvedArmor, hid, hloaded]; rfl, hstate, hvariant⟩

/-- The call that a valid message leads to does to the active variants what the message says. -/
theorem op_of_call (hs : s.Lawful) {m : StateMessage} {call : PapyrusCall}
    (h : (validMessage s (m.delivery c vm).payload).bind (papyrusCall s vm) = some call) :
    DynamicArmor.op s index call = m.op s index := by
  obtain ⟨state, hvalid, hcall⟩ := Option.bind_eq_some_iff.mp h
  obtain ⟨found, hfound, hloaded, hres, hstate, hvariant⟩ := resolvedArmor_of_valid hs hvalid
  obtain ⟨armor, harmor, hcall⟩ := Option.bind_eq_some_iff.mp hcall
  rw [hres] at harmor
  obtain ⟨-, ⟨⟩⟩ := Option.ite_none_left_eq_some.mp harmor
  unfold StateMessage.op
  rw [← hstate]
  have hreset : DynamicArmor.op s index (.resetVariant found.formID) =
      .sweep fun variant => ((m.armor.armor.resolve s).bind Form.asARMO).any fun armor => affects s index armor variant := by
    simp [DynamicArmor.op, hloaded, hfound, Form.asARMO]
  cases hs : state.state <;> simp only [hs] at hcall ⊢ <;> obtain ⟨-, ⟨⟩⟩ := Option.ite_none_right_eq_some.mp hcall
  · exact hreset
  · rw [hvariant]
    rfl
  · rw [hvariant]
    rfl
  · exact hreset

/-- A valid message with a variant is dispatched by a machine that takes every call. -/
theorem dispatched_of_valid (hs : s.Lawful) {m : StateMessage} (hvalid : (validMessage s (m.delivery c vm).payload).isSome = true)
    (hfound : ((m.armor.armor.resolve s).bind Form.asARMO).all (fun found => found.formID != 0) = true)
    (hvm : vm.available = true ∧ vm.dispatchStaticCall = true) (hvariant : m.variant ≠ []) : Dispatched s c vm m := by
  obtain ⟨state, hstate⟩ := Option.isSome_iff_exists.mp hvalid
  obtain ⟨found, hf, -, hres, -, hv⟩ := resolvedArmor_of_valid hs hstate
  rw [hf, Option.all_some, bne_iff_ne] at hfound
  rw [if_neg hfound] at hres
  rw [Dispatched, hstate, Option.bind_some, papyrusCall, hres, Option.bind_some, hv]
  cases state.state <;> simp [dispatchApplyVariant, dispatchResetVariant, hvm, hvariant]

variable (s c vm)

/-- The messages of a sender, delivered in order to a receiver that has a proxy for it and dispatches them all, are replayed
on the active variants of the proxy. -/
theorem activeVariants_run (hs : s.Lawful) (r : Receiver) (proxy : TESForm) (hproxy : r.proxyActor s c = some proxy)
    (hshown : (r.actors proxy.formID).object3D ≠ .null) (ms : List StateMessage) (hdispatched : ∀ m ∈ ms, Dispatched s c vm m) :
    activeVariants s index (((receiver s).run r (ms.map fun m => .handle (m.delivery c vm))).1.actors proxy.formID).papyrusCalls =
      SetOp.replay (activeVariants s index (r.actors proxy.formID).papyrusCalls) (ms.map (StateMessage.op s index)) := by
  have hrun := run_mapped s c r proxy hproxy hshown (ms.map (StateMessage.delivery c vm)) (by simp [StateMessage.delivery])
  rw [List.map_map] at hrun
  have hcalls : (validCalls s (ms.map (StateMessage.delivery c vm))).map (DynamicArmor.op s index) =
      ms.map (StateMessage.op s index) := by
    clear hrun
    induction ms with
    | nil => rfl
    | cons m ms ih =>
      obtain ⟨call, hcall⟩ := Option.isSome_iff_exists.mp (hdispatched m (List.mem_cons_self ..))
      have htail := ih fun m hm => hdispatched m (List.mem_cons_of_mem _ hm)
      rw [List.map_cons, validCalls_cons hcall, List.map_cons, List.map_cons, htail, op_of_call index hs hcall]
  change activeVariants s index (((receiver s).run r (ms.map (ReceiverEvent.handle ∘ StateMessage.delivery c vm))).1.actors
    proxy.formID).papyrusCalls = _
  rw [hrun.calls, activeVariants, List.map_append, hcalls, SetOp.replay, List.foldl_append]
  rfl

end

end DAVProbe

end DAVSyncTogether
