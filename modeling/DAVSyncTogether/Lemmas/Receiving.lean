import DAVSyncTogether.NetworkReceiver
import DAVSyncTogether.Lemmas.Applying
import DAVSyncTogether.Lemmas.Wire

/-!
# What becomes of received messages

A message is passed to `Apply` when it is valid and its sender has a proxy (`handle_passed`), and changes nothing otherwise
(`handle_dropped`). So while a connection has no proxy its messages are lost (`run_unmapped`), and while it has one its valid
messages are passed on in order (`run_mapped`).
-/

namespace DAVSyncTogether

open DAVRemoteApplier

/-- The state that `Apply` is given for a payload: the decoded message with the runtime IDs of this game, when it is valid. -/
def validMessage (s : Session) (payload : Bytes) : Option RemoteArmorState :=
  (decodeArmorState s payload).bind fun decoded =>
    if (resolveMessage s decoded).2 then some (resolveMessage s decoded).1 else none

/-- The message was passed to `Apply` for the proxy. -/
def RxState.PassedTo (x : RxState) (proxy : TESForm) : Prop := x.valid = true ∧ x.proxyActor = some proxy

instance (x : RxState) (proxy : TESForm) : Decidable (x.PassedTo proxy) := inferInstanceAs (Decidable (_ ∧ _))

/-- The states passed to `Apply` for the proxy, in order. -/
def passedTo (proxy : TESForm) (out : List RxState) : List RemoteArmorState :=
  (out.filter fun x => x.PassedTo proxy).map RxState.message

/-- The states of the valid messages among some deliveries. -/
def validStates (s : Session) (deliveries : List Delivery) : List RemoteArmorState :=
  deliveries.filterMap fun d => validMessage s d.payload

/-- The calls of DAV's script that some deliveries lead to. -/
def validCalls (s : Session) (deliveries : List Delivery) : List PapyrusCall :=
  deliveries.filterMap fun d => (validMessage s d.payload).bind (papyrusCall s d.vm)

theorem validCalls_cons {s : Session} {d : Delivery} {call : PapyrusCall}
    (h : (validMessage s d.payload).bind (papyrusCall s d.vm) = some call) (deliveries : List Delivery) :
    validCalls s (d :: deliveries) = call :: validCalls s deliveries := List.filterMap_cons_some h

/-! ## One message -/

section

variable {s : Session} (vm : VirtualMachine) {r : Receiver} {received : ReceivedMessage}

/-- A valid message of a sender with a proxy is passed to `Apply`, which changes the proxy and no other actor. -/
theorem handle_passed {state : RemoteArmorState} {proxy : TESForm} (hvalid : validMessage s received.payload = some state)
    (hproxy : r.proxyActor s received.connectionID = some proxy) :
    ∃ x, handleReceivedMessageOnGameThread s vm r received =
        ({ r with actors := Function.update r.actors proxy.formID (apply s vm (r.actors proxy.formID) state).1 }, some x) ∧
      x.PassedTo proxy ∧ x.message = state := by
  obtain ⟨decoded, hdecoded, hstate⟩ := Option.bind_eq_some_iff.mp hvalid
  obtain ⟨hv, ⟨⟩⟩ := Option.ite_none_right_eq_some.mp hstate
  unfold handleReceivedMessageOnGameThread
  simp only [hdecoded, hv, hproxy]
  exact ⟨_, rfl, ⟨rfl, rfl⟩, rfl⟩

/-- Any other message changes nothing and is passed to `Apply` for no proxy. -/
theorem handle_dropped (h : validMessage s received.payload = none ∨ r.proxyActor s received.connectionID = none) :
    (handleReceivedMessageOnGameThread s vm r received).1 = r ∧
      ∀ x, (handleReceivedMessageOnGameThread s vm r received).2 = some x → ∀ proxy, ¬x.PassedTo proxy := by
  unfold handleReceivedMessageOnGameThread
  cases hdecoded : decodeArmorState s received.payload with
  | none =>
    refine ⟨rfl, fun x hx => ?_⟩
    cases hx
  | some decoded =>
    dsimp only
    split
    · rename_i hv hproxy
      rcases h with h | h
      · simp [validMessage, hdecoded, hv] at h
      · rw [h] at hproxy
        cases hproxy
    · rename_i hnot
      refine ⟨rfl, ?_⟩
      rintro x ⟨⟩ proxy ⟨hv, hproxy⟩
      exact hnot proxy hv hproxy

/-- A message is passed to `Apply` for a proxy exactly when it is valid and the proxy is that of its sender. -/
theorem handle_passedTo_iff (proxy : TESForm) :
    (∃ x, (handleReceivedMessageOnGameThread s vm r received).2 = some x ∧ x.PassedTo proxy) ↔
      (validMessage s received.payload).isSome = true ∧ r.proxyActor s received.connectionID = some proxy := by
  constructor
  · rintro ⟨x, hx, hpassed⟩
    have hsome : ¬(validMessage s received.payload = none ∨ r.proxyActor s received.connectionID = none) := fun h =>
      (handle_dropped vm h).2 x hx proxy hpassed
    rw [not_or] at hsome
    obtain ⟨state, hstate⟩ := Option.ne_none_iff_exists'.mp hsome.1
    obtain ⟨proxy', hproxy'⟩ := Option.ne_none_iff_exists'.mp hsome.2
    obtain ⟨x', hhandle, hpassed', -⟩ := handle_passed vm hstate hproxy'
    rw [hhandle, Option.some.injEq] at hx
    subst hx
    refine ⟨by rw [hstate]; rfl, ?_⟩
    rw [hproxy', ← hpassed'.2, hpassed.2]
  · rintro ⟨hvalid, hproxy⟩
    obtain ⟨state, hstate⟩ := Option.isSome_iff_exists.mp hvalid
    obtain ⟨x, hhandle, hpassed, -⟩ := handle_passed vm hstate hproxy
    exact ⟨x, by rw [hhandle], hpassed⟩

end

/-! ## An encoded message -/

section

variable {s : Session} {armor : WornArmorState} {variant : Bytes} {unequipped : Bool}

/-- A stable identity resolves by file and local ID, whatever its runtime ID. -/
theorem resolve_received {i : FormIdentity} (h : i.isStable = true) : (i.received s).resolve s = i.resolve s := by
  have hr : (i.received s).isStable = true := h
  unfold FormIdentity.resolve
  rw [h, hr]
  rfl

/-- The loop over the rendered addons finds all of them valid exactly when each resolves to an addon. -/
theorem all_resolveActive (l : List FormIdentity) :
    ((l.map (resolveActive s)).all Prod.snd) = true ↔ ∀ i ∈ l, (resolveAddon s i).isSome = true := by
  rw [List.all_map, List.all_eq_true]
  refine forall₂_congr fun i _ => ?_
  unfold Function.comp resolveActive
  cases resolveAddon s i <;> simp

/-- An encoded message with stable identities is valid on a receiver exactly when the receiver finds its armor and each of
the rendered addons that it lists. -/
theorem validMessage_encode_isSome (harmor : armor.armor.isStable = true)
    (haddons : ∀ i ∈ listedAddons armor unequipped, i.isStable = true) :
    (validMessage s (encodeArmorState armor variant unequipped)).isSome = true ↔
      ((armor.armor.resolve s).bind Form.asARMO).isSome = true ∧
        ∀ i ∈ listedAddons armor unequipped, (resolveAddon s i).isSome = true := by
  rw [validMessage, decodeArmorState_encode, mapM_accepted, if_pos haddons, FormIdentity.accepted, if_pos harmor]
  simp only [Option.bind_some, Option.map_some]
  rw [Option.isSome_ite, resolveMessage, Bool.and_eq_true, all_resolveActive, resolve_received harmor]
  refine and_congr_right fun _ => ?_
  rw [List.forall_mem_map]
  refine forall₂_congr fun i hi => ?_
  rw [resolveAddon, resolveAddon, resolve_received (haddons i hi)]

/-- What `Apply` is given for an encoded message: the state and the variant that it tells, about the armor that the receiver
finds. -/
theorem validMessage_encode_eq_some {state : RemoteArmorState}
    (h : validMessage s (encodeArmorState armor variant unequipped) = some state) :
    ∃ found, (armor.armor.resolve s).bind Form.asARMO = some found ∧ state.armor.runtimeFormID = found.formID ∧
      state.state = encodedState armor unequipped ∧ state.variant = variant := by
  obtain ⟨decoded, hdecoded, hstate⟩ := Option.bind_eq_some_iff.mp h
  obtain ⟨hvalid, ⟨⟩⟩ := Option.ite_none_right_eq_some.mp hstate
  obtain ⟨hstable, -, rfl⟩ := decodeArmorState_encode_eq_some hdecoded
  rw [resolveMessage, Bool.and_eq_true, resolve_received hstable] at hvalid
  obtain ⟨found, hfound⟩ := Option.isSome_iff_exists.mp hvalid.1
  refine ⟨found, hfound, ?_, rfl, rfl⟩
  simp only [resolveMessage, resolve_received hstable, hfound]

end

/-! ## A run of messages -/

theorem receiver_handle (s : Session) (r : Receiver) (d : Delivery) : (receiver s).step r (.handle d) =
    ((handleReceivedMessageOnGameThread s d.vm r d.toReceivedMessage).1,
      (handleReceivedMessageOnGameThread s d.vm r d.toReceivedMessage).2.toList) := rfl

/-- The proxy of a connection depends on the resolver alone. -/
theorem proxyActor_congr {s : Session} {r r' : Receiver} (h : r.resolver = r'.resolver) (c : ConnectionID) :
    r.proxyActor s c = r'.proxyActor s c := by
  unfold Receiver.proxyActor Receiver.resolve
  rw [h]

theorem passedTo_append (proxy : TESForm) (out new : List RxState) :
    passedTo proxy (out ++ new) = passedTo proxy out ++ passedTo proxy new := by
  rw [passedTo, List.filter_append, List.map_append]
  rfl

theorem passedTo_dropped {proxy : TESForm} {o : Option RxState} (h : ∀ x, o = some x → ¬x.PassedTo proxy) :
    passedTo proxy o.toList = [] := by
  rw [passedTo, List.map_eq_nil_iff, List.filter_eq_nil_iff]
  intro x hx
  rw [decide_eq_true_iff]
  exact h x (Option.mem_toList.mp hx)

section

variable (s : Session) (c : ConnectionID)

/-- While a connection has no proxy, its messages change nothing and are passed on for no proxy. -/
theorem run_unmapped (r : Receiver) (h : r.proxyActor s c = none) (deliveries : List Delivery)
    (hfrom : ∀ d ∈ deliveries, d.connectionID = c) :
    ((receiver s).run r (deliveries.map .handle)).1 = r ∧
      ∀ proxy, passedTo proxy ((receiver s).run r (deliveries.map .handle)).2 = [] := by
  induction deliveries using List.reverseRecOn with
  | nil => exact ⟨rfl, fun _ => rfl⟩
  | append_singleton deliveries d ih =>
    obtain ⟨hr, hpassed⟩ := ih fun d hd => hfrom d (List.mem_append_left _ hd)
    have hd : d.connectionID = c := hfrom d (by simp)
    have hnone : r.proxyActor s d.toReceivedMessage.connectionID = none := hd ▸ h
    obtain ⟨hsame, hdropped⟩ := handle_dropped d.vm (Or.inr hnone)
    rw [List.map_append, List.map_cons, List.map_nil, Machine.run_concat, hr, receiver_handle]
    refine ⟨hsame, fun proxy => ?_⟩
    rw [passedTo_append, hpassed proxy, List.nil_append]
    exact passedTo_dropped fun x hx => hdropped x hx proxy

/-- What a run of messages from a connection with a proxy leaves: the resolver as it was, the proxy shown, its valid messages
passed on in order, and the calls of DAV's script that they make. -/
structure Mapped (r : Receiver) (proxy : TESForm) (deliveries : List Delivery) (x : Receiver × List RxState) : Prop where
  resolver : x.1.resolver = r.resolver
  shown : (x.1.actors proxy.formID).object3D ≠ .null
  passed : passedTo proxy x.2 = validStates s deliveries
  calls : (x.1.actors proxy.formID).papyrusCalls = (r.actors proxy.formID).papyrusCalls ++ validCalls s deliveries

/-- While a connection has a proxy that is shown, its valid messages are passed on in order. -/
theorem run_mapped (r : Receiver) (proxy : TESForm) (h : r.proxyActor s c = some proxy)
    (hshown : (r.actors proxy.formID).object3D ≠ .null) (deliveries : List Delivery)
    (hfrom : ∀ d ∈ deliveries, d.connectionID = c) :
    Mapped s r proxy deliveries ((receiver s).run r (deliveries.map .handle)) := by
  induction deliveries using List.reverseRecOn with
  | nil => exact ⟨rfl, hshown, rfl, by simp [validCalls]⟩
  | append_singleton deliveries d ih =>
    have hm := ih fun d hd => hfrom d (List.mem_append_left _ hd)
    have hd : d.connectionID = c := hfrom d (by simp)
    rw [List.map_append, List.map_cons, List.map_nil, Machine.run_concat, receiver_handle]
    generalize (receiver s).run r (deliveries.map .handle) = x at hm
    have hproxy : x.1.proxyActor s d.connectionID = some proxy := by rw [hd, proxyActor_congr hm.resolver, h]
    dsimp only
    cases hvalid : validMessage s d.payload with
    | none =>
      obtain ⟨hsame, hdropped⟩ := handle_dropped d.vm (r := x.1) (Or.inl hvalid)
      rw [hsame]
      refine ⟨hm.resolver, hm.shown, ?_, ?_⟩
      · rw [passedTo_append, hm.passed, passedTo_dropped fun x hx => hdropped x hx proxy]
        simp [validStates, hvalid]
      · rw [hm.calls]
        simp [validCalls, hvalid]
    | some state =>
      obtain ⟨y, hhandle, hpassed, rfl⟩ := handle_passed d.vm hvalid hproxy
      rw [hhandle]
      refine ⟨hm.resolver, ?_, ?_, ?_⟩
      · simpa using apply_shown hm.shown
      · rw [passedTo_append, hm.passed]
        simp [passedTo, validStates, hpassed, hvalid]
      · simp only [Function.update_self]
        rw [apply_papyrusCalls hm.shown, hm.calls]
        cases hcall : papyrusCall s d.vm y.message <;> simp [validCalls, hvalid, hcall]

/-- A run in which the proxy of a connection appears: only the messages since are passed on. -/
theorem run_mapping (r : Receiver) (hunmapped : r.proxyActor s c = none) (before after : List Delivery)
    (hfrom : ∀ d ∈ before ++ after, d.connectionID = c) (resolver : ProxyResolver) (actors : FormID → ProxyActor) (proxy : TESForm)
    (hmapped : ({ resolver := some resolver, actors } : Receiver).proxyActor s c = some proxy)
    (hshown : (actors proxy.formID).object3D ≠ .null) :
    Mapped s { resolver := some resolver, actors } proxy after
      ((receiver s).run r (before.map .handle ++ .mapping resolver actors :: after.map .handle)) := by
  have hbefore := run_unmapped s c r hunmapped before fun d hd => hfrom d (List.mem_append_left _ hd)
  have hafter := run_mapped s c { resolver := some resolver, actors } proxy hmapped hshown after fun d hd =>
    hfrom d (List.mem_append_right _ hd)
  have hrun : (receiver s).run r (before.map .handle ++ .mapping resolver actors :: after.map .handle) =
      (((receiver s).run { resolver := some resolver, actors } (after.map .handle)).1,
        ((receiver s).run r (before.map .handle)).2 ++
          ((receiver s).run { resolver := some resolver, actors } (after.map .handle)).2) := by
    rw [List.append_cons, Machine.run_append, Machine.run_concat]
    simp [receiver]
  rw [hrun]
  refine ⟨hafter.resolver, hafter.shown, ?_, hafter.calls⟩
  rw [passedTo_append, hbefore.2 proxy, List.nil_append, hafter.passed]

end

end DAVSyncTogether
