import DAVSyncTogether.Lemmas.Traffic
import DAVSyncTogether.Lemmas.Receiving

/-!
# What a player is shown of another one

The states that are passed to `Apply` for a proxy are an account of what the proxy is to show: `view` replays it. What a valid
message does to the view is what its sender meant it to do (`update_of_valid`). While the proxy of a player is mapped, and no one
else's, a task passes on for it the valid messages that it handles from that player (`passed_runTask`).
-/

namespace DAVSyncTogether

open DAVProbe

/-! ## The view -/

/-- What a state that is passed to `Apply` does to what the proxy is to show. -/
def RemoteArmorState.update (x : RemoteArmorState) : Update Bytes Bytes :=
  match x.state with
  | .hidden | .replaced => .set x.armor.stableKey x.variant
  | .visible | .unequipped => .clear x.armor.stableKey

/-- What the proxy is to show: the variant of each armor that has one. -/
def view (states : List RemoteArmorState) : AList (fun _ : Bytes => Bytes) := Update.replay (states.map RemoteArmorState.update)

/-- The key of a stable identity does not depend on the runtime ID. -/
theorem FormIdentity.stableKey_congr {i j : FormIdentity} (hi : i.isStable = true) (hplugin : j.plugin = i.plugin)
    (hlocal : j.localFormID = i.localFormID) : j.stableKey = i.stableKey := by
  have hj : j.isStable = true := by rw [← hi, FormIdentity.isStable, FormIdentity.isStable, hplugin]
  unfold FormIdentity.stableKey
  rw [hi, hj, hplugin, hlocal]
  rfl

/-- A message is valid in a game. -/
def DAVProbe.StateMessage.validIn (s : Session) (m : StateMessage) : Bool := (validMessage s m.payload).isSome

section

variable {s : Session} {m : StateMessage} {state : RemoteArmorState}

/-- What a receiver makes of a valid message is about the armor that the message is about. -/
theorem stableKey_of_valid (h : validMessage s m.payload = some state) : state.armor.stableKey = m.stableKey := by
  obtain ⟨decoded, hdecoded, hstate⟩ := Option.bind_eq_some_iff.mp h
  obtain ⟨-, ⟨⟩⟩ := Option.ite_none_right_eq_some.mp hstate
  obtain ⟨hstable, -, rfl⟩ := decodeArmorState_encode_eq_some hdecoded
  refine FormIdentity.stableKey_congr hstable ?_ ?_
  · unfold resolveMessage
    dsimp only
    split <;> rfl
  · unfold resolveMessage
    dsimp only
    split <;> rfl

/-- A valid message does to the view of its receiver what it is to do. -/
theorem update_of_valid (h : validMessage s m.payload = some state) : state.update = m.update := by
  obtain ⟨found, -, -, hstate, hvariant⟩ := validMessage_encode_eq_some h
  have hkey := stableKey_of_valid h
  unfold RemoteArmorState.update StateMessage.update StateMessage.state
  cases hencoded : encodedState m.armor m.unequipped <;> simp only [hstate, hvariant, hkey, hencoded]

/-- What valid messages do to the view of a receiver. -/
theorem map_update_valid (s : Session) (ms : List StateMessage) :
    ((ms.map StateMessage.payload).filterMap (validMessage s)).map RemoteArmorState.update =
      (ms.filter (StateMessage.validIn s)).map StateMessage.update := by
  induction ms with
  | nil => rfl
  | cons m ms ih =>
    rw [List.map_cons, List.filterMap_cons, List.filter_cons, StateMessage.validIn]
    cases hvalid : validMessage s m.payload with
    | none => exact ih
    | some state =>
      rw [Option.isSome_some, if_pos rfl, List.map_cons, List.map_cons, ih, update_of_valid hvalid]

end

/-! ## Handled messages, at one proxy -/

/-- What was logged of a handled message. -/
def PluginOutput.rx : PluginOutput → Option RxState
  | .handled _ rx => rx
  | .sent _ => none

def rxStates (out : List PluginOutput) : List RxState := out.filterMap PluginOutput.rx

theorem rxStates_append (out new : List PluginOutput) : rxStates (out ++ new) = rxStates out ++ rxStates new :=
  List.filterMap_append

theorem rxStates_sent (calls : List SendCall) : rxStates (calls.map .sent) = [] := by
  rw [rxStates, List.filterMap_map]
  exact List.filterMap_eq_nil_iff.mpr fun _ _ => rfl

/-- The proxy is that of the connection, and of no other one. -/
def Receiver.Maps (s : Session) (r : Receiver) (c : ConnectionID) (proxy : TESForm) : Prop :=
  r.proxyActor s c = some proxy ∧ ∀ c', c' ≠ c → r.proxyActor s c' ≠ some proxy

/-- A proxy is its connection's when no other connection has a mapping. -/
theorem maps_of_resolve {s : Session} {r : Receiver} {c : ConnectionID} {proxy : TESForm}
    (hproxy : r.proxyActor s c = some proxy)
    (hothers : ∀ c', c' ≠ c → r.resolve c' = (.targetNotFound, kInvalidProxyFormID)) : r.Maps s c proxy := by
  refine ⟨hproxy, fun c' hc' => ?_⟩
  rw [Receiver.proxyActor, hothers c' hc']
  simp

section

variable {s : Session} {c : ConnectionID} {proxy : TESForm}

/-- What a task passes to `Apply` for a proxy are the valid messages of its connection. -/
theorem passed_runTask {p : Plugin} (hmaps : p.receiver.Maps s c proxy) (meets : TaskMeets s) :
    passedTo proxy (rxStates (p.runTask s meets).2) =
      (fromConnection c (handledMessages (p.runTask s meets).2)).filterMap (validMessage s) := by
  have hc := Plugin.runTask_cases p meets
  generalize p.runTask s meets = x at hc
  cases hc with
  | none htasks => rfl
  | stopped tasks htasks hrunning => rfl
  | ticked tasks htasks hrunning probe calls htick =>
    rw [rxStates_sent, handledMessages_sent]
    rfl
  | handled message tasks htasks =>
    have hrx : ∀ rx, rxStates [.handled { message with vm := meets.vm } rx] = rx.toList := by
      intro rx
      cases rx <;> rfl
    have hmessage : ∀ rx, handledMessages [.handled { message with vm := meets.vm } rx] = [message] := fun _ => rfl
    rw [hrx, hmessage]
    by_cases hfrom : message.connectionID = c
    · have hfromc : fromConnection c [message] = [message.payload] := by simp [fromConnection, hfrom]
      rw [hfromc]
      cases hvalid : validMessage s message.payload with
      | none =>
        rw [passedTo_dropped fun x hx => (handle_dropped meets.vm (Or.inl hvalid)).2 x hx proxy,
          List.filterMap_cons_none hvalid]
        rfl
      | some state =>
        obtain ⟨y, hhandle, hpassed, rfl⟩ := handle_passed meets.vm hvalid (hfrom ▸ hmaps.1)
        rw [hhandle, List.filterMap_cons_some hvalid]
        simp [passedTo, hpassed]
    · have hfromc : fromConnection c [message] = [] := by simp [fromConnection, hfrom]
      rw [hfromc]
      refine passedTo_dropped fun x hx hpassed => hmaps.2 _ hfrom ?_
      exact ((handle_passedTo_iff meets.vm proxy).mp ⟨x, hx, hpassed⟩).2

/-- The messages of one connection that were handled, with the Papyrus machine that each one met. -/
def deliveriesFrom (c : ConnectionID) (out : List PluginOutput) : List Delivery :=
  (out.filterMap PluginOutput.delivery).filter fun d => d.connectionID = c

theorem deliveriesFrom_append (c : ConnectionID) (out new : List PluginOutput) :
    deliveriesFrom c (out ++ new) = deliveriesFrom c out ++ deliveriesFrom c new := by
  rw [deliveriesFrom, List.filterMap_append, List.filter_append]
  rfl

theorem fromConnection_handledMessages (c : ConnectionID) (out : List PluginOutput) :
    fromConnection c (handledMessages out) = (deliveriesFrom c out).map fun d => d.payload := by
  induction out with
  | nil => rfl
  | cons o out ih =>
    unfold fromConnection handledMessages deliveriesFrom at ih ⊢
    cases o with
    | sent call => exact ih
    | handled d rx =>
      change List.filterMap _ (d.toReceivedMessage :: List.filterMap _ out) =
        List.map _ (List.filter _ (d :: List.filterMap PluginOutput.delivery out))
      rw [List.filterMap_cons, List.filter_cons]
      by_cases hd : d.connectionID = c
      · simp [hd, ih]
      · simp [hd, ih]

/-- In a lawful session an actor's ID is that of one actor. -/
theorem proxyActor_of_formID (hs : s.Lawful) {r : Receiver} {c' : ConnectionID} {other : TESForm}
    (hproxy : r.proxyActor s c = some proxy) (hother : r.proxyActor s c' = some other) (h : other.formID = proxy.formID) :
    other = proxy := by
  have hloaded : ∀ c actor, r.proxyActor s c = some actor → s.lookupByID actor.formID = some (.actor actor) := by
    intro c actor hactor
    unfold Receiver.proxyActor at hactor
    dsimp only at hactor
    split at hactor
    · obtain ⟨f, hf, hactor⟩ := Option.bind_eq_some_iff.mp hactor
      cases f with
      | actor f =>
        cases hactor
        have hid : actor.formID = (r.resolve c).2 := hs.formID_of_lookup _ _ hf
        rw [hid]
        exact hf
      | armo a => cases hactor
      | arma a => cases hactor
      | other f => cases hactor
    · cases hactor
  have hfound := hloaded c' other hother
  rw [h, hloaded c proxy hproxy, Option.some.injEq, Form.actor.injEq] at hfound
  exact hfound.symm

/-- Any other action handles nothing. -/
theorem nothing_handled {p : Plugin} {e : PluginEvent s} (he : ∀ meets, e ≠ .runTask meets) : (p.step s e).2 = [] := by
  cases e with
  | runTask meets => exact absurd rfl (he meets)
  | skse => rfl
  | queueProbe => rfl
  | mapping => rfl

/-- Any other action leaves the actors, but for a new mapping. -/
theorem actors_kept {p : Plugin} {e : PluginEvent s} (he : ∀ meets, e ≠ .runTask meets)
    (hmapping : ∀ proxies actors, e ≠ .mapping proxies actors) : (p.step s e).1.actors = p.actors := by
  cases e with
  | runTask meets => exact absurd rfl (he meets)
  | mapping proxies actors => exact absurd rfl (hmapping proxies actors)
  | queueProbe caller taskInterface => exact (p.queueProbe_frame caller taskInterface).actors
  | skse message module root => exact (p.onSKSEMessage_frame module root message).2.2.2

end

end DAVSyncTogether
