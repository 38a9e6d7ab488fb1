import DAVSyncTogether.Lemmas.Views
import DAVSyncTogether.Theorems.Cull

/-!
# What becomes of a proxy

A run of `Apply` on a proxy leaves on each node the flag that the last call with a fallback for its armor set, or the one it had
(`run_applier_object3D`), and has called DAV's script once for each call that was dispatched (`run_applier_papyrusCalls`). What
a task does to the proxy of a connection is a run of `Apply` over the valid messages of that connection that it handles
(`actor_runTask`).
-/

namespace DAVSyncTogether

open ByteString DAVProbe

namespace DAVRemoteApplier

variable (s : Session)

/-- The flag that the calls left on the nodes of an armor: that of the last one that took the fallback for it. -/
def lastFallback (calls : List ApplyCall) (armorFormID : FormID) : Option Bool :=
  (calls.filterMap fun call => if call.state.armor.runtimeFormID = armorFormID then fallback s call else none).getLast?

/-- The flag of a node after some calls. -/
def flagAfter (calls : List ApplyCall) (name : Bytes) (appCulled : Bool) : Bool :=
  ((parseArmorNode name).bind fun r => lastFallback s calls r.2).getD appCulled

/-- A call sets the flags of its armor when it takes the fallback, and no other flags. -/
theorem lastFallback_concat (calls : List ApplyCall) (call : ApplyCall) (armorFormID : FormID) :
    lastFallback s (calls ++ [call]) armorFormID =
      (if call.state.armor.runtimeFormID = armorFormID then fallback s call else none).or (lastFallback s calls armorFormID) := by
  rw [lastFallback, Machine.filterMap_concat, lastFallback]
  cases (if call.state.armor.runtimeFormID = armorFormID then fallback s call else none) with
  | none => rw [Option.toList_none, List.append_nil, Option.none_or]
  | some cull => rw [Option.toList_some, List.getLast?_concat, Option.some_or]

/-- The flags after one more call that takes the fallback. -/
theorem setFlag_flagAfter {call : ApplyCall} {cull : Bool} (h : fallback s call = some cull) (calls : List ApplyCall) (name : Bytes)
    (appCulled : Bool) :
    setFlag call.state.armor.runtimeFormID cull name (flagAfter s calls name appCulled) =
      flagAfter s (calls ++ [call]) name appCulled := by
  unfold setFlag rendersArmor flagAfter
  cases parseArmorNode name with
  | none => rfl
  | some r =>
    rw [Option.any_some, Option.bind_some, Option.bind_some, lastFallback_concat, h]
    by_cases harmor : call.state.armor.runtimeFormID = r.2
    · rw [harmor, beq_self_eq_true, if_pos rfl, if_pos rfl, Option.some_or, Option.getD_some]
    · have hne : (r.2 == call.state.armor.runtimeFormID) = false := by simpa using Ne.symm harmor
      rw [hne, if_neg Bool.false_ne_true, if_neg harmor, Option.none_or]

/-- A call that does not take the fallback changes no flag. -/
theorem flagAfter_concat_none {call : ApplyCall} (h : fallback s call = none) (calls : List ApplyCall) :
    flagAfter s (calls ++ [call]) = flagAfter s calls := by
  have hlast : lastFallback s (calls ++ [call]) = lastFallback s calls := by
    funext armorFormID
    rw [lastFallback_concat, h, ite_self, Option.none_or]
  unfold flagAfter
  rw [hlast]

theorem flagAfter_nil : flagAfter s [] = fun _ appCulled => appCulled := by
  funext name appCulled
  unfold flagAfter
  cases parseArmorNode name <;> rfl

/-- In every run the nodes keep their names and places, and have the flags that the calls left on them. -/
theorem run_applier_object3D (actor : ProxyActor) (calls : List ApplyCall) :
    ((applier s).run actor calls).1.object3D = actor.object3D.mapFlags (flagAfter s calls) := by
  refine (applier s).run_induction (P := fun calls a _ => a.object3D = actor.object3D.mapFlags (flagAfter s calls)) ?_ ?_ calls
  · rw [flagAfter_nil, NiAVObject.mapFlags_id]
  · intro calls a _ call h
    change (apply s call.vm a call.state).1.object3D = _
    rw [apply_object3D]
    cases hfallback : fallback s call with
    | none =>
      dsimp only
      rw [flagAfter_concat_none s hfallback, h]
    | some cull =>
      dsimp only
      rw [fallbackCull_eq, h, NiAVObject.mapFlags_mapFlags]
      exact congrArg actor.object3D.mapFlags
        (funext fun name => funext fun appCulled => setFlag_flagAfter s hfallback calls name appCulled)

/-- In every run on a proxy that is shown, it stays shown, and DAV's script is called as the calls say. -/
theorem run_applier_papyrusCalls {actor : ProxyActor} (h : actor.object3D ≠ .null) (calls : List ApplyCall) :
    ((applier s).run actor calls).1.object3D ≠ .null ∧
      ((applier s).run actor calls).1.papyrusCalls =
        actor.papyrusCalls ++ calls.filterMap fun call => papyrusCall s call.vm call.state := by
  refine (applier s).run_induction (P := fun calls a _ => a.object3D ≠ .null ∧
    a.papyrusCalls = actor.papyrusCalls ++ calls.filterMap fun call => papyrusCall s call.vm call.state)
    ⟨h, (List.append_nil _).symm⟩ ?_ calls
  rintro calls a _ call ⟨hshown, hcalls⟩
  refine ⟨apply_shown hshown, ?_⟩
  change (apply s call.vm a call.state).1.papyrusCalls = _
  rw [apply_papyrusCalls hshown, hcalls, Machine.filterMap_concat, List.append_assoc]

end DAVRemoteApplier

open DAVRemoteApplier

/-- The calls of `Apply` that some deliveries lead to, at a proxy that is mapped. -/
def applyCalls (s : Session) (deliveries : List Delivery) : List ApplyCall :=
  deliveries.filterMap fun d => (validMessage s d.payload).map fun state => { vm := d.vm, state }

theorem applyCalls_append (s : Session) (deliveries new : List Delivery) :
    applyCalls s (deliveries ++ new) = applyCalls s deliveries ++ applyCalls s new := List.filterMap_append

/-- The calls of DAV's script are those of the calls of `Apply`. -/
theorem papyrusCalls_applyCalls (s : Session) (deliveries : List Delivery) :
    ((applyCalls s deliveries).filterMap fun call => papyrusCall s call.vm call.state) = validCalls s deliveries := by
  rw [applyCalls, List.filterMap_filterMap, validCalls]
  congr 1
  funext d
  cases validMessage s d.payload <;> rfl

section

variable {s : Session} {c : ConnectionID} {proxy : TESForm}

/-- A message of the connection is applied to its proxy when it is valid. -/
theorem actor_handle {r : Receiver} {d : Delivery} (hproxy : r.proxyActor s d.connectionID = some proxy) :
    (handleReceivedMessageOnGameThread s d.vm r d.toReceivedMessage).1.actors proxy.formID =
      ((applier s).run (r.actors proxy.formID) (applyCalls s [d])).1 := by
  cases hvalid : validMessage s d.payload with
  | none =>
    rw [(handle_dropped d.vm (Or.inl hvalid)).1, applyCalls, List.filterMap_cons_none (by rw [hvalid]; rfl)]
    rfl
  | some state =>
    obtain ⟨y, hhandle, -, -⟩ := handle_passed d.vm hvalid hproxy
    rw [hhandle, applyCalls, List.filterMap_cons_some (by rw [hvalid]; rfl)]
    exact Function.update_self _ _ _

/-- A message of another connection leaves the proxy alone. -/
theorem actor_handle_other (hs : s.Lawful) {r : Receiver} (hmaps : r.Maps s c proxy) {message : ReceivedMessage}
    (hother : message.connectionID ≠ c) (vm : VirtualMachine) :
    (handleReceivedMessageOnGameThread s vm r message).1.actors proxy.formID = r.actors proxy.formID := by
  cases hvalid : validMessage s message.payload with
  | none => rw [(handle_dropped vm (Or.inl hvalid)).1]
  | some state =>
    cases hactor : r.proxyActor s message.connectionID with
    | none => rw [(handle_dropped vm (Or.inr hactor)).1]
    | some other =>
      obtain ⟨y, hhandle, -, -⟩ := handle_passed vm hvalid hactor
      have hne : proxy.formID ≠ other.formID := fun h =>
        hmaps.2 _ hother (proxyActor_of_formID hs hmaps.1 hactor h.symm ▸ hactor)
      rw [hhandle]
      exact Function.update_of_ne hne _ _

/-- A task runs `Apply` on the proxy of a connection for the valid messages of that connection that it handles. -/
theorem actor_runTask (hs : s.Lawful) {p : Plugin} (hmaps : p.receiver.Maps s c proxy) (meets : TaskMeets s) :
    (p.runTask s meets).1.actors proxy.formID =
      ((applier s).run (p.actors proxy.formID) (applyCalls s (deliveriesFrom c (p.runTask s meets).2))).1 := by
  have hc := Plugin.runTask_cases p meets
  generalize p.runTask s meets = x at hc
  cases hc with
  | none htasks => rfl
  | stopped tasks htasks hrunning => rfl
  | ticked tasks htasks hrunning probe calls htick =>
    have hsent : deliveriesFrom c (calls.map .sent) = [] := by
      rw [deliveriesFrom, List.filterMap_map]
      exact congrArg (List.filter _) (List.filterMap_eq_nil_iff.mpr fun _ _ => rfl)
    rw [hsent]
    rfl
  | handled message tasks htasks =>
    by_cases hfrom : message.connectionID = c
    · have hdeliveries : ∀ rx, deliveriesFrom c [.handled { message with vm := meets.vm } rx] = [{ message with vm := meets.vm }] := by
        intro rx
        simp [deliveriesFrom, PluginOutput.delivery, hfrom]
      rw [hdeliveries]
      exact actor_handle (d := { message with vm := meets.vm }) (hfrom ▸ hmaps.1)
    · have hdeliveries : ∀ rx, deliveriesFrom c [.handled { message with vm := meets.vm } rx] = [] := by
        intro rx
        simp [deliveriesFrom, PluginOutput.delivery, hfrom]
      rw [hdeliveries]
      exact actor_handle_other hs hmaps hfrom meets.vm

end

end DAVSyncTogether
