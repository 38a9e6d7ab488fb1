import DAVSyncTogether.Theorems.Agreement

/-!
# What DAV shows of a player

The states that are passed on for a proxy are calls of DAV's script, and what DAV then shows is a set of active variants, out of
which the reset of one armor may take a variant of another one. So agreement on what is tracked is not yet agreement on what is
active: in a run in which everything is sent and dispatched, a tracked variant is active on the proxy exactly when every
message that resets another armor that the variant affects is followed by one that applies it (`shown_active_iff`).
-/

namespace DAVSyncTogether

open ByteString DAVProbe DynamicArmor DAVRemoteApplier

/-- Deliveries of the messages, all dispatched, do to the active variants what the messages say. -/
theorem map_op_validCalls {s : Session} (hs : s.Lawful) (index : DAVConfigIndex) {deliveries : List Delivery} {ms : List StateMessage}
    (hpayloads : deliveries.map (fun d => d.payload) = ms.map StateMessage.payload)
    (hdispatched : ∀ d ∈ deliveries, ((validMessage s d.payload).bind (papyrusCall s d.vm)).isSome = true) :
    (validCalls s deliveries).map (op s index) = ms.map (StateMessage.op s index) := by
  induction deliveries generalizing ms with
  | nil =>
    obtain rfl : ms = [] := List.map_eq_nil_iff.mp hpayloads.symm
    rfl
  | cons d deliveries ih =>
    cases ms with
    | nil => cases hpayloads
    | cons m ms =>
      rw [List.map_cons, List.map_cons, List.cons.injEq] at hpayloads
      obtain ⟨call, hcall⟩ := Option.isSome_iff_exists.mp (hdispatched d List.mem_cons_self)
      have htail := ih hpayloads.2 fun d' hd' => hdispatched d' (List.mem_cons_of_mem _ hd')
      have hop : op s index call = m.op s index := by
        have hmessage : (validMessage s (m.delivery d.connectionID d.vm).payload).bind (papyrusCall s d.vm) = some call := by
          rw [← hcall, hpayloads.1]
          rfl
        exact op_of_call index hs hmessage
      rw [validCalls_cons hcall, List.map_cons, List.map_cons, htail, hop]

/-- A variant that some messages leave at an armor is in the set they leave when every reset that takes it out, but for those of the
armor itself, is followed by a message that applies it. -/
theorem mem_replay_of_delivered (s : Session) (index : DAVConfigIndex) (set : List Bytes) {ms : List StateMessage} {k v : Bytes}
    (hdelivered : (delivered ms).lookup k = some v) :
    v ∈ SetOp.replay set (ms.map (StateMessage.op s index)) ↔
      ∀ pre m post, ms = pre ++ m :: post → m.stableKey ≠ k → m.Resets s index v → ∃ m' ∈ post, m'.Applies v := by
  obtain ⟨last, hlast, happlies⟩ := exists_applies hdelivered
  rw [SetOp.mem_replay _ _ ⟨last, hlast, (last.op_eq_add _ _ v).mpr happlies⟩]
  simp only [StateMessage.op_eq_add, StateMessage.op_sweeps]
  constructor
  · intro h pre m post hsplit _ hresets
    exact h pre m post hsplit hresets
  · intro h pre m post hsplit hresets
    by_cases hk : m.stableKey = k
    · exact exists_applies_after (hsplit ▸ hdelivered) hk (m.value_update_eq_none.mpr hresets.1)
    · exact h pre m post hsplit hk hresets

section

variable {ι : Type} [DecidableEq ι] (players : Players ι) (proxies : ι → ProxyResolver) (actors : ι → FormID → ProxyActor)
  (es : List (WorldEvent players))

/-- The messages that a player has handled from another one, once it has handled everything that was posted there, and everything
was sent, are all that were told. -/
theorem handled_told (i j : ι) (hij : i ≠ j) (hes : (multiplayer players).Along (Listens players) (World.loaded proxies actors) es)
    (hcaught : CaughtUp players i j ((multiplayer players).run (World.loaded proxies actors) es).1)
    (hsent : ∀ call ∈ sentCalls (outputsOf i ((multiplayer players).run (World.loaded proxies actors) es).2), call.sentOk = true) :
    (deliveriesFrom (players.connection i) (outputsOf j ((multiplayer players).run (World.loaded proxies actors) es).2)).map
        (fun d => d.payload) =
      (told i ((multiplayer players).run (World.loaded proxies actors) es).2).map StateMessage.payload := by
  have hposted := handled_eq_posted hij proxies actors es hes
  dsimp only at hposted
  rw [posted_eq_calls, hcaught.tasks, hcaught.links, List.append_nil, List.append_nil, handledFrom,
    fromConnection_handledMessages, List.filter_eq_self.mpr hsent] at hposted
  rw [hposted, told, messages, List.map_map]
  rfl

/-- In every run in which whoever is handed a message listens, and a proxy stands for one player at another one, once that one has
handled everything, and the module took and DAV was called for all of it: a variant that the player tracks for an armor is active on
the proxy exactly when every message that resets another armor that the variant affects is followed by a message that applies it. -/
theorem shown_active_iff (i j : ι) (proxy : TESForm) (hij : i ≠ j) (hshown : (actors j proxy.formID).object3D ≠ .null)
    (hlistens : (multiplayer players).Along (Listens players) (World.loaded proxies actors) es)
    (hes : (multiplayer players).Along (StandsFor players i j proxy) (World.loaded proxies actors) es) (index : DAVConfigIndex)
    (hcaught : CaughtUp players i j ((multiplayer players).run (World.loaded proxies actors) es).1)
    (hsent : ∀ call ∈ sentCalls (outputsOf i ((multiplayer players).run (World.loaded proxies actors) es).2), call.sentOk = true)
    (hdispatched : ∀ d ∈ deliveriesFrom (players.connection i)
        (outputsOf j ((multiplayer players).run (World.loaded proxies actors) es).2),
      ((validMessage (players.session j) d.payload).bind (papyrusCall (players.session j) d.vm)).isSome = true) (k v : Bytes)
    (htracked : (((multiplayer players).run (World.loaded proxies actors) es).1.plugins i).probe.networkTrackedVariants.lookup k =
      some v) :
    let r := (multiplayer players).run (World.loaded proxies actors) es
    v ∈ activeVariants (players.session j) index ((r.1.plugins j).actors proxy.formID).papyrusCalls ↔
      ∀ pre m post, told i r.2 = pre ++ m :: post → m.stableKey ≠ k → m.Resets (players.session j) index v →
        ∃ m' ∈ post, m'.Applies v := by
  have hdelivered := delivered_of_tracked players proxies actors i es htracked
  have hpayloads := handled_told players proxies actors es i j hij hlistens hcaught hsent
  have hcalls := calls_player players proxies actors i j proxy hshown es hes
  dsimp only at hcalls ⊢
  rw [hcalls.2, activeVariants, List.map_append, map_op_validCalls (players.lawful j) index hpayloads hdispatched, SetOp.replay,
    List.foldl_append]
  exact mem_replay_of_delivered (players.session j) index _ hdelivered

end

/-! ## The hidden helmet -/

namespace Swap

/-- The left player handles the one message, and DAV takes the call. -/
theorem deliveries_shown : deliveriesFrom (players.connection .wearer) (outputsOf .left ((multiplayer players).run world shown).2) =
    [{ payload := call.payload, connectionID := 1, vm := Proxy.dispatching }] := by
  rfl

theorem told_shown : told .wearer ((multiplayer players).run world shown).2 = [call.toStateMessage] := by
  rw [told, sentCalls_shown]
  rfl

theorem dispatched_shown : ((validMessage session call.payload).bind (papyrusCall session Proxy.dispatching)).isSome = true := by
  have hpayload : call.payload = (message Helmet.hidden false).payload := by decide
  rw [hpayload]
  exact dispatched (message Helmet.hidden false) (by decide)

end Swap

/-- The variant of the helmet is active on the proxy at the left player. -/
theorem shown_active_helmet :
    ascii "HideHelmet" ∈ activeVariants Swap.session (load Swap.session Swap.root)
      ((((multiplayer Swap.players).run (World.loaded (fun _ => Swap.mapping) (fun _ => Proxy.mapped.actors))
        Swap.shown).1.plugins .left).actors Proxy.form.formID).papyrusCalls := by
  have hthere : (Proxy.mapped.actors Proxy.form.formID).object3D ≠ .null := nofun
  refine (shown_active_iff Swap.players (fun _ => Swap.mapping) (fun _ => Proxy.mapped.actors) Swap.shown .wearer .left Proxy.form nofun
    hthere Swap.along_listens Swap.along_standsFor (load Swap.session Swap.root) ⟨by decide, by decide⟩ ?_ ?_
    Helmet.hidden.stableKey (ascii "HideHelmet") (by decide)).mpr ?_
  · intro call hcall
    have hmem : call ∈ [Swap.call] := Swap.sentCalls_shown ▸ hcall
    rw [List.mem_singleton.mp hmem]
    exact Swap.call_valid.1
  · intro d hd
    have hmem : d ∈ [({ payload := Swap.call.payload, connectionID := 1, vm := Proxy.dispatching } : Delivery)] :=
      Swap.deliveries_shown ▸ hd
    rw [List.mem_singleton.mp hmem]
    exact Swap.dispatched_shown
  · intro pre m post hsplit hk
    have hmem : m ∈ [Swap.call.toStateMessage] := by
      rw [← Swap.told_shown]
      exact hsplit ▸ List.mem_append_right _ List.mem_cons_self
    rw [List.mem_singleton.mp hmem] at hk
    exact absurd rfl hk

end DAVSyncTogether
