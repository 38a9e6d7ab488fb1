import DAVSyncTogether.Lemmas.Interleaving
import DAVSyncTogether.Lemmas.PluginGames

/-!
# Any number of players

Whatever the order in which the plugins and the messaging module act: a player's plugin runs as if it were alone with the
messages it is handed (`run_player`). Nothing that is posted to a player is forged, doubled or overtaken (`handled_sublist`), and
nothing is lost while the player listens, from the start (`posted_conserved`) or from any moment on (`posted_since`). The proxy of
a player is what the messages handled from that player make of it, whatever the others send (`proxy_isolated`, `proxy_flags`).
And a player is shown of another one what that one tracked at some moment before (`view_was_tracked`), and what it has told once
everything has been handled (`lookup_view_caughtUp`).
-/

namespace DAVSyncTogether

open ByteString DAVProbe

section

variable {ι : Type} [DecidableEq ι] (players : Players ι) (proxies : ι → ProxyResolver) (actors : ι → FormID → ProxyActor)
  (es : List (WorldEvent players))

/-! ## Each player -/

/-- The action of the plugin, if what happens to it is one. -/
def ProcessEvent.action {s : Session} : ProcessEvent s → Option (PluginEvent s)
  | .own e => some e
  | .message .. => none

/-- An event is something that happens to a player's plugin, or nothing to it at all. -/
theorem player_event (i : ι) (w : World ι) (e : WorldEvent players) :
    ∃ o : Option (ProcessEvent (players.session i)), o.bind ProcessEvent.action = e.ownOf players i ∧
      (((multiplayer players).step w e).1.plugins i, outputsOf i ((multiplayer players).step w e).2) =
        o.elim (w.plugins i, []) ((plugin (players.session i)).step (w.plugins i)) := by
  have hc := player_cases players i w e
  generalize ((multiplayer players).step w e).1.plugins i = p at hc ⊢
  generalize outputsOf i ((multiplayer players).step w e).2 = out at hc ⊢
  cases hc with
  | own e => exact ⟨some (.own e), by simp [WorldEvent.ownOf, ProcessEvent.action], rfl⟩
  | apart e hown => exact ⟨none, hown.symm, rfl⟩
  | handed a message taskInterface =>
    unfold Plugin.listen
    split
    · exact ⟨some (.message message taskInterface), rfl, rfl⟩
    · exact ⟨none, rfl, rfl⟩

/-- What a run of all players does to one of them is a run of that player's plugin: it takes its own actions in their order, and
is handed messages between them. -/
theorem run_player (i : ι) (w : World ι) :
    ∃ es' : List (ProcessEvent (players.session i)),
      es'.filterMap ProcessEvent.action = es.filterMap (WorldEvent.ownOf players i) ∧
        (plugin (players.session i)).run (w.plugins i) es' =
          (((multiplayer players).run w es).1.plugins i, outputsOf i ((multiplayer players).run w es).2) := by
  refine (multiplayer players).run_induction (P := fun es w' out => ∃ es' : List (ProcessEvent (players.session i)),
    es'.filterMap ProcessEvent.action = es.filterMap (WorldEvent.ownOf players i) ∧
      (plugin (players.session i)).run (w.plugins i) es' = (w'.plugins i, outputsOf i out)) ⟨[], rfl, rfl⟩ ?_ es
  rintro es w' out e ⟨es', hown, hrun⟩
  obtain ⟨o, haction, hstep⟩ := player_event players i w' e
  refine ⟨es' ++ o.toList, ?_, ?_⟩
  · rw [List.filterMap_append, hown, Machine.filterMap_concat, ← haction]
    cases o with
    | none => rfl
    | some e' => cases e' <;> rfl
  · rw [outputsOf_append]
    cases o with
    | none =>
      obtain ⟨hplugin, houtputs⟩ := Prod.mk.inj hstep
      rw [Option.toList_none, List.append_nil, hrun, hplugin, houtputs, List.append_nil]
    | some e' =>
      obtain ⟨hplugin, houtputs⟩ := Prod.ext_iff.mp hstep
      rw [Option.toList_some, Machine.run_concat, hrun]
      exact Prod.ext hplugin.symm (congrArg (outputsOf i out ++ ·) houtputs.symm)

/-! ## Between two players -/

/-- In every run in which whoever is handed a message listens: what one player has handled from another one, then what waits there
among the tasks, then what is under way, is what that one has posted, each message once and in order. -/
theorem posted_conserved (hes : (multiplayer players).Along (Listens players) (World.loaded proxies actors) es) :
    let r := (multiplayer players).run (World.loaded proxies actors) es
    ∀ i j, i ≠ j →
      handledFrom players i j r.2 ++ waitingFrom players i j r.1 ++ r.1.links.queue i j = posted i r.2 :=
  fun _ _ hij => (List.append_assoc _ _ _).trans (handled_eq_posted hij proxies actors es hes)

/-- In every run, whoever listens or joins late: what one player has handled from another one, then what waits there, then what is
under way, is in order among what the other one has posted. Nothing is forged, doubled or overtaken. -/
theorem handled_sublist (es : List (WorldEvent players)) {i j : ι} (hij : i ≠ j) :
    let r := (multiplayer players).run (World.loaded proxies actors) es
    (handledFrom players i j r.2 ++ waitingFrom players i j r.1 ++ r.1.links.queue i j).Sublist (posted i r.2) := by
  have h := handled_sublist_from (w := World.loaded proxies actors) hij es
  rw [pendingFrom, ← List.append_assoc] at h
  exact h

/-- After any run whatsoever, and from then on whoever is handed a message listens: what one player handles from another one, then
what waits there, then what is under way, is what was waiting and under way before and what the other one posts, each message once
and in order. -/
theorem posted_since (before : List (WorldEvent players)) {i j : ι} (hij : i ≠ j)
    (hes : (multiplayer players).Along (Listens players) ((multiplayer players).run (World.loaded proxies actors) before).1 es) :
    let w := ((multiplayer players).run (World.loaded proxies actors) before).1
    let r := (multiplayer players).run w es
    handledFrom players i j r.2 ++ waitingFrom players i j r.1 ++ r.1.links.queue i j =
      waitingFrom players i j w ++ w.links.queue i j ++ posted i r.2 := by
  have h := handled_from hij (noEmpty_run players proxies actors before) es hes
  rw [pendingFrom, ← List.append_assoc] at h
  exact h

/-- In every run, what one player has handled from another one is in order among what the other one has posted. -/
theorem deliveries_sublist (i j : ι) (hij : i ≠ j) :
    let r := (multiplayer players).run (World.loaded proxies actors) es
    ((deliveriesFrom (players.connection i) (outputsOf j r.2)).map fun d => d.payload).Sublist (posted i r.2) := by
  have h := handled_sublist_from (w := World.loaded proxies actors) hij es
  rw [handledFrom, fromConnection_handledMessages] at h
  exact (List.sublist_append_left _ _).trans h

/-- Where whoever is handed a message listens, what one player has handled from another one are the first messages that the other one
has posted, in order. -/
theorem deliveries_prefix (i j : ι) (hij : i ≠ j)
    (hes : (multiplayer players).Along (Listens players) (World.loaded proxies actors) es) :
    let r := (multiplayer players).run (World.loaded proxies actors) es
    (deliveriesFrom (players.connection i) (outputsOf j r.2)).map (fun d => d.payload) <+: posted i r.2 := by
  have hposted := handled_eq_posted hij proxies actors es hes
  dsimp only at hposted
  rw [handledFrom, fromConnection_handledMessages] at hposted
  exact ⟨_, hposted⟩

/-- In every run in which a proxy stands for one player throughout, and has 3D at first: what is passed to `Apply` for it, and the calls
of DAV's script for it, are those of the valid messages handled from that player, which are in order among those that the player
has posted, and the first of them where whoever is handed a message listens. No message of anyone else leads to one. -/
theorem proxy_isolated (i j : ι) (proxy : TESForm) (hij : i ≠ j) (hshown : (actors j proxy.formID).object3D ≠ .null)
    (hes : (multiplayer players).Along (StandsFor players i j proxy) (World.loaded proxies actors) es) :
    let r := (multiplayer players).run (World.loaded proxies actors) es
    let handled := deliveriesFrom (players.connection i) (outputsOf j r.2)
    (handled.map fun d => d.payload).Sublist (posted i r.2) ∧
      ((multiplayer players).Along (Listens players) (World.loaded proxies actors) es →
        handled.map (fun d => d.payload) <+: posted i r.2) ∧
      passedAt j proxy r.2 = validStates (players.session j) handled ∧
      ((r.1.plugins j).actors proxy.formID).papyrusCalls =
        (actors j proxy.formID).papyrusCalls ++ validCalls (players.session j) handled := by
  have hpassed := passed_player players proxies actors i j proxy es (hes.mono fun _ _ _ h => h.maps)
  have hcalls := calls_player players proxies actors i j proxy hshown es hes
  rw [handledFrom, fromConnection_handledMessages] at hpassed
  refine ⟨deliveries_sublist players proxies actors es i j hij, deliveries_prefix players proxies actors es i j hij,
    hpassed.trans ?_, hcalls.2⟩
  rw [List.filterMap_map]
  rfl

/-- In every run in which a proxy stands for one player throughout: the nodes of the proxy keep their names and places, and each one
that renders an armor has the flag that the last valid message about that armor set which was handled from that player and which DAV
did not take, or the flag it had. The handled messages are in order among those that the player has posted, and the first of them
where whoever is handed a message listens. -/
theorem proxy_flags (i j : ι) (proxy : TESForm) (hij : i ≠ j)
    (hes : (multiplayer players).Along (StandsFor players i j proxy) (World.loaded proxies actors) es) :
    let r := (multiplayer players).run (World.loaded proxies actors) es
    let handled := deliveriesFrom (players.connection i) (outputsOf j r.2)
    (handled.map fun d => d.payload).Sublist (posted i r.2) ∧
      ((multiplayer players).Along (Listens players) (World.loaded proxies actors) es →
        handled.map (fun d => d.payload) <+: posted i r.2) ∧
      ((r.1.plugins j).actors proxy.formID).object3D =
        (actors j proxy.formID).object3D.mapFlags
          (DAVRemoteApplier.flagAfter (players.session j) (applyCalls (players.session j) handled)) := by
  have hactor := actor_player players proxies actors i j proxy es hes
  refine ⟨deliveries_sublist players proxies actors es i j hij, deliveries_prefix players proxies actors es i j hij, ?_⟩
  rw [← DAVRemoteApplier.run_applier_object3D]
  exact congrArg ProxyActor.object3D hactor

/-! ## What a player is shown of another one -/

/-- The messages that a player has handled from another one are those of some calls of that one that the module took, in order. -/
theorem handledFrom_calls (i j : ι) (hij : i ≠ j) :
    let r := (multiplayer players).run (World.loaded proxies actors) es
    ∃ calls : List SendCall, calls.Sublist (sentCalls (outputsOf i r.2)) ∧
      handledFrom players i j r.2 = (calls.filter SendCall.sentOk).map fun call => call.payload := by
  have h := deliveries_sublist players proxies actors es i j hij
  dsimp only at h ⊢
  rw [← fromConnection_handledMessages, posted_eq_calls] at h
  obtain ⟨calls, hcalls, hhandled⟩ := List.sublist_map_iff.mp h
  refine ⟨calls, hcalls.trans List.filter_sublist, ?_⟩
  rw [List.filter_eq_self.mpr fun call hcall => (List.mem_filter.mp (hcalls.subset hcall)).2]
  exact hhandled

/-- Of an armor, messages that are in order among others tell what some first ones of the others do. -/
theorem exists_prefix_of_sublist {ms all : List StateMessage} (h : ms.Sublist all) (k : Bytes) :
    ∃ first, first <+: all ∧ (delivered ms).lookup k = (delivered first).lookup k := by
  rw [lookup_delivered]
  change ∃ first, _ ∧ ((about k ms).getLast?).bind _ = _
  cases hlast : (about k ms).getLast? with
  | none => exact ⟨[], List.nil_prefix, rfl⟩
  | some m =>
    obtain ⟨hmem, hkey⟩ := List.mem_filter.mp (List.mem_of_getLast? hlast)
    -- The prefix ends with this last message about the armor.
    obtain ⟨before, after, rfl⟩ := List.append_of_mem (h.subset hmem)
    refine ⟨before ++ [m], ⟨after, by simp⟩, ?_⟩
    have habout : about k [m] = [m] := by simp [about, of_decide_eq_true hkey]
    rw [lookup_delivered_append, habout]
    rfl

/-- At any moment of a run in which a proxy is that of one player, and no game is loaded there while a variant is tracked for the
armor: what is shown over the proxy for the armor, every message about which was taken by the module and is valid, is what that
player tracked at some moment of the run before. -/
theorem view_was_tracked (i j : ι) (proxy : TESForm) (hij : i ≠ j) (k : Bytes)
    (hmaps : (multiplayer players).Along (MapsProxy players i j proxy) (World.loaded proxies actors) es)
    (hloads : (multiplayer players).Along (LoadsUntracked players i k) (World.loaded proxies actors) es)
    (hcalls : ∀ call ∈ sentCalls (outputsOf i ((multiplayer players).run (World.loaded proxies actors) es).2),
      call.stableKey = k → call.sentOk = true ∧ call.validIn (players.session j) = true) :
    ∃ n ≤ es.length,
      (view (passedAt j proxy ((multiplayer players).run (World.loaded proxies actors) es).2)).lookup k =
        (((multiplayer players).run (World.loaded proxies actors)
          (es.take n)).1.plugins i).probe.networkTrackedVariants.lookup k := by
  obtain ⟨calls, hsublist, hhandled⟩ := handledFrom_calls players proxies actors es i j hij
  have htold : (messages calls).Sublist (told i ((multiplayer players).run (World.loaded proxies actors) es).2) := hsublist.map _
  obtain ⟨first, hfirst, hlookup⟩ := exists_prefix_of_sublist htold k
  rw [passed_player players proxies actors i j proxy es hmaps, hhandled,
    lookup_view (players.session j) calls k fun call hlast => ?_]
  · rw [hlookup]
    exact told_prefix players proxies actors i k es hloads hfirst
  · have hmem := List.mem_filter.mp (List.mem_of_getLast? hlast)
    exact hcalls call (hsublist.subset hmem.1) (by simpa using hmem.2)

/-- A player has handled everything that another one posted. -/
structure CaughtUp (i j : ι) (w : World ι) : Prop where
  links : w.links.queue i j = []
  tasks : waitingFrom players i j w = []

/-- Where whoever is handed a message listens, and a proxy is that of one player, once everything that the player posted has been
handled: what is shown over the proxy for an armor, of which the last message was taken by the module and is valid, is what the
player has told. -/
theorem lookup_view_caughtUp (i j : ι) (proxy : TESForm) (hij : i ≠ j)
    (hlistens : (multiplayer players).Along (Listens players) (World.loaded proxies actors) es)
    (hmaps : (multiplayer players).Along (MapsProxy players i j proxy) (World.loaded proxies actors) es)
    (hcaught : CaughtUp players i j ((multiplayer players).run (World.loaded proxies actors) es).1) (k : Bytes)
    (hlast : ∀ call, ((sentCalls (outputsOf i ((multiplayer players).run (World.loaded proxies actors) es).2)).filter
        fun call => call.stableKey = k).getLast? = some call →
      call.sentOk = true ∧ call.validIn (players.session j) = true) :
    (view (passedAt j proxy ((multiplayer players).run (World.loaded proxies actors) es).2)).lookup k =
      (delivered (told i ((multiplayer players).run (World.loaded proxies actors) es).2)).lookup k := by
  have hposted := handled_eq_posted hij proxies actors es hlistens
  dsimp only at hposted
  rw [posted_eq_calls, hcaught.tasks, hcaught.links, List.append_nil, List.append_nil] at hposted
  rw [passed_player players proxies actors i j proxy es hmaps, hposted, lookup_view _ _ k hlast]
  rfl

end

/-! ## The hidden helmet -/

namespace Swap

/-- Whoever is handed a message listens there. -/
theorem along_listens : (multiplayer players).Along (Listens players) world shown :=
  ⟨trivial, trivial, trivial, trivial, trivial, trivial, trivial, ⟨rfl, by decide⟩, ⟨rfl, by decide⟩, trivial, trivial, trivial⟩

/-- The proxy is that of the player who wears the helmet. -/
theorem along_maps (j : Seat) (hj : j ≠ .wearer) :
    (multiplayer players).Along (MapsProxy players .wearer j Proxy.form) world shown :=
  ⟨trivial, trivial, trivial, trivial, trivial, trivial, fun h => absurd h.symm hj, trivial, trivial,
    by rintro rfl; exact maps_mapping (by rfl), by rintro rfl; exact maps_mapping (by rfl), trivial⟩

/-- No game is loaded there. -/
theorem along_loads (k : Bytes) : (multiplayer players).Along (LoadsUntracked players .wearer k) world shown := by
  have hload : ¬(SKSEMessage.dataLoaded = .preLoadGame ∨ SKSEMessage.dataLoaded = .postLoadGame) := by decide
  exact ⟨nofun, nofun, fun _ h => absurd h hload, trivial, trivial, trivial, trivial, trivial, trivial, trivial, trivial, trivial⟩

theorem along_keeps : (multiplayer players).Along (KeepsMapping players .left) world shown :=
  ⟨trivial, trivial, trivial, trivial, trivial, trivial, trivial, trivial, trivial, trivial, trivial, trivial⟩

/-- The proxy at one of the others stands for that player throughout. -/
theorem along_standsFor : (multiplayer players).Along (StandsFor players .wearer .left Proxy.form) world shown :=
  ((along_maps .left nofun).and along_keeps).mono fun _ _ _ h => ⟨h.1, h.2⟩

/-- The one call of the player who wears the helmet. -/
theorem sentCalls_shown : sentCalls (outputsOf .wearer ((multiplayer players).run world shown).2) = [call] := by
  decide

theorem call_valid : call.sentOk = true ∧ call.validIn session = true := by
  refine ⟨by decide, ?_⟩
  exact (validMessage_encode_isSome (by decide) (by decide)).mpr (by decide)

/-- The helmet is sent; the left player has loaded nothing when the message arrives there, the right one has. -/
def late : List (WorldEvent players) :=
  ticked.map (fun e => .own Seat.wearer e) ++ [.arrive .wearer .left true, .own .right (.skse .dataLoaded module root)]

end Swap

theorem posted_conserved_helmet :
    let r := (multiplayer Swap.players).run Swap.world Swap.shown
    ∀ i j, i ≠ j →
      handledFrom Swap.players i j r.2 ++ waitingFrom Swap.players i j r.1 ++ r.1.links.queue i j = posted i r.2 :=
  posted_conserved Swap.players _ _ Swap.shown Swap.along_listens

/-- The left player, who has loaded nothing, handles nothing of the helmet. -/
theorem handled_sublist_helmet :
    let r := (multiplayer Swap.players).run (World.loaded (fun _ => Swap.mapping) (fun _ => Proxy.mapped.actors)) Swap.late
    (handledFrom Swap.players .wearer .left r.2 ++ waitingFrom Swap.players .wearer .left r.1 ++
      r.1.links.queue .wearer .left).Sublist (posted .wearer r.2) :=
  handled_sublist Swap.players _ _ Swap.late (by decide : Swap.Seat.wearer ≠ .left)

/-- The right player handles it. -/
theorem posted_since_helmet :
    let w := ((multiplayer Swap.players).run (World.loaded (fun _ => Swap.mapping) (fun _ => Proxy.mapped.actors)) Swap.late).1
    let r := (multiplayer Swap.players).run w [.arrive .wearer .right true, .own .right (.runTask Swap.meets)]
    handledFrom Swap.players .wearer .right r.2 ++ waitingFrom Swap.players .wearer .right r.1 ++ r.1.links.queue .wearer .right =
      waitingFrom Swap.players .wearer .right w ++ w.links.queue .wearer .right ++ posted .wearer r.2 := by
  have hes : (multiplayer Swap.players).Along (Listens Swap.players)
      ((multiplayer Swap.players).run (World.loaded (fun _ => Swap.mapping) (fun _ => Proxy.mapped.actors)) Swap.late).1
      [.arrive .wearer .right true, .own .right (.runTask Swap.meets)] := ⟨⟨rfl, by decide⟩, trivial, trivial⟩
  exact posted_since Swap.players _ _ _ Swap.late (by decide : Swap.Seat.wearer ≠ .right) hes

theorem proxy_isolated_helmet :
    let r := (multiplayer Swap.players).run (World.loaded (fun _ => Swap.mapping) (fun _ => Proxy.mapped.actors)) Swap.shown
    let handled := deliveriesFrom (Swap.players.connection .wearer) (outputsOf .left r.2)
    handled.map (fun d => d.payload) <+: posted .wearer r.2 ∧
      passedAt .left Proxy.form r.2 = validStates Swap.session handled ∧
      ((r.1.plugins .left).actors Proxy.form.formID).papyrusCalls =
        (Proxy.mapped.actors Proxy.form.formID).papyrusCalls ++ validCalls Swap.session handled := by
  have hthere : (Proxy.mapped.actors Proxy.form.formID).object3D ≠ .null := nofun
  obtain ⟨-, hfirst, hproxy⟩ := proxy_isolated Swap.players (fun _ => Swap.mapping) (fun _ => Proxy.mapped.actors) Swap.shown
    .wearer .left Proxy.form nofun hthere Swap.along_standsFor
  exact ⟨hfirst Swap.along_listens, hproxy⟩

theorem proxy_flags_helmet :
    let r := (multiplayer Swap.players).run (World.loaded (fun _ => Swap.mapping) (fun _ => Proxy.mapped.actors)) Swap.shown
    let handled := deliveriesFrom (Swap.players.connection .wearer) (outputsOf .left r.2)
    handled.map (fun d => d.payload) <+: posted .wearer r.2 ∧
      ((r.1.plugins .left).actors Proxy.form.formID).object3D =
        (Proxy.mapped.actors Proxy.form.formID).object3D.mapFlags
          (DAVRemoteApplier.flagAfter Swap.session (applyCalls Swap.session handled)) := by
  obtain ⟨-, hfirst, hflags⟩ := proxy_flags Swap.players (fun _ => Swap.mapping) (fun _ => Proxy.mapped.actors) Swap.shown
    .wearer .left Proxy.form nofun Swap.along_standsFor
  exact ⟨hfirst Swap.along_listens, hflags⟩

theorem view_was_tracked_helmet :
    ∃ n ≤ Swap.shown.length,
      (view (passedAt .left Proxy.form ((multiplayer Swap.players).run Swap.world Swap.shown).2)).lookup Helmet.hidden.stableKey =
        (((multiplayer Swap.players).run Swap.world
          (Swap.shown.take n)).1.plugins .wearer).probe.networkTrackedVariants.lookup Helmet.hidden.stableKey := by
  refine view_was_tracked Swap.players _ _ Swap.shown .wearer .left Proxy.form nofun _
    (Swap.along_maps .left nofun) (Swap.along_loads _) ?_
  intro call hcall _
  have hmem : call ∈ [Swap.call] := Swap.sentCalls_shown ▸ hcall
  rw [List.mem_singleton.mp hmem]
  exact Swap.call_valid

end DAVSyncTogether
