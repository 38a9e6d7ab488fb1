import DAVSyncTogether.Lemmas.Proxies
import DAVSyncTogether.Lemmas.Started

/-!
# One player among the others

Whatever the others do, a player's plugin takes an action of its own, is handed a message, or stands still (`player_cases`). From
this, what holds of a run at one player: its tracked variants mirror its calls (`mirror_player`, `mirror_since`), and what is passed
to `Apply` for the proxy of another one are the valid messages handled from that one (`passed_player`).
-/

namespace DAVSyncTogether

open DAVProbe

/-! ## The probe of a player -/

namespace DAVProbe

section

variable {s : Session} (hs : s.Lawful) (index : DAVConfigIndex)

include hs

/-- A look is a processed tick, or nothing at all. -/
theorem liveProbe_cases (p : State) (l : Look s) :
    ((liveProbe s index).step p l = (p, [])) ∨
      ∃ t : Tick, (liveProbe s index).step p l = processSnapshot s index t.toSurroundings p t.snapshot := by
  rw [step_liveProbe hs]
  cases l.tick hs with
  | none => exact Or.inl rfl
  | some t =>
    change (gatedSnapshot s index t.toSurroundings p t.snapshot = (p, [])) ∨
      ∃ t' : Tick, gatedSnapshot s index t.toSurroundings p t.snapshot = processSnapshot s index t'.toSurroundings p t'.snapshot
    unfold gatedSnapshot
    split
    · exact Or.inr ⟨t, rfl⟩
    · exact Or.inl rfl

variable {k : Bytes} {p : State} {ms : List StateMessage}

/-- A look keeps the mirror of an armor. -/
theorem MirrorAt.look (h : MirrorAt k p ms) (l : Look s) :
    MirrorAt k ((liveProbe s index).step p l).1 (ms ++ messages ((liveProbe s index).step p l).2) := by
  rcases liveProbe_cases hs index p l with hnothing | ⟨t, ht⟩
  · rw [hnothing]
    exact (List.append_nil ms).symm ▸ h
  · rw [ht]
    exact h.process s index t.toSurroundings t.distinct

/-- A look sends at most one message about an armor. -/
theorem MirrorAt.about_look (h : MirrorAt k p ms) (l : Look s) :
    ∃ o : Option StateMessage, about k (messages ((liveProbe s index).step p l).2) = o.toList := by
  rcases liveProbe_cases hs index p l with hnothing | ⟨t, ht⟩
  · exact ⟨none, by rw [hnothing]; rfl⟩
  · obtain ⟨i, j, -, -, hmessage⟩ := processSnapshot_key s index t.toSurroundings p t.snapshot h.distinct t.distinct k
    exact ⟨_, by rw [ht, hmessage]⟩

end

end DAVProbe

section

variable {ι : Type} [DecidableEq ι] (players : Players ι)

/-! ## What an event does to one player -/

/-- The action of one player's plugin, if the event is one. -/
def WorldEvent.ownOf (i : ι) : WorldEvent players → Option (PluginEvent (players.session i))
  | .own a e => if h : a = i then some (h ▸ e) else none
  | .arrive .. => none

/-- Everything that an event can do to one player, and what the player is seen to do. -/
inductive PlayerCase (i : ι) (w : World ι) : WorldEvent players → Plugin → List PluginOutput → Prop where
  | own (e : PluginEvent (players.session i)) :
      PlayerCase i w (.own i e) ((w.plugins i).step (players.session i) e).1 ((w.plugins i).step (players.session i) e).2
  | handed (a : ι) (message : ReceivedMessage) (taskInterface : Bool) :
      PlayerCase i w (.arrive a i taskInterface) ((w.plugins i).listen message taskInterface) []
  | apart (e : WorldEvent players) (hown : e.ownOf players i = none) : PlayerCase i w e (w.plugins i) []

theorem player_cases (i : ι) (w : World ι) (e : WorldEvent players) :
    PlayerCase players i w e (((multiplayer players).step w e).1.plugins i)
      (outputsOf i ((multiplayer players).step w e).2) := by
  cases e with
  | own a e =>
    change PlayerCase players i w _ (Function.update w.plugins a _ i) (outputsOf i (List.map (WorldOutput.mk a) _))
    by_cases ha : a = i
    · subst ha
      rw [Function.update_self, outputsOf_self]
      exact .own e
    · rw [Function.update_of_ne (Ne.symm ha), outputsOf_other ha]
      exact .apart _ (by simp [WorldEvent.ownOf, ha])
  | arrive a b taskInterface =>
    change PlayerCase players i w _ ((w.arrive players a b taskInterface).plugins i) []
    unfold World.arrive
    cases (w.links.queue a b).head? with
    | none => exact .apart _ rfl
    | some payload =>
      dsimp only
      by_cases hb : b = i
      · subst hb
        rw [Function.update_self]
        exact .handed a _ taskInterface
      · rw [Function.update_of_ne (Ne.symm hb)]
        exact .apart _ rfl

theorem listen_probe (p : Plugin) (message : ReceivedMessage) (taskInterface : Bool) :
    (p.listen message taskInterface).probe = p.probe := by
  unfold Plugin.listen
  split
  · exact (Plugin.onMessage_frame p message taskInterface).2.2.2
  · rfl

/-! ## The sender -/

/-- No game is loaded at the player while a variant is tracked there for the armor. -/
def LoadsUntracked (i : ι) (k : Bytes) (w : World ι) : WorldEvent players → Prop
  | .own a (.skse message _ _) =>
    a = i → message = .preLoadGame ∨ message = .postLoadGame → (w.plugins i).probe.networkTrackedVariants.lookup k = none
  | _ => True

/-- The messages that the calls of a player tell. -/
def told (i : ι) (out : List (WorldOutput ι)) : List StateMessage := messages (sentCalls (outputsOf i out))

theorem told_append (i : ι) (out new : List (WorldOutput ι)) : told i (out ++ new) = told i out ++ told i new := by
  rw [told, outputsOf_append, sentCalls_append, messages_append]
  rfl

/-- What an event does to the probe of a player, and what the player tells by it. -/
inductive ProbeCase (i : ι) (w : World ι) : WorldEvent players → State → List StateMessage → Prop where
  | kept (e : WorldEvent players) : ProbeCase i w e (w.plugins i).probe []
  | reset (message : SKSEMessage) (module : STRPMModule) (root : Option (List DirectoryEntry))
      (hmessage : message = .preLoadGame ∨ message = .postLoadGame) :
      ProbeCase i w (.own i (.skse message module root)) (reset (w.plugins i).probe) []
  | look (e : WorldEvent players) (index : DAVConfigIndex) (l : Look (players.session i)) :
      ProbeCase i w e ((liveProbe (players.session i) index).step (w.plugins i).probe l).1
        (messages ((liveProbe (players.session i) index).step (w.plugins i).probe l).2)

theorem probe_cases (i : ι) (w : World ι) (e : WorldEvent players) :
    ProbeCase players i w e (((multiplayer players).step w e).1.plugins i).probe (told i ((multiplayer players).step w e).2) := by
  have hc := player_cases players i w e
  unfold told
  generalize ((multiplayer players).step w e).1.plugins i = p' at hc ⊢
  generalize outputsOf i ((multiplayer players).step w e).2 = out at hc ⊢
  cases hc with
  | apart e hown => exact .kept e
  | handed a message taskInterface =>
    rw [listen_probe]
    exact .kept _
  | own e =>
    have hp := Plugin.probe_cases (w.plugins i) e
    generalize ((w.plugins i).step (players.session i) e).1.probe = probe at hp ⊢
    generalize sentCalls ((w.plugins i).step (players.session i) e).2 = calls at hp ⊢
    cases hp with
    | kept e => exact .kept _
    | reset message module root hmessage => exact .reset message module root hmessage
    | look meets hrunning => exact .look _ _ _

variable {players} in
/-- An event that loads no game at a player who tracks a variant for an armor keeps the mirror of the armor. -/
theorem mirror_step {i : ι} {k : Bytes} {w : World ι} {e : WorldEvent players} {ms : List StateMessage}
    (h : MirrorAt k (w.plugins i).probe ms) (he : LoadsUntracked players i k w e) :
    MirrorAt k (((multiplayer players).step w e).1.plugins i).probe (ms ++ told i ((multiplayer players).step w e).2) ∧
      ∃ o : Option StateMessage, about k (told i ((multiplayer players).step w e).2) = o.toList := by
  have hc := probe_cases players i w e
  generalize (((multiplayer players).step w e).1.plugins i).probe = p' at hc ⊢
  generalize told i ((multiplayer players).step w e).2 = new at hc ⊢
  cases hc with
  | kept e => exact ⟨(List.append_nil ms).symm ▸ h, none, rfl⟩
  | reset message module root hmessage => exact ⟨(List.append_nil ms).symm ▸ h.reset (he rfl hmessage), none, rfl⟩
  | look e index l => exact ⟨h.look (players.lawful i) index l, h.about_look (players.lawful i) index l⟩

variable (proxies : ι → ProxyResolver) (actors : ι → FormID → ProxyActor)

/-- The tracked variant of an armor mirrors the calls, in every run in which no game is loaded while it is tracked. -/
theorem mirror_player (i : ι) (k : Bytes) (es : List (WorldEvent players))
    (hes : (multiplayer players).Along (LoadsUntracked players i k) (World.loaded proxies actors) es) :
    MirrorAt k (((multiplayer players).run (World.loaded proxies actors) es).1.plugins i).probe
      (told i ((multiplayer players).run (World.loaded proxies actors) es).2) := by
  refine (multiplayer players).run_induction_along (C := LoadsUntracked players i k)
    (P := fun _ w out => MirrorAt k (w.plugins i).probe (told i out)) (mirror_empty.armors k) ?_ es hes
  intro _ w out e he h
  rw [told_append]
  exact (mirror_step h he).1

/-- In every run, the tracked variants of a player mirror what was told since the last load of a game. -/
theorem mirror_since (i : ι) (es : List (WorldEvent players)) :
    ∃ before since, told i ((multiplayer players).run (World.loaded proxies actors) es).2 = before ++ since ∧
      ∀ k, MirrorAt k (((multiplayer players).run (World.loaded proxies actors) es).1.plugins i).probe since := by
  refine (multiplayer players).run_induction
    (P := fun _ w out => ∃ before since, told i out = before ++ since ∧ ∀ k, MirrorAt k (w.plugins i).probe since)
    ⟨[], [], rfl, mirror_empty.armors⟩ ?_ es
  rintro _ w out e ⟨before, since, htold, h⟩
  rw [told_append, htold]
  have hc := probe_cases players i w e
  generalize (((multiplayer players).step w e).1.plugins i).probe = p' at hc ⊢
  generalize told i ((multiplayer players).step w e).2 = new at hc ⊢
  cases hc with
  | kept e => exact ⟨before, since, List.append_nil _, h⟩
  | reset message module root hmessage => exact ⟨before ++ since, [], rfl, mirror_empty.armors⟩
  | look e index l =>
    exact ⟨before, since ++ _, List.append_assoc _ _ _, fun k => (h k).look (players.lawful i) index l⟩

/-- In every run, what a player tracks for an armor is what the calls have told. -/
theorem delivered_of_tracked (i : ι) (es : List (WorldEvent players)) {k v : Bytes}
    (h : (((multiplayer players).run (World.loaded proxies actors) es).1.plugins i).probe.networkTrackedVariants.lookup k =
      some v) : (delivered (told i ((multiplayer players).run (World.loaded proxies actors) es).2)).lookup k = some v := by
  obtain ⟨before, since, htold, hm⟩ := mirror_since players proxies actors i es
  have hsince := (hm k).delivered.trans h
  rw [htold, lookup_delivered_append]
  rw [lookup_delivered] at hsince
  change ((about k since).getLast?).bind _ = _ at hsince
  obtain ⟨m, hm, hv⟩ := Option.bind_eq_some_iff.mp hsince
  rw [hm]
  exact hv

/-- Whatever a player has told up to some message, it tracked for each armor at some moment: the messages of one tick are about
different armors. -/
theorem told_prefix (i : ι) (k : Bytes) (es : List (WorldEvent players))
    (hes : (multiplayer players).Along (LoadsUntracked players i k) (World.loaded proxies actors) es) {ms : List StateMessage}
    (hms : ms <+: told i ((multiplayer players).run (World.loaded proxies actors) es).2) :
    ∃ n ≤ es.length, (delivered ms).lookup k =
      (((multiplayer players).run (World.loaded proxies actors) (es.take n)).1.plugins i).probe.networkTrackedVariants.lookup k := by
  induction es using List.reverseRecOn with
  | nil =>
    obtain rfl : ms = [] := List.prefix_nil.mp hms
    exact ⟨0, le_refl 0, rfl⟩
  | append_singleton es e ih =>
    obtain ⟨hbefore, he⟩ := (Machine.along_concat _ _ _ _ _).mp hes
    have hm := mirror_player players proxies actors i k es hbefore
    obtain ⟨hm', o, ho⟩ := mirror_step hm he
    have hearlier : ∀ n ≤ es.length, (es ++ [e]).take n = es.take n := fun n hn => List.take_append_of_le_length hn
    rw [Machine.run_concat, told_append] at hms
    rcases List.prefix_or_prefix_of_prefix hms (List.prefix_append _ _) with hold | ⟨new, rfl⟩
    · obtain ⟨n, hn, hlookup⟩ := ih hbefore hold
      exact ⟨n, by simp; omega, by rw [hearlier n hn]; exact hlookup⟩
    · rw [List.prefix_append_right_inj] at hms
      have hnew : about k new <+: o.toList := ho ▸ hms.filter _
      cases hlast : about k new with
      | nil =>
        refine ⟨es.length, by simp, ?_⟩
        rw [hearlier _ (le_refl _), List.take_length, lookup_delivered_append, hlast]
        exact hm.delivered
      | cons m ms =>
        -- The one message about the armor is among those that were told.
        have hsame : about k new = o.toList := by
          rw [hlast] at hnew ⊢
          cases o with
          | none => cases List.prefix_nil.mp hnew
          | some m' => exact hnew.eq_of_length_le (by simp)
        refine ⟨(es ++ [e]).length, le_refl _, ?_⟩
        rw [List.take_length, Machine.run_concat, lookup_delivered_append, hsame, ← ho, ← lookup_delivered_append]
        exact hm'.delivered

/-! ## The receiver -/

/-- When a player runs a task, the proxy is that of the other player, and no one else's. -/
def MapsProxy (i j : ι) (proxy : TESForm) (w : World ι) : WorldEvent players → Prop
  | .own a (.runTask _) => a = j → (w.plugins j).receiver.Maps (players.session j) (players.connection i) proxy
  | _ => True

/-- The mapping of a player, with the actors, does not change. -/
def KeepsMapping (j : ι) (_ : World ι) : WorldEvent players → Prop
  | .own a (.mapping _ _) => a ≠ j
  | _ => True

/-- The proxy stands for one player at another one, and for no one else, and its mapping stays. -/
structure StandsFor (i j : ι) (proxy : TESForm) (w : World ι) (e : WorldEvent players) : Prop where
  maps : MapsProxy players i j proxy w e
  keeps : KeepsMapping players j w e

theorem listen_actors (p : Plugin) (message : ReceivedMessage) (taskInterface : Bool) :
    (p.listen message taskInterface).actors = p.actors := by
  unfold Plugin.listen Plugin.onMessage
  split
  · split <;> rfl
  · rfl

/-- While the mapping stays, the proxy of a player is what a run of `Apply` makes of it over the valid messages that were handled
from that player, in their order. -/
theorem actor_player (i j : ι) (proxy : TESForm) (es : List (WorldEvent players))
    (hes : (multiplayer players).Along (StandsFor players i j proxy) (World.loaded proxies actors) es) :
    let r := (multiplayer players).run (World.loaded proxies actors) es
    (r.1.plugins j).actors proxy.formID =
      ((DAVRemoteApplier.applier (players.session j)).run (actors j proxy.formID)
        (applyCalls (players.session j) (deliveriesFrom (players.connection i) (outputsOf j r.2)))).1 := by
  refine (multiplayer players).run_induction_along (C := StandsFor players i j proxy)
    (P := fun _ w out => (w.plugins j).actors proxy.formID =
      ((DAVRemoteApplier.applier (players.session j)).run (actors j proxy.formID)
        (applyCalls (players.session j) (deliveriesFrom (players.connection i) (outputsOf j out)))).1)
    rfl ?_ es hes
  rintro _ w out e ⟨hmaps, hkeeps⟩ h
  rw [outputsOf_append, deliveriesFrom_append, applyCalls_append, Machine.run_append, ← h]
  have hc := player_cases players j w e
  generalize ((multiplayer players).step w e).1.plugins j = p' at hc ⊢
  generalize outputsOf j ((multiplayer players).step w e).2 = new at hc ⊢
  cases hc with
  | apart e hown => rfl
  | handed a message taskInterface => exact congrFun (listen_actors _ _ _) _
  | own e =>
    by_cases htask : ∃ meets, e = .runTask meets
    · obtain ⟨meets, rfl⟩ := htask
      exact actor_runTask (players.lawful j) (hmaps rfl) meets
    · rw [nothing_handled fun meets hmeets => htask ⟨meets, hmeets⟩]
      refine congrFun (actors_kept (fun meets hmeets => htask ⟨meets, hmeets⟩) fun newProxies newActors hmapping => ?_) _
      subst hmapping
      exact hkeeps rfl

/-- While the mapping stays: the proxy of a player is still shown, and DAV's script has been called for it as the valid messages say
that were handled from that player, in their order, and not otherwise. -/
theorem calls_player (i j : ι) (proxy : TESForm) (hshown : (actors j proxy.formID).object3D ≠ .null)
    (es : List (WorldEvent players))
    (hes : (multiplayer players).Along (StandsFor players i j proxy) (World.loaded proxies actors) es) :
    let r := (multiplayer players).run (World.loaded proxies actors) es
    ((r.1.plugins j).actors proxy.formID).object3D ≠ .null ∧
      ((r.1.plugins j).actors proxy.formID).papyrusCalls = (actors j proxy.formID).papyrusCalls ++
        validCalls (players.session j) (deliveriesFrom (players.connection i) (outputsOf j r.2)) := by
  have hactor := actor_player players proxies actors i j proxy es hes
  dsimp only at hactor ⊢
  rw [hactor, ← papyrusCalls_applyCalls]
  exact DAVRemoteApplier.run_applier_papyrusCalls (players.session j) hshown _

/-- The states passed to `Apply` at a player for a proxy. -/
def passedAt (j : ι) (proxy : TESForm) (out : List (WorldOutput ι)) : List RemoteArmorState :=
  passedTo proxy (rxStates (outputsOf j out))

/-- What a player is shown of another one, when the handled messages are those of some calls that the module took: for an
armor, what the calls tell, if the module took the last one about it and the player finds it valid. -/
theorem lookup_view (s : Session) (calls : List SendCall) (k : Bytes)
    (hlast : ∀ call, (calls.filter (fun call => call.stableKey = k)).getLast? = some call →
      call.sentOk = true ∧ call.validIn s = true) :
    (view ((((calls.filter SendCall.sentOk).map fun call => call.payload)).filterMap (validMessage s))).lookup k =
      (delivered (messages calls)).lookup k := by
  have hpayloads : ((calls.filter SendCall.sentOk).map fun call => call.payload) =
      (messages (calls.filter SendCall.sentOk)).map StateMessage.payload := by
    rw [messages, List.map_map]
    rfl
  have htest : ((messages (calls.filter SendCall.sentOk)).filter (StateMessage.validIn s)).map StateMessage.update =
      (calls.filter fun call => call.sentOk && call.validIn s).map fun call => call.update := by
    rw [messages, List.filter_map, List.map_map, List.filter_filter]
    simp only [Bool.and_comm]
    rfl
  rw [hpayloads, view, map_update_valid, htest, delivered, messages, List.map_map]
  refine Update.lookup_replay_filter (fun call : SendCall => call.update) calls _ k fun call hcall => ?_
  simp only [StateMessage.key_update] at hcall
  rw [(hlast call hcall).1, (hlast call hcall).2]
  rfl

/-- What is passed on for the proxy of a player are the valid messages handled from that player, in order. -/
theorem passed_player (i j : ι) (proxy : TESForm) (es : List (WorldEvent players))
    (hes : (multiplayer players).Along (MapsProxy players i j proxy) (World.loaded proxies actors) es) :
    passedAt j proxy ((multiplayer players).run (World.loaded proxies actors) es).2 =
      (handledFrom players i j ((multiplayer players).run (World.loaded proxies actors) es).2).filterMap
        (validMessage (players.session j)) := by
  refine (multiplayer players).run_induction_along (C := MapsProxy players i j proxy)
    (P := fun _ _ out => passedAt j proxy out = (handledFrom players i j out).filterMap (validMessage (players.session j))) rfl
    ?_ es hes
  intro _ w out e he h
  have hc := player_cases players j w e
  unfold passedAt handledFrom at h ⊢
  rw [outputsOf_append, rxStates_append, passedTo_append, handledMessages_append, fromConnection_append, List.filterMap_append, h]
  congr 1
  generalize ((multiplayer players).step w e).1.plugins j = p' at hc
  generalize outputsOf j ((multiplayer players).step w e).2 = new at hc ⊢
  cases hc with
  | apart e hown => rfl
  | handed a message taskInterface => rfl
  | own e =>
    by_cases htask : ∃ meets, e = .runTask meets
    · obtain ⟨meets, rfl⟩ := htask
      exact passed_runTask (he rfl) meets
    · rw [nothing_handled fun meets hmeets => htask ⟨meets, hmeets⟩]
      rfl

end

end DAVSyncTogether
