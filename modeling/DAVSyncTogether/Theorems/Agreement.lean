import DAVSyncTogether.Lemmas.OrderedPlayers
import DAVSyncTogether.Theorems.Process

/-!
# Players agree

Two players who have handled everything that a third one posted are shown the same of that one, whatever their load orders and
whatever came in between, for every armor of which the last message reached the module and tells of files that both have; and it is
what the third one tracks, where no game was loaded there in between (`caught_up_agree`).
-/

namespace DAVSyncTogether

open ByteString DAVProbe

section

variable {ι : Type} [DecidableEq ι] (players : Players ι) (proxies : ι → ProxyResolver) (actors : ι → FormID → ProxyActor)
  (es : List (WorldEvent players))

/-- The calls of a player are about armors that were captured in that player's game, and hand over what is told. -/
theorem captures_of_sent (i : ι) {call : SendCall}
    (hcall : call ∈ sentCalls (outputsOf i ((multiplayer players).run (World.loaded proxies actors) es).2)) :
    (players.session i).Captures call.armor ∧ (call.sentOk = true → call.armor.armor.isStable = true) := by
  obtain ⟨es', -, hrun⟩ := run_player players es i (World.loaded proxies actors)
  have hcovered := covered_run (players.session i) (proxies i) (actors i) es' call (by
    change call ∈ sentCalls ((plugin (players.session i)).run ((World.loaded proxies actors).plugins i) es').2
    rw [hrun]
    exact hcall)
  obtain ⟨hcaptures, index, service, -, -, htx⟩ := hcovered
  refine ⟨hcaptures, fun hok => ?_⟩
  obtain ⟨x, hx, -⟩ := (Option.any_eq_true _ _).mp hok
  rw [hx] at htx
  exact (sendArmorState_eq_some htx.symm).1

/-- In every run, a message that the module took from a player and that lists addons of files only is valid in every game that
provides the files of the player's game. There `Apply` is given the same state and variant, of the armor and the addons that bear
the same names, with the runtime IDs that they have there. -/
theorem accepted_everywhere (i : ι) (s : Session) (hprovides : s.Provides (players.session i)) (call : SendCall)
    (hcall : call ∈ sentCalls (outputsOf i ((multiplayer players).run (World.loaded proxies actors) es).2))
    (hok : call.sentOk = true) (hlisted : ∀ addon ∈ listedAddons call.armor call.unequipped, (players.session i).NamesAddon addon) :
    ∃ state, validMessage s call.payload = some state ∧ call.ReceivedAs s state := by
  obtain ⟨hcaptures, hstable⟩ := captures_of_sent players proxies actors es i hcall
  exact receivedAs_of_validIn (validIn_of_captures hprovides (players.lawful i) hcaptures (hstable hok) hlisted)

/-- Where whoever is handed a message listens, two players, each with a proxy that is that of a third one, and no one else's, who have
handled everything that one posted, in games that provide the files of that one's game. For an armor of which the last message was
taken by the module, and lists addons of files only, both are shown the same, and what the third one tracks, where no game was
loaded there while a variant was tracked for the armor. -/
theorem caught_up_agree (i j j' : ι) (proxy proxy' : TESForm) (hij : i ≠ j) (hij' : i ≠ j')
    (hprovides : (players.session j).Provides (players.session i)) (hprovides' : (players.session j').Provides (players.session i))
    (hlistens : (multiplayer players).Along (Listens players) (World.loaded proxies actors) es)
    (hmaps : (multiplayer players).Along (MapsProxy players i j proxy) (World.loaded proxies actors) es)
    (hmaps' : (multiplayer players).Along (MapsProxy players i j' proxy') (World.loaded proxies actors) es)
    (hcaught : CaughtUp players i j ((multiplayer players).run (World.loaded proxies actors) es).1)
    (hcaught' : CaughtUp players i j' ((multiplayer players).run (World.loaded proxies actors) es).1) (k : Bytes)
    (hlast : ∀ call, ((sentCalls (outputsOf i ((multiplayer players).run (World.loaded proxies actors) es).2)).filter
        fun call => call.stableKey = k).getLast? = some call →
      call.sentOk = true ∧ ∀ addon ∈ listedAddons call.armor call.unequipped, (players.session i).NamesAddon addon) :
    let r := (multiplayer players).run (World.loaded proxies actors) es
    (view (passedAt j proxy r.2)).lookup k = (view (passedAt j' proxy' r.2)).lookup k ∧
      ((multiplayer players).Along (LoadsUntracked players i k) (World.loaded proxies actors) es →
        (view (passedAt j proxy r.2)).lookup k = (r.1.plugins i).probe.networkTrackedVariants.lookup k) := by
  have hvalid : ∀ s : Session, s.Provides (players.session i) → ∀ call,
      ((sentCalls (outputsOf i ((multiplayer players).run (World.loaded proxies actors) es).2)).filter
        fun call => call.stableKey = k).getLast? = some call → call.sentOk = true ∧ call.validIn s = true := by
    intro s hs call hcall
    obtain ⟨hok, hlisted⟩ := hlast call hcall
    have hmem := (List.mem_filter.mp (List.mem_of_getLast? hcall)).1
    obtain ⟨hcaptures, hstable⟩ := captures_of_sent players proxies actors es i hmem
    exact ⟨hok, validIn_of_captures hs (players.lawful i) hcaptures (hstable hok) hlisted⟩
  have hleft := lookup_view_caughtUp players proxies actors es i j proxy hij hlistens hmaps hcaught k (hvalid _ hprovides)
  have hright := lookup_view_caughtUp players proxies actors es i j' proxy' hij' hlistens hmaps' hcaught' k (hvalid _ hprovides')
  exact ⟨hleft.trans hright.symm,
    fun hloads => hleft.trans (mirror_player players proxies actors i k es hloads).delivered⟩

end

/-! ## The hidden helmet and the replaced hood, in two load orders -/

/-- The message about the hood, which lists the addon of the lowered hood, is valid in the other load order. -/
theorem accepted_everywhere_hood :
    let call := SwappedFiles.callFor SwappedFiles.hood (ascii "HoodDown")
    ∃ state, validMessage SwappedFiles.session₂ call.payload = some state ∧ call.ReceivedAs SwappedFiles.session₂ state := by
  have hcall : SwappedFiles.callFor SwappedFiles.hood (ascii "HoodDown") ∈
      sentCalls (outputsOf .wearer ((multiplayer SwappedFiles.players).run SwappedFiles.world SwappedFiles.shown).2) := by
    rw [SwappedFiles.sentCalls_shown]
    exact List.mem_cons_of_mem _ List.mem_cons_self
  obtain ⟨hok, hlisted⟩ := SwappedFiles.listedAddons_shown _ hcall
  exact accepted_everywhere SwappedFiles.players _ _ SwappedFiles.shown .wearer SwappedFiles.session₂
    (SwappedFiles.provides .right) _ hcall hok hlisted

/-- The left player, in the load order of the wearer, and the right one, in the other, are shown the same of the hood. -/
theorem caught_up_agree_hood :
    let r := (multiplayer SwappedFiles.players).run SwappedFiles.world SwappedFiles.shown
    let k := (SwappedFiles.callFor SwappedFiles.hood (ascii "HoodDown")).stableKey
    (view (passedAt .left SwappedFiles.proxy r.2)).lookup k = (view (passedAt .right SwappedFiles.proxy r.2)).lookup k ∧
      (view (passedAt .left SwappedFiles.proxy r.2)).lookup k =
        (r.1.plugins .wearer).probe.networkTrackedVariants.lookup k := by
  obtain ⟨hsame, htracked⟩ := caught_up_agree SwappedFiles.players _ _ SwappedFiles.shown .wearer .left .right SwappedFiles.proxy
    SwappedFiles.proxy nofun nofun (SwappedFiles.provides .left) (SwappedFiles.provides .right)
    SwappedFiles.along_listens (SwappedFiles.along_maps .left nofun) (SwappedFiles.along_maps .right nofun)
    ⟨by decide, by decide⟩ ⟨by decide, by decide⟩ (SwappedFiles.callFor SwappedFiles.hood (ascii "HoodDown")).stableKey
    fun call hcall => SwappedFiles.listedAddons_shown call (List.mem_filter.mp (List.mem_of_getLast? hcall)).1
  exact ⟨hsame, htracked (SwappedFiles.along_loads _)⟩

/-- It is the variant with the lowered hood. -/
example : (((multiplayer SwappedFiles.players).run SwappedFiles.world SwappedFiles.shown).1.plugins
      .wearer).probe.networkTrackedVariants.lookup (SwappedFiles.callFor SwappedFiles.hood (ascii "HoodDown")).stableKey =
    some (ascii "HoodDown") := by
  decide

end DAVSyncTogether
