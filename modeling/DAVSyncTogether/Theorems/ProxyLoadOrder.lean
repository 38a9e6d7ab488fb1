import DAVSyncTogether.Lemmas.RenamedApplying
import DAVSyncTogether.Theorems.Agreement

/-!
# What a proxy shows does not depend on the load order

Two players see a third one over proxies, each in a game of the same forms, in two load orders: forms of the third one's game are
found under other runtime IDs. Whatever the interleaving and
whoever else plays: once both have handled as much of what the third one posted, and their Papyrus machines have answered alike,
the proxies show the same node by node, and DAV was called alike for them (`proxies_agree`).
-/

namespace DAVSyncTogether

open ByteString DAVProbe

section

variable {ι : Type} [DecidableEq ι] (players : Players ι) (proxies : ι → ProxyResolver) (actors : ι → FormID → ProxyActor)
  (es : List (WorldEvent players))

/-- What a player has handled from another one names forms of that one's game. -/
theorem named_of_handled (i j : ι) (hij : i ≠ j) (receiver : Session) :
    ∀ d ∈ deliveriesFrom (players.connection i) (outputsOf j ((multiplayer players).run (World.loaded proxies actors) es).2),
      ∀ r, decodeArmorState receiver d.payload = some r → r.Named (players.session i).NamesForm := by
  intro d hd r hr
  have hposted := (deliveries_sublist players proxies actors es i j hij).subset (List.mem_map.mpr ⟨d, hd, rfl⟩)
  rw [posted_eq_calls] at hposted
  obtain ⟨call, hcall, hpayload⟩ := List.mem_map.mp hposted
  obtain ⟨hcaptures, -⟩ := captures_of_sent players proxies actors es i (List.mem_filter.mp hcall).1
  rw [← hpayload] at hr
  exact named_of_captures (players.lawful i) hcaptures hr

/-- In every run in which whoever is handed a message listens, and a proxy stands for one player at two others, in whose games the
names of that player's forms find the same forms under other runtime IDs: if the two proxies are alike at first, and both have
handled as many messages of that player, met by Papyrus machines that answered alike one by one, the two proxies are alike. Their
nodes have the same flags one by one, and DAV's script was called for them with the same variants and for corresponding armors, in
one order. -/
theorem proxies_agree (i j j' : ι) (proxy proxy' : TESForm) (hij : i ≠ j) (hij' : i ≠ j') {ρ : FormID → FormID}
    (hρ : Renaming ρ (players.session i).NamesForm (players.session j) (players.session j'))
    (hzero : (players.session j).lookupByID 0 = none) (hzero' : (players.session j').lookupByID 0 = none)
    (halike : (actors j proxy.formID).Alike ρ (actors j' proxy'.formID))
    (hlistens : (multiplayer players).Along (Listens players) (World.loaded proxies actors) es)
    (hes : (multiplayer players).Along (StandsFor players i j proxy) (World.loaded proxies actors) es)
    (hes' : (multiplayer players).Along (StandsFor players i j' proxy') (World.loaded proxies actors) es)
    (hvm : (deliveriesFrom (players.connection i) (outputsOf j
        ((multiplayer players).run (World.loaded proxies actors) es).2)).map Delivery.vm =
      (deliveriesFrom (players.connection i) (outputsOf j'
        ((multiplayer players).run (World.loaded proxies actors) es).2)).map Delivery.vm) :
    let r := (multiplayer players).run (World.loaded proxies actors) es
    ((r.1.plugins j).actors proxy.formID).Alike ρ ((r.1.plugins j').actors proxy'.formID) := by
  have hfirst := deliveries_prefix players proxies actors es i j hij hlistens
  have hfirst' := deliveries_prefix players proxies actors es i j' hij' hlistens
  have hactor := actor_player players proxies actors i j proxy es hes
  have hactor' := actor_player players proxies actors i j' proxy' es hes'
  have hnamed := named_of_handled players proxies actors es i j hij (players.session j)
  dsimp only at hfirst hfirst' hactor hactor' ⊢
  -- Both have handled the first messages that the player posted, and as many of them.
  have hlength := congrArg List.length hvm
  rw [List.length_map, List.length_map] at hlength
  have hpayloads := (List.prefix_of_prefix_length_le hfirst hfirst' (by simp [hlength])).eq_of_length (by simp [hlength])
  rw [hactor, hactor']
  exact hρ.run_applier hzero hzero' halike (hρ.applyCalls hpayloads hvm hnamed)

end

/-! ## The hidden helmet and the replaced hood, in two load orders -/

/-- The proxies at the left and the right player, each with a node for the helmet and one for the hood, have handled both
messages. -/
theorem proxies_agree_hood :
    let r := (multiplayer SwappedFiles.players).run SwappedFiles.world SwappedFiles.shown
    ((r.1.plugins .left).actors SwappedFiles.proxy.formID).Alike SwappedFiles.swap
      ((r.1.plugins .right).actors SwappedFiles.proxy.formID) := by
  have halike : (SwappedFiles.actors .left SwappedFiles.proxy.formID).Alike SwappedFiles.swap
      (SwappedFiles.actors .right SwappedFiles.proxy.formID) :=
    ⟨.node (by decide) false (.cons (.geometry (by decide) false) (.cons (.geometry (by decide) false) .nil)), rfl⟩
  have hρ : Renaming SwappedFiles.swap SwappedFiles.session₁.NamesForm SwappedFiles.session₁ SwappedFiles.session₂ :=
    SwappedFiles.laidOut₁.renaming SwappedFiles.laidOut₂ SwappedFiles.swap_injective fun _ _ => Or.inl
  exact proxies_agree SwappedFiles.players (fun _ => SwappedFiles.mapping) SwappedFiles.actors SwappedFiles.shown .wearer .left
    .right SwappedFiles.proxy SwappedFiles.proxy nofun nofun hρ (by decide) (by decide) halike
    SwappedFiles.along_listens (SwappedFiles.along_standsFor .left nofun) (SwappedFiles.along_standsFor .right nofun) (by decide)

end DAVSyncTogether
