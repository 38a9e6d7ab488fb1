import DAVSyncTogether.Lemmas.SwappedFiles
import DAVSyncTogether.Lemmas.Providing
import DAVSyncTogether.Theorems.Multiplayer

/-!
# Three players in two load orders

The player who wears the boots, the helmet and the hood plays with two others, one in the same load order and one in the other. The
hidden helmet and the replaced hood are sent, and both others handle the messages.
-/

namespace DAVSyncTogether

open ByteString DAVProbe

namespace SwappedFiles

open Swap (Seat)

/-- The right player's game has the other load order. -/
def players : Players Seat where
  session
    | .right => session₂
    | _ => session₁
  connection := Seat.connection
  lawful
    | .wearer => laidOut₁.lawful
    | .left => laidOut₁.lawful
    | .right => laidOut₂.lawful
  distinct := Swap.players.distinct

/-- A task that meets the player, an API that sends everything, and a Papyrus machine that takes every call. -/
def meets : TaskMeets session₁ where
  clock _ := 0
  answer _ _ := .ok
  davLoaded := true
  player := some player₁
  loaded := by
    rintro _ ⟨⟩
    exact playersAlike.loaded₁
  nodup := by
    rintro _ ⟨⟩
    rw [worn₁]
    decide
  vm := Proxy.dispatching

/-- The data is loaded, the thread of the probe queues a tick, and the tick runs. -/
def ticked : List (PluginEvent session₁) :=
  .skse .dataLoaded Swap.module root :: List.replicate 3 (.queueProbe .probeThread true) ++ [.runTask meets]

/-- The proxy of the player who wears the armors; it has one runtime ID in both games. -/
def mapping : ProxyResolver := fun c => if c = 1 then (.ok, proxy.formID) else (.targetNotFound, kInvalidProxyFormID)

/-- A proxy with a node for the helmet and one for the hood. -/
def actorWith (helmetNode hoodNode : Bytes) : ProxyActor where
  object3D := .node (ascii "Skeleton") false [.geometry helmetNode false, .geometry hoodNode false]

/-- The proxies, whose nodes are named after the runtime IDs of their games. -/
def actors : Seat → FormID → ProxyActor
  | .right => fun _ =>
    actorWith (ascii "Addon (06000801) [0]/Helmet (06000800) [0]") (ascii "Addon (05000801) [0]/Hood (05000800) [0]")
  | _ => fun _ =>
    actorWith (ascii "Addon (05000801) [0]/Helmet (05000800) [0]") (ascii "Addon (06000801) [0]/Hood (06000800) [0]")

/-- The three players before anybody has loaded anything. -/
def world : World Seat := World.loaded (fun _ => mapping) actors

/-- The others load their data, the armors are sent, and both others handle the two messages. -/
def shown : List (WorldEvent players) :=
  [.own .left (.skse .dataLoaded Swap.module root), .own .right (.skse .dataLoaded Swap.module root)] ++
    ticked.map (fun e => .own Seat.wearer e) ++
    [.arrive .wearer .left true, .arrive .wearer .left true, .arrive .wearer .right true, .arrive .wearer .right true,
      .own .left (.runTask (.nobody session₁)), .own .left (.runTask (.nobody session₁)),
      .own .right (.runTask (.nobody session₂)), .own .right (.runTask (.nobody session₂))]

/-- What is sent about an armor of the player. -/
def callFor (armor : TESObjectARMO) (variant : Bytes) : SendCall where
  armor := captureArmor session₁ (visitArmorNodes player₁.object3D ∅) armor
  variant := variant
  unequipped := false
  transmission := some {
    payload := encodeArmorState (captureArmor session₁ (visitArmorNodes player₁.object3D ∅) armor) variant false
    result := .ok }

theorem sentCalls_shown : sentCalls (outputsOf .wearer ((multiplayer players).run world shown).2) =
    [callFor helmet (ascii "HideHelmet"), callFor hood (ascii "HoodDown")] := by
  decide

/-- The only addon that the messages list is that of the lowered hood. -/
theorem listedAddons_shown : ∀ call ∈ sentCalls (outputsOf .wearer ((multiplayer players).run world shown).2),
    call.sentOk = true ∧ ∀ addon ∈ listedAddons call.armor call.unequipped, session₁.NamesAddon addon := by
  have hlisted : ∀ call ∈ [callFor helmet (ascii "HideHelmet"), callFor hood (ascii "HoodDown")], call.sentOk = true ∧
      ∀ addon ∈ listedAddons call.armor call.unequipped, addon = makeFormIdentity lowered.toTESForm := by decide
  intro call hcall
  rw [sentCalls_shown] at hcall
  obtain ⟨hok, hlisted⟩ := hlisted call hcall
  exact ⟨hok, fun addon haddon => ⟨lowered, (laidOut₁.loaded_iff _).mpr (by simp [forms]), nofun, hlisted addon haddon⟩⟩

/-- Both games find the forms of the wearer's. -/
theorem provides (j : Seat) : (players.session j).Provides session₁ := by
  cases j with
  | right => exact (laidOut₁.renaming laidOut₂ swap_injective fun _ _ => Or.inl).provides laidOut₁.findsForms
  | wearer => exact laidOut₁.findsForms.provides
  | left => exact laidOut₁.findsForms.provides

theorem maps_mapping {r : Receiver} {j : Seat} (h : r.resolver = some mapping) : r.Maps (players.session j) 1 proxy := by
  have hresolve : ∀ c, r.resolve c = mapping c := fun c => by rw [Receiver.resolve, h]
  refine maps_of_resolve ?_ fun c hc => by rw [hresolve, mapping, if_neg hc]
  rw [Receiver.proxyActor, hresolve]
  cases j <;> decide

/-- Whoever is handed a message listens there. -/
theorem along_listens : (multiplayer players).Along (Listens players) world shown :=
  ⟨trivial, trivial, trivial, trivial, trivial, trivial, trivial, ⟨rfl, by decide⟩, ⟨rfl, by decide⟩, ⟨rfl, by decide⟩,
    ⟨rfl, by decide⟩, trivial, trivial, trivial, trivial, trivial⟩

/-- The proxy is that of the player who wears the armors. -/
theorem along_maps (j : Seat) (hj : j ≠ .wearer) :
    (multiplayer players).Along (MapsProxy players .wearer j proxy) world shown :=
  ⟨trivial, trivial, trivial, trivial, trivial, trivial, fun h => absurd h.symm hj, trivial, trivial, trivial, trivial,
    by rintro rfl; exact maps_mapping (by rfl), by rintro rfl; exact maps_mapping (by rfl),
    by rintro rfl; exact maps_mapping (by rfl), by rintro rfl; exact maps_mapping (by rfl), trivial⟩

/-- No game is loaded there. -/
theorem along_loads (k : Bytes) : (multiplayer players).Along (LoadsUntracked players .wearer k) world shown := by
  have hload : ¬(SKSEMessage.dataLoaded = .preLoadGame ∨ SKSEMessage.dataLoaded = .postLoadGame) := by decide
  exact ⟨nofun, nofun, fun _ h => absurd h hload, trivial, trivial, trivial, trivial, trivial, trivial, trivial, trivial, trivial,
    trivial, trivial, trivial, trivial⟩

theorem along_keeps (j : Seat) : (multiplayer players).Along (KeepsMapping players j) world shown :=
  ⟨trivial, trivial, trivial, trivial, trivial, trivial, trivial, trivial, trivial, trivial, trivial, trivial, trivial, trivial,
    trivial, trivial⟩

/-- The proxy stands for that player at both others throughout. -/
theorem along_standsFor (j : Seat) (hj : j ≠ .wearer) :
    (multiplayer players).Along (StandsFor players .wearer j proxy) world shown :=
  ((along_maps j hj).and (along_keeps j)).mono fun _ _ _ h => ⟨h.1, h.2⟩

end SwappedFiles

end DAVSyncTogether
