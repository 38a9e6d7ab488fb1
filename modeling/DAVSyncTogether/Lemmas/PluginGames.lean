import DAVSyncTogether.Lemmas.Interleaving
import DAVSyncTogether.Theorems.ActiveVariants

/-!
# Plugins to run

A plugin in the game of the two helmets, whose player wears one of them hidden, and the events that take it to its first tick;
and that player with two others, who are sent the hidden helmet.
-/

namespace DAVSyncTogether

open ByteString DAVProbe

/-- What a task meets while there is no player. -/
def TaskMeets.nobody (s : Session) : TaskMeets s where
  clock _ := 0
  answer _ _ := .ok
  davLoaded := false
  player := none
  loaded := nofun
  nodup := nofun
  vm := Proxy.dispatching

namespace Swap

/-- A module that hands out both interfaces and takes the channel. -/
def module : STRPMModule where
  queryInterface := some { result := .ok, version := some kInterfaceVersion }
  queryProxyResolver := some { result := .ok, version := some kProxyResolverVersion }
  registerChannel := (.ok, 1)

/-- The player wears the helmet, and nothing is rendered for it. -/
def player : PlayerCharacter where
  object3D := .node (ascii "Skeleton") false []
  name := some (ascii "Player")
  inventory := [{ item := some (.armo Helmet.armorForm), count := 1, worn := some true }]

theorem player_worn : player.worn = [Helmet.armorForm] := rfl

/-- A task that meets the player, an API that sends everything, and a Papyrus machine that takes every call. -/
def meets : TaskMeets session where
  clock _ := 0
  answer _ _ := .ok
  davLoaded := true
  player := some player
  loaded := by
    rintro _ ⟨⟩ a ha
    rw [player_worn, List.mem_singleton] at ha
    subst ha
    exact (listsForms.loaded_iff _).mpr (by simp [forms])
  nodup := by
    rintro _ ⟨⟩
    exact List.nodup_singleton _
  vm := Proxy.dispatching

/-- The data is loaded, and the thread of the probe queues a tick. -/
def started : List (PluginEvent session) :=
  .skse .dataLoaded module root :: List.replicate 3 (.queueProbe .probeThread true)

/-- The first tick runs. -/
def ticked : List (PluginEvent session) := started ++ [.runTask meets]

/-- The hidden helmet is sent. -/
def call : SendCall :=
  { message (captureArmor session (visitArmorNodes player.object3D ∅) Helmet.armorForm) false with
    transmission := some {
      payload := encodeArmorState Helmet.hidden (ascii "HideHelmet") false
      result := .ok } }

/-- The player who wears the helmet, and two others. -/
inductive Seat where
  | wearer | left | right
  deriving DecidableEq

def Seat.connection : Seat → ConnectionID
  | .wearer => 1
  | .left => 2
  | .right => 3

def players : Players Seat where
  session _ := session
  connection := Seat.connection
  lawful _ := lawful
  distinct i j h := by cases i <;> cases j <;> first | rfl | exact absurd h (by decide)

/-- The proxy of the player who wears the helmet. -/
def mapping : ProxyResolver := fun c => if c = 1 then (.ok, Proxy.form.formID) else (.targetNotFound, kInvalidProxyFormID)

/-- The three players before anybody has loaded anything. -/
def world : World Seat := World.loaded (fun _ => mapping) (fun _ => Proxy.mapped.actors)

/-- The others load their data, the helmet is sent, and both are handed the message. -/
def sending : List (WorldEvent players) :=
  [.own .left (.skse .dataLoaded module root), .own .right (.skse .dataLoaded module root)] ++ ticked.map (fun e => .own Seat.wearer e) ++
    [.arrive .wearer .left true, .arrive .wearer .right true]

/-- Both handle it. -/
def shown : List (WorldEvent players) := sending ++ [.own .left (.runTask meets), .own .right (.runTask meets)]

theorem maps_mapping {r : Receiver} (h : r.resolver = some mapping) : r.Maps session 1 Proxy.form := by
  have hresolve : ∀ c, r.resolve c = mapping c := fun c => by rw [Receiver.resolve, h]
  refine maps_of_resolve ?_ fun c hc => by rw [hresolve, mapping, if_neg hc]
  rw [Receiver.proxyActor, hresolve]
  decide

end Swap

end DAVSyncTogether
