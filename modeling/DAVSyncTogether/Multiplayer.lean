import DAVSyncTogether.Plugin
import DAVSyncTogether.Lib.Links

/-!
# Players of one game

Every player runs the plugin in a game of their own. What a plugin sends is addressed to all players, reliable and ordered, and
without the flag that would return it to its sender: the messaging module puts it on a link to every other player, and hands the
oldest message of a link to the listener of its receiver, with the connection of the sender. A receiver without a listener is
handed nothing. `multiplayer` takes the actions of the plugins and of the module, one after another in any order.
-/

namespace DAVSyncTogether

/-- The players: the game that each one has loaded, and the connection that the others know each one by. -/
structure Players (ι : Type) where
  session : ι → Session
  connection : ι → ConnectionID
  lawful : ∀ i, (session i).Lawful
  distinct : Function.Injective connection

/-- The plugins, and the messages under way. -/
structure World (ι : Type) where
  plugins : ι → Plugin
  links : Links ι Bytes

/-- The messages that the module took. -/
def PluginOutput.posted : PluginOutput → Option Bytes
  | .sent call => call.transmission.bind fun x => if x.result = .ok then some x.payload else none
  | .handled .. => none

section

variable {ι : Type}

/-- One action: of a player's plugin, or of the module, that hands a message from one player to another. -/
inductive WorldEvent (players : Players ι) where
  | own (i : ι) (e : PluginEvent (players.session i))
  | arrive (i j : ι) (taskInterface : Bool)

/-- What a player's plugin does that can be seen from outside. -/
structure WorldOutput (ι : Type) where
  player : ι
  output : PluginOutput

variable [DecidableEq ι] (players : Players ι)

/-- The module hands a message to the listener of the plugin, if it has registered one. -/
def Plugin.listen (p : Plugin) (message : ReceivedMessage) (taskInterface : Bool) : Plugin :=
  if p.service.running then p.onMessage message taskInterface else p

namespace World

variable (w : World ι)

/-- The action of a plugin; what it sends is put on the links. -/
def act (i : ι) (e : PluginEvent (players.session i)) : World ι × List (WorldOutput ι) :=
  let x := (w.plugins i).step (players.session i) e
  ({ plugins := Function.update w.plugins i x.1, links := w.links.broadcast i (x.2.filterMap PluginOutput.posted) },
    x.2.map fun output => { player := i, output })

/-- The oldest message of a link arrives. -/
def arrive (i j : ι) (taskInterface : Bool) : World ι :=
  match (w.links.queue i j).head? with
  | none => w
  | some payload =>
    { plugins := Function.update w.plugins j ((w.plugins j).listen ⟨payload, players.connection i⟩ taskInterface)
      links := w.links.pop i j }

/-- The players before anybody has loaded anything. -/
def loaded (proxies : ι → ProxyResolver) (actors : ι → FormID → ProxyActor) : World ι where
  plugins i := Plugin.loaded (proxies i) (actors i)
  links := ⟨fun _ _ => []⟩

end World

/-- The players over the actions of all. -/
def multiplayer : Machine (World ι) (WorldEvent players) (WorldOutput ι) :=
  ⟨fun w e =>
    match e with
    | .own i e => w.act players i e
    | .arrive i j taskInterface => (w.arrive players i j taskInterface, [])⟩

end

end DAVSyncTogether
