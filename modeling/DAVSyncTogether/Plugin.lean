import DAVSyncTogether.Messaging
import DAVSyncTogether.NetworkReceiver
import DAVSyncTogether.Lemmas.Capturing
import DAVSyncTogether.Lib.SingleFlight

/-!
# The plugin in its process

The plugin is started by the messages of SKSE. From then on a thread of its own asks every half second for a tick, and the
messaging module hands it the messages of the other players; both only queue a task, and the game thread runs the tasks one
after another, in the order in which they were queued. `plugin` takes one atomic action after another, in any order.

A call of `QueueProbe` is three actions, and the thread of the probe and the game's own may be in one at the same time. A task
runs as a whole: nothing else touches what it reads and writes.
-/

namespace DAVSyncTogether

open DAVProbe

/-- The messages of SKSE that `OnSKSEMessage` tells apart. -/
inductive SKSEMessage where
  | postPostLoad | dataLoaded | preLoadGame | postLoadGame | other
  deriving DecidableEq, Repr

/-- A task that waits for the game thread. -/
inductive Task where
  | tick
  | receive (message : ReceivedMessage)
  deriving DecidableEq

/-- The threads that call `QueueProbe`: that of the probe, and the one that SKSE's messages arrive on. -/
inductive Caller where
  | probeThread | mainThread
  deriving DecidableEq, Repr

/-- The plugin: the members of its singletons, the tasks that wait, the calls of `QueueProbe` under way, and what it is given
of the game, the answers of the proxy resolver and the actors. -/
structure Plugin where
  index : DAVConfigIndex := {}
  service : ServiceState := {}
  running : Bool := false
  tickQueued : Bool := false
  probe : DAVProbe.State := {}
  calls : Caller → SingleFlight.Call := fun _ => .idle
  tasks : List Task := []
  proxies : ProxyResolver := fun _ => (.targetNotFound, kInvalidProxyFormID)
  actors : FormID → ProxyActor

/-- What a task meets when it runs: the readings of the clock, the answers of the API, DAV, the player as in a `Look`, and the
Papyrus machine. -/
structure TaskMeets (s : Session) where
  clock : Nat → Int
  answer : Nat → Bytes → STRPMResult
  davLoaded : Bool
  player : Option PlayerCharacter
  loaded : ∀ p ∈ player, ∀ a ∈ p.worn, s.Loaded (.armo a)
  nodup : ∀ p ∈ player, p.worn.Nodup
  vm : VirtualMachine

/-- One atomic action of the plugin. -/
inductive PluginEvent (s : Session) where
  | skse (message : SKSEMessage) (module : STRPMModule) (root : Option (List DirectoryEntry))
  | queueProbe (caller : Caller) (taskInterface : Bool)
  | runTask (meets : TaskMeets s)
  | mapping (proxies : ProxyResolver) (actors : FormID → ProxyActor)

/-- What the plugin does that can be seen from outside: a call of `SendArmorState`, or a message that was handled. -/
inductive PluginOutput where
  | sent (call : SendCall)
  | handled (delivery : Delivery) (rx : Option RxState)

/-- The look at the player that a tick takes. -/
def TaskMeets.look {s : Session} (meets : TaskMeets s) (service : ServiceState) : Look s where
  clock := meets.clock
  network n := service.call (meets.answer n)
  davLoaded := meets.davLoaded
  player := meets.player
  loaded := meets.loaded
  nodup := meets.nodup

namespace Plugin

/-- The plugin as SKSE loads it. -/
def loaded (proxies : ProxyResolver) (actors : FormID → ProxyActor) : Plugin := { proxies, actors }

/-- What `HandleReceivedMessageOnGameThread` sees: the resolver, when the service has one, and the actors. -/
def receiver (p : Plugin) : Receiver where
  resolver := if p.service.resolver then some p.proxies else none
  actors := p.actors

/-- `EnsureSTRPM`. -/
def ensureSTRPM (p : Plugin) (module : STRPMModule) : Plugin :=
  if p.service.running then p else { p with service := (p.service.start module).1 }

/-- `OnSKSEMessage`, but for the call of `QueueProbe` that follows `kPostLoadGame`. -/
def onSKSEMessage (s : Session) (p : Plugin) (module : STRPMModule) (root : Option (List DirectoryEntry)) : SKSEMessage → Plugin
  | .postPostLoad => p.ensureSTRPM module
  | .dataLoaded => { p.ensureSTRPM module with index := load s root, running := true }
  | .preLoadGame => { p with probe := DAVProbe.reset p.probe }
  | .postLoadGame => { p.ensureSTRPM module with probe := DAVProbe.reset p.probe }
  | .other => p

/-- The next action of a call of `DAVProbe::QueueProbe`: it reads `_running`, exchanges `_tickQueued`, and adds the task, or
takes the flag back when there is no task interface. -/
def queueProbe (p : Plugin) (caller : Caller) (taskInterface : Bool) : Plugin :=
  match p.calls caller with
  | .idle => if !p.running then p else { p with calls := Function.update p.calls caller .admitted }
  | .admitted =>
    { p with tickQueued := true, calls := Function.update p.calls caller (if p.tickQueued then .idle else .claimed) }
  | .claimed =>
    let p := { p with calls := Function.update p.calls caller .idle }
    if !taskInterface then { p with tickQueued := false } else { p with tasks := p.tasks ++ [.tick] }

/-- `DAVNetworkService::OnMessage` and `QueueReceivedMessage`: an empty message is dropped, and every message when there is no
task interface. -/
def onMessage (p : Plugin) (message : ReceivedMessage) (taskInterface : Bool) : Plugin :=
  if message.payload.isEmpty || !taskInterface then p else { p with tasks := p.tasks ++ [.receive message] }

/-- The game thread runs the first task. -/
def runTask (s : Session) (p : Plugin) (meets : TaskMeets s) : Plugin × List PluginOutput :=
  match p.tasks with
  | [] => (p, [])
  | .tick :: tasks =>
    let p := { p with tasks, tickQueued := false }
    if !p.running then (p, [])
    else
      let look := meets.look p.service
      let r := tickOnGameThread s p.index look.toSurroundings p.probe look.davLoaded look.player
      ({ p with probe := r.1 }, r.2.map .sent)
  | .receive message :: tasks =>
    let x := handleReceivedMessageOnGameThread s meets.vm p.receiver message
    ({ p with tasks, actors := x.1.actors }, [.handled { message with vm := meets.vm } x.2])

def step (s : Session) (p : Plugin) : PluginEvent s → Plugin × List PluginOutput
  | .skse message module root => (p.onSKSEMessage s module root message, [])
  | .queueProbe caller taskInterface => (p.queueProbe caller taskInterface, [])
  | .runTask meets => p.runTask s meets
  | .mapping proxies actors => ({ p with proxies, actors }, [])

end Plugin

/-- What happens to the plugin: an action of its own, or the messaging module calls back. -/
inductive ProcessEvent (s : Session) where
  | own (e : PluginEvent s)
  | message (message : ReceivedMessage) (taskInterface : Bool)

/-- The plugin over its actions and the messages it is handed. -/
def plugin (s : Session) : Machine Plugin (ProcessEvent s) PluginOutput :=
  ⟨fun p e =>
    match e with
    | .own e => p.step s e
    | .message message taskInterface => (p.onMessage message taskInterface, [])⟩

end DAVSyncTogether
