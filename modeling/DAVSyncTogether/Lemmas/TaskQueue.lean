import DAVSyncTogether.Plugin
import Mathlib.Data.List.Count

/-!
# The tasks of the plugin

`QueueProbe` is the protocol of `SingleFlight` on `_tickQueued` (`flight_step`). The messages among the tasks are handled in
the order in which they arrived (`waiting_step`), and what a step emits is a tick's calls or one handled message
(`runTask_cases`).
-/

namespace DAVSyncTogether

namespace Plugin

section

variable {s : Session} {p : Plugin}

/-! ## What a task does -/

/-- Everything the game thread can do with the first task. -/
inductive RunCase (s : Session) (p : Plugin) (meets : TaskMeets s) : Plugin × List PluginOutput → Prop where
  | none (htasks : p.tasks = []) : RunCase s p meets (p, [])
  | stopped (tasks : List Task) (htasks : p.tasks = .tick :: tasks) (hrunning : p.running = false) :
      RunCase s p meets ({ p with tasks, tickQueued := false }, [])
  | ticked (tasks : List Task) (htasks : p.tasks = .tick :: tasks) (hrunning : p.running = true)
      (probe : DAVProbe.State) (calls : List DAVProbe.SendCall)
      (htick : (DAVProbe.liveProbe s p.index).step p.probe (meets.look p.service) = (probe, calls)) :
      RunCase s p meets ({ p with tasks, tickQueued := false, probe }, calls.map .sent)
  | handled (message : ReceivedMessage) (tasks : List Task) (htasks : p.tasks = .receive message :: tasks) :
      RunCase s p meets
        ({ p with tasks, actors := (handleReceivedMessageOnGameThread s meets.vm p.receiver message).1.actors },
          [.handled { message with vm := meets.vm } (handleReceivedMessageOnGameThread s meets.vm p.receiver message).2])

theorem runTask_cases (p : Plugin) (meets : TaskMeets s) : RunCase s p meets (p.runTask s meets) := by
  unfold runTask
  cases htasks : p.tasks with
  | nil => exact .none htasks
  | cons task tasks =>
    cases task with
    | tick =>
      dsimp only
      split
      · rename_i hrunning
        exact .stopped tasks htasks (by simpa using hrunning)
      · rename_i hrunning
        exact .ticked tasks htasks (by simpa using hrunning) _ _ rfl
    | receive message => exact .handled message tasks htasks

/-! ## What the other actions leave alone -/

/-- A message of SKSE leaves the tasks, what `QueueProbe` works on, and the actors. -/
theorem onSKSEMessage_frame (p : Plugin) (module : STRPMModule) (root : Option (List DirectoryEntry)) (message : SKSEMessage) :
    (p.onSKSEMessage s module root message).tasks = p.tasks ∧ (p.onSKSEMessage s module root message).tickQueued = p.tickQueued ∧
      (p.onSKSEMessage s module root message).calls = p.calls ∧ (p.onSKSEMessage s module root message).actors = p.actors := by
  have hstart : (p.ensureSTRPM module).tasks = p.tasks ∧ (p.ensureSTRPM module).tickQueued = p.tickQueued ∧
      (p.ensureSTRPM module).calls = p.calls ∧ (p.ensureSTRPM module).actors = p.actors := by
    unfold ensureSTRPM
    split <;> exact ⟨rfl, rfl, rfl, rfl⟩
  cases message with
  | postPostLoad => exact hstart
  | dataLoaded => exact hstart
  | preLoadGame => exact ⟨rfl, rfl, rfl, rfl⟩
  | postLoadGame => exact hstart
  | other => exact ⟨rfl, rfl, rfl, rfl⟩

/-- Two plugins that differ in the flag of `QueueProbe`, in its callers, and in a tick behind the tasks. -/
structure QueueFrame (p p' : Plugin) : Prop where
  index : p'.index = p.index
  running : p'.running = p.running
  service : p'.service = p.service
  probe : p'.probe = p.probe
  actors : p'.actors = p.actors
  tasks : p'.tasks = p.tasks ∨ p'.tasks = p.tasks ++ [.tick]

theorem queueProbe_frame (p : Plugin) (caller : Caller) (taskInterface : Bool) : QueueFrame p (p.queueProbe caller taskInterface) := by
  unfold queueProbe
  cases p.calls caller with
  | idle =>
    dsimp only
    split <;> exact ⟨rfl, rfl, rfl, rfl, rfl, Or.inl rfl⟩
  | admitted => exact ⟨rfl, rfl, rfl, rfl, rfl, Or.inl rfl⟩
  | claimed =>
    dsimp only
    split
    · exact ⟨rfl, rfl, rfl, rfl, rfl, Or.inl rfl⟩
    · exact ⟨rfl, rfl, rfl, rfl, rfl, Or.inr rfl⟩

/-! ## The pending tick -/

/-- The flag, the callers, and the ticks that wait. -/
def flight (p : Plugin) : SingleFlight.State Caller where
  flag := p.tickQueued
  calls := p.calls
  jobs := p.tasks.count .tick

theorem flight_onSKSEMessage (module : STRPMModule) (root : Option (List DirectoryEntry)) (message : SKSEMessage) :
    (p.onSKSEMessage s module root message).flight = p.flight := by
  obtain ⟨htasks, hqueued, hcalls, -⟩ := onSKSEMessage_frame (s := s) p module root message
  rw [flight, flight, htasks, hqueued, hcalls]

theorem flight_queueProbe (caller : Caller) (taskInterface : Bool) :
    (p.queueProbe caller taskInterface).flight = SingleFlight.advance p.flight caller p.running taskInterface := by
  unfold queueProbe SingleFlight.advance
  have hcalls : p.flight.calls = p.calls := rfl
  rw [hcalls]
  cases p.calls caller with
  | idle =>
    dsimp only
    cases p.running <;> rfl
  | admitted => rfl
  | claimed =>
    dsimp only
    cases taskInterface with
    | true => simp [flight]
    | false => rfl

theorem flight_onMessage (message : ReceivedMessage) (taskInterface : Bool) :
    (p.onMessage message taskInterface).flight = p.flight := by
  unfold onMessage
  split
  · rfl
  · simp [flight]

/-- A task that is not a tick leaves the ticks alone; a tick begins. -/
theorem flight_runTask (meets : TaskMeets s) :
    (p.runTask s meets).1.flight = p.flight ∨ (p.flight.jobs ≠ 0 ∧ (p.runTask s meets).1.flight = SingleFlight.begin p.flight) := by
  have hc := runTask_cases p meets
  generalize p.runTask s meets = x at hc
  cases hc with
  | none htasks => exact Or.inl rfl
  | stopped tasks htasks => exact Or.inr (by simp [flight, SingleFlight.begin, htasks])
  | ticked tasks htasks => exact Or.inr (by simp [flight, SingleFlight.begin, htasks])
  | handled message tasks htasks => exact Or.inl (by simp [flight, htasks])

/-- Every action keeps the meaning of `_tickQueued`. -/
theorem flight_step (h : SingleFlight.Phase p.flight) (e : ProcessEvent s) :
    SingleFlight.Phase ((plugin s).step p e).1.flight := by
  cases e with
  | message message taskInterface => exact (flight_onMessage message taskInterface).symm ▸ h
  | own e =>
    cases e with
    | skse message module root => exact (flight_onSKSEMessage (p := p) module root message).symm ▸ h
    | queueProbe caller taskInterface => exact (flight_queueProbe (p := p) caller taskInterface).symm ▸ h.advance _ _ _
    | runTask meets =>
      rcases flight_runTask (p := p) meets with hsame | ⟨hjobs, hbegin⟩
      · exact hsame.symm ▸ h
      · exact hbegin.symm ▸ h.begin hjobs
    | mapping proxies actors => exact h

/-! ## The messages that wait -/

/-- The messages among the tasks. -/
def waiting (p : Plugin) : List ReceivedMessage :=
  p.tasks.filterMap fun
    | .receive message => some message
    | .tick => none

end

end Plugin

/-- The message that was handled, if one was. -/
def PluginOutput.delivery : PluginOutput → Option Delivery
  | .handled delivery _ => some delivery
  | .sent _ => none

/-- The call of `SendArmorState`, if it was one. -/
def PluginOutput.call : PluginOutput → Option DAVProbe.SendCall
  | .sent call => some call
  | .handled .. => none

/-- The calls of `SendArmorState`. -/
def sentCalls (out : List PluginOutput) : List DAVProbe.SendCall := out.filterMap PluginOutput.call

/-- The messages that were handled. -/
def handledMessages (out : List PluginOutput) : List ReceivedMessage :=
  out.filterMap fun o => o.delivery.map Delivery.toReceivedMessage

/-- `OnMessage` and `QueueReceivedMessage` keep the message: it is not empty, and there is a task interface. -/
def ReceivedMessage.kept (message : ReceivedMessage) (taskInterface : Bool) : Option ReceivedMessage :=
  if message.payload.isEmpty || !taskInterface then none else some message

/-- The message that arrives with an event, if it is kept. -/
def ProcessEvent.arrival {s : Session} : ProcessEvent s → Option ReceivedMessage
  | .message m taskInterface => m.kept taskInterface
  | .own _ => none

/-- The messages that arrived and were kept. -/
def arrivals {s : Session} (es : List (ProcessEvent s)) : List ReceivedMessage := es.filterMap ProcessEvent.arrival

theorem sentCalls_append (out new : List PluginOutput) : sentCalls (out ++ new) = sentCalls out ++ sentCalls new :=
  List.filterMap_append

theorem sentCalls_sent (calls : List DAVProbe.SendCall) : sentCalls (calls.map .sent) = calls := by
  rw [sentCalls, List.filterMap_map]
  exact List.filterMap_some

theorem handledMessages_append (out new : List PluginOutput) :
    handledMessages (out ++ new) = handledMessages out ++ handledMessages new := List.filterMap_append

theorem handledMessages_sent (calls : List DAVProbe.SendCall) : handledMessages (calls.map .sent) = [] := by
  rw [handledMessages, List.filterMap_map]
  exact List.filterMap_eq_nil_iff.mpr fun _ _ => rfl

namespace Plugin

section

variable {s : Session} {p : Plugin}

/-! ## The probe of the plugin -/

/-- Everything an action can do to the probe, and the calls that it makes. -/
inductive ProbeCase (s : Session) (p : Plugin) : PluginEvent s → DAVProbe.State → List DAVProbe.SendCall → Prop where
  | kept (e : PluginEvent s) : ProbeCase s p e p.probe []
  | reset (message : SKSEMessage) (module : STRPMModule) (root : Option (List DirectoryEntry))
      (hmessage : message = .preLoadGame ∨ message = .postLoadGame) :
      ProbeCase s p (.skse message module root) (DAVProbe.reset p.probe) []
  | look (meets : TaskMeets s) (hrunning : p.running = true) :
      ProbeCase s p (.runTask meets) ((DAVProbe.liveProbe s p.index).step p.probe (meets.look p.service)).1
        ((DAVProbe.liveProbe s p.index).step p.probe (meets.look p.service)).2

theorem probe_cases (p : Plugin) (e : PluginEvent s) : ProbeCase s p e (p.step s e).1.probe (sentCalls (p.step s e).2) := by
  cases e with
  | skse message module root =>
    have hstart : (p.ensureSTRPM module).probe = p.probe := by
      unfold ensureSTRPM
      split <;> rfl
    have hkept : ProbeCase s p (.skse message module root) p.probe [] := .kept _
    cases message with
    | postPostLoad => exact hstart ▸ hkept
    | dataLoaded => exact hstart ▸ hkept
    | preLoadGame => exact .reset _ module root (Or.inl rfl)
    | postLoadGame => exact .reset _ module root (Or.inr rfl)
    | other => exact hkept
  | queueProbe caller taskInterface =>
    exact (queueProbe_frame p caller taskInterface).probe ▸ ProbeCase.kept (.queueProbe caller taskInterface)
  | mapping proxies actors => exact .kept _
  | runTask meets =>
    have hc := runTask_cases p meets
    change ProbeCase s p _ (p.runTask s meets).1.probe (sentCalls (p.runTask s meets).2)
    generalize p.runTask s meets = x at hc
    cases hc with
    | none htasks => exact .kept _
    | stopped tasks htasks hrunning => exact .kept _
    | ticked tasks htasks hrunning probe calls htick =>
      have hlook := ProbeCase.look meets hrunning
      rw [htick] at hlook
      rw [sentCalls_sent]
      exact hlook
    | handled message tasks htasks => exact .kept _

/-- A call is one of a tick of a running probe. -/
theorem ticked_of_sent {e : PluginEvent s} {call : DAVProbe.SendCall} (hcall : call ∈ sentCalls (p.step s e).2) :
    p.running = true ∧
      ∃ meets, call ∈ ((DAVProbe.liveProbe s p.index).step p.probe (TaskMeets.look meets p.service)).2 := by
  have hc := probe_cases p e
  generalize (p.step s e).1.probe = probe at hc
  generalize sentCalls (p.step s e).2 = calls at hc hcall
  cases hc with
  | kept e => cases hcall
  | reset message module root hmessage => cases hcall
  | look meets hrunning => exact ⟨hrunning, meets, hcall⟩

/-! ## The messages, step by step -/

/-- An own action handles the messages that it takes from the tasks. -/
theorem waiting_step (e : PluginEvent s) :
    handledMessages (p.step s e).2 ++ (p.step s e).1.waiting = p.waiting := by
  cases e with
  | skse message module root =>
    change (p.onSKSEMessage s module root message).waiting = p.waiting
    rw [waiting, (onSKSEMessage_frame p module root message).1, waiting]
  | queueProbe caller taskInterface =>
    change (p.queueProbe caller taskInterface).waiting = p.waiting
    rcases (queueProbe_frame p caller taskInterface).tasks with htasks | htasks
    · rw [waiting, htasks, waiting]
    · simp [waiting, htasks]
  | runTask meets =>
    have hc := runTask_cases p meets
    change handledMessages (p.runTask s meets).2 ++ (p.runTask s meets).1.waiting = p.waiting
    generalize p.runTask s meets = x at hc
    cases hc with
    | none htasks => rfl
    | stopped tasks htasks => simp [waiting, htasks, handledMessages]
    | ticked tasks htasks hrunning probe calls =>
      rw [handledMessages_sent, List.nil_append]
      simp [waiting, htasks]
    | handled message tasks htasks => simp [waiting, htasks, handledMessages, PluginOutput.delivery]
  | mapping proxies actors => rfl

/-- A message that arrives waits behind the others. -/
theorem waiting_onMessage (message : ReceivedMessage) (taskInterface : Bool) :
    (p.onMessage message taskInterface).waiting = p.waiting ++ (message.kept taskInterface).toList := by
  unfold onMessage ReceivedMessage.kept
  split
  · simp
  · simp [waiting]

end

end Plugin

end DAVSyncTogether
