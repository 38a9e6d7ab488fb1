import DAVSyncTogether.Lemmas.TaskQueue
import DAVSyncTogether.Lemmas.Sending

/-!
# What has been started

`Started es p`: after the events `es`, a probe that runs has the configuration of a `kDataLoaded` among them, a service that
runs was registered with the module of one of the messages of SKSE, and the probe's last snapshot was captured in the session.
Every action keeps it (`Started.step`), and covers what an action sends (`Started.sent`).
-/

namespace DAVSyncTogether

open DAVProbe

namespace Plugin

section

variable {s : Session}

/-- The configuration was loaded by one of the events. -/
def LoadedBy (es : List (ProcessEvent s)) (index : DAVConfigIndex) : Prop :=
  ∃ module root, .own (.skse .dataLoaded module root) ∈ es ∧ index = load s root

/-- The channel was registered by the module of one of the events. -/
def RegisteredBy (es : List (ProcessEvent s)) : Prop :=
  ∃ message module root, ProcessEvent.own (.skse message module root) ∈ es ∧ loadFromModule module = true ∧
    module.registerChannel.1 = .ok

/-- The parts of the plugin that run were started by the events. -/
structure Started (es : List (ProcessEvent s)) (p : Plugin) : Prop where
  index : p.running = true → LoadedBy es p.index
  service : p.service.running = true → RegisteredBy es
  captured : p.probe.Captured s

variable {es : List (ProcessEvent s)} {p : Plugin}

theorem LoadedBy.concat {index : DAVConfigIndex} (h : LoadedBy es index) (e : ProcessEvent s) : LoadedBy (es ++ [e]) index := by
  obtain ⟨module, root, hmem, hindex⟩ := h
  exact ⟨module, root, List.mem_append_left _ hmem, hindex⟩

theorem RegisteredBy.concat (h : RegisteredBy es) (e : ProcessEvent s) : RegisteredBy (es ++ [e]) := by
  obtain ⟨message, module, root, hmem, hregistered⟩ := h
  exact ⟨message, module, root, List.mem_append_left _ hmem, hregistered⟩

theorem started_loaded (proxies : ProxyResolver) (actors : FormID → ProxyActor) :
    Started ([] : List (ProcessEvent s)) (Plugin.loaded proxies actors) where
  index h := Bool.noConfusion h
  service h := Bool.noConfusion h
  captured := captured_reset {}

/-- What was started stays started. -/
theorem Started.concat (h : Started es p) (e : ProcessEvent s) : Started (es ++ [e]) p where
  index hr := (h.index hr).concat e
  service hr := (h.service hr).concat e
  captured := h.captured

/-- What was started depends on the configuration, the service and the probe. -/
theorem Started.congr {p' : Plugin} (h : Started es p) (hindex : p'.index = p.index) (hrunning : p'.running = p.running)
    (hservice : p'.service = p.service) (hprobe : p'.probe.Captured s) : Started es p' where
  index hr := hindex ▸ h.index (hrunning ▸ hr)
  service hr := h.service (hservice ▸ hr)
  captured := hprobe

/-- A service that runs after a start ran before it, or the module took the channel. -/
theorem running_start {st : ServiceState} {module : STRPMModule} (h : (st.start module).1.running = true) :
    st.running = true ∨ (loadFromModule module = true ∧ module.registerChannel.1 = .ok) := by
  unfold ServiceState.start at h
  split at h
  · rename_i hrunning
    exact Or.inl hrunning
  · rename_i hrunning
    split at h
    · exact Or.inl h
    · rename_i hloaded
      dsimp only at h
      split at h
      · exact Or.inl h
      · rename_i hresult
        exact Or.inr ⟨by simpa using hloaded, not_not.mp hresult⟩

/-- `EnsureSTRPM` starts the service with the module of its event, and nothing else. -/
theorem Started.ensureSTRPM {message : SKSEMessage} {module : STRPMModule} {root : Option (List DirectoryEntry)}
    (h : Started es p) : Started (es ++ [.own (.skse message module root)]) (p.ensureSTRPM module) := by
  unfold Plugin.ensureSTRPM
  split
  · exact h.concat _
  · refine ⟨fun hr => (h.index hr).concat _, fun hr => ?_, h.captured⟩
    rcases running_start hr with hr | hregistered
    · exact (h.service hr).concat _
    · exact ⟨message, module, root, by simp, hregistered⟩

theorem onMessage_frame (p : Plugin) (message : ReceivedMessage) (taskInterface : Bool) :
    (p.onMessage message taskInterface).index = p.index ∧ (p.onMessage message taskInterface).running = p.running ∧
      (p.onMessage message taskInterface).service = p.service ∧ (p.onMessage message taskInterface).probe = p.probe := by
  unfold onMessage
  split <;> exact ⟨rfl, rfl, rfl, rfl⟩

/-- A task leaves the configuration, the service and whether the probe runs, and its snapshot captured. -/
theorem Started.runTask (h : Started es p) (meets : TaskMeets s) : Started es (p.runTask s meets).1 := by
  have hc := runTask_cases p meets
  generalize p.runTask s meets = x at hc
  cases hc with
  | none htasks => exact h
  | stopped tasks htasks hrunning => exact h.congr rfl rfl rfl h.captured
  | ticked tasks htasks hrunning probe calls htick =>
    have hcaptured := h.captured.step p.index (meets.look p.service)
    rw [htick] at hcaptured
    exact h.congr rfl rfl rfl hcaptured
  | handled message tasks htasks => exact h.congr rfl rfl rfl h.captured

/-- Every action keeps what has been started. -/
theorem Started.step (h : Started es p) (e : ProcessEvent s) : Started (es ++ [e]) ((plugin s).step p e).1 := by
  cases e with
  | message message taskInterface =>
    obtain ⟨hindex, hrunning, hservice, hprobe⟩ := onMessage_frame p message taskInterface
    exact (h.concat _).congr hindex hrunning hservice (hprobe.symm ▸ h.captured)
  | own e =>
    cases e with
    | skse message module root =>
      cases message with
      | postPostLoad => exact h.ensureSTRPM
      | dataLoaded =>
        have hensured : Started (es ++ [.own (.skse .dataLoaded module root)]) (p.ensureSTRPM module) := h.ensureSTRPM
        exact ⟨fun _ => ⟨module, root, by simp, rfl⟩, hensured.service, hensured.captured⟩
      | preLoadGame => exact (h.concat _).congr rfl rfl rfl (captured_reset p.probe)
      | postLoadGame => exact h.ensureSTRPM.congr rfl rfl rfl (captured_reset p.probe)
      | other => exact h.concat _
    | queueProbe caller taskInterface =>
      have hframe := queueProbe_frame p caller taskInterface
      exact (h.concat _).congr hframe.index hframe.running hframe.service (hframe.probe.symm ▸ h.captured)
    | runTask meets => exact (h.runTask meets).concat _
    | mapping proxies actors => exact (h.concat _).congr rfl rfl rfl h.captured

/-- A call that is about a captured armor, and hands over what `sendArmorState` makes of it with the configuration and a
service that were started by the events. -/
def Covered (es : List (ProcessEvent s)) (call : SendCall) : Prop :=
  s.Captures call.armor ∧ ∃ index service, LoadedBy es index ∧ (service.running = true → RegisteredBy es) ∧
    call.transmission = sendArmorState s index service call.armor call.variant call.unequipped

theorem Covered.concat {call : SendCall} (h : Covered es call) (e : ProcessEvent s) : Covered (es ++ [e]) call := by
  obtain ⟨hcaptures, index, service, hloaded, hregistered, htx⟩ := h
  exact ⟨hcaptures, index, service, hloaded.concat e, fun hr => (hregistered hr).concat e, htx⟩

/-- The calls that an action makes are covered by what was started. -/
theorem Started.sent (h : Started es p) {e : ProcessEvent s} {call : SendCall}
    (hcall : call ∈ sentCalls ((plugin s).step p e).2) : Covered es call := by
  cases e with
  | message message taskInterface => cases hcall
  | own e =>
    obtain ⟨hrunning, meets, hcall⟩ := ticked_of_sent hcall
    obtain ⟨n, htx⟩ := (madeIn_step p.index p.probe (meets.look p.service) call hcall).transmission
    exact ⟨h.captured.captures hcall, p.index, _, h.index hrunning, h.service, htx⟩

end

end Plugin

end DAVSyncTogether
