import DAVSyncTogether.Lemmas.Started
import DAVSyncTogether.Lemmas.PluginGames

/-!
# Runs of the plugin

The plugin starts with nothing loaded and no service. Whatever happens to it, in any order: at most one tick waits, and
`_tickQueued` says so (`tick_pending_once`); the messages of the other players are handled in the order in which they arrived,
each once (`handled_in_order`); and nothing leaves the plugin that the loaded configuration does not cover (`sent_since_loaded`).
-/

namespace DAVSyncTogether

open ByteString DAVProbe

/-! ## The tasks -/

theorem phase_run (s : Session) (proxies : ProxyResolver) (actors : FormID → ProxyActor) (es : List (ProcessEvent s)) :
    SingleFlight.Phase ((plugin s).run (Plugin.loaded proxies actors) es).1.flight :=
  (plugin s).run_induction (P := fun _ p _ => SingleFlight.Phase p.flight) SingleFlight.Phase.initial
    (fun _ _ _ e h => Plugin.flight_step h e) es

/-- Whatever the threads that call `QueueProbe` and the game thread do, in any order: at most one tick waits; `_tickQueued` is
set exactly while a tick waits or a caller is about to queue it; and at most one caller is, while no tick waits. -/
theorem tick_pending_once (s : Session) (proxies : ProxyResolver) (actors : FormID → ProxyActor) (es : List (ProcessEvent s)) :
    let p := ((plugin s).run (Plugin.loaded proxies actors) es).1
    p.tasks.count .tick ≤ 1 ∧ (p.tickQueued = true ↔ Task.tick ∈ p.tasks ∨ ∃ caller, p.calls caller = .claimed) ∧
      ∀ caller caller', p.calls caller = .claimed → p.calls caller' = .claimed → caller = caller' ∧ Task.tick ∉ p.tasks := by
  have h := phase_run s proxies actors es
  generalize ((plugin s).run (Plugin.loaded proxies actors) es).1 = p at h ⊢
  refine ⟨h.jobs_le_one, ?_, fun caller caller' hc hc' => ?_⟩
  · rw [← List.count_pos_iff]
    exact h.flag_iff
  · obtain ⟨heq, hjobs⟩ := h.claim_unique hc hc'
    exact ⟨heq, List.count_eq_zero.mp hjobs⟩

/-- The messages that have been handled, followed by those among the tasks, are those that arrived while there was a task
interface: each is handled once, in the order of arrival. -/
theorem handled_in_order (s : Session) (proxies : ProxyResolver) (actors : FormID → ProxyActor) (es : List (ProcessEvent s)) :
    let r := (plugin s).run (Plugin.loaded proxies actors) es
    handledMessages r.2 ++ r.1.waiting = arrivals es := by
  refine (plugin s).run_induction (P := fun es p out => handledMessages out ++ p.waiting = arrivals es) rfl ?_ es
  intro es p out e h
  rw [handledMessages_append, List.append_assoc, arrivals, Machine.filterMap_concat, ← arrivals, ← h, List.append_assoc]
  congr 1
  cases e with
  | own e => exact (Plugin.waiting_step e).trans (List.append_nil _).symm
  | message message taskInterface => exact Plugin.waiting_onMessage message taskInterface

/-! ## What leaves the plugin -/

section

variable (s : Session) (proxies : ProxyResolver) (actors : FormID → ProxyActor) (es : List (ProcessEvent s))

/-- The calls of a run are covered by its events. -/
theorem covered_run : ∀ call ∈ sentCalls ((plugin s).run (Plugin.loaded proxies actors) es).2, Plugin.Covered es call := by
  refine ((plugin s).run_induction (P := fun es p out => Plugin.Started es p ∧
    ∀ call ∈ sentCalls out, Plugin.Covered es call) ⟨Plugin.started_loaded proxies actors, nofun⟩ ?_ es).2
  intro es p out e ⟨hstarted, hout⟩
  refine ⟨hstarted.step e, fun call hcall => ?_⟩
  rw [sentCalls_append] at hcall
  rcases List.mem_append.mp hcall with hcall | hcall
  · exact (hout call hcall).concat e
  · exact (hstarted.sent hcall).concat e

end

end DAVSyncTogether
