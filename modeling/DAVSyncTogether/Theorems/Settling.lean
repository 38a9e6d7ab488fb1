import DAVSyncTogether.Theorems.Multiplayer
import Mathlib.Order.WellFounded

/-!
# The work runs out

When nobody asks for a tick any more, the game threads run the tasks that wait and the messages under way arrive, in any order.
Every such step is one of finitely many (`settles_decreases`): a tick that runs may post any number of messages, but is one tick
less, and a message that arrives is at most one task more. Where no step is left, everything that was posted has been handled,
and every player is shown what the others track (`settled_shown`).
-/

namespace DAVSyncTogether

open ByteString DAVProbe

section

variable {ι : Type} [DecidableEq ι] (players : Players ι)

/-- The event does something that waits to be done: a game thread runs a task, or a message under way arrives. -/
def WorldEvent.Pending (w : World ι) : WorldEvent players → Prop
  | .own i (.runTask _) => (w.plugins i).tasks ≠ []
  | .own .. => False
  | .arrive i j _ => w.links.queue i j ≠ []

/-- The world after something that waited to be done. -/
def Settles (w' w : World ι) : Prop := ∃ e : WorldEvent players, e.Pending players w ∧ w' = ((multiplayer players).step w e).1

/-! ## Each step is one less -/

/-- The ticks that wait, of all players. -/
def World.ticks [Fintype ι] (w : World ι) : Nat := ∑ i, (w.plugins i).tasks.count .tick

/-- The tasks that wait, of all players, and the messages under way, each of which may become one. -/
def World.work [Fintype ι] (w : World ι) : Nat := 2 * w.links.underWay + ∑ i, (w.plugins i).tasks.length

/-- A task that is run is one less: a tick, or a message, which posts nothing. -/
theorem runTask_decreases {s : Session} {p : Plugin} (meets : TaskMeets s) (h : p.tasks ≠ []) :
    (p.runTask s meets).1.tasks.count .tick < p.tasks.count .tick ∨
      (p.runTask s meets).1.tasks.count .tick = p.tasks.count .tick ∧
        (p.runTask s meets).1.tasks.length < p.tasks.length ∧ (p.runTask s meets).2.filterMap PluginOutput.posted = [] := by
  have hc := Plugin.runTask_cases p meets
  generalize p.runTask s meets = x at hc
  cases hc with
  | none htasks => exact absurd htasks h
  | stopped tasks htasks => exact Or.inl (by simp [htasks])
  | ticked tasks htasks => exact Or.inl (by simp [htasks])
  | handled message tasks htasks => exact Or.inr ⟨by simp [htasks], by simp [htasks], rfl⟩

/-- A message that is handed over is at most one task, and no tick. -/
theorem tasks_listen (p : Plugin) (message : ReceivedMessage) (taskInterface : Bool) :
    (p.listen message taskInterface).tasks.count .tick = p.tasks.count .tick ∧
      (p.listen message taskInterface).tasks.length ≤ p.tasks.length + 1 := by
  unfold Plugin.listen Plugin.onMessage
  split
  · split
    · exact ⟨rfl, Nat.le_succ _⟩
    · simp
  · exact ⟨rfl, Nat.le_succ _⟩

/-- The ticks and the tasks of all players, when one of the plugins changes. -/
theorem counts_update [Fintype ι] (plugins : ι → Plugin) (links links' : Links ι Bytes) (i : ι) (p : Plugin) :
    (World.mk (Function.update plugins i p) links').ticks + (plugins i).tasks.count .tick =
        (World.mk plugins links).ticks + p.tasks.count .tick ∧
      (World.mk (Function.update plugins i p) links').work + 2 * links.underWay + (plugins i).tasks.length =
        (World.mk plugins links).work + 2 * links'.underWay + p.tasks.length := by
  have hticks := sum_apply_update (fun p : Plugin => p.tasks.count .tick) plugins i p
  have hlength := sum_apply_update (fun p : Plugin => p.tasks.length) plugins i p
  unfold World.ticks World.work
  dsimp only at hticks hlength ⊢
  omega

/-- Every step leaves fewer ticks, or as many and less work. -/
theorem settles_decreases [Fintype ι] {w w' : World ι} (h : Settles players w' w) :
    w'.ticks < w.ticks ∨ w'.ticks = w.ticks ∧ w'.work < w.work := by
  obtain ⟨plugins, links⟩ := w
  obtain ⟨e, hpending, rfl⟩ := h
  cases e with
  | own i e =>
    cases e with
    | skse message module root => exact hpending.elim
    | queueProbe caller taskInterface => exact hpending.elim
    | mapping proxies actors => exact hpending.elim
    | runTask meets =>
      have hfewer := runTask_decreases (s := players.session i) meets (show (plugins i).tasks ≠ [] from hpending)
      have hact : ((multiplayer players).step ⟨plugins, links⟩ (.own i (.runTask meets))).1 =
          ⟨Function.update plugins i ((plugins i).runTask (players.session i) meets).1,
            links.broadcast i (((plugins i).runTask (players.session i) meets).2.filterMap PluginOutput.posted)⟩ := rfl
      rw [hact]
      have hcounts := counts_update plugins links
        (links.broadcast i (((plugins i).runTask (players.session i) meets).2.filterMap PluginOutput.posted)) i
        ((plugins i).runTask (players.session i) meets).1
      rcases hfewer with hticks | ⟨hticks, hlength, hposted⟩
      · omega
      · rw [hposted, Links.broadcast_nil] at hcounts ⊢
        omega
  | arrive i j taskInterface =>
    have hpop := links.underWay_pop (show links.queue i j ≠ [] from hpending)
    obtain ⟨payload, hhead⟩ : ∃ payload, (links.queue i j).head? = some payload := by
      cases h : links.queue i j with
      | nil => exact absurd h hpending
      | cons payload rest => exact ⟨payload, rfl⟩
    have harrive : ((multiplayer players).step ⟨plugins, links⟩ (.arrive i j taskInterface)).1 =
        ⟨Function.update plugins j ((plugins j).listen ⟨payload, players.connection i⟩ taskInterface), links.pop i j⟩ := by
      change World.arrive players _ i j taskInterface = _
      rw [World.arrive, hhead]
    rw [harrive]
    have hcounts := counts_update plugins links (links.pop i j) j ((plugins j).listen ⟨payload, players.connection i⟩ taskInterface)
    have htasks := tasks_listen (plugins j) ⟨payload, players.connection i⟩ taskInterface
    omega

/-- No order of the steps goes on forever. -/
theorem settles_wellFounded [Fintype ι] : WellFounded (Settles players) := by
  refine Subrelation.wf ?_ (InvImage.wf (fun w : World ι => (w.ticks, w.work)) (Prod.lex Nat.lt_wfRel Nat.lt_wfRel).wf)
  intro w' w h
  rcases settles_decreases players h with hticks | ⟨hticks, hwork⟩
  · exact .left _ _ hticks
  · exact Prod.lex_iff.mpr (Or.inr ⟨hticks, hwork⟩)

/-! ## Where no step is left -/

/-- No step is left exactly when no task waits and nothing is under way. -/
theorem settled_iff (w : World ι) :
    (∀ w', ¬Settles players w' w) ↔ (∀ i, (w.plugins i).tasks = []) ∧ ∀ i j, w.links.queue i j = [] := by
  constructor
  · intro h
    refine ⟨fun i => ?_, fun i j => ?_⟩
    · by_contra htasks
      exact h _ ⟨.own i (.runTask (.nobody (players.session i))), htasks, rfl⟩
    · by_contra hqueue
      exact h _ ⟨.arrive i j true, hqueue, rfl⟩
  · rintro ⟨htasks, hlinks⟩ w' ⟨e, hpending, -⟩
    cases e with
    | own i e =>
      cases e with
      | runTask meets => exact hpending (htasks i)
      | skse message module root => exact hpending
      | queueProbe caller taskInterface => exact hpending
      | mapping proxies actors => exact hpending
    | arrive i j taskInterface => exact hpending (hlinks i j)

/-- With finitely many players no order of the steps goes on forever; and at the end of every run that leaves none, a player who
listened, over a proxy that was the other one's throughout, is shown of that one exactly what that one tracks: for every armor whose
last message was taken by the module and is valid at the player, where no game was loaded while a variant was tracked for it. -/
theorem settled_shown [Fintype ι] (proxies : ι → ProxyResolver) (actors : ι → FormID → ProxyActor)
    (es : List (WorldEvent players)) (i j : ι) (proxy : TESForm) (hij : i ≠ j) :
    let r := (multiplayer players).run (World.loaded proxies actors) es
    WellFounded (Settles players) ∧
      ((multiplayer players).Along (Listens players) (World.loaded proxies actors) es →
        (multiplayer players).Along (MapsProxy players i j proxy) (World.loaded proxies actors) es →
        (∀ w', ¬Settles players w' r.1) → ∀ k,
        (multiplayer players).Along (LoadsUntracked players i k) (World.loaded proxies actors) es →
        (∀ call, ((sentCalls (outputsOf i r.2)).filter fun call => call.stableKey = k).getLast? = some call →
          call.sentOk = true ∧ call.validIn (players.session j) = true) →
        (view (passedAt j proxy r.2)).lookup k = (r.1.plugins i).probe.networkTrackedVariants.lookup k) := by
  refine ⟨settles_wellFounded players, fun hlistens hmaps hsettled k hloads hlast => ?_⟩
  obtain ⟨htasks, hlinks⟩ := (settled_iff players _).mp hsettled
  have hcaught : CaughtUp players i j ((multiplayer players).run (World.loaded proxies actors) es).1 := by
    refine ⟨hlinks i j, ?_⟩
    rw [waitingFrom, Plugin.waiting, htasks j]
    rfl
  rw [lookup_view_caughtUp players proxies actors es i j proxy hij hlistens hmaps hcaught k hlast]
  exact (mirror_player players proxies actors i k es hloads).delivered

end

/-! ## The hidden helmet -/

namespace Swap

instance : Fintype Seat := ⟨{.wearer, .left, .right}, fun i => by cases i <;> decide⟩

end Swap

/-- When both have handled the message, the work has run out, and the left player is shown the hidden helmet. -/
theorem settled_shown_helmet :
    let r := (multiplayer Swap.players).run Swap.world Swap.shown
    (view (passedAt .left Proxy.form r.2)).lookup Helmet.hidden.stableKey =
      (r.1.plugins .wearer).probe.networkTrackedVariants.lookup Helmet.hidden.stableKey := by
  refine (settled_shown Swap.players _ _ Swap.shown .wearer .left Proxy.form nofun).2 Swap.along_listens
    (Swap.along_maps .left nofun) ?_ _ (Swap.along_loads _) ?_
  · refine (settled_iff Swap.players _).mpr ⟨fun i => ?_, fun i j => ?_⟩
    · cases i <;> decide
    · cases i <;> cases j <;> decide
  · intro call hcall
    have hmem : call ∈ [Swap.call] := Swap.sentCalls_shown ▸ (List.mem_filter.mp (List.mem_of_getLast? hcall)).1
    rw [List.mem_singleton.mp hmem]
    exact Swap.call_valid

end DAVSyncTogether
