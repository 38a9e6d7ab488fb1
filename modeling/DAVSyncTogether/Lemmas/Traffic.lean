import DAVSyncTogether.Multiplayer
import DAVSyncTogether.Lemmas.TaskQueue
import DAVSyncTogether.Lemmas.Sending
import DAVSyncTogether.Theorems.Bookkeeping

/-!
# The messages between two players

A player has posted what its calls of `SendArmorState` say that the module took (`posted_eq_calls`). What one player is to handle
from another one are the messages that wait among its tasks, and then those that are under way (`pendingFrom`): an action of a
plugin handles the first of them and adds what it posts (`pending_act`); an arrival keeps them as they are when its receiver
listens (`pending_arrive_listens`), and loses one at most otherwise (`pending_arrive_sublist`). So in every run what is handled
and what is left is in order among what was to be handled and what is posted (`handled_sublist_from`), and all of it where
whoever is handed a message listens (`handled_from`).
-/

namespace DAVSyncTogether

open DAVProbe

/-- The bytes of a message. -/
def DAVProbe.StateMessage.payload (m : StateMessage) : Bytes := encodeArmorState m.armor m.variant m.unequipped

section

variable {ι : Type} [DecidableEq ι]

/-! ## What a player did -/

/-- What one player's plugin did. -/
def outputsOf (i : ι) (out : List (WorldOutput ι)) : List PluginOutput :=
  out.filterMap fun o => if o.player = i then some o.output else none

theorem outputsOf_append (i : ι) (out new : List (WorldOutput ι)) :
    outputsOf i (out ++ new) = outputsOf i out ++ outputsOf i new := List.filterMap_append

theorem outputsOf_self (i : ι) (out : List PluginOutput) : outputsOf i (out.map (WorldOutput.mk i)) = out := by
  rw [outputsOf, List.filterMap_map]
  simp

theorem outputsOf_other {i j : ι} (h : i ≠ j) (out : List PluginOutput) : outputsOf j (out.map (WorldOutput.mk i)) = [] := by
  rw [outputsOf, List.filterMap_map]
  simp [h]

/-- The messages that a player has posted. -/
def posted (i : ι) (out : List (WorldOutput ι)) : List Bytes := (outputsOf i out).filterMap PluginOutput.posted

/-- The messages of one connection. -/
def fromConnection (c : ConnectionID) (messages : List ReceivedMessage) : List Bytes :=
  messages.filterMap fun m => if m.connectionID = c then some m.payload else none

theorem fromConnection_append (c : ConnectionID) (l m : List ReceivedMessage) :
    fromConnection c (l ++ m) = fromConnection c l ++ fromConnection c m := List.filterMap_append

variable (players : Players ι)

/-- The messages of one player that another one has handled. -/
def handledFrom (i j : ι) (out : List (WorldOutput ι)) : List Bytes :=
  fromConnection (players.connection i) (handledMessages (outputsOf j out))

/-- The messages of one player that wait among the tasks of another one. -/
def waitingFrom (i j : ι) (w : World ι) : List Bytes := fromConnection (players.connection i) (w.plugins j).waiting

/-- The messages of one player that another one is still to handle: those among its tasks, then those under way. -/
def pendingFrom (i j : ι) (w : World ι) : List Bytes := waitingFrom players i j w ++ w.links.queue i j

variable {players} {w : World ι}

/-! ## What is posted -/

/-- A message is never empty. -/
theorem encodeArmorState_ne_nil (armor : WornArmorState) (variant : Bytes) (unequipped : Bool) :
    encodeArmorState armor variant unequipped ≠ [] := by
  intro h
  have hlength := congrArg List.length h
  simp [encodeArmorState, ByteString.ascii] at hlength

/-- What a call posts, if the module took it, is the encoded message. -/
theorem posted_call {s : Session} {p : Plugin} {e : PluginEvent s} {call : SendCall} (h : call ∈ sentCalls (p.step s e).2) :
    (PluginOutput.sent call).posted = if call.sentOk then some call.payload else none := by
  obtain ⟨-, meets, hlook⟩ := Plugin.ticked_of_sent h
  obtain ⟨n, hn⟩ := (madeIn_step p.index p.probe (meets.look p.service) call hlook).transmission
  change (call.transmission.bind fun x => if x.result = .ok then some x.payload else none) = _
  rw [SendCall.sentOk]
  cases htx : call.transmission with
  | none => rfl
  | some x =>
    rw [htx] at hn
    have hpayload : x.payload = call.payload := (sendArmorState_eq_some hn.symm).2.2
    simp [hpayload]

/-- An action posts the messages of its calls that the module took. -/
theorem filterMap_posted (s : Session) (p : Plugin) (e : PluginEvent s) :
    (p.step s e).2.filterMap PluginOutput.posted =
      ((sentCalls (p.step s e).2).filter SendCall.sentOk).map (fun call => call.payload) := by
  have hcalls : ∀ call ∈ sentCalls (p.step s e).2,
      (PluginOutput.sent call).posted = if call.sentOk then some call.payload else none := fun _ => posted_call
  unfold sentCalls at hcalls ⊢
  generalize (p.step s e).2 = out at hcalls ⊢
  induction out with
  | nil => rfl
  | cons o out ih =>
    cases o with
    | handled delivery rx => exact ih hcalls
    | sent call =>
      have hcall := hcalls call List.mem_cons_self
      have htail := ih fun c hc => hcalls c (List.mem_cons_of_mem _ hc)
      rw [List.filterMap_cons, hcall, List.filterMap_cons]
      cases hok : call.sentOk with
      | true => simp [PluginOutput.call, hok, htail]
      | false => simp [PluginOutput.call, hok, htail]

theorem posted_append (i : ι) (out new : List (WorldOutput ι)) : posted i (out ++ new) = posted i out ++ posted i new := by
  rw [posted, outputsOf_append, List.filterMap_append]
  rfl

theorem posted_self (i : ι) (out : List PluginOutput) :
    posted i (out.map (WorldOutput.mk i)) = out.filterMap PluginOutput.posted := by
  rw [posted, outputsOf_self]

theorem posted_other {i j : ι} (h : i ≠ j) (out : List PluginOutput) : posted j (out.map (WorldOutput.mk i)) = [] := by
  rw [posted, outputsOf_other h, List.filterMap_nil]

/-- In every run a player posts what its calls say that the module took. -/
theorem posted_eq_calls (w : World ι) (es : List (WorldEvent players)) (i : ι) :
    posted i ((multiplayer players).run w es).2 =
      ((sentCalls (outputsOf i ((multiplayer players).run w es).2)).filter SendCall.sentOk).map fun call => call.payload := by
  refine (multiplayer players).run_induction (P := fun _ _ out =>
    posted i out = ((sentCalls (outputsOf i out)).filter SendCall.sentOk).map fun call => call.payload) rfl ?_ es
  intro _ w out e h
  rw [posted_append, outputsOf_append, sentCalls_append, List.filter_append, List.map_append, h]
  congr 1
  cases e with
  | own a e =>
    change posted i (List.map (WorldOutput.mk a) _) =
      List.map _ (List.filter _ (sentCalls (outputsOf i (List.map (WorldOutput.mk a) _))))
    by_cases ha : a = i
    · subst ha
      rw [posted_self, outputsOf_self, filterMap_posted]
    · rw [posted_other ha, outputsOf_other ha]
      rfl
  | arrive a b taskInterface => rfl

/-! ## One step -/

/-- An action of a plugin handles what is first to be handled, and adds what it posts. -/
theorem pending_act (a : ι) (e : PluginEvent (players.session a)) {i j : ι} (hij : i ≠ j) :
    handledFrom players i j (w.act players a e).2 ++ pendingFrom players i j (w.act players a e).1 =
      pendingFrom players i j w ++ posted i (w.act players a e).2 := by
  have htaken : handledFrom players i j (w.act players a e).2 ++ waitingFrom players i j (w.act players a e).1 =
      waitingFrom players i j w := by
    unfold handledFrom waitingFrom World.act
    dsimp only
    by_cases hj : j = a
    · subst hj
      rw [outputsOf_self, Function.update_self, ← fromConnection_append, Plugin.waiting_step]
    · rw [outputsOf_other (Ne.symm hj), Function.update_of_ne hj]
      rfl
  have hlinks : (w.act players a e).1.links.queue i j = w.links.queue i j ++ posted i (w.act players a e).2 := by
    unfold World.act
    dsimp only
    rw [Links.queue_broadcast]
    by_cases hi : i = a
    · subst hi
      rw [if_pos ⟨rfl, Ne.symm hij⟩, posted_self]
    · rw [if_neg fun h => hi h.1, posted_other (Ne.symm hi), List.append_nil]
  rw [pendingFrom, ← List.append_assoc, htaken, hlinks, ← List.append_assoc, pendingFrom]

/-- What becomes of a message at the plugin that it is handed to. -/
theorem waiting_listen_eq (p : Plugin) (message : ReceivedMessage) (taskInterface : Bool) :
    (p.listen message taskInterface).waiting =
      p.waiting ++ (if p.service.running then message.kept taskInterface else none).toList := by
  unfold Plugin.listen
  cases p.service.running with
  | true => exact p.waiting_onMessage message taskInterface
  | false => exact (List.append_nil _).symm

/-- A message is kept as it is, or not at all. -/
theorem kept_cases (p : Plugin) (message : ReceivedMessage) (taskInterface : Bool) :
    (if p.service.running then message.kept taskInterface else none) = none ∨
      (if p.service.running then message.kept taskInterface else none) = some message := by
  unfold ReceivedMessage.kept
  cases p.service.running with
  | false => exact Or.inl rfl
  | true =>
    cases message.payload.isEmpty || !taskInterface with
    | true => exact Or.inl rfl
    | false => exact Or.inr rfl

/-- The arrival of a message moves it behind those that wait, or loses it. -/
theorem pending_arrive (a b : ι) (taskInterface : Bool) {payload : Bytes} {rest : List Bytes}
    (hqueue : w.links.queue a b = payload :: rest) (i j : ι) :
    let message : ReceivedMessage := ⟨payload, players.connection a⟩
    pendingFrom players i j (w.arrive players a b taskInterface) =
      if i = a ∧ j = b then
        waitingFrom players a b w ++ (fromConnection (players.connection a)
          (if (w.plugins b).service.running then message.kept taskInterface else none).toList ++ rest)
      else pendingFrom players i j w := by
  have hhead : (w.links.queue a b).head? = some payload := by rw [hqueue, List.head?_cons]
  unfold World.arrive pendingFrom waitingFrom
  rw [hhead]
  dsimp only
  rw [Links.queue_pop]
  by_cases hlink : i = a ∧ j = b
  · obtain ⟨rfl, rfl⟩ := hlink
    rw [if_pos ⟨rfl, rfl⟩, if_pos ⟨rfl, rfl⟩, Function.update_self, waiting_listen_eq, fromConnection_append, hqueue, List.tail_cons,
      List.append_assoc]
  · rw [if_neg hlink, if_neg hlink]
    congr 1
    by_cases hj : j = b
    · subst hj
      have hi : players.connection a ≠ players.connection i := fun h => hlink ⟨(players.distinct h).symm, rfl⟩
      rw [Function.update_self, waiting_listen_eq, fromConnection_append]
      rcases kept_cases (w.plugins j) ⟨payload, players.connection a⟩ taskInterface with hkept | hkept
      · rw [hkept]
        exact List.append_nil _
      · rw [hkept]
        simp [fromConnection, hi]
    · rw [Function.update_of_ne hj]

/-- Nothing arrives over an empty link. -/
theorem arrive_nil (a b : ι) (taskInterface : Bool) (hqueue : w.links.queue a b = []) :
    w.arrive players a b taskInterface = w := by
  rw [World.arrive, hqueue, List.head?_nil]

/-- Nothing is to be handled after an arrival that was not before, nor in another order. -/
theorem pending_arrive_sublist (a b : ι) (taskInterface : Bool) (i j : ι) :
    (pendingFrom players i j (w.arrive players a b taskInterface)).Sublist (pendingFrom players i j w) := by
  cases hqueue : w.links.queue a b with
  | nil =>
    rw [arrive_nil a b taskInterface hqueue]
  | cons payload rest =>
    rw [pending_arrive a b taskInterface hqueue]
    split
    · rename_i hlink
      obtain ⟨rfl, rfl⟩ := hlink
      rw [pendingFrom, hqueue]
      refine List.Sublist.append_left ?_ _
      rcases kept_cases (w.plugins j) ⟨payload, players.connection i⟩ taskInterface with hkept | hkept
      · rw [hkept]
        exact List.sublist_cons_self payload rest
      · rw [hkept]
        simp [fromConnection]
    · exact List.Sublist.refl _

/-- Nobody sends an empty message. -/
def World.NoEmpty (w : World ι) : Prop := ∀ i j, ∀ payload ∈ w.links.queue i j, payload ≠ []

/-- Nothing is lost by an arrival at a player who listens. -/
theorem pending_arrive_listens {a b : ι} (hempty : w.NoEmpty) (hlistens : (w.plugins b).service.running = true) (i j : ι) :
    pendingFrom players i j (w.arrive players a b true) = pendingFrom players i j w := by
  cases hqueue : w.links.queue a b with
  | nil =>
    rw [arrive_nil a b true hqueue]
  | cons payload rest =>
    have hpayload : payload ≠ [] := hempty a b payload (by rw [hqueue]; exact List.mem_cons_self)
    rw [pending_arrive a b true hqueue]
    split
    · rename_i hlink
      obtain ⟨rfl, rfl⟩ := hlink
      rw [pendingFrom, hqueue]
      simp [ReceivedMessage.kept, fromConnection, hpayload]
    · rfl

/-- Every step keeps it that nobody sends an empty message. -/
theorem noEmpty_step (h : w.NoEmpty) (e : WorldEvent players) : ((multiplayer players).step w e).1.NoEmpty := by
  intro i j payload hmem
  cases e with
  | own a e =>
    change payload ∈ (w.links.broadcast a _).queue i j at hmem
    rw [Links.queue_broadcast] at hmem
    split at hmem
    · rcases List.mem_append.mp hmem with hold | hnew
      · exact h i j payload hold
      · rw [filterMap_posted] at hnew
        obtain ⟨call, -, rfl⟩ := List.mem_map.mp hnew
        exact encodeArmorState_ne_nil _ _ _
    · exact h i j payload hmem
  | arrive a b taskInterface =>
    change payload ∈ (w.arrive players a b taskInterface).links.queue i j at hmem
    unfold World.arrive at hmem
    cases hhead : (w.links.queue a b).head? with
    | none =>
      rw [hhead] at hmem
      exact h i j payload hmem
    | some first =>
      rw [hhead] at hmem
      dsimp only at hmem
      rw [Links.queue_pop] at hmem
      split at hmem
      · exact h i j payload (List.mem_of_mem_tail hmem)
      · exact h i j payload hmem

/-! ## Whole runs -/

variable (players) in
/-- Whoever is handed a message listens, and has a task interface. -/
def Listens (w : World ι) : WorldEvent players → Prop
  | .arrive _ j taskInterface => taskInterface = true ∧ (w.plugins j).service.running = true
  | .own .. => True

theorem handledFrom_append (i j : ι) (out new : List (WorldOutput ι)) :
    handledFrom players i j (out ++ new) = handledFrom players i j out ++ handledFrom players i j new := by
  rw [handledFrom, outputsOf_append, handledMessages_append, fromConnection_append]
  rfl

variable (players) in
/-- Nobody has sent an empty message in any run. -/
theorem noEmpty_run (proxies : ι → ProxyResolver) (actors : ι → FormID → ProxyActor) (es : List (WorldEvent players)) :
    ((multiplayer players).run (World.loaded proxies actors) es).1.NoEmpty :=
  (multiplayer players).run_induction (P := fun _ w _ => w.NoEmpty) (fun _ _ _ h => by cases h)
    (fun _ _ _ e h => noEmpty_step h e) es

variable {i j : ι} (hij : i ≠ j)

include hij

/-- An action after some others handles what is first to be handled. -/
theorem handled_act (a : ι) (e : PluginEvent (players.session a)) (out : List (WorldOutput ι)) :
    handledFrom players i j (out ++ (w.act players a e).2) ++ pendingFrom players i j (w.act players a e).1 =
      handledFrom players i j out ++ pendingFrom players i j w ++ posted i (w.act players a e).2 := by
  rw [handledFrom_append, List.append_assoc, pending_act a e hij, List.append_assoc]

/-- In every run, from any moment on: what is handled, and what is left to be handled, is in order among what was to be handled and
what is posted. -/
theorem handled_sublist_from (es : List (WorldEvent players)) :
    (handledFrom players i j ((multiplayer players).run w es).2 ++
        pendingFrom players i j ((multiplayer players).run w es).1).Sublist
      (pendingFrom players i j w ++ posted i ((multiplayer players).run w es).2) := by
  refine (multiplayer players).run_induction (P := fun _ w' out => (handledFrom players i j out ++ pendingFrom players i j w').Sublist
    (pendingFrom players i j w ++ posted i out)) ?_ ?_ es
  · rw [posted, outputsOf, List.filterMap_nil, List.filterMap_nil, List.append_nil]
    exact List.Sublist.refl _
  · intro _ w' out e h
    cases e with
    | own a e =>
      change (handledFrom players i j (out ++ (w'.act players a e).2) ++ pendingFrom players i j (w'.act players a e).1).Sublist
        (_ ++ posted i (out ++ (w'.act players a e).2))
      rw [handled_act hij, posted_append, ← List.append_assoc]
      exact h.append_right _
    | arrive a b taskInterface =>
      change (handledFrom players i j (out ++ []) ++ pendingFrom players i j (w'.arrive players a b taskInterface)).Sublist
        (_ ++ posted i (out ++ []))
      rw [List.append_nil]
      exact ((pending_arrive_sublist a b taskInterface i j).append_left _).trans h

/-- From a moment on from which whoever is handed a message listens, what is handled, and what is left to be handled, is what was to be
handled and what is posted. -/
theorem handled_from (hempty : w.NoEmpty) (es : List (WorldEvent players))
    (hes : (multiplayer players).Along (Listens players) w es) :
    handledFrom players i j ((multiplayer players).run w es).2 ++ pendingFrom players i j ((multiplayer players).run w es).1 =
      pendingFrom players i j w ++ posted i ((multiplayer players).run w es).2 := by
  have hrun : ((multiplayer players).run w es).1.NoEmpty ∧
      handledFrom players i j ((multiplayer players).run w es).2 ++ pendingFrom players i j ((multiplayer players).run w es).1 =
        pendingFrom players i j w ++ posted i ((multiplayer players).run w es).2 := by
    refine (multiplayer players).run_induction_along (C := Listens players) (P := fun _ w' out => w'.NoEmpty ∧
      handledFrom players i j out ++ pendingFrom players i j w' = pendingFrom players i j w ++ posted i out) ?_ ?_ es hes
    · rw [posted, outputsOf, List.filterMap_nil, List.filterMap_nil, List.append_nil]
      exact ⟨hempty, rfl⟩
    · rintro _ w' out e he ⟨hkept, h⟩
      refine ⟨noEmpty_step hkept e, ?_⟩
      cases e with
      | own a e =>
        change handledFrom players i j (out ++ (w'.act players a e).2) ++ pendingFrom players i j (w'.act players a e).1 =
          _ ++ posted i (out ++ (w'.act players a e).2)
        rw [handled_act hij, posted_append, ← List.append_assoc, h]
      | arrive a b taskInterface =>
        obtain ⟨rfl, hlistens⟩ := he
        change handledFrom players i j (out ++ []) ++ pendingFrom players i j (w'.arrive players a b true) = _ ++ posted i (out ++ [])
        rw [List.append_nil, pending_arrive_listens hkept hlistens, h]
  exact hrun.2

/-- In every run in which whoever is handed a message listens, what is handled, waits and is under way is what was posted. -/
theorem handled_eq_posted (proxies : ι → ProxyResolver) (actors : ι → FormID → ProxyActor) (es : List (WorldEvent players))
    (hes : (multiplayer players).Along (Listens players) (World.loaded proxies actors) es) :
    let r := (multiplayer players).run (World.loaded proxies actors) es
    handledFrom players i j r.2 ++ (waitingFrom players i j r.1 ++ r.1.links.queue i j) = posted i r.2 :=
  handled_from hij (noEmpty_run players proxies actors []) es hes

end

end DAVSyncTogether
