import DAVSyncTogether.Lemmas.Games

/-!
# Armors are processed one by one

A comparison is, at every key, one step of the tracker of that armor (`logSnapshotDiff_key`), so what it does about an armor
does not depend on the other armors, nor on the order in which they are listed (`armors_independent`). With one service
throughout, what is handed to the API depends on the message alone (`sent_eq_calls`).
-/

namespace DAVSyncTogether

open ByteString

namespace DAVProbe

/-! ## Calls with one service -/

/-- The call of `SendArmorState` that a message becomes when the service is the same at every send. -/
def StateMessage.call (s : Session) (index : DAVConfigIndex) (service : DAVNetworkService) (m : StateMessage) : SendCall :=
  { m with transmission := sendArmorState s index service m.armor m.variant m.unequipped }

section

variable {s : Session} {index : DAVConfigIndex} {w : Surroundings} {service : DAVNetworkService}

/-- Every call of the comparison so far met the service. -/
def Diff.MetService (s : Session) (index : DAVConfigIndex) (service : DAVNetworkService) (d : Diff) : Prop :=
  d.sent = (messages d.sent).map (StateMessage.call s index service)

theorem Diff.MetService.send {d : Diff} (h : d.MetService s index service) (hw : ∀ i, w.network i = service)
    (armor : WornArmorState) (variant : Bytes) (unequipped : Bool) :
    (d.send s index w armor variant unequipped).MetService s index service := by
  unfold Diff.MetService Diff.send at *
  rw [messages_append, List.map_append, ← h, hw]
  rfl

/-- The guard check sends nothing. -/
theorem sent_checkGuard (d : Diff) (armor : WornArmorState) (selected : Bytes) :
    (d.checkGuard w armor selected).2.sent = d.sent := by
  unfold Diff.checkGuard
  dsimp only
  split
  · split
    · rfl
    · rfl
  · rfl

theorem Diff.MetService.diffCurrent {d : Diff} (h : d.MetService s index service) (hw : ∀ i, w.network i = service)
    (hasPrevious : Bool) (previousByForm : AList (fun _ : Bytes => WornArmorState)) (armor : WornArmorState) :
    (diffCurrent s index w hasPrevious previousByForm d armor).MetService s index service := by
  unfold DAVProbe.diffCurrent
  dsimp only
  have harm : (if hasPrevious && (previousByForm.lookup armor.stableKey).isNone then d.arm w armor.stableKey else d).MetService
      s index service := by
    split
    · exact h
    · exact h
  generalize (if hasPrevious && (previousByForm.lookup armor.stableKey).isNone then d.arm w armor.stableKey else d) = d' at harm ⊢
  split
  · exact harm
  · split
    · split
      · exact harm
      · rename_i selected _
        have hguard : (d'.checkGuard w armor selected).2.MetService s index service := by
          unfold Diff.MetService
          rw [sent_checkGuard]
          exact harm
        split
        · exact hguard
        · exact hguard.send hw armor selected false
    · split
      · exact harm.send hw armor _ false
      · exact harm

theorem Diff.MetService.diffPrevious {d : Diff} (h : d.MetService s index service) (hw : ∀ i, w.network i = service)
    (currentForms : List Bytes) (armor : WornArmorState) :
    (diffPrevious s index w currentForms d armor).MetService s index service := by
  unfold DAVProbe.diffPrevious
  dsimp only
  have hdisarm : (d.disarm armor.stableKey).MetService s index service := h
  split
  · exact h
  · split
    · exact hdisarm.send hw armor _ true
    · exact hdisarm

/-- With one service throughout, the calls of a comparison are those its messages become. -/
theorem sent_eq_calls (hw : ∀ i, w.network i = service) (p : State) (current : DAVStateSnapshot) :
    (logSnapshotDiff s index w p current).sent =
      (messages (logSnapshotDiff s index w p current).sent).map (StateMessage.call s index service) := by
  have hstart : (⟨p.networkTrackedVariants, p.recentReequips, [], 0⟩ : Diff).MetService s index service := rfl
  have hcurrent : ∀ m, (current.wornArmors.foldl (diffCurrent s index w p.hasPrevious m)
      ⟨p.networkTrackedVariants, p.recentReequips, [], 0⟩).MetService s index service := fun m =>
    List.foldlRecOn (motive := Diff.MetService s index service) current.wornArmors _ hstart
      fun d h armor _ => h.diffCurrent hw _ m armor
  change (logSnapshotDiff s index w p current).MetService s index service
  unfold logSnapshotDiff
  dsimp only
  split
  · exact List.foldlRecOn (motive := Diff.MetService s index service) p.previous.wornArmors _ (hcurrent _)
      fun d h armor _ => h.diffPrevious hw _ armor
  · exact hcurrent _

/-- The calls about an armor are those that the messages about it become. -/
theorem filter_sent_eq_calls (hw : ∀ i, w.network i = service) (p : State) (current : DAVStateSnapshot) (k : Bytes) :
    (logSnapshotDiff s index w p current).sent.filter (fun c => c.stableKey = k) =
      (about k (messages (logSnapshotDiff s index w p current).sent)).map (StateMessage.call s index service) := by
  conv_lhs => rw [sent_eq_calls hw p current]
  rw [List.filter_map]
  rfl

end

/-! ## Two steps that agree on one armor -/

/-- Two comparisons at one clock value, with one configuration, that agree on whether there is a previous snapshot, on the
armor's entry in the previous and in the current snapshot, and on its entries in the two maps, do the same about the armor:
they send the same messages about it, hand the same to the API when the service is the same, and leave the same entries for
it. -/
theorem armors_independent (s : Session) (index : DAVConfigIndex) (w w' : Surroundings) (now : Int)
    (hw : ∀ i, w.clock i = now) (hw' : ∀ i, w'.clock i = now) (p p' : State) (current current' : DAVStateSnapshot)
    (hp : p.previous.DistinctKeys) (hp' : p'.previous.DistinctKeys) (hc : current.DistinctKeys) (hc' : current'.DistinctKeys)
    (k : Bytes) (hprevious : p.hasPrevious = p'.hasPrevious)
    (hbefore : p.hasPrevious = true → p.previous.find k = p'.previous.find k) (hnow : current.find k = current'.find k)
    (htracked : p.networkTrackedVariants.lookup k = p'.networkTrackedVariants.lookup k)
    (hreequip : p.recentReequips.lookup k = p'.recentReequips.lookup k) :
    let d := logSnapshotDiff s index w p current
    let d' := logSnapshotDiff s index w' p' current'
    about k (messages d.sent) = about k (messages d'.sent) ∧
    d.networkTrackedVariants.lookup k = d'.networkTrackedVariants.lookup k ∧
    d.recentReequips.lookup k = d'.recentReequips.lookup k ∧
    ∀ service, (∀ i, w.network i = service) → (∀ i, w'.network i = service) →
      d.sent.filter (fun c => c.stableKey = k) = d'.sent.filter (fun c => c.stableKey = k) := by
  intro d d'
  obtain ⟨i, j, -, hd⟩ := logSnapshotDiff_key s index w p current hp hc k
  obtain ⟨i', j', -, hd'⟩ := logSnapshotDiff_key s index w' p' current' hp' hc' k
  have hstate : p.keyState k = p'.keyState k := by
    rw [State.keyState, State.keyState, htracked, hreequip]
  have hsame : p.before k = p'.before k := by
    unfold State.before
    rw [← hprevious]
    split
    · rename_i h
      exact hbefore h
    · rfl
  have hview : d.view k = d'.view k := by
    rw [hd, hd', hstate, hsame, hprevious, hnow, hw, hw, hw', hw']
  have habout : about k (messages d.sent) = about k (messages d'.sent) := congrArg Prod.snd hview
  refine ⟨habout, congrArg (fun v => v.1.tracked) hview, congrArg (fun v => v.1.reequip) hview, fun service hn hn' => ?_⟩
  rw [filter_sent_eq_calls hn, filter_sent_eq_calls hn', habout]

/-- Boots that no rule touches. -/
def Boots.worn : WornArmorState where
  armor := { runtimeFormID := 0x05000900, localFormID := 0x900, plugin := ascii "Boots.esp" }
  visualState := .visible

/-- The helmet is hidden, alone, and while boots are put on. -/
theorem armors_independent_helmet :
    let p : State := { hasPrevious := true, previous := (Helmet.tick Helmet.sending Helmet.visible).snapshot }
    let p' : State := { hasPrevious := true, previous := { wornArmors := [Helmet.visible] } }
    let w := (Helmet.tick Helmet.sending Helmet.visible).toSurroundings
    let d := logSnapshotDiff Helmet.session Helmet.index w p { wornArmors := [Helmet.hidden] }
    let d' := logSnapshotDiff Helmet.session Helmet.index w p' { wornArmors := [Boots.worn, Helmet.hidden] }
    about Helmet.hidden.stableKey (messages d.sent) = about Helmet.hidden.stableKey (messages d'.sent) :=
  (armors_independent Helmet.session Helmet.index (Helmet.tick Helmet.sending Helmet.visible).toSurroundings
    (Helmet.tick Helmet.sending Helmet.visible).toSurroundings 0 (fun _ => rfl) (fun _ => rfl)
    { hasPrevious := true, previous := (Helmet.tick Helmet.sending Helmet.visible).snapshot }
    { hasPrevious := true, previous := { wornArmors := [Helmet.visible] } } { wornArmors := [Helmet.hidden] }
    { wornArmors := [Boots.worn, Helmet.hidden] } (by decide) (by decide) (by decide) (by decide) Helmet.hidden.stableKey rfl
    (fun _ => rfl) (by decide) rfl rfl).1

end DAVProbe

end DAVSyncTogether
