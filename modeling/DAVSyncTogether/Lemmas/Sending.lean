import DAVSyncTogether.Theorems.Independence
import DAVSyncTogether.Theorems.Wire
import DAVSyncTogether.Lemmas.Capturing

/-!
# The calls of a tick

Every call of `SendArmorState` in a comparison is about an armor of one of the two snapshots, and hands over what
`sendArmorState` makes of it with the service that it meets (`madeIn_logSnapshotDiff`).
-/

namespace DAVSyncTogether

namespace DAVProbe

/-- The call is about one of the armors, and was made with the service that some call of the comparison meets. -/
structure SendCall.MadeIn (s : Session) (index : DAVConfigIndex) (w : Surroundings) (armors : List WornArmorState)
    (call : SendCall) : Prop where
  mem : call.armor ∈ armors
  transmission : ∃ n, call.transmission = sendArmorState s index (w.network n) call.armor call.variant call.unequipped

section

variable {s : Session} {index : DAVConfigIndex} {w : Surroundings} {armors : List WornArmorState}

/-- All calls of a comparison so far are about the armors. -/
def Diff.MadeIn (s : Session) (index : DAVConfigIndex) (w : Surroundings) (armors : List WornArmorState) (d : Diff) : Prop :=
  ∀ call ∈ d.sent, call.MadeIn s index w armors

theorem Diff.MadeIn.send {d : Diff} (h : d.MadeIn s index w armors) {armor : WornArmorState} (harmor : armor ∈ armors)
    (variant : Bytes) (unequipped : Bool) : (d.send s index w armor variant unequipped).MadeIn s index w armors := by
  intro call hcall
  rcases List.mem_append.mp hcall with hcall | hcall
  · exact h call hcall
  · rw [List.mem_singleton.mp hcall]
    exact ⟨harmor, _, rfl⟩

theorem Diff.MadeIn.diffCurrent {d : Diff} (h : d.MadeIn s index w armors) (hasPrevious : Bool)
    (previousByForm : AList (fun _ : Bytes => WornArmorState)) {armor : WornArmorState} (harmor : armor ∈ armors) :
    (diffCurrent s index w hasPrevious previousByForm d armor).MadeIn s index w armors := by
  unfold DAVProbe.diffCurrent
  dsimp only
  have harm : (if hasPrevious && (previousByForm.lookup armor.stableKey).isNone then d.arm w armor.stableKey else d).MadeIn
      s index w armors := by
    split
    · exact h
    · exact h
  generalize (if hasPrevious && (previousByForm.lookup armor.stableKey).isNone then d.arm w armor.stableKey else d) = d' at harm ⊢
  split
  · exact harm
  · split
    · split
      · exact harm
      · rename_i selected _
        have hguard : (d'.checkGuard w armor selected).2.MadeIn s index w armors := by
          unfold Diff.MadeIn
          rw [sent_checkGuard]
          exact harm
        split
        · exact hguard
        · exact hguard.send harmor selected false
    · split
      · exact harm.send harmor _ false
      · exact harm

theorem Diff.MadeIn.diffPrevious {d : Diff} (h : d.MadeIn s index w armors) (currentForms : List Bytes)
    {armor : WornArmorState} (harmor : armor ∈ armors) :
    (diffPrevious s index w currentForms d armor).MadeIn s index w armors := by
  unfold DAVProbe.diffPrevious
  dsimp only
  have hdisarm : (d.disarm armor.stableKey).MadeIn s index w armors := h
  split
  · exact h
  · split
    · exact hdisarm.send harmor _ true
    · exact hdisarm

/-- The calls of a comparison are about the armors worn now and those worn before. -/
theorem madeIn_logSnapshotDiff (p : State) (current : DAVStateSnapshot) :
    (logSnapshotDiff s index w p current).MadeIn s index w (current.wornArmors ++ p.previous.wornArmors) := by
  have hcurrent : ∀ m, (current.wornArmors.foldl (DAVProbe.diffCurrent s index w p.hasPrevious m)
      ⟨p.networkTrackedVariants, p.recentReequips, [], 0⟩).MadeIn s index w (current.wornArmors ++ p.previous.wornArmors) :=
    fun m => List.foldlRecOn (motive := Diff.MadeIn s index w (current.wornArmors ++ p.previous.wornArmors)) current.wornArmors _
      nofun fun d h armor harmor => h.diffCurrent _ m (List.mem_append_left _ harmor)
  unfold logSnapshotDiff
  dsimp only
  split
  · exact List.foldlRecOn (motive := Diff.MadeIn s index w (current.wornArmors ++ p.previous.wornArmors)) p.previous.wornArmors _
      (hcurrent _) fun d h armor harmor => h.diffPrevious _ (List.mem_append_right _ harmor)
  · exact hcurrent _

/-- A tick that is not processed calls nothing. -/
theorem madeIn_gatedSnapshot (p : State) (current : DAVStateSnapshot) :
    ∀ call ∈ (gatedSnapshot s index w p current).2,
      call.MadeIn s index w (current.wornArmors ++ p.previous.wornArmors) := by
  unfold gatedSnapshot
  split
  · exact madeIn_logSnapshotDiff p current
  · nofun

/-- The calls of a look are about the armors captured now and those worn before. -/
theorem madeIn_step (index : DAVConfigIndex) (p : State) (look : Look s) :
    ∀ call ∈ ((liveProbe s index).step p look).2, call.MadeIn s index look.toSurroundings
      ((captureLocalPlayer s look.davLoaded look.player).wornArmors ++ p.previous.wornArmors) := by
  change ∀ call ∈ (tickOnGameThread s index look.toSurroundings p look.davLoaded look.player).2, _
  rw [tickOnGameThread_eq]
  dsimp only
  split
  · nofun
  · exact madeIn_gatedSnapshot p _

/-- The armors of the snapshot before were captured in the session. -/
def State.Captured (s : Session) (p : State) : Prop := ∀ a ∈ p.previous.wornArmors, s.Captures a

theorem captured_reset (p : State) : (reset p).Captured s := nofun

/-- A look keeps the armors of the snapshot before captured. -/
theorem State.Captured.step {p : State} (h : p.Captured s) (index : DAVConfigIndex) (look : Look s) :
    ((liveProbe s index).step p look).1.Captured s := by
  change (tickOnGameThread s index look.toSurroundings p look.davLoaded look.player).1.Captured s
  rw [tickOnGameThread_eq]
  dsimp only
  split
  · exact h
  · unfold gatedSnapshot
    split
    · exact captures_of_mem_wornArmors look.loaded
    · exact h

/-- The calls of a look are about captured armors. -/
theorem State.Captured.captures {p : State} (h : p.Captured s) {index : DAVConfigIndex} {look : Look s} {call : SendCall}
    (hcall : call ∈ ((liveProbe s index).step p look).2) : s.Captures call.armor := by
  rcases List.mem_append.mp (madeIn_step index p look call hcall).mem with hmem | hmem
  · exact captures_of_mem_wornArmors look.loaded _ hmem
  · exact h _ hmem

end

end DAVProbe

end DAVSyncTogether
