import DAVSyncTogether.Lemmas.PluginGames
import DAVSyncTogether.Theorems.HashGate

/-!
# From the player to the gate

What `TickOnGameThread` captures in a game with plain file names are armors of one game (`oneGame_looks`). So its gate loses nothing
of what the player shows: over any looks at the player whose hash tells the compared snapshots apart, it does what a probe does that
compares every snapshot (`live_gate_loses_nothing`).
-/

namespace DAVSyncTogether

open ByteString

namespace DAVProbe

/-- `TickOnGameThread` without the hash gate. -/
def comparingProbe (s : Session) (index : DAVConfigIndex) : Machine State (Look s) SendCall :=
  ⟨fun p look =>
    let current := captureLocalPlayer s look.davLoaded look.player
    if current.playerName.isEmpty || current.playerName = ascii "Prisoner" then (p, [])
    else processSnapshot s index look.toSurroundings p current⟩

section

variable {s : Session}

theorem step_comparingProbe (hs : s.Lawful) (index : DAVConfigIndex) (p : State) (look : Look s) :
    (comparingProbe s index).step p look = (look.tick hs).elim (p, []) ((probe s index).step p) := by
  change (if _ then _ else _) = _
  unfold Look.tick
  dsimp only
  split <;> rfl

/-- The armors that some looks capture are armors of one game. -/
theorem oneGame_looks (hs : s.Lawful) (hplain : s.PlainFiles) (looks : List (Look s)) :
    OneGame (looks.flatMap fun look => (captureLocalPlayer s look.davLoaded look.player).wornArmors) := by
  refine hs.oneGame hplain fun a ha => ?_
  obtain ⟨look, -, hlook⟩ := List.mem_flatMap.mp ha
  exact captures_of_mem_wornArmors look.loaded a hlook

/-- The hash tells what a look captures of a named player from the snapshot it is compared with, unless both feed it the same
bytes. -/
def LookSeparates (hs : s.Lawful) (p : State) (look : Look s) : Prop := ∀ t ∈ look.tick hs, HashSeparates p t

/-- One look: states that agree but for what is not hashed of the previous snapshot still do so after it, and it does the same. -/
theorem gate_look (hs : s.Lawful) {index : DAVConfigIndex} (hindex : index.Covered) {armors : List WornArmorState}
    (hgame : OneGame armors) {p q : State} (look : Look s) (hlook : LookSeparates hs p look ∧
      ∀ a ∈ (captureLocalPlayer s look.davLoaded look.player).wornArmors, a ∈ armors) (h : State.Same armors p q) :
    State.Same armors ((liveProbe s index).step p look).1 ((comparingProbe s index).step q look).1 ∧
      SameTick ((liveProbe s index).step p look) ((comparingProbe s index).step q look) := by
  rw [step_liveProbe hs, step_comparingProbe hs]
  cases ht : look.tick hs with
  | none => exact ⟨h, ⟨h.tracked, h.reequips, rfl⟩⟩
  | some t =>
    refine gate_step s hindex hgame t ⟨hlook.1 t ht, ?_⟩ h
    rw [snapshot_of_tick ht]
    exact hlook.2

/-- In a lawful session with plain file names, over any looks at the player whose hash tells the compared snapshots apart:
`TickOnGameThread` and the probe that compares every snapshot leave the same maps and send the same messages, look by look. -/
theorem live_gate_loses_nothing (hs : s.Lawful) (hplain : s.PlainFiles) (root : Option (List DirectoryEntry))
    (looks : List (Look s)) (hhash : (liveProbe s (load s root)).Along (LookSeparates hs) {} looks) :
    List.Forall₂ SameTick ((liveProbe s (load s root)).trace {} looks) ((comparingProbe s (load s root)).trace {} looks) := by
  have hgame := oneGame_looks hs hplain looks
  refine Machine.trace_simulation _ _ (R := State.Same _)
    (fun p q look hlook h => gate_look hs (load_covered s root) hgame look hlook h) looks
    (hhash.mono fun look hmem p hlook => ⟨hlook, fun a ha => List.mem_flatMap.mpr ⟨look, hmem, ha⟩⟩)
    ⟨rfl, rfl, rfl, fun h => ?_⟩
  cases h

end

end DAVProbe

/-! ## The player with the hidden helmet -/

namespace Swap

open DAVProbe

theorem plainFiles : session.PlainFiles := by
  intro f hf file hfile
  have hplain : ∀ f ∈ forms, ∀ file ∈ f.toTESForm.sourceFile,
      (0xFE : UInt8) ∉ file ∧ (0xFF : UInt8) ∉ file ∧ file ≠ ascii "runtime" := by decide
  exact hplain f ((listsForms.loaded_iff f).mp hf) file hfile

/-- A look at the player, or at nobody. -/
def look (meets : TaskMeets session) : Look session := meets.look { running := true, api := true }

end Swap

/-- The player is seen twice, with nobody in between. -/
theorem live_gate_loses_nothing_helmet :
    let looks := [Swap.look Swap.meets, Swap.look (.nobody Swap.session), Swap.look Swap.meets]
    List.Forall₂ SameTick ((DAVProbe.liveProbe Swap.session (load Swap.session Swap.root)).trace {} looks)
      ((DAVProbe.comparingProbe Swap.session (load Swap.session Swap.root)).trace {} looks) := by
  refine DAVProbe.live_gate_loses_nothing Swap.lawful Swap.plainFiles Swap.root _ ⟨?_, ?_, ?_, trivial⟩
  · intro t _ hprevious
    cases hprevious
  · rintro t ht
    cases ht
  · intro t ht _ _
    cases ht
    rfl

end DAVSyncTogether
