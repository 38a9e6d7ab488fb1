import DAVSyncTogether.Lemmas.DiffKey
import DAVSyncTogether.Lib.Machine

/-!
# Runs of the probe

A tick brings a snapshot whose armors have different keys, and the surroundings of its comparison. `probe` processes every
tick, `gatedProbe` only those that pass the hash gate, and `probeEvents` also meets the resets that `OnSKSEMessage` issues
before and after a game is loaded.
-/

namespace DAVSyncTogether

open ByteString

namespace DAVProbe

/-- A tick that is about to be processed. -/
structure Tick extends Surroundings where
  snapshot : DAVStateSnapshot
  distinct : snapshot.DistinctKeys

/-- What happens to the probe: a tick is processed, or a game is loaded (`kPreLoadGame`, `kPostLoadGame`). -/
inductive Event where
  | tick (t : Tick)
  | reset

section

variable (s : Session) (index : DAVConfigIndex)

/-- The probe without the hash gate. -/
def probe : Machine State Tick SendCall := ⟨fun p t => processSnapshot s index t.toSurroundings p t.snapshot⟩

/-- The probe as `TickOnGameThread` runs it. -/
def gatedProbe : Machine State Tick SendCall := ⟨fun p t => gatedSnapshot s index t.toSurroundings p t.snapshot⟩

/-- The probe over ticks and resets. -/
def probeEvents : Machine State Event SendCall :=
  ⟨fun p e =>
    match e with
    | .tick t => processSnapshot s index t.toSurroundings p t.snapshot
    | .reset => (reset p, [])⟩

end

/-! ## A tick, from one armor -/

/-- A processed tick is one step of the tracker of every armor, and its messages about the armor are the message of that
step. -/
theorem processSnapshot_key (s : Session) (index : DAVConfigIndex) (w : Surroundings) (p : State)
    (current : DAVStateSnapshot) (hp : p.previous.DistinctKeys) (hc : current.DistinctKeys) (k : Bytes) :
    ∃ i j, i ≤ j ∧
      (processSnapshot s index w p current).1.keyState k =
        ((p.keyState k).step (selectVariant s index) p.hasPrevious (p.before k) (current.find k) (w.clock i)
          (w.clock j)).1 ∧
      about k (messages (processSnapshot s index w p current).2) =
        ((p.keyState k).step (selectVariant s index) p.hasPrevious (p.before k) (current.find k) (w.clock i)
          (w.clock j)).2.toList := by
  obtain ⟨i, j, hij, hview⟩ := logSnapshotDiff_key s index w p current hp hc k
  exact ⟨i, j, hij, congrArg Prod.fst hview, congrArg Prod.snd hview⟩

@[simp] theorem previous_processSnapshot (s : Session) (index : DAVConfigIndex) (w : Surroundings) (p : State)
    (current : DAVStateSnapshot) : (processSnapshot s index w p current).1.previous = current := rfl

end DAVProbe

end DAVSyncTogether
