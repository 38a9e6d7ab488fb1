import DAVSyncTogether.Run
import DAVSyncTogether.Lemmas.RenamedCapture
import DAVSyncTogether.Lemmas.SameDiff
import DAVSyncTogether.Theorems.Identity

/-!
# Captures of one game

In a lawful session the inventory lists each worn armor once, so a captured snapshot has different keys
(`distinctKeys_captureLocalPlayer`), and the armors of all captures are armors of one game (`Session.Lawful.oneGame`). A look
at the player is what one run of `TickOnGameThread` meets; it is one tick of `gatedProbe`, or none (`step_liveProbe`).
-/

namespace DAVSyncTogether

open ByteString SortUnique

/-- No file name of the session holds a separator of the hash or is its word for unstable identities. -/
def Session.PlainFiles (s : Session) : Prop :=
  ∀ f, s.Loaded f → ∀ file, f.toTESForm.sourceFile = some file →
    (0xFE : UInt8) ∉ file ∧ (0xFF : UInt8) ∉ file ∧ file ≠ ascii "runtime"

/-- A state that the probe captured of an armor of the session. -/
def Session.Captures (s : Session) (a : WornArmorState) : Prop :=
  ∃ m armor, s.Loaded (.armo armor) ∧ a = DAVProbe.captureArmor s m armor

section

variable {s : Session}

/-! ## Captured armors -/

/-- The identities of a captured armor are made in the session. -/
theorem Session.Lawful.makes_of_captures (hs : s.Lawful) {a : WornArmorState} (ha : s.Captures a) :
    ∀ i ∈ a.identities, s.Makes i := by
  obtain ⟨m, armor, harmor, rfl⟩ := ha
  intro i hi
  rcases List.mem_cons.mp hi with rfl | hi
  · exact Or.inl ⟨.armo armor, harmor, rfl⟩
  · obtain ⟨id, -, rfl⟩ := List.mem_map.mp (sortUnique_subset _ _ _ i hi)
    exact hs.makes_ofID id

/-- An identity that is made in a session names a plain file or none. -/
theorem Session.PlainFiles.plugin (hplain : s.PlainFiles) {i : FormIdentity} (hi : s.Makes i) :
    (0xFE : UInt8) ∉ i.plugin ∧ (0xFF : UInt8) ∉ i.plugin ∧ i.plugin ≠ ascii "runtime" := by
  have hnone : (0xFE : UInt8) ∉ ([] : Bytes) ∧ (0xFF : UInt8) ∉ ([] : Bytes) ∧ [] ≠ ascii "runtime" := by decide
  rcases hi with ⟨f, hf, rfl⟩ | ⟨id, -, rfl⟩
  · rw [makeFormIdentity]
    cases hfile : f.toTESForm.sourceFile with
    | none => exact hnone
    | some file => exact hplain f hf file hfile
  · exact hnone

/-- The captures of a lawful session with plain file names are armors of one game. -/
theorem Session.Lawful.oneGame (hs : s.Lawful) (hplain : s.PlainFiles) {armors : List WornArmorState}
    (h : ∀ a ∈ armors, s.Captures a) : OneGame armors where
  plain a ha i hi := hplain.plugin (hs.makes_of_captures (h a ha) i hi)
  runtime a ha b hb i hi j hj := (hs.makes_of_captures (h a ha) i hi).eq_of_runtimeFormID (hs.makes_of_captures (h b hb) j hj)
  baseAddons a ha b hb heqv := by
    have hab := (hs.stableEquivalent_iff (hs.makes_of_captures (h a ha) _ List.mem_cons_self)
      (hs.makes_of_captures (h b hb) _ List.mem_cons_self)).mp heqv
    obtain ⟨m, armor, harmor, rfl⟩ := h a ha
    obtain ⟨m', armor', harmor', rfl⟩ := h b hb
    -- One identity is that of one armor, and the base addons are read off the armor alone.
    rw [harmor.eq_of_makeFormIdentity harmor' hab]
    rfl

end

namespace DAVProbe

section

variable {s : Session}

/-! ## Captured snapshots -/

/-- What is captured of a player whose worn armors are forms of the session. -/
theorem captures_of_mem_wornArmors {davLoaded : Bool} {player : Option PlayerCharacter}
    (hloaded : ∀ p ∈ player, ∀ a ∈ p.worn, s.Loaded (.armo a)) :
    ∀ a ∈ (captureLocalPlayer s davLoaded player).wornArmors, s.Captures a := by
  intro a ha
  cases player with
  | none => cases ha
  | some p =>
    by_cases hnull : p.object3D = .null
    · rw [captureLocalPlayer_null s davLoaded hnull] at ha
      cases ha
    · rw [wornArmors_captureLocalPlayer s davLoaded hnull, List.mem_insertionSort] at ha
      obtain ⟨armor, harmor, rfl⟩ := List.mem_map.mp ha
      exact ⟨_, armor, hloaded p rfl armor harmor, rfl⟩

/-- In a lawful session the captured armors have different keys when the inventory lists each worn armor once. -/
theorem distinctKeys_captureLocalPlayer (hs : s.Lawful) {davLoaded : Bool} {player : Option PlayerCharacter}
    (hloaded : ∀ p ∈ player, ∀ a ∈ p.worn, s.Loaded (.armo a)) (hnodup : ∀ p ∈ player, p.worn.Nodup) :
    (captureLocalPlayer s davLoaded player).DistinctKeys := by
  unfold DAVStateSnapshot.DistinctKeys
  cases player with
  | none => exact List.nodup_nil
  | some p =>
    by_cases hnull : p.object3D = .null
    · rw [captureLocalPlayer_null s davLoaded hnull]
      exact List.nodup_nil
    · rw [wornArmors_captureLocalPlayer s davLoaded hnull, ((List.perm_insertionSort _ _).map _).nodup_iff, List.map_map]
      refine List.Nodup.map_on (fun a ha b hb hkey => ?_) (hnodup p rfl)
      have ha' := hloaded p rfl a ha
      have hb' := hloaded p rfl b hb
      exact ha'.eq_of_makeFormIdentity hb' (hs.stableKey_injective (Or.inl ⟨_, ha', rfl⟩) (Or.inl ⟨_, hb', rfl⟩) hkey)

end

/-! ## Looks at the player -/

/-- What `TickOnGameThread` meets: DAV, and the player, if any, whose worn armors are forms of the session, each listed once. -/
structure Look (s : Session) extends Surroundings where
  davLoaded : Bool
  player : Option PlayerCharacter
  loaded : ∀ p ∈ player, ∀ a ∈ p.worn, s.Loaded (.armo a)
  nodup : ∀ p ∈ player, p.worn.Nodup

section

variable {s : Session}

/-- The probe as the game runs it. -/
def liveProbe (s : Session) (index : DAVConfigIndex) : Machine State (Look s) SendCall :=
  ⟨fun p look => tickOnGameThread s index look.toSurroundings p look.davLoaded look.player⟩

/-- The snapshot of a look; none of a player who has no name, or still the one of the opening. -/
def Look.tick (hs : s.Lawful) (look : Look s) : Option Tick :=
  let snapshot := captureLocalPlayer s look.davLoaded look.player
  if snapshot.playerName.isEmpty || snapshot.playerName = ascii "Prisoner" then none
  else
    some { toSurroundings := look.toSurroundings
           snapshot := snapshot
           distinct := distinctKeys_captureLocalPlayer hs look.loaded look.nodup }

/-- A player who is not there, or has no 3D, is captured without a name. -/
theorem tickOnGameThread_eq (s : Session) (index : DAVConfigIndex) (w : Surroundings) (p : State) (davLoaded : Bool)
    (player : Option PlayerCharacter) :
    tickOnGameThread s index w p davLoaded player =
      let current := captureLocalPlayer s davLoaded player
      if current.playerName.isEmpty || current.playerName = ascii "Prisoner" then (p, [])
      else gatedSnapshot s index w p current := by
  unfold tickOnGameThread
  cases player with
  | none => rfl
  | some player =>
    cases hobject : player.object3D with
    | null =>
      rw [captureLocalPlayer_null s davLoaded hobject]
      simp only [hobject]
      rfl
    | geometry name appCulled => simp only [hobject]
    | node name appCulled children => simp only [hobject]

/-- A look is one tick of `gatedProbe` over its snapshot, or none. -/
theorem step_liveProbe (hs : s.Lawful) (index : DAVConfigIndex) (p : State) (look : Look s) :
    (liveProbe s index).step p look = (look.tick hs).elim (p, []) ((gatedProbe s index).step p) := by
  change tickOnGameThread s index look.toSurroundings p look.davLoaded look.player = _
  rw [tickOnGameThread_eq, Look.tick]
  dsimp only
  split
  · rfl
  · rfl

theorem snapshot_of_tick {hs : s.Lawful} {look : Look s} {t : Tick} (h : look.tick hs = some t) :
    t.snapshot = captureLocalPlayer s look.davLoaded look.player := by
  unfold Look.tick at h
  dsimp only at h
  split at h
  · cases h
  · rw [← Option.some.inj h]

end

end DAVProbe

end DAVSyncTogether
