import DAVSyncTogether.Lib.Fnv
import DAVSyncTogether.Theorems.HashGate

/-!
# The hash sees every single change

Where two snapshots differ in one hashed item (whether DAV is loaded, the visual state of one armor, the ID of one armor or of
one rendered addon within its file), their hashes differ, whatever the other armors are: an item is a window of at most four
bytes, and FNV-1a confuses no two of them. So in a run of one game whose snapshots change by one item at a time, the gate
needs no luck to lose nothing (`gate_exact`).
-/

namespace DAVSyncTogether

open ByteString DAVProbe

/-- One item of a hashed armor is changed: its visual state, its ID, or the ID of one addon rendered for it. -/
inductive HashedArmor.ItemChange : HashedArmor → HashedArmor → Prop where
  | visualState (armor : Bytes × UInt32) (addons : List (Bytes × UInt32)) {v w : ArmorVisualState} (h : v ≠ w) :
      ItemChange ⟨armor, v, addons⟩ ⟨armor, w, addons⟩
  | armor (text : Bytes) (v : ArmorVisualState) (addons : List (Bytes × UInt32)) {l m : UInt32} (h : l ≠ m) :
      ItemChange ⟨(text, l), v, addons⟩ ⟨(text, m), v, addons⟩
  | addon (armor : Bytes × UInt32) (v : ArmorVisualState) (x y : List (Bytes × UInt32)) (text : Bytes) {l m : UInt32}
      (h : l ≠ m) : ItemChange ⟨armor, v, x ++ (text, l) :: y⟩ ⟨armor, v, x ++ (text, m) :: y⟩

/-- One hashed item of a snapshot is changed: whether DAV is loaded, or one item of one armor. -/
inductive DAVStateSnapshot.ItemChange (s t : DAVStateSnapshot) : Prop where
  | davLoaded (hdav : s.davLoaded ≠ t.davLoaded)
      (harmors : s.wornArmors.map WornArmorState.hashed = t.wornArmors.map WornArmorState.hashed)
  | armor (x y : List HashedArmor) {a b : HashedArmor} (hdav : s.davLoaded = t.davLoaded)
      (hs : s.wornArmors.map WornArmorState.hashed = x ++ a :: y)
      (ht : t.wornArmors.map WornArmorState.hashed = x ++ b :: y) (h : a.ItemChange b)

/-! ## An item is a window of the bytes -/

/-- Two texts that differ in a window of at most four bytes, and nowhere else. -/
def WindowChange (x y : Bytes) : Prop :=
  ∃ pre u v post, x = pre ++ (u ++ post) ∧ y = pre ++ (v ++ post) ∧ u.length = v.length ∧ u.length ≤ 4 ∧ u ≠ v

/-- A window of a part is a window of the whole. -/
theorem WindowChange.within {x y : Bytes} (h : WindowChange x y) (pre post : Bytes) :
    WindowChange (pre ++ (x ++ post)) (pre ++ (y ++ post)) := by
  obtain ⟨before, u, v, after, rfl, rfl, hwindow⟩ := h
  exact ⟨pre ++ before, u, v, after ++ post, by simp only [List.append_assoc], by simp only [List.append_assoc], hwindow⟩

theorem windowChange_byte {b c : UInt8} (h : b ≠ c) : WindowChange [b] [c] :=
  ⟨[], [b], [c], [], rfl, rfl, rfl, by simp, by simpa using h⟩

/-- The ID of an identity is a window of its bytes. -/
theorem windowChange_identityBytes (text : Bytes) {l m : UInt32} (h : l ≠ m) :
    WindowChange (identityBytes (text, l)) (identityBytes (text, m)) :=
  ⟨text ++ [0xFF], u32Bytes l, u32Bytes m, [], by simp [identityBytes], by simp [identityBytes], by simp [u32Bytes],
    by simp [u32Bytes], fun he => h (u32Bytes_injective he)⟩

/-- The changed item of an armor is a window of its bytes. -/
theorem HashedArmor.ItemChange.window {a b : HashedArmor} (h : a.ItemChange b) : WindowChange a.bytes b.bytes := by
  cases h with
  | visualState armor addons h =>
    have := (windowChange_byte fun he => h (toUInt8_injective he)).within (identityBytes armor)
      (addons.flatMap identityBytes ++ [0xFE])
    simpa [HashedArmor.bytes] using this
  | armor text v addons h =>
    have := (windowChange_identityBytes text h).within [] (v.toUInt8 :: (addons.flatMap identityBytes ++ [0xFE]))
    simpa [HashedArmor.bytes] using this
  | addon armor v x y text h =>
    have := (windowChange_identityBytes text h).within (identityBytes armor ++ v.toUInt8 :: x.flatMap identityBytes)
      (y.flatMap identityBytes ++ [0xFE])
    simpa [HashedArmor.bytes] using this

/-- The changed item of a snapshot is a window of the bytes the hash is fed. -/
theorem DAVStateSnapshot.ItemChange.window {s t : DAVStateSnapshot} (h : s.ItemChange t) :
    WindowChange s.stateBytes t.stateBytes := by
  unfold DAVStateSnapshot.stateBytes
  cases h with
  | davLoaded hdav harmors =>
    rw [harmors]
    refine (windowChange_byte fun he => hdav ?_).within [] _
    revert he
    cases s.davLoaded <;> cases t.davLoaded <;> simp
  | armor x y hdav hs ht h =>
    rw [hs, ht, hdav]
    have := h.window.within ((if t.davLoaded then 1 else 0) :: x.flatMap HashedArmor.bytes) (y.flatMap HashedArmor.bytes)
    simpa using this

/-- Snapshots that differ in one item have different hashes. -/
theorem DAVStateSnapshot.ItemChange.stateHash_ne {s t : DAVStateSnapshot} (h : s.ItemChange t) :
    s.stateHash ≠ t.stateHash := by
  obtain ⟨pre, u, v, post, hs, ht, hlen, hfour, hne⟩ := h.window
  rw [DAVStateSnapshot.stateHash_eq, DAVStateSnapshot.stateHash_eq, hs, ht]
  exact Fnv.foldl_step_window pre post hlen hfour hne

/-! ## Runs that change by one item at a time -/

/-- From one tick to the next the hashed part of the snapshot stays, or one item of it changes. -/
def ByItem (t u : Tick) : Prop :=
  t.snapshot.stateBytes = u.snapshot.stateBytes ∨ t.snapshot.ItemChange u.snapshot

/-- The hash tells two such snapshots apart. -/
theorem ByItem.stateHash_eq_iff {t u : Tick} (h : ByItem t u) :
    t.snapshot.stateHash = u.snapshot.stateHash ↔ t.snapshot.stateBytes = u.snapshot.stateBytes := by
  constructor
  · intro hhash
    rcases h with h | h
    · exact h
    · exact absurd hhash h.stateHash_ne
  · intro hbytes
    rw [DAVStateSnapshot.stateHash_eq, hbytes, ← DAVStateSnapshot.stateHash_eq]

/-- The hash of the next snapshot is that of a snapshot with the bytes of this one only when the bytes are the same. -/
theorem ByItem.hashSeparates {p : State} {t u : Tick} (h : ByItem t u)
    (hp : p.hasPrevious = true → p.previous.stateBytes = t.snapshot.stateBytes) : HashSeparates p u := by
  intro hprev hhash
  rw [DAVStateSnapshot.stateHash_eq p.previous, hp hprev, ← DAVStateSnapshot.stateHash_eq] at hhash
  rw [hp hprev, h.stateHash_eq_iff.mp hhash.symm]

/-- After a tick the gate keeps a snapshot with the bytes of that tick. -/
theorem stateBytes_gatedProbe (s : Session) (index : DAVConfigIndex) {p : State} {t : Tick} (h : HashSeparates p t) :
    ((gatedProbe s index).step p t).1.previous.stateBytes = t.snapshot.stateBytes := by
  change (gatedSnapshot s index t.toSurroundings p t.snapshot).1.previous.stateBytes = _
  by_cases hopen : (!p.hasPrevious || t.snapshot.stateHash != p.previous.stateHash) = true
  · rw [gatedSnapshot, if_pos hopen, previous_processSnapshot]
  · rw [gatedSnapshot, if_neg hopen]
    simp only [Bool.or_eq_true, Bool.not_eq_true', bne_iff_ne, ne_eq, not_or, Bool.not_eq_false, not_not] at hopen
    exact (h hopen.1 hopen.2).symm

/-- A run that changes by one item at a time is one whose hash tells the compared snapshots apart. -/
theorem along_hashSeparates (s : Session) (index : DAVConfigIndex) {ticks : List Tick} (hticks : ticks.IsChain ByItem) {p : State}
    (hp : ∀ t ∈ ticks.head?, HashSeparates p t) : (gatedProbe s index).Along HashSeparates p ticks := by
  induction ticks generalizing p with
  | nil => trivial
  | cons t ticks ih =>
    obtain ⟨hnext, hrest⟩ := List.isChain_cons.mp hticks
    have ht : HashSeparates p t := hp t rfl
    exact ⟨ht, ih hrest fun u hu => (hnext u hu).hashSeparates fun _ => stateBytes_gatedProbe s index ht⟩

/-- In every run of one game whose snapshots change by one item at a time, the hash tells consecutive snapshots apart, and the probe
with the gate and the probe without it leave the same maps and send the same messages, tick by tick. -/
theorem gate_exact (s : Session) (root : Option (List DirectoryEntry)) (ticks : List Tick)
    (hgame : OneGame (ticks.flatMap (fun t => t.snapshot.wornArmors))) (hticks : ticks.IsChain ByItem) :
    ticks.IsChain (fun t u => t.snapshot.stateHash = u.snapshot.stateHash ↔ t.snapshot.stateBytes = u.snapshot.stateBytes) ∧
    List.Forall₂ SameTick ((gatedProbe s (load s root)).trace {} ticks) ((probe s (load s root)).trace {} ticks) := by
  refine ⟨hticks.imp fun t u h => h.stateHash_eq_iff,
    sameTick_trace s root hgame (along_hashSeparates s _ hticks fun t _ hprev => ?_)⟩
  cases hprev

/-- The hidden helmet, seen again, and swapped for another hidden helmet of its file. -/
theorem gate_exact_helmet :
    List.Forall₂ SameTick
      ((gatedProbe Helmet.session Helmet.index).trace {} [Helmet.tick Helmet.sending Helmet.hidden,
        Helmet.tick Helmet.sending Helmet.hidden, Helmet.tick Helmet.sending Helmet.otherHidden])
      ((probe Helmet.session Helmet.index).trace {} [Helmet.tick Helmet.sending Helmet.hidden,
        Helmet.tick Helmet.sending Helmet.hidden, Helmet.tick Helmet.sending Helmet.otherHidden]) := by
  refine (gate_exact Helmet.session
    (some [{ isRegularFile := true, extension := ascii ".json", opens := true, json := some Helmet.config }])
    [Helmet.tick Helmet.sending Helmet.hidden, Helmet.tick Helmet.sending Helmet.hidden,
      Helmet.tick Helmet.sending Helmet.otherHidden] ⟨by decide, by decide, by decide⟩ ?_).2
  refine .cons_cons (Or.inl rfl) (.cons_cons (Or.inr ?_) (.singleton _))
  exact .armor [] [] rfl rfl rfl (.armor (ascii "Helmet.esp") .hidden [] (by decide : (0x800 : UInt32) ≠ 0x810))

end DAVSyncTogether
