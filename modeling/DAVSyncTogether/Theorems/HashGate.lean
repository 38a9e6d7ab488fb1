import DAVSyncTogether.Run
import DAVSyncTogether.Lemmas.SameDiff
import DAVSyncTogether.Lemmas.Games

/-!
# The hash gate

A tick whose snapshot has the hash of the last one processed is skipped. Where the hash tells the compared snapshots of a run
apart, the skipped comparison would have changed nothing and sent nothing, and the older snapshot kept by the gate compares
as the newer one would: tick by tick the probe with the gate does what the probe without it does (`gate_loses_nothing`).
-/

namespace DAVSyncTogether

open ByteString DAVProbe

/-- The hash tells the snapshot of a tick from the one it is compared with, unless both feed it the same bytes. -/
def HashSeparates (p : State) (t : Tick) : Prop :=
  p.hasPrevious = true → t.snapshot.stateHash = p.previous.stateHash → t.snapshot.stateBytes = p.previous.stateBytes

/-- Two ticks that leave the same maps and send the same. -/
structure SameTick (r r' : State × List SendCall) : Prop where
  tracked : r.1.networkTrackedVariants = r'.1.networkTrackedVariants
  reequips : r.1.recentReequips = r'.1.recentReequips
  sent : r.2.map SendCall.wire = r'.2.map SendCall.wire

section

variable {armors l m : List WornArmorState}

/-- Armors of a game that are hashed alike, one by one. -/
theorem forall₂_sameLook (hl : ∀ a ∈ l, a ∈ armors) (hm : ∀ a ∈ m, a ∈ armors)
    (h : l.map WornArmorState.hashed = m.map WornArmorState.hashed) : List.Forall₂ (SameLook armors) l m := by
  induction l generalizing m with
  | nil =>
    cases m with
    | nil => exact List.Forall₂.nil
    | cons b m => cases h
  | cons a l ih =>
    cases m with
    | nil => cases h
    | cons b m =>
      rw [List.map_cons, List.map_cons, List.cons.injEq] at h
      exact List.Forall₂.cons ⟨hl a (by simp), hm b (by simp), h.1⟩
        (ih (fun c hc => hl c (by simp [hc])) (fun c hc => hm c (by simp [hc])) h.2)

/-- Armors that look the same are of the game and hashed alike. -/
theorem of_forall₂_sameLook (h : List.Forall₂ (SameLook armors) l m) :
    (∀ a ∈ l, a ∈ armors) ∧ (∀ a ∈ m, a ∈ armors) ∧ l.map WornArmorState.hashed = m.map WornArmorState.hashed := by
  induction h with
  | nil => simp
  | cons hab _ ih =>
    obtain ⟨hl, hm, hmap⟩ := ih
    refine ⟨List.forall_mem_cons.mpr ⟨hab.left, hl⟩, List.forall_mem_cons.mpr ⟨hab.right, hm⟩, ?_⟩
    rw [List.map_cons, List.map_cons, hab.hashed, hmap]

/-- The bytes fed to the hash determine how the armors of a snapshot look. -/
theorem sameLook_of_stateBytes (hgame : OneGame armors) {t u : DAVStateSnapshot} (ht : ∀ a ∈ t.wornArmors, a ∈ armors)
    (hu : ∀ a ∈ u.wornArmors, a ∈ armors) (h : t.stateBytes = u.stateBytes) :
    t.davLoaded = u.davLoaded ∧ List.Forall₂ (SameLook armors) t.wornArmors u.wornArmors := by
  obtain ⟨hdav, hmap⟩ := stateBytes_injective (fun a ha => hgame.hashed_plain (ht a ha))
    (fun a ha => hgame.hashed_plain (hu a ha)) h
  exact ⟨hdav, forall₂_sameLook ht hu hmap⟩

end

/-- One tick: states that agree but for what is not hashed of the previous snapshot still do so after it, and it is the same
tick. -/
theorem gate_step (s : Session) {index : DAVConfigIndex} (hindex : index.Covered) {armors : List WornArmorState}
    (hgame : OneGame armors) {p q : State} (t : Tick)
    (ht : HashSeparates p t ∧ ∀ a ∈ t.snapshot.wornArmors, a ∈ armors) (h : State.Same armors p q) :
    State.Same armors ((gatedProbe s index).step p t).1 ((probe s index).step q t).1 ∧
      SameTick ((gatedProbe s index).step p t) ((probe s index).step q t) := by
  change State.Same armors (gatedSnapshot s index t.toSurroundings p t.snapshot).1
      (processSnapshot s index t.toSurroundings q t.snapshot).1 ∧
    SameTick (gatedSnapshot s index t.toSurroundings p t.snapshot) (processSnapshot s index t.toSurroundings q t.snapshot)
  have hrefl : List.Forall₂ (SameLook armors) t.snapshot.wornArmors t.snapshot.wornArmors := forall₂_sameLook ht.2 ht.2 rfl
  by_cases hopen : (!p.hasPrevious || t.snapshot.stateHash != p.previous.stateHash) = true
  · have hdiff := logSnapshotDiff_same (s := s) (w := t.toSurroundings) hgame hindex h ht.2
    rw [gatedSnapshot, if_pos hopen]
    exact ⟨⟨rfl, hdiff.tracked, hdiff.reequips, fun _ => hrefl⟩, ⟨hdiff.tracked, hdiff.reequips, hdiff.sent⟩⟩
  · rw [gatedSnapshot, if_neg hopen]
    simp only [Bool.or_eq_true, Bool.not_eq_true', bne_iff_ne, ne_eq, not_or, Bool.not_eq_false, not_not] at hopen
    obtain ⟨hprev, hhash⟩ := hopen
    obtain ⟨hp, hq, hpq⟩ := of_forall₂_sameLook (h.previous hprev)
    -- The skipped comparison is one with a snapshot that is hashed alike.
    obtain ⟨-, htp⟩ := sameLook_of_stateBytes hgame ht.2 hp (ht.1 hprev hhash)
    have hmap := (of_forall₂_sameLook htp).2.2
    unfold processSnapshot
    rw [logSnapshotDiff_unchanged hgame (h.hasPrevious ▸ hprev) (forall₂_sameLook ht.2 hq (hmap.trans hpq)) t.distinct]
    exact ⟨⟨hprev, h.tracked, h.reequips, fun _ => forall₂_sameLook hp ht.2 hmap.symm⟩, ⟨h.tracked, h.reequips, rfl⟩⟩

/-- Tick by tick the probe with the gate and the probe without it are the same, over ticks of one game whose hash tells the compared
snapshots apart. -/
theorem sameTick_trace (s : Session) (root : Option (List DirectoryEntry)) {ticks : List Tick}
    (hgame : OneGame (ticks.flatMap (fun t => t.snapshot.wornArmors)))
    (hhash : (gatedProbe s (load s root)).Along HashSeparates {} ticks) :
    List.Forall₂ SameTick ((gatedProbe s (load s root)).trace {} ticks) ((probe s (load s root)).trace {} ticks) := by
  refine Machine.trace_simulation _ _ (R := State.Same _)
    (fun p q t ht h => gate_step s (load_covered s root) hgame t ht h) ticks
    (hhash.mono fun t ht p hp => ⟨hp, fun a ha => List.mem_flatMap.mpr ⟨t, ht, ha⟩⟩) ⟨rfl, rfl, rfl, fun h => ?_⟩
  cases h

/-- In every run of one game, over ticks whose hash tells the compared snapshots apart, the probe with the gate and the probe
without it leave the same maps and send the same messages, tick by tick. The hash of a snapshot is FNV-1a over the bytes that it is
fed; and of any two snapshots of the run, these bytes determine whether DAV is loaded and the armors, in order, up to how they
look. -/
theorem gate_loses_nothing (s : Session) (root : Option (List DirectoryEntry)) (ticks : List Tick)
    (hgame : OneGame (ticks.flatMap (fun t => t.snapshot.wornArmors)))
    (hhash : (gatedProbe s (load s root)).Along HashSeparates {} ticks) :
    List.Forall₂ SameTick ((gatedProbe s (load s root)).trace {} ticks) ((probe s (load s root)).trace {} ticks) ∧
    (∀ t ∈ ticks, t.snapshot.stateHash = t.snapshot.stateBytes.foldl feedByte kFnvOffset) ∧
    ∀ t ∈ ticks, ∀ u ∈ ticks, t.snapshot.stateBytes = u.snapshot.stateBytes →
      t.snapshot.davLoaded = u.snapshot.davLoaded ∧
        List.Forall₂ (fun a b => a.visualEquivalent b = true) t.snapshot.wornArmors u.snapshot.wornArmors := by
  have hmem : ∀ t ∈ ticks, ∀ a ∈ t.snapshot.wornArmors, a ∈ ticks.flatMap (fun t => t.snapshot.wornArmors) :=
    fun t ht a ha => List.mem_flatMap.mpr ⟨t, ht, ha⟩
  refine ⟨sameTick_trace s root hgame hhash, fun t _ => t.snapshot.stateHash_eq, fun t ht u hu hbytes => ?_⟩
  obtain ⟨hdav, hlook⟩ := sameLook_of_stateBytes hgame (hmem t ht) (hmem u hu) hbytes
  exact ⟨hdav, hlook.imp fun a b hab => (hgame.visualEquivalent_iff hab.left hab.right).mpr hab.hashed⟩

/-- The helmet hidden, seen again, and shown. -/
theorem gate_loses_nothing_helmet :
    List.Forall₂ SameTick
      ((gatedProbe Helmet.session Helmet.index).trace {} [Helmet.tick Helmet.sending Helmet.hidden,
        Helmet.tick Helmet.sending Helmet.hidden, Helmet.tick Helmet.sending Helmet.visible])
      ((probe Helmet.session Helmet.index).trace {} [Helmet.tick Helmet.sending Helmet.hidden,
        Helmet.tick Helmet.sending Helmet.hidden, Helmet.tick Helmet.sending Helmet.visible]) := by
  refine (gate_loses_nothing Helmet.session
    (some [{ isRegularFile := true, extension := ascii ".json", opens := true, json := some Helmet.config }])
    [Helmet.tick Helmet.sending Helmet.hidden, Helmet.tick Helmet.sending Helmet.hidden,
      Helmet.tick Helmet.sending Helmet.visible] ⟨by decide, by decide, by decide⟩ ⟨?_, ?_, ?_, trivial⟩).1
  all_goals
    unfold HashSeparates
    decide

end DAVSyncTogether
