import DAVSyncTogether.Lemmas.DiffKey
import DAVSyncTogether.Lemmas.HashStream
import DAVSyncTogether.Lemmas.Relevance
import DAVSyncTogether.Lib.KeyedFold

/-!
# A comparison depends on the hashed part of the previous snapshot

`OneGame` says what the armors of one game have in common. Two states of the probe that agree but for the part of the
previous snapshot that is not hashed compare a snapshot alike (`logSnapshotDiff_same`), and a snapshot that is hashed as the
previous one is changes nothing and sends nothing (`logSnapshotDiff_unchanged`).
-/

namespace DAVSyncTogether

open ByteString

/-- The identities a snapshot shows of an armor: its own, and those of the rendered addons. -/
def WornArmorState.identities (a : WornArmorState) : List FormIdentity := a.armor :: a.activeArmorAddons

/-- What the armors of one game have in common: no plugin name has a separator of the hash or is its word for unstable
identities, a runtime ID has one identity, and the base addons of an armor do not change. -/
structure OneGame (armors : List WornArmorState) : Prop where
  plain : ∀ a ∈ armors, ∀ i ∈ a.identities, (0xFE : UInt8) ∉ i.plugin ∧ (0xFF : UInt8) ∉ i.plugin ∧ i.plugin ≠ ascii "runtime"
  runtime : ∀ a ∈ armors, ∀ b ∈ armors, ∀ i ∈ a.identities, ∀ j ∈ b.identities, i.runtimeFormID = j.runtimeFormID → i = j
  baseAddons : ∀ a ∈ armors, ∀ b ∈ armors, a.armor.stableEquivalent b.armor = true → a.baseArmorAddons = b.baseArmorAddons

/-- Two armors of the game that are hashed alike. -/
structure SameLook (armors : List WornArmorState) (a b : WornArmorState) : Prop where
  left : a ∈ armors
  right : b ∈ armors
  hashed : a.hashed = b.hashed

section

variable {armors : List WornArmorState} {a b : WornArmorState}

/-- The identities of a game are equivalent when they are hashed alike. -/
theorem OneGame.stableEquivalent_iff (h : OneGame armors) (ha : a ∈ armors) (hb : b ∈ armors) {i j : FormIdentity}
    (hi : i ∈ a.identities) (hj : j ∈ b.identities) : i.stableEquivalent j = true ↔ i.hashed = j.hashed :=
  stableEquivalent_iff_hashed (h.plain a ha i hi).2.2 (h.plain b hb j hj).2.2 (h.runtime a ha b hb i hi j hj)

/-- The armors of a game look the same when they are hashed alike. -/
theorem OneGame.visualEquivalent_iff (h : OneGame armors) (ha : a ∈ armors) (hb : b ∈ armors) :
    a.visualEquivalent b = true ↔ a.hashed = b.hashed := by
  have harmor := h.stableEquivalent_iff ha hb (List.mem_cons_self ..) (List.mem_cons_self ..)
  have hactive := identityVectorsEquivalent_iff_map FormIdentity.hashed (l := a.activeArmorAddons) (m := b.activeArmorAddons)
    (fun i hi j hj => h.stableEquivalent_iff ha hb (List.mem_cons_of_mem _ hi) (List.mem_cons_of_mem _ hj))
  simp only [WornArmorState.visualEquivalent, Bool.and_eq_true, harmor, hactive, beq_iff_eq, WornArmorState.hashed,
    HashedArmor.mk.injEq, and_assoc]

/-- What the hash is fed of an armor of a game can be read back. -/
theorem OneGame.hashed_plain (h : OneGame armors) (ha : a ∈ armors) : a.hashed.Plain := by
  have hi : ∀ i ∈ a.identities, PlainText i.hashed.1 := by
    intro i hi
    obtain ⟨hfe, hff, -⟩ := h.plain a ha i hi
    have hruntime : PlainText (ascii "runtime") := ⟨by decide, by decide, by decide⟩
    unfold FormIdentity.hashed
    cases hs : i.isStable with
    | true => exact ⟨i.isStable_iff.mp hs, hfe, hff⟩
    | false => exact hruntime
  exact ⟨hi _ (List.mem_cons_self ..), List.forall_mem_map.mpr fun i hmem => hi i (List.mem_cons_of_mem _ hmem)⟩

theorem SameLook.stableKey (h : OneGame armors) (hab : SameLook armors a b) : a.stableKey = b.stableKey :=
  stableKey_of_hashed (h.plain a hab.left _ (List.mem_cons_self ..)).2.2 (h.plain b hab.right _ (List.mem_cons_self ..)).2.2
    (congrArg HashedArmor.armor hab.hashed)

/-- That an armor was taken off is told alike of armors that look the same. -/
theorem SameLook.sendArmorState (h : OneGame armors) (hab : SameLook armors a b) {s : Session} {index : DAVConfigIndex}
    (hindex : index.Covered) (service : DAVNetworkService) (variant : Bytes) :
    sendArmorState s index service a variant true = sendArmorState s index service b variant true := by
  have hi := (h.plain a hab.left _ (List.mem_cons_self ..)).2.2
  have hj := (h.plain b hab.right _ (List.mem_cons_self ..)).2.2
  have hhashed : a.armor.hashed = b.armor.hashed := congrArg HashedArmor.armor hab.hashed
  have hbase : a.baseArmorAddons = b.baseArmorAddons := h.baseAddons a hab.left b hab.right
    ((h.stableEquivalent_iff hab.left hab.right (List.mem_cons_self ..) (List.mem_cons_self ..)).mpr hhashed)
  have hrelevant : index.isArmorRelevant s a = index.isArmorRelevant s b := by
    rw [isArmorRelevant_eq_touches hindex, isArmorRelevant_eq_touches hindex, hbase]
  rcases hashed_cases hi hj hhashed with ⟨ha, hb, hp, hl⟩ | ⟨ha, hb, -⟩
  · have hpayload : encodeArmorState a variant true = encodeArmorState b variant true := by
      simp only [encodeArmorState, encodedState, encodeIdentity, hp, hl, if_true]
    simp only [DAVSyncTogether.sendArmorState, ha, hb, hrelevant, hpayload]
  · simp only [DAVSyncTogether.sendArmorState, ha, hb, Bool.not_false, if_true]

end

namespace DAVProbe

/-- What a call of `SendArmorState` comes to: the key, the variant, the state it tells, and what was transmitted. -/
def SendCall.wire (c : SendCall) : Bytes × Bytes × NetworkArmorState × Option Transmission :=
  (c.stableKey, c.variant, c.state, c.transmission)

/-- Two comparisons under way that agree on the maps, the clock and everything sent. -/
structure Diff.Same (d e : Diff) : Prop where
  tracked : d.networkTrackedVariants = e.networkTrackedVariants
  reequips : d.recentReequips = e.recentReequips
  clockReads : d.clockReads = e.clockReads
  sent : d.sent.map SendCall.wire = e.sent.map SendCall.wire

section

variable {s : Session} {index : DAVConfigIndex} {w : Surroundings} {d e : Diff} {a b : WornArmorState}

theorem Diff.Same.arm (h : d.Same e) (k : Bytes) : (d.arm w k).Same (e.arm w k) :=
  ⟨h.tracked, by simp only [Diff.arm, h.reequips, h.clockReads], by simp only [Diff.arm, h.clockReads], h.sent⟩

theorem Diff.Same.disarm (h : d.Same e) (k : Bytes) : (d.disarm k).Same (e.disarm k) :=
  ⟨h.tracked, by simp only [Diff.disarm, h.reequips], h.clockReads, h.sent⟩

theorem Diff.Same.track (h : d.Same e) (k v : Bytes) : (d.track k v).Same (e.track k v) :=
  ⟨by simp only [Diff.track, h.tracked], h.reequips, h.clockReads, h.sent⟩

theorem Diff.Same.untrack (h : d.Same e) (k : Bytes) : (d.untrack k).Same (e.untrack k) :=
  ⟨by simp only [Diff.untrack, h.tracked], h.reequips, h.clockReads, h.sent⟩

/-- Sends about armors with one key, of one state, that any service treats alike. -/
theorem Diff.Same.send (h : d.Same e) (hk : a.stableKey = b.stableKey) {variant : Bytes} {unequipped : Bool}
    (hstate : encodedState a unequipped = encodedState b unequipped)
    (htx : ∀ service, sendArmorState s index service a variant unequipped = sendArmorState s index service b variant unequipped) :
    (d.send s index w a variant unequipped).Same (e.send s index w b variant unequipped) := by
  have hlen : d.sent.length = e.sent.length := by
    rw [← List.length_map SendCall.wire, h.sent, List.length_map]
  refine ⟨h.tracked, h.reequips, h.clockReads, ?_⟩
  simp only [Diff.send, List.map_append, List.map_cons, List.map_nil, h.sent, SendCall.wire, StateMessage.state, hk, hstate,
    hlen, htx]

/-- The guard check sees the maps and the clock only. -/
theorem Diff.Same.checkGuard (h : d.Same e) (armor : WornArmorState) (selected : Bytes) :
    (d.checkGuard w armor selected).1 = (e.checkGuard w armor selected).1 ∧
      (d.checkGuard w armor selected).2.Same (e.checkGuard w armor selected).2 := by
  have hdisarm := h.disarm armor.stableKey
  unfold Diff.checkGuard
  dsimp only
  rw [← h.reequips, ← h.clockReads]
  split
  · split
    · exact ⟨rfl, hdisarm.tracked, hdisarm.reequips, rfl, hdisarm.sent⟩
    · exact ⟨rfl, h⟩
  · exact ⟨rfl, hdisarm⟩

/-- The step of the first loop asks of the armor's state before whether there was one, and whether it looks the same. -/
theorem diffCurrent_same (h : d.Same e) (hasPrevious : Bool) {m m' : AList (fun _ : Bytes => WornArmorState)}
    (hnone : (m.lookup a.stableKey).isNone = (m'.lookup a.stableKey).isNone)
    (hany : (m.lookup a.stableKey).any a.visualEquivalent = (m'.lookup a.stableKey).any a.visualEquivalent) :
    (diffCurrent s index w hasPrevious m d a).Same (diffCurrent s index w hasPrevious m' e a) := by
  have harmed : (if hasPrevious && (m'.lookup a.stableKey).isNone then d.arm w a.stableKey else d).Same
      (if hasPrevious && (m'.lookup a.stableKey).isNone then e.arm w a.stableKey else e) := by
    split
    · exact h.arm a.stableKey
    · exact h
  unfold diffCurrent
  dsimp only
  rw [hnone, hany]
  generalize (if hasPrevious && (m'.lookup a.stableKey).isNone then d.arm w a.stableKey else d) = d' at harmed ⊢
  generalize (if hasPrevious && (m'.lookup a.stableKey).isNone then e.arm w a.stableKey else e) = e' at harmed ⊢
  split
  · exact harmed
  · split
    · cases selectVariant s index a with
      | none => exact harmed
      | some selected =>
        obtain ⟨hsuppress, hguard⟩ := harmed.checkGuard (w := w) a selected
        dsimp only
        rw [hsuppress]
        split
        · exact hguard
        · exact (hguard.send rfl rfl fun _ => rfl).track a.stableKey selected
    · rw [harmed.tracked]
      split
      · exact (harmed.send rfl rfl fun _ => rfl).untrack a.stableKey
      · exact harmed

/-- The step of the second loop asks of the armor its key, and what is told when it is taken off. -/
theorem diffPrevious_same (h : d.Same e) (currentForms : List Bytes) (hk : a.stableKey = b.stableKey)
    (htx : ∀ service variant, sendArmorState s index service a variant true = sendArmorState s index service b variant true) :
    (diffPrevious s index w currentForms d a).Same (diffPrevious s index w currentForms e b) := by
  have hdisarm := h.disarm b.stableKey
  unfold diffPrevious
  dsimp only
  rw [hk, hdisarm.tracked]
  split
  · exact h
  · split
    · exact (hdisarm.send hk rfl fun service => htx service _).untrack b.stableKey
    · exact hdisarm

end

/-! ## The whole comparison -/

/-- Two states of the probe that agree but for the part of the previous snapshot that is not hashed. -/
structure State.Same (armors : List WornArmorState) (p q : State) : Prop where
  hasPrevious : p.hasPrevious = q.hasPrevious
  tracked : p.networkTrackedVariants = q.networkTrackedVariants
  reequips : p.recentReequips = q.recentReequips
  previous : p.hasPrevious = true → List.Forall₂ (SameLook armors) p.previous.wornArmors q.previous.wornArmors

section

variable {s : Session} {index : DAVConfigIndex} {w : Surroundings} {armors : List WornArmorState} {p q : State}
  {current : DAVStateSnapshot}

/-- The states of an armor before, in two such states of the probe, look the same. -/
theorem State.Same.before (hgame : OneGame armors) (h : State.Same armors p q) (k : Bytes) :
    Option.Rel (SameLook armors) (p.before k) (q.before k) := by
  unfold State.before
  by_cases hprev : p.hasPrevious = true
  · rw [if_pos hprev, if_pos (h.hasPrevious ▸ hprev)]
    exact KeyedFold.find_rel (fun _ _ hab => hab.stableKey hgame) (h.previous hprev) k
  · rw [if_neg hprev, if_neg (h.hasPrevious ▸ hprev)]
    exact Option.Rel.none

/-- The first loop asks of the previous snapshot only how the armors worn now looked in it. -/
theorem foldl_diffCurrent_same (s : Session) (index : DAVConfigIndex) (w : Surroundings) (hgame : OneGame armors)
    {m m' : AList (fun _ : Bytes => WornArmorState)}
    (hrel : ∀ k, Option.Rel (SameLook armors) (m.lookup k) (m'.lookup k)) (hasPrevious : Bool) {l : List WornArmorState}
    (hl : ∀ a ∈ l, a ∈ armors) {d e : Diff} (h : d.Same e) :
    (l.foldl (diffCurrent s index w hasPrevious m) d).Same (l.foldl (diffCurrent s index w hasPrevious m') e) := by
  induction l generalizing d e with
  | nil => exact h
  | cons a l ih =>
    have hlook : (m.lookup a.stableKey).isNone = (m'.lookup a.stableKey).isNone ∧
        (m.lookup a.stableKey).any a.visualEquivalent = (m'.lookup a.stableKey).any a.visualEquivalent := by
      have hbefore := hrel a.stableKey
      generalize m.lookup a.stableKey = x at hbefore ⊢
      generalize m'.lookup a.stableKey = y at hbefore ⊢
      cases hbefore with
      | none => exact ⟨rfl, rfl⟩
      | @some b c hbc =>
        have ha := hl a (by simp)
        refine ⟨rfl, ?_⟩
        rw [Option.any_some, Option.any_some, Bool.eq_iff_iff, hgame.visualEquivalent_iff ha hbc.left,
          hgame.visualEquivalent_iff ha hbc.right, hbc.hashed]
    exact ih (fun b hb => hl b (by simp [hb])) (diffCurrent_same h hasPrevious hlook.1 hlook.2)

/-- The second loop does the same over armors that look the same. -/
theorem foldl_diffPrevious_same (hgame : OneGame armors) (hindex : index.Covered) (currentForms : List Bytes)
    {l m : List WornArmorState} (hlm : List.Forall₂ (SameLook armors) l m) {d e : Diff} (h : d.Same e) :
    (l.foldl (diffPrevious s index w currentForms) d).Same (m.foldl (diffPrevious s index w currentForms) e) := by
  induction hlm generalizing d e with
  | nil => exact h
  | cons hab _ ih =>
    exact ih (diffPrevious_same h currentForms (hab.stableKey hgame) fun service variant =>
      hab.sendArmorState hgame hindex service variant)

/-- Such states of the probe compare a snapshot alike. -/
theorem logSnapshotDiff_same (hgame : OneGame armors) (hindex : index.Covered) (h : State.Same armors p q)
    (hcurrent : ∀ a ∈ current.wornArmors, a ∈ armors) :
    (logSnapshotDiff s index w p current).Same (logSnapshotDiff s index w q current) := by
  have hstart : Diff.Same ⟨p.networkTrackedVariants, p.recentReequips, [], 0⟩
      ⟨q.networkTrackedVariants, q.recentReequips, [], 0⟩ := ⟨h.tracked, h.reequips, rfl, rfl⟩
  have hrel : ∀ k, Option.Rel (SameLook armors)
      ((if p.hasPrevious then p.previous.wornArmors.foldl emplace ∅ else ∅ : AList (fun _ : Bytes => WornArmorState)).lookup k)
      ((if q.hasPrevious then q.previous.wornArmors.foldl emplace ∅ else ∅ :
        AList (fun _ : Bytes => WornArmorState)).lookup k) := by
    intro k
    rw [lookup_previousByForm p, lookup_previousByForm q]
    exact h.before hgame k
  have hfirst := foldl_diffCurrent_same s index w hgame hrel p.hasPrevious hcurrent hstart
  unfold logSnapshotDiff
  dsimp only
  rw [← h.hasPrevious] at hfirst ⊢
  generalize current.wornArmors.foldl _ _ = d at hfirst ⊢
  generalize current.wornArmors.foldl _ _ = e at hfirst ⊢
  by_cases hprev : p.hasPrevious = true
  · rw [if_pos hprev, if_pos hprev]
    exact foldl_diffPrevious_same hgame hindex _ (h.previous hprev) hfirst
  · rw [if_neg hprev, if_neg hprev]
    exact hfirst

/-- Lists that look the same have the same keys. -/
theorem map_stableKey_of_sameLook (hgame : OneGame armors) {l m : List WornArmorState}
    (h : List.Forall₂ (SameLook armors) l m) : l.map WornArmorState.stableKey = m.map WornArmorState.stableKey := by
  induction h with
  | nil => rfl
  | cons hab _ ih => rw [List.map_cons, List.map_cons, hab.stableKey hgame, ih]

/-- A snapshot that is hashed as the previous one changes no map and sends nothing. -/
theorem logSnapshotDiff_unchanged (hgame : OneGame armors) (hprev : p.hasPrevious = true)
    (hsame : List.Forall₂ (SameLook armors) current.wornArmors p.previous.wornArmors) (hdistinct : current.DistinctKeys) :
    logSnapshotDiff s index w p current =
      { networkTrackedVariants := p.networkTrackedVariants, recentReequips := p.recentReequips } := by
  have hfirst : ∀ d : Diff, ∀ a ∈ current.wornArmors, diffCurrent s index w p.hasPrevious
      (if p.hasPrevious then p.previous.wornArmors.foldl emplace ∅ else ∅) d a = d := by
    intro d a ha
    have hrel := KeyedFold.find_rel (fun _ _ hab => hab.stableKey hgame) hsame a.stableKey
    have ha : current.wornArmors.find? (fun b => b.stableKey = a.stableKey) = some a := find_stableKey hdistinct ha
    rw [ha] at hrel
    cases hfind : p.previous.wornArmors.find? (fun b => b.stableKey = a.stableKey) with
    | none =>
      rw [hfind] at hrel
      cases hrel
    | some b =>
      rw [hfind] at hrel
      obtain ⟨hab⟩ := hrel
      have hbefore : p.before a.stableKey = some b := by
        rw [State.before, if_pos hprev]
        exact hfind
      have hequiv : a.visualEquivalent b = true := (hgame.visualEquivalent_iff hab.left hab.right).mpr hab.hashed
      unfold diffCurrent
      dsimp only
      rw [lookup_previousByForm, hbefore]
      simp [hprev, hequiv]
  have hsecond : ∀ d : Diff, ∀ b ∈ p.previous.wornArmors,
      diffPrevious s index w (current.wornArmors.map WornArmorState.stableKey) d b = d := by
    intro d b hb
    unfold diffPrevious
    dsimp only
    rw [map_stableKey_of_sameLook hgame hsame, if_pos (List.mem_map_of_mem hb)]
  unfold logSnapshotDiff
  dsimp only
  rw [KeyedFold.foldl_unchanged _ hfirst, if_pos hprev, KeyedFold.foldl_unchanged _ hsecond]

end

end DAVProbe

end DAVSyncTogether
