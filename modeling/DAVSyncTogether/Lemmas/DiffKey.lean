import DAVSyncTogether.Tracker
import DAVSyncTogether.Lib.KeyedFold

/-!
# A comparison is one step of every armor's tracker

`logSnapshotDiff` runs two loops over shared maps. Seen from one key (`Diff.view`), a step of either loop at another armor
changes nothing (`view_diffCurrent_of_ne`, `view_diffPrevious_of_ne`) and the step at the armor itself is
`KeyState.stepWorn`, so the whole comparison is one `KeyState.step` (`logSnapshotDiff_key`).
-/

namespace DAVSyncTogether

namespace DAVProbe

/-- The messages of a list of calls. -/
def messages (calls : List SendCall) : List StateMessage := calls.map (fun c => c.toStateMessage)

/-- The messages about one armor. -/
def about (k : Bytes) (ms : List StateMessage) : List StateMessage := ms.filter (fun m => m.stableKey = k)

/-- The state of an armor in the snapshot before, if there is one and the armor was worn in it. -/
def State.before (p : State) (k : Bytes) : Option WornArmorState := if p.hasPrevious then p.previous.find k else none

/-- The tracker of one armor. -/
def State.keyState (p : State) (k : Bytes) : KeyState := ⟨p.networkTrackedVariants.lookup k, p.recentReequips.lookup k⟩

/-- A comparison as seen from one armor: its tracker, and the messages about it. -/
def Diff.view (k : Bytes) (d : Diff) : KeyState × List StateMessage :=
  (⟨d.networkTrackedVariants.lookup k, d.recentReequips.lookup k⟩, about k (messages d.sent))

theorem about_append (k : Bytes) (l m : List StateMessage) : about k (l ++ m) = about k l ++ about k m :=
  List.filter_append l m

theorem messages_append (l m : List SendCall) : messages (l ++ m) = messages l ++ messages m := List.map_append

/-! ## The operations of a comparison, from one armor -/

section

variable (s : Session) (index : DAVConfigIndex) (w : Surroundings)

theorem view_send_self (d : Diff) (armor : WornArmorState) (variant : Bytes) (unequipped : Bool) :
    (d.send s index w armor variant unequipped).view armor.stableKey =
      ((d.view armor.stableKey).1, (d.view armor.stableKey).2 ++ [⟨armor, variant, unequipped⟩]) := by
  simp [Diff.view, Diff.send, messages, about]

theorem view_send_of_ne (d : Diff) {armor : WornArmorState} (variant : Bytes) (unequipped : Bool) {k : Bytes}
    (h : armor.stableKey ≠ k) : (d.send s index w armor variant unequipped).view k = d.view k := by
  simp [Diff.view, Diff.send, messages, about, h]

theorem view_track_self (d : Diff) (k v : Bytes) :
    (d.track k v).view k = ({ (d.view k).1 with tracked := some v }, (d.view k).2) := by
  simp [Diff.view, Diff.track]

theorem view_track_of_ne (d : Diff) {k k' : Bytes} (v : Bytes) (h : k' ≠ k) : (d.track k' v).view k = d.view k := by
  simp [Diff.view, Diff.track, AList.lookup_insert_ne (Ne.symm h)]

theorem view_untrack_self (d : Diff) (k : Bytes) :
    (d.untrack k).view k = ({ (d.view k).1 with tracked := none }, (d.view k).2) := by
  simp [Diff.view, Diff.untrack]

theorem view_untrack_of_ne (d : Diff) {k k' : Bytes} (h : k' ≠ k) : (d.untrack k').view k = d.view k := by
  simp [Diff.view, Diff.untrack, AList.lookup_erase_ne (Ne.symm h)]

theorem view_disarm_self (d : Diff) (k : Bytes) :
    (d.disarm k).view k = ({ (d.view k).1 with reequip := none }, (d.view k).2) := by
  simp [Diff.view, Diff.disarm]

theorem view_disarm_of_ne (d : Diff) {k k' : Bytes} (h : k' ≠ k) : (d.disarm k').view k = d.view k := by
  simp [Diff.view, Diff.disarm, AList.lookup_erase_ne (Ne.symm h)]

theorem view_arm_self (d : Diff) (k : Bytes) :
    (d.arm w k).view k = ({ (d.view k).1 with reequip := some (w.clock d.clockReads) }, (d.view k).2) := by
  simp [Diff.view, Diff.arm]

theorem view_arm_of_ne (d : Diff) {k k' : Bytes} (h : k' ≠ k) : (d.arm w k').view k = d.view k := by
  simp [Diff.view, Diff.arm, AList.lookup_insert_ne (Ne.symm h)]

/-- The guard check decides as `guardHolds` does, at the next reading of the clock, and consumes the guard. -/
theorem checkGuard_self (d : Diff) (armor : WornArmorState) (selected : Bytes) :
    (d.checkGuard w armor selected).1 =
        guardHolds armor selected (d.view armor.stableKey).1.reequip (w.clock d.clockReads) ∧
      (d.checkGuard w armor selected).2.view armor.stableKey =
        ({ (d.view armor.stableKey).1 with reequip := none }, (d.view armor.stableKey).2) := by
  unfold Diff.checkGuard guardHolds
  by_cases h : armor.visualState = .hidden ∧ selected = hiddenHelmetWorkaround
  · cases hg : d.recentReequips.lookup armor.stableKey with
    | none =>
      simp only [hg, h, and_self, if_true]
      simp [Diff.view, hg]
    | some armedAt =>
      simp only [hg, h, and_self, if_true]
      simp [Diff.view, Diff.disarm, hg]
  · rw [if_neg h]
    refine ⟨?_, view_disarm_self d _⟩
    rw [not_and_or] at h
    rcases h with h | h <;> simp [h]

theorem view_checkGuard_of_ne (d : Diff) {armor : WornArmorState} (selected : Bytes) {k : Bytes} (h : armor.stableKey ≠ k) :
    (d.checkGuard w armor selected).2.view k = d.view k := by
  unfold Diff.checkGuard
  dsimp only
  split
  · split
    · exact view_disarm_of_ne d h
    · rfl
  · exact view_disarm_of_ne d h

/-! ## One step of a loop -/

variable (hasPrevious : Bool) (previousByForm : AList (fun _ : Bytes => WornArmorState))

/-- An armor that reappears arms its own guard only. -/
theorem view_armIf_of_ne (d : Diff) (before : Option WornArmorState) {stableKey k : Bytes} (h : stableKey ≠ k) :
    (if hasPrevious && before.isNone then d.arm w stableKey else d).view k = d.view k := by
  split
  · exact view_arm_of_ne w d h
  · rfl

/-- An armor that reappears arms its guard. -/
theorem view_armIf_self (d : Diff) (before : Option WornArmorState) (k : Bytes) :
    (if hasPrevious && before.isNone then d.arm w k else d).view k =
      ({ (d.view k).1 with reequip := armed hasPrevious before (w.clock d.clockReads) (d.view k).1.reequip }, (d.view k).2) := by
  unfold armed
  split
  · exact view_arm_self w d k
  · rfl

theorem clockReads_armIf (d : Diff) (before : Option WornArmorState) (k : Bytes) :
    d.clockReads ≤ (if hasPrevious && before.isNone then d.arm w k else d).clockReads := by
  split
  · exact Nat.le_succ _
  · exact Nat.le_refl _

/-- The step of the first loop at another armor changes nothing of this one. -/
theorem view_diffCurrent_of_ne (d : Diff) {armor : WornArmorState} {k : Bytes} (h : armor.stableKey ≠ k) :
    (diffCurrent s index w hasPrevious previousByForm d armor).view k = d.view k := by
  have hview := view_armIf_of_ne w hasPrevious d (previousByForm.lookup armor.stableKey) h
  unfold diffCurrent
  dsimp only
  generalize (if hasPrevious && (previousByForm.lookup armor.stableKey).isNone then d.arm w armor.stableKey else d) = d' at hview ⊢
  rw [← hview]
  split
  · rfl
  · split
    · split
      · rfl
      · rename_i selected _
        have hguard := view_checkGuard_of_ne w d' selected h
        split
        · exact hguard
        · rw [view_track_of_ne _ _ h, view_send_of_ne s index w _ _ _ h, hguard]
    · split
      · rw [view_untrack_of_ne _ h, view_send_of_ne s index w _ _ _ h]
      · rfl

/-- The step of the first loop at an armor is a step of its tracker, at two readings of the clock, the first no later than the
second. -/
theorem view_diffCurrent_self (d : Diff) (armor : WornArmorState)
    (hb : hasPrevious = false → previousByForm.lookup armor.stableKey = none) :
    ∃ i j, i ≤ j ∧ (diffCurrent s index w hasPrevious previousByForm d armor).view armor.stableKey =
      (((d.view armor.stableKey).1.stepWorn (selectVariant s index) hasPrevious (previousByForm.lookup armor.stableKey)
          armor (w.clock i) (w.clock j)).1,
        (d.view armor.stableKey).2 ++
          ((d.view armor.stableKey).1.stepWorn (selectVariant s index) hasPrevious (previousByForm.lookup armor.stableKey)
            armor (w.clock i) (w.clock j)).2.toList) := by
  generalize hbefore : previousByForm.lookup armor.stableKey = before at hb
  have hview := view_armIf_self w hasPrevious d before armor.stableKey
  have hle := clockReads_armIf w hasPrevious d before armor.stableKey
  have hchanged : (!(!hasPrevious || !before.any armor.visualEquivalent)) = before.any armor.visualEquivalent := by
    cases hasPrevious
    · rw [hb rfl]
      rfl
    · simp
  unfold diffCurrent KeyState.stepWorn
  dsimp only
  rw [hbefore]
  -- The state behind the arming of the guard; its counter gives the reading that the check of the guard takes.
  generalize (if hasPrevious && before.isNone then d.arm w armor.stableKey else d) = d' at hview hle ⊢
  refine ⟨d.clockReads, d'.clockReads, hle, ?_⟩
  rw [hchanged]
  generalize armed hasPrevious before (w.clock d.clockReads) (d.view armor.stableKey).1.reequip = reequip at hview ⊢
  split
  · simp [hview]
  · split
    · cases hsel : selectVariant s index armor with
      | none => simp [hview]
      | some selected =>
        obtain ⟨hguard, hrest⟩ := checkGuard_self w d' armor selected
        rw [hview] at hguard hrest
        dsimp only at hguard ⊢
        rw [hguard]
        split
        · rw [hrest]
          simp
        · rw [view_track_self, view_send_self, hrest]
          simp
    · have htracked : d'.networkTrackedVariants.lookup armor.stableKey = (d.view armor.stableKey).1.tracked :=
        congrArg (fun v => v.1.tracked) hview
      rw [htracked]
      cases hv : (d.view armor.stableKey).1.tracked with
      | none => simp [hview, hv]
      | some tracked =>
        cases hs : armor.visualState with
        | visible =>
          dsimp only
          rw [view_untrack_self, view_send_self, hview]
          simp
        | _ => simp [hview, hv]

/-- The step of the second loop at another armor, or at an armor that is still worn, changes nothing of this one. -/
theorem view_diffPrevious_of_ne (currentForms : List Bytes) (d : Diff) {armor : WornArmorState} {k : Bytes}
    (h : armor.stableKey ≠ k) : (diffPrevious s index w currentForms d armor).view k = d.view k := by
  unfold diffPrevious
  dsimp only
  split
  · rfl
  · split
    · rw [view_untrack_of_ne _ h, view_send_of_ne s index w _ _ _ h, view_disarm_of_ne _ h]
    · exact view_disarm_of_ne d h

/-- The step of the second loop at an armor that is no longer worn is a step of its tracker. -/
theorem view_diffPrevious_self (currentForms : List Bytes) (d : Diff) (armor : WornArmorState)
    (h : armor.stableKey ∉ currentForms) (armTime checkTime : Int) :
    (diffPrevious s index w currentForms d armor).view armor.stableKey =
      (((d.view armor.stableKey).1.step (selectVariant s index) hasPrevious (some armor) none armTime checkTime).1,
        (d.view armor.stableKey).2 ++
          ((d.view armor.stableKey).1.step (selectVariant s index) hasPrevious (some armor) none armTime checkTime).2.toList) := by
  unfold diffPrevious KeyState.step
  dsimp only
  rw [if_neg h]
  have htracked : (d.disarm armor.stableKey).networkTrackedVariants.lookup armor.stableKey =
    (d.view armor.stableKey).1.tracked := rfl
  rw [htracked]
  cases hv : (d.view armor.stableKey).1.tracked with
  | none =>
    rw [view_disarm_self]
    simp [hv]
  | some v =>
    dsimp only
    rw [view_untrack_self, view_send_self, view_disarm_self]
    simp

end

/-! ## The whole comparison -/

/-- The map of the armors worn before finds the first armor with a key. -/
theorem lookup_emplace (l : List WornArmorState) (m : AList (fun _ : Bytes => WornArmorState)) (k : Bytes) :
    (l.foldl emplace m).lookup k = (m.lookup k).or (l.find? (fun a => a.stableKey = k)) := by
  induction l generalizing m with
  | nil => simp
  | cons a l ih =>
    rw [List.foldl_cons, ih]
    unfold emplace
    by_cases hk : a.stableKey = k
    · subst hk
      cases hm : m.lookup a.stableKey <;> simp [hm]
    · rw [List.find?_cons_of_neg (by simpa using hk)]
      split
      · rfl
      · rw [AList.lookup_insert_ne (Ne.symm hk)]

/-- The armors worn before, by key: nothing without a snapshot before. -/
theorem lookup_previousByForm (p : State) (k : Bytes) :
    (if p.hasPrevious then p.previous.wornArmors.foldl emplace ∅ else ∅ : AList (fun _ : Bytes => WornArmorState)).lookup k =
      p.before k := by
  unfold State.before
  split
  · rw [lookup_emplace, AList.lookup_empty, Option.none_or]
    rfl
  · rfl

/-- The key of an armor of a snapshot finds it, when the keys are distinct. -/
theorem find_stableKey {snapshot : DAVStateSnapshot} (h : snapshot.DistinctKeys) {a : WornArmorState}
    (ha : a ∈ snapshot.wornArmors) : snapshot.find a.stableKey = some a := by
  cases hf : snapshot.find a.stableKey with
  | none => exact absurd rfl (DAVStateSnapshot.find_eq_none.mp hf a ha)
  | some b =>
    obtain ⟨hb, hk⟩ := DAVStateSnapshot.find_eq_some hf
    rw [List.inj_on_of_nodup_map h hb ha hk]

section

variable (s : Session) (index : DAVConfigIndex) (w : Surroundings)

/-- The first loop, from one armor: a step of its tracker if the armor is worn now, nothing otherwise. -/
theorem view_foldl_diffCurrent (p : State) (current : DAVStateSnapshot) (hc : current.DistinctKeys) (k : Bytes) (d : Diff)
    {previousByForm : AList (fun _ : Bytes => WornArmorState)} (hb : previousByForm.lookup k = p.before k) :
    ∃ i j, i ≤ j ∧
      (current.wornArmors.foldl (diffCurrent s index w p.hasPrevious previousByForm) d).view k =
        match current.find k with
        | none => d.view k
        | some armor =>
          let r := (d.view k).1.stepWorn (selectVariant s index) p.hasPrevious (p.before k) armor (w.clock i) (w.clock j)
          (r.1, (d.view k).2 ++ r.2.toList) := by
  have frame : ∀ (d : Diff) (a : WornArmorState), a.stableKey ≠ k →
      (diffCurrent s index w p.hasPrevious previousByForm d a).view k = d.view k :=
    fun d a h => view_diffCurrent_of_ne s index w _ _ d h
  cases hf : current.find k with
  | none =>
    refine ⟨0, 0, Nat.le_refl _, KeyedFold.foldl_view _ (fun d a ha => frame d a ?_) d⟩
    exact DAVStateSnapshot.find_eq_none.mp hf a ha
  | some armor =>
    obtain ⟨d', hd', hv⟩ := KeyedFold.foldl_of_find frame hc hf d
    obtain rfl := (DAVStateSnapshot.find_eq_some hf).2
    have hnone : p.hasPrevious = false → previousByForm.lookup armor.stableKey = none := by
      intro h
      rw [hb, State.before, h]
      rfl
    obtain ⟨i, j, hij, hself⟩ := view_diffCurrent_self s index w p.hasPrevious previousByForm d' armor hnone
    refine ⟨i, j, hij, ?_⟩
    rw [hv, hself, hd', hb]

/-- The second loop, from one armor: a step of its tracker if the armor is no longer worn, nothing otherwise. -/
theorem view_foldl_diffPrevious (p : State) (current : DAVStateSnapshot) (hp : p.previous.DistinctKeys) (k : Bytes)
    (d : Diff) (armTime checkTime : Int) :
    (p.previous.wornArmors.foldl (diffPrevious s index w (current.wornArmors.map WornArmorState.stableKey)) d).view k =
      match current.find k, p.previous.find k with
      | none, some armor =>
        let r := (d.view k).1.step (selectVariant s index) p.hasPrevious (some armor) none armTime checkTime
        (r.1, (d.view k).2 ++ r.2.toList)
      | _, _ => d.view k := by
  have frame : ∀ (d : Diff) (a : WornArmorState), a.stableKey ≠ k →
      (diffPrevious s index w (current.wornArmors.map WornArmorState.stableKey) d a).view k = d.view k :=
    fun d a h => view_diffPrevious_of_ne s index w _ d h
  cases hf : current.find k with
  | some a =>
    obtain ⟨ha, hk⟩ := DAVStateSnapshot.find_eq_some hf
    refine KeyedFold.foldl_view _ (fun d b _ => ?_) d
    by_cases hbk : b.stableKey = k
    · unfold diffPrevious
      dsimp only
      rw [if_pos (List.mem_map.mpr ⟨a, ha, hk.trans hbk.symm⟩)]
    · exact frame d b hbk
  | none =>
    cases hg : p.previous.find k with
    | none =>
      refine KeyedFold.foldl_view _ (fun d b hb => frame d b ?_) d
      exact DAVStateSnapshot.find_eq_none.mp hg b hb
    | some armor =>
      obtain ⟨d', hd', hv⟩ := KeyedFold.foldl_of_find frame hp hg d
      obtain rfl := (DAVStateSnapshot.find_eq_some hg).2
      have hmem : armor.stableKey ∉ current.wornArmors.map WornArmorState.stableKey := by
        rw [List.mem_map]
        rintro ⟨a, ha, hk⟩
        exact DAVStateSnapshot.find_eq_none.mp hf a ha hk
      rw [hv, view_diffPrevious_self s index w p.hasPrevious _ d' armor hmem armTime checkTime, hd']

/-- The comparison of two snapshots is, at every key, one step of the tracker of that armor, at two readings of the clock, the
first no later than the second. -/
theorem logSnapshotDiff_key (p : State) (current : DAVStateSnapshot) (hp : p.previous.DistinctKeys)
    (hc : current.DistinctKeys) (k : Bytes) :
    ∃ i j, i ≤ j ∧ (logSnapshotDiff s index w p current).view k =
      let r := (p.keyState k).step (selectVariant s index) p.hasPrevious (p.before k) (current.find k) (w.clock i)
        (w.clock j)
      (r.1, r.2.toList) := by
  obtain ⟨i, j, hij, h1⟩ := view_foldl_diffCurrent s index w p current hc k
    ⟨p.networkTrackedVariants, p.recentReequips, [], 0⟩ (lookup_previousByForm p k)
  refine ⟨i, j, hij, ?_⟩
  unfold logSnapshotDiff
  dsimp only
  generalize current.wornArmors.foldl _ _ = d1 at h1 ⊢
  have hstart : Diff.view k ⟨p.networkTrackedVariants, p.recentReequips, [], 0⟩ = (p.keyState k, []) := rfl
  rw [hstart] at h1
  have hlast : (if p.hasPrevious then
      p.previous.wornArmors.foldl (diffPrevious s index w (current.wornArmors.map WornArmorState.stableKey)) d1
      else d1).view k =
      match current.find k, p.before k with
      | none, some armor =>
        let r := (d1.view k).1.step (selectVariant s index) p.hasPrevious (some armor) none (w.clock i) (w.clock j)
        (r.1, (d1.view k).2 ++ r.2.toList)
      | _, _ => d1.view k := by
    unfold State.before
    split
    · exact view_foldl_diffPrevious s index w p current hp k d1 _ _
    · cases current.find k <;> rfl
  rw [hlast]
  cases hf : current.find k with
  | some armor =>
    rw [hf] at h1
    simpa [KeyState.step] using h1
  | none =>
    rw [hf] at h1
    dsimp only at h1
    cases hb : p.before k with
    | none => simpa [KeyState.step] using h1
    | some armor => simp [h1]

end

end DAVProbe

end DAVSyncTogether
