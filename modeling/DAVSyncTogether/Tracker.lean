import DAVSyncTogether.Probe
import DAVSyncTogether.Lib.Replay

/-!
# The probe as seen from one armor

The abstract model of `logSnapshotDiff`: each armor has a tracker of its own, the variant the remotes were last told and the
guard, and a comparison is one step of it (`KeyState.step`), which sends at most one message. `StateMessage.update` says what
a message does to what a remote holds. That the comparison of two snapshots is this step at every key is
`logSnapshotDiff_key`.
-/

namespace DAVSyncTogether

open ByteString

namespace DAVProbe

/-- The key of the armor a message is about. -/
abbrev StateMessage.stableKey (m : StateMessage) : Bytes := m.armor.stableKey

/-- The state a message tells. -/
def StateMessage.state (m : StateMessage) : NetworkArmorState := encodedState m.armor m.unequipped

/-- What a message does to what a remote holds: `HIDDEN` and `REPLACED` set the variant of the armor, `VISIBLE` and
`UNEQUIPPED` remove it. -/
def StateMessage.update (m : StateMessage) : Update Bytes Bytes :=
  match m.state with
  | .hidden | .replaced => .set m.stableKey m.variant
  | .visible | .unequipped => .clear m.stableKey

@[simp] theorem StateMessage.key_update (m : StateMessage) : m.update.key = m.stableKey := by
  unfold StateMessage.update
  split <;> rfl

/-- The messages that remove the variant of an armor are those that say it is visible or unequipped. -/
theorem StateMessage.value_update_eq_none (m : StateMessage) :
    m.update.value = none ↔ m.state = .visible ∨ m.state = .unequipped := by
  unfold StateMessage.update
  cases m.state <;> simp [Update.value]

/-- What remotes hold once all messages have been delivered in order. -/
def delivered (messages : List StateMessage) : AList (fun _ : Bytes => Bytes) :=
  Update.replay (messages.map StateMessage.update)

/-- What remotes hold for an armor is decided by the last message about it. -/
theorem lookup_delivered (messages : List StateMessage) (k : Bytes) :
    (delivered messages).lookup k = ((messages.filter (fun m => m.stableKey = k)).getLast?).bind (fun m => m.update.value) := by
  rw [delivered, Update.lookup_replay, List.filter_map, List.getLast?_map]
  have : ((fun u => decide (u.key = k)) ∘ StateMessage.update) = fun m => decide (m.stableKey = k) := by
    funext m
    simp
  rw [this]
  cases (messages.filter (fun m => m.stableKey = k)).getLast? <;> rfl

/-! ## The tracker of one armor -/

/-- What the probe keeps for one armor: the variant the remotes were last told, and when the guard was armed. -/
structure KeyState where
  tracked : Option Bytes := none
  reequip : Option Int := none
  deriving DecidableEq, Repr

/-- The guard suppresses a send: it is armed, and no older than the window. -/
def guardHolds (armor : WornArmorState) (selected : Bytes) (reequip : Option Int) (checkTime : Int) : Bool :=
  armor.visualState == .hidden && selected == hiddenHelmetWorkaround &&
    reequip.any (fun armedAt => decide (checkTime - armedAt ≤ kPostReequipGuardWindow))

/-- The guard after the arming of an armor that reappears. -/
def armed (hasPrevious : Bool) (before : Option WornArmorState) (armTime : Int) (reequip : Option Int) : Option Int :=
  if hasPrevious && before.isNone then some armTime else reequip

/-- A step at an armor that is worn now. -/
def KeyState.stepWorn (select : WornArmorState → Option Bytes) (hasPrevious : Bool) (before : Option WornArmorState)
    (armor : WornArmorState) (armTime checkTime : Int) (st : KeyState) : KeyState × Option StateMessage :=
  let reequip := armed hasPrevious before armTime st.reequip
  if before.any armor.visualEquivalent then ({ st with reequip }, none)
  else if davActive armor then
    match select armor with
    | none => ({ st with reequip }, none)
    | some selected =>
      if guardHolds armor selected reequip checkTime then ({ st with reequip := none }, none)
      else ({ tracked := some selected, reequip := none }, some { armor, variant := selected, unequipped := false })
  else
    match st.tracked, armor.visualState with
    | some tracked, .visible => ({ tracked := none, reequip }, some { armor, variant := tracked, unequipped := false })
    | _, _ => ({ st with reequip }, none)

/-- A step at an armor: its state in the snapshot before, if it was worn, and its state now. -/
def KeyState.step (select : WornArmorState → Option Bytes) (hasPrevious : Bool) (before now : Option WornArmorState)
    (armTime checkTime : Int) (st : KeyState) : KeyState × Option StateMessage :=
  match now, before with
  | some armor, _ => st.stepWorn select hasPrevious before armor armTime checkTime
  | none, some armor => ({}, st.tracked.map (fun tracked => { armor, variant := tracked, unequipped := true }))
  | none, none => (st, none)

/-! ## What a step can do -/

/-- Everything a step can do, by what the armor was, what it is, and what the tracker holds. -/
inductive KeyState.StepCase (select : WornArmorState → Option Bytes) (hasPrevious : Bool) (before : Option WornArmorState)
    (armTime checkTime : Int) (st : KeyState) : Option WornArmorState → KeyState × Option StateMessage → Prop where
  | unchanged (a b : WornArmorState) (hb : before = some b) (hab : a.visualEquivalent b = true) :
      StepCase select hasPrevious before armTime checkTime st (some a)
        ({ st with reequip := armed hasPrevious before armTime st.reequip }, none)
  | unselected (a : WornArmorState) (hch : before.any a.visualEquivalent = false) (ha : davActive a = true)
      (hsel : select a = none) :
      StepCase select hasPrevious before armTime checkTime st (some a)
        ({ st with reequip := armed hasPrevious before armTime st.reequip }, none)
  | suppressed (a : WornArmorState) (v : Bytes) (hch : before.any a.visualEquivalent = false) (ha : davActive a = true)
      (hsel : select a = some v) (hg : guardHolds a v (armed hasPrevious before armTime st.reequip) checkTime = true) :
      StepCase select hasPrevious before armTime checkTime st (some a) ({ st with reequip := none }, none)
  | applied (a : WornArmorState) (v : Bytes) (hch : before.any a.visualEquivalent = false) (ha : davActive a = true)
      (hsel : select a = some v) (hg : guardHolds a v (armed hasPrevious before armTime st.reequip) checkTime = false) :
      StepCase select hasPrevious before armTime checkTime st (some a)
        ({ tracked := some v, reequip := none }, some { armor := a, variant := v, unequipped := false })
  | shown (a : WornArmorState) (v : Bytes) (hch : before.any a.visualEquivalent = false) (ha : a.visualState = .visible)
      (ht : st.tracked = some v) :
      StepCase select hasPrevious before armTime checkTime st (some a)
        ({ tracked := none, reequip := armed hasPrevious before armTime st.reequip },
          some { armor := a, variant := v, unequipped := false })
  | idle (a : WornArmorState) (hch : before.any a.visualEquivalent = false) (ha : davActive a = false)
      (ht : a.visualState = .visible → st.tracked = none) :
      StepCase select hasPrevious before armTime checkTime st (some a)
        ({ st with reequip := armed hasPrevious before armTime st.reequip }, none)
  | removed (b : WornArmorState) (hb : before = some b) :
      StepCase select hasPrevious before armTime checkTime st none
        ({}, st.tracked.map (fun v => { armor := b, variant := v, unequipped := true }))
  | absent (hb : before = none) : StepCase select hasPrevious before armTime checkTime st none (st, none)

section

variable (select : WornArmorState → Option Bytes) (hasPrevious : Bool) (before now : Option WornArmorState)
  (armTime checkTime : Int) (st : KeyState)

theorem KeyState.step_cases :
    StepCase select hasPrevious before armTime checkTime st now
      (st.step select hasPrevious before now armTime checkTime) := by
  cases now with
  | none =>
    cases before with
    | none => exact .absent rfl
    | some b => exact .removed b rfl
  | some a =>
    unfold KeyState.step KeyState.stepWorn
    dsimp only
    split
    · rename_i hch
      rw [Option.any_eq_true] at hch
      obtain ⟨b, hb, hab⟩ := hch
      exact .unchanged a b hb hab
    · rename_i hch
      rw [Bool.not_eq_true] at hch
      split
      · rename_i ha
        split
        · rename_i hsel
          exact .unselected a hch ha hsel
        · rename_i v hsel
          split
          · rename_i hg
            exact .suppressed a v hch ha hsel hg
          · rename_i hg
            exact .applied a v hch ha hsel (by simpa using hg)
      · rename_i ha
        split
        · rename_i v ht hvis
          exact .shown a v hch hvis ht
        · rename_i hnot
          refine .idle a hch (by simpa using ha) fun hvis => ?_
          cases ht : st.tracked with
          | none => rfl
          | some v => exact absurd hvis (hnot v ht)

/-! ## What every step keeps -/

/-- The tracker of an armor fits its last state: a tracked armor is worn and not visible, a guarded one is worn and not
tracked. -/
structure KeyState.Consistent (before : Option WornArmorState) (st : KeyState) : Prop where
  tracked : ∀ v, st.tracked = some v → ∃ a, before = some a ∧ a.visualState ≠ .visible
  reequip : ∀ t, st.reequip = some t → before.isSome = true ∧ st.tracked = none

theorem davActive_iff (a : WornArmorState) : davActive a = true ↔ a.visualState = .hidden ∨ a.visualState = .replaced := by
  simp [davActive]

/-- Two states that look the same have the same visual state. -/
theorem visualState_of_visualEquivalent {a b : WornArmorState} (h : a.visualEquivalent b = true) :
    a.visualState = b.visualState := by
  simp only [WornArmorState.visualEquivalent, Bool.and_eq_true, beq_iff_eq] at h
  exact h.1.2

/-- An armor that was not worn before has an empty tracker. -/
theorem KeyState.Consistent.eq_empty {st : KeyState} (h : st.Consistent none) : st = {} := by
  have ht : st.tracked = none := Option.eq_none_iff_forall_ne_some.mpr fun v hv => by
    obtain ⟨a, ha, -⟩ := h.tracked v hv
    cases ha
  have hr : st.reequip = none := Option.eq_none_iff_forall_ne_some.mpr fun t hv => by
    cases (h.reequip t hv).1
  cases st
  cases ht
  cases hr
  rfl

/-- An armed guard finds the armor untracked. -/
theorem KeyState.Consistent.tracked_of_armed {before : Option WornArmorState} {st : KeyState} (h : st.Consistent before)
    {hasPrevious : Bool} {armTime t : Int} (ht : armed hasPrevious before armTime st.reequip = some t) :
    st.tracked = none := by
  cases before with
  | none => rw [h.eq_empty]
  | some b =>
    rw [armed, Option.isNone_some, Bool.and_false, if_neg Bool.false_ne_true] at ht
    exact (h.reequip t ht).2

/-- A step keeps the tracker consistent with the state of its armor. -/
theorem KeyState.Consistent.step {before : Option WornArmorState} {st : KeyState} (h : st.Consistent before) :
    (st.step select hasPrevious before now armTime checkTime).1.Consistent now := by
  -- The guard may have been armed in this very step: the armor is worn now, and was not tracked.
  have harm : ∀ a : WornArmorState, ∀ t, armed hasPrevious before armTime st.reequip = some t →
      (some a).isSome = true ∧ st.tracked = none := fun _ t ht => ⟨rfl, h.tracked_of_armed ht⟩
  have hc := KeyState.step_cases select hasPrevious before now armTime checkTime st
  generalize st.step select hasPrevious before now armTime checkTime = r at hc
  cases hc with
  | unchanged a b hb hab =>
    refine ⟨fun v hv => ?_, harm a⟩
    obtain ⟨c, hc, hvis⟩ := h.tracked v hv
    rw [hb, Option.some.injEq] at hc
    exact ⟨a, rfl, by rw [visualState_of_visualEquivalent hab, hc]; exact hvis⟩
  | unselected a hch ha hsel =>
    refine ⟨fun v hv => ⟨a, rfl, fun hvis => ?_⟩, harm a⟩
    rcases (davActive_iff a).mp ha with h' | h' <;> rw [hvis] at h' <;> cases h'
  | suppressed a v hch ha hsel hg =>
    refine ⟨fun v hv => ⟨a, rfl, fun hvis => ?_⟩, nofun⟩
    rcases (davActive_iff a).mp ha with h' | h' <;> rw [hvis] at h' <;> cases h'
  | applied a v hch ha hsel hg =>
    refine ⟨fun v hv => ⟨a, rfl, fun hvis => ?_⟩, nofun⟩
    rcases (davActive_iff a).mp ha with h' | h' <;> rw [hvis] at h' <;> cases h'
  | shown a v hch ha ht => exact ⟨nofun, fun t _ => ⟨rfl, rfl⟩⟩
  | idle a hch ha ht =>
    refine ⟨fun v hv => ⟨a, rfl, fun hvis => ?_⟩, harm a⟩
    rw [ht hvis] at hv
    cases hv
  | removed b hb => exact ⟨nofun, nofun⟩
  | absent hb =>
    subst hb
    exact h

/-- After a step the tracker holds what its message says, and without a message what it held before. -/
theorem KeyState.step_tracked :
    (st.step select hasPrevious before now armTime checkTime).1.tracked =
      match (st.step select hasPrevious before now armTime checkTime).2 with
      | none => st.tracked
      | some m => m.update.value := by
  have hc := KeyState.step_cases select hasPrevious before now armTime checkTime st
  generalize st.step select hasPrevious before now armTime checkTime = r at hc
  cases hc with
  | unchanged => rfl
  | unselected => rfl
  | suppressed => rfl
  | applied a v hch ha =>
    rcases (davActive_iff a).mp ha with h | h <;>
      simp [StateMessage.update, StateMessage.state, encodedState, h, Update.value]
  | shown a v hch ha => simp [StateMessage.update, StateMessage.state, encodedState, ha, Update.value]
  | idle => rfl
  | removed b hb => cases ht : st.tracked <;> rfl
  | absent => rfl

/-- A message that resets an armor carries the variant its tracker held. -/
theorem KeyState.step_reset {m : StateMessage} (hm : (st.step select hasPrevious before now armTime checkTime).2 = some m)
    (hv : m.update.value = none) : st.tracked = some m.variant := by
  have hc := KeyState.step_cases select hasPrevious before now armTime checkTime st
  generalize st.step select hasPrevious before now armTime checkTime = r at hm hc
  cases hc with
  | unchanged => cases hm
  | unselected => cases hm
  | suppressed => cases hm
  | applied a v hch ha =>
    cases hm
    rcases (davActive_iff a).mp ha with h | h <;>
      simp [StateMessage.update, StateMessage.state, encodedState, h, Update.value] at hv
  | shown a v hch ha ht =>
    cases hm
    exact ht
  | idle => cases hm
  | removed b hb =>
    simp only [Option.map_eq_some_iff] at hm
    obtain ⟨v, ht, rfl⟩ := hm
    exact ht
  | absent => cases hm

end

end DAVProbe

end DAVSyncTogether
