import DAVSyncTogether.Lemmas.Mirror

/-!
# One armor through a run

The history of one armor in a run from a reset, tick by tick: how the armor looks in each snapshot (`wornAt`), the tracker
before each tick, and the readings of the clock that the tick takes. Every run is such a timeline (`exists_timeline`), and
the law of the guard is about timelines: a guard is armed since the last appearance of the armor, and no variant was selected
for a change in between (`armedAt_since`), and as long as that is so it stays armed (`armedAt_of_quiet`).
-/

namespace DAVSyncTogether

namespace DAVProbe

/-! ## How an armor looks through a run -/

/-- The state of an armor in the snapshot of a tick, when it is worn in it. -/
def wornAt (k : Bytes) (ticks : List Tick) (n : Nat) : Option WornArmorState := (ticks[n]?).bind fun t => t.snapshot.find k

theorem lt_of_wornAt {k : Bytes} {ticks : List Tick} {n : Nat} {a : WornArmorState} (h : wornAt k ticks n = some a) :
    n < ticks.length := by
  obtain ⟨t, ht, -⟩ := Option.bind_eq_some_iff.mp h
  exact (List.getElem?_eq_some_iff.mp ht).1

/-- The messages about an armor that a tick of a run from a reset sends. -/
def sentAt (s : Session) (index : DAVConfigIndex) (k : Bytes) (ticks : List Tick) (n : Nat) : List StateMessage :=
  about k (messages ((probe s index).outputAt {} ticks n))

section

variable (look : Nat → Option WornArmorState)

/-- How the armor looked in the snapshot before. -/
def lookBefore : Nat → Option WornArmorState
  | 0 => none
  | n + 1 => look n

/-- The armor appears: it is worn in a snapshot, and not in the one before. -/
structure Appears (n : Nat) : Prop where
  pos : 0 < n
  absent : lookBefore look n = none
  worn : (look n).isSome = true

/-- The armor changes to `HIDDEN` or `REPLACED`: DAV shows it otherwise than it is, and not as in the snapshot before. -/
structure Changes (n : Nat) (a : WornArmorState) : Prop where
  now : look n = some a
  active : davActive a = true
  changed : (lookBefore look n).any a.visualEquivalent = false

/-- Tick `n` is not before the last appearance of the armor, at tick `m`, and the armor has not changed to `HIDDEN` or
`REPLACED` since then and before tick `n`. -/
structure FirstSince (m n : Nat) : Prop where
  le : m ≤ n
  appears : Appears look m
  last : ∀ j, m < j → j ≤ n → ¬Appears look j
  first : ∀ j, m ≤ j → j < n → ∀ b, ¬Changes look j b

end

/-! ## Timelines -/

/-- A run of the tracker of one armor over its looks: the tracker before each tick, what the tick sends, and its readings of
the clock. -/
structure Timeline (select : WornArmorState → Option Bytes) (look : Nat → Option WornArmorState) (length : Nat) where
  state : Nat → KeyState
  message : Nat → Option StateMessage
  armTime : Nat → Int
  checkTime : Nat → Int
  start : state 0 = {}
  step : ∀ n < length, (state (n + 1), message n) =
    (state n).step select (decide (0 < n)) (lookBefore look n) (look n) (armTime n) (checkTime n)

namespace Timeline

variable {select : WornArmorState → Option Bytes} {look : Nat → Option WornArmorState} {length : Nat}
  (T : Timeline select look length)

/-- The guard as the tick finds it, or arms it. -/
def armedAt (n : Nat) : Option Int := armed (decide (0 < n)) (lookBefore look n) (T.armTime n) (T.state n).reequip

theorem stepCase {n : Nat} (hn : n < length) : KeyState.StepCase select (decide (0 < n)) (lookBefore look n) (T.armTime n)
    (T.checkTime n) (T.state n) (look n) (T.state (n + 1), T.message n) := by
  rw [T.step n hn]
  exact KeyState.step_cases _ _ _ _ _ _ _

/-- An armor that appears arms its guard. -/
theorem armedAt_of_appears {n : Nat} (h : Appears look n) : T.armedAt n = some (T.armTime n) := by
  simp [armedAt, armed, h.absent, h.pos]

/-- An armor that was worn before keeps its guard as it was. -/
theorem armedAt_of_worn {n : Nat} (h : (look n).isSome = true) : T.armedAt (n + 1) = (T.state (n + 1)).reequip := by
  obtain ⟨a, ha⟩ := Option.isSome_iff_exists.mp h
  simp [armedAt, armed, lookBefore, ha]

/-- The tracker fits the last look of the armor throughout. -/
theorem consistent {n : Nat} (hn : n ≤ length) : (T.state n).Consistent (lookBefore look n) := by
  induction n with
  | zero =>
    rw [T.start]
    exact ⟨nofun, nofun⟩
  | succ n ih =>
    have hstep := congrArg Prod.fst (T.step n hn)
    dsimp only at hstep
    rw [hstep]
    exact (ih (Nat.le_of_succ_le hn)).step _ _ _ _ _

/-- A guard that a tick leaves armed was armed, at an armor that is worn, and no variant was selected for a change. -/
theorem armed_of_reequip {n : Nat} (hn : n < length) {x : Int} (h : (T.state (n + 1)).reequip = some x) :
    T.armedAt n = some x ∧ (look n).isSome = true ∧ ∀ a, Changes look n a → select a = none := by
  have hcase := T.stepCase hn
  generalize hst : T.state (n + 1) = st at h hcase
  generalize T.message n = m at hcase
  generalize hnow : look n = now at hcase
  have same : ∀ a, now = some a → ∀ c, Changes look n c → c = a := by
    intro a ha c hc
    have hca := hc.now
    rw [hnow, ha, Option.some.injEq] at hca
    exact hca.symm
  cases hcase with
  | unchanged a b hb hab =>
    refine ⟨h, rfl, fun c hc => ?_⟩
    have hch := hc.changed
    rw [same a rfl c hc, hb, Option.any_some, hab] at hch
    cases hch
  | unselected a hch ha hsel => exact ⟨h, rfl, fun c hc => same a rfl c hc ▸ hsel⟩
  | suppressed => cases h
  | applied => cases h
  | shown a v hch ha =>
    refine ⟨h, rfl, fun c hc => ?_⟩
    have hact := hc.active
    simp [same a rfl c hc, davActive, ha] at hact
  | idle a hch ha =>
    refine ⟨h, rfl, fun c hc => ?_⟩
    have hact := hc.active
    rw [same a rfl c hc, ha] at hact
    cases hact
  | removed => cases h
  | absent hb =>
    have hempty := (hb ▸ T.consistent (Nat.le_of_lt hn)).eq_empty
    rw [hempty] at h
    cases h

/-- The law of the guard: an armed guard was armed when the armor last appeared; it was armed ever since, and no variant was
selected for a change before now. -/
theorem armedAt_since {n : Nat} (hn : n ≤ length) {x : Int} (hworn : (look n).isSome = true) (h : T.armedAt n = some x) :
    ∃ m ≤ n, Appears look m ∧ T.armTime m = x ∧ (∀ j, m < j → j ≤ n → ¬Appears look j) ∧
      (∀ j, m ≤ j → j ≤ n → T.armedAt j = some x) ∧ ∀ j, m ≤ j → j < n → ∀ a, Changes look j a → select a = none := by
  induction n with
  | zero =>
    simp [armedAt, armed, T.start] at h
  | succ n ih =>
    cases hbefore : look n with
    | none =>
      have happears : Appears look (n + 1) := ⟨Nat.succ_pos n, hbefore, hworn⟩
      rw [T.armedAt_of_appears happears, Option.some.injEq] at h
      refine ⟨n + 1, Nat.le_refl _, happears, h, fun j hj hjn => by omega, fun j hj hjn => ?_, fun j hj hjn => by omega⟩
      obtain rfl : j = n + 1 := by omega
      rw [T.armedAt_of_appears happears, h]
    | some b =>
      have hwornBefore : (look n).isSome = true := by rw [hbefore]; rfl
      have hreequip := (T.armedAt_of_worn hwornBefore).symm.trans h
      obtain ⟨harmed, -, hquiet⟩ := T.armed_of_reequip hn hreequip
      obtain ⟨m, hm, happears, hx, hlast, hsince, hnone⟩ := ih (Nat.le_of_succ_le hn) hwornBefore harmed
      refine ⟨m, by omega, happears, hx, fun j hj hjn => ?_, fun j hj hjn => ?_, fun j hj hjn => ?_⟩
      · rcases Nat.lt_or_ge j (n + 1) with hlt | hge
        · exact hlast j hj (by omega)
        · obtain rfl : j = n + 1 := by omega
          intro hnew
          have hnone := hnew.absent
          rw [lookBefore, hbefore] at hnone
          cases hnone
      · rcases Nat.lt_or_ge j (n + 1) with hlt | hge
        · exact hsince j hj (by omega)
        · obtain rfl : j = n + 1 := by omega
          exact h
      · rcases Nat.lt_or_ge j n with hlt | hge
        · exact hnone j hj hlt
        · obtain rfl : j = n := by omega
          exact hquiet

/-- A tick without a selected change leaves the guard as it was, at an armor that is worn. -/
theorem reequip_of_quiet {n : Nat} (hn : n < length) (hworn : (look n).isSome = true)
    (hquiet : ∀ a, Changes look n a → select a = none) : (T.state (n + 1)).reequip = T.armedAt n := by
  have hcase := T.stepCase hn
  generalize hst : T.state (n + 1) = st at hcase ⊢
  generalize T.message n = m at hcase
  generalize hnow : look n = now at hcase hworn
  cases hcase with
  | unchanged => rfl
  | unselected => rfl
  | suppressed a v hch ha hsel =>
    rw [hquiet a ⟨hnow, ha, hch⟩] at hsel
    cases hsel
  | applied a v hch ha hsel =>
    rw [hquiet a ⟨hnow, ha, hch⟩] at hsel
    cases hsel
  | shown => rfl
  | idle => rfl
  | removed => cases hworn
  | absent => cases hworn

/-- A guard stays armed from the last appearance of the armor on, while no variant is selected for a change. -/
theorem armedAt_of_quiet {m n : Nat} (hmn : m ≤ n) (hn : n ≤ length) (happears : Appears look m)
    (hlast : ∀ j, m < j → j ≤ n → ¬Appears look j) (hworn : (look n).isSome = true)
    (hquiet : ∀ j, m ≤ j → j < n → ∀ a, Changes look j a → select a = none) : T.armedAt n = some (T.armTime m) := by
  -- The armor is worn from the appearance on: once absent, it would appear again.
  have hwornSince : ∀ j, m ≤ j → j ≤ n → (look j).isSome = true := by
    intro j hmj hjn
    obtain ⟨d, rfl⟩ : ∃ d, n = j + d := ⟨n - j, by omega⟩
    induction d with
    | zero => exact hworn
    | succ d ih =>
      refine ih (by omega) (by omega) (fun i hi hin => hlast i hi (by omega)) ?_
        (fun i hi hin => hquiet i hi (by omega)) (by omega)
      by_contra habsent
      refine hlast (j + d + 1) (by omega) (by omega) ⟨by omega, ?_, hworn⟩
      rw [lookBefore]
      simpa using habsent
  induction n, hmn using Nat.le_induction with
  | base => exact T.armedAt_of_appears happears
  | succ n hmn ih =>
    have hwornNow := hwornSince n hmn (by omega)
    rw [T.armedAt_of_worn hwornNow, T.reequip_of_quiet hn hwornNow (hquiet n hmn (by omega))]
    exact ih (by omega) (fun j hj hjn => hlast j hj (by omega)) hwornNow (fun j hj hjn => hquiet j hj (by omega))
      (fun j hj hjn => hwornSince j hj (by omega))

/-! ## What a tick withholds -/

/-- At a change with a selected variant a tick sends the state, unless the guard holds: then it sends nothing. -/
theorem message_of_changes {n : Nat} (hn : n < length) {a : WornArmorState} (hch : Changes look n a) {v : Bytes}
    (hsel : select a = some v) :
    T.message n = if guardHolds a v (T.armedAt n) (T.checkTime n) then none
      else some { armor := a, variant := v, unequipped := false } := by
  have hstep := congrArg Prod.snd (T.step n hn)
  dsimp only at hstep
  rw [hstep, hch.now]
  unfold KeyState.step KeyState.stepWorn
  dsimp only
  rw [if_neg (by simp [hch.changed]), if_pos hch.active, hsel]
  dsimp only
  unfold armedAt
  split
  · rfl
  · rfl

/-- A change with a selected variant is withheld when it is a hide through the workaround and the guard is armed and recent. -/
theorem withheld_iff {n : Nat} (hn : n < length) {a : WornArmorState} (hch : Changes look n a) {v : Bytes}
    (hsel : select a = some v) : T.message n = none ↔ a.visualState = .hidden ∧ v = hiddenHelmetWorkaround ∧
      ∃ x, T.armedAt n = some x ∧ T.checkTime n - x ≤ kPostReequipGuardWindow := by
  have hguard : guardHolds a v (T.armedAt n) (T.checkTime n) = true ↔ a.visualState = .hidden ∧ v = hiddenHelmetWorkaround ∧
      ∃ x, T.armedAt n = some x ∧ T.checkTime n - x ≤ kPostReequipGuardWindow := by
    simp only [guardHolds, Bool.and_eq_true, beq_iff_eq, Option.any_eq_true, decide_eq_true_iff, and_assoc]
  rw [← hguard, T.message_of_changes hn hch hsel]
  split
  · rename_i h
    exact iff_of_true rfl h
  · rename_i h
    exact iff_of_false nofun h

/-- When a variant is selected for every change of a guarded armor, the withheld changes are the recent hides through the
workaround that are the first since the armor last appeared. -/
theorem withheld_iff_first {n : Nat} (hn : n < length) {a : WornArmorState} (hch : Changes look n a) {v : Bytes}
    (hsel : select a = some v) (hselected : ∀ j b x, Changes look j b → T.armedAt j = some x → select b ≠ none) :
    T.message n = none ↔ a.visualState = .hidden ∧ v = hiddenHelmetWorkaround ∧
      ∃ m, FirstSince look m n ∧ T.checkTime n - T.armTime m ≤ kPostReequipGuardWindow := by
  have hworn : (look n).isSome = true := by rw [hch.now]; rfl
  rw [T.withheld_iff hn hch hsel]
  refine and_congr_right fun _ => and_congr_right fun _ => ⟨?_, ?_⟩
  · rintro ⟨x, harmed, hx⟩
    obtain ⟨m, hm, happears, rfl, hlast, hsince, hnone⟩ := T.armedAt_since (Nat.le_of_lt hn) hworn harmed
    refine ⟨m, ⟨hm, happears, hlast, fun j hj hjn b hb => ?_⟩, hx⟩
    exact hselected j b _ hb (hsince j hj (Nat.le_of_lt hjn)) (hnone j hj hjn b hb)
  · rintro ⟨m, hfirst, hx⟩
    refine ⟨T.armTime m, T.armedAt_of_quiet hfirst.le (Nat.le_of_lt hn) hfirst.appears hfirst.last hworn ?_, hx⟩
    intro j hj hjn b hb
    exact absurd hb (hfirst.first j hj hjn b)

end Timeline

/-! ## Every run is a timeline -/

section

variable (s : Session) (index : DAVConfigIndex) (ticks : List Tick)

/-- Before a tick of a run, the probe holds the snapshot of the tick before. -/
theorem before_run_take (k : Bytes) {n : Nat} (hn : n ≤ ticks.length) :
    ((probe s index).run {} (ticks.take n)).1.before k = lookBefore (wornAt k ticks) n ∧
      ((probe s index).run {} (ticks.take n)).1.hasPrevious = decide (0 < n) := by
  cases n with
  | zero => exact ⟨rfl, rfl⟩
  | succ n =>
    have ht : ticks[n]? = some ticks[n] := List.getElem?_eq_getElem hn
    rw [Machine.run_take_succ _ _ ht, lookBefore, wornAt, ht]
    exact ⟨rfl, by simp [probe, processSnapshot]⟩

/-- The readings of the clock that the ticks take. -/
def Readings (time : Nat → Int) : Prop := ∀ n t, ticks[n]? = some t → ∃ i, time n = t.clock i

/-- In a run from a reset the tracker of every armor goes through a timeline, with readings of the clocks of the ticks. -/
theorem exists_timeline (k : Bytes) : ∃ T : Timeline (selectVariant s index) (wornAt k ticks) ticks.length,
    (∀ n < ticks.length, sentAt s index k ticks n = (T.message n).toList) ∧ Readings ticks T.armTime ∧ Readings ticks T.checkTime ∧
      ∀ n, T.state n = ((probe s index).run {} (ticks.take n)).1.keyState k := by
  have hstep : ∀ n, ∃ i j, ∀ t, ticks[n]? = some t →
      let r := (((probe s index).run {} (ticks.take n)).1.keyState k).step (selectVariant s index) (decide (0 < n))
        (lookBefore (wornAt k ticks) n) (wornAt k ticks n) (t.clock i) (t.clock j)
      ((probe s index).run {} (ticks.take (n + 1))).1.keyState k = r.1 ∧ sentAt s index k ticks n = r.2.toList := by
    intro n
    cases ht : ticks[n]? with
    | none => exact ⟨0, 0, nofun⟩
    | some t =>
      obtain ⟨hn, -⟩ := List.getElem?_eq_some_iff.mp ht
      obtain ⟨hbefore, hprevious⟩ := before_run_take s index ticks k (Nat.le_of_lt hn)
      have hdistinct := (mirror_run s index {} (ticks.take n)).distinct
      obtain ⟨i, j, -, hstate, hsent⟩ := processSnapshot_key s index t.toSurroundings
        ((probe s index).run {} (ticks.take n)).1 t.snapshot hdistinct t.distinct k
      refine ⟨i, j, fun u hu => ?_⟩
      cases hu
      have hworn : wornAt k ticks n = t.snapshot.find k := by rw [wornAt, ht, Option.bind_some]
      rw [hbefore, hprevious, ← hworn] at hstate hsent
      rw [Machine.run_take_succ _ _ ht, sentAt, Machine.outputAt, ht]
      exact ⟨hstate, hsent⟩
  choose i j hij using hstep
  have hget : ∀ n, n < ticks.length → ∃ t, ticks[n]? = some t := fun n hn => ⟨ticks[n], List.getElem?_eq_getElem hn⟩
  refine ⟨⟨fun n => ((probe s index).run {} (ticks.take n)).1.keyState k, fun n => (sentAt s index k ticks n).head?,
    fun n => (ticks[n]?).elim 0 fun t => t.clock (i n), fun n => (ticks[n]?).elim 0 fun t => t.clock (j n), rfl, fun n hn => ?_⟩,
    fun n hn => ?_, fun n t ht => ⟨i n, by simp [ht]⟩, fun n t ht => ⟨j n, by simp [ht]⟩, fun n => rfl⟩
  · obtain ⟨t, ht⟩ := hget n hn
    obtain ⟨hstate, hsent⟩ := hij n t ht
    rw [hstate, hsent, ht, Option.elim_some, Option.elim_some, Option.head?_toList]
  · obtain ⟨t, ht⟩ := hget n hn
    obtain ⟨-, hsent⟩ := hij n t ht
    change _ = (sentAt s index k ticks n).head?.toList
    rw [hsent, Option.head?_toList]

end

end DAVProbe

end DAVSyncTogether
