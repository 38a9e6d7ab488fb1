import DAVSyncTogether.Lemmas.Timeline
import DAVSyncTogether.Lemmas.Games

/-!
# The post-reequip guard

A guard is armed when an armor appears, and the first change with a selected variant consumes it. So the guard withholds the
first change since the appearance, as long as no change without a selected variant comes before
(`guard_withholds_first_rebound`, `unselected_change_keeps_guard`), and it takes every appearance for a re-equip, also that
of an armor never worn before (`guard_acts_on_reequip`, `first_equip_guarded`).
-/

namespace DAVSyncTogether

open ByteString DAVProbe

/-- Before tick `n` the armor was worn, was absent after that, and has last appeared as it is. -/
def DAVProbe.ReequippedBefore (look : Nat → Option WornArmorState) (n : Nat) : Prop :=
  ∃ e g m b, e < g ∧ g < m ∧ m < n ∧ (look e).isSome = true ∧ look g = none ∧ Appears look m ∧
    (∀ j, m < j → j ≤ n → ¬Appears look j) ∧ look m = some b ∧ b.visualState = .visible

/-- The clock does not run backwards, within a tick and from one tick to the next. -/
def DAVProbe.NonDecreasing (ticks : List Tick) : Prop :=
  (∀ t ∈ ticks, ∀ i j, i ≤ j → t.clock i ≤ t.clock j) ∧ ticks.Pairwise fun t u => ∀ i j, t.clock i ≤ u.clock j

/-! ## The first rebound -/

/-- A variant is selected for every change of the armor while its guard is armed, or is armed by this tick. -/
def SelectsWhileGuarded (s : Session) (index : DAVConfigIndex) (k : Bytes) (p : State) (t : Tick) : Prop :=
  ∀ a, t.snapshot.find k = some a → davActive a = true → (p.before k).any a.visualEquivalent = false →
    (k ∈ p.recentReequips ∨ (p.hasPrevious = true ∧ p.before k = none)) → (selectVariant s index a).isSome = true

/-- In a run that selects a variant for every change of the armor while it is guarded, a change with a selected variant is sent, or
withheld; it is withheld exactly when it is a hide through the workaround, the first change since the armor last appeared,
and at most 15 seconds have passed since then; and the armor appears between two withheld changes. -/
theorem guard_withholds_first_rebound (s : Session) (index : DAVConfigIndex) (ticks : List Tick) (k : Bytes)
    (hrun : (probe s index).Along (SelectsWhileGuarded s index k) {} ticks) :
    let look := wornAt k ticks
    ∃ armTime checkTime, Readings ticks armTime ∧ Readings ticks checkTime ∧
      ∀ n a v, Changes look n a → selectVariant s index a = some v →
        (sentAt s index k ticks n = [⟨a, v, false⟩] ∨ sentAt s index k ticks n = []) ∧
        (sentAt s index k ticks n = [] ↔ a.visualState = .hidden ∧ v = hiddenHelmetWorkaround ∧
          ∃ m, FirstSince look m n ∧ checkTime n - armTime m ≤ kPostReequipGuardWindow) ∧
        ∀ n' < n, ∀ b w, Changes look n' b → selectVariant s index b = some w → sentAt s index k ticks n' = [] →
          sentAt s index k ticks n = [] → ∃ m, n' < m ∧ m ≤ n ∧ Appears look m := by
  intro look
  obtain ⟨T, hsent, harm, hcheck, hstate⟩ := exists_timeline s index ticks k
  have inside : ∀ {n a}, Changes look n a → n < ticks.length := fun h => lt_of_wornAt h.now
  -- A variant is selected for the change of an armor whose guard is armed.
  have selected : ∀ {n a x}, Changes look n a → T.armedAt n = some x → selectVariant s index a ≠ none := by
    intro n a x h harmed hnone
    have hn := inside h
    obtain ⟨hbefore, hprevious⟩ := before_run_take s index ticks k (Nat.le_of_lt hn)
    have hcond := hrun.get (List.getElem?_eq_getElem hn) a
      (by have := h.now; simpa [look, wornAt, List.getElem?_eq_getElem hn] using this) h.active
      (by rw [hbefore]; exact h.changed)
    rw [hnone, hbefore, hprevious] at hcond
    refine absurd (hcond ?_) (by simp)
    unfold Timeline.armedAt armed at harmed
    split at harmed
    · rename_i hnew
      rw [Bool.and_eq_true, decide_eq_true_iff, Option.isNone_iff_eq_none] at hnew
      exact Or.inr ⟨decide_eq_true hnew.1, hnew.2⟩
    · rw [hstate] at harmed
      exact Or.inl (AList.lookup_isSome.mp (Option.isSome_iff_exists.mpr ⟨x, harmed⟩))
  have first : ∀ {n a v}, Changes look n a → selectVariant s index a = some v → (sentAt s index k ticks n = [] ↔
      a.visualState = .hidden ∧ v = hiddenHelmetWorkaround ∧ ∃ m, FirstSince look m n ∧
        T.checkTime n - T.armTime m ≤ kPostReequipGuardWindow) := by
    intro n a v h hsel
    rw [hsent n (inside h), Option.toList_eq_nil_iff]
    exact T.withheld_iff_first (inside h) h hsel fun j b x hb => selected hb
  refine ⟨T.armTime, T.checkTime, harm, hcheck, fun n a v h hsel => ⟨?_, first h hsel, ?_⟩⟩
  · rw [hsent n (inside h), T.message_of_changes (inside h) h hsel]
    split
    · exact Or.inr rfl
    · exact Or.inl rfl
  · intro n' hn' b w hb _ _ hnothing
    obtain ⟨-, -, m, hfirst, -⟩ := (first h hsel).mp hnothing
    refine ⟨m, ?_, hfirst.le, hfirst.appears⟩
    by_contra hm
    exact hfirst.first n' (not_lt.mp hm) hn' b hb

/-! ## A helmet that Helmet Toggle hides -/

namespace Rebound

def addons : List TESObjectARMA := [Hood.addonForm 0x801 2]

def session : Session := Hood.session addons

/-- The one variant is the workaround of Helmet Toggle. -/
def index : DAVConfigIndex :=
  load session (Hood.root [.object [(ascii "name", .string hiddenHelmetWorkaround),
    (ascii "replaceBySlot", .object [(ascii "31", .array [])])]])

def visible : WornArmorState := Hood.worn addons .visible (addons.map fun addon => makeFormIdentity addon.toTESForm)

def hidden : WornArmorState := Hood.worn addons .hidden []

/-- The helmet shown as an addon that no rule names. -/
def unexplained : WornArmorState := Hood.worn addons .replaced [makeFormIdentity Hood.lowered.toTESForm]

/-- A tick that sees the helmet, or nothing, at a clock that stands still. -/
def tick (worn : Option WornArmorState) : Tick where
  clock _ := 0
  network _ := Helmet.sending
  snapshot := { davLoaded := true, playerName := ascii "Player", wornArmors := worn.toList }
  distinct := by cases worn <;> simp [DAVStateSnapshot.DistinctKeys]

theorem nonDecreasing (ticks : List (Option WornArmorState)) : NonDecreasing (ticks.map tick) := by
  refine ⟨fun t ht i j _ => ?_, ?_⟩
  · obtain ⟨worn, -, rfl⟩ := List.mem_map.mp ht
    exact le_refl 0
  · rw [List.pairwise_map]
    exact List.pairwise_of_forall fun _ _ _ _ => le_refl 0

/-- A tick that sees only armors with a selected variant, or visible ones, selects while guarded. -/
theorem selectsWhileGuarded {k : Bytes} {p : State} {worn : Option WornArmorState}
    (h : worn.all (fun a => !davActive a || (selectVariant session index a).isSome) = true) :
    SelectsWhileGuarded session index k p (tick worn) := by
  intro a ha hactive _ _
  cases worn with
  | none => cases ha
  | some b =>
    have hab : a = b := by simpa [tick] using (DAVStateSnapshot.find_eq_some ha).1
    rw [Option.all_some, ← hab, hactive] at h
    simpa using h

end Rebound

/-- The helmet is put on again, and hidden by Helmet Toggle: nothing is sent. -/
theorem guard_withholds_rebound :
    sentAt Rebound.session Rebound.index Rebound.hidden.stableKey
      ([none, some Rebound.visible, some Rebound.hidden].map Rebound.tick) 2 = [] := by
  obtain ⟨armTime, checkTime, harm, hcheck, hlaw⟩ := guard_withholds_first_rebound Rebound.session Rebound.index
    ([none, some Rebound.visible, some Rebound.hidden].map Rebound.tick) Rebound.hidden.stableKey
    ⟨Rebound.selectsWhileGuarded rfl, Rebound.selectsWhileGuarded (by decide), Rebound.selectsWhileGuarded (by decide), trivial⟩
  obtain ⟨-, hiff, -⟩ := hlaw 2 Rebound.hidden hiddenHelmetWorkaround ⟨by decide, by decide, by decide⟩ (by decide)
  refine hiff.mpr ⟨rfl, rfl, 1, ⟨by omega, ⟨by omega, by decide, by decide⟩, fun j hj hj2 h => ?_, fun j hj hj2 b h => ?_⟩, ?_⟩
  · obtain rfl : j = 2 := by omega
    exact absurd h.absent (by decide)
  · obtain rfl : j = 1 := by omega
    have hb : some Rebound.visible = some b := h.now
    cases hb
    exact absurd h.active (by decide)
  · obtain ⟨i, hi⟩ := harm 1 _ rfl
    obtain ⟨j, hj⟩ := hcheck 2 _ rfl
    rw [hi, hj]
    change (0 : Int) - 0 ≤ kPostReequipGuardWindow
    decide

/-- A change without a selected variant leaves the guard armed: the hide after it is withheld, though it is the second change
since the helmet was put on again. -/
theorem unselected_change_keeps_guard :
    ¬∀ (s : Session) (index : DAVConfigIndex) (ticks : List Tick) (k : Bytes) (n : Nat) (a : WornArmorState) (v : Bytes),
      NonDecreasing ticks → Changes (wornAt k ticks) n a → selectVariant s index a = some v →
      sentAt s index k ticks n = [⟨a, v, false⟩] ∨ (sentAt s index k ticks n = [] ∧ a.visualState = .hidden ∧
        v = hiddenHelmetWorkaround ∧ ∃ m, FirstSince (wornAt k ticks) m n) := by
  intro h
  have hlaw := h Rebound.session Rebound.index
    ([none, some Rebound.visible, some Rebound.unexplained, some Rebound.hidden].map Rebound.tick) Rebound.hidden.stableKey 3
    Rebound.hidden hiddenHelmetWorkaround (Rebound.nonDecreasing _) ⟨by decide, by decide, by decide⟩ (by decide)
  have hnothing : sentAt Rebound.session Rebound.index Rebound.hidden.stableKey
      ([none, some Rebound.visible, some Rebound.unexplained, some Rebound.hidden].map Rebound.tick) 3 = [] := by decide
  rcases hlaw with hsent | ⟨-, -, -, m, hfirst⟩
  · rw [hnothing] at hsent
    cases hsent
  · by_cases hm : m ≤ 2
    · exact hfirst.first 2 hm (by omega) Rebound.unexplained ⟨by decide, by decide, by decide⟩
    · obtain rfl : m = 3 := by have := hfirst.le; omega
      exact absurd hfirst.appears.absent (by decide)

/-! ## Re-equips -/

/-- Every appearance of the armor in the run is that of an armor that was worn before and is shown as it is, or shows it through a
selected variant other than a hide by the workaround, which drops the guard at once. -/
def AppearancesReequip (s : Session) (index : DAVConfigIndex) (k : Bytes) (ticks : List Tick) : Prop :=
  ∀ m b, Appears (wornAt k ticks) m → wornAt k ticks m = some b →
    ((∃ e < m, (wornAt k ticks e).isSome = true) ∧ b.visualState = .visible) ∨
    (davActive b = true ∧ ∃ v, selectVariant s index b = some v ∧ ¬(b.visualState = .hidden ∧ v = hiddenHelmetWorkaround))

/-- In a run in which the armor's appearances are re-equips, a hide through the workaround is withheld only when the armor was worn
since the reset, was absent after that, and has reappeared visible before the hide. -/
theorem guard_acts_on_reequip (s : Session) (index : DAVConfigIndex) (ticks : List Tick) (k : Bytes)
    (hrun : AppearancesReequip s index k ticks) (n : Nat) (a : WornArmorState)
    (hchange : Changes (wornAt k ticks) n a) (hidden : a.visualState = .hidden)
    (hselect : selectVariant s index a = some hiddenHelmetWorkaround) (hsent : sentAt s index k ticks n = []) :
    ReequippedBefore (wornAt k ticks) n := by
  obtain ⟨T, hmessage, -⟩ := exists_timeline s index ticks k
  have hn := lt_of_wornAt hchange.now
  have hworn : (wornAt k ticks n).isSome = true := by rw [hchange.now]; rfl
  -- The state was withheld, so the guard was armed.
  rw [hmessage n hn, Option.toList_eq_nil_iff, T.withheld_iff hn hchange hselect] at hsent
  obtain ⟨-, -, x, harmed, -⟩ := hsent
  obtain ⟨m, hm, happears, -, hlast, -, hnone⟩ := T.armedAt_since (Nat.le_of_lt hn) hworn harmed
  obtain ⟨b, hb⟩ := Option.isSome_iff_exists.mp happears.worn
  rcases hrun m b happears hb with ⟨⟨e, he, hworne⟩, hvisible⟩ | ⟨hactive, v, hv, hother⟩
  · have hmn : m ≠ n := by
      rintro rfl
      obtain rfl : b = a := Option.some.inj (hb.symm.trans hchange.now)
      rw [hvisible] at hidden
      cases hidden
    obtain ⟨g, rfl⟩ : ∃ g, m = g + 1 := ⟨m - 1, by have := happears.pos; omega⟩
    have habsent : wornAt k ticks g = none := happears.absent
    have heg : e ≠ g := by
      rintro rfl
      rw [habsent] at hworne
      cases hworne
    exact ⟨e, g, g + 1, b, by omega, by omega, by omega, hworne, habsent, happears, hlast, hb, hvisible⟩
  · -- The appearance is a change with a selected variant, so it consumed the guard, or it is the withheld change itself.
    have hchangeb : Changes (wornAt k ticks) m b := ⟨hb, hactive, by rw [happears.absent]; rfl⟩
    rcases Nat.lt_or_ge m n with hlt | hge
    · rw [hnone m (Nat.le_refl m) hlt b hchangeb] at hv
      cases hv
    · obtain rfl : m = n := by omega
      obtain rfl : b = a := Option.some.inj (hb.symm.trans hchange.now)
      rw [hselect, Option.some.injEq] at hv
      exact absurd ⟨hidden, hv.symm⟩ hother

namespace Rebound

/-- The helmet is worn, taken off and put on again, and then hidden. -/
def reequip : List Tick := [some visible, none, some visible, some hidden].map tick

theorem appearancesReequip : AppearancesReequip session index hidden.stableKey reequip := by
  intro m b happears hb
  have hm : m < 4 := lt_of_wornAt hb
  have hpos := happears.pos
  obtain rfl | rfl | rfl : m = 1 ∨ m = 2 ∨ m = 3 := by omega
  · cases hb
  · have hfind : (tick (some visible)).snapshot.find hidden.stableKey = some b := hb
    obtain ⟨hmem, -⟩ := DAVStateSnapshot.find_eq_some hfind
    obtain rfl : b = visible := by simpa [tick] using hmem
    exact Or.inl ⟨⟨0, by omega, happears.worn⟩, rfl⟩
  · have hfind : (tick (some hidden)).snapshot.find hidden.stableKey = some b := hb
    obtain ⟨hmem, -⟩ := DAVStateSnapshot.find_eq_some hfind
    obtain rfl : b = hidden := by simpa [tick] using hmem
    exact absurd happears.absent (by decide)

end Rebound

theorem guard_acts_on_reequip_helmet : ReequippedBefore (wornAt Rebound.hidden.stableKey Rebound.reequip) 3 :=
  guard_acts_on_reequip Rebound.session Rebound.index Rebound.reequip Rebound.hidden.stableKey Rebound.appearancesReequip 3
    Rebound.hidden ⟨by decide, by decide, by decide⟩ rfl (by decide) (by decide)

/-- The guard takes a first equip for a re-equip: a helmet that was never worn before appears visible, and the hide after it
is withheld. -/
theorem first_equip_guarded :
    ¬∀ (s : Session) (index : DAVConfigIndex) (ticks : List Tick) (k : Bytes) (n : Nat) (a : WornArmorState),
      NonDecreasing ticks → Changes (wornAt k ticks) n a → a.visualState = .hidden →
      selectVariant s index a = some hiddenHelmetWorkaround → sentAt s index k ticks n = [] →
      ReequippedBefore (wornAt k ticks) n := by
  intro h
  obtain ⟨e, g, m, b, heg, hgm, hmn, hworn, -⟩ := h Rebound.session Rebound.index
    ([none, some Rebound.visible, some Rebound.hidden].map Rebound.tick) Rebound.hidden.stableKey 2 Rebound.hidden
    (Rebound.nonDecreasing _) ⟨by decide, by decide, by decide⟩ rfl (by decide) (by decide)
  omega

end DAVSyncTogether
