import DAVSyncTogether.Lemmas.Mirror
import DAVSyncTogether.Lemmas.Games
import DAVSyncTogether.Lemmas.Choosers

/-!
# What the tracked variant explains

The variant the remotes hold explains the last state of the armor for which a variant was selected
(`tracked_explains_selection`). Where no variant can be selected for a new state nothing is sent, so it need not explain what
is rendered now (`tracked_variant_outdated`).
-/

namespace DAVSyncTogether

open ByteString DAVProbe

/-- From one snapshot to the next, the armor stays worn and keeps its variant: it looks as before, or it is not visible and no
variant is selected for it. -/
def KeepsVariant (s : Session) (index : DAVConfigIndex) (k : Bytes) (t t' : Tick) : Prop :=
  ∃ b a, t.snapshot.find k = some b ∧ t'.snapshot.find k = some a ∧
    (a.visualEquivalent b = true ∨
      (a.visualState ≠ .visible ∧ (davActive a = true → selectVariant s index a = none)))

/-- The tick at which the tracked variant of an armor was selected and sent, and what the armor did since. -/
def SelectedAt (s : Session) (index : DAVConfigIndex) (k v : Bytes) (ticks : List Tick) : Prop :=
  ∃ earlier t later a, ticks = earlier ++ t :: later ∧ t.snapshot.find k = some a ∧ davActive a = true ∧
    selectVariant s index a = some v ∧ List.IsChain (KeepsVariant s index k) (t :: later)

/-- A tick that keeps the variant keeps the tick it was selected at. -/
theorem SelectedAt.concat {s : Session} {index : DAVConfigIndex} {k v : Bytes} {ticks : List Tick} {t : Tick}
    (h : SelectedAt s index k v ticks) (ht : ∀ u, ticks.getLast? = some u → KeepsVariant s index k u t) :
    SelectedAt s index k v (ticks ++ [t]) := by
  obtain ⟨earlier, t₀, later, a, rfl, ha, hact, hsel, hchain⟩ := h
  refine ⟨earlier, t₀, later ++ [t], a, by simp, ha, hact, hsel, ?_⟩
  rw [← List.cons_append, List.isChain_append]
  refine ⟨hchain, List.isChain_singleton t, fun u hu x hx => ?_⟩
  have hlast : (earlier ++ t₀ :: later).getLast? = some u := by
    rw [List.getLast?_append, Option.mem_def.mp hu]
    rfl
  rw [List.head?_cons, Option.mem_def, Option.some.injEq] at hx
  exact hx ▸ ht u hlast

/-- One tick keeps the tick the tracked variant was selected at, or is that tick itself. -/
theorem SelectedAt.step {s : Session} {index : DAVConfigIndex} {k v : Bytes} {ticks : List Tick} {t : Tick}
    {hasPrevious : Bool} {st : KeyState} {armTime checkTime : Int}
    (hc : st.Consistent ((ticks.getLast?).bind (fun u => u.snapshot.find k)))
    (hsel : st.tracked = some v → SelectedAt s index k v ticks)
    (hv : (st.step (selectVariant s index) hasPrevious ((ticks.getLast?).bind (fun u => u.snapshot.find k))
      (t.snapshot.find k) armTime checkTime).1.tracked = some v) : SelectedAt s index k v (ticks ++ [t]) := by
  have hcase := KeyState.step_cases (selectVariant s index) hasPrevious
    ((ticks.getLast?).bind (fun u => u.snapshot.find k)) (t.snapshot.find k) armTime checkTime st
  generalize st.step _ _ _ _ _ _ = r at hv hcase
  generalize hnow : t.snapshot.find k = now at hcase
  -- A tracked armor was worn in the snapshot before; it is enough to say what it looks like now.
  have keep : ∀ a, t.snapshot.find k = some a → st.tracked = some v →
      (∀ b, (ticks.getLast?).bind (fun u => u.snapshot.find k) = some b → a.visualEquivalent b = true ∨
        (a.visualState ≠ .visible ∧ (davActive a = true → selectVariant s index a = none))) →
      SelectedAt s index k v (ticks ++ [t]) := by
    intro a ha ht hlook
    obtain ⟨b, hb, -⟩ := hc.tracked v ht
    refine (hsel ht).concat fun u hu => ⟨b, a, ?_, ha, hlook b hb⟩
    rw [hu, Option.bind_some] at hb
    exact hb
  cases hcase with
  | unchanged a b hb hab =>
    refine keep a hnow hv fun c hc' => Or.inl ?_
    rw [hb, Option.some.injEq] at hc'
    exact hc' ▸ hab
  | unselected a hch ha hnone =>
    refine keep a hnow hv fun _ _ => Or.inr ⟨fun hvis => ?_, fun _ => hnone⟩
    rcases (davActive_iff a).mp ha with h | h <;> rw [hvis] at h <;> cases h
  | suppressed a u hch ha hu hg =>
    -- The guard is armed only on an armor that is not tracked.
    simp only [guardHolds, Bool.and_eq_true, Option.any_eq_true] at hg
    obtain ⟨-, x, hx, -⟩ := hg
    have := hc.tracked_of_armed hx
    rw [show st.tracked = some v from hv] at this
    cases this
  | applied a u hch ha hu hg =>
    obtain rfl : u = v := Option.some.inj hv
    exact ⟨ticks, t, [], a, rfl, hnow, ha, hu, List.isChain_singleton t⟩
  | shown => cases hv
  | idle a hch ha ht =>
    refine keep a hnow hv fun _ _ => Or.inr ⟨fun hvis => ?_, fun hact => ?_⟩
    · rw [ht hvis] at hv
      cases hv
    · rw [ha] at hact
      cases hact
  | removed => cases hv
  | absent hb =>
    obtain ⟨b, hb', -⟩ := hc.tracked v hv
    rw [hb] at hb'
    cases hb'

/-- The tracked variant of an armor, which is the one the remotes hold, explains the last state of the armor for which a
variant was selected: it is among the matches of that state, and in every later snapshot the armor was worn and looked as
before, or was not visible and had no variant selected for it, so that nothing was sent. -/
theorem tracked_explains_selection (s : Session) (index : DAVConfigIndex) (p₀ : State) (ticks : List Tick) :
    let r := (probe s index).run (reset p₀) ticks
    ∀ k v, r.1.networkTrackedVariants.lookup k = some v →
      (delivered (messages r.2)).lookup k = some v ∧
      ∃ earlier t later a, ticks = earlier ++ t :: later ∧ t.snapshot.find k = some a ∧ davActive a = true ∧
        selectVariant s index a = some v ∧ v ∈ index.findMatchingVariants s a ∧
        List.IsChain (KeepsVariant s index k) (t :: later) := by
  intro r k v hv
  have key : Mirror r.1 (messages r.2) ∧
      (∀ k, r.1.before k = (ticks.getLast?).bind (fun u => u.snapshot.find k)) ∧
      ∀ k v, (r.1.keyState k).tracked = some v → SelectedAt s index k v ticks := by
    refine (probe s index).run_induction (P := fun ticks p out => Mirror p (messages out) ∧
      (∀ k, p.before k = (ticks.getLast?).bind (fun u => u.snapshot.find k)) ∧
      ∀ k v, (p.keyState k).tracked = some v → SelectedAt s index k v ticks) ?_ ?_ ticks
    · exact ⟨mirror_empty, fun _ => rfl, fun _ _ h => nomatch h⟩
    · intro ticks p out t ⟨hm, hbefore, hsel⟩
      refine ⟨?_, fun k => ?_, fun k v hv => ?_⟩
      · rw [messages_append]
        exact hm.process s index t.toSurroundings t.distinct
      · rw [List.getLast?_concat]
        rfl
      · obtain ⟨i, j, -, hstate, -⟩ :=
          processSnapshot_key s index t.toSurroundings p t.snapshot hm.distinct t.distinct k
        have hv' : ((processSnapshot s index t.toSurroundings p t.snapshot).1.keyState k).tracked = some v := hv
        rw [hstate, hbefore k] at hv'
        exact SelectedAt.step (hbefore k ▸ (hm.armors k).consistent) (hsel k v) hv'
  obtain ⟨hm, -, hsel⟩ := key
  obtain ⟨earlier, t, later, a, hticks, ha, hact, hsel, hchain⟩ := hsel k v hv
  exact ⟨(hm.armors k).delivered.trans hv, earlier, t, later, a, hticks, ha, hact, hsel, mem_of_selectVariant hsel, hchain⟩

/-- The helmet with an addon rendered that no rule names. -/
def Helmet.unexplained : WornArmorState :=
  Helmet.worn .replaced [{ runtimeFormID := 7, localFormID := 7, plugin := ascii "Other.esp" }]

/-- The tracked variant need not explain what is rendered now: the helmet is hidden, then replaced by an addon no rule names;
no variant is selected, nothing is sent, and the tracked variant stays the one that hid it. -/
theorem tracked_variant_outdated :
    ¬∀ (s : Session) (index : DAVConfigIndex) (p₀ : State) (ticks : List Tick) (t : Tick) (k v : Bytes),
      ((probe s index).run (reset p₀) (ticks ++ [t])).1.networkTrackedVariants.lookup k = some v →
      ∃ a, t.snapshot.find k = some a ∧ v ∈ index.findMatchingVariants s a := by
  intro h
  obtain ⟨a, ha, hv⟩ := h Helmet.session Helmet.index {} [Helmet.tick Helmet.sending Helmet.hidden]
    (Helmet.tick Helmet.sending Helmet.unexplained) Helmet.hidden.stableKey (ascii "HideHelmet") (by decide)
  have hfind : (Helmet.tick Helmet.sending Helmet.unexplained).snapshot.find Helmet.hidden.stableKey =
      some Helmet.unexplained := by decide
  rw [hfind, Option.some.injEq] at ha
  subst ha
  revert hv
  decide

end DAVSyncTogether
