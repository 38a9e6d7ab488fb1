import DAVSyncTogether.Lemmas.Mirror
import DAVSyncTogether.Lemmas.Games

/-!
# The bookkeeping of the sender

After every processed tick the tracked variants are the replay of the messages (`tracked_mirrors_wire`). The replay is of
every call of `SendArmorState`, not of those the API accepted: the call tells nothing, and the probe records what it meant to
send (`tracked_replays_calls`, `unsent_message_recorded`).
-/

namespace DAVSyncTogether

open ByteString DAVProbe

/-- The sender's bookkeeping mirrors the wire, after every step of a run from a reset: the tracked variants are the replay of
the messages; a tracked armor is worn in the snapshot just processed and not visible there; a message that resets an armor
carries the variant the remotes hold for it; a guarded armor is worn in that snapshot and not tracked. -/
theorem tracked_mirrors_wire (s : Session) (index : DAVConfigIndex) (p₀ : State) (ticks : List Tick) (t : Tick) :
    let r := (probe s index).run (reset p₀) (ticks ++ [t])
    (∀ k, (delivered (messages r.2)).lookup k = r.1.networkTrackedVariants.lookup k) ∧
    (∀ k ∈ r.1.networkTrackedVariants, ∃ a ∈ t.snapshot.wornArmors, a.stableKey = k ∧ a.visualState ≠ .visible) ∧
    (∀ pre m post, messages r.2 = pre ++ m :: post → m.state = .visible ∨ m.state = .unequipped →
      (delivered pre).lookup m.stableKey = some m.variant) ∧
    ∀ k ∈ r.1.recentReequips,
      (∃ a ∈ t.snapshot.wornArmors, a.stableKey = k) ∧ k ∉ r.1.networkTrackedVariants := by
  have hm := mirror_run s index p₀ (ticks ++ [t])
  have hbefore : ∀ k, ((probe s index).run (reset p₀) (ticks ++ [t])).1.before k = t.snapshot.find k := by
    intro k
    rw [Machine.run_concat]
    rfl
  refine ⟨fun k => (hm.armors k).delivered, fun k hk => ?_, fun pre m post hsplit hstate => ?_, fun k hk => ?_⟩
  · obtain ⟨v, hv⟩ := Option.isSome_iff_exists.mp (AList.lookup_isSome.mpr hk)
    obtain ⟨a, ha, hvis⟩ := (hm.armors k).consistent.tracked v hv
    rw [hbefore] at ha
    obtain ⟨hmem, hkey⟩ := DAVStateSnapshot.find_eq_some ha
    exact ⟨a, hmem, hkey, hvis⟩
  · exact hm.resets pre m post hsplit (m.value_update_eq_none.mpr hstate)
  · obtain ⟨v, hv⟩ := Option.isSome_iff_exists.mp (AList.lookup_isSome.mpr hk)
    obtain ⟨hworn, huntracked⟩ := (hm.armors k).consistent.reequip v hv
    rw [hbefore] at hworn
    obtain ⟨a, ha⟩ := Option.isSome_iff_exists.mp hworn
    obtain ⟨hmem, hkey⟩ := DAVStateSnapshot.find_eq_some ha
    exact ⟨⟨a, hmem, hkey⟩, AList.lookup_eq_none.mp huntracked⟩

/-! ## Calls that reach nobody -/

/-- The call was handed to the API, which answered `kOk`. -/
def DAVProbe.SendCall.sentOk (c : SendCall) : Bool := c.transmission.any (fun x => x.result == .ok)

/-- The tracked variants are the replay of all calls of `SendArmorState`, whatever became of each. So they are the replay of
the messages that were sent at every armor whose last call was sent, or that no call was about. -/
theorem tracked_replays_calls (s : Session) (index : DAVConfigIndex) (p₀ : State) (ticks : List Tick) :
    let r := (probe s index).run (reset p₀) ticks
    ∀ k, r.1.networkTrackedVariants.lookup k = (delivered (messages r.2)).lookup k ∧
      ((∀ c, (r.2.filter (fun c => c.stableKey = k)).getLast? = some c → c.sentOk = true) →
        r.1.networkTrackedVariants.lookup k = (delivered (messages (r.2.filter SendCall.sentOk))).lookup k) := by
  intro r k
  have hm := ((mirror_run s index p₀ ticks).armors k).delivered
  refine ⟨hm.symm, fun hlast => hm.symm.trans ?_⟩
  have habout : ∀ calls : List SendCall, about k (messages calls) = messages (calls.filter (fun c => c.stableKey = k)) := by
    intro calls
    rw [about, messages, messages, List.filter_map]
    rfl
  have hfilter : (r.2.filter SendCall.sentOk).filter (fun c => decide (c.stableKey = k)) =
      (r.2.filter (fun c => decide (c.stableKey = k))).filter SendCall.sentOk := by
    rw [List.filter_filter, List.filter_filter]
    simp only [Bool.and_comm]
  rw [lookup_delivered, lookup_delivered]
  change ((about k (messages r.2)).getLast?).bind _ = ((about k (messages (r.2.filter SendCall.sentOk))).getLast?).bind _
  rw [habout, habout, hfilter, messages, messages, List.getLast?_map, List.getLast?_map]
  generalize r.2.filter (fun c => decide (c.stableKey = k)) = calls at hlast ⊢
  rcases List.eq_nil_or_concat calls with rfl | ⟨init, c, rfl⟩
  · rfl
  · have hc := hlast c (by simp)
    simp [hc]

/-- A call that reaches nobody is recorded as if it had: with the service stopped, the hidden helmet is tracked. -/
theorem unsent_message_recorded :
    ¬∀ (s : Session) (index : DAVConfigIndex) (p₀ : State) (ticks : List Tick) (k : Bytes),
      ((probe s index).run (reset p₀) ticks).1.networkTrackedVariants.lookup k =
        (delivered (messages (((probe s index).run (reset p₀) ticks).2.filter SendCall.sentOk))).lookup k := by
  intro h
  have := h Helmet.session Helmet.index {} [Helmet.tick Helmet.stopped Helmet.hidden] Helmet.hidden.stableKey
  revert this
  decide

end DAVSyncTogether
