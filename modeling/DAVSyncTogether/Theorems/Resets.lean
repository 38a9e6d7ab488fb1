import DAVSyncTogether.Lemmas.Mirror
import DAVSyncTogether.Lemmas.Games

/-!
# Resets

A reset forgets what the remotes were told, and tells them nothing. A remote that was told to hide an armor before the reset
keeps it hidden when the armor is visible after it (`reset_strands_remote`). When every reset finds the armor untracked, no
remote is left with a variant that the sender no longer shows for it (`no_remote_stranded`).
-/

namespace DAVSyncTogether

open ByteString DAVProbe

/-- The last message about an armor, if there is one, resets it. -/
def LastMessageResets (k : Bytes) (ms : List StateMessage) : Prop :=
  ∀ m, (about k ms).getLast? = some m → m.state = .visible ∨ m.state = .unequipped

/-- A reset is issued only while no variant is tracked for the armor. -/
def ResetFindsUntracked (k : Bytes) (p : State) : Event → Prop
  | .tick _ => True
  | .reset => p.networkTrackedVariants.lookup k = none

/-- Where remotes hold nothing, the last message resets. -/
theorem lastMessageResets_of_lookup {ms : List StateMessage} {k : Bytes} (h : (delivered ms).lookup k = none) :
    LastMessageResets k ms := by
  intro m hm
  rw [lookup_delivered] at h
  change ((about k ms).getLast?).bind _ = none at h
  rw [hm] at h
  exact m.value_update_eq_none.mp h

/-- Every run whose resets find the armor untracked keeps its mirror. -/
theorem mirror_events (s : Session) (index : DAVConfigIndex) (events : List Event) (k : Bytes)
    (h : (probeEvents s index).Along (ResetFindsUntracked k) {} events) :
    MirrorAt k ((probeEvents s index).run {} events).1 (messages ((probeEvents s index).run {} events).2) := by
  refine (probeEvents s index).run_induction_along (P := fun _ p out => MirrorAt k p (messages out)) (mirror_empty.armors k) ?_
    events h
  intro _ p out e he hm
  rw [messages_append]
  cases e with
  | tick t => exact hm.process s index t.toSurroundings t.distinct
  | reset =>
    change MirrorAt k (reset p) (messages out ++ [])
    rw [List.append_nil]
    exact hm.reset he

/-- No remote is left showing a variant the sender no longer shows for an armor, in a run whose resets find the armor untracked:
whenever a tick has just been processed and the armor is visible in its snapshot, or not worn in it, the last message ever sent
about that armor, before any reset or after, resets it. -/
theorem no_remote_stranded (s : Session) (index : DAVConfigIndex) (events : List Event) (t : Tick) (k : Bytes)
    (h : (probeEvents s index).Along (ResetFindsUntracked k) {} (events ++ [.tick t]))
    (hk : ∀ a, t.snapshot.find k = some a → a.visualState = .visible) :
    LastMessageResets k (messages ((probeEvents s index).run {} (events ++ [.tick t])).2) := by
  have hm := mirror_events s index _ k h
  have hbefore : ((probeEvents s index).run {} (events ++ [.tick t])).1.before k = t.snapshot.find k := by
    rw [Machine.run_concat]
    rfl
  refine lastMessageResets_of_lookup ?_
  rw [hm.delivered, Option.eq_none_iff_forall_ne_some]
  intro v hv
  obtain ⟨a, ha, hvis⟩ := hm.consistent.tracked v hv
  rw [hbefore] at ha
  exact hvis (hk a ha)

namespace Helmet

/-- The helmet is hidden and shown again, and another one is hidden, before a reset. -/
def resetWithOther : List Event :=
  [.tick (tick sending hidden), .tick (tick sending visible), .tick (tick sending otherHidden), .reset]

end Helmet

/-- The helmet is visible after a reset that finds another one tracked. -/
theorem no_remote_stranded_helmet :
    LastMessageResets Helmet.hidden.stableKey (messages ((probeEvents Helmet.session Helmet.index).run {}
      (Helmet.resetWithOther ++ [.tick (Helmet.tick Helmet.sending Helmet.visible)])).2) := by
  refine no_remote_stranded Helmet.session Helmet.index Helmet.resetWithOther (Helmet.tick Helmet.sending Helmet.visible)
    Helmet.hidden.stableKey ⟨trivial, trivial, trivial, ?_, trivial, trivial⟩ ?_
  · unfold ResetFindsUntracked
    decide
  · intro a ha
    have hfind : (Helmet.tick Helmet.sending Helmet.visible).snapshot.find Helmet.hidden.stableKey = some Helmet.visible := by
      decide
    rw [hfind, Option.some.injEq] at ha
    rw [← ha]
    rfl

/-- A reset while the helmet is hidden strands the remote: the helmet is visible in the tick after it, and the last message
about it says that it is hidden. -/
theorem reset_strands_remote :
    ¬∀ (s : Session) (index : DAVConfigIndex) (events : List Event) (t : Tick) (k : Bytes),
      (∀ a, t.snapshot.find k = some a → a.visualState = .visible) →
      LastMessageResets k (messages ((probeEvents s index).run {} (events ++ [.tick t])).2) := by
  intro h
  have hfind : (Helmet.tick Helmet.sending Helmet.visible).snapshot.find Helmet.hidden.stableKey = some Helmet.visible := by
    decide
  have hlast := h Helmet.session Helmet.index [.tick (Helmet.tick Helmet.sending Helmet.hidden), .reset]
    (Helmet.tick Helmet.sending Helmet.visible) Helmet.hidden.stableKey (fun a ha => by
      rw [hfind, Option.some.injEq] at ha
      rw [← ha]
      rfl) ⟨Helmet.hidden, ascii "HideHelmet", false⟩ (by decide)
  revert hlast
  decide

end DAVSyncTogether
