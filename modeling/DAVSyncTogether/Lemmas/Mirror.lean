import DAVSyncTogether.Run

/-!
# The invariant of the probe's bookkeeping

`MirrorAt k p ms`: after the messages `ms`, the tracker of one armor holds what the remotes hold for it, and fits the armor's last
state. A processed tick keeps it (`MirrorAt.process`), and so does a reset that finds the armor untracked (`MirrorAt.reset`).
`Mirror p ms` says it of every armor, and that every message that reset an armor carried the variant the remotes held.
-/

namespace DAVSyncTogether

namespace DAVProbe

/-- The bookkeeping of the probe mirrors the messages sent so far about one armor. -/
structure MirrorAt (k : Bytes) (p : State) (ms : List StateMessage) : Prop where
  distinct : p.previous.DistinctKeys
  consistent : (p.keyState k).Consistent (p.before k)
  delivered : (delivered ms).lookup k = (p.keyState k).tracked

/-- The bookkeeping of the probe mirrors the messages sent so far. -/
structure Mirror (p : State) (ms : List StateMessage) : Prop where
  armors : ∀ k, MirrorAt k p ms
  resets : ∀ pre m post, ms = pre ++ m :: post → m.update.value = none →
    (DAVProbe.delivered pre).lookup m.stableKey = some m.variant

/-- What remotes hold for an armor after more messages: what the last message about it says, or what they held. -/
theorem lookup_delivered_append (ms new : List StateMessage) (k : Bytes) :
    (delivered (ms ++ new)).lookup k =
      match (about k new).getLast? with
      | none => (delivered ms).lookup k
      | some m => m.update.value := by
  rw [lookup_delivered, lookup_delivered]
  change ((about k (ms ++ new)).getLast?).bind _ = _
  rw [about_append, List.getLast?_append]
  cases (about k new).getLast? <;> rfl

/-- A message among old and new ones stands among the new ones, or among the old ones. -/
theorem append_eq_append_cons {α : Type} {ms new pre post : List α} {m : α} (h : ms ++ new = pre ++ m :: post) :
    (∃ pre', pre = ms ++ pre' ∧ new = pre' ++ m :: post) ∨ ∃ xs, ms = pre ++ m :: xs := by
  rcases List.append_eq_append_iff.mp h with ⟨pre', hpre, hnew⟩ | ⟨rest, hms, hrest⟩
  · exact Or.inl ⟨pre', hpre, hnew⟩
  · cases rest with
    | nil => exact Or.inl ⟨[], by rw [hms, List.append_nil, List.append_nil], hrest.symm⟩
    | cons x xs =>
      rw [List.cons_append, List.cons.injEq] at hrest
      exact Or.inr ⟨xs, by rw [hms, hrest.1]⟩

/-- When at most one message is about an armor, a message about it is that one, and none about it stands before. -/
theorem eq_some_of_about {o : Option StateMessage} {pre post : List StateMessage} {m : StateMessage}
    (h : about m.stableKey (pre ++ m :: post) = o.toList) : about m.stableKey pre = [] ∧ o = some m := by
  have hm : about m.stableKey (m :: post) = m :: about m.stableKey post := by simp [about]
  rw [about_append, hm] at h
  cases hpre : about m.stableKey pre with
  | nil =>
    rw [hpre] at h
    cases o with
    | none => cases h
    | some m' =>
      rw [List.nil_append, Option.toList_some, List.cons.injEq] at h
      exact ⟨rfl, by rw [h.1]⟩
  | cons x xs =>
    rw [hpre] at h
    cases o <;> simp at h

/-- A processed tick keeps the mirror of an armor. -/
theorem MirrorAt.process {k : Bytes} {p : State} {ms : List StateMessage} (h : MirrorAt k p ms) (s : Session)
    (index : DAVConfigIndex) (w : Surroundings) {current : DAVStateSnapshot} (hc : current.DistinctKeys) :
    MirrorAt k (processSnapshot s index w p current).1 (ms ++ messages (processSnapshot s index w p current).2) := by
  obtain ⟨i, j, -, hstate, hmsg⟩ := processSnapshot_key s index w p current h.distinct hc k
  refine ⟨hc, ?_, ?_⟩
  · rw [hstate]
    exact h.consistent.step _ _ _ _ _
  · rw [lookup_delivered_append, hmsg, hstate, KeyState.step_tracked, h.delivered]
    generalize (KeyState.step _ _ _ _ _ _ _).2 = m
    cases m <;> rfl

/-- A reset that finds an armor untracked keeps its mirror. -/
theorem MirrorAt.reset {k : Bytes} {p : State} {ms : List StateMessage} (h : MirrorAt k p ms)
    (he : p.networkTrackedVariants.lookup k = none) : MirrorAt k (reset p) ms where
  distinct := List.nodup_nil
  consistent := ⟨nofun, nofun⟩
  delivered := h.delivered.trans he

/-- The state after a reset mirrors nothing sent. -/
theorem mirror_empty : Mirror {} [] where
  armors _ := ⟨List.nodup_nil, ⟨nofun, nofun⟩, rfl⟩
  resets pre m post h := by simp at h

theorem Mirror.distinct {p : State} {ms : List StateMessage} (h : Mirror p ms) : p.previous.DistinctKeys := (h.armors []).distinct

/-- A processed tick keeps the mirror. -/
theorem Mirror.process {p : State} {ms : List StateMessage} (h : Mirror p ms) (s : Session) (index : DAVConfigIndex)
    (w : Surroundings) {current : DAVStateSnapshot} (hc : current.DistinctKeys) :
    Mirror (processSnapshot s index w p current).1 (ms ++ messages (processSnapshot s index w p current).2) where
  armors k := (h.armors k).process s index w hc
  resets pre m post hsplit hv := by
    rcases append_eq_append_cons hsplit with ⟨pre', rfl, hnew⟩ | ⟨xs, rfl⟩
    · obtain ⟨i, j, -, -, hmsg⟩ := processSnapshot_key s index w p current h.distinct hc m.stableKey
      rw [hnew] at hmsg
      obtain ⟨hpre', hstep⟩ := eq_some_of_about hmsg
      rw [lookup_delivered_append, hpre', List.getLast?_nil, (h.armors _).delivered]
      exact KeyState.step_reset _ _ _ _ _ _ _ hstep hv
    · exact h.resets pre m xs rfl hv

/-- Every run from a reset keeps the mirror. -/
theorem mirror_run (s : Session) (index : DAVConfigIndex) (p₀ : State) (ticks : List Tick) :
    Mirror ((probe s index).run (DAVProbe.reset p₀) ticks).1
      (messages ((probe s index).run (DAVProbe.reset p₀) ticks).2) := by
  refine (probe s index).run_induction (P := fun _ p out => Mirror p (messages out)) mirror_empty ?_ ticks
  intro _ p out t h
  rw [messages_append]
  exact h.process s index t.toSurroundings t.distinct

end DAVProbe

end DAVSyncTogether
