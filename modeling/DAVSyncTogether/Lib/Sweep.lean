import Mathlib.Data.List.Induction

/-!
# A set under additions and sweeps

The operations of a log add an element to a set, or sweep out every element that meets a test. An element that some operation
of the log adds is in the set at the end exactly when every sweep of it is followed by an operation that adds it again
(`mem_replay`), whatever the set held at first.
-/

/-- One operation: an element is added, or all that meet a test are swept out. -/
inductive SetOp (α : Type) where
  | add (a : α)
  | sweep (test : α → Bool)

namespace SetOp

variable {α ι : Type}

/-- The set after one operation. -/
def apply (set : List α) : SetOp α → List α
  | add a => a :: set
  | sweep test => set.filter fun a => !test a

/-- The set a log of operations leaves. -/
def replay (set : List α) (ops : List (SetOp α)) : List α := ops.foldl apply set

/-- The operation sweeps the element out. -/
def Sweeps (op : SetOp α) (a : α) : Prop :=
  match op with
  | add _ => False
  | sweep test => test a = true

/-- After one operation the set holds what it adds, and what it held and does not sweep out. -/
theorem mem_apply {set : List α} {op : SetOp α} {a : α} : a ∈ apply set op ↔ op = add a ∨ (a ∈ set ∧ ¬op.Sweeps a) := by
  cases op with
  | add b => simp [apply, Sweeps, eq_comm]
  | sweep test => simp [apply, Sweeps]

/-- An entry of a log with one more entry is that last one, or stands in the log before it. -/
theorem concat_eq_append_cons {log pre post : List ι} {i j : ι} (h : log ++ [i] = pre ++ j :: post) :
    (j = i ∧ post = []) ∨ ∃ post', post = post' ++ [i] ∧ log = pre ++ j :: post' := by
  rcases List.eq_nil_or_concat post with rfl | ⟨post', l, rfl⟩
  · rw [List.append_singleton_inj] at h
    exact Or.inl ⟨h.2.symm, rfl⟩
  · rw [List.concat_eq_append, ← List.cons_append, ← List.append_assoc, List.append_singleton_inj] at h
    exact Or.inr ⟨post', by rw [h.2, List.concat_eq_append], h.1⟩

/-- The last operation of a log that does not add the element must not sweep it out either. -/
theorem followed_concat {f : ι → SetOp α} {log : List ι} {i : ι} {a : α} (hi : f i ≠ add a) :
    (∀ pre j post, log ++ [i] = pre ++ j :: post → (f j).Sweeps a → ∃ l ∈ post, f l = add a) ↔
      (∀ pre j post, log = pre ++ j :: post → (f j).Sweeps a → ∃ l ∈ post, f l = add a) ∧ ¬(f i).Sweeps a := by
  constructor
  · refine fun h => ⟨fun pre j post hlog hsweeps => ?_, fun hsweeps => ?_⟩
    · obtain ⟨l, hl, hadd⟩ := h pre j (post ++ [i]) (by rw [hlog, List.append_assoc, List.cons_append]) hsweeps
      rcases List.mem_append.mp hl with hl | hl
      · exact ⟨l, hl, hadd⟩
      · rw [List.mem_singleton.mp hl] at hadd
        exact absurd hadd hi
    · obtain ⟨l, hl, -⟩ := h log i [] rfl hsweeps
      cases hl
  · rintro ⟨h, hlast⟩ pre j post hlog hsweeps
    rcases concat_eq_append_cons hlog with ⟨rfl, -⟩ | ⟨post', rfl, hbefore⟩
    · exact absurd hsweeps hlast
    · obtain ⟨l, hl, hadd⟩ := h pre j post' hbefore hsweeps
      exact ⟨l, List.mem_append_left _ hl, hadd⟩

/-- An element that a log adds is in the set at the end exactly when every sweep of it is followed by an addition of it. -/
theorem mem_replay (f : ι → SetOp α) (set : List α) {log : List ι} {a : α} (h : ∃ i ∈ log, f i = add a) :
    a ∈ replay set (log.map f) ↔ ∀ pre i post, log = pre ++ i :: post → (f i).Sweeps a → ∃ j ∈ post, f j = add a := by
  induction log using List.reverseRecOn with
  | nil =>
    obtain ⟨i, hi, -⟩ := h
    cases hi
  | append_singleton log i ih =>
    rw [List.map_append, List.map_singleton, replay, List.foldl_append, List.foldl_cons, List.foldl_nil, ← replay, mem_apply]
    by_cases hi : f i = add a
    · refine ⟨fun _ pre j post hlog hsweeps => ?_, fun _ => Or.inl hi⟩
      rcases concat_eq_append_cons hlog with ⟨rfl, -⟩ | ⟨post', rfl, -⟩
      · rw [hi] at hsweeps
        exact hsweeps.elim
      · exact ⟨i, by simp, hi⟩
    · rw [followed_concat hi, or_iff_right hi]
      refine and_congr_left fun _ => ih ?_
      obtain ⟨j, hj, hadd⟩ := h
      rcases List.mem_append.mp hj with hj | hj
      · exact ⟨j, hj, hadd⟩
      · rw [List.mem_singleton.mp hj] at hadd
        exact absurd hadd hi

end SetOp
