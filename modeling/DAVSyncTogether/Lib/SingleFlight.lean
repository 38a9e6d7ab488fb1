import Mathlib.Logic.Function.Basic

/-!
# A job that is pending at most once

Callers on any threads ask for one job. A flag says that the job is pending: a caller sets it in one atomic exchange, goes away
when it was set already, and else hands the job over, or clears the flag again when there is nobody to take it. The job clears
the flag when it begins to run. Each of these actions is atomic, and they interleave in any order.

Both actions (`advance`, `begin`) keep `Phase`: the flag is set exactly while one caller is about to hand the job over or the job
waits (`Phase.flag_iff`), so no job waits twice (`Phase.jobs_le_one`) and no flag is left behind.
-/

namespace SingleFlight

/-- Where a caller stands: it does not ask, it is about to exchange the flag, or it found the flag clear and set it. -/
inductive Call where
  | idle | admitted | claimed
  deriving DecidableEq, Repr

/-- The flag, the callers, and the jobs that wait. -/
structure State (ι : Type) where
  flag : Bool := false
  calls : ι → Call := fun _ => .idle
  jobs : Nat := 0

section

variable {ι : Type} [DecidableEq ι]

/-- The next action of a caller: it is admitted, it exchanges the flag, it hands the job over. -/
def advance (st : State ι) (i : ι) (admitted accepted : Bool) : State ι :=
  match st.calls i with
  | .idle => if admitted then { st with calls := Function.update st.calls i .admitted } else st
  | .admitted => { st with flag := true, calls := Function.update st.calls i (if st.flag then .idle else .claimed) }
  | .claimed =>
    let calls := Function.update st.calls i .idle
    if accepted then { st with calls, jobs := st.jobs + 1 } else { st with calls, flag := false }

/-- A job begins to run. -/
def begin (st : State ι) : State ι := { st with flag := false, jobs := st.jobs - 1 }

omit [DecidableEq ι] in
/-- What the flag can mean: nothing is pending, one caller is about to hand the job over, or the job waits. -/
inductive Phase (st : State ι) : Prop where
  | free (hflag : st.flag = false) (hjobs : st.jobs = 0) (hcalls : ∀ i, st.calls i ≠ .claimed)
  | handing (i : ι) (hflag : st.flag = true) (hjobs : st.jobs = 0) (hi : st.calls i = .claimed)
      (hcalls : ∀ j, j ≠ i → st.calls j ≠ .claimed)
  | waiting (hflag : st.flag = true) (hjobs : st.jobs = 1) (hcalls : ∀ i, st.calls i ≠ .claimed)

omit [DecidableEq ι] in
theorem Phase.initial : Phase ({} : State ι) := .free rfl rfl nofun

omit [DecidableEq ι] in
/-- What the flag means depends on the flag, the jobs, and who holds a claim. -/
theorem Phase.congr {st st' : State ι} (h : Phase st) (hflag : st'.flag = st.flag) (hjobs : st'.jobs = st.jobs)
    (hcalls : ∀ i, st'.calls i = .claimed ↔ st.calls i = .claimed) : Phase st' := by
  cases h with
  | free hf hj hc => exact .free (hflag.trans hf) (hjobs.trans hj) fun i hi => hc i ((hcalls i).mp hi)
  | handing i hf hj hi hc =>
    exact .handing i (hflag.trans hf) (hjobs.trans hj) ((hcalls i).mpr hi) fun j hne hj => hc j hne ((hcalls j).mp hj)
  | waiting hf hj hc => exact .waiting (hflag.trans hf) (hjobs.trans hj) fun i hi => hc i ((hcalls i).mp hi)

/-- A caller without a claim that takes none leaves the claims as they are. -/
theorem update_eq_claimed_iff {calls : ι → Call} {i : ι} {c : Call} (hi : calls i ≠ .claimed) (hc : c ≠ .claimed) (j : ι) :
    Function.update calls i c j = .claimed ↔ calls j = .claimed := by
  by_cases hj : j = i
  · subst hj
    rw [Function.update_self]
    exact iff_of_false hc hi
  · rw [Function.update_of_ne hj]

/-- A caller that gives its claim up leaves those of the others. -/
theorem update_idle_ne_claimed {calls : ι → Call} {i : ι} (h : ∀ j, j ≠ i → calls j ≠ .claimed) (j : ι) :
    Function.update calls i .idle j ≠ .claimed := by
  by_cases hj : j = i
  · subst hj
    rw [Function.update_self]
    exact nofun
  · rw [Function.update_of_ne hj]
    exact h j hj

/-- A caller that goes on keeps the meaning of the flag. -/
theorem Phase.advance {st : State ι} (h : Phase st) (i : ι) (admitted accepted : Bool) :
    Phase (SingleFlight.advance st i admitted accepted) := by
  unfold SingleFlight.advance
  cases hi : st.calls i with
  | idle =>
    dsimp only
    split
    · exact h.congr rfl rfl (update_eq_claimed_iff (by rw [hi]; exact nofun) nofun)
    · exact h
  | admitted =>
    dsimp only
    cases hflag : st.flag with
    | true => exact h.congr hflag.symm rfl (update_eq_claimed_iff (by rw [hi]; exact nofun) nofun)
    | false =>
      -- The exchange finds the flag clear: the caller takes it.
      cases h with
      | free _ hjobs hcalls =>
        refine .handing i rfl hjobs (Function.update_self ..) fun j hj => ?_
        dsimp only
        rw [if_neg Bool.false_ne_true, Function.update_of_ne hj]
        exact hcalls j
      | handing k hf => cases hflag.symm.trans hf
      | waiting hf => cases hflag.symm.trans hf
  | claimed =>
    dsimp only
    cases h with
    | free hflag hjobs hcalls => exact absurd hi (hcalls i)
    | handing k hflag hjobs hk hcalls =>
      have hki : i = k := by
        by_contra hne
        exact hcalls i hne hi
      subst hki
      split
      · exact .waiting hflag (by rw [hjobs]) (update_idle_ne_claimed hcalls)
      · exact .free rfl hjobs (update_idle_ne_claimed hcalls)
    | waiting hflag hjobs hcalls => exact absurd hi (hcalls i)

omit [DecidableEq ι] in
/-- A job that begins to run leaves nothing pending. -/
theorem Phase.begin {st : State ι} (h : Phase st) (hjobs : st.jobs ≠ 0) : Phase (SingleFlight.begin st) := by
  cases h with
  | free hflag hnone hcalls => exact absurd hnone hjobs
  | handing i hflag hnone hi hcalls => exact absurd hnone hjobs
  | waiting hflag hone hcalls => exact .free rfl (by simp [SingleFlight.begin, hone]) hcalls

omit [DecidableEq ι] in
/-- No job waits twice. -/
theorem Phase.jobs_le_one {st : State ι} (h : Phase st) : st.jobs ≤ 1 := by
  cases h <;> omega

omit [DecidableEq ι] in
/-- The flag is set exactly while the job waits or a caller is about to hand it over. -/
theorem Phase.flag_iff {st : State ι} (h : Phase st) : st.flag = true ↔ 0 < st.jobs ∨ ∃ i, st.calls i = .claimed := by
  cases h with
  | free hflag hjobs hcalls =>
    rw [hflag, hjobs]
    simp [hcalls]
  | handing i hflag hjobs hi hcalls => exact ⟨fun _ => Or.inr ⟨i, hi⟩, fun _ => hflag⟩
  | waiting hflag hjobs hcalls => exact ⟨fun _ => Or.inl (by omega), fun _ => hflag⟩

omit [DecidableEq ι] in
/-- Of a job that waits and the callers that are about to hand one over, there is at most one. -/
theorem Phase.claim_unique {st : State ι} (h : Phase st) {i j : ι} (hi : st.calls i = .claimed) (hj : st.calls j = .claimed) :
    i = j ∧ st.jobs = 0 := by
  cases h with
  | free hflag hjobs hcalls => exact absurd hi (hcalls i)
  | handing k hflag hjobs hk hcalls =>
    have hik : i = k := by
      by_contra hne
      exact hcalls i hne hi
    have hjk : j = k := by
      by_contra hne
      exact hcalls j hne hj
    exact ⟨hik.trans hjk.symm, hjobs⟩
  | waiting hflag hjobs hcalls => exact absurd hi (hcalls i)

end

end SingleFlight
