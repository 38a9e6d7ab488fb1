import Mathlib.Data.List.Induction

/-!
# Machines that read inputs and emit outputs

A machine steps on an input and emits outputs. `run` is the state after a list of inputs with everything emitted on the way,
in order; a property of every state reached is proved by `run_induction`, one step at a time, and by `run_induction_along`
where every step of the run meets a condition on the state before it. `trace` keeps the states and the outputs apart, step by
step. Two machines are compared on related inputs by `run_simulation`, step by step on the same inputs by `trace_simulation`.
-/

/-- A machine: the state after a step, and what the step emits. -/
structure Machine (σ ι ο : Type) where
  step : σ → ι → σ × List ο

namespace Machine

variable {σ τ ι κ ο ω : Type}

/-- The state after a run, and everything the run emitted, in order. -/
def run (M : Machine σ ι ο) (s : σ) (is : List ι) : σ × List ο :=
  is.foldl (fun r i => ((M.step r.1 i).1, r.2 ++ (M.step r.1 i).2)) (s, [])

@[simp] theorem run_nil (M : Machine σ ι ο) (s : σ) : M.run s [] = (s, []) := rfl

/-- A run with one more input is the run, then a step. -/
@[simp] theorem run_concat (M : Machine σ ι ο) (s : σ) (is : List ι) (i : ι) :
    M.run s (is ++ [i]) = ((M.step (M.run s is).1 i).1, (M.run s is).2 ++ (M.step (M.run s is).1 i).2) := by
  simp [run]

/-- A run begins with its first step. -/
theorem run_cons (M : Machine σ ι ο) (s : σ) (i : ι) (is : List ι) : (M.run s (i :: is)).1 = (M.run (M.step s i).1 is).1 := by
  induction is using List.reverseRecOn with
  | nil => rfl
  | append_singleton is j ih => rw [← List.cons_append, run_concat, run_concat, ih]

/-- A run over two lists of inputs is a run over the first, then one over the second. -/
theorem run_append (M : Machine σ ι ο) (s : σ) (is js : List ι) :
    M.run s (is ++ js) = ((M.run (M.run s is).1 js).1, (M.run s is).2 ++ (M.run (M.run s is).1 js).2) := by
  induction js using List.reverseRecOn with
  | nil => simp
  | append_singleton js j ih => rw [← List.append_assoc, run_concat, ih, run_concat, List.append_assoc]

/-- A property of the inputs read, the state reached and the outputs emitted holds of every run, once it holds at the start and
every step keeps it. -/
theorem run_induction (M : Machine σ ι ο) {P : List ι → σ → List ο → Prop} {s : σ} (h0 : P [] s [])
    (hstep : ∀ is s out i, P is s out → P (is ++ [i]) (M.step s i).1 (out ++ (M.step s i).2)) (is : List ι) :
    P is (M.run s is).1 (M.run s is).2 := by
  induction is using List.reverseRecOn with
  | nil => exact h0
  | append_singleton is i ih =>
    rw [run_concat]
    exact hstep is _ _ i ih

/-- What is kept of a list of inputs, with one more input. -/
theorem filterMap_concat (f : ι → Option κ) (is : List ι) (i : ι) : (is ++ [i]).filterMap f = is.filterMap f ++ (f i).toList := by
  rw [List.filterMap_append]
  cases h : f i with
  | none => rw [List.filterMap_cons_none h, List.filterMap_nil, Option.toList_none]
  | some k => rw [List.filterMap_cons_some h, List.filterMap_nil, Option.toList_some]

/-- Every step of the run meets a condition on the state before it and its input. -/
def Along (M : Machine σ ι ο) (C : σ → ι → Prop) (s : σ) : List ι → Prop
  | [] => True
  | i :: is => C s i ∧ M.Along C (M.step s i).1 is

/-- A run with one more input meets the condition when the run does and the last step does. -/
theorem along_concat (M : Machine σ ι ο) (C : σ → ι → Prop) (s : σ) (is : List ι) (i : ι) :
    M.Along C s (is ++ [i]) ↔ M.Along C s is ∧ C (M.run s is).1 i := by
  induction is generalizing s with
  | nil => simp [Along]
  | cons j is ih => rw [List.cons_append, Along, Along, ih, run_cons, and_assoc]

/-- A run whose every step meets a condition meets any condition that follows from it at the inputs of the run. -/
theorem Along.mono {M : Machine σ ι ο} {C C' : σ → ι → Prop} {is : List ι} (h : ∀ i ∈ is, ∀ s, C s i → C' s i) {s : σ}
    (hC : M.Along C s is) : M.Along C' s is := by
  induction is generalizing s with
  | nil => trivial
  | cons i is ih => exact ⟨h i (by simp) s hC.1, ih (fun j hj => h j (by simp [hj])) hC.2⟩

/-- Two conditions that every step meets. -/
theorem Along.and {M : Machine σ ι ο} {C C' : σ → ι → Prop} {is : List ι} {s : σ} (h : M.Along C s is) (h' : M.Along C' s is) :
    M.Along (fun s i => C s i ∧ C' s i) s is := by
  induction is generalizing s with
  | nil => trivial
  | cons i is ih => exact ⟨⟨h.1, h'.1⟩, ih h.2 h'.2⟩

/-- As `run_induction`, for the runs whose every step meets a condition. -/
theorem run_induction_along (M : Machine σ ι ο) {C : σ → ι → Prop} {P : List ι → σ → List ο → Prop} {s : σ}
    (h0 : P [] s [])
    (hstep : ∀ is s out i, C s i → P is s out → P (is ++ [i]) (M.step s i).1 (out ++ (M.step s i).2)) (is : List ι)
    (hC : M.Along C s is) : P is (M.run s is).1 (M.run s is).2 := by
  induction is using List.reverseRecOn with
  | nil => exact h0
  | append_singleton is i ih =>
    obtain ⟨h, hi⟩ := (M.along_concat C s is i).mp hC
    rw [run_concat]
    exact hstep is _ _ i hi (ih h)

/-! ## Single steps of a run -/

/-- What the step on the input at a position of the run emits; nothing past the end. -/
def outputAt (M : Machine σ ι ο) (s : σ) (is : List ι) (n : Nat) : List ο :=
  match is[n]? with
  | some i => (M.step (M.run s (is.take n)).1 i).2
  | none => []

/-- The run up to and with the input at a position is the run before it, then a step. -/
theorem run_take_succ (M : Machine σ ι ο) (s : σ) {is : List ι} {n : Nat} {i : ι} (h : is[n]? = some i) :
    (M.run s (is.take (n + 1))).1 = (M.step (M.run s (is.take n)).1 i).1 := by
  rw [List.take_add_one, h, Option.toList_some, run_concat]

/-- Every step of a run that meets a condition meets it, at its position. -/
theorem Along.get {M : Machine σ ι ο} {C : σ → ι → Prop} {s : σ} {is : List ι} (hC : M.Along C s is) {n : Nat} {i : ι}
    (h : is[n]? = some i) : C (M.run s (is.take n)).1 i := by
  induction is generalizing s n with
  | nil => simp at h
  | cons j is ih =>
    cases n with
    | zero =>
      rw [List.getElem?_cons_zero, Option.some.injEq] at h
      exact h ▸ hC.1
    | succ n =>
      rw [List.getElem?_cons_succ] at h
      rw [List.take_succ_cons, run_cons]
      exact ih hC.2 h

/-- The states reached and the outputs emitted, step by step. -/
def trace (M : Machine σ ι ο) (s : σ) : List ι → List (σ × List ο)
  | [] => []
  | i :: is => M.step s i :: M.trace (M.step s i).1 is

/-- Two machines whose steps keep a relation between their states, on related inputs, are in related states after related runs. -/
theorem run_simulation (M : Machine σ ι ο) (N : Machine τ κ ω) {R : σ → τ → Prop} {Q : ι → κ → Prop}
    (hstep : ∀ s t i j, R s t → Q i j → R (M.step s i).1 (N.step t j).1) {is : List ι} {js : List κ} (his : List.Forall₂ Q is js)
    {s : σ} {t : τ} (h : R s t) : R (M.run s is).1 (N.run t js).1 := by
  induction his generalizing s t with
  | nil => exact h
  | cons hij _ ih =>
    rw [run_cons, run_cons]
    exact ih (hstep _ _ _ _ h hij)

/-- Two machines whose steps keep a relation between their states, on inputs that meet a condition, have related traces. -/
theorem trace_simulation (M : Machine σ ι ο) (N : Machine τ ι ω) {R : σ → τ → Prop} {C : σ → ι → Prop}
    {Q : σ × List ο → τ × List ω → Prop}
    (hstep : ∀ s t i, C s i → R s t → R (M.step s i).1 (N.step t i).1 ∧ Q (M.step s i) (N.step t i)) (is : List ι)
    {s : σ} {t : τ} (hC : M.Along C s is) (h : R s t) : List.Forall₂ Q (M.trace s is) (N.trace t is) := by
  induction is generalizing s t with
  | nil => exact List.Forall₂.nil
  | cons i is ih =>
    obtain ⟨hR, hQ⟩ := hstep s t i hC.1 h
    exact List.Forall₂.cons hQ (ih hC.2 hR)

end Machine
