import Mathlib.Data.List.Basic

/-!
# Codes that can be read back from the front of a stream

`Readable D enc R` says that, of the values in `D`, the encoding at the front of a stream determines the value up to `R` and
the rest of the stream: nothing outside the encoding has to say where it ends. Texts closed by a delimiter, fields of fixed
width, sequences of fields and lists closed by a terminator are readable; a list of readable fields that fills the stream is
determined by the stream.
-/

namespace PrefixCode

variable {α β : Type}

/-- Of the values in `D`, the encoding at the front of a stream determines the value up to `R`, and the rest of the stream. -/
def Readable (D : α → Prop) (enc : α → List β) (R : α → α → Prop) : Prop :=
  ∀ a b r s, D a → D b → enc a ++ r = enc b ++ s → R a b ∧ r = s

/-- Two texts that lack the delimiter and are closed by it at the front of one stream are the same text. -/
theorem delimited {d : β} {x y r s : List β} (hx : d ∉ x) (hy : d ∉ y) (h : x ++ d :: r = y ++ d :: s) :
    x = y ∧ r = s := by
  induction x generalizing y with
  | nil =>
    cases y with
    | nil => simpa using h
    | cons b y =>
      simp only [List.nil_append, List.cons_append, List.cons.injEq] at h
      exact absurd (by simp [h.1]) hy
  | cons a x ih =>
    cases y with
    | nil =>
      simp only [List.nil_append, List.cons_append, List.cons.injEq] at h
      exact absurd (by simp [h.1]) hx
    | cons b y =>
      simp only [List.cons_append, List.cons.injEq] at h
      rw [List.mem_cons, not_or] at hx hy
      obtain ⟨hxy, hrs⟩ := ih hx.2 hy.2 h.2
      exact ⟨by rw [h.1, hxy], hrs⟩

/-- Fields of one width at the front of one stream are the same field. -/
theorem fixedWidth {x y r s : List β} (hl : x.length = y.length) (h : x ++ r = y ++ s) : x = y ∧ r = s :=
  List.append_inj h hl

/-- A list of readable fields that fills the stream is determined by the stream, when no field is empty. -/
theorem list_eq {D : α → Prop} {enc : α → List β} {R : α → α → Prop} (h : Readable D enc R) (hne : ∀ a, enc a ≠ [])
    {l m : List α} (hl : ∀ a ∈ l, D a) (hm : ∀ a ∈ m, D a) (he : l.flatMap enc = m.flatMap enc) :
    List.Forall₂ R l m := by
  induction l generalizing m with
  | nil =>
    cases m with
    | nil => exact List.Forall₂.nil
    | cons b m => exact absurd (List.append_eq_nil_iff.mp he.symm).1 (hne b)
  | cons a l ih =>
    cases m with
    | nil => exact absurd (List.append_eq_nil_iff.mp he).1 (hne a)
    | cons b m =>
      rw [List.flatMap_cons, List.flatMap_cons] at he
      obtain ⟨hab, hrest⟩ := h a b _ _ (hl a (by simp)) (hm b (by simp)) he
      exact List.Forall₂.cons hab (ih (fun c hc => hl c (by simp [hc])) (fun c hc => hm c (by simp [hc])) hrest)

/-- A list of readable fields closed by a terminator is readable, when no field begins with the terminator. -/
theorem terminated {D : α → Prop} {enc : α → List β} {R : α → α → Prop} {t : β} (h : Readable D enc R)
    (hne : ∀ a, D a → enc a ≠ []) (ht : ∀ a, D a → ∀ r, enc a ≠ t :: r) {l m : List α} {r s : List β}
    (hl : ∀ a ∈ l, D a) (hm : ∀ a ∈ m, D a) (he : l.flatMap enc ++ t :: r = m.flatMap enc ++ t :: s) :
    List.Forall₂ R l m ∧ r = s := by
  have head : ∀ a, D a → ∀ u v, enc a ++ u ≠ t :: v := by
    intro a ha u v huv
    cases hea : enc a with
    | nil => exact hne a ha hea
    | cons b x =>
      rw [hea, List.cons_append, List.cons.injEq] at huv
      exact ht a ha x (by rw [hea, huv.1])
  induction l generalizing m with
  | nil =>
    cases m with
    | nil => exact ⟨List.Forall₂.nil, by simpa using he⟩
    | cons b m =>
      rw [List.flatMap_cons, List.append_assoc] at he
      exact absurd he.symm (head b (hm b (by simp)) _ _)
  | cons a l ih =>
    cases m with
    | nil =>
      rw [List.flatMap_cons, List.append_assoc] at he
      exact absurd he (head a (hl a (by simp)) _ _)
    | cons b m =>
      rw [List.flatMap_cons, List.flatMap_cons, List.append_assoc, List.append_assoc] at he
      obtain ⟨hab, hrest⟩ := h a b _ _ (hl a (by simp)) (hm b (by simp)) he
      obtain ⟨hlm, hrs⟩ := ih (fun c hc => hl c (by simp [hc])) (fun c hc => hm c (by simp [hc])) hrest
      exact ⟨List.Forall₂.cons hab hlm, hrs⟩

end PrefixCode
