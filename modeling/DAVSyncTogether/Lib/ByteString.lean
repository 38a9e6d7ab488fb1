import Mathlib.Data.List.Infix
import Mathlib.Order.Defs.LinearOrder

/-!
# Byte strings

A string of the standard library is a list of bytes, and bytes and 32-bit words are ordered by value. The searches return the
position they return in C++, and `none` stands for `npos`. `NoOccurrence needle x y` says that no occurrence of `needle` in
`x ++ y` begins inside `x`: it is what lets a search skip the pieces of a text one after the other (`findIdx_append`). A
piece lacks the first byte of the needle, or clashes with it, which is decidable.
-/

/-- A byte string. -/
abbrev Bytes : Type := List UInt8

instance uint8LinearOrder : LinearOrder UInt8 where
  le_refl := UInt8.le_refl
  le_trans _ _ _ := UInt8.le_trans
  le_antisymm _ _ := UInt8.le_antisymm
  le_total := UInt8.le_total
  lt_iff_le_not_ge a b := by
    rw [UInt8.lt_iff_toNat_lt, UInt8.le_iff_toNat_le, UInt8.le_iff_toNat_le]
    omega
  toDecidableLE := inferInstance

instance uint32LinearOrder : LinearOrder UInt32 where
  le_refl := UInt32.le_refl
  le_trans _ _ _ := UInt32.le_trans
  le_antisymm _ _ := UInt32.le_antisymm
  le_total := UInt32.le_total
  lt_iff_le_not_ge a b := by
    rw [UInt32.lt_iff_toNat_lt, UInt32.le_iff_toNat_le, UInt32.le_iff_toNat_le]
    omega
  toDecidableLE := inferInstance

namespace ByteString

/-- The bytes of an ASCII literal. -/
def ascii (s : String) : Bytes := s.toList.map (fun c => c.toNat.toUInt8)

/-- The position of the first occurrence of a needle. -/
def findIdx (needle : Bytes) : Bytes → Option Nat
  | [] => if needle.isEmpty then some 0 else none
  | b :: s => if needle.isPrefixOf (b :: s) then some 0 else (findIdx needle s).map (· + 1)

/-- `s.find(needle, pos)`: the position of the first occurrence at `pos` or later. -/
def find (s needle : Bytes) (pos : Nat) : Option Nat :=
  if pos ≤ s.length then (findIdx needle (s.drop pos)).map (pos + ·) else none

/-- `s.rfind(c)`: the position of the last byte `c`. -/
def rfind (c : UInt8) : Bytes → Option Nat
  | [] => none
  | b :: s =>
    match rfind c s with
    | some i => some (i + 1)
    | none => if b = c then some 0 else none

/-- `s.substr(pos, n)`, for a position inside the text. -/
def substr (s : Bytes) (pos n : Nat) : Bytes := (s.drop pos).take n

/-- `s.starts_with(head)`. -/
def startsWith (s head : Bytes) : Bool := head.isPrefixOf s

/-! ## Skipping a piece of the text -/

/-- No occurrence of the needle in `x ++ y` begins inside `x`. -/
def NoOccurrence (needle : Bytes) : Bytes → Bytes → Prop
  | [], _ => True
  | b :: x, y => ¬needle <+: (b :: x) ++ y ∧ NoOccurrence needle x y

/-- A needle does not begin inside a piece that lacks its first byte. -/
theorem NoOccurrence.of_notMem {c : UInt8} (needle : Bytes) {x : Bytes} (y : Bytes) (h : c ∉ x) :
    NoOccurrence (c :: needle) x y := by
  induction x with
  | nil => trivial
  | cons b x ih =>
    rw [List.mem_cons, not_or] at h
    refine ⟨fun hp => h.1 ?_, ih h.2⟩
    rw [List.cons_append, List.cons_prefix_cons] at hp
    exact hp.1

/-- The needle and every suffix of the piece differ in a byte they both have. -/
def clashes (needle : Bytes) : Bytes → Bool
  | [] => true
  | b :: x => !needle.isPrefixOf (b :: x) && !(b :: x).isPrefixOf needle && clashes needle x

/-- A needle does not begin inside a piece that it clashes with, whatever follows the piece. -/
theorem NoOccurrence.of_clashes {needle x : Bytes} (h : clashes needle x = true) (y : Bytes) : NoOccurrence needle x y := by
  induction x with
  | nil => trivial
  | cons b x ih =>
    simp only [clashes, Bool.and_eq_true, Bool.not_eq_true', Bool.eq_false_iff, Ne, List.isPrefixOf_iff_prefix] at h
    obtain ⟨⟨h1, h2⟩, h3⟩ := h
    refine ⟨fun hp => ?_, ih h3⟩
    rcases List.prefix_or_prefix_of_prefix hp (List.prefix_append (b :: x) y) with hq | hq
    · exact h1 hq
    · exact h2 hq

/-- Pieces are skipped one after the other. -/
theorem NoOccurrence.append {needle x y z : Bytes} (h : NoOccurrence needle x (y ++ z))
    (h' : NoOccurrence needle y z) : NoOccurrence needle (x ++ y) z := by
  induction x with
  | nil => exact h'
  | cons b x ih =>
    refine ⟨?_, ih h.2⟩
    have := h.1
    rwa [← List.append_assoc] at this

/-- A search goes on behind a piece in which no occurrence begins. -/
theorem findIdx_append {needle x y : Bytes} (h : NoOccurrence needle x y) :
    findIdx needle (x ++ y) = (findIdx needle y).map (x.length + ·) := by
  induction x with
  | nil => simp
  | cons b x ih =>
    have hp : needle.isPrefixOf (b :: (x ++ y)) = false := by
      rw [Bool.eq_false_iff, Ne, List.isPrefixOf_iff_prefix]
      exact h.1
    rw [List.cons_append, findIdx, hp, ih h.2]
    cases findIdx needle y <;> simp [Nat.add_right_comm]

/-- A needle that is found fits behind the position where it is found. -/
theorem findIdx_range {needle s : Bytes} {i : Nat} (h : findIdx needle s = some i) : i + needle.length ≤ s.length := by
  induction s generalizing i with
  | nil =>
    rw [findIdx] at h
    split at h
    · rename_i hempty
      cases h
      simp [List.isEmpty_iff.mp hempty]
    · cases h
  | cons b s ih =>
    rw [findIdx] at h
    split at h
    · rename_i hp
      cases h
      simpa using (List.isPrefixOf_iff_prefix.mp hp).length_le
    · obtain ⟨j, hj, rfl⟩ := Option.map_eq_some_iff.mp h
      have := ih hj
      rw [List.length_cons]
      omega

/-- A search stops at once at a text that begins with the needle. -/
theorem findIdx_of_begins {needle s : Bytes} (h : needle <+: s) : findIdx needle s = some 0 := by
  cases s with
  | nil => simp [findIdx, List.prefix_nil.mp h]
  | cons b s => rw [findIdx, if_pos (List.isPrefixOf_iff_prefix.mpr h)]

/-- A needle whose first byte does not occur is not found. -/
theorem findIdx_of_notMem {c : UInt8} (needle : Bytes) {s : Bytes} (h : c ∉ s) : findIdx (c :: needle) s = none := by
  have := findIdx_append (NoOccurrence.of_notMem needle [] h)
  simpa [findIdx] using this

/-- The first separator of a text is found behind the part that lacks it. -/
theorem findIdx_separator {c : UInt8} {x : Bytes} (y : Bytes) (h : c ∉ x) :
    findIdx [c] (x ++ c :: y) = some x.length := by
  rw [findIdx_append (NoOccurrence.of_notMem [] _ h), findIdx_of_begins (by simp)]
  simp

/-- The first occurrence of a byte stands behind a part of the text that lacks it. -/
theorem findIdx_byte_eq_some {c : UInt8} {s : Bytes} {i : Nat} :
    findIdx [c] s = some i ↔ ∃ x y, s = x ++ c :: y ∧ c ∉ x ∧ i = x.length := by
  constructor
  · intro h
    by_cases hc : c ∈ s
    · obtain ⟨x, y, rfl, hx⟩ := List.eq_append_cons_of_mem hc
      rw [findIdx_separator y hx, Option.some.injEq] at h
      exact ⟨x, y, rfl, hx, h.symm⟩
    · rw [findIdx_of_notMem [] hc] at h
      cases h
  · rintro ⟨x, y, rfl, hx, rfl⟩
    exact findIdx_separator y hx

/-- What stands behind a separator. -/
theorem drop_separator (c : UInt8) (x y : Bytes) : (x ++ c :: y).drop (x.length + 1) = y := by
  rw [← List.drop_drop, List.drop_left, List.drop_one, List.tail_cons]

/-- A search from a position inside the text is a search of the rest. -/
theorem find_append (x y needle : Bytes) : find (x ++ y) needle x.length = (findIdx needle y).map (x.length + ·) := by
  simp [find]

/-- A search for a byte, from the end of the first part of a text. -/
theorem find_byte_eq_some {c : UInt8} {p s : Bytes} {i : Nat} :
    find (p ++ s) [c] p.length = some i ↔ ∃ x y, s = x ++ c :: y ∧ c ∉ x ∧ i = p.length + x.length := by
  rw [find_append, Option.map_eq_some_iff]
  constructor
  · rintro ⟨j, hj, rfl⟩
    obtain ⟨x, y, hs, hx, rfl⟩ := findIdx_byte_eq_some.mp hj
    exact ⟨x, y, hs, hx, rfl⟩
  · rintro ⟨x, y, hs, hx, rfl⟩
    exact ⟨x.length, findIdx_byte_eq_some.mpr ⟨x, y, hs, hx, rfl⟩, rfl⟩

/-- A search finds nothing outside the text: the needle fits between the position found and the end. -/
theorem find_range {s needle : Bytes} {pos i : Nat} (h : find s needle pos = some i) : pos ≤ i ∧ i + needle.length ≤ s.length := by
  unfold find at h
  split at h
  · rename_i hpos
    obtain ⟨j, hj, rfl⟩ := Option.map_eq_some_iff.mp h
    have hfit := findIdx_range hj
    rw [List.length_drop] at hfit
    omega
  · cases h

/-- What stands between two positions of a text. -/
theorem substr_append (p x y : Bytes) : substr (p ++ (x ++ y)) p.length x.length = x := by
  rw [substr, List.drop_left, List.take_left]

/-- The last separator of a text stands before the part that lacks it. -/
theorem rfind_separator {c : UInt8} (x : Bytes) {y : Bytes} (h : c ∉ y) : rfind c (x ++ c :: y) = some x.length := by
  have hy : rfind c y = none := by
    induction y with
    | nil => rfl
    | cons b y ih =>
      rw [List.mem_cons, not_or] at h
      rw [rfind, ih h.2]
      simp [Ne.symm h.1]
  induction x with
  | nil => simp [rfind, hy]
  | cons b x ih => simp [rfind, ih]

end ByteString
