import Mathlib.Data.Int.ModEq
import Mathlib.Data.List.Basic
import Mathlib.Tactic.Ring

/-!
# What FNV-1a cannot confuse

FNV-1a takes a byte into a 64-bit hash by an exclusive or and a product with an odd prime, `2^40 + 435`. Both can be undone, so
what follows a difference cannot hide it (`foldl_step_left`). And from one hash, two texts of one length of at most four bytes
have different folds (`foldl_step_injective`): the difference of the two hashes is followed as an integer modulo `2^64`, each
product multiplies it by the prime and each exclusive or moves it by less than two bytes, and four rounds are too few for a
difference to vanish.
-/

namespace Fnv

def prime : UInt64 := 1099511628211

/-- One byte is taken into the hash. -/
def step (hash : UInt64) (value : UInt8) : UInt64 := (hash ^^^ value.toUInt64) * prime

theorem mul_prime_injective {x y : UInt64} (h : x * prime = y * prime) : x = y := by
  have hinv : prime * 14886173955864302971 = 1 := by decide
  calc x = x * prime * 14886173955864302971 := by rw [UInt64.mul_assoc, hinv, UInt64.mul_one]
    _ = y * prime * 14886173955864302971 := by rw [h]
    _ = y := by rw [UInt64.mul_assoc, hinv, UInt64.mul_one]

theorem xor_left_injective {x y w : UInt64} (h : x ^^^ w = y ^^^ w) : x = y := by
  have := congrArg (· ^^^ w) h
  simpa only [UInt64.xor_assoc, UInt64.xor_self, UInt64.xor_zero] using this

theorem xor_right_injective {x y w : UInt64} (h : w ^^^ x = w ^^^ y) : x = y := by
  rw [UInt64.xor_comm w x, UInt64.xor_comm w y] at h
  exact xor_left_injective h

theorem step_left_injective {g h : UInt64} {value : UInt8} (he : step g value = step h value) : g = h :=
  xor_left_injective (mul_prime_injective he)

/-- Hashes that are told apart stay so under any text. -/
theorem foldl_step_left {g h : UInt64} {text : List UInt8} (he : text.foldl step g = text.foldl step h) : g = h := by
  induction text generalizing g h with
  | nil => exact he
  | cons value text ih => exact step_left_injective (ih he)

/-! ## The difference of two hashes -/

/-- Two words, a difference apart modulo `2^64`. -/
def Apart (d : Int) (x y : UInt64) : Prop := (x.toNat : Int) ≡ y.toNat + d [ZMOD 2 ^ 64]

/-- A product multiplies the difference. -/
theorem Apart.mul {d : Int} {x y : UInt64} (h : Apart d x y) : Apart (d * prime.toNat) (x * prime) (y * prime) := by
  unfold Apart
  rw [UInt64.toNat_mul, UInt64.toNat_mul]
  push_cast
  calc (x.toNat : Int) * prime.toNat % 2 ^ 64 ≡ x.toNat * prime.toNat [ZMOD 2 ^ 64] := Int.mod_modEq _ _
    _ ≡ (y.toNat + d) * prime.toNat [ZMOD 2 ^ 64] := h.mul_right _
    _ ≡ y.toNat * prime.toNat + d * prime.toNat [ZMOD 2 ^ 64] := by rw [Int.add_mul]
    _ ≡ y.toNat * prime.toNat % 2 ^ 64 + d * prime.toNat [ZMOD 2 ^ 64] := (Int.mod_modEq _ _).symm.add_right _

/-- An exclusive or with a byte leaves what stands above the last byte. -/
theorem xor_byte_div (x : UInt64) (value : UInt8) : (x ^^^ value.toUInt64).toNat / 2 ^ 8 = x.toNat / 2 ^ 8 := by
  rw [UInt64.toNat_xor, UInt8.toNat_toUInt64, Nat.xor_div_two_pow, Nat.div_eq_of_lt value.toNat_lt, Nat.xor_zero]

/-- An exclusive or with two bytes moves the difference by less than two bytes. -/
theorem Apart.xor {d : Int} {x y : UInt64} (h : Apart d x y) (b c : UInt8) :
    ∃ e : Int, -510 ≤ e ∧ e ≤ 510 ∧ Apart (d + e) (x ^^^ b.toUInt64) (y ^^^ c.toUInt64) := by
  have hx := xor_byte_div x b
  have hy := xor_byte_div y c
  refine ⟨((x ^^^ b.toUInt64).toNat : Int) - x.toNat - ((y ^^^ c.toUInt64).toNat - y.toNat), by omega, by omega, ?_⟩
  have := h.add_right (((x ^^^ b.toUInt64).toNat : Int) - x.toNat)
  have hright : (y.toNat : Int) + d + ((x ^^^ b.toUInt64).toNat - x.toNat) = (y ^^^ c.toUInt64).toNat +
      (d + (((x ^^^ b.toUInt64).toNat : Int) - x.toNat - ((y ^^^ c.toUInt64).toNat - y.toNat))) := by ring
  rwa [add_sub_cancel, hright] at this

/-- The first bytes in which two texts differ. -/
theorem apart_first (hash : UInt64) (b c : UInt8) :
    ∃ d : Int, -255 ≤ d ∧ d ≤ 255 ∧ Apart d (hash ^^^ b.toUInt64) (hash ^^^ c.toUInt64) ∧ (d = 0 → b = c) := by
  have hb := xor_byte_div hash b
  have hc := xor_byte_div hash c
  refine ⟨((hash ^^^ b.toUInt64).toNat : Int) - (hash ^^^ c.toUInt64).toNat, by omega, by omega, ?_, fun hd => ?_⟩
  · unfold Apart
    rw [add_sub_cancel]
  · have hword : hash ^^^ b.toUInt64 = hash ^^^ c.toUInt64 := UInt64.toNat_inj.mp (by omega)
    have hbyte := congrArg UInt64.toNat (xor_right_injective hword)
    rw [UInt8.toNat_toUInt64, UInt8.toNat_toUInt64] at hbyte
    exact UInt8.toNat_inj.mp hbyte

/-- Four rounds are too few for a difference of the first bytes to vanish modulo `2^64`. -/
theorem difference_survives {d e₁ e₂ e₃ : Int} (hd : -255 ≤ d ∧ d ≤ 255) (h₁ : -510 ≤ e₁ ∧ e₁ ≤ 510)
    (h₂ : -510 ≤ e₂ ∧ e₂ ≤ 510) (h₃ : -510 ≤ e₃ ∧ e₃ ≤ 510)
    (h : (2 ^ 64 : Int) ∣ ((d * prime.toNat + e₁) * prime.toNat + e₂) * prime.toNat + e₃) : d = 0 := by
  obtain ⟨k, hk⟩ := h
  -- The sum, split at `2^40`: both parts are too small to cancel, so each of them is a multiple of `2^64` by itself.
  obtain ⟨low, hlow⟩ : ∃ low, low = 82312875 * d + 189225 * e₁ + 435 * e₂ + e₃ := ⟨_, rfl⟩
  obtain ⟨high, hhigh⟩ : ∃ high, high = 567675 * d + 870 * e₁ + e₂ := ⟨_, rfl⟩
  have hsplit : high * 2 ^ 40 + low = (k - d * (2 ^ 56 + 1305 * 2 ^ 16) - e₁ * 2 ^ 16) * 2 ^ 64 := by
    rw [show (prime.toNat : Int) = 1099511628211 from rfl] at hk
    rw [hlow, hhigh]
    omega
  generalize k - d * (2 ^ 56 + 1305 * 2 ^ 16) - e₁ * 2 ^ 16 = m at hsplit
  have hlow0 : low = 0 := by omega
  have hhigh0 : high = m * 2 ^ 24 := by omega
  have hbound : -1 ≤ d ∧ d ≤ 1 := by omega
  have hm : m = 0 := by omega
  omega

/-! ## Texts of four bytes -/

/-- A round takes hashes that are a difference apart to hashes that are its product apart, moved by less than two bytes. -/
theorem Apart.round {d : Int} {x y : UInt64} (h : Apart d x y) (b c : UInt8) :
    ∃ e : Int, (-510 ≤ e ∧ e ≤ 510) ∧
      Apart (d * prime.toNat + e) (x * prime ^^^ b.toUInt64) (y * prime ^^^ c.toUInt64) := by
  obtain ⟨e, hlo, hhi, he⟩ := h.mul.xor b c
  exact ⟨e, ⟨hlo, hhi⟩, he⟩

/-- The first bytes of two texts of four bytes with one fold. -/
theorem head_eq_of_foldl {hash : UInt64} {b b₁ b₂ b₃ c c₁ c₂ c₃ : UInt8}
    (h : [b, b₁, b₂, b₃].foldl step hash = [c, c₁, c₂, c₃].foldl step hash) : b = c := by
  obtain ⟨d, hlo, hhi, hd, hzero⟩ := apart_first hash b c
  obtain ⟨e₁, hb₁, h₁⟩ := hd.round b₁ c₁
  obtain ⟨e₂, hb₂, h₂⟩ := h₁.round b₂ c₂
  obtain ⟨e₃, hb₃, h₃⟩ := h₂.round b₃ c₃
  have hsame := mul_prime_injective h
  simp only [step] at hsame
  rw [Apart, hsame] at h₃
  refine hzero (difference_survives ⟨hlo, hhi⟩ hb₁ hb₂ hb₃ ?_)
  simpa using (Int.modEq_iff_dvd.mp h₃)

/-- From one hash, texts of one length of at most four bytes have different folds. -/
theorem foldl_step_injective {hash : UInt64} {x y : List UInt8} (hlen : x.length = y.length) (hfour : x.length ≤ 4)
    (h : x.foldl step hash = y.foldl step hash) : x = y := by
  induction x generalizing y hash with
  | nil => exact (List.length_eq_zero_iff.mp hlen.symm).symm
  | cons b x ih =>
    cases y with
    | nil => simp at hlen
    | cons c y =>
      obtain ⟨pad, hpad⟩ : ∃ pad : List UInt8, pad = List.replicate (3 - x.length) 0 := ⟨_, rfl⟩
      rw [List.length_cons, List.length_cons, Nat.succ_inj] at hlen
      rw [List.length_cons] at hfour
      -- Filled up to four bytes, the texts still have one fold.
      obtain ⟨b₁, b₂, b₃, hx⟩ := List.length_eq_three.mp (show (x ++ pad).length = 3 by simp [hpad]; omega)
      obtain ⟨c₁, c₂, c₃, hy⟩ := List.length_eq_three.mp (show (y ++ pad).length = 3 by simp [hpad]; omega)
      have hfold : (b :: (x ++ pad)).foldl step hash = (c :: (y ++ pad)).foldl step hash := by
        rw [← List.cons_append, ← List.cons_append, List.foldl_append, List.foldl_append, h]
      rw [hx, hy] at hfold
      obtain rfl := head_eq_of_foldl hfold
      rw [ih hlen (by omega) h]

/-- Texts that differ in a window of at most four bytes, and nowhere else, have different folds. -/
theorem foldl_step_window {hash : UInt64} {x y : List UInt8} (pre post : List UInt8) (hlen : x.length = y.length)
    (hfour : x.length ≤ 4) (hne : x ≠ y) : (pre ++ (x ++ post)).foldl step hash ≠ (pre ++ (y ++ post)).foldl step hash := by
  intro h
  rw [List.foldl_append, List.foldl_append, List.foldl_append, List.foldl_append] at h
  exact hne (foldl_step_injective hlen hfour (foldl_step_left h))

end Fnv
