import DAVSyncTogether.Lib.ByteString
import Mathlib.Algebra.Group.Nat.Defs
import Mathlib.Data.List.TakeWhile

/-!
# Hexadecimal text, and the reading of integers by the standard library

`hexPadded w n` is the number `n` in upper-case hexadecimal, zero-padded to `w` digits (`"{:0wX}"` of a number that fits); the
value of its digits is `n` again (`hexValue_hexPadded`). `stoul` is `std::stoul` where `unsigned long` has 32 bits: blanks, a
sign and a `0x` are skipped, the longest run of digits is read, and a minus sign wraps the value around.
-/

namespace Hex

open ByteString

/-! ## Digits -/

/-- An upper-case hexadecimal digit: `"0123456789ABCDEF"[n]`. -/
def upperHexDigit (n : Nat) : UInt8 := (ascii "0123456789ABCDEF").getD n 0

/-- The value of a digit in any base up to 36, both cases of letters. -/
def digitValue (base : Nat) (c : UInt8) : Option Nat :=
  let v : Option Nat :=
    if 48 ≤ c ∧ c ≤ 57 then some (c.toNat - 48)
    else if 65 ≤ c ∧ c ≤ 90 then some (c.toNat - 65 + 10)
    else if 97 ≤ c ∧ c ≤ 122 then some (c.toNat - 97 + 10)
    else none
  v.filter (fun d => decide (d < base))

/-- The number a list of digits denotes in a base. -/
def digitsValue (base : Nat) (s : Bytes) : Nat := s.foldl (fun acc c => acc * base + (digitValue base c).getD 0) 0

/-- A number in upper-case hexadecimal, on `w` digits. -/
def hexPadded : Nat → Nat → Bytes
  | 0, _ => []
  | w + 1, n => hexPadded w (n / 16) ++ [upperHexDigit (n % 16)]

/-- The value of a digit is the number it was written for. -/
theorem digitValue_upperHexDigit {n : Nat} (h : n < 16) : digitValue 16 (upperHexDigit n) = some n := by
  have key : ∀ m : Fin 16, digitValue 16 (upperHexDigit m) = some m.val := by decide
  exact key ⟨n, h⟩

/-- The digits written are those of the table. -/
theorem upperHexDigit_mem {n : Nat} (h : n < 16) : upperHexDigit n ∈ ascii "0123456789ABCDEF" := by
  have key : ∀ m : Fin 16, upperHexDigit m ∈ ascii "0123456789ABCDEF" := by decide
  exact key ⟨n, h⟩

theorem hexPadded_length (w n : Nat) : (hexPadded w n).length = w := by
  induction w generalizing n with
  | zero => rfl
  | succ w ih => simp [hexPadded, ih]

/-- Padded hexadecimal is made of upper-case digits only. -/
theorem hexPadded_mem (w n : Nat) : ∀ c ∈ hexPadded w n, c ∈ ascii "0123456789ABCDEF" := by
  induction w generalizing n with
  | zero => simp [hexPadded]
  | succ w ih =>
    intro c hc
    rcases List.mem_append.mp hc with hc | hc
    · exact ih _ c hc
    · rw [List.mem_singleton.mp hc]
      exact upperHexDigit_mem (Nat.mod_lt _ (by decide))

/-- Padded hexadecimal denotes the number it was written for, when it fits. -/
theorem hexValue_hexPadded {w n : Nat} (h : n < 16 ^ w) : digitsValue 16 (hexPadded w n) = n := by
  induction w generalizing n with
  | zero =>
    have : n = 0 := by simpa using h
    simp [hexPadded, digitsValue, this]
  | succ w ih =>
    have hd : n / 16 < 16 ^ w := by
      rw [Nat.pow_succ] at h
      omega
    have hi := ih hd
    unfold digitsValue at hi
    rw [hexPadded, digitsValue, List.foldl_append, hi]
    simp only [List.foldl_cons, List.foldl_nil, digitValue_upperHexDigit (Nat.mod_lt n (by decide : 0 < 16)), Option.getD_some]
    omega

/-- Padded hexadecimal tells the numbers that fit apart. -/
theorem hexPadded_injective {w m n : Nat} (hm : m < 16 ^ w) (hn : n < 16 ^ w) (h : hexPadded w m = hexPadded w n) :
    m = n := by
  rw [← hexValue_hexPadded hm, h, hexValue_hexPadded hn]

/-! ## `std::stoul` -/

/-- `std::isspace` in the C locale. -/
def isSpace (c : UInt8) : Bool := c = 32 || (9 ≤ c && c ≤ 13)

/-- The sign of a number: whether it is negative, and the text behind it. -/
def readSign : Bytes → Bool × Bytes
  | c :: s => if c = 45 then (true, s) else if c = 43 then (false, s) else (false, c :: s)
  | [] => (false, [])

/-- The text behind a `0x` that a hexadecimal digit follows; in another base, or without it, the text itself. -/
def skipHexPrefix (base : Nat) : Bytes → Bytes
  | z :: x :: d :: s =>
    if base = 16 ∧ z = 48 ∧ (x = 120 ∨ x = 88) ∧ (digitValue 16 d).isSome then d :: s else z :: x :: d :: s
  | s => s

/-- `std::stoul(text, &consumed, base)`: the value and the number of bytes consumed; `none` where it throws, because there is
no digit (`std::invalid_argument`) or the number does not fit in 32 bits (`std::out_of_range`). -/
def stoul (text : Bytes) (base : Nat) : Option (UInt32 × Nat) :=
  let (negative, afterSign) := readSign (text.dropWhile isSpace)
  let afterPrefix := skipHexPrefix base afterSign
  let digits := afterPrefix.takeWhile (fun c => (digitValue base c).isSome)
  let value := digitsValue base digits
  if digits.isEmpty || decide (UInt32.size ≤ value) then none
  else
    some (if negative then 0 - UInt32.ofNat value else UInt32.ofNat value,
      text.length - afterPrefix.length + digits.length)

/-- A byte with a hexadecimal value is no blank, no sign and no `x`. -/
theorem digit_not_special {c : UInt8} (h : (digitValue 16 c).isSome) :
    isSpace c = false ∧ c ≠ 45 ∧ c ≠ 43 ∧ c ≠ 120 ∧ c ≠ 88 := by
  refine ⟨?_, ?_, ?_, ?_, ?_⟩
  · by_contra hs
    simp only [isSpace, Bool.not_eq_false, Bool.or_eq_true, decide_eq_true_eq, Bool.and_eq_true] at hs
    simp only [digitValue] at h
    rcases hs with rfl | ⟨h9, h13⟩
    · exact absurd h (by decide)
    · have h1 : ¬48 ≤ c := fun hc => by
        have := UInt8.le_iff_toNat_le.mp (UInt8.le_trans hc h13)
        simp at this
      have h2 : ¬65 ≤ c := fun hc => h1 (UInt8.le_trans (by decide) hc)
      have h3 : ¬97 ≤ c := fun hc => h1 (UInt8.le_trans (by decide) hc)
      simp [h1, h2, h3] at h
  all_goals
    rintro rfl
    exact absurd h (by decide)

/-! ## The numerals of `std::stoul` -/

/-- A numeral in base 16, as `stoul` accepts them: blanks, a sign and a `0x` may stand before the digits. -/
structure Numeral where
  blanks : Bytes
  sign : Bytes
  marker : Bytes
  digits : Bytes
  blank : ∀ c ∈ blanks, isSpace c
  signed : sign ∈ [[], [45], [43]]
  marked : marker ∈ [[], [48, 120], [48, 88]]
  nonempty : digits ≠ []
  hex : ∀ c ∈ digits, (digitValue 16 c).isSome

namespace Numeral

/-- The text of a numeral. -/
def text (n : Numeral) : Bytes := n.blanks ++ (n.sign ++ (n.marker ++ n.digits))

/-- What `stoul` reads a numeral as: a minus sign wraps the number around. -/
def value (n : Numeral) : UInt32 :=
  if n.sign = [45] then 0 - UInt32.ofNat (digitsValue 16 n.digits) else UInt32.ofNat (digitsValue 16 n.digits)

/-- The numeral of a text of digits: nothing stands before them. -/
def ofDigits (digits : Bytes) (hne : digits ≠ []) (hd : ∀ c ∈ digits, (digitValue 16 c).isSome) : Numeral where
  blanks := []
  sign := []
  marker := []
  digits := digits
  blank := by simp
  signed := by simp
  marked := by simp
  nonempty := hne
  hex := hd

end Numeral

/-- The blanks before a text that begins with none are dropped. -/
theorem dropWhile_blanks {x y : Bytes} (hx : ∀ c ∈ x, isSpace c) (hy : ∀ c ∈ y.head?, isSpace c = false) :
    (x ++ y).dropWhile isSpace = y := by
  rw [List.dropWhile_append_of_pos hx]
  cases y with
  | nil => rfl
  | cons c y => rw [List.dropWhile_cons_of_neg (by simp [hy c rfl])]

/-- What stands before the digits is read as it is written. -/
theorem readSign_append {sign s : Bytes} (h : sign ∈ [[], [45], [43]]) (hs : ∀ c ∈ s.head?, c ≠ 45 ∧ c ≠ 43) :
    readSign (sign ++ s) = (decide (sign = [45]), s) := by
  simp only [List.mem_cons, List.not_mem_nil, or_false] at h
  rcases h with rfl | rfl | rfl
  · cases s with
    | nil => rfl
    | cons c s => simp [readSign, (hs c rfl).1, (hs c rfl).2]
  · rfl
  · rfl

theorem skipHexPrefix_append {marker s : Bytes} (h : marker ∈ [[], [48, 120], [48, 88]]) (hne : s ≠ [])
    (hs : ∀ c ∈ s, (digitValue 16 c).isSome) : skipHexPrefix 16 (marker ++ s) = s := by
  obtain ⟨c, s, rfl⟩ := List.exists_cons_of_ne_nil hne
  have hc := hs c (by simp)
  simp only [List.mem_cons, List.not_mem_nil, or_false] at h
  rcases h with rfl | rfl | rfl
  · -- No `x` follows the first digit.
    rcases s with _ | ⟨x, _ | ⟨d, s⟩⟩
    · rfl
    · rfl
    · obtain ⟨-, -, -, hx, hX⟩ := digit_not_special (hs x (by simp))
      simp [skipHexPrefix, hx, hX]
  · simp [skipHexPrefix, hc]
  · simp [skipHexPrefix, hc]

/-- A numeral that fits in 32 bits is read whole. -/
theorem stoul_numeral (n : Numeral) (hv : digitsValue 16 n.digits < UInt32.size) :
    stoul n.text 16 = some (n.value, n.text.length) := by
  obtain ⟨c, s, hcons⟩ := List.exists_cons_of_ne_nil n.nonempty
  obtain ⟨hsp, hminus, hplus, -, -⟩ := digit_not_special (n.hex c (by simp [hcons]))
  have hmarked : ∀ b ∈ (n.marker ++ n.digits).head?, isSpace b = false ∧ b ≠ 45 ∧ b ≠ 43 := by
    have hm := n.marked
    simp only [List.mem_cons, List.not_mem_nil, or_false] at hm
    rcases hm with hm | hm | hm
    · simp [hm, hcons, hsp, hminus, hplus]
    · simp [hm, isSpace]
    · simp [hm, isSpace]
  have hsigned : ∀ b ∈ (n.sign ++ (n.marker ++ n.digits)).head?, isSpace b = false := by
    have hs := n.signed
    simp only [List.mem_cons, List.not_mem_nil, or_false] at hs
    rcases hs with hs | hs | hs
    · intro b hb
      rw [hs, List.nil_append] at hb
      exact (hmarked b hb).1
    · simp [hs, isSpace]
    · simp [hs, isSpace]
  have hdrop : n.text.dropWhile isSpace = n.sign ++ (n.marker ++ n.digits) := dropWhile_blanks n.blank hsigned
  have hsign := readSign_append n.signed (fun b hb => (hmarked b hb).2)
  have hpre := skipHexPrefix_append n.marked n.nonempty n.hex
  have htake : n.digits.takeWhile (fun c => (digitValue 16 c).isSome) = n.digits := List.takeWhile_eq_self_iff.mpr n.hex
  have hlen : n.text.length - n.digits.length + n.digits.length = n.text.length := by
    simp only [Numeral.text, List.length_append]
    omega
  simp only [stoul, hdrop, hsign, hpre, htake, hlen, Numeral.value, decide_eq_true_eq]
  rw [if_neg (by simpa [n.nonempty] using hv)]

/-- A nonempty text of hexadecimal digits that fits in 32 bits is read whole, as the number it denotes. -/
theorem stoul_of_digits {text : Bytes} (hne : text ≠ []) (hd : ∀ c ∈ text, (digitValue 16 c).isSome)
    (hv : digitsValue 16 text < UInt32.size) : stoul text 16 = some (UInt32.ofNat (digitsValue 16 text), text.length) :=
  stoul_numeral (Numeral.ofDigits text hne hd) hv

/-- What `readSign` splits off is a sign. -/
theorem exists_sign (s : Bytes) :
    ∃ sign ∈ [[], [45], [43]], s = sign ++ (readSign s).2 ∧ (readSign s).1 = decide (sign = [45]) := by
  cases s with
  | nil => exact ⟨[], by simp, rfl, rfl⟩
  | cons c s =>
    by_cases hminus : c = 45
    · exact ⟨[45], by simp, by simp [readSign, hminus], by simp [readSign, hminus]⟩
    · by_cases hplus : c = 43
      · exact ⟨[43], by simp, by simp [readSign, hplus], by simp [readSign, hplus]⟩
      · exact ⟨[], by simp, by simp [readSign, hminus, hplus], by simp [readSign, hminus, hplus]⟩

/-- What `skipHexPrefix` splits off is a `0x`. -/
theorem exists_marker (s : Bytes) : ∃ marker ∈ [[], [48, 120], [48, 88]], s = marker ++ skipHexPrefix 16 s := by
  fun_cases skipHexPrefix 16 s with
  | case1 z x d s h =>
    obtain ⟨-, rfl, hx, -⟩ := h
    exact ⟨[48, x], by rcases hx with rfl | rfl <;> simp, rfl⟩
  | case2 => exact ⟨[], by simp, rfl⟩
  | case3 => exact ⟨[], by simp, rfl⟩

/-- A text that is read whole is a numeral. -/
theorem exists_numeral {text : Bytes} {v : UInt32} (h : stoul text 16 = some (v, text.length)) :
    ∃ n : Numeral, n.text = text ∧ n.value = v := by
  obtain ⟨sign, hsign, hafter, hneg⟩ := exists_sign (text.dropWhile isSpace)
  obtain ⟨marker, hmarker, hdigits⟩ := exists_marker (readSign (text.dropWhile isSpace)).2
  generalize hrest : skipHexPrefix 16 (readSign (text.dropWhile isSpace)).2 = rest at hdigits
  simp only [stoul, hrest] at h
  split at h
  · cases h
  · rename_i hcond
    rw [Option.some.injEq, Prod.mk.injEq] at h
    obtain ⟨hv, hlen⟩ := h
    have htext : text = text.takeWhile isSpace ++ (sign ++ (marker ++ rest)) := by
      rw [← hdigits, ← hafter, List.takeWhile_append_dropWhile]
    -- Everything behind the marker is consumed, so it is made of digits.
    have hwhole : rest.takeWhile (fun c => (digitValue 16 c).isSome) = rest := by
      have hle : rest.length ≤ text.length := by
        rw [htext]
        simp only [List.length_append]
        omega
      refine (List.takeWhile_prefix _).eq_of_length_le ?_
      omega
    rw [hwhole] at hv hcond
    rw [hneg] at hv
    have hne : rest ≠ [] := by
      rintro rfl
      simp at hcond
    refine ⟨⟨text.takeWhile isSpace, sign, marker, rest, fun c hc => List.mem_takeWhile_imp hc, hsign, hmarker, hne,
      List.takeWhile_eq_self_iff.mp hwhole⟩, htext.symm, ?_⟩
    simpa only [Numeral.value, decide_eq_true_eq] using hv

/-- A list of digits denotes a number below the power of the base. -/
theorem digitsValue_lt {base : Nat} (hbase : 0 < base) (s : Bytes) : digitsValue base s < base ^ s.length := by
  have hdigit (c : UInt8) : (digitValue base c).getD 0 < base := by
    cases h : digitValue base c with
    | none => exact hbase
    | some d => simpa using (Option.filter_eq_some_iff.mp h).2
  induction s using List.reverseRecOn with
  | nil => simp [digitsValue]
  | append_singleton s c ih =>
    have hc := hdigit c
    rw [digitsValue, List.foldl_append, List.length_append, List.length_singleton, Nat.pow_succ]
    calc s.foldl (fun acc c => acc * base + (digitValue base c).getD 0) 0 * base + (digitValue base c).getD 0
        < digitsValue base s * base + base := Nat.add_lt_add_left hc _
      _ = (digitsValue base s + 1) * base := (Nat.succ_mul _ _).symm
      _ ≤ base ^ s.length * base := Nat.mul_le_mul_right base ih

end Hex
