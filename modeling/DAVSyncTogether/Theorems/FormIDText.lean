import DAVSyncTogether.Scene

/-!
# The text of a FormID

The three copies of the parser leave the reading to `stoul` and then check the length and that everything was consumed. So
they accept the numerals of `stoul` of at most 8 bytes (`parseHexFormID_eq_some`), and among these are texts that are not
digits only: a blank, a sign or a `0x` may stand before the digits, and a minus sign turns a number into its negative
modulo 2^32. These texts are all that separates the parser from one of 1 to 8 digits.
-/

namespace DAVSyncTogether

open ByteString Hex

/-- At this text the parser returns a value exactly for 1 to 8 hexadecimal digits, and then the number they denote. -/
def ReadsHexDigits (parse : Bytes → Option FormID) (text : Bytes) : Prop :=
  ∀ v, parse text = some v ↔
    (1 ≤ text.length ∧ text.length ≤ 8) ∧ (∀ c ∈ text, (digitValue 16 c).isSome) ∧ v.toNat = digitsValue 16 text

/-- A numeral of at most 8 bytes in which something stands before the digits. -/
def Decorated (text : Bytes) : Prop := text.length ≤ 8 ∧ ∃ n : Numeral, n.text = text ∧ n.digits ≠ text

/-- The number of a numeral of at most 8 bytes fits in 32 bits. -/
theorem digitsValue_digits_lt {n : Numeral} (h : n.text.length ≤ 8) : digitsValue 16 n.digits < UInt32.size := by
  have hlen : n.digits.length ≤ 8 := by
    simp only [Numeral.text, List.length_append] at h
    omega
  calc digitsValue 16 n.digits < 16 ^ n.digits.length := digitsValue_lt (by decide) _
    _ ≤ 16 ^ 8 := Nat.pow_le_pow_right (by decide) hlen
    _ = UInt32.size := by decide

/-- The parser accepts the numerals of `stoul` of at most 8 bytes, and returns what `stoul` reads. -/
theorem parseHexFormID_eq_some {text : Bytes} {v : FormID} :
    parseHexFormID text = some v ↔ text.length ≤ 8 ∧ ∃ n : Numeral, n.text = text ∧ n.value = v := by
  unfold parseHexFormID
  constructor
  · intro h
    split at h
    · cases h
    · rename_i hguard
      simp only [Bool.or_eq_true, decide_eq_true_eq, not_or] at hguard
      refine ⟨Nat.le_of_not_lt hguard.2, ?_⟩
      cases hread : stoul text 16 with
      | none =>
        rw [hread] at h
        cases h
      | some r =>
        obtain ⟨value, consumed⟩ := r
        rw [hread] at h
        simp only [] at h
        split at h
        · cases h
        · rename_i hcheck
          simp only [ne_eq, decide_not, Bool.or_eq_true, Bool.not_eq_true', decide_eq_false_iff_not, decide_eq_true_eq,
            not_or, not_not] at hcheck
          obtain rfl := Option.some.inj h
          exact exists_numeral (hcheck.1 ▸ hread)
  · rintro ⟨hlen, n, rfl, rfl⟩
    have hne : n.text ≠ [] := by simp [Numeral.text, n.nonempty]
    have hle : n.value.toNat ≤ 0xFFFFFFFF := Nat.le_of_lt_succ n.value.toNat_lt
    rw [if_neg (by simp [hne, hlen]), stoul_numeral n (digitsValue_digits_lt hlen)]
    simp [hle]

/-- In a text of digits nothing stands before the digits. -/
theorem digits_eq_text {n : Numeral} (h : ∀ c ∈ n.text, (digitValue 16 c).isSome) : n.digits = n.text := by
  have hblanks : n.blanks = [] := by
    refine List.eq_nil_iff_forall_not_mem.mpr (fun c hc => ?_)
    have := (digit_not_special (h c (by simp [Numeral.text, hc]))).1
    rw [n.blank c hc] at this
    cases this
  have hsign : n.sign = [] := by
    have hs := n.signed
    simp only [List.mem_cons, List.not_mem_nil, or_false] at hs
    rcases hs with hs | hs | hs
    · exact hs
    · exact absurd rfl (digit_not_special (h 45 (by simp [Numeral.text, hs]))).2.1
    · exact absurd rfl (digit_not_special (h 43 (by simp [Numeral.text, hs]))).2.2.1
  have hmarker : n.marker = [] := by
    have hm := n.marked
    simp only [List.mem_cons, List.not_mem_nil, or_false] at hm
    rcases hm with hm | hm | hm
    · exact hm
    · exact absurd rfl (digit_not_special (h 120 (by simp [Numeral.text, hm]))).2.2.2.1
    · exact absurd rfl (digit_not_special (h 88 (by simp [Numeral.text, hm]))).2.2.2.2
  rw [Numeral.text, hblanks, hsign, hmarker]
  rfl

/-- A numeral whose digits are its whole text has no sign: it is read as the number the digits denote. -/
theorem value_of_digits_eq {n : Numeral} (h : n.digits = n.text) : n.value = UInt32.ofNat (digitsValue 16 n.text) := by
  have hlen := congrArg List.length h
  simp only [Numeral.text, List.length_append] at hlen
  have hsign : n.sign = [] := List.eq_nil_of_length_eq_zero (by omega)
  rw [Numeral.value, hsign, if_neg (by decide), h]

/-- The parser reads hexadecimal digits at every text but the decorated ones. -/
theorem readsHexDigits_iff (text : Bytes) : ReadsHexDigits parseHexFormID text ↔ ¬Decorated text := by
  constructor
  · rintro h ⟨hlen, n, rfl, hne⟩
    have hread := (h n.value).mp (parseHexFormID_eq_some.mpr ⟨hlen, n, rfl, rfl⟩)
    exact hne (digits_eq_text hread.2.1)
  · intro h v
    constructor
    · intro hv
      obtain ⟨hlen, n, rfl, rfl⟩ := parseHexFormID_eq_some.mp hv
      have hd : n.digits = n.text := by
        by_contra hne
        exact h ⟨hlen, n, rfl, hne⟩
      have hfit : digitsValue 16 n.text < UInt32.size := hd ▸ digitsValue_digits_lt hlen
      refine ⟨⟨?_, hlen⟩, hd ▸ n.hex, ?_⟩
      · rw [← hd]
        exact List.length_pos_iff.mpr n.nonempty
      · rw [value_of_digits_eq hd, UInt32.toNat_ofNat_of_lt' hfit]
    · rintro ⟨⟨hpos, hlen⟩, hhex, hvalue⟩
      refine parseHexFormID_eq_some.mpr ⟨hlen, Numeral.ofDigits text (List.length_pos_iff.mp hpos) hhex, rfl, ?_⟩
      rw [value_of_digits_eq rfl]
      change UInt32.ofNat (digitsValue 16 text) = v
      rw [← hvalue, UInt32.ofNat_toNat]

/-- Each of the three copies, at every text: it returns a value exactly for 1 to 8 hexadecimal digits, and then the number they
denote, if and only if the text is no numeral with a blank, a sign or a `0x` before its digits. -/
theorem formID_text_digits_iff (text : Bytes) :
    (ReadsHexDigits parseHexFormID text ↔ ¬Decorated text) ∧
    (ReadsHexDigits DAVProbe.parseFormID text ↔ ¬Decorated text) ∧
    (ReadsHexDigits DAVRemoteApplier.parseFormID text ↔ ¬Decorated text) :=
  ⟨readsHexDigits_iff text, readsHexDigits_iff text, readsHexDigits_iff text⟩

/-- `-1` is read as `FFFFFFFF`. -/
theorem formID_text_minus_one :
    ¬ReadsHexDigits parseHexFormID (ascii "-1") ∧ ¬ReadsHexDigits DAVProbe.parseFormID (ascii "-1") ∧
      ¬ReadsHexDigits DAVRemoteApplier.parseFormID (ascii "-1") := by
  have hread : parseHexFormID (ascii "-1") = some 0xFFFFFFFF := by decide
  have hminus : ¬ReadsHexDigits parseHexFormID (ascii "-1") := by
    intro h
    have hdigit := ((h _).mp hread).2.1 45 (by decide)
    revert hdigit
    decide
  exact ⟨hminus, hminus, hminus⟩

end DAVSyncTogether
