import DAVSyncTogether.StateSnapshot
import DAVSyncTogether.Lib.PrefixCode

/-!
# The bytes the hash of a snapshot is fed

`stateBytes` is the sequence of bytes that `StateHash` folds FNV-1a over (`stateHash_eq`). A text is closed by `0xFF` and the
addons of an armor by `0xFE`; raw IDs may contain both bytes, but have a fixed width. So the sequence can be read back
(`stateBytes_injective`): it determines whether DAV is loaded, and every armor up to the part of it that is hashed.
-/

namespace DAVSyncTogether

open ByteString PrefixCode

/-! ## What is hashed -/

/-- What the hash is fed of an identity: file and local ID, or the text `runtime` and the runtime ID. -/
def FormIdentity.hashed (i : FormIdentity) : Bytes × UInt32 :=
  if i.isStable then (i.plugin, i.localFormID) else (ascii "runtime", i.runtimeFormID)

/-- The hashed part of a worn armor. -/
structure HashedArmor where
  armor : Bytes × UInt32
  visualState : ArmorVisualState
  activeArmorAddons : List (Bytes × UInt32)
  deriving DecidableEq

def WornArmorState.hashed (a : WornArmorState) : HashedArmor where
  armor := a.armor.hashed
  visualState := a.visualState
  activeArmorAddons := a.activeArmorAddons.map FormIdentity.hashed

/-- Four bytes, the least significant first. -/
def u32Bytes (value : UInt32) : Bytes := ([0, 8, 16, 24] : List UInt32).map (fun shift => ((value >>> shift) &&& 0xFF).toUInt8)

def identityBytes (i : Bytes × UInt32) : Bytes := i.1 ++ 0xFF :: u32Bytes i.2

def HashedArmor.bytes (a : HashedArmor) : Bytes :=
  identityBytes a.armor ++ a.visualState.toUInt8 :: (a.activeArmorAddons.flatMap identityBytes ++ [0xFE])

/-- The bytes `StateHash` is fed. -/
def DAVStateSnapshot.stateBytes (s : DAVStateSnapshot) : Bytes :=
  (if s.davLoaded then 1 else 0) :: (s.wornArmors.map WornArmorState.hashed).flatMap HashedArmor.bytes

theorem feedIdentity_eq (hash : UInt64) (i : FormIdentity) :
    feedIdentity hash i = (identityBytes i.hashed).foldl feedByte hash := by
  unfold feedIdentity FormIdentity.hashed
  cases i.isStable <;> simp [feedU32, feedText, identityBytes, u32Bytes]

/-- The hash of a snapshot is FNV-1a over its bytes. -/
theorem DAVStateSnapshot.stateHash_eq (s : DAVStateSnapshot) : s.stateHash = s.stateBytes.foldl feedByte kFnvOffset := by
  have haddons : ∀ (l : List FormIdentity) (hash : UInt64),
      l.foldl feedIdentity hash = ((l.map FormIdentity.hashed).flatMap identityBytes).foldl feedByte hash := by
    intro l
    induction l with
    | nil => intro hash; rfl
    | cons i l ih =>
      intro hash
      rw [List.foldl_cons, ih, feedIdentity_eq, List.map_cons, List.flatMap_cons, List.foldl_append]
  have harmors : ∀ (l : List WornArmorState) (hash : UInt64),
      l.foldl (fun hash armorState =>
        feedByte (armorState.activeArmorAddons.foldl feedIdentity
          (feedByte (feedIdentity hash armorState.armor) armorState.visualState.toUInt8)) 0xFE) hash =
      ((l.map WornArmorState.hashed).flatMap HashedArmor.bytes).foldl feedByte hash := by
    intro l
    induction l with
    | nil => intro hash; rfl
    | cons a l ih =>
      intro hash
      rw [List.foldl_cons, ih, haddons, feedIdentity_eq, List.map_cons, List.flatMap_cons, List.foldl_append]
      simp only [HashedArmor.bytes, WornArmorState.hashed, List.foldl_append, List.foldl_cons, List.foldl_nil]
  unfold DAVStateSnapshot.stateHash DAVStateSnapshot.stateBytes
  rw [List.foldl_cons, ← harmors]

/-! ## Reading the bytes back -/

/-- A text the stream can carry: not empty, and free of the two separators. -/
def PlainText (text : Bytes) : Prop := text ≠ [] ∧ 0xFE ∉ text ∧ 0xFF ∉ text

/-- A byte of a word, as a number. -/
theorem toNat_wordByte (value shift : UInt32) (h : shift.toNat < 32) :
    ((value >>> shift) &&& 0xFF).toUInt8.toNat = value.toNat / 2 ^ shift.toNat % 256 := by
  rw [UInt32.toNat_toUInt8, UInt32.toNat_and, UInt32.toNat_shiftRight, Nat.mod_eq_of_lt h, Nat.shiftRight_eq_div_pow,
    show (0xFF : UInt32).toNat = 2 ^ 8 - 1 from rfl, Nat.and_two_pow_sub_one_eq_mod]
  simp

/-- The four bytes determine the word. -/
theorem u32Bytes_injective {v w : UInt32} (h : u32Bytes v = u32Bytes w) : v = w := by
  simp only [u32Bytes, List.map_cons, List.map_nil, List.cons.injEq, and_true] at h
  obtain ⟨h0, h1, h2, h3⟩ := h
  have hbyte : ∀ shift : UInt32, shift.toNat < 32 →
      ((v >>> shift) &&& 0xFF).toUInt8 = ((w >>> shift) &&& 0xFF).toUInt8 →
      v.toNat / 2 ^ shift.toNat % 256 = w.toNat / 2 ^ shift.toNat % 256 := by
    intro shift hs he
    rw [← toNat_wordByte v shift hs, he, toNat_wordByte w shift hs]
  have b0 := hbyte 0 (by decide) h0
  have b1 := hbyte 8 (by decide) h1
  have b2 := hbyte 16 (by decide) h2
  have b3 := hbyte 24 (by decide) h3
  have hv := v.toNat_lt
  have hw := w.toNat_lt
  apply UInt32.toNat_inj.mp
  simp only [UInt32.reduceToNat, Nat.reducePow, Nat.div_one] at b0 b1 b2 b3
  omega

/-- An identity can be read back from the front of the stream. -/
theorem identityBytes_readable : Readable (fun i : Bytes × UInt32 => PlainText i.1) identityBytes Eq := by
  rintro ⟨p, l⟩ ⟨q, m⟩ r s ⟨-, -, hp⟩ ⟨-, -, hq⟩ h
  simp only [identityBytes, List.append_assoc, List.cons_append] at h
  obtain ⟨rfl, hrest⟩ := delimited hp hq h
  obtain ⟨hid, hrs⟩ := fixedWidth (by simp [u32Bytes]) hrest
  exact ⟨by rw [u32Bytes_injective hid], hrs⟩

/-- An identity does not begin with the byte that ends a list of addons. -/
theorem identityBytes_ne_terminator {i : Bytes × UInt32} (h : PlainText i.1) (r : Bytes) : identityBytes i ≠ 0xFE :: r := by
  obtain ⟨p, l⟩ := i
  obtain ⟨hne, hfe, -⟩ := h
  cases p with
  | nil => exact absurd rfl hne
  | cons b p =>
    intro he
    simp only [identityBytes, List.cons_append, List.cons.injEq] at he
    exact hfe (by simp [he.1])

/-- The texts of a hashed armor can be carried by the stream. -/
def HashedArmor.Plain (a : HashedArmor) : Prop := PlainText a.armor.1 ∧ ∀ i ∈ a.activeArmorAddons, PlainText i.1

theorem toUInt8_injective {v w : ArmorVisualState} (h : v.toUInt8 = w.toUInt8) : v = w := by
  cases v <;> cases w <;> first | rfl | exact absurd h (by decide)

/-- An armor can be read back from the front of the stream. -/
theorem hashedArmor_readable : Readable HashedArmor.Plain HashedArmor.bytes Eq := by
  rintro ⟨i, v, l⟩ ⟨j, w, m⟩ r s ⟨hi, hl⟩ ⟨hj, hm⟩ h
  simp only [HashedArmor.bytes, List.append_assoc, List.cons_append, List.nil_append] at h
  obtain ⟨rfl, hrest⟩ := identityBytes_readable i j _ _ hi hj h
  rw [List.cons.injEq] at hrest
  obtain rfl := toUInt8_injective hrest.1
  obtain ⟨hlm, hrs⟩ := terminated identityBytes_readable (fun a _ => by simp [identityBytes])
    (fun a ha r => identityBytes_ne_terminator ha r) hl hm hrest.2
  rw [List.forall₂_eq_eq_eq] at hlm
  obtain rfl : l = m := hlm
  exact ⟨rfl, hrs⟩

/-- The bytes of a snapshot determine whether DAV is loaded, and the hashed part of every armor, in order. -/
theorem stateBytes_injective {s t : DAVStateSnapshot} (hs : ∀ a ∈ s.wornArmors, a.hashed.Plain)
    (ht : ∀ a ∈ t.wornArmors, a.hashed.Plain) (h : s.stateBytes = t.stateBytes) :
    s.davLoaded = t.davLoaded ∧ s.wornArmors.map WornArmorState.hashed = t.wornArmors.map WornArmorState.hashed := by
  unfold DAVStateSnapshot.stateBytes at h
  rw [List.cons.injEq] at h
  refine ⟨?_, ?_⟩
  · have := h.1
    revert this
    cases s.davLoaded <;> cases t.davLoaded <;> simp
  · have hlist := list_eq hashedArmor_readable (fun a => by simp [HashedArmor.bytes]) (List.forall_mem_map.mpr hs)
      (List.forall_mem_map.mpr ht) h.2
    rwa [List.forall₂_eq_eq_eq] at hlist

/-! ## Equivalence is equality of what is hashed -/

/-- Two identities are hashed alike when both name the same file and local ID, or both are known by one runtime ID only. -/
theorem hashed_cases {i j : FormIdentity} (hi : i.plugin ≠ ascii "runtime") (hj : j.plugin ≠ ascii "runtime")
    (h : i.hashed = j.hashed) :
    (i.isStable = true ∧ j.isStable = true ∧ i.plugin = j.plugin ∧ i.localFormID = j.localFormID) ∨
      (i.isStable = false ∧ j.isStable = false ∧ i.runtimeFormID = j.runtimeFormID) := by
  unfold FormIdentity.hashed at h
  cases his : i.isStable <;> cases hjs : j.isStable <;> rw [his, hjs] at h <;>
    simp only [if_true, Bool.false_eq_true, if_false, Prod.mk.injEq] at h
  · exact Or.inr ⟨rfl, rfl, h.2⟩
  · exact absurd h.1.symm hj
  · exact absurd h.1 hi
  · exact Or.inl ⟨rfl, rfl, h⟩

/-- Identities hashed alike have one key. -/
theorem stableKey_of_hashed {i j : FormIdentity} (hi : i.plugin ≠ ascii "runtime") (hj : j.plugin ≠ ascii "runtime")
    (h : i.hashed = j.hashed) : i.stableKey = j.stableKey := by
  unfold FormIdentity.stableKey
  rcases hashed_cases hi hj h with ⟨his, hjs, hp, hl⟩ | ⟨his, hjs, hr⟩
  · simp [his, hjs, hp, hl]
  · simp [his, hjs, hr]

/-- Where a runtime ID has one identity, identities are equivalent when they are hashed alike. -/
theorem stableEquivalent_iff_hashed {i j : FormIdentity} (hi : i.plugin ≠ ascii "runtime") (hj : j.plugin ≠ ascii "runtime")
    (hij : i.runtimeFormID = j.runtimeFormID → i = j) : i.stableEquivalent j = true ↔ i.hashed = j.hashed := by
  constructor
  · intro h
    cases hs : i.isStable && j.isStable with
    | true =>
      rw [Bool.and_eq_true] at hs
      obtain ⟨hp, hl⟩ := (FormIdentity.stableEquivalent_of_stable hs.1 hs.2).mp h
      simp [FormIdentity.hashed, hs.1, hs.2, hp, hl]
    | false =>
      unfold FormIdentity.stableEquivalent at h
      rw [hs] at h
      rw [hij (by simpa using h)]
  · intro h
    unfold FormIdentity.stableEquivalent
    rcases hashed_cases hi hj h with ⟨his, hjs, hp, hl⟩ | ⟨his, hjs, hr⟩
    · simp [his, hjs, hp, hl]
    · simp [his, hr]

end DAVSyncTogether
