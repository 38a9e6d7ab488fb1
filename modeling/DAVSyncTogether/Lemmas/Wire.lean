import DAVSyncTogether.Lib.Segments
import DAVSyncTogether.NetworkProtocol

/-!
# What the decoder finds in an encoded message

Every hexadecimal text is made of digits and upper-case letters, so no separator and no key occurs in it
(`hexEncode_subset`). From this each search of the decoder stops where the encoder wrote (`readField_append`), and the
decoder's answer on an encoded message is known without it (`decodeArmorState_encode`): the message is refused exactly when
the armor or one of the addons names no file.
-/

namespace DAVSyncTogether

open ByteString Hex

/-- What the receiver makes of an identity of the sender: the same file and local ID, and its own runtime ID for them, or 0. -/
def FormIdentity.received (s : Session) (i : FormIdentity) : FormIdentity :=
  { i with runtimeFormID := ((s.lookupForm i.localFormID i.plugin).map Form.formID).getD 0 }

/-- What the decoder answers on an encoded identity: it refuses one that names no file. -/
def FormIdentity.accepted (s : Session) (i : FormIdentity) : Option FormIdentity :=
  if i.isStable then some (i.received s) else none

/-! ## The hexadecimal codec -/

/-- The two digits of a byte denote its two halves. -/
theorem nibbles (ch : UInt8) :
    ((ch >>> 4) &&& 0x0F).toNat < 16 ∧ (ch &&& 0x0F).toNat < 16 ∧
      (((ch >>> 4) &&& 0x0F).toNat <<< 4 ||| (ch &&& 0x0F).toNat).toUInt8 = ch := by
  have key : ∀ n : Fin 256, ((n.val.toUInt8 >>> 4) &&& 0x0F).toNat < 16 ∧ (n.val.toUInt8 &&& 0x0F).toNat < 16 ∧
      (((n.val.toUInt8 >>> 4) &&& 0x0F).toNat <<< 4 ||| (n.val.toUInt8 &&& 0x0F).toNat).toUInt8 = n.val.toUInt8 := by
    decide +kernel
  have := key ⟨ch.toNat, ch.toNat_lt⟩
  simpa using this

theorem hexEncode_cons (ch : UInt8) (input : Bytes) :
    hexEncode (ch :: input) =
      upperHexDigit ((ch >>> 4) &&& 0x0F).toNat :: upperHexDigit (ch &&& 0x0F).toNat :: hexEncode input := by
  simp [hexEncode]

theorem hexEncode_length (input : Bytes) : (hexEncode input).length = 2 * input.length := by
  induction input with
  | nil => rfl
  | cons ch input ih =>
    rw [hexEncode_cons, List.length_cons, List.length_cons, ih, List.length_cons]
    omega

/-- Hexadecimal text is made of upper-case digits only. -/
theorem hexEncode_subset (input : Bytes) : hexEncode input ⊆ ascii "0123456789ABCDEF" := by
  induction input with
  | nil => exact List.nil_subset _
  | cons ch input ih =>
    obtain ⟨hhigh, hlow, -⟩ := nibbles ch
    rw [hexEncode_cons]
    exact List.cons_subset.mpr ⟨upperHexDigit_mem hhigh, List.cons_subset.mpr ⟨upperHexDigit_mem hlow, ih⟩⟩

/-- `HexDecode` undoes `HexEncode`, for any bytes. -/
theorem hexDecode_hexEncode (input : Bytes) : hexDecode (hexEncode input) = some input := by
  have hpairs : hexDecodePairs (hexEncode input) = some input := by
    induction input with
    | nil => rfl
    | cons ch input ih =>
      obtain ⟨hhigh, hlow, hboth⟩ := nibbles ch
      rw [hexEncode_cons, hexDecodePairs, digitValue_upperHexDigit hhigh, digitValue_upperHexDigit hlow, ih]
      simp only [Option.map_some, hboth]
  have heven : (hexEncode input).length % 2 = 0 := by
    rw [hexEncode_length]
    omega
  rw [hexDecode, if_neg (by simp [heven]), hpairs]

/-- `ParseHexFormID` reads back a local ID. -/
theorem parseHexFormID_hexPadded (id : FormID) : parseHexFormID (hexPadded 8 id.toNat) = some id := by
  have hlen := hexPadded_length 8 id.toNat
  have hvalue := hexValue_hexPadded (w := 8) (n := id.toNat) id.toNat_lt
  have hread := stoul_of_digits (fun h => by simp [h] at hlen : hexPadded 8 id.toNat ≠ [])
    (fun c hc => by
      have key : (ascii "0123456789ABCDEF").all (fun c => (digitValue 16 c).isSome) = true := by decide
      exact List.all_eq_true.mp key c (hexPadded_mem 8 _ c hc))
    (by rw [hvalue]; exact id.toNat_lt)
  rw [hvalue, hlen, UInt32.ofNat_toNat] at hread
  have hle : id.toNat ≤ 0xFFFFFFFF := Nat.le_of_lt_succ id.toNat_lt
  have hne : (hexPadded 8 id.toNat).isEmpty = false := by
    cases h : hexPadded 8 id.toNat with
    | nil => simp [h] at hlen
    | cons c s => rfl
  simp [parseHexFormID, hlen, hread, hne, hle]

/-! ## Identities -/

/-- An encoded identity is made of upper-case digits and one colon. -/
theorem encodeIdentity_subset (i : FormIdentity) : encodeIdentity i ⊆ ascii "0123456789ABCDEF:" := by
  have hdigit : ascii "0123456789ABCDEF" ⊆ ascii "0123456789ABCDEF:" := by decide
  unfold encodeIdentity
  refine List.append_subset.mpr ⟨List.append_subset.mpr ⟨?_, by decide⟩, ?_⟩
  · exact List.Subset.trans (hexEncode_subset i.plugin) hdigit
  · exact List.Subset.trans (hexPadded_mem 8 _) hdigit

theorem encodeIdentity_ne_nil (i : FormIdentity) : encodeIdentity i ≠ [] := by
  unfold encodeIdentity
  simp [ascii]

/-- The decoder accepts an encoded identity exactly when it is stable. -/
theorem decodeIdentity_encodeIdentity (s : Session) (i : FormIdentity) :
    decodeIdentity s (encodeIdentity i) = i.accepted s := by
  have hcolon : (58 : UInt8) ∉ hexPadded 8 i.localFormID.toNat := fun h => by
    have := hexPadded_mem 8 _ _ h
    revert this
    decide
  have htoken : encodeIdentity i = hexEncode i.plugin ++ 58 :: hexPadded 8 i.localFormID.toNat := by
    simp [encodeIdentity, ascii]
  rw [decodeIdentity, FormIdentity.accepted, htoken, rfind_separator _ hcolon]
  simp only [List.take_left, drop_separator, hexDecode_hexEncode, parseHexFormID_hexPadded]
  cases hp : i.plugin with
  | nil => simp [FormIdentity.isStable, hp]
  | cons b p =>
    simp only [List.isEmpty_cons, Bool.false_eq_true, if_false, FormIdentity.resolve, FormIdentity.isStable, hp,
      Bool.not_false, Bool.not_true, if_true, FormIdentity.received]
    cases s.lookupForm i.localFormID (b :: p) <;> rfl

/-! ## The list of rendered addons -/

/-- The last token of the list. -/
theorem decodeActive_token (s : Session) {token : Bytes} (decoded : List FormIdentity) (hne : token ≠ []) (hcomma : 44 ∉ token) :
    decodeActive s token decoded = (decodeIdentity s token).map (fun i => decoded ++ [i]) := by
  have hfind : find token (ascii ",") 0 = none := by
    rw [find, if_pos (Nat.zero_le _), List.drop_zero, show ascii "," = [44] from rfl, findIdx_of_notMem [] hcomma]
    rfl
  rw [decodeActive, dif_neg hne]
  simp only [hfind, Option.getD_none, List.take_length, List.isEmpty_iff, if_neg hne]
  cases decodeIdentity s token <;> rfl

/-- A token that a comma follows. -/
theorem decodeActive_cons (s : Session) {token : Bytes} (rest : Bytes) (decoded : List FormIdentity) (hne : token ≠ [])
    (hcomma : 44 ∉ token) :
    decodeActive s (token ++ 44 :: rest) decoded =
      (decodeIdentity s token).bind (fun i => decodeActive s rest (decoded ++ [i])) := by
  have hfind : find (token ++ 44 :: rest) (ascii ",") 0 = some token.length := by
    rw [find, if_pos (Nat.zero_le _), List.drop_zero, show ascii "," = [44] from rfl, findIdx_separator rest hcomma]
    simp
  rw [decodeActive, dif_neg (by simp)]
  simp only [hfind, Option.getD_some, List.take_left, List.isEmpty_iff, if_neg hne]
  cases decodeIdentity s token with
  | none => rfl
  | some i => simp only [Option.map_some, Option.bind_some, drop_separator]

/-- The decoder reads an encoded list addon by addon, in order. -/
theorem decodeActive_encodeActive (s : Session) (addons decoded : List FormIdentity) :
    decodeActive s (encodeActive addons) decoded = (addons.mapM (FormIdentity.accepted s)).map (decoded ++ ·) := by
  have hcomma : ∀ i : FormIdentity, (44 : UInt8) ∉ encodeIdentity i := fun i h => absurd (encodeIdentity_subset i h) (by decide)
  induction addons generalizing decoded with
  | nil =>
    rw [encodeActive, decodeActive]
    simp
  | cons i addons ih =>
    cases addons with
    | nil =>
      have hone : encodeActive [i] = encodeIdentity i := by simp [encodeActive]
      rw [hone, decodeActive_token s decoded (encodeIdentity_ne_nil i) (hcomma i), decodeIdentity_encodeIdentity]
      cases h : i.accepted s <;> simp [h]
    | cons j addons =>
      have hmore : encodeActive (i :: j :: addons) = encodeIdentity i ++ 44 :: encodeActive (j :: addons) := by
        simp [encodeActive, ascii]
      rw [hmore, decodeActive_cons s _ decoded (encodeIdentity_ne_nil i) (hcomma i), decodeIdentity_encodeIdentity,
        List.mapM_cons]
      cases i.accepted s with
      | none => rfl
      | some r =>
        simp only [Option.bind_some, ih]
        cases List.mapM (FormIdentity.accepted s) (j :: addons) <;> simp

/-! ## Fields -/

/-- `ReadField` takes what stands behind the first `key=`, up to the next `|`. -/
theorem readField_eq_segmentAfter (payload key : Bytes) : readField payload key = segmentAfter 124 (key ++ ascii "=") payload := by
  rw [readField, find, if_pos (Nat.zero_le _), List.drop_zero, segmentAfter, textAfter]
  cases hfind : findIdx (key ++ ascii "=") payload with
  | none => rfl
  | some i =>
    have hcut := substr_separator (findIdx_range hfind) 124
    simpa [show ascii "|" = [124] from rfl] using hcut

/-- A field is read whole, when its key does not begin in what stands before it and no `|` occurs in it. -/
theorem readField_append (key x value tail : Bytes)
    (hx : NoOccurrence (key ++ ascii "=") x ((key ++ ascii "=") ++ (value ++ tail))) (hvalue : 124 ∉ value)
    (htail : tail = [] ∨ ∃ t, tail = 124 :: t) :
    readField (x ++ ((key ++ ascii "=") ++ (value ++ tail))) key = some value := by
  rw [readField_eq_segmentAfter, segmentAfter, textAfter_of_occurrence hx, Option.map_some]
  rcases htail with rfl | ⟨t, rfl⟩
  · rw [List.append_nil, takeWhile_of_notMem hvalue]
  · rw [takeWhile_separator hvalue]

/-- The bytes of the encoder outside its keys: no lower-case letter, no `=` and no `|`. -/
def upperText : Bytes := ascii "0123456789ABCDEFGHIJKLMNOPQRSTUVWXYZ:,"

/-- A message by the texts of its four fields. -/
def message (armo state variant active : Bytes) : Bytes :=
  ascii "DAVSTATE|armo=" ++ armo ++ ascii "|state=" ++ state ++ ascii "|variant=" ++ variant ++ ascii "|active=" ++ active

/-- The needle does not begin in a text of the encoder, when its first byte is a lower-case letter. -/
theorem noOccurrence_upperText {c : UInt8} (hc : c ∉ upperText) (needle : Bytes) {x : Bytes} (hx : x ⊆ upperText) (y : Bytes) :
    NoOccurrence (c :: needle) x y :=
  NoOccurrence.of_notMem needle y (fun h => hc (hx h))

theorem readField_armo {armo : Bytes} (state variant active : Bytes) (ha : armo ⊆ upperText) :
    readField (message armo state variant active) (ascii "armo") = some armo := by
  have := readField_append (ascii "armo") (ascii "DAVSTATE|") armo
    (124 :: (ascii "state=" ++ state ++ ascii "|variant=" ++ variant ++ ascii "|active=" ++ active))
    (NoOccurrence.of_clashes (by decide) _) (fun h => absurd (ha h) (by decide)) (Or.inr ⟨_, rfl⟩)
  simpa [message, ascii] using this

theorem readField_state {armo state : Bytes} (variant active : Bytes) (ha : armo ⊆ upperText) (hs : state ⊆ upperText) :
    readField (message armo state variant active) (ascii "state") = some state := by
  have := readField_append (ascii "state") (ascii "DAVSTATE|armo=" ++ (armo ++ ascii "|")) state
    (124 :: (ascii "variant=" ++ variant ++ ascii "|active=" ++ active))
    ((NoOccurrence.of_clashes (by decide) _).append ((noOccurrence_upperText (by decide) _ ha _).append
      (NoOccurrence.of_clashes (by decide) _)))
    (fun h => absurd (hs h) (by decide)) (Or.inr ⟨_, rfl⟩)
  simpa [message, ascii] using this

theorem readField_variant {armo state variant : Bytes} (active : Bytes) (ha : armo ⊆ upperText) (hs : state ⊆ upperText)
    (hv : variant ⊆ upperText) : readField (message armo state variant active) (ascii "variant") = some variant := by
  have := readField_append (ascii "variant")
    (ascii "DAVSTATE|armo=" ++ (armo ++ (ascii "|state=" ++ (state ++ ascii "|")))) variant
    (124 :: (ascii "active=" ++ active))
    ((NoOccurrence.of_clashes (by decide) _).append ((noOccurrence_upperText (by decide) _ ha _).append
      ((NoOccurrence.of_clashes (by decide) _).append ((noOccurrence_upperText (by decide) _ hs _).append
        (NoOccurrence.of_clashes (by decide) _)))))
    (fun h => absurd (hv h) (by decide)) (Or.inr ⟨_, rfl⟩)
  simpa [message, ascii] using this

/-- The key `active=` begins like `armo=`, inside `state=` and inside `variant=`, and clashes with each of them one byte
later. -/
theorem readField_active {armo state variant active : Bytes} (ha : armo ⊆ upperText) (hs : state ⊆ upperText)
    (hv : variant ⊆ upperText) (hl : active ⊆ upperText) :
    readField (message armo state variant active) (ascii "active") = some active := by
  have := readField_append (ascii "active")
    (ascii "DAVSTATE|armo=" ++ (armo ++ (ascii "|state=" ++ (state ++ (ascii "|variant=" ++ (variant ++ ascii "|")))))) active []
    ((NoOccurrence.of_clashes (by decide) _).append ((noOccurrence_upperText (by decide) _ ha _).append
      ((NoOccurrence.of_clashes (by decide) _).append ((noOccurrence_upperText (by decide) _ hs _).append
        ((NoOccurrence.of_clashes (by decide) _).append ((noOccurrence_upperText (by decide) _ hv _).append
          (NoOccurrence.of_clashes (by decide) _)))))))
    (fun h => absurd (hl h) (by decide)) (Or.inl rfl)
  simpa [message, ascii] using this

/-! ## Messages -/

/-- The decoder reads the four texts of a message. -/
theorem decodeArmorState_message (s : Session) {armo state variant active : Bytes} (ha : armo ⊆ upperText)
    (hs : state ⊆ upperText) (hv : variant ⊆ upperText) (hl : active ⊆ upperText) :
    decodeArmorState s (message armo state variant active) =
      match decodeIdentity s armo, parseState state, hexDecode variant with
      | some armor, some state, some variant =>
        (decodeActive s active []).map (fun activeArmorAddons => { armor, state, variant, activeArmorAddons })
      | _, _, _ => none := by
  have hstart : startsWith (message armo state variant active) (ascii "DAVSTATE|") = true := by
    simp [startsWith, message, ascii]
  rw [decodeArmorState, hstart, readField_armo _ _ _ ha, readField_state _ _ ha hs, readField_variant _ ha hs hv,
    readField_active ha hs hv hl]
  rfl

theorem parseState_networkArmorStateName (state : NetworkArmorState) : parseState (networkArmorStateName state) = some state := by
  cases state <;> decide

theorem networkArmorStateName_subset (state : NetworkArmorState) : networkArmorStateName state ⊆ upperText := by
  cases state <;> decide

/-- The bytes of an encoded list are digits, colons and commas. -/
theorem encodeActive_subset (addons : List FormIdentity) : encodeActive addons ⊆ upperText := by
  have hi : ∀ i : FormIdentity, encodeIdentity i ⊆ upperText := fun i => List.Subset.trans (encodeIdentity_subset i) (by decide)
  cases addons with
  | nil => exact List.nil_subset _
  | cons i addons =>
    refine List.append_subset.mpr ⟨hi i, fun c hc => ?_⟩
    obtain ⟨j, -, hc⟩ := List.mem_flatMap.mp hc
    exact List.append_subset.mpr ⟨by decide, hi j⟩ hc

/-- The addons a message lists: none for an armor that was taken off. -/
def listedAddons (armor : WornArmorState) (unequipped : Bool) : List FormIdentity :=
  if unequipped then [] else armor.activeArmorAddons

theorem encodeArmorState_eq_message (armor : WornArmorState) (variant : Bytes) (unequipped : Bool) :
    encodeArmorState armor variant unequipped =
      message (encodeIdentity armor.armor) (networkArmorStateName (encodedState armor unequipped)) (hexEncode variant)
        (encodeActive (listedAddons armor unequipped)) := by
  unfold encodeArmorState message listedAddons
  cases unequipped <;> rfl

/-- The decoder's answer on an encoded message: it refuses it when the armor or a listed addon names no file. -/
theorem decodeArmorState_encode (s : Session) (armor : WornArmorState) (variant : Bytes) (unequipped : Bool) :
    decodeArmorState s (encodeArmorState armor variant unequipped) =
      (armor.armor.accepted s).bind (fun i => ((listedAddons armor unequipped).mapM (FormIdentity.accepted s)).map (fun l =>
        { armor := i, state := encodedState armor unequipped, variant := variant, activeArmorAddons := l })) := by
  have ha : encodeIdentity armor.armor ⊆ upperText := List.Subset.trans (encodeIdentity_subset _) (by decide)
  have hs := networkArmorStateName_subset (encodedState armor unequipped)
  have hv : hexEncode variant ⊆ upperText := List.Subset.trans (hexEncode_subset variant) (by decide)
  have hl := encodeActive_subset (listedAddons armor unequipped)
  rw [encodeArmorState_eq_message, decodeArmorState_message s ha hs hv hl]
  simp only [decodeIdentity_encodeIdentity, parseState_networkArmorStateName, hexDecode_hexEncode, decodeActive_encodeActive]
  cases armor.armor.accepted s with
  | none => rfl
  | some i => simp

/-- A list of identities is accepted whole exactly when every one of them is stable. -/
theorem mapM_accepted (s : Session) (l : List FormIdentity) :
    l.mapM (FormIdentity.accepted s) = if ∀ i ∈ l, i.isStable = true then some (l.map (FormIdentity.received s)) else none := by
  induction l with
  | nil => simp
  | cons i l ih =>
    have hcons : (∀ j ∈ i :: l, j.isStable = true) ↔ i.isStable = true ∧ ∀ j ∈ l, j.isStable = true := List.forall_mem_cons
    rw [List.mapM_cons, ih, FormIdentity.accepted]
    by_cases hi : i.isStable = true
    · by_cases hl : ∀ j ∈ l, j.isStable = true
      · rw [if_pos hi, if_pos hl, if_pos (hcons.mpr ⟨hi, hl⟩)]
        rfl
      · rw [if_pos hi, if_neg hl, if_neg (fun h => hl (hcons.mp h).2)]
        rfl
    · rw [if_neg hi, if_neg (fun h => hi (hcons.mp h).1)]
      rfl

/-- What an encoded message is decoded to, where it is accepted: every identity is stable, and comes with the receiver's runtime
ID. -/
theorem decodeArmorState_encode_eq_some {s : Session} {armor : WornArmorState} {variant : Bytes} {unequipped : Bool}
    {r : RemoteArmorState} (h : decodeArmorState s (encodeArmorState armor variant unequipped) = some r) :
    armor.armor.isStable = true ∧ (∀ i ∈ listedAddons armor unequipped, i.isStable = true) ∧
      r = { armor := armor.armor.received s, state := encodedState armor unequipped, variant := variant
            activeArmorAddons := (listedAddons armor unequipped).map (FormIdentity.received s) } := by
  rw [decodeArmorState_encode, mapM_accepted] at h
  obtain ⟨i, hi, hl⟩ := Option.bind_eq_some_iff.mp h
  obtain ⟨hstable, ⟨⟩⟩ := Option.ite_none_right_eq_some.mp hi
  obtain ⟨l, hlisted, rfl⟩ := Option.map_eq_some_iff.mp hl
  obtain ⟨hall, ⟨⟩⟩ := Option.ite_none_right_eq_some.mp hlisted
  exact ⟨hstable, hall, rfl⟩

end DAVSyncTogether
