import DAVSyncTogether.Lemmas.Wire

/-!
# Reading a field

`ReadField` looks for `key=` in the whole payload, so it also finds it inside another segment: in `xstate=HIDDEN` it finds a
`state=`. It agrees with a reading of the payload by segments exactly where the first `key=` begins its segment, or makes no
difference; and a segment may be added to every payload without effect exactly when none of the four `key=` occurs in it.
-/

namespace DAVSyncTogether

open ByteString

/-- The keys of a message. -/
def messageKeys : List Bytes := [ascii "armo", ascii "state", ascii "variant", ascii "active"]

/-- The segments of a payload: `|` keeps them apart. -/
def segments (payload : Bytes) : List Bytes := payload.splitOn 124

def joinSegments (parts : List Bytes) : Bytes := [124].intercalate parts

/-- The value of a key by segments: the text behind `key=` in the first segment that begins with it. -/
def fieldValue (payload key : Bytes) : Option Bytes := segmentBehind (key ++ ascii "=") (segments payload)

/-- A payload with a segment added behind its first `n + 1` segments. -/
def insertSegment (segment payload : Bytes) (n : Nat) : Bytes :=
  joinSegments ((segments payload).take (n + 1) ++ segment :: (segments payload).drop (n + 1))

/-! ## One field -/

/-- No separator occurs in the text that is searched for. -/
theorem needle_noSeparator {key : Bytes} (h : key ∈ messageKeys) : 124 ∉ key ++ ascii "=" := by
  revert key
  decide

theorem needle_ne_nil (key : Bytes) : key ++ ascii "=" ≠ [] := by simp [ascii]

/-- A field is read at its boundary exactly where the first `key=` begins its segment, or makes no difference. -/
theorem readField_eq_fieldValue_iff (payload : Bytes) {key : Bytes} (h : key ∈ messageKeys) :
    readField payload key = fieldValue payload key ↔ FirstAtBoundary (key ++ ascii "=") (segments payload) := by
  rw [readField_eq_segmentAfter, segmentAfter_eq_findSome (needle_noSeparator h) (needle_ne_nil key)]
  exact findSome_textAfter_iff _ _

/-- A field is missing exactly when its `key=` does not occur at all. -/
theorem readField_eq_none (payload key : Bytes) : readField payload key = none ↔ ¬(key ++ ascii "=") <:+: payload := by
  rw [readField_eq_segmentAfter, segmentAfter, Option.map_eq_none_iff, textAfter_eq_none]

/-- A field is read from the first part of a payload in which its `key=` occurs. -/
theorem readField_joinSegments {parts : List Bytes} {key : Bytes} (h : key ∈ messageKeys) (hne : parts ≠ []) :
    readField (joinSegments parts) key = parts.findSome? (fun part => readField part key) := by
  have hread : (fun part => readField part key) = segmentAfter 124 (key ++ ascii "=") :=
    funext fun part => readField_eq_segmentAfter part key
  rw [hread, readField_eq_segmentAfter]
  exact segmentAfter_intercalate (needle_noSeparator h) (needle_ne_nil key) hne

theorem readField_insertSegment (segment payload : Bytes) (n : Nat) {key : Bytes} (h : key ∈ messageKeys) :
    readField (insertSegment segment payload n) key =
      (((segments payload).take (n + 1)).findSome? (fun part => readField part key)).or
        ((readField segment key).or (((segments payload).drop (n + 1)).findSome? (fun part => readField part key))) := by
  rw [insertSegment, readField_joinSegments h (by simp), List.findSome?_append, List.findSome?_cons]
  cases readField segment key <;> rfl

/-- A segment without `key=` does not change the field. -/
theorem readField_insertSegment_of_none {segment : Bytes} (payload : Bytes) (n : Nat) {key : Bytes} (h : key ∈ messageKeys)
    (hnone : readField segment key = none) : readField (insertSegment segment payload n) key = readField payload key := by
  have hpayload := readField_joinSegments h (List.splitOn_ne_nil 124 payload)
  rw [joinSegments, List.intercalate_splitOn] at hpayload
  rw [readField_insertSegment segment payload n h, hnone, Option.none_or, ← List.findSome?_append, List.take_append_drop]
  exact hpayload.symm

/-! ## The decoder -/

/-- The decoder depends on the head of the payload and on its four fields. -/
theorem decodeArmorState_congr {s : Session} {p q : Bytes} (hstart : startsWith p (ascii "DAVSTATE|") = startsWith q (ascii "DAVSTATE|"))
    (hread : ∀ key ∈ messageKeys, readField p key = readField q key) : decodeArmorState s p = decodeArmorState s q := by
  unfold decodeArmorState
  rw [hstart, hread (ascii "armo") (by decide), hread (ascii "state") (by decide), hread (ascii "variant") (by decide),
    hread (ascii "active") (by decide)]

/-- The first segment stays the first. -/
theorem startsWith_insertSegment (segment : Bytes) {payload : Bytes} (n : Nat)
    (h : startsWith payload (ascii "DAVSTATE|") = true) :
    startsWith (insertSegment segment payload n) (ascii "DAVSTATE|") = true := by
  obtain ⟨rest, rfl⟩ := List.isPrefixOf_iff_prefix.mp h
  have hsegments : segments (ascii "DAVSTATE|" ++ rest) = ascii "DAVSTATE" :: segments rest :=
    List.splitOn_append_cons_self_of_not_mem (show 124 ∉ ascii "DAVSTATE" by decide) rest
  refine List.isPrefixOf_iff_prefix.mpr ?_
  rw [insertSegment, hsegments, List.take_succ_cons, List.cons_append, joinSegments,
    List.intercalate_cons_of_ne_nil (by simp), List.append_assoc]
  exact List.prefix_append (ascii "DAVSTATE|") _

/-- A segment in which no `key=` occurs does not change what the decoder answers. -/
theorem decodeArmorState_insertSegment (s : Session) {segment payload : Bytes} (n : Nat)
    (hstart : startsWith payload (ascii "DAVSTATE|") = true) (hnone : ∀ key ∈ messageKeys, readField segment key = none) :
    decodeArmorState s (insertSegment segment payload n) = decodeArmorState s payload := by
  refine decodeArmorState_congr ?_ (fun key hkey => readField_insertSegment_of_none payload n hkey (hnone key hkey))
  rw [startsWith_insertSegment segment n hstart, hstart]

/-! ## A segment that changes a message -/

/-- A message, with `Z` in place of the value of one key. -/
def spoiled (key : Bytes) : Bytes :=
  message (if key = ascii "armo" then ascii "Z" else encodeIdentity { plugin := ascii "A", localFormID := 1 })
    (if key = ascii "state" then ascii "Z" else ascii "VISIBLE") (if key = ascii "variant" then ascii "Z" else [])
    (if key = ascii "active" then ascii "Z" else [])

/-- Such a message is accepted when the key is none of the four. -/
theorem decodeArmorState_sound (s : Session) : decodeArmorState s (spoiled []) ≠ none := by
  have hactive : decodeActive s [] [] = some [] := by
    rw [decodeActive]
    rfl
  rw [spoiled, if_neg (by decide), if_neg (by decide), if_neg (by decide), if_neg (by decide),
    decodeArmorState_message s (by decide) (by decide) (by decide) (by decide), decodeIdentity_encodeIdentity, hactive]
  simp [FormIdentity.accepted, FormIdentity.isStable, parseState, hexDecode, hexDecodePairs, ascii]

/-- No key may have the value `Z`. -/
theorem decodeArmorState_spoiled (s : Session) {key : Bytes} (h : key ∈ messageKeys) : decodeArmorState s (spoiled key) = none := by
  simp only [messageKeys, List.mem_cons, List.not_mem_nil, or_false] at h
  rcases h with rfl | rfl | rfl | rfl
  · rw [spoiled, decodeArmorState_message s (by decide) (by decide) (by decide) (by decide)]
    rfl
  · rw [spoiled, decodeArmorState_message s (by decide) (by decide) (by decide) (by decide), if_neg (by decide),
      decodeIdentity_encodeIdentity]
    rfl
  · rw [spoiled, decodeArmorState_message s (by decide) (by decide) (by decide) (by decide), if_neg (by decide),
      decodeIdentity_encodeIdentity]
    rfl
  · have hactive : decodeActive s (ascii "Z") [] = none := by
      rw [decodeActive]
      rfl
    rw [spoiled, decodeArmorState_message s (by decide) (by decide) (by decide) (by decide), if_neg (by decide),
      decodeIdentity_encodeIdentity, if_pos rfl, hactive]
    rfl

/-- The other three fields of the message are the same. -/
theorem findSome_spoiled : ∀ key ∈ messageKeys, ∀ k ∈ messageKeys, k ≠ key →
    ((segments (spoiled key)).drop 1).findSome? (fun part => readField part k) =
      ((segments (spoiled [])).drop 1).findSome? (fun part => readField part k) := by
  decide

theorem spoiled_head : ∀ key ∈ [] :: messageKeys, startsWith (spoiled key) (ascii "DAVSTATE|") = true ∧
    (segments (spoiled key)).take 1 = [ascii "DAVSTATE"] := by
  decide

/-- A segment in which some `key=` occurs makes the decoder read a sound message and a spoiled one alike. -/
theorem readField_eq_none_of_unchanged (s : Session) {segment key : Bytes} (hkey : key ∈ messageKeys)
    (h : ∀ payload n, startsWith payload (ascii "DAVSTATE|") = true →
      decodeArmorState s (insertSegment segment payload n) = decodeArmorState s payload) : readField segment key = none := by
  by_contra hread
  obtain ⟨value, hvalue⟩ := Option.ne_none_iff_exists'.mp hread
  obtain ⟨hsound, hsoundHead⟩ := spoiled_head [] (by simp)
  obtain ⟨hspoiled, hspoiledHead⟩ := spoiled_head key (by simp [hkey])
  have hsame : decodeArmorState s (insertSegment segment (spoiled []) 0) =
      decodeArmorState s (insertSegment segment (spoiled key) 0) := by
    refine decodeArmorState_congr ?_ (fun k hk => ?_)
    · rw [startsWith_insertSegment segment 0 hsound, startsWith_insertSegment segment 0 hspoiled]
    · rw [readField_insertSegment segment _ 0 hk, readField_insertSegment segment _ 0 hk, hsoundHead, hspoiledHead]
      by_cases hkk : k = key
      · rw [hkk, hvalue]
        rfl
      · rw [findSome_spoiled key hkey k hk hkk]
  rw [h _ 0 hsound, h _ 0 hspoiled, decodeArmorState_spoiled s hkey] at hsame
  exact decodeArmorState_sound s hsame

/-- For every payload and each of the four keys, the field is read at its boundary if and only if the first `key=` begins its
segment, or the first segment that begins with `key=` says the same. And a segment may be added anywhere behind the head of
every message without a change in the decoded result if and only if no `key=` occurs in it. -/
theorem fields_read_at_boundaries_iff (payload : Bytes) (s : Session) (segment : Bytes) :
    (∀ key ∈ messageKeys,
      (readField payload key = fieldValue payload key ↔ FirstAtBoundary (key ++ ascii "=") (segments payload))) ∧
    ((∀ received n, startsWith received (ascii "DAVSTATE|") = true →
        decodeArmorState s (insertSegment segment received n) = decodeArmorState s received) ↔
      ∀ key ∈ messageKeys, ¬(key ++ ascii "=") <:+: segment) := by
  refine ⟨fun key hkey => readField_eq_fieldValue_iff payload hkey, fun h key hkey => ?_, fun h => ?_⟩
  · exact (readField_eq_none segment key).mp (readField_eq_none_of_unchanged s hkey h)
  · intro received n hstart
    exact decodeArmorState_insertSegment s n hstart (fun key hkey => (readField_eq_none segment key).mpr (h key hkey))

/-- An unknown field whose name ends in `state` is read as the state. -/
theorem xstate_read_as_state :
    ¬∀ payload, startsWith payload (ascii "DAVSTATE|") = true →
      ∀ key ∈ messageKeys, readField payload key = fieldValue payload key := by
  intro h
  have hstate := h (ascii "DAVSTATE|xstate=HIDDEN|armo=41:00000001|state=VISIBLE|variant=|active=") (by decide) (ascii "state")
    (by decide)
  revert hstate
  decide

end DAVSyncTogether
