import DAVSyncTogether.Lemmas.Games
import DAVSyncTogether.Lemmas.Wire

/-!
# What the decoder accepts

Payloads come from anybody, so the decoder meets any bytes. What it accepts is well formed (`accepted_well_formed`): every
identity names a file and carries the runtime ID of the receiver's own lookup. Whether a payload is accepted, and what it says,
does not depend on the receiver but for these runtime IDs. And what it says can be encoded again: the canonical payload is the
encoder's own, says the same, and is its own canonical payload on every receiver.
-/

namespace DAVSyncTogether

open ByteString

/-- The same message on another receiver. -/
def RemoteArmorState.received (s : Session) (r : RemoteArmorState) : RemoteArmorState :=
  { r with armor := r.armor.received s, activeArmorAddons := r.activeArmorAddons.map (FormIdentity.received s) }

/-- A message that says what it says of files, with the runtime IDs of the receiver. -/
structure RemoteArmorState.WellFormed (s : Session) (r : RemoteArmorState) : Prop where
  armor : r.armor.isStable = true
  addons : ∀ i ∈ r.activeArmorAddons, i.isStable = true
  runtimeIDs : r.received s = r

/-- Whether a message tells that the armor was taken off. -/
def RemoteArmorState.unequipped (r : RemoteArmorState) : Bool := r.state == .unequipped

/-- A worn armor that looks as a message tells. -/
def RemoteArmorState.worn (r : RemoteArmorState) : WornArmorState where
  armor := r.armor
  visualState :=
    match r.state with
    | .hidden => .hidden
    | .replaced => .replaced
    | _ => .visible
  activeArmorAddons := r.activeArmorAddons

/-- The encoder's payload of a message. -/
def RemoteArmorState.encoded (r : RemoteArmorState) : Bytes := encodeArmorState r.worn r.variant r.unequipped

/-- A message as the encoder tells it: one that tells that the armor was taken off lists no addons. -/
def RemoteArmorState.listed (r : RemoteArmorState) : RemoteArmorState :=
  { r with activeArmorAddons := listedAddons r.worn r.unequipped }

/-! ## Identities -/

theorem FormIdentity.received_received (s s' : Session) (i : FormIdentity) : (i.received s).received s' = i.received s' := rfl

/-- The identity a token spells, without a runtime ID. -/
def spelledIdentity (token : Bytes) : Option FormIdentity :=
  (rfind 58 token).bind fun separator =>
    (hexDecode (token.take separator)).bind fun plugin =>
      (parseHexFormID (token.drop (separator + 1))).map fun localFormID => { plugin, localFormID }

/-- A token is accepted when the identity that it spells is. -/
theorem decodeIdentity_eq (s : Session) (token : Bytes) :
    decodeIdentity s token = (spelledIdentity token).bind (FormIdentity.accepted s) := by
  unfold decodeIdentity spelledIdentity
  cases rfind 58 token with
  | none => rfl
  | some separator =>
    dsimp only [Option.bind_some]
    cases hexDecode (token.take separator) with
    | none => rfl
    | some plugin =>
      cases parseHexFormID (token.drop (separator + 1)) with
      | none => rfl
      | some localFormID =>
        cases plugin with
        | nil => rfl
        | cons b plugin =>
          simp only [List.isEmpty_cons, Bool.false_eq_true, if_false, Option.bind_some, Option.map_some,
            FormIdentity.accepted, FormIdentity.received, FormIdentity.resolve, FormIdentity.isStable, Bool.not_false,
            Bool.not_true, if_true]
          cases s.lookupForm localFormID (b :: plugin) <;> rfl

/-- An accepted token names a file, and is accepted by every receiver, each with its own runtime ID. -/
theorem decodeIdentity_eq_some {s : Session} {token : Bytes} {i : FormIdentity} (h : decodeIdentity s token = some i) :
    i.isStable = true ∧ i.received s = i ∧ ∀ s', decodeIdentity s' token = some (i.received s') := by
  rw [decodeIdentity_eq] at h
  obtain ⟨j, hj, haccepted⟩ := Option.bind_eq_some_iff.mp h
  obtain ⟨hstable, ⟨⟩⟩ := Option.ite_none_right_eq_some.mp haccepted
  refine ⟨hstable, rfl, fun s' => ?_⟩
  rw [decodeIdentity_eq, hj, Option.bind_some, FormIdentity.accepted, if_pos hstable, FormIdentity.received_received]

/-! ## Lists of identities -/

/-- Identities that name files, and carry the runtime IDs of the receiver. -/
def OwnIdentities (s : Session) (l : List FormIdentity) : Prop := ∀ i ∈ l, i.isStable = true ∧ i.received s = i

/-- One step of the loop over the tokens: an empty token is skipped. -/
def decodeToken (s : Session) (token : Bytes) (decoded : List FormIdentity) : Option (List FormIdentity) :=
  if token.isEmpty then some decoded else (decodeIdentity s token).map fun i => decoded ++ [i]

/-- A step that goes on appends identities of files, and goes on with every receiver. -/
theorem decodeToken_eq_some {s : Session} {token : Bytes} {decoded after : List FormIdentity}
    (h : decodeToken s token decoded = some after) :
    ∃ l, after = decoded ++ l ∧ OwnIdentities s l ∧
      ∀ s' before, decodeToken s' token before = some (before ++ l.map (FormIdentity.received s')) := by
  unfold decodeToken at h ⊢
  by_cases hempty : token.isEmpty = true
  · rw [if_pos hempty] at h
    cases h
    refine ⟨[], (List.append_nil _).symm, List.forall_mem_nil _, fun s' before => ?_⟩
    rw [if_pos hempty, List.map_nil, List.append_nil]
  · rw [if_neg hempty] at h
    obtain ⟨i, hi, rfl⟩ := Option.map_eq_some_iff.mp h
    obtain ⟨hstable, hown, hany⟩ := decodeIdentity_eq_some hi
    refine ⟨[i], rfl, List.forall_mem_singleton.mpr ⟨hstable, hown⟩, fun s' before => ?_⟩
    rw [if_neg hempty, hany s']
    rfl

/-- The loop is its first step, and the loop over what stands behind the comma. -/
theorem decodeActive_step (s : Session) {active : Bytes} (decoded : List FormIdentity) (hne : active ≠ []) :
    decodeActive s active decoded =
      (decodeToken s (active.take ((find active (ascii ",") 0).getD active.length)) decoded).bind fun after =>
        match find active (ascii ",") 0 with
        | none => some after
        | some comma => decodeActive s (active.drop (comma + 1)) after := by
  rw [decodeActive, dif_neg hne]
  cases find active (ascii ",") 0 with
  | none =>
    cases hstep : decodeToken s (active.take (none.getD active.length)) decoded <;> rw [decodeToken] at hstep <;>
      simp only [hstep, Option.bind_none, Option.bind_some]
  | some comma =>
    cases hstep : decodeToken s (active.take ((some comma).getD active.length)) decoded <;> rw [decodeToken] at hstep <;>
      simp only [hstep, Option.bind_none, Option.bind_some]

/-- The addons of an accepted list name files, and the list is accepted by every receiver. -/
theorem decodeActive_eq_some {s : Session} {active : Bytes} {decoded after : List FormIdentity}
    (h : decodeActive s active decoded = some after) :
    ∃ l, after = decoded ++ l ∧ OwnIdentities s l ∧
      ∀ s' before, decodeActive s' active before = some (before ++ l.map (FormIdentity.received s')) := by
  -- Along the loop: each step takes a token off the front.
  induction hn : active.length using Nat.strong_induction_on generalizing active decoded with
  | _ n ih =>
    by_cases hempty : active = []
    · subst hempty
      rw [decodeActive, dif_pos rfl] at h
      cases h
      refine ⟨[], (List.append_nil _).symm, List.forall_mem_nil _, fun s' before => ?_⟩
      rw [decodeActive, dif_pos rfl, List.map_nil, List.append_nil]
    · rw [decodeActive_step s decoded hempty] at h
      obtain ⟨between, htoken, hrest⟩ := Option.bind_eq_some_iff.mp h
      obtain ⟨l, rfl, hl, hany⟩ := decodeToken_eq_some htoken
      cases hcomma : find active (ascii ",") 0 with
      | none =>
        rw [hcomma] at hrest
        cases hrest
        refine ⟨l, rfl, hl, fun s' before => ?_⟩
        rw [decodeActive_step s' before hempty, hany s' before, Option.bind_some, hcomma]
      | some comma =>
        rw [hcomma] at hrest
        have hpos := List.length_pos_iff.mpr hempty
        obtain ⟨m, rfl, hm, hrestAny⟩ := ih _ (by rw [List.length_drop]; omega) hrest rfl
        refine ⟨l ++ m, List.append_assoc _ _ _, fun i hi => (List.mem_append.mp hi).elim (hl i) (hm i), fun s' before => ?_⟩
        rw [decodeActive_step s' before hempty, hany s' before, Option.bind_some, hcomma]
        dsimp only
        rw [hrestAny s', List.append_assoc, List.map_append]

/-! ## Messages -/

/-- What an accepted payload tells names files, and the payload is accepted by every receiver. -/
theorem decodeArmorState_eq_some {s : Session} {payload : Bytes} {r : RemoteArmorState}
    (h : decodeArmorState s payload = some r) :
    r.WellFormed s ∧ ∀ s', decodeArmorState s' payload = some (r.received s') := by
  unfold decodeArmorState at h
  by_cases hstart : (!startsWith payload (ascii "DAVSTATE|")) = true
  · rw [if_pos hstart] at h
    cases h
  · rw [if_neg hstart] at h
    split at h
    · rename_i armorToken stateToken variantToken activeToken harmo hstate hvariant hactive
      split at h
      · rename_i armor state variant hidentity hname hhex
        obtain ⟨addons, haddons, rfl⟩ := Option.map_eq_some_iff.mp h
        obtain ⟨hstable, hown, hany⟩ := decodeIdentity_eq_some hidentity
        obtain ⟨l, rfl, hl, hanyList⟩ := decodeActive_eq_some haddons
        refine ⟨⟨hstable, fun i hi => (hl i hi).1, ?_⟩, fun s' => ?_⟩
        · have hmap : addons.map (FormIdentity.received s) = addons :=
            (List.map_congr_left fun i hi => (hl i hi).2).trans (List.map_id _)
          rw [RemoteArmorState.received, hown, hmap]
        · rw [decodeArmorState, if_neg hstart]
          simp only [harmo, hstate, hvariant, hactive, hany s', hname, hhex, hanyList s']
          rfl
      · cases h
    · cases h

/-! ## The canonical payload -/

theorem encodeActive_received (s : Session) (l : List FormIdentity) :
    encodeActive (l.map (FormIdentity.received s)) = encodeActive l := by
  cases l with
  | nil => rfl
  | cons i l =>
    rw [List.map_cons, encodeActive, encodeActive, List.flatMap_map]
    rfl

/-- The encoder tells the state of the message. -/
theorem encodedState_worn (r : RemoteArmorState) : encodedState r.worn r.unequipped = r.state := by
  obtain ⟨armor, state, variant, addons⟩ := r
  cases state <;> rfl

/-- The encoder's payload of what a payload of files tells is accepted by every receiver, and tells the same. -/
theorem RemoteArmorState.WellFormed.decode_encoded {s : Session} {r : RemoteArmorState} (h : r.WellFormed s) (s' : Session) :
    decodeArmorState s' r.encoded = some (r.listed.received s') := by
  have hlisted : ∀ i ∈ listedAddons r.worn r.unequipped, i.isStable = true := by
    intro i hi
    unfold listedAddons at hi
    split at hi
    · exact absurd hi List.not_mem_nil
    · exact h.addons i hi
  rw [encoded, decodeArmorState_encode, FormIdentity.accepted, if_pos (show r.worn.armor.isStable = true from h.armor),
    mapM_accepted, if_pos hlisted, encodedState_worn]
  rfl

/-- Nothing but files, local IDs, the state and the variant goes into the payload. -/
theorem encoded_listed_received (s : Session) (r : RemoteArmorState) : (r.listed.received s).encoded = r.encoded := by
  have hlisted : listedAddons (r.listed.received s).worn (r.listed.received s).unequipped =
      (listedAddons r.worn r.unequipped).map (FormIdentity.received s) := by
    obtain ⟨armor, state, variant, addons⟩ := r
    cases state <;> rfl
  have hstate : encodedState (r.listed.received s).worn (r.listed.received s).unequipped = encodedState r.worn r.unequipped := by
    rw [encodedState_worn, encodedState_worn]
    rfl
  rw [RemoteArmorState.encoded, RemoteArmorState.encoded, encodeArmorState_eq_message, encodeArmorState_eq_message, hlisted,
    hstate, encodeActive_received]
  rfl

/-- Whatever bytes are received: what is accepted names files and carries the runtime IDs of the receiver; every other receiver
accepts it too, with its own runtime IDs; and the encoder's payload of it is accepted by every receiver, tells the same but for
the addons of an armor that was taken off, and is the encoder's payload of what it tells. -/
theorem accepted_well_formed {s : Session} {payload : Bytes} {r : RemoteArmorState} (h : decodeArmorState s payload = some r) :
    r.WellFormed s ∧ ∀ s', decodeArmorState s' payload = some (r.received s') ∧
      decodeArmorState s' r.encoded = some (r.listed.received s') ∧ (r.listed.received s').encoded = r.encoded := by
  obtain ⟨hformed, hany⟩ := decodeArmorState_eq_some h
  exact ⟨hformed, fun s' => ⟨hany s', hformed.decode_encoded s', encoded_listed_received s' r⟩⟩

/-- A message that no encoder wrote: its fields in another order, with one more field, lower-case digits and short local IDs. -/
def Helmet.foreign : Bytes :=
  ascii "DAVSTATE|mood=1|active=48656c6d65742e657370:801|variant=|state=HIDDEN|armo=48656c6d65742e657370:800"

theorem accepted_well_formed_foreign :
    RemoteArmorState.WellFormed Helmet.session
      { armor := Helmet.hidden.armor, state := .hidden, activeArmorAddons := Helmet.visible.activeArmorAddons } := by
  refine (@accepted_well_formed _ Helmet.foreign _ ?_).1
  have hactive : decodeActive Helmet.session (ascii "48656c6d65742e657370:801") [] = some Helmet.visible.activeArmorAddons := by
    rw [decodeActive_token _ _ (by decide) (by decide)]
    decide
  have hread : readField Helmet.foreign (ascii "armo") = some (ascii "48656c6d65742e657370:800") ∧
      readField Helmet.foreign (ascii "state") = some (ascii "HIDDEN") ∧ readField Helmet.foreign (ascii "variant") = some [] ∧
      readField Helmet.foreign (ascii "active") = some (ascii "48656c6d65742e657370:801") := by decide
  have hdecoded : decodeIdentity Helmet.session (ascii "48656c6d65742e657370:800") = some Helmet.hidden.armor ∧
      parseState (ascii "HIDDEN") = some .hidden ∧ hexDecode [] = some [] := by decide
  rw [decodeArmorState, if_neg (by decide)]
  simp only [hread, hdecoded, hactive]
  rfl

end DAVSyncTogether
