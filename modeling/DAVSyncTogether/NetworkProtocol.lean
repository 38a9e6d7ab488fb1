import DAVSyncTogether.StateSnapshot

/-!
# The state messages

One message carries the state of one armor: `DAVSTATE|armo=…|state=…|variant=…|active=…`. Plugin names and the variant are in
hexadecimal, so that no separator occurs in them. The decoder finds a field by a search for `key=` in the whole payload, and
gives every identity the runtime ID that the receiver's own lookup finds.
-/

namespace DAVSyncTogether

open ByteString Hex

/-- The state a message tells the remotes. -/
inductive NetworkArmorState where
  | visible | hidden | replaced | unequipped
  deriving DecidableEq, Repr

/-- What a received message says. -/
structure RemoteArmorState where
  armor : FormIdentity
  state : NetworkArmorState := .visible
  variant : Bytes := []
  activeArmorAddons : List FormIdentity := []
  deriving DecidableEq, Repr

/-! ## Hexadecimal texts -/

/-- Two upper-case digits for each byte. -/
def hexEncode (input : Bytes) : Bytes :=
  input.flatMap (fun ch : UInt8 => [upperHexDigit ((ch >>> 4) &&& 0x0F).toNat, upperHexDigit (ch &&& 0x0F).toNat])

/-- The loop of `HexDecode` over the pairs of digits. -/
def hexDecodePairs : Bytes → Option Bytes
  | [] => some []
  | a :: b :: rest =>
    match digitValue 16 a, digitValue 16 b with
    | some high, some low => (hexDecodePairs rest).map ((high <<< 4 ||| low).toUInt8 :: ·)
    | _, _ => none
  | [_] => none

/-- `HexDecode`: an even number of hexadecimal digits, of either case. -/
def hexDecode (input : Bytes) : Option Bytes := if input.length % 2 ≠ 0 then none else hexDecodePairs input

/-- `ParseHexFormID`: 1 to 8 bytes that `stoul` consumes to the end. -/
def parseHexFormID (text : Bytes) : Option FormID :=
  if text.isEmpty || decide (8 < text.length) then none
  else
    match stoul text 16 with
    | none => none
    | some (value, consumed) => if consumed ≠ text.length || decide (0xFFFFFFFF < value.toNat) then none else some value

/-! ## Fields and identities -/

/-- `ReadField`: the text behind the first `key=` of the payload, up to the next `|`. -/
def readField (payload key : Bytes) : Option Bytes :=
  let needle := key ++ ascii "="
  match find payload needle 0 with
  | none => none
  | some position =>
    let position := position + needle.length
    let stop := (find payload (ascii "|") position).getD payload.length
    some (substr payload position (stop - position))

def encodeIdentity (identity : FormIdentity) : Bytes :=
  hexEncode identity.plugin ++ ascii ":" ++ hexPadded 8 identity.localFormID.toNat

/-- `DecodeIdentity`: the plugin before the last `:`, the local ID behind it; the runtime ID is the receiver's. -/
def decodeIdentity (s : Session) (token : Bytes) : Option FormIdentity :=
  match rfind 58 token with
  | none => none
  | some separator =>
    match hexDecode (token.take separator), parseHexFormID (token.drop (separator + 1)) with
    | some plugin, some localFormID =>
      if plugin.isEmpty then none
      else
        let identity : FormIdentity := { plugin, localFormID }
        match identity.resolve s with
        | some resolved => some { identity with runtimeFormID := resolved.formID }
        | none => some identity
    | _, _ => none

def parseState (text : Bytes) : Option NetworkArmorState :=
  if text = ascii "VISIBLE" then some .visible
  else if text = ascii "HIDDEN" then some .hidden
  else if text = ascii "REPLACED" then some .replaced
  else if text = ascii "UNEQUIPPED" then some .unequipped
  else none

def networkArmorStateName : NetworkArmorState → Bytes
  | .visible => ascii "VISIBLE"
  | .hidden => ascii "HIDDEN"
  | .replaced => ascii "REPLACED"
  | .unequipped => ascii "UNEQUIPPED"

/-! ## Messages -/

/-- The state a message tells: `UNEQUIPPED`, or that of a hidden or replaced armor, or `VISIBLE` for any other. -/
def encodedState (armor : WornArmorState) (unequipped : Bool) : NetworkArmorState :=
  if unequipped then .unequipped
  else
    match armor.visualState with
    | .hidden => .hidden
    | .replaced => .replaced
    | _ => .visible

/-- The rendered addons, separated by commas. -/
def encodeActive : List FormIdentity → Bytes
  | [] => []
  | addon :: addons => encodeIdentity addon ++ addons.flatMap (fun a => ascii "," ++ encodeIdentity a)

/-- `EncodeArmorState`. -/
def encodeArmorState (armor : WornArmorState) (variant : Bytes) (unequipped : Bool) : Bytes :=
  ascii "DAVSTATE|armo=" ++ encodeIdentity armor.armor ++ ascii "|state=" ++
    networkArmorStateName (encodedState armor unequipped) ++ ascii "|variant=" ++ hexEncode variant ++ ascii "|active=" ++
    (if unequipped then [] else encodeActive armor.activeArmorAddons)

/-- The loop of `DecodeArmorState` over the tokens of the list of rendered addons; an empty token is skipped. -/
def decodeActive (s : Session) (active : Bytes) (decoded : List FormIdentity) : Option (List FormIdentity) :=
  if _h : active = [] then some decoded
  else
    let comma := find active (ascii ",") 0
    let token := active.take (comma.getD active.length)
    match (if token.isEmpty then some decoded else (decodeIdentity s token).map (fun i => decoded ++ [i])), comma with
    | none, _ => none
    | some decoded, none => some decoded
    | some decoded, some comma => decodeActive s (active.drop (comma + 1)) decoded
termination_by active.length
decreasing_by
  have := List.length_pos_iff.mpr _h
  simp only [List.length_drop]
  omega

/-- `DecodeArmorState`, on the receiver's session. -/
def decodeArmorState (s : Session) (payload : Bytes) : Option RemoteArmorState :=
  if !startsWith payload (ascii "DAVSTATE|") then none
  else
    match readField payload (ascii "armo"), readField payload (ascii "state"), readField payload (ascii "variant"),
        readField payload (ascii "active") with
    | some armorToken, some stateToken, some variantToken, some activeToken =>
      match decodeIdentity s armorToken, parseState stateToken, hexDecode variantToken with
      | some armor, some state, some variant =>
        (decodeActive s activeToken []).map (fun activeArmorAddons => { armor, state, variant, activeArmorAddons })
      | _, _, _ => none
    | _, _, _, _ => none

end DAVSyncTogether
