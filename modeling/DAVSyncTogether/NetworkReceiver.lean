import DAVSyncTogether.NetworkService
import DAVSyncTogether.RemoteApplier
import DAVSyncTogether.Lib.Machine

/-!
# Receiving a state

`handleReceivedMessageOnGameThread` decodes a payload, resolves the armor and every rendered addon it names, and asks the
resolver for the proxy of its sender. Only a valid state of a sender with a proxy reaches `DAVRemoteApplier::Apply`; any
other is logged and forgotten. `receiver` handles message after message, while the resolver's answers change.
-/

namespace DAVSyncTogether

/-- `STRPM::ConnectionID`. -/
abbrev ConnectionID : Type := UInt64

/-- `STRPM::kInvalidProxyFormID`. -/
def kInvalidProxyFormID : FormID := 0

/-- `DAVNetworkService::ReceivedMessage`, by what decides about it: the rest is only logged. -/
structure ReceivedMessage where
  payload : Bytes
  connectionID : ConnectionID
  deriving DecidableEq, Repr

/-- `ProxyResolverInterface::resolve`: what it answers, and the ID it leaves in `outFormID`. -/
abbrev ProxyResolver : Type := ConnectionID → STRPMResult × FormID

/-- The receiving game: its resolver (`none` when the module has none), and its actors by runtime ID. -/
structure Receiver where
  resolver : Option ProxyResolver
  actors : FormID → ProxyActor

/-- What became of one decoded message, as `RX_STATE` logs it. -/
structure RxState where
  message : RemoteArmorState
  proxyResult : STRPMResult
  proxyFormID : FormID
  proxyActor : Option TESForm
  valid : Bool
  applyResult : RemoteApplyResult

/-- The body of the loop over the rendered addons: the identity with the runtime ID of the addon it names, and whether it
names one. -/
def resolveActive (s : Session) (identity : FormIdentity) : FormIdentity × Bool :=
  match resolveAddon s identity with
  | some addon => ({ identity with runtimeFormID := addon.formID }, true)
  | none => ({ identity with runtimeFormID := 0 }, false)

/-- The message with the runtime IDs of this game, and whether it is valid: its armor resolves, and each of its rendered
addons. -/
def resolveMessage (s : Session) (message : RemoteArmorState) : RemoteArmorState × Bool :=
  let resolvedArmor := (message.armor.resolve s).bind Form.asARMO
  let armor :=
    match resolvedArmor with
    | some armor => { message.armor with runtimeFormID := armor.formID }
    | none => message.armor
  let active := message.activeArmorAddons.map (resolveActive s)
  ({ message with armor, activeArmorAddons := active.map Prod.fst }, resolvedArmor.isSome && active.all Prod.snd)

/-- What the resolver says about a connection. -/
def Receiver.resolve (r : Receiver) (connectionID : ConnectionID) : STRPMResult × FormID :=
  match r.resolver with
  | some resolve => resolve connectionID
  | none => (.notAvailable, kInvalidProxyFormID)

/-- The proxy actor of a connection: the actor of the ID that the resolver gives. -/
def Receiver.proxyActor (s : Session) (r : Receiver) (connectionID : ConnectionID) : Option TESForm :=
  let (proxyResult, proxyFormID) := r.resolve connectionID
  if proxyResult = .ok ∧ proxyFormID ≠ kInvalidProxyFormID then (s.lookupByID proxyFormID).bind Form.asActor else none

/-- `DAVNetworkService::HandleReceivedMessageOnGameThread`; a payload that does not decode leaves no state behind. -/
def handleReceivedMessageOnGameThread (s : Session) (vm : VirtualMachine) (r : Receiver) (received : ReceivedMessage) :
    Receiver × Option RxState :=
  match decodeArmorState s received.payload with
  | none => (r, none)
  | some decoded =>
    let (message, valid) := resolveMessage s decoded
    let (proxyResult, proxyFormID) := r.resolve received.connectionID
    let proxyActor := r.proxyActor s received.connectionID
    let rx : RxState := { message, proxyResult, proxyFormID, proxyActor, valid, applyResult := {} }
    match valid, proxyActor with
    | true, some proxy =>
      let applied := DAVRemoteApplier.apply s vm (r.actors proxy.formID) message
      ({ r with actors := Function.update r.actors proxy.formID applied.1 }, some { rx with applyResult := applied.2 })
    | _, _ => (r, some rx)

/-! ## Message after message -/

/-- A message as it is handled, with the Papyrus machine it meets. -/
structure Delivery extends ReceivedMessage where
  vm : VirtualMachine

/-- What happens to the receiver: a message is handled, or the resolver's answers change, with the actors that are there
then. -/
inductive ReceiverEvent where
  | handle (d : Delivery)
  | mapping (resolver : ProxyResolver) (actors : FormID → ProxyActor)

/-- The receiver over messages and mappings. -/
def receiver (s : Session) : Machine Receiver ReceiverEvent RxState where
  step r e :=
    match e with
    | .handle d =>
      let x := handleReceivedMessageOnGameThread s d.vm r d.toReceivedMessage
      (x.1, x.2.toList)
    | .mapping resolver actors => ({ resolver := some resolver, actors }, [])

end DAVSyncTogether
