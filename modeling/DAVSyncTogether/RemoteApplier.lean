import DAVSyncTogether.Scene

/-!
# Applying a received state to a proxy

`apply` asks DAV's Papyrus functions to show or reset a variant on the proxy actor. Where the call is not dispatched and the
armor leaves head and hair alone, the armor's nodes are culled, or uncovered again, instead.
-/

namespace DAVSyncTogether

open ByteString

/-- What became of one state: whether it could be applied, whether DAV took it, and how many nodes the fallback changed. -/
structure RemoteApplyResult where
  supported : Bool := false
  dispatched : Bool := false
  fallbackNodes : Nat := 0
  deriving DecidableEq, Repr

/-- The Papyrus machine during one call: whether it is there, and what `DispatchStaticCall` returns. -/
structure VirtualMachine where
  available : Bool
  dispatchStaticCall : Bool
  deriving DecidableEq, Repr

/-- A static call to DAV's script. -/
inductive PapyrusCall where
  | applyVariant (variant : Bytes)
  | resetVariant (armor : FormID)
  deriving DecidableEq, Repr

/-- The proxy actor: its 3D, and the calls DAV has been given for it. -/
structure ProxyActor where
  object3D : NiAVObject
  papyrusCalls : List PapyrusCall := []

namespace DAVRemoteApplier

def hasPartOf (slotMask mask : UInt32) : Bool := slotMask &&& mask != 0

/-- The armor covers slot 30 (head) or 31 (hair). -/
def armorTouchesHeadOrHair (armor : TESObjectARMO) : Bool :=
  hasPartOf armor.slotMask ((1 : UInt32) <<< 0) || hasPartOf armor.slotMask ((1 : UInt32) <<< 1)

def dispatchApplyVariant (vm : VirtualMachine) (variant : Bytes) : Bool :=
  if !vm.available || variant.isEmpty then false else vm.dispatchStaticCall

def dispatchResetVariant (vm : VirtualMachine) : Bool := if !vm.available then false else vm.dispatchStaticCall

/-- A call of DAV's script reaches it only when it is dispatched. -/
def recordCall (actor : ProxyActor) (dispatched : Bool) (call : PapyrusCall) : ProxyActor :=
  if dispatched then { actor with papyrusCalls := actor.papyrusCalls ++ [call] } else actor

/-- The node fallback of `Apply`: it decides whether the state is supported. -/
def applyFallback (actor : ProxyActor) (armor : FormID) (cull : Bool) (result : RemoteApplyResult) :
    ProxyActor × RemoteApplyResult :=
  let r := fallbackCull armor cull actor.object3D result.fallbackNodes
  ({ actor with object3D := r.1 }, { result with fallbackNodes := r.2, supported := decide (0 < r.2) })

/-- The armor a state is about, when it resolves in the session. -/
def resolvedArmor (s : Session) (state : RemoteArmorState) : Option TESObjectARMO :=
  if state.armor.runtimeFormID = 0 then none else (s.lookupByID state.armor.runtimeFormID).bind Form.asARMO

/-- `DAVRemoteApplier::Apply`, on a proxy whose 3D is loaded. -/
def apply (s : Session) (vm : VirtualMachine) (actor : ProxyActor) (state : RemoteArmorState) :
    ProxyActor × RemoteApplyResult :=
  match actor.object3D, resolvedArmor s state with
  | .null, _ => (actor, {})
  | _, none => (actor, {})
  | _, some armor =>
    let touchesHead := armorTouchesHeadOrHair armor
    match state.state with
    | .hidden | .replaced =>
      let supported := !state.variant.isEmpty
      let dispatched := supported && dispatchApplyVariant vm state.variant
      let result : RemoteApplyResult := { supported, dispatched }
      let actor := recordCall actor dispatched (.applyVariant state.variant)
      if !dispatched && state.state == .hidden && !touchesHead then
        applyFallback actor state.armor.runtimeFormID true result
      else (actor, result)
    | .visible | .unequipped =>
      let dispatched := dispatchResetVariant vm
      let result : RemoteApplyResult := { supported := true, dispatched }
      let actor := recordCall actor dispatched (.resetVariant armor.formID)
      if !dispatched && !touchesHead then applyFallback actor state.armor.runtimeFormID false result
      else (actor, result)

end DAVRemoteApplier

end DAVSyncTogether
