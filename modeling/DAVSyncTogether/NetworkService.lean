import DAVSyncTogether.NetworkProtocol
import DAVSyncTogether.ConfigIndex

/-!
# Sending a state

`sendArmorState` hands one payload to the messaging API, when the service runs, the armor's identity is stable and some rule
of the index can touch the armor. It tells its caller nothing: what the API answered is only logged.
-/

namespace DAVSyncTogether

/-- `STRPM::Result`. -/
inductive STRPMResult where
  | ok | notAvailable | unsupportedVersion | invalidArgument | notConnected | channelAlreadyRegistered
  | channelNotRegistered | payloadTooLarge | rateLimited | transportError | targetNotFound
  deriving DecidableEq, Repr

/-- The service during one call: whether it runs, and what the API's `send` answers to a payload (`none` without an API). -/
structure DAVNetworkService where
  running : Bool
  send : Option (Bytes → STRPMResult)

/-- One payload handed to the API, and its answer. -/
structure Transmission where
  payload : Bytes
  result : STRPMResult
  deriving DecidableEq, Repr

/-- `DAVNetworkService::SendArmorState`: what is handed to the API, if anything is. -/
def sendArmorState (s : Session) (index : DAVConfigIndex) (service : DAVNetworkService) (armor : WornArmorState)
    (variant : Bytes) (unequipped : Bool) : Option Transmission :=
  match service.running, service.send with
  | true, some send =>
    if !armor.armor.isStable then none
    else if !index.isArmorRelevant s armor then none
    else
      let payload := encodeArmorState armor variant unequipped
      some { payload, result := send payload }
  | _, _ => none

end DAVSyncTogether
