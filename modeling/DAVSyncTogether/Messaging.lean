import DAVSyncTogether.NetworkService

/-!
# The messaging service

`Start` asks the messaging module for its interface, of exactly the version that the plugin knows, and registers one listener
on the plugin's channel; whatever fails leaves the service as if it had not been started. `Stop` unregisters the listener.
Without the proxy resolver the service runs too, but can apply nothing.
-/

namespace DAVSyncTogether

/-! ## The module -/

def kInterfaceVersion : UInt32 := 2

def kProxyResolverVersion : UInt32 := 1

/-- The answer to a query for an interface: the result, and the version of the interface that is handed out, if one is. -/
structure QueryAnswer where
  result : STRPMResult
  version : Option UInt32
  deriving DecidableEq, Repr

/-- The messaging module, as one call of `Start` meets it: its two queries (`none` without the module or without the export),
and what `registerChannel` answers and leaves in `outHandle`. -/
structure STRPMModule where
  queryInterface : Option QueryAnswer
  queryProxyResolver : Option QueryAnswer
  registerChannel : STRPMResult × UInt64

/-- The query hands out an interface of the version asked for. -/
def handsOut (query : Option QueryAnswer) (version : UInt32) : Bool :=
  match query with
  | some answer => answer.result == .ok && answer.version == some version
  | none => false

/-- `STRPM::LoadFromModule`: whether it returns an interface. -/
def loadFromModule (m : STRPMModule) : Bool := handsOut m.queryInterface kInterfaceVersion

/-- `STRPM::LoadProxyResolverFromModule`: whether it returns a resolver. -/
def loadProxyResolverFromModule (m : STRPMModule) : Bool := handsOut m.queryProxyResolver kProxyResolverVersion

/-! ## Starting and stopping -/

/-- The members of `DAVNetworkService`: whether it runs, which of the two interfaces it has, and the handle of its listener. -/
structure ServiceState where
  running : Bool := false
  api : Bool := false
  resolver : Bool := false
  listener : UInt64 := 0
  deriving DecidableEq, Repr

/-- What the module's channel table is told. -/
inductive ChannelCall where
  | registered (listener : UInt64)
  | unregistered (listener : UInt64)
  deriving DecidableEq, Repr

namespace ServiceState

/-- `DAVNetworkService::Start`. -/
def start (st : ServiceState) (m : STRPMModule) : ServiceState × List ChannelCall :=
  if st.running then (st, [])
  else if !loadFromModule m then ({ st with api := false }, [])
  else
    let resolver := loadProxyResolverFromModule m
    let (result, listener) := m.registerChannel
    if result ≠ .ok then ({ st with api := false, resolver := false, listener := 0 }, [])
    else ({ running := true, api := true, resolver, listener }, [.registered listener])

/-- `DAVNetworkService::Stop`; what `unregisterChannel` answers is only logged. -/
def stop (st : ServiceState) : ServiceState × List ChannelCall :=
  if !st.running then (st, [])
  else
    ({ running := false, api := false, resolver := false, listener := 0 },
      if st.api && st.listener != 0 then [.unregistered st.listener] else [])

/-- The service during one call of `SendArmorState`, given what the API answers to a payload. -/
def call (st : ServiceState) (answer : Bytes → STRPMResult) : DAVNetworkService where
  running := st.running
  send := if st.api then some answer else none

end ServiceState

end DAVSyncTogether
