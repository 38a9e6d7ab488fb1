import DAVSyncTogether.NetworkReceiver
import DAVSyncTogether.Tracker
import DAVSyncTogether.Lib.Sweep

/-!
# What DAV keeps of an actor

DAV itself is no part of the plugin. What the plugin relies on is this: DAV keeps a set of active variants for each actor;
`ApplyVariant` adds one to it, and `ResetVariant` takes out every variant that has a rule for some addon of the armor.
-/

namespace DAVSyncTogether

namespace DynamicArmor

/-- The variant has a rule for some addon of the armor. -/
def affects (s : Session) (index : DAVConfigIndex) (armor : TESObjectARMO) (variant : Bytes) : Bool :=
  (index.variants.lookup variant).any fun rule =>
    (armor.armorAddons.filterMap id).any fun addon => (rule.ruleFor s (makeFormIdentity addon.toTESForm)).isSome

/-- What a call of DAV's script does to the active variants of its actor. -/
def op (s : Session) (index : DAVConfigIndex) : PapyrusCall → SetOp Bytes
  | .applyVariant variant => .add variant
  | .resetVariant armor =>
    .sweep fun variant => ((s.lookupByID armor).bind Form.asARMO).any fun armor => affects s index armor variant

/-- The active variants of an actor after the calls of DAV's script for it. -/
def activeVariants (s : Session) (index : DAVConfigIndex) (calls : List PapyrusCall) : List Bytes :=
  SetOp.replay [] (calls.map (op s index))

end DynamicArmor

namespace DAVProbe

/-- The message as it is handled by a receiver. -/
def StateMessage.delivery (c : ConnectionID) (vm : VirtualMachine) (m : StateMessage) : Delivery where
  payload := encodeArmorState m.armor m.variant m.unequipped
  connectionID := c
  vm

/-- The message tells the remotes to show a variant. -/
def StateMessage.Applies (m : StateMessage) (variant : Bytes) : Prop :=
  (m.state = .hidden ∨ m.state = .replaced) ∧ m.variant = variant

/-- The message tells the remotes to reset an armor that the variant affects. -/
def StateMessage.Resets (s : Session) (index : DAVConfigIndex) (m : StateMessage) (variant : Bytes) : Prop :=
  (m.state = .visible ∨ m.state = .unequipped) ∧
    ∃ armor, (m.armor.armor.resolve s).bind Form.asARMO = some armor ∧ DynamicArmor.affects s index armor variant = true

end DAVProbe

end DAVSyncTogether
