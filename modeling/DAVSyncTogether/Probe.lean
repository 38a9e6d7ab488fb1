import DAVSyncTogether.NetworkService
import DAVSyncTogether.Scene

/-!
# The probe

Every half second the probe captures the local player (`captureLocalPlayer`) and, when the hash of the snapshot differs from
that of the last one processed, compares the two armor by armor (`logSnapshotDiff`). It keeps for each armor the variant the
remotes were last told, and a guard on every armor that was put on again. Each call of `std::chrono::steady_clock::now()`
within one comparison takes the next reading of `clock`, and the service is found in the next state of `network` by each call
of `SendArmorState`.
-/

namespace DAVSyncTogether

open ByteString SortUnique

/-! ## Capturing the local player -/

/-- One entry of the inventory: the object, how many there are, and whether it is worn (`none` without extra data). -/
structure InventoryEntry where
  item : Option Form
  count : Int
  worn : Option Bool

/-- The local player; `NiAVObject.null` while the 3D is not loaded. -/
structure PlayerCharacter where
  object3D : NiAVObject
  name : Option Bytes
  inventory : List InventoryEntry

namespace DAVProbe

/-- `SortAndUniqueIdentities`. -/
def sortAndUniqueIdentities (values : List FormIdentity) : List FormIdentity :=
  sortUnique formIdentityLess FormIdentity.stableEquivalent values

/-- `std::sort` and `std::unique` on runtime IDs. -/
def sortAndUniqueIDs (values : List FormID) : List FormID :=
  sortUnique (fun a b => decide (a < b)) (fun a b => a == b) values

/-- `DAVProbe::ClassifyVisualState`; the binary search is over a sorted list. -/
def classifyVisualState (baseAddons activeAddons : List FormID) : ArmorVisualState :=
  if baseAddons.isEmpty then .unknown
  else if activeAddons.isEmpty then .hidden
  else if activeAddons.all (fun active => decide (active ∈ baseAddons)) then .visible
  else .replaced

/-- The armor of an inventory entry that the capture goes on with: worn, and with an entry in its list of addons. -/
def wornArmor (entry : InventoryEntry) : Option TESObjectARMO :=
  if entry.count ≤ 0 ∨ entry.worn ≠ some true then none
  else
    match entry.item.bind Form.asARMO with
    | some armor => if armor.armorAddons.isEmpty then none else some armor
    | none => none

/-- The state of one worn armor, given what is rendered. -/
def captureArmor (s : Session) (activeAddons : ActiveAddonMap) (armor : TESObjectARMO) : WornArmorState :=
  let addons := armor.armorAddons.filterMap id
  let baseRuntimeAddons := sortAndUniqueIDs (addons.map (fun addon => addon.formID))
  let activeRuntimeAddons := sortAndUniqueIDs ((activeAddons.lookup armor.formID).getD [])
  { armor := makeFormIdentity armor.toTESForm
    editorID := armor.editorID.getD []
    name := armor.name.getD []
    visualState := classifyVisualState baseRuntimeAddons activeRuntimeAddons
    baseArmorAddons := sortAndUniqueIdentities (addons.map (fun addon => makeFormIdentity addon.toTESForm))
    activeArmorAddons := sortAndUniqueIdentities (activeRuntimeAddons.map (makeFormIdentityOfID s)) }

/-- `DAVProbe::CaptureLocalPlayer`. -/
def captureLocalPlayer (s : Session) (davLoaded : Bool) (player : Option PlayerCharacter) : DAVStateSnapshot :=
  match player with
  | none => { davLoaded }
  | some player =>
    match player.object3D with
    | .null => { davLoaded }
    | object3D =>
      let activeAddons := visitArmorNodes object3D ∅
      let states := (player.inventory.filterMap wornArmor).map (captureArmor s activeAddons)
      { davLoaded
        playerName := player.name.getD []
        wornArmors := states.insertionSort (fun a b => formIdentityLess b.armor a.armor = false) }

/-! ## Comparing two snapshots -/

/-- `kPostReequipGuardWindow`: 15 seconds, in the nanoseconds of the steady clock. -/
def kPostReequipGuardWindow : Int := 15000000000

/-- The variant the post-reequip guard watches. -/
def hiddenHelmetWorkaround : Bytes := ascii "HT_HiddenHelmetWorkaround"

/-- The members of the probe that outlive a tick. -/
structure State where
  hasPrevious : Bool := false
  previous : DAVStateSnapshot := {}
  networkTrackedVariants : AList (fun _ : Bytes => Bytes) := ∅
  recentReequips : AList (fun _ : Bytes => Int) := ∅

/-- What a comparison meets outside the probe: the readings of the clock, and the service at each send. -/
structure Surroundings where
  clock : Nat → Int
  network : Nat → DAVNetworkService

/-- What a call of `SendArmorState` is to tell the remotes. -/
structure StateMessage where
  armor : WornArmorState
  variant : Bytes
  unequipped : Bool
  deriving DecidableEq, Repr

/-- One call of `SendArmorState`, and what it handed to the API. -/
structure SendCall extends StateMessage where
  transmission : Option Transmission
  deriving DecidableEq, Repr

/-- The maps while a comparison runs, the calls of `SendArmorState` so far, and how often the clock was read. -/
structure Diff where
  networkTrackedVariants : AList (fun _ : Bytes => Bytes)
  recentReequips : AList (fun _ : Bytes => Int)
  sent : List SendCall := []
  clockReads : Nat := 0

section

variable (s : Session) (index : DAVConfigIndex) (w : Surroundings)

/-- The variant that explains the state of an armor: the only match, or the one the chooser of its state prefers. -/
def selectVariant (armor : WornArmorState) : Option Bytes :=
  match index.findMatchingVariants s armor with
  | [] => none
  | [name] => some name
  | candidates =>
    match armor.visualState with
    | .hidden => index.choosePreferredHiddenVariant s armor candidates
    | .replaced => index.choosePreferredReplacedVariant s armor candidates
    | _ => none

/-- DAV shows the armor otherwise than it is. -/
def davActive (armor : WornArmorState) : Bool := armor.visualState == .hidden || armor.visualState == .replaced

/-- `network.SendArmorState(armor, variant, unequipped)`, whose answer is dropped. -/
def Diff.send (d : Diff) (armor : WornArmorState) (variant : Bytes) (unequipped : Bool) : Diff :=
  { d with
    sent := d.sent ++
      [{ armor, variant, unequipped,
         transmission := sendArmorState s index (w.network d.sent.length) armor variant unequipped }] }

def Diff.track (d : Diff) (stableKey variant : Bytes) : Diff :=
  { d with networkTrackedVariants := d.networkTrackedVariants.insert stableKey variant }

def Diff.untrack (d : Diff) (stableKey : Bytes) : Diff :=
  { d with networkTrackedVariants := d.networkTrackedVariants.erase stableKey }

def Diff.disarm (d : Diff) (stableKey : Bytes) : Diff := { d with recentReequips := d.recentReequips.erase stableKey }

/-- An armor that reappears is guarded from now on. -/
def Diff.arm (d : Diff) (stableKey : Bytes) : Diff :=
  { d with recentReequips := d.recentReequips.insert stableKey (w.clock d.clockReads), clockReads := d.clockReads + 1 }

/-- The guard check before a send: whether the send is suppressed. The guard is consumed either way. -/
def Diff.checkGuard (d : Diff) (armor : WornArmorState) (selected : Bytes) : Bool × Diff :=
  let stableKey := armor.stableKey
  if armor.visualState = .hidden ∧ selected = hiddenHelmetWorkaround then
    match d.recentReequips.lookup stableKey with
    | some armedAt =>
      (decide (w.clock d.clockReads - armedAt ≤ kPostReequipGuardWindow),
        { d.disarm stableKey with clockReads := d.clockReads + 1 })
    | none => (false, d)
  else (false, d.disarm stableKey)

/-- The body of the loop over the armors now worn. -/
def diffCurrent (hasPrevious : Bool) (previousByForm : AList (fun _ : Bytes => WornArmorState)) (d : Diff)
    (armor : WornArmorState) : Diff :=
  let stableKey := armor.stableKey
  let before := previousByForm.lookup stableKey
  let d := if hasPrevious && before.isNone then d.arm w stableKey else d
  let changed := !hasPrevious || !before.any armor.visualEquivalent
  if !changed then d
  else if davActive armor then
    match selectVariant s index armor with
    | none => d
    | some selected =>
      let (suppress, d) := d.checkGuard w armor selected
      if suppress then d else (d.send s index w armor selected false).track stableKey selected
  else
    match d.networkTrackedVariants.lookup stableKey, armor.visualState with
    | some tracked, .visible => (d.send s index w armor tracked false).untrack stableKey
    | _, _ => d

/-- The body of the loop over the armors worn before. -/
def diffPrevious (currentForms : List Bytes) (d : Diff) (armor : WornArmorState) : Diff :=
  let stableKey := armor.stableKey
  if stableKey ∈ currentForms then d
  else
    let d := d.disarm stableKey
    match d.networkTrackedVariants.lookup stableKey with
    | some tracked => (d.send s index w armor tracked true).untrack stableKey
    | none => d

/-- `previousByForm.emplace`: the first armor with a key stays. -/
def emplace (m : AList (fun _ : Bytes => WornArmorState)) (armor : WornArmorState) :
    AList (fun _ : Bytes => WornArmorState) :=
  if (m.lookup armor.stableKey).isSome then m else m.insert armor.stableKey armor

/-- `DAVProbe::LogSnapshotDiff`. -/
def logSnapshotDiff (p : State) (current : DAVStateSnapshot) : Diff :=
  let previousByForm := if p.hasPrevious then p.previous.wornArmors.foldl emplace ∅ else ∅
  let d : Diff := { networkTrackedVariants := p.networkTrackedVariants, recentReequips := p.recentReequips }
  let d := current.wornArmors.foldl (diffCurrent s index w p.hasPrevious previousByForm) d
  if p.hasPrevious then
    p.previous.wornArmors.foldl (diffPrevious s index w (current.wornArmors.map WornArmorState.stableKey)) d
  else d

/-- A processed tick: the comparison, then the snapshot becomes the previous one. -/
def processSnapshot (p : State) (current : DAVStateSnapshot) : State × List SendCall :=
  let d := logSnapshotDiff s index w p current
  ({ hasPrevious := true
     previous := current
     networkTrackedVariants := d.networkTrackedVariants
     recentReequips := d.recentReequips }, d.sent)

/-- The hash gate of a tick: a snapshot is processed when it is the first one or its hash differs from the previous one's. -/
def gatedSnapshot (p : State) (current : DAVStateSnapshot) : State × List SendCall :=
  if !p.hasPrevious || current.stateHash != p.previous.stateHash then processSnapshot s index w p current else (p, [])

/-- `DAVProbe::TickOnGameThread`, on a running probe. -/
def tickOnGameThread (p : State) (davLoaded : Bool) (player : Option PlayerCharacter) : State × List SendCall :=
  match player with
  | none => (p, [])
  | some player =>
    match player.object3D with
    | .null => (p, [])
    | _ =>
      let current := captureLocalPlayer s davLoaded (some player)
      if current.playerName.isEmpty || current.playerName = ascii "Prisoner" then (p, [])
      else gatedSnapshot s index w p current

end

/-- `DAVProbe::Reset`. -/
def reset (_ : State) : State := {}

end DAVProbe

end DAVSyncTogether
