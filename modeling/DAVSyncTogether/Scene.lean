import DAVSyncTogether.NetworkProtocol
import Mathlib.Data.List.AList

/-!
# Scene trees

The 3D of an actor is a tree of named nodes. A node that renders an armor addon is named after it: the runtime ID of the
addon in the first pair of parentheses, that of the armor in the first pair behind the next slash. The probe walks the tree
to collect what is rendered, the applier walks it to cull an armor's nodes; each has its own copy of the name parser.
-/

namespace DAVSyncTogether

open ByteString

/-- `RE::NiAVObject`: a pointer that may be null, to a leaf or to a node with children; each has a name and the app-culled
flag. -/
inductive NiAVObject where
  | null
  | geometry (name : Bytes) (appCulled : Bool)
  | node (name : Bytes) (appCulled : Bool) (children : List NiAVObject)

/-- The grammar of `ParseArmorNode`, over a parser of IDs: `A(X)B/C(Y)D` gives the addon `X` and the armor `Y`. -/
def parseNodeName (parseFormID : Bytes → Option FormID) (name : Bytes) : Option (FormID × FormID) := do
  let firstOpen ← find name (ascii "(") 0
  let firstClose ← find name (ascii ")") (firstOpen + 1)
  let slash ← find name (ascii "/") (firstClose + 1)
  let secondOpen ← find name (ascii "(") (slash + 1)
  let secondClose ← find name (ascii ")") (secondOpen + 1)
  let arma := parseFormID (substr name (firstOpen + 1) (firstClose - firstOpen - 1))
  let armo := parseFormID (substr name (secondOpen + 1) (secondClose - secondOpen - 1))
  match arma, armo with
  | some arma, some armo => some (arma, armo)
  | _, _ => none

namespace DAVProbe

/-- `DAVProbe::ParseFormID`. -/
def parseFormID (text : Bytes) : Option FormID := parseHexFormID text

/-- `DAVProbe::ParseArmorNode`. -/
def parseArmorNode (name : Bytes) : Option (FormID × FormID) := parseNodeName parseFormID name

/-- The addons found for each armor. -/
abbrev ActiveAddonMap : Type := AList (fun _ : FormID => List FormID)

/-- What one object adds: `activeAddons[armo].push_back(arma)`, when its name parses. -/
def visitName (name : Bytes) (activeAddons : ActiveAddonMap) : ActiveAddonMap :=
  if name.isEmpty then activeAddons
  else
    match parseArmorNode name with
    | some (arma, armo) => activeAddons.insert armo ((activeAddons.lookup armo).getD [] ++ [arma])
    | none => activeAddons

mutual

/-- `DAVProbe::VisitArmorNodes`. -/
def visitArmorNodes : NiAVObject → ActiveAddonMap → ActiveAddonMap
  | .null, m => m
  | .geometry name _, m => visitName name m
  | .node name _ children, m => visitChildren children (visitName name m)

def visitChildren : List NiAVObject → ActiveAddonMap → ActiveAddonMap
  | [], m => m
  | child :: children, m => visitChildren children (visitArmorNodes child m)

end

end DAVProbe

namespace DAVRemoteApplier

/-- `DAVRemoteApplier::ParseFormID`. -/
def parseFormID (text : Bytes) : Option FormID := parseHexFormID text

/-- `DAVRemoteApplier::ParseArmorNode`. -/
def parseArmorNode (name : Bytes) : Option (FormID × FormID) := parseNodeName parseFormID name

/-- The flag of one object after `FallbackCull`, and the number of nodes changed so far. -/
def cullFlag (armorFormID : FormID) (cull : Bool) (name : Bytes) (appCulled : Bool) (fallbackNodes : Nat) : Bool × Nat :=
  if name.isEmpty then (appCulled, fallbackNodes)
  else
    match parseArmorNode name with
    | some (_, armo) => if armo = armorFormID ∧ appCulled ≠ cull then (cull, fallbackNodes + 1) else (appCulled, fallbackNodes)
    | none => (appCulled, fallbackNodes)

mutual

/-- `DAVRemoteApplier::FallbackCull`: the tree after the walk, and the count of the nodes changed. -/
def fallbackCull (armorFormID : FormID) (cull : Bool) : NiAVObject → Nat → NiAVObject × Nat
  | .null, n => (.null, n)
  | .geometry name appCulled, n =>
    let r := cullFlag armorFormID cull name appCulled n
    (.geometry name r.1, r.2)
  | .node name appCulled children, n =>
    let r := cullFlag armorFormID cull name appCulled n
    let rest := cullChildren armorFormID cull children r.2
    (.node name r.1 rest.1, rest.2)

def cullChildren (armorFormID : FormID) (cull : Bool) : List NiAVObject → Nat → List NiAVObject × Nat
  | [], n => ([], n)
  | child :: children, n =>
    let r := fallbackCull armorFormID cull child n
    let rest := cullChildren armorFormID cull children r.2
    (r.1 :: rest.1, rest.2)

end

end DAVRemoteApplier

end DAVSyncTogether
