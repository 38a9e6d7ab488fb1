import DAVSyncTogether.StateSnapshot
import Mathlib.Data.List.AList
import Mathlib.Data.Finset.Insert

/-!
# The index of DAV's configuration

`load` reads the JSON files of DAV into variants: for each base addon, or each biped slot, the addons that replace it.
Same-named variants of different files are merged, the last file winning rule by rule. `findMatchingVariants` infers which
variants explain what is rendered for an armor, the choosers rank several of them, and `isArmorRelevant` says whether any
variant can touch the armor.
-/

namespace DAVSyncTogether

open ByteString Hex SortUnique

/-! ## Configuration files -/

/-- A JSON value; the members of an object stand in the order in which they are visited. -/
inductive Json where
  | null
  | boolean (value : Bool)
  | number (text : Bytes)
  | string (value : Bytes)
  | array (items : List Json)
  | object (members : List (Bytes × Json))

namespace Json

/-- `value.find(key)`: a value that is no object has no member. -/
def find (key : Bytes) : Json → Option Json
  | object members => (members.find? (fun m => m.1 = key)).map (·.2)
  | _ => none

/-- The text of a string member. -/
def findString (key : Bytes) (value : Json) : Option Bytes :=
  match value.find key with
  | some (string text) => some text
  | _ => none

/-- The members of an object member, in order; none when it is missing or no object. -/
def findMembers (key : Bytes) (value : Json) : List (Bytes × Json) :=
  match value.find key with
  | some (object members) => members
  | _ => []

end Json

/-- One entry of the walk through the configuration directory; `json` is `none` when the text does not parse. -/
structure DirectoryEntry where
  isRegularFile : Bool
  extension : Bytes
  opens : Bool
  json : Option Json

/-- One DAV variant: its replacement rules by base addon and by biped slot. -/
structure VariantRule where
  name : Bytes := []
  linkTo : Bytes := []
  overrideHead : Bytes := []
  replaceByForm : AList (fun _ : Bytes => List FormIdentity) := ∅
  replaceBySlot : AList (fun _ : UInt32 => List FormIdentity) := ∅

/-- The index: the variants by name, and every addon and slot that some rule names. -/
structure DAVConfigIndex where
  sourceArmorAddons : Finset Bytes := ∅
  sourceSlots : Finset UInt32 := ∅
  variants : AList (fun _ : Bytes => VariantRule) := ∅
  loaded : Bool := false

/-- `std::tolower` in the C locale. -/
def toLower (value : Bytes) : Bytes := value.map (fun ch : UInt8 => if 65 ≤ ch ∧ ch ≤ 90 then ch + 32 else ch)

/-- `DAVConfigIndex::SortAndUnique`. -/
def sortAndUnique (values : List FormIdentity) : List FormIdentity :=
  sortUnique formIdentityLess FormIdentity.stableEquivalent values

/-- What `ReadReplacementList` and `ParseStableForm` read alike: `plugin|id`, the ID in hexadecimal with or without `0x`. -/
def parseFormText (text : Bytes) : Option FormIdentity :=
  match rfind 124 text with
  | none => none
  | some sep =>
    let idText := text.drop (sep + 1)
    let idText := if startsWith idText (ascii "0x") || startsWith idText (ascii "0X") then idText.drop 2 else idText
    match stoul idText 16 with
    | none => none
    | some (localID, consumed) =>
      if consumed ≠ idText.length then none else some { plugin := text.take sep, localFormID := localID }

/-- The addons an entry of a replacement list adds: the one it names, when it names an addon. -/
def readReplacement (s : Session) : Json → List FormIdentity
  | .string text =>
    match ((parseFormText text).bind (·.resolve s)).bind Form.asARMA with
    | some addon => [makeFormIdentity addon.toTESForm]
    | none => []
  | _ => []

/-- `ReadReplacementList`: one text, or a list of them; what names no addon is dropped. -/
def readReplacementList (s : Session) : Json → List FormIdentity
  | .string text => readReplacement s (.string text)
  | .array items => items.flatMap (readReplacement s)
  | _ => []

/-- `DAVConfigIndex::ParseStableForm`: the identity of the form a text names, or what the text says when no form is found. -/
def parseStableForm (s : Session) (value : Bytes) : Option FormIdentity :=
  (parseFormText value).map fun identity =>
    match identity.resolve s with
    | some resolved => makeFormIdentity resolved.toTESForm
    | none => identity

/-! ## Loading -/

/-- One entry of `replaceByForm`; an entry without a valid replacement is ignored. -/
def loadFormRule (s : Session) (r : VariantRule × DAVConfigIndex) (entry : Bytes × Json) : VariantRule × DAVConfigIndex :=
  match parseStableForm s entry.1 with
  | none => r
  | some source =>
    if !source.isStable then r
    else
      let replacements := readReplacementList s entry.2
      if replacements.isEmpty then r
      else
        ({ r.1 with replaceByForm := r.1.replaceByForm.insert source.stableKey (sortAndUnique replacements) },
          { r.2 with sourceArmorAddons := insert source.stableKey r.2.sourceArmorAddons })

/-- One entry of `replaceBySlot`; a rule with an empty list is kept, it hides the armor. -/
def loadSlotRule (s : Session) (r : VariantRule × DAVConfigIndex) (entry : Bytes × Json) : VariantRule × DAVConfigIndex :=
  match stoul entry.1 10 with
  | none => r
  | some (slot, _) =>
    if slot < 30 || 61 < slot then r
    else
      ({ r.1 with replaceBySlot := r.1.replaceBySlot.insert slot (sortAndUnique (readReplacementList s entry.2)) },
        { r.2 with sourceSlots := insert slot r.2.sourceSlots })

/-- One variant of a file, merged into the variant of the same name. -/
def loadVariant (s : Session) (index : DAVConfigIndex) (jsonVariant : Json) : DAVConfigIndex :=
  match jsonVariant.findString (ascii "name") with
  | none => index
  | some name =>
    let variant : VariantRule := { (index.variants.lookup name).getD {} with name }
    let variant := { variant with linkTo := (jsonVariant.findString (ascii "linkTo")).getD variant.linkTo }
    let variant :=
      { variant with overrideHead := (jsonVariant.findString (ascii "overrideHead")).getD variant.overrideHead }
    let r := (jsonVariant.findMembers (ascii "replaceByForm")).foldl (loadFormRule s) (variant, index)
    let r := (jsonVariant.findMembers (ascii "replaceBySlot")).foldl (loadSlotRule s) r
    { r.2 with variants := r.2.variants.insert name r.1 }

/-- One parsed file. -/
def loadFile (s : Session) (index : DAVConfigIndex) (rootJson : Json) : DAVConfigIndex :=
  match rootJson.find (ascii "variants") with
  | some (.array variants) => variants.foldl (loadVariant s) index
  | _ => index

/-- One entry of the walk; what is no JSON file, does not open or does not parse adds nothing. -/
def loadEntry (s : Session) (index : DAVConfigIndex) (entry : DirectoryEntry) : DAVConfigIndex :=
  if !entry.isRegularFile || toLower entry.extension != ascii ".json" || !entry.opens then index
  else
    match entry.json with
    | some rootJson => loadFile s index rootJson
    | none => index

/-- `DAVConfigIndex::Load`; `none` when the configuration directory is missing. -/
def load (s : Session) (root : Option (List DirectoryEntry)) : DAVConfigIndex :=
  (root.getD []).foldl (loadEntry s) { loaded := true }

/-! ## Matching -/

def armorAddonUsesSlot (addon : TESObjectARMA) (slotNumber : UInt32) : Bool :=
  if slotNumber < 30 || 61 < slotNumber then false else addon.slotMask &&& (1 <<< (slotNumber - 30)) != 0

def containsStable (values : List FormIdentity) (needle : FormIdentity) : Bool :=
  values.any (fun value => value.stableEquivalent needle)

/-- The addon an identity names in the session. -/
def resolveAddon (s : Session) (i : FormIdentity) : Option TESObjectARMA := (i.resolve s).bind Form.asARMA

/-- The rule of a variant for a base addon: its own entry, or that of the smallest slot it uses; `none` when the variant
leaves it as it is. -/
def VariantRule.ruleFor (s : Session) (variant : VariantRule) (base : FormIdentity) : Option (List FormIdentity) :=
  match variant.replaceByForm.lookup base.stableKey with
  | some direct => some direct
  | none =>
    match resolveAddon s base with
    | none => none
    | some addon =>
      let slots := variant.replaceBySlot.keys.insertionSort (· ≤ ·)
      (slots.find? (armorAddonUsesSlot addon)).bind (fun slot => variant.replaceBySlot.lookup slot)

/-- The addons a variant can render in the place of some base addon, and whether it affects any. -/
def VariantRule.replacementPool (s : Session) (variant : VariantRule) (armor : WornArmorState) :
    Bool × List FormIdentity :=
  let r := armor.baseArmorAddons.foldl
    (fun (r : Bool × List FormIdentity) base =>
      match variant.ruleFor s base with
      | some replacements => (true, r.2 ++ replacements)
      | none => r)
    (false, [])
  (r.1, sortAndUnique r.2)

/-- `DAVConfigIndex::BuildExpectedActive`: what the variant renders when every base addon is rendered. -/
def VariantRule.buildExpectedActive (s : Session) (variant : VariantRule) (armor : WornArmorState) :
    Bool × List FormIdentity :=
  let r := armor.baseArmorAddons.foldl
    (fun (r : Bool × List FormIdentity) base =>
      match variant.ruleFor s base with
      | some replacements => (true, r.2 ++ replacements)
      | none => (r.1, r.2 ++ [base]))
    (false, [])
  (r.1, sortAndUnique r.2)

/-- A variant explains a replaced armor: every rendered addon is one of its replacements or a base addon, and some rendered
addon is a replacement. -/
def VariantRule.matchesReplaced (s : Session) (variant : VariantRule) (armor : WornArmorState) : Bool :=
  let (affected, pool) := variant.replacementPool s armor
  affected && !pool.isEmpty &&
    armor.activeArmorAddons.all (fun active => containsStable pool active || containsStable armor.baseArmorAddons active) &&
    armor.activeArmorAddons.any (containsStable pool)

/-- A variant explains a hidden armor: it renders exactly the rendered addons. -/
def VariantRule.matchesHidden (s : Session) (variant : VariantRule) (armor : WornArmorState) : Bool :=
  let (affected, expected) := variant.buildExpectedActive s armor
  affected && identityVectorsEquivalent expected armor.activeArmorAddons

/-- `DAVConfigIndex::FindMatchingVariants`. -/
def DAVConfigIndex.findMatchingVariants (s : Session) (index : DAVConfigIndex) (armor : WornArmorState) : List Bytes :=
  if !index.loaded then []
  else
    match armor.visualState with
    | .replaced =>
      ((index.variants.entries.filter (fun e => e.2.matchesReplaced s armor)).map (·.1)).insertionSort (· ≤ ·)
    | .hidden =>
      ((index.variants.entries.filter (fun e => e.2.matchesHidden s armor)).map (·.1)).insertionSort (· ≤ ·)
    | _ => []

/-- Some rule of the index names a base addon, or a slot it uses. -/
def DAVConfigIndex.touches (s : Session) (index : DAVConfigIndex) (base : FormIdentity) : Bool :=
  decide (base.stableKey ∈ index.sourceArmorAddons) ||
    match resolveAddon s base with
    | none => false
    | some addon => decide (∃ slot ∈ index.sourceSlots, armorAddonUsesSlot addon slot = true)

/-- `DAVConfigIndex::IsArmorRelevant`. -/
def DAVConfigIndex.isArmorRelevant (s : Session) (index : DAVConfigIndex) (armor : WornArmorState) : Bool :=
  !(index.findMatchingVariants s armor).isEmpty || armor.baseArmorAddons.any (index.touches s)

/-! ## Choosing among several matches -/

/-- The name or the link of a variant mentions the player, in any letter case. -/
def VariantRule.isPlayerScoped (variant : VariantRule) : Bool :=
  (find (toLower variant.name) (ascii "player") 0).isSome || (find (toLower variant.linkTo) (ascii "player") 0).isSome

/-- `ScoreHiddenVariant`. -/
def VariantRule.scoreHidden (s : Session) (variant : VariantRule) (armor : WornArmorState) : Int :=
  let score : Int :=
    if variant.overrideHead = ascii "showAll" then 1000
    else if variant.overrideHead = ascii "showHead" then 800
    else if variant.overrideHead = ascii "hideHair" then -200
    else if variant.overrideHead = ascii "hideAll" then -2000
    else 0
  armor.baseArmorAddons.foldl
    (fun score base =>
      if (variant.replaceByForm.lookup base.stableKey).isSome then score + 2000
      else
        match resolveAddon s base with
        | none => score
        | some addon =>
          let score :=
            if (variant.replaceBySlot.lookup 30).isSome && armorAddonUsesSlot addon 30 then score + 600 else score
          if (variant.replaceBySlot.lookup 31).isSome && armorAddonUsesSlot addon 31 then score + 400 else score)
    score

/-- `ScoreReplacedVariant`: a variant made for the local player ranks far below one that a proxy can show. -/
def VariantRule.scoreReplaced (s : Session) (variant : VariantRule) (armor : WornArmorState) : Int :=
  let score : Int := if variant.isPlayerScoped then -100000 else 0
  let score := armor.baseArmorAddons.foldl
    (fun score base =>
      if (variant.replaceByForm.lookup base.stableKey).isSome then score + 10000
      else
        match resolveAddon s base with
        | none => score
        | some addon => if variant.replaceBySlot.keys.any (armorAddonUsesSlot addon) then score + 1000 else score)
    score
  score - (variant.replaceByForm.keys.length * 10 : Nat) - variant.replaceBySlot.keys.length

/-- The loop of `ChoosePreferredHiddenVariant`: of two equal scores the smaller name wins. -/
def hiddenChoiceStep (s : Session) (index : DAVConfigIndex) (armor : WornArmorState) (best : Option (Bytes × Int))
    (name : Bytes) : Option (Bytes × Int) :=
  match index.variants.lookup name with
  | none => best
  | some variant =>
    let score := variant.scoreHidden s armor
    match best with
    | none => some (name, score)
    | some (bestName, bestScore) =>
      if bestScore < score ∨ (score = bestScore ∧ name < bestName) then some (name, score) else best

/-- `ChoosePreferredHiddenVariant`: nothing when the best score is not above -500. -/
def DAVConfigIndex.choosePreferredHiddenVariant (s : Session) (index : DAVConfigIndex) (armor : WornArmorState)
    (candidates : List Bytes) : Option Bytes :=
  match candidates.foldl (hiddenChoiceStep s index armor) none with
  | some (best, bestScore) => if -500 < bestScore then some best else none
  | none => none

/-- The loop of `ChoosePreferredReplacedVariant`: the last component says that the best score is shared. -/
def replacedChoiceStep (s : Session) (index : DAVConfigIndex) (armor : WornArmorState)
    (best : Option (Bytes × Int × Bool)) (name : Bytes) : Option (Bytes × Int × Bool) :=
  match index.variants.lookup name with
  | none => best
  | some variant =>
    let score := variant.scoreReplaced s armor
    match best with
    | none => some (name, score, false)
    | some (bestName, bestScore, _) =>
      if bestScore < score then some (name, score, false)
      else if score = bestScore then some (bestName, bestScore, true)
      else best

/-- `ChoosePreferredReplacedVariant`: nothing when the best score is shared. -/
def DAVConfigIndex.choosePreferredReplacedVariant (s : Session) (index : DAVConfigIndex) (armor : WornArmorState)
    (candidates : List Bytes) : Option Bytes :=
  match candidates.foldl (replacedChoiceStep s index armor) none with
  | some (best, _, false) => some best
  | _ => none

end DAVSyncTogether
