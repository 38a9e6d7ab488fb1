import DAVSyncTogether.FormIdentity

/-!
# Snapshots of the worn armors

What one look at the local player records: for each worn armor its identity, its visual state, its own addons and the addons
that are rendered. `StateHash` folds FNV-1a over the bytes of the part that matters to the remotes.
-/

namespace DAVSyncTogether

open ByteString

/-- How DAV shows an armor: as its own addons, not at all, or as other addons. -/
inductive ArmorVisualState where
  | unknown | visible | hidden | replaced
  deriving DecidableEq, Repr

/-- `static_cast<std::uint8_t>(state)`. -/
def ArmorVisualState.toUInt8 : ArmorVisualState → UInt8
  | .unknown => 0
  | .visible => 1
  | .hidden => 2
  | .replaced => 3

/-- One worn armor: the addons it has, and those that are rendered for it. -/
structure WornArmorState where
  armor : FormIdentity
  editorID : Bytes := []
  name : Bytes := []
  visualState : ArmorVisualState := .unknown
  baseArmorAddons : List FormIdentity := []
  activeArmorAddons : List FormIdentity := []
  deriving DecidableEq, Repr

/-- One look at the local player. -/
structure DAVStateSnapshot where
  davLoaded : Bool := false
  playerName : Bytes := []
  wornArmors : List WornArmorState := []
  deriving DecidableEq, Repr

/-- The key of a worn armor in the maps of the plugin. -/
abbrev WornArmorState.stableKey (a : WornArmorState) : Bytes := a.armor.stableKey

/-- Equal length, and equivalent at every index. -/
def identityVectorsEquivalent (lhs rhs : List FormIdentity) : Bool :=
  lhs.length == rhs.length && (lhs.zip rhs).all (fun p => p.1.stableEquivalent p.2)

@[simp] theorem identityVectorsEquivalent_nil : identityVectorsEquivalent [] [] = true := rfl

@[simp] theorem identityVectorsEquivalent_nil_cons (j : FormIdentity) (m : List FormIdentity) :
    identityVectorsEquivalent [] (j :: m) = false := rfl

@[simp] theorem identityVectorsEquivalent_cons_nil (i : FormIdentity) (l : List FormIdentity) :
    identityVectorsEquivalent (i :: l) [] = false := rfl

@[simp] theorem identityVectorsEquivalent_cons (i j : FormIdentity) (l m : List FormIdentity) :
    identityVectorsEquivalent (i :: l) (j :: m) = (i.stableEquivalent j && identityVectorsEquivalent l m) := by
  rw [Bool.eq_iff_iff]
  simp [identityVectorsEquivalent, and_left_comm]

/-- Where a function tells the identities of two lists apart as equivalence does, the lists are equivalent exactly when it takes
the same values along them. -/
theorem identityVectorsEquivalent_iff_map {β : Type} (f : FormIdentity → β) {l m : List FormIdentity}
    (h : ∀ i ∈ l, ∀ j ∈ m, i.stableEquivalent j = true ↔ f i = f j) :
    identityVectorsEquivalent l m = true ↔ l.map f = m.map f := by
  induction l generalizing m with
  | nil => cases m <;> simp
  | cons i l ih =>
    cases m with
    | nil => simp
    | cons j m =>
      have hrest := ih (fun i hi j hj => h i (by simp [hi]) j (by simp [hj])) (m := m)
      rw [List.map_cons, List.map_cons, List.cons.injEq, ← hrest, ← h i (by simp) j (by simp), identityVectorsEquivalent_cons,
        Bool.and_eq_true]

/-- Two states of an armor look the same. -/
def WornArmorState.visualEquivalent (a rhs : WornArmorState) : Bool :=
  a.armor.stableEquivalent rhs.armor && a.visualState == rhs.visualState &&
    identityVectorsEquivalent a.activeArmorAddons rhs.activeArmorAddons

/-! ## The hash of a snapshot -/

def kFnvOffset : UInt64 := 1469598103934665603

def kFnvPrime : UInt64 := 1099511628211

def feedByte (hash : UInt64) (value : UInt8) : UInt64 := (hash ^^^ value.toUInt64) * kFnvPrime

/-- Four bytes, the least significant first. -/
def feedU32 (hash : UInt64) (value : UInt32) : UInt64 :=
  ([0, 8, 16, 24] : List UInt32).foldl (fun hash shift => feedByte hash ((value >>> shift) &&& 0xFF).toUInt8) hash

/-- The bytes of a text, closed by `0xFF`. -/
def feedText (hash : UInt64) (value : Bytes) : UInt64 := feedByte (value.foldl feedByte hash) 0xFF

def feedIdentity (hash : UInt64) (identity : FormIdentity) : UInt64 :=
  if identity.isStable then feedU32 (feedText hash identity.plugin) identity.localFormID
  else feedU32 (feedText hash (ascii "runtime")) identity.runtimeFormID

/-- `DAVStateSnapshot::StateHash`. -/
def DAVStateSnapshot.stateHash (s : DAVStateSnapshot) : UInt64 :=
  s.wornArmors.foldl
    (fun hash armorState =>
      let hash := feedIdentity hash armorState.armor
      let hash := feedByte hash armorState.visualState.toUInt8
      let hash := armorState.activeArmorAddons.foldl feedIdentity hash
      feedByte hash 0xFE)
    (feedByte kFnvOffset (if s.davLoaded then 1 else 0))

/-! ## Distinct keys -/

/-- The armors of a snapshot have pairwise different keys: each worn armor is listed once. -/
def DAVStateSnapshot.DistinctKeys (s : DAVStateSnapshot) : Prop := (s.wornArmors.map WornArmorState.stableKey).Nodup

instance (s : DAVStateSnapshot) : Decidable s.DistinctKeys := by
  unfold DAVStateSnapshot.DistinctKeys
  infer_instance

/-- The state of the armor with a key, in a snapshot. -/
def DAVStateSnapshot.find (s : DAVStateSnapshot) (k : Bytes) : Option WornArmorState :=
  s.wornArmors.find? (fun a => a.stableKey = k)

theorem DAVStateSnapshot.find_eq_some {s : DAVStateSnapshot} {k : Bytes} {a : WornArmorState} (h : s.find k = some a) :
    a ∈ s.wornArmors ∧ a.stableKey = k := by
  refine ⟨List.mem_of_find?_eq_some h, ?_⟩
  simpa using List.find?_some h

theorem DAVStateSnapshot.find_eq_none {s : DAVStateSnapshot} {k : Bytes} :
    s.find k = none ↔ ∀ a ∈ s.wornArmors, a.stableKey ≠ k := by
  simp [DAVStateSnapshot.find]

end DAVSyncTogether
