import DAVSyncTogether.RemoteApplier

/-!
# Walks through a scene tree

Both walks visit the objects of a tree in one order, an object before its children, and see only their names and flags.
`objects` is that list; the probe's walk is a fold over it (`visitArmorNodes_eq`) that collects one addon for each object that
renders an armor (`lookup_visitArmorNodes`). The applier's walk keeps the shape and the names: it sets the flags of the objects
that render the armor and counts those it changes (`fallbackCull_eq`).
-/

namespace DAVSyncTogether

open ByteString

mutual

/-- The objects of a tree in the order of the walks, by name and app-culled flag. -/
def NiAVObject.objects : NiAVObject → List (Bytes × Bool)
  | .null => []
  | .geometry name appCulled => [(name, appCulled)]
  | .node name appCulled children => (name, appCulled) :: NiAVObject.objectsOf children

def NiAVObject.objectsOf : List NiAVObject → List (Bytes × Bool)
  | [] => []
  | child :: children => child.objects ++ NiAVObject.objectsOf children

end

mutual

/-- The tree with the flag of every object computed from its name and its flag. -/
def NiAVObject.mapFlags (f : Bytes → Bool → Bool) : NiAVObject → NiAVObject
  | .null => .null
  | .geometry name appCulled => .geometry name (f name appCulled)
  | .node name appCulled children => .node name (f name appCulled) (NiAVObject.mapFlagsOf f children)

def NiAVObject.mapFlagsOf (f : Bytes → Bool → Bool) : List NiAVObject → List NiAVObject
  | [] => []
  | child :: children => child.mapFlags f :: NiAVObject.mapFlagsOf f children

end

mutual

/-- The objects keep their names and their order. -/
theorem NiAVObject.objects_mapFlags (f : Bytes → Bool → Bool) (o : NiAVObject) :
    (o.mapFlags f).objects = o.objects.map (fun p => (p.1, f p.1 p.2)) := by
  cases o with
  | null => rfl
  | geometry name appCulled => rfl
  | node name appCulled children =>
    rw [NiAVObject.mapFlags, NiAVObject.objects, NiAVObject.objects, List.map_cons, NiAVObject.objectsOf_mapFlagsOf]

theorem NiAVObject.objectsOf_mapFlagsOf (f : Bytes → Bool → Bool) (children : List NiAVObject) :
    NiAVObject.objectsOf (NiAVObject.mapFlagsOf f children) = (NiAVObject.objectsOf children).map (fun p => (p.1, f p.1 p.2)) := by
  cases children with
  | nil => rfl
  | cons child children =>
    rw [NiAVObject.mapFlagsOf, NiAVObject.objectsOf, NiAVObject.objectsOf, List.map_append, NiAVObject.objects_mapFlags,
      NiAVObject.objectsOf_mapFlagsOf]

end

mutual

theorem NiAVObject.mapFlags_id (o : NiAVObject) : o.mapFlags (fun _ appCulled => appCulled) = o := by
  cases o with
  | null => rfl
  | geometry name appCulled => rfl
  | node name appCulled children => rw [NiAVObject.mapFlags, NiAVObject.mapFlagsOf_id]

theorem NiAVObject.mapFlagsOf_id (children : List NiAVObject) :
    NiAVObject.mapFlagsOf (fun _ appCulled => appCulled) children = children := by
  cases children with
  | nil => rfl
  | cons child children => rw [NiAVObject.mapFlagsOf, NiAVObject.mapFlags_id, NiAVObject.mapFlagsOf_id]

end

mutual

/-- Flags computed twice. -/
theorem NiAVObject.mapFlags_mapFlags (f g : Bytes → Bool → Bool) (o : NiAVObject) :
    (o.mapFlags f).mapFlags g = o.mapFlags (fun name appCulled => g name (f name appCulled)) := by
  cases o with
  | null => rfl
  | geometry name appCulled => rfl
  | node name appCulled children =>
    rw [NiAVObject.mapFlags, NiAVObject.mapFlags, NiAVObject.mapFlags, NiAVObject.mapFlagsOf_mapFlagsOf]

theorem NiAVObject.mapFlagsOf_mapFlagsOf (f g : Bytes → Bool → Bool) (children : List NiAVObject) :
    NiAVObject.mapFlagsOf g (NiAVObject.mapFlagsOf f children) =
      NiAVObject.mapFlagsOf (fun name appCulled => g name (f name appCulled)) children := by
  cases children with
  | nil => rfl
  | cons child children =>
    rw [NiAVObject.mapFlagsOf, NiAVObject.mapFlagsOf, NiAVObject.mapFlagsOf, NiAVObject.mapFlags_mapFlags,
      NiAVObject.mapFlagsOf_mapFlagsOf]

end

namespace DAVProbe

mutual

/-- The probe's walk is a fold over the objects. -/
theorem visitArmorNodes_eq (o : NiAVObject) (m : ActiveAddonMap) :
    visitArmorNodes o m = o.objects.foldl (fun m p => visitName p.1 m) m := by
  cases o with
  | null => rfl
  | geometry name appCulled => rfl
  | node name appCulled children =>
    rw [visitArmorNodes, NiAVObject.objects, List.foldl_cons, visitChildren_eq]

theorem visitChildren_eq (children : List NiAVObject) (m : ActiveAddonMap) :
    visitChildren children m = (NiAVObject.objectsOf children).foldl (fun m p => visitName p.1 m) m := by
  cases children with
  | nil => rfl
  | cons child children =>
    rw [visitChildren, NiAVObject.objectsOf, List.foldl_append, visitArmorNodes_eq, visitChildren_eq]

end

/-- The addon that a name gives to an armor. -/
def addonOf (armo : FormID) (name : Bytes) : Option FormID :=
  (parseArmorNode name).bind fun r => if r.2 = armo then some r.1 else none

theorem addonOf_eq_some {armo arma : FormID} {name : Bytes} :
    addonOf armo name = some arma ↔ parseArmorNode name = some (arma, armo) := by
  rw [addonOf, Option.bind_eq_some_iff]
  constructor
  · rintro ⟨⟨x, y⟩, hparse, hif⟩
    split at hif
    · rename_i hy
      rw [hparse, ← Option.some.inj hif, ← show y = armo from hy]
    · cases hif
  · intro hparse
    exact ⟨(arma, armo), hparse, if_pos rfl⟩

/-- What one object adds to the addons of an armor. -/
theorem lookup_visitName (name : Bytes) (m : ActiveAddonMap) (armo : FormID) :
    ((visitName name m).lookup armo).getD [] = (m.lookup armo).getD [] ++ (addonOf armo name).toList := by
  unfold visitName addonOf
  cases name with
  | nil =>
    have hnil : parseArmorNode [] = none := rfl
    simp [hnil]
  | cons b name =>
    rw [if_neg (by simp)]
    cases parseArmorNode (b :: name) with
    | none => simp
    | some r =>
      obtain ⟨arma, armo'⟩ := r
      dsimp only [Option.bind_some]
      by_cases h : armo' = armo
      · rw [h, AList.lookup_insert, if_pos rfl]
        rfl
      · rw [AList.lookup_insert_ne (Ne.symm h), if_neg h]
        simp

/-- The walk adds to each armor the addons of the objects that render it, in order. -/
theorem lookup_visitArmorNodes (o : NiAVObject) (m : ActiveAddonMap) (armo : FormID) :
    ((visitArmorNodes o m).lookup armo).getD [] = (m.lookup armo).getD [] ++ o.objects.filterMap (fun p => addonOf armo p.1) := by
  rw [visitArmorNodes_eq]
  induction o.objects generalizing m with
  | nil => simp
  | cons p objects ih =>
    rw [List.foldl_cons, ih, lookup_visitName, List.append_assoc, List.filterMap_cons]
    cases addonOf armo p.1 <;> rfl

end DAVProbe

namespace DAVRemoteApplier

/-- The name of the object says that it renders the armor. -/
def rendersArmor (armorFormID : FormID) (name : Bytes) : Bool := (parseArmorNode name).any (fun r => r.2 == armorFormID)

/-- A name without text renders nothing. -/
theorem rendersArmor_nil (armorFormID : FormID) : rendersArmor armorFormID [] = false := rfl

/-- The flag after the walk: the new one where the armor is rendered, the old one elsewhere. -/
def setFlag (armorFormID : FormID) (cull : Bool) (name : Bytes) (appCulled : Bool) : Bool :=
  if rendersArmor armorFormID name then cull else appCulled

/-- An object is counted when the walk changes its flag. -/
theorem cullFlag_eq (armorFormID : FormID) (cull : Bool) (name : Bytes) (appCulled : Bool) (n : Nat) :
    cullFlag armorFormID cull name appCulled n = (setFlag armorFormID cull name appCulled,
      n + if appCulled != setFlag armorFormID cull name appCulled then 1 else 0) := by
  unfold cullFlag setFlag
  cases name with
  | nil => simp [rendersArmor_nil]
  | cons b name =>
    rw [if_neg (by simp), rendersArmor]
    cases parseArmorNode (b :: name) with
    | none => simp
    | some r =>
      obtain ⟨arma, armo⟩ := r
      by_cases h : armo = armorFormID
      · by_cases hc : appCulled = cull <;> simp [h, hc]
      · simp [h]

/-- The number of objects whose flag the walk changes. -/
def changed (armorFormID : FormID) (cull : Bool) (objects : List (Bytes × Bool)) : Nat :=
  objects.countP (fun p => p.2 != setFlag armorFormID cull p.1 p.2)

mutual

/-- The applier's walk sets the flags of the objects that render the armor, and counts those it changes. -/
theorem fallbackCull_eq (armorFormID : FormID) (cull : Bool) (o : NiAVObject) (n : Nat) :
    fallbackCull armorFormID cull o n = (o.mapFlags (setFlag armorFormID cull), n + changed armorFormID cull o.objects) := by
  cases o with
  | null => rfl
  | geometry name appCulled =>
    rw [fallbackCull, cullFlag_eq, NiAVObject.mapFlags, NiAVObject.objects, changed, List.countP_singleton]
  | node name appCulled children =>
    rw [fallbackCull, cullFlag_eq, cullChildren_eq, NiAVObject.mapFlags, NiAVObject.objects, changed, changed, List.countP_cons,
      Nat.add_comm (List.countP _ _), Nat.add_assoc]

theorem cullChildren_eq (armorFormID : FormID) (cull : Bool) (children : List NiAVObject) (n : Nat) :
    cullChildren armorFormID cull children n =
      (NiAVObject.mapFlagsOf (setFlag armorFormID cull) children,
        n + changed armorFormID cull (NiAVObject.objectsOf children)) := by
  cases children with
  | nil => rfl
  | cons child children =>
    rw [cullChildren, fallbackCull_eq, cullChildren_eq, NiAVObject.mapFlagsOf, NiAVObject.objectsOf, changed, changed, changed,
      List.countP_append, Nat.add_assoc]

end

/-- The objects after the applier's walk. -/
theorem fallbackCull_objects (armorFormID : FormID) (cull : Bool) (o : NiAVObject) (n : Nat) :
    (fallbackCull armorFormID cull o n).1.objects = o.objects.map (fun p => (p.1, setFlag armorFormID cull p.1 p.2)) := by
  rw [fallbackCull_eq, NiAVObject.objects_mapFlags]

end DAVRemoteApplier

end DAVSyncTogether
