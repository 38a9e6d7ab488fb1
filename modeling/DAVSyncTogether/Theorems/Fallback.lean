import DAVSyncTogether.Theorems.Cull

/-!
# What the node fallback touches

The fallback sets the flags of the nodes of one armor, the same nodes that the probe attributes to it, and nothing else
(`fallback_culls_exactly`). `Apply` does not use it for an armor that covers head or hair.
-/

namespace DAVSyncTogether

open ByteString

namespace DAVRemoteApplier

/-- The number of objects whose flags differ between a tree and the tree it became. -/
def flagChanges (o o' : NiAVObject) : Nat := (o.objects.zip o'.objects).countP (fun q => q.1.2 != q.2.2)

/-- The walk counts the objects whose flags it changes. -/
theorem changed_eq_flagChanges (armorFormID : FormID) (cull : Bool) (o : NiAVObject) :
    changed armorFormID cull o.objects = flagChanges o (o.mapFlags (setFlag armorFormID cull)) := by
  rw [flagChanges, NiAVObject.objects_mapFlags, changed]
  induction o.objects with
  | nil => rfl
  | cons p objects ih => rw [List.countP_cons, ih, List.map_cons, List.zip_cons_cons, List.countP_cons]

/-- A flag that was set stays as it is. -/
theorem setFlag_setFlag (armorFormID : FormID) (cull : Bool) (name : Bytes) (appCulled : Bool) :
    setFlag armorFormID cull name (setFlag armorFormID cull name appCulled) = setFlag armorFormID cull name appCulled := by
  unfold setFlag
  cases rendersArmor armorFormID name <;> rfl

/-- The second walk finds nothing to change. -/
theorem fallbackCull_fallbackCull (armorFormID : FormID) (cull : Bool) (o : NiAVObject) (n m : Nat) :
    fallbackCull armorFormID cull (fallbackCull armorFormID cull o n).1 m = ((fallbackCull armorFormID cull o n).1, m) := by
  have hcount : changed armorFormID cull (fallbackCull armorFormID cull o n).1.objects = 0 := by
    rw [fallbackCull_objects, changed, List.countP_map, List.countP_eq_zero]
    intro p _
    simp [setFlag_setFlag]
  have htree : (fallbackCull armorFormID cull o n).1.mapFlags (setFlag armorFormID cull) = (fallbackCull armorFormID cull o n).1 := by
    rw [fallbackCull_eq, NiAVObject.mapFlags_mapFlags]
    congr 1
    funext name appCulled
    exact setFlag_setFlag armorFormID cull name appCulled
  rw [fallbackCull_eq armorFormID cull _ m, hcount, htree, Nat.add_zero]

/-- Both parsers read a name alike, so the addon that the probe finds is that of a name the applier acts on. -/
theorem addonOf_eq (armorFormID : FormID) (name : Bytes) : DAVProbe.addonOf armorFormID name =
    if rendersArmor armorFormID name then (DAVProbe.parseArmorNode name).map Prod.fst else none := by
  have hparse : DAVProbe.parseArmorNode name = parseArmorNode name := rfl
  rw [DAVProbe.addonOf, rendersArmor, hparse]
  cases parseArmorNode name with
  | none => rfl
  | some r => by_cases h : r.2 = armorFormID <;> simp [h]

/-- On the same tree the probe attributes to an armor the addons of the nodes that the applier acts on. -/
theorem lookup_visitArmorNodes_eq (armorFormID : FormID) (o : NiAVObject) (m : DAVProbe.ActiveAddonMap) :
    ((DAVProbe.visitArmorNodes o m).lookup armorFormID).getD [] = (m.lookup armorFormID).getD [] ++
      (o.objects.filter (fun p => rendersArmor armorFormID p.1)).filterMap
        (fun p => (DAVProbe.parseArmorNode p.1).map Prod.fst) := by
  rw [DAVProbe.lookup_visitArmorNodes, List.filterMap_filter]
  simp only [addonOf_eq]

/-- An armor that covers the head or the hair is not culled, whatever the message and the Papyrus machine. -/
theorem apply_object3D_of_head {s : Session} {actor : ProxyActor} {state : RemoteArmorState} {armor : TESObjectARMO}
    (hres : resolvedArmor s state = some armor) (hhead : armor.slotMask &&& 1 ≠ 0 ∨ armor.slotMask &&& 2 ≠ 0) (vm : VirtualMachine) :
    (apply s vm actor state).1.object3D = actor.object3D := by
  have htouches : armorTouchesHeadOrHair armor = true := by
    have h0 : (1 : UInt32) <<< 0 = 1 := by decide
    have h1 : (1 : UInt32) <<< 1 = 2 := by decide
    simpa [armorTouchesHeadOrHair, hasPartOf, h0, h1] using hhead
  have hobject := apply_object3D s actor { vm, state }
  simp only [fallback, hres, htouches, if_true] at hobject
  exact hobject

/-- On every tree, for every armor and flag: the fallback leaves the tree as it is but for the flags of the objects whose names
parse to the armor, which it sets; it counts the objects whose flags changed; a second walk changes nothing; and the probe
collects for the armor exactly one addon for each of these objects. And `Apply` changes no flag for an armor that covers slot 30
or 31, whatever it is told and whether or not DAV takes the call. -/
theorem fallback_culls_exactly :
    (∀ (armorFormID : FormID) (cull : Bool) (o : NiAVObject) (n : Nat),
      (fallbackCull armorFormID cull o n).1 =
        o.mapFlags (fun name appCulled => if rendersArmor armorFormID name then cull else appCulled) ∧
      (fallbackCull armorFormID cull o n).2 = n + flagChanges o (fallbackCull armorFormID cull o n).1 ∧
      (∀ m, fallbackCull armorFormID cull (fallbackCull armorFormID cull o n).1 m = ((fallbackCull armorFormID cull o n).1, m)) ∧
      ∀ m, ((DAVProbe.visitArmorNodes o m).lookup armorFormID).getD [] = (m.lookup armorFormID).getD [] ++
        (o.objects.filter (fun p => rendersArmor armorFormID p.1)).filterMap
          (fun p => (DAVProbe.parseArmorNode p.1).map Prod.fst)) ∧
    ∀ (s : Session) (vm : VirtualMachine) (actor : ProxyActor) (state : RemoteArmorState) (armor : TESObjectARMO),
      resolvedArmor s state = some armor → armor.slotMask &&& 1 ≠ 0 ∨ armor.slotMask &&& 2 ≠ 0 →
      (apply s vm actor state).1.object3D = actor.object3D := by
  refine ⟨fun armorFormID cull o n => ⟨?_, ?_, fallbackCull_fallbackCull armorFormID cull o n,
    lookup_visitArmorNodes_eq armorFormID o⟩, fun s vm actor state armor hres hhead => apply_object3D_of_head hres hhead vm⟩
  · rw [fallbackCull_eq]
    rfl
  · rw [fallbackCull_eq, changed_eq_flagChanges]

end DAVRemoteApplier

end DAVSyncTogether
