import DAVSyncTogether.Lemmas.Walk

/-!
# One call of `Apply`

What a call that finds the 3D of the proxy leaves behind: the 3D is still there (`apply_shown`), and DAV's script was called
at most once (`apply_papyrusCalls`), by the call that `papyrusCall` reads off the state.
-/

namespace DAVSyncTogether

namespace DAVRemoteApplier

@[simp] theorem recordCall_object3D (actor : ProxyActor) (dispatched : Bool) (call : PapyrusCall) :
    (recordCall actor dispatched call).object3D = actor.object3D := by
  unfold recordCall
  split <;> rfl

@[simp] theorem applyFallback_object3D (actor : ProxyActor) (armor : FormID) (cull : Bool) (result : RemoteApplyResult) :
    (applyFallback actor armor cull result).1.object3D = (fallbackCull armor cull actor.object3D result.fallbackNodes).1 := rfl

/-- DAV is never asked for a variant without a name. -/
theorem supported_and_dispatched (vm : VirtualMachine) (variant : Bytes) :
    (!variant.isEmpty && dispatchApplyVariant vm variant) = dispatchApplyVariant vm variant := by
  cases variant <;> simp [dispatchApplyVariant]

/-- The call of DAV's script that a state leads to: its variant on the proxy, or the reset of its armor, when that is
dispatched. -/
def papyrusCall (s : Session) (vm : VirtualMachine) (state : RemoteArmorState) : Option PapyrusCall :=
  (resolvedArmor s state).bind fun armor =>
    match state.state with
    | .hidden | .replaced => if dispatchApplyVariant vm state.variant then some (.applyVariant state.variant) else none
    | .visible | .unequipped => if dispatchResetVariant vm then some (.resetVariant armor.formID) else none

/-- A walk leaves a tree that is there. -/
theorem fallbackCull_ne_null {o : NiAVObject} (h : o ≠ .null) (armor : FormID) (cull : Bool) (n : Nat) :
    (fallbackCull armor cull o n).1 ≠ .null := by
  cases o with
  | null => exact absurd rfl h
  | geometry => exact nofun
  | node => exact nofun

@[simp] theorem recordCall_papyrusCalls (actor : ProxyActor) (dispatched : Bool) (call : PapyrusCall) :
    (recordCall actor dispatched call).papyrusCalls = actor.papyrusCalls ++ (if dispatched then some call else none).toList := by
  unfold recordCall
  split
  · rfl
  · simp

@[simp] theorem applyFallback_papyrusCalls (actor : ProxyActor) (armor : FormID) (cull : Bool) (result : RemoteApplyResult) :
    (applyFallback actor armor cull result).1.papyrusCalls = actor.papyrusCalls := rfl

section

variable {s : Session} {vm : VirtualMachine} {actor : ProxyActor} {state : RemoteArmorState} (h : actor.object3D ≠ .null)

include h

/-- A call leaves the 3D of the proxy there. -/
theorem apply_shown : (apply s vm actor state).1.object3D ≠ .null := by
  have hcull := fun cull => fallbackCull_ne_null h state.armor.runtimeFormID cull 0
  unfold apply
  split
  · exact h
  · exact h
  · cases state.state <;> dsimp only <;> split
    all_goals simp only [recordCall_object3D, applyFallback_object3D, ne_eq]
    all_goals first | exact h | exact hcull _

/-- A call makes the one call of DAV's script, or none. -/
theorem apply_papyrusCalls :
    (apply s vm actor state).1.papyrusCalls = actor.papyrusCalls ++ (papyrusCall s vm state).toList := by
  unfold apply papyrusCall
  cases hres : resolvedArmor s state with
  | none =>
    split
    · simp
    · simp
    · rename_i hsome _
      cases hsome
  | some armor =>
    split
    · rename_i hnull
      exact absurd hnull h
    · rename_i hnone _
      cases hnone
    · rename_i hsome _
      cases hsome
      rw [Option.bind_some]
      cases state.state <;> dsimp only <;> split <;> simp [supported_and_dispatched]

end

end DAVRemoteApplier

end DAVSyncTogether
