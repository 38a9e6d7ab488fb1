import DAVSyncTogether.Messaging
import DAVSyncTogether.Lib.Machine

/-!
# The service and its channel

The service is started again and again, before the data is loaded and after every game is loaded, by modules that may be there
or not. It keeps all or nothing of what a start is given (`ServiceState.Whole`), and holds one listener while it runs, and none
otherwise (`listeners_eq`).
-/

namespace DAVSyncTogether

/-- The listeners that are registered after some calls. -/
def listeners (calls : List ChannelCall) : List UInt64 :=
  calls.foldl (fun registered call =>
    match call with
    | .registered listener => registered ++ [listener]
    | .unregistered listener => registered.erase listener) []

theorem listeners_concat_registered (calls : List ChannelCall) (listener : UInt64) :
    listeners (calls ++ [.registered listener]) = listeners calls ++ [listener] := by
  simp [listeners]

theorem listeners_concat_unregistered (calls : List ChannelCall) (listener : UInt64) :
    listeners (calls ++ [.unregistered listener]) = (listeners calls).erase listener := by
  simp [listeners]

/-- A service that runs has the interface and a listener; one that does not is as it was before the first start. -/
structure ServiceState.Whole (st : ServiceState) : Prop where
  running : st.running = true → st.api = true ∧ st.listener ≠ 0
  stopped : st.running = false → st = {}

/-- The module gives every listener a handle other than 0. -/
def STRPMModule.GivesHandle (m : STRPMModule) : Prop := m.registerChannel.1 = .ok → m.registerChannel.2 ≠ 0

section

variable {st : ServiceState} {calls : List ChannelCall}

/-- The service is whole, and its listener is the one that is registered. -/
structure ServiceState.Holds (st : ServiceState) (calls : List ChannelCall) : Prop extends st.Whole where
  listeners : listeners calls = if st.running then [st.listener] else []

/-- A start keeps it, when the module gives handles other than 0. -/
theorem ServiceState.Holds.start (h : st.Holds calls) {m : STRPMModule} (hm : m.GivesHandle) :
    (st.start m).1.Holds (calls ++ (st.start m).2) := by
  unfold ServiceState.start
  split
  · rwa [List.append_nil]
  · rename_i hrunning
    have hempty := h.stopped (by simpa using hrunning)
    subst hempty
    have hlisteners : DAVSyncTogether.listeners calls = [] := h.listeners
    split
    · rw [List.append_nil]
      exact ⟨⟨nofun, fun _ => rfl⟩, hlisteners⟩
    · dsimp only
      split
      · rw [List.append_nil]
        exact ⟨⟨nofun, fun _ => rfl⟩, hlisteners⟩
      · rename_i hresult
        refine ⟨⟨fun _ => ⟨rfl, hm (not_not.mp hresult)⟩, nofun⟩, ?_⟩
        rw [listeners_concat_registered, hlisteners]
        rfl

/-- A stop keeps it. -/
theorem ServiceState.Holds.stop (h : st.Holds calls) : st.stop.1.Holds (calls ++ st.stop.2) := by
  unfold ServiceState.stop
  cases hrunning : st.running with
  | false => rwa [if_pos Bool.not_false, List.append_nil]
  | true =>
    obtain ⟨hapi, hlistener⟩ := h.running hrunning
    have hlisteners := h.listeners
    rw [if_pos hrunning] at hlisteners
    rw [if_neg (by decide), hapi]
    refine ⟨⟨nofun, fun _ => rfl⟩, ?_⟩
    dsimp only
    rw [if_pos (by simpa using hlistener), listeners_concat_unregistered, hlisteners, List.erase_cons_head]
    rfl

end

end DAVSyncTogether
