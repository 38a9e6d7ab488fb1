import Mathlib.Data.List.AList
import Mathlib.Data.List.Induction

/-!
# The replay of a log of updates

A log of updates sets and clears the keys of a finite map. What the replay of a log holds at a key is decided by the last
update of the log at that key (`lookup_replay`), so it does not depend on what happens at the other keys, nor on entries that
are left out before the last one at the key (`lookup_replay_filter`). Where a map is only ever added to, the last entry at a key
decides as well (`lookup_foldl_insert`), and a later log has the say over an earlier one (`lastEntry_append`).
-/

/-- One update: a key is given a value, or cleared. -/
inductive Update (κ ν : Type) where
  | set (key : κ) (value : ν)
  | clear (key : κ)

namespace Update

variable {κ ν : Type} [DecidableEq κ]

/-- The key an update is about. -/
def key : Update κ ν → κ
  | set k _ => k
  | clear k => k

/-- What the key holds after the update. -/
def value : Update κ ν → Option ν
  | set _ v => some v
  | clear _ => none

/-- The map after one update. -/
def apply (m : AList (fun _ : κ => ν)) : Update κ ν → AList (fun _ : κ => ν)
  | set k v => m.insert k v
  | clear k => m.erase k

/-- The map a log leaves, from the empty map. -/
def replay (us : List (Update κ ν)) : AList (fun _ : κ => ν) := us.foldl apply ∅

omit [DecidableEq κ] in
@[simp] theorem key_set (k : κ) (v : ν) : (set k v).key = k := rfl

omit [DecidableEq κ] in
@[simp] theorem key_clear (k : κ) : (clear k : Update κ ν).key = k := rfl

/-- An update decides what its key holds. -/
theorem lookup_apply_self (m : AList (fun _ : κ => ν)) (u : Update κ ν) : (apply m u).lookup u.key = u.value := by
  cases u with
  | set k v => exact AList.lookup_insert m
  | clear k => exact AList.lookup_erase k m

/-- An update leaves every other key as it was. -/
theorem lookup_apply_of_ne (m : AList (fun _ : κ => ν)) (u : Update κ ν) {k : κ} (h : u.key ≠ k) :
    (apply m u).lookup k = m.lookup k := by
  cases u with
  | set k' v => exact AList.lookup_insert_ne (Ne.symm h)
  | clear k' => exact AList.lookup_erase_ne (Ne.symm h)

theorem replay_concat (us : List (Update κ ν)) (u : Update κ ν) : replay (us ++ [u]) = apply (replay us) u := by
  simp [replay]

/-- What the replay of a log holds at a key is the value of the last update of the log at that key. -/
theorem lookup_replay (us : List (Update κ ν)) (k : κ) :
    (replay us).lookup k = ((us.filter (fun u => u.key = k)).getLast?).bind value := by
  induction us using List.reverseRecOn with
  | nil => rfl
  | append_singleton us u ih =>
    rw [replay_concat, List.filter_append]
    by_cases h : u.key = k
    · subst h
      rw [lookup_apply_self, List.filter_cons_of_pos (by simp), List.filter_nil, List.getLast?_concat, Option.bind_some]
    · rw [lookup_apply_of_ne _ _ h, ih, List.filter_cons_of_neg (by simpa using h), List.filter_nil, List.append_nil]

/-- Entries of a log may be left out, when the last one at the key is not. -/
theorem lookup_replay_filter {ι : Type} (f : ι → Update κ ν) (log : List ι) (test : ι → Bool) (k : κ)
    (h : ∀ i, (log.filter (fun i => (f i).key = k)).getLast? = some i → test i = true) :
    (replay ((log.filter test).map f)).lookup k = (replay (log.map f)).lookup k := by
  have hkey : ∀ l : List ι, ((l.map f).filter (fun u => u.key = k)).getLast? =
      ((l.filter (fun i => (f i).key = k)).getLast?).map f := by
    intro l
    rw [List.filter_map, List.getLast?_map]
    rfl
  rw [lookup_replay, lookup_replay, hkey, hkey, List.filter_filter]
  simp only [Bool.and_comm (decide _)]
  rw [← List.filter_filter]
  rcases List.eq_nil_or_concat (log.filter fun i => decide ((f i).key = k)) with hnil | ⟨init, i, hlast⟩
  · rw [hnil, List.filter_nil]
  · have hi := h i (by rw [hlast, List.concat_eq_append, List.getLast?_concat])
    rw [hlast, List.concat_eq_append, List.filter_append, List.filter_cons_of_pos hi, List.filter_nil, List.getLast?_concat,
      List.getLast?_concat]

end Update

/-! ## Maps that are added to -/

section

variable {κ ν : Type} [DecidableEq κ]

/-- What the last entry at the key says. -/
def lastEntry (entries : List (κ × ν)) (k : κ) : Option ν := ((entries.filter fun e => e.1 = k).getLast?).map Prod.snd

theorem lastEntry_append (entries later : List (κ × ν)) (k : κ) :
    lastEntry (entries ++ later) k = (lastEntry later k).or (lastEntry entries k) := by
  rw [lastEntry, List.filter_append, List.getLast?_append, Option.map_or]
  rfl

theorem lastEntry_singleton (e : κ × ν) (k : κ) : lastEntry [e] k = if e.1 = k then some e.2 else none := by
  unfold lastEntry
  by_cases h : e.1 = k <;> simp [h]

/-- Entries added to a map one after the other: the last one at a key decides, else the map. -/
theorem lookup_foldl_insert (entries : List (κ × ν)) (m : AList (fun _ : κ => ν)) (k : κ) :
    (entries.foldl (fun m e => m.insert e.1 e.2) m).lookup k = (lastEntry entries k).or (m.lookup k) := by
  induction entries using List.reverseRecOn with
  | nil => rfl
  | append_singleton entries e ih =>
    rw [List.foldl_concat, lastEntry_append, lastEntry_singleton]
    by_cases h : e.1 = k
    · subst h
      rw [AList.lookup_insert, if_pos rfl, Option.some_or, Option.some_or]
    · rw [AList.lookup_insert_ne (Ne.symm h), ih, if_neg h, Option.none_or]

end
