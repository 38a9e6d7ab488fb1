import DAVSyncTogether.Lib.Replay
import DAVSyncTogether.Theorems.FileOrder

/-!
# One variant in several files

A variant may be spread over files, and a file may say the same thing twice. What `Load` makes of it is a merge in which the last
word counts (`load_merges`): for each form and each slot the rule that comes last among the variants of the name, in the order
of the walk, of the file and of the table; an entry that names no form, lists no addon or names no biped slot is as if it were
not there.
-/

namespace DAVSyncTogether

open ByteString

/-- The rule that an entry of `replaceByForm` gives. -/
def formRule (s : Session) (entry : Bytes × Json) : Option (Bytes × List FormIdentity) :=
  (parseStableForm s entry.1).bind fun source =>
    if source.isStable = true ∧ readReplacementList s entry.2 ≠ [] then
      some (source.stableKey, sortAndUnique (readReplacementList s entry.2))
    else none

/-- The rule that an entry of `replaceBySlot` gives. -/
def slotRule (s : Session) (entry : Bytes × Json) : Option (UInt32 × List FormIdentity) :=
  (Hex.stoul entry.1 10).bind fun read =>
    if (30 : UInt32) ≤ read.1 ∧ read.1 ≤ 61 then some (read.1, sortAndUnique (readReplacementList s entry.2)) else none

/-- The last text under a key of some variants. -/
def lastText (key : Bytes) (jsonVariants : List Json) : Bytes := ((jsonVariants.filterMap (Json.findString key)).getLast?).getD []

/-- The rules that a table of some variants gives, in order. -/
def rulesOf {κ : Type} (rule : Bytes × Json → Option (κ × List FormIdentity)) (table : Bytes) (jsonVariants : List Json) :
    List (κ × List FormIdentity) :=
  (jsonVariants.flatMap (Json.findMembers table)).filterMap rule

/-- A variant that says what the last words of some variants of the files say. -/
structure VariantRule.Merges (s : Session) (jsonVariants : List Json) (variant : VariantRule) : Prop where
  linkTo : variant.linkTo = lastText (ascii "linkTo") jsonVariants
  overrideHead : variant.overrideHead = lastText (ascii "overrideHead") jsonVariants
  replaceByForm : ∀ k, variant.replaceByForm.lookup k = lastEntry (rulesOf (formRule s) (ascii "replaceByForm") jsonVariants) k
  replaceBySlot : ∀ slot, variant.replaceBySlot.lookup slot = lastEntry (rulesOf (slotRule s) (ascii "replaceBySlot") jsonVariants) slot

/-! ## One more variant -/

theorem lastText_concat (key : Bytes) (jsonVariants : List Json) (jsonVariant : Json) :
    lastText key (jsonVariants ++ [jsonVariant]) = (jsonVariant.findString key).getD (lastText key jsonVariants) := by
  rw [lastText, Machine.filterMap_concat]
  cases jsonVariant.findString key with
  | none => rw [Option.toList_none, List.append_nil, Option.getD_none, lastText]
  | some text => rw [Option.toList_some, List.getLast?_concat, Option.getD_some, Option.getD_some]

theorem rulesOf_concat {κ : Type} (rule : Bytes × Json → Option (κ × List FormIdentity)) (table : Bytes) (jsonVariants : List Json)
    (jsonVariant : Json) :
    rulesOf rule table (jsonVariants ++ [jsonVariant]) =
      rulesOf rule table jsonVariants ++ (jsonVariant.findMembers table).filterMap rule := by
  rw [rulesOf, List.flatMap_append, List.flatMap_singleton, List.filterMap_append, rulesOf]

section

variable (s : Session)

/-- An entry of `replaceByForm` adds its rule, if it gives one. -/
theorem readFormRule_eq (variant : VariantRule) (entry : Bytes × Json) :
    readFormRule s variant entry =
      { variant with replaceByForm := ((formRule s entry).toList).foldl (fun m e => m.insert e.1 e.2) variant.replaceByForm } := by
  unfold readFormRule loadFormRule formRule
  cases parseStableForm s entry.1 with
  | none => rfl
  | some source =>
    rw [Option.bind_some]
    cases hstable : source.isStable with
    | false => simp [hstable]
    | true =>
      cases hlist : readReplacementList s entry.2 with
      | nil => simp [hstable]
      | cons i l => simp [hstable]

/-- An entry of `replaceBySlot` adds its rule, if it gives one. -/
theorem readSlotRule_eq (variant : VariantRule) (entry : Bytes × Json) :
    readSlotRule s variant entry =
      { variant with replaceBySlot := ((slotRule s entry).toList).foldl (fun m e => m.insert e.1 e.2) variant.replaceBySlot } := by
  unfold readSlotRule loadSlotRule slotRule
  cases Hex.stoul entry.1 10 with
  | none => rfl
  | some read =>
    rw [Option.bind_some]
    by_cases hslot : (30 : UInt32) ≤ read.1 ∧ read.1 ≤ 61
    · have hin : (decide (read.1 < 30) || decide (61 < read.1)) = false := by simpa using hslot
      simp [hslot, hin]
    · have hout : (decide (read.1 < 30) || decide (61 < read.1)) = true := by
        simp only [Bool.or_eq_true, decide_eq_true_eq]
        by_contra h
        rw [not_or, not_lt, not_lt] at h
        exact hslot h
      simp [hslot, hout]

/-- A table of forms adds its rules. -/
theorem foldl_readFormRule (entries : List (Bytes × Json)) (variant : VariantRule) :
    entries.foldl (readFormRule s) variant =
      { variant with replaceByForm := (entries.filterMap (formRule s)).foldl (fun m e => m.insert e.1 e.2) variant.replaceByForm } := by
  induction entries generalizing variant with
  | nil => rfl
  | cons entry entries ih =>
    rw [List.foldl_cons, ih, readFormRule_eq, List.filterMap_cons]
    cases formRule s entry <;> rfl

/-- A table of slots adds its rules. -/
theorem foldl_readSlotRule (entries : List (Bytes × Json)) (variant : VariantRule) :
    entries.foldl (readSlotRule s) variant =
      { variant with replaceBySlot := (entries.filterMap (slotRule s)).foldl (fun m e => m.insert e.1 e.2) variant.replaceBySlot } := by
  induction entries generalizing variant with
  | nil => rfl
  | cons entry entries ih =>
    rw [List.foldl_cons, ih, readSlotRule_eq, List.filterMap_cons]
    cases slotRule s entry <;> rfl

/-- The variant before anything is read merges nothing. -/
theorem VariantRule.merges_nil : ({} : VariantRule).Merges s [] :=
  ⟨rfl, rfl, fun _ => AList.lookup_empty _, fun _ => AList.lookup_empty _⟩

/-- A variant read on top of others has the say over them. -/
theorem readVariant_merges {name : Bytes} {before : Option VariantRule} {jsonVariants : List Json} {jsonVariant : Json}
    (hname : jsonVariant.findString (ascii "name") = some name) (h : (before.getD {}).Merges s jsonVariants) :
    ∃ variant, readVariant s name before jsonVariant = some variant ∧ variant.name = name ∧
      variant.Merges s (jsonVariants ++ [jsonVariant]) := by
  unfold readVariant
  rw [if_pos hname]
  dsimp only
  rw [foldl_readFormRule, foldl_readSlotRule]
  refine ⟨_, rfl, rfl, ?_, ?_, fun k => ?_, fun slot => ?_⟩
  · rw [lastText_concat, ← h.linkTo]
  · rw [lastText_concat, ← h.overrideHead]
  · dsimp only
    rw [lookup_foldl_insert, rulesOf_concat, lastEntry_append, ← h.replaceByForm]
  · dsimp only
    rw [lookup_foldl_insert, rulesOf_concat, lastEntry_append, ← h.replaceBySlot]

/-- Variants of one name, read one after the other, are merged. -/
theorem foldl_readVariant {name : Bytes} {jsonVariants : List Json}
    (hnames : ∀ jsonVariant ∈ jsonVariants, jsonVariant.findString (ascii "name") = some name) :
    let read := jsonVariants.foldl (readVariant s name) none
    (read.getD {}).Merges s jsonVariants ∧ (read = none ↔ jsonVariants = []) ∧ ∀ variant, read = some variant → variant.name = name := by
  induction jsonVariants using List.reverseRecOn with
  | nil => exact ⟨VariantRule.merges_nil s, by simp, nofun⟩
  | append_singleton jsonVariants jsonVariant ih =>
    have hbefore := (ih fun j hj => hnames j (List.mem_append_left _ hj)).1
    obtain ⟨variant, hread, hname, hmerges⟩ := readVariant_merges s (hnames jsonVariant (by simp)) hbefore
    dsimp only
    rw [List.foldl_concat, hread]
    refine ⟨hmerges, by simp, fun other hother => ?_⟩
    cases hother
    exact hname

/-- Whatever the files of the configuration say: there is a variant of a name exactly when some file defines one; it stands under its
name, and for each of its texts, each form and each slot it says what the last of the files' variants of that name that says
anything about it says, and nothing else. -/
theorem load_merges (root : Option (List DirectoryEntry)) (name : Bytes) :
    let jsonVariants := ((root.getD []).flatMap DirectoryEntry.jsonVariants).filter
      fun jsonVariant => jsonVariant.findString (ascii "name") = some name
    ((load s root).variants.lookup name = none ↔ jsonVariants = []) ∧
      ∀ variant, (load s root).variants.lookup name = some variant → variant.name = name ∧ variant.Merges s jsonVariants := by
  dsimp only
  rw [lookup_load]
  have hnames : ∀ jsonVariant ∈ ((root.getD []).flatMap DirectoryEntry.jsonVariants).filter
      fun jsonVariant => jsonVariant.findString (ascii "name") = some name, jsonVariant.findString (ascii "name") = some name := by
    intro jsonVariant hmem
    simpa using (List.mem_filter.mp hmem).2
  obtain ⟨hmerges, hnone, hname⟩ := foldl_readVariant s hnames
  refine ⟨hnone, fun variant hvariant => ⟨hname variant hvariant, ?_⟩⟩
  rw [hvariant] at hmerges
  exact hmerges

end

end DAVSyncTogether
