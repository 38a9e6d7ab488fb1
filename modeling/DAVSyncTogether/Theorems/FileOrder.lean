import DAVSyncTogether.Lemmas.Capturing
import DAVSyncTogether.Lemmas.Choosers
import DAVSyncTogether.Lemmas.Games
import DAVSyncTogether.Lemmas.Loading

/-!
# The order of the files

The walk through the configuration directory meets the files in an order that nobody promises. Seen from one name, loading reads
the variants of that name and no others, one after the other (`lookup_load`). So where no two files define variants of one name,
two walks that meet the same files build indexes with the same variants and the same sources (`same_load`), and nothing that the
plugin does with the index depends on the walk (`file_order_irrelevant`).
-/

namespace DAVSyncTogether

open ByteString KeyedFold DAVProbe

/-! ## Reading one name -/

/-- The variant of a name with one more entry of `replaceByForm`. -/
def readFormRule (s : Session) (variant : VariantRule) (entry : Bytes × Json) : VariantRule := (loadFormRule s (variant, {}) entry).1

/-- The variant of a name with one more entry of `replaceBySlot`. -/
def readSlotRule (s : Session) (variant : VariantRule) (entry : Bytes × Json) : VariantRule := (loadSlotRule s (variant, {}) entry).1

/-- The variant of a name after one more variant of the files. -/
def readVariant (s : Session) (name : Bytes) (before : Option VariantRule) (jsonVariant : Json) : Option VariantRule :=
  if jsonVariant.findString (ascii "name") = some name then
    let variant : VariantRule := { before.getD {} with name }
    let variant := { variant with linkTo := (jsonVariant.findString (ascii "linkTo")).getD variant.linkTo }
    let variant :=
      { variant with overrideHead := (jsonVariant.findString (ascii "overrideHead")).getD variant.overrideHead }
    let variant := (jsonVariant.findMembers (ascii "replaceByForm")).foldl (readFormRule s) variant
    some ((jsonVariant.findMembers (ascii "replaceBySlot")).foldl (readSlotRule s) variant)
  else before

/-- The names of the variants of one entry of the walk. -/
def DirectoryEntry.names (entry : DirectoryEntry) : List Bytes := entry.jsonVariants.filterMap (Json.findString (ascii "name"))

section

variable (s : Session)

/-- An entry of `replaceByForm` changes the variant by itself, and no stored variant. -/
theorem loadFormRule_fst (r : VariantRule × DAVConfigIndex) (entry : Bytes × Json) :
    (loadFormRule s r entry).1 = readFormRule s r.1 entry ∧ (loadFormRule s r entry).2.variants = r.2.variants := by
  unfold readFormRule loadFormRule
  cases parseStableForm s entry.1 with
  | none => exact ⟨rfl, rfl⟩
  | some source =>
    dsimp only
    split
    · exact ⟨rfl, rfl⟩
    · split <;> exact ⟨rfl, rfl⟩

/-- An entry of `replaceBySlot` changes the variant by itself, and no stored variant. -/
theorem loadSlotRule_fst (r : VariantRule × DAVConfigIndex) (entry : Bytes × Json) :
    (loadSlotRule s r entry).1 = readSlotRule s r.1 entry ∧ (loadSlotRule s r entry).2.variants = r.2.variants := by
  unfold readSlotRule loadSlotRule
  cases Hex.stoul entry.1 10 with
  | none => exact ⟨rfl, rfl⟩
  | some read =>
    dsimp only
    split <;> exact ⟨rfl, rfl⟩

/-- A loop over the entries of a table changes the variant by itself, and no stored variant. -/
theorem foldl_rules {loadRule : VariantRule × DAVConfigIndex → Bytes × Json → VariantRule × DAVConfigIndex}
    {readRule : VariantRule → Bytes × Json → VariantRule}
    (h : ∀ r entry, (loadRule r entry).1 = readRule r.1 entry ∧ (loadRule r entry).2.variants = r.2.variants)
    (entries : List (Bytes × Json)) (r : VariantRule × DAVConfigIndex) :
    (entries.foldl loadRule r).1 = entries.foldl readRule r.1 ∧ (entries.foldl loadRule r).2.variants = r.2.variants := by
  induction entries generalizing r with
  | nil => exact ⟨rfl, rfl⟩
  | cons entry entries ih =>
    obtain ⟨hvariant, hindex⟩ := ih (loadRule r entry)
    rw [List.foldl_cons, List.foldl_cons, hvariant, hindex, (h r entry).1, (h r entry).2]
    exact ⟨rfl, rfl⟩

/-- Seen from one name, a variant of the files is read when it has the name. -/
theorem lookup_loadVariant (name : Bytes) (index : DAVConfigIndex) (jsonVariant : Json) :
    (loadVariant s index jsonVariant).variants.lookup name = readVariant s name (index.variants.lookup name) jsonVariant := by
  unfold loadVariant readVariant
  cases hname : jsonVariant.findString (ascii "name") with
  | none => rfl
  | some read =>
    dsimp only
    rw [(foldl_rules (loadSlotRule_fst s) _ _).2, (foldl_rules (loadFormRule_fst s) _ _).2]
    by_cases h : read = name
    · subst h
      rw [if_pos rfl, AList.lookup_insert, (foldl_rules (loadSlotRule_fst s) _ _).1, (foldl_rules (loadFormRule_fst s) _ _).1]
    · rw [if_neg fun hc => h (Option.some.inj hc), AList.lookup_insert_ne (Ne.symm h)]

/-! ## Reading the files -/

/-- Seen from one name, loading reads the variants of the name in all files, in order. -/
theorem lookup_load (root : Option (List DirectoryEntry)) (name : Bytes) :
    (load s root).variants.lookup name =
      (((root.getD []).flatMap DirectoryEntry.jsonVariants).filter
        fun jsonVariant => jsonVariant.findString (ascii "name") = some name).foldl (readVariant s name) none := by
  have hview : ∀ (index : DAVConfigIndex) (jsonVariants : List Json),
      jsonVariants.foldl (readVariant s name) (index.variants.lookup name) =
        (jsonVariants.foldl (loadVariant s) index).variants.lookup name := fun index jsonVariants =>
    List.foldl_hom (fun index : DAVConfigIndex => index.variants.lookup name)
      fun index jsonVariant => (lookup_loadVariant s name index jsonVariant).symm
  have hothers : (fun before jsonVariant => if decide (jsonVariant.findString (ascii "name") = some name) = true then
      readVariant s name before jsonVariant else before) = readVariant s name := by
    funext before jsonVariant
    unfold readVariant
    by_cases h : jsonVariant.findString (ascii "name") = some name
    · rw [if_pos (decide_eq_true h)]
    · rw [if_neg (by simpa using h), if_neg h]
  rw [load_eq, ← hview, List.foldl_filter, hothers]
  rfl

/-! ## Walks over the same files -/

/-- Two indexes with the same variants under the same names, and the same sources. -/
structure DAVConfigIndex.Same (x y : DAVConfigIndex) : Prop where
  loaded : x.loaded = y.loaded
  variants : ∀ name, x.variants.lookup name = y.variants.lookup name
  sourceArmorAddons : x.sourceArmorAddons = y.sourceArmorAddons
  sourceSlots : x.sourceSlots = y.sourceSlots

/-- No two entries of the walk define variants of one name. -/
def NamesApart (root : List DirectoryEntry) : Prop := root.Pairwise fun a b => ∀ name ∈ a.names, name ∉ b.names

/-- A walk that meets the same files in another order builds the same index. -/
theorem same_load {root root' : List DirectoryEntry} (hperm : root.Perm root') (happart : NamesApart root) :
    (load s (some root)).Same (load s (some root')) := by
  have hvariants : ∀ name, (load s (some root)).variants.lookup name = (load s (some root')).variants.lookup name := by
    intro name
    rw [lookup_load, lookup_load, Option.getD_some, Option.getD_some, List.filter_flatMap, List.filter_flatMap]
    congr 1
    refine flatMap_eq_of_perm hperm (happart.imp fun {a b} hab => ?_)
    -- An entry without the name has no variant to read.
    have hnone : ∀ e : DirectoryEntry, name ∉ e.names →
        (e.jsonVariants.filter fun jsonVariant => jsonVariant.findString (ascii "name") = some name) = [] := by
      intro e he
      refine List.filter_eq_nil_iff.mpr fun jsonVariant hjson => ?_
      simp only [decide_eq_true_eq]
      exact fun hname => he (List.mem_filterMap.mpr ⟨jsonVariant, hjson, hname⟩)
    by_cases ha : name ∈ a.names
    · exact Or.inr (hnone b (hab name ha))
    · exact Or.inl (hnone a ha)
  have hinvariant := load_invariant s (some root)
  have hinvariant' := load_invariant s (some root')
  refine ⟨(load_loaded s _).trans (load_loaded s _).symm, hvariants, ?_, ?_⟩
  · ext k
    rw [hinvariant.addons, hinvariant'.addons]
    simp only [hvariants]
  · ext slot
    rw [hinvariant.slots, hinvariant'.slots]
    simp only [hvariants]

end

/-! ## What is done with the index -/

namespace DAVConfigIndex.Same

variable {x y : DAVConfigIndex} (h : x.Same y) (s : Session) (armor : WornArmorState)

include h

theorem findMatchingVariants_eq : x.findMatchingVariants s armor = y.findMatchingVariants s armor := by
  have : Std.Irrefl (fun a b : Bytes => a < b) := ⟨lt_irrefl⟩
  refine List.Pairwise.eq_of_mem_iff (pairwise_findMatchingVariants s x armor) (pairwise_findMatchingVariants s y armor) fun name => ?_
  cases hloaded : y.loaded with
  | false => simp only [findMatchingVariants, h.loaded, hloaded, Bool.not_false, if_true]
  | true =>
    have hloaded' := h.loaded.trans hloaded
    cases hv : armor.visualState with
    | unknown => simp only [findMatchingVariants, hloaded, hloaded', hv]
    | visible => simp only [findMatchingVariants, hloaded, hloaded', hv]
    | hidden => rw [mem_findMatchingVariants_hidden hloaded' hv, mem_findMatchingVariants_hidden hloaded hv, h.variants]
    | replaced => rw [mem_findMatchingVariants_replaced hloaded' hv, mem_findMatchingVariants_replaced hloaded hv, h.variants]

theorem isArmorRelevant_eq : x.isArmorRelevant s armor = y.isArmorRelevant s armor := by
  have htouches : x.touches s = y.touches s := by
    funext base
    unfold touches
    rw [h.sourceArmorAddons, h.sourceSlots]
  rw [isArmorRelevant, isArmorRelevant, h.findMatchingVariants_eq, htouches]

theorem reordered : x.Reordered y := fun name => h.variants name ▸ DAVConfigIndex.Reordered.refl x name

theorem selectVariant_eq : selectVariant s x armor = selectVariant s y armor := by
  have hnodup := (pairwise_findMatchingVariants s y armor).imp fun hlt => ne_of_lt hlt
  unfold selectVariant
  rw [h.findMatchingVariants_eq]
  generalize y.findMatchingVariants s armor = candidates at hnodup
  have hhidden : x.choosePreferredHiddenVariant s armor candidates = y.choosePreferredHiddenVariant s armor candidates :=
    choosePreferredHiddenVariant_reordered h.reordered (List.Perm.refl candidates)
  have hreplaced : x.choosePreferredReplacedVariant s armor candidates = y.choosePreferredReplacedVariant s armor candidates :=
    choosePreferredReplacedVariant_reordered h.reordered (List.Perm.refl candidates) hnodup
  rcases candidates with _ | ⟨first, _ | ⟨second, rest⟩⟩
  · rfl
  · rfl
  · simp only [hhidden, hreplaced]

theorem sendArmorState_eq (service : DAVNetworkService) (variant : Bytes) (unequipped : Bool) :
    sendArmorState s x service armor variant unequipped = sendArmorState s y service armor variant unequipped := by
  rw [sendArmorState, sendArmorState, h.isArmorRelevant_eq]

/-- The comparison asks the index for nothing else. -/
theorem logSnapshotDiff_eq (w : Surroundings) (p : State) (current : DAVStateSnapshot) :
    logSnapshotDiff s x w p current = logSnapshotDiff s y w p current := by
  have hsend : ∀ d armor variant unequipped, Diff.send s x w d armor variant unequipped = Diff.send s y w d armor variant unequipped := by
    intro d armor variant unequipped
    rw [Diff.send, Diff.send, h.sendArmorState_eq]
  have hcurrent : diffCurrent s x w = diffCurrent s y w := by
    funext hasPrevious previousByForm d armor
    unfold diffCurrent
    simp only [h.selectVariant_eq, hsend]
  have hprevious : diffPrevious s x w = diffPrevious s y w := by
    funext currentForms d armor
    unfold diffPrevious
    simp only [hsend]
  rw [logSnapshotDiff, logSnapshotDiff, hcurrent, hprevious]

end DAVConfigIndex.Same

/-- Where no two files of the configuration define variants of one name, the order in which the walk meets the files does not matter:
the probe runs alike, over whatever it meets, and every armor is selected the same variant. -/
theorem file_order_irrelevant (s : Session) {root root' : List DirectoryEntry} (hperm : root.Perm root') (happart : NamesApart root) :
    liveProbe s (load s (some root)) = liveProbe s (load s (some root')) ∧
      ∀ armor, selectVariant s (load s (some root)) armor = selectVariant s (load s (some root')) armor ∧
        (load s (some root)).isArmorRelevant s armor = (load s (some root')).isArmorRelevant s armor := by
  have h := same_load s hperm happart
  refine ⟨?_, fun armor => ⟨h.selectVariant_eq s armor, h.isArmorRelevant_eq s armor⟩⟩
  unfold liveProbe
  congr 1
  funext p look
  unfold tickOnGameThread gatedSnapshot processSnapshot
  simp only [h.logSnapshotDiff_eq s]

/-- A configuration file with the given content. -/
def configFile (json : Json) : DirectoryEntry := { isRegularFile := true, extension := ascii ".json", opens := true, json := some json }

/-- The helmet's configuration, and a file with another variant. -/
theorem file_order_irrelevant_helmet :
    liveProbe Helmet.session (load Helmet.session (some [configFile Helmet.config,
      configFile (.object [(ascii "variants", .array [.object [(ascii "name", .string (ascii "ShowHood"))]])])])) =
    liveProbe Helmet.session (load Helmet.session (some [
      configFile (.object [(ascii "variants", .array [.object [(ascii "name", .string (ascii "ShowHood"))]])]),
      configFile Helmet.config])) := by
  refine (file_order_irrelevant Helmet.session (List.Perm.swap _ _ []) ?_).1
  unfold NamesApart
  decide

end DAVSyncTogether
