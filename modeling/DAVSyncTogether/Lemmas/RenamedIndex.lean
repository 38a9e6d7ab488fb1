import DAVSyncTogether.Lemmas.Loading
import DAVSyncTogether.Renaming

/-!
# One configuration, read in two load orders

Reading the same files in both games gives indexes that name the same forms (`load_alike`), and the same question about two
armors that name the same forms gets the same answer from them: the matching variants and the choice among them.
-/

namespace DAVSyncTogether

open ByteString Related

/-- The texts of a replacement list. -/
def Json.replacementTexts : Json → List Bytes
  | .string text => [text]
  | .array items => items.filterMap fun item => match item with | .string text => some text | _ => none
  | _ => []

/-- The texts by which a variant of the files names forms: the sources of its rules by form, and all its replacements. -/
def Json.formTexts (jsonVariant : Json) : List Bytes :=
  (jsonVariant.findMembers (ascii "replaceByForm")).flatMap (fun entry => entry.1 :: entry.2.replacementTexts) ++
    (jsonVariant.findMembers (ascii "replaceBySlot")).flatMap fun entry => entry.2.replacementTexts

theorem Json.mem_formTexts {jsonVariant : Json} {text : Bytes} : text ∈ jsonVariant.formTexts ↔
    (∃ entry ∈ jsonVariant.findMembers (ascii "replaceByForm"), text ∈ entry.1 :: entry.2.replacementTexts) ∨
      ∃ entry ∈ jsonVariant.findMembers (ascii "replaceBySlot"), text ∈ entry.2.replacementTexts := by
  rw [formTexts, List.mem_append, List.mem_flatMap, List.mem_flatMap]

/-- The texts by which the files name forms. -/
def configTexts (root : Option (List DirectoryEntry)) : List Bytes :=
  ((root.getD []).flatMap DirectoryEntry.jsonVariants).flatMap Json.formTexts

/-- A text of the files has the local ID and the file. -/
def NamedIn (root : Option (List DirectoryEntry)) (l : FormID) (p : Bytes) : Prop :=
  ∃ text ∈ configTexts root, ∃ i, parseFormText text = some i ∧ i.localFormID = l ∧ i.plugin = p

/-- Two games that differ in their load order: a renaming between lawful sessions that covers the names of the forms and the names
in the configuration files, which find forms of files. -/
structure LoadOrders (ρ : FormID → FormID) (root : Option (List DirectoryEntry)) (s₁ s₂ : Session) : Prop
    extends Renaming ρ (fun l p => s₁.NamesForm l p ∨ NamedIn root l p) s₁ s₂ where
  lawful₁ : s₁.Lawful
  lawful₂ : s₂.Lawful
  findsFiles : ∀ l p f, NamedIn root l p → s₁.lookupForm l p = some f → f.toTESForm.sourceFile ≠ none

/-- Two variants that name the same forms. -/
structure VariantRule.Alike (s₁ s₂ : Session) (v w : VariantRule) : Prop where
  name : v.name = w.name
  linkTo : v.linkTo = w.linkTo
  overrideHead : v.overrideHead = w.overrideHead
  forms : MapRel (SameNames s₁ s₂) v.replaceByForm w.replaceByForm
  slots : MapRel (SameNames s₁ s₂) v.replaceBySlot w.replaceBySlot

/-- Two indexes that name the same forms. -/
structure DAVConfigIndex.Alike (s₁ s₂ : Session) (x y : DAVConfigIndex) : Prop where
  sourceArmorAddons : x.sourceArmorAddons = y.sourceArmorAddons
  sourceSlots : x.sourceSlots = y.sourceSlots
  loaded : x.loaded = y.loaded
  variants : MapRel (VariantRule.Alike s₁ s₂) x.variants y.variants

section

variable {ρ : FormID → FormID} {root : Option (List DirectoryEntry)} {s₁ s₂ : Session} {i j : FormIdentity}

/-! ## Forms of the two games -/

/-- Corresponding forms of files have one name. -/
theorem LoadOrders.sameName (h : LoadOrders ρ root s₁ s₂) {f g : Form} (hfg : f.Renamed ρ g) (hf : s₁.Loaded f) (hg : s₂.Loaded g)
    (hfile : f.toTESForm.sourceFile ≠ none) :
    SameName s₁ s₂ (makeFormIdentity f.toTESForm) (makeFormIdentity g.toTESForm) := by
  have hg' : g.toTESForm.sourceFile ≠ none := by
    rw [hfg.toTESForm]
    exact hfile
  refine ⟨h.lawful₁.names hf hfile, h.lawful₂.names hg hg', ?_⟩
  rw [hfg.toTESForm]
  unfold makeFormIdentity FormIdentity.stableName TESForm.rename
  cases hsrc : f.toTESForm.sourceFile with
  | none => exact absurd hsrc hfile
  | some file => rfl

/-- What a name in the files finds in the two games has one name. -/
theorem LoadOrders.lookupForm_sameName (h : LoadOrders ρ root s₁ s₂) {l : FormID} {p : Bytes} (hnamed : NamedIn root l p) :
    Option.Rel (fun f g => f.Renamed ρ g ∧ SameName s₁ s₂ (makeFormIdentity f.toTESForm) (makeFormIdentity g.toTESForm))
      (s₁.lookupForm l p) (s₂.lookupForm l p) := by
  rcases rel_cases (h.lookupForm l p (Or.inr hnamed)) with ⟨hf, hg⟩ | ⟨f, g, hf, hg, hfg⟩
  · rw [hf, hg]
    exact Option.Rel.none
  · rw [hf, hg]
    exact Option.Rel.some ⟨hfg, h.sameName hfg (h.lawful₁.loaded_of_lookupForm l p f hf)
      (h.lawful₂.loaded_of_lookupForm l p g hg) (h.findsFiles l p f hnamed hf)⟩

theorem parseFormText_runtimeFormID {text : Bytes} (h : parseFormText text = some i) : i.runtimeFormID = 0 := by
  unfold parseFormText at h
  split at h
  · cases h
  · dsimp only at h
    split at h
    · cases h
    · obtain ⟨-, h⟩ := Option.ite_none_left_eq_some.mp h
      cases h
      rfl

/-- What a text of the files finds in the two games has one name. -/
theorem LoadOrders.resolve_sameName (h : LoadOrders ρ root s₁ s₂) {text : Bytes} (htext : text ∈ configTexts root)
    (hi : parseFormText text = some i) :
    Option.Rel (fun f g => f.Renamed ρ g ∧ SameName s₁ s₂ (makeFormIdentity f.toTESForm) (makeFormIdentity g.toTESForm))
      (i.resolve s₁) (i.resolve s₂) := by
  unfold FormIdentity.resolve
  split
  · rw [parseFormText_runtimeFormID hi]
    exact Option.Rel.none
  · exact h.lookupForm_sameName ⟨text, htext, i, hi, rfl, rfl⟩

/-- Identities of one name find corresponding addons, or none. -/
theorem LoadOrders.resolveAddon_rename (h : LoadOrders ρ root s₁ s₂) (hij : SameName s₁ s₂ i j) :
    resolveAddon s₂ j = (resolveAddon s₁ i).map (TESObjectARMA.rename ρ) := by
  unfold resolveAddon FormIdentity.resolve
  rw [hij.left.stable, hij.right.stable, ← hij.plugin, ← hij.localFormID]
  simp only [Bool.not_true, Bool.false_eq_true, if_false]
  rcases rel_cases (h.lookupForm i.localFormID i.plugin (Or.inl hij.left.namesForm)) with ⟨hf, hg⟩ | ⟨f, g, hf, hg, hfg⟩
  · rw [hf, hg]
    rfl
  · rw [hf, hg]
    cases hfg <;> rfl

/-! ## Loading -/

/-- An entry of a replacement list names one addon in both games, or none in either. -/
theorem LoadOrders.readReplacement_sameNames (h : LoadOrders ρ root s₁ s₂) {value : Json}
    (hvalue : ∀ text, value = .string text → text ∈ configTexts root) :
    SameNames s₁ s₂ (readReplacement s₁ value) (readReplacement s₂ value) := by
  unfold readReplacement
  cases value with
  | string text =>
    dsimp only
    cases hp : parseFormText text with
    | none => exact List.Forall₂.nil
    | some identity =>
      rw [Option.bind_some, Option.bind_some]
      rcases rel_cases (h.resolve_sameName (hvalue text rfl) hp) with ⟨hf, hg⟩ | ⟨f, g, hf, hg, hfg, hname⟩
      · rw [hf, hg]
        exact List.Forall₂.nil
      · rw [hf, hg]
        cases hfg with
        | arma a => exact List.Forall₂.cons hname List.Forall₂.nil
        | _ => exact List.Forall₂.nil
  | _ => exact List.Forall₂.nil

theorem LoadOrders.readReplacementList_sameNames (h : LoadOrders ρ root s₁ s₂) {value : Json}
    (hvalue : ∀ text ∈ value.replacementTexts, text ∈ configTexts root) :
    SameNames s₁ s₂ (readReplacementList s₁ value) (readReplacementList s₂ value) := by
  unfold readReplacementList
  cases value with
  | string text =>
    refine h.readReplacement_sameNames fun t ht => hvalue t ?_
    cases ht
    exact List.mem_singleton_self _
  | array items =>
    have hitems : ∀ text, Json.string text ∈ items → text ∈ configTexts root := fun text htext =>
      hvalue text (List.mem_filterMap.mpr ⟨_, htext, rfl⟩)
    clear hvalue
    dsimp only
    induction items with
    | nil => exact List.Forall₂.nil
    | cons item items ih =>
      refine List.rel_append (h.readReplacement_sameNames fun text ht => hitems text ?_) (ih fun text ht => hitems text ?_)
      · rw [ht]
        exact List.mem_cons_self
      · exact List.mem_cons_of_mem _ ht
  | _ => exact List.Forall₂.nil

/-- The source of a rule has one key in both games. -/
theorem LoadOrders.parseStableForm_sameKey (h : LoadOrders ρ root s₁ s₂) {text : Bytes} (htext : text ∈ configTexts root) :
    Option.Rel (fun i j => i.isStable = j.isStable ∧ i.stableKey = j.stableKey) (parseStableForm s₁ text)
      (parseStableForm s₂ text) := by
  unfold parseStableForm
  cases hp : parseFormText text with
  | none => exact Option.Rel.none
  | some identity =>
    refine Option.Rel.some ?_
    dsimp only
    rcases rel_cases (h.resolve_sameName htext hp) with ⟨hf, hg⟩ | ⟨f, g, hf, hg, -, hname⟩
    · rw [hf, hg]
      exact ⟨rfl, rfl⟩
    · rw [hf, hg]
      exact ⟨by rw [hname.left.stable, hname.right.stable], hname.stableKey⟩

/-- What the loops over the rules of one variant keep. -/
def RulesAlike (s₁ s₂ : Session) (r r' : VariantRule × DAVConfigIndex) : Prop := r.1.Alike s₁ s₂ r'.1 ∧ r.2.Alike s₁ s₂ r'.2

theorem LoadOrders.loadFormRule_alike (h : LoadOrders ρ root s₁ s₂) {r r' : VariantRule × DAVConfigIndex} (hr : RulesAlike s₁ s₂ r r')
    (entry : Bytes × Json) (hentry : ∀ text ∈ entry.1 :: entry.2.replacementTexts, text ∈ configTexts root) :
    RulesAlike s₁ s₂ (loadFormRule s₁ r entry) (loadFormRule s₂ r' entry) := by
  rw [List.forall_mem_cons] at hentry
  have hlist := h.readReplacementList_sameNames hentry.2
  unfold loadFormRule
  rcases rel_cases (h.parseStableForm_sameKey hentry.1) with ⟨hi, hj⟩ | ⟨i, j, hi, hj, hstable, hkey⟩
  · rw [hi, hj]
    exact hr
  · rw [hi, hj]
    dsimp only
    rw [hstable]
    split
    · exact hr
    · rw [hlist.isEmpty, hkey]
      split
      · exact hr
      · refine ⟨⟨hr.1.name, hr.1.linkTo, hr.1.overrideHead, hr.1.forms.insert _ (hlist.sortUnique h.lawful₁ h.lawful₂),
          hr.1.slots⟩, ⟨?_, hr.2.sourceSlots, hr.2.loaded, hr.2.variants⟩⟩
        simp only [hr.2.sourceArmorAddons]

theorem LoadOrders.loadSlotRule_alike (h : LoadOrders ρ root s₁ s₂) {r r' : VariantRule × DAVConfigIndex} (hr : RulesAlike s₁ s₂ r r')
    (entry : Bytes × Json) (hentry : ∀ text ∈ entry.2.replacementTexts, text ∈ configTexts root) :
    RulesAlike s₁ s₂ (loadSlotRule s₁ r entry) (loadSlotRule s₂ r' entry) := by
  have hlist := h.readReplacementList_sameNames hentry
  unfold loadSlotRule
  split
  · exact hr
  · split
    · exact hr
    · refine ⟨⟨hr.1.name, hr.1.linkTo, hr.1.overrideHead, hr.1.forms, hr.1.slots.insert _ (hlist.sortUnique h.lawful₁ h.lawful₂)⟩,
        ⟨hr.2.sourceArmorAddons, ?_, hr.2.loaded, hr.2.variants⟩⟩
      simp only [hr.2.sourceSlots]

theorem LoadOrders.loadVariant_alike (h : LoadOrders ρ root s₁ s₂) {x y : DAVConfigIndex} (hxy : x.Alike s₁ s₂ y)
    {jsonVariant : Json} (htexts : ∀ text ∈ jsonVariant.formTexts, text ∈ configTexts root) :
    (loadVariant s₁ x jsonVariant).Alike s₁ s₂ (loadVariant s₂ y jsonVariant) := by
  unfold loadVariant
  split
  · exact hxy
  · rename_i name _
    have hold : ((x.variants.lookup name).getD {}).Alike s₁ s₂ ((y.variants.lookup name).getD {}) := by
      rcases rel_cases (hxy.variants.lookup name) with ⟨hv, hw⟩ | ⟨v, w, hv, hw, hvw⟩
      · rw [hv, hw]
        exact ⟨rfl, rfl, rfl, MapRel.empty, MapRel.empty⟩
      · rw [hv, hw]
        exact hvw
    generalize (x.variants.lookup name).getD {} = v at hold ⊢
    generalize (y.variants.lookup name).getD {} = w at hold ⊢
    have hstart : RulesAlike s₁ s₂
        ({ v with
            name
            linkTo := (jsonVariant.findString (ascii "linkTo")).getD v.linkTo
            overrideHead := (jsonVariant.findString (ascii "overrideHead")).getD v.overrideHead }, x)
        ({ w with
            name
            linkTo := (jsonVariant.findString (ascii "linkTo")).getD w.linkTo
            overrideHead := (jsonVariant.findString (ascii "overrideHead")).getD w.overrideHead }, y) :=
      ⟨⟨rfl, by rw [hold.linkTo], by rw [hold.overrideHead], hold.forms, hold.slots⟩, hxy⟩
    have hforms := List.foldl_rel (l := jsonVariant.findMembers (ascii "replaceByForm")) hstart
      (fun entry hentry r r' hr => h.loadFormRule_alike hr entry fun text ht =>
        htexts text (Json.mem_formTexts.mpr (Or.inl ⟨entry, hentry, ht⟩)))
    have hslots := List.foldl_rel (l := jsonVariant.findMembers (ascii "replaceBySlot")) hforms
      (fun entry hentry r r' hr => h.loadSlotRule_alike hr entry fun text ht =>
        htexts text (Json.mem_formTexts.mpr (Or.inr ⟨entry, hentry, ht⟩)))
    exact ⟨hslots.2.sourceArmorAddons, hslots.2.sourceSlots, hslots.2.loaded, hslots.2.variants.insert name hslots.1⟩

/-- The same files give indexes that name the same forms. -/
theorem LoadOrders.load_alike (h : LoadOrders ρ root s₁ s₂) : (load s₁ root).Alike s₁ s₂ (load s₂ root) := by
  rw [load_eq, load_eq]
  exact List.foldl_rel ⟨rfl, rfl, rfl, MapRel.empty⟩ fun jsonVariant hjson x y hxy =>
    h.loadVariant_alike hxy fun text ht => List.mem_flatMap.mpr ⟨jsonVariant, hjson, ht⟩

end

end DAVSyncTogether
