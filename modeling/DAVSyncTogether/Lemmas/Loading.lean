import DAVSyncTogether.ConfigIndex
import DAVSyncTogether.Lib.Related

/-!
# What loading keeps

`Load` reads the files one after the other, the variants of a file, and the two tables of a variant. A property of the index
is kept by all of it when one entry of each table keeps it, with the variant being read already in its place
(`load_induction`). So every index that `Load` builds holds sorted lists of addons of the session, and names in its two sets
the sources of its rules and nothing else (`load_invariant`).
-/

namespace DAVSyncTogether

open ByteString Related

/-- The variants of one entry of the walk, in order. -/
def DirectoryEntry.jsonVariants (entry : DirectoryEntry) : List Json :=
  if !entry.isRegularFile || toLower entry.extension != ascii ".json" || !entry.opens then []
  else
    match entry.json.bind (Json.find (ascii "variants")) with
    | some (.array variants) => variants
    | _ => []

/-- What an entry of the walk adds are its variants. -/
theorem loadEntry_eq (s : Session) (index : DAVConfigIndex) (entry : DirectoryEntry) :
    loadEntry s index entry = entry.jsonVariants.foldl (loadVariant s) index := by
  unfold loadEntry DirectoryEntry.jsonVariants
  split
  · rfl
  · cases entry.json with
    | none => rfl
    | some rootJson =>
      dsimp only [Option.bind_some, loadFile]
      cases rootJson.find (ascii "variants") with
      | none => rfl
      | some value => cases value <;> rfl

/-- Loading reads the variants of all entries, in order. -/
theorem load_eq (s : Session) (root : Option (List DirectoryEntry)) :
    load s root = ((root.getD []).flatMap DirectoryEntry.jsonVariants).foldl (loadVariant s) { loaded := true } := by
  rw [load, List.foldl_flatMap]
  exact congrArg (fun step => (root.getD []).foldl step _) (funext fun index => funext fun entry => loadEntry_eq s index entry)

/-- The index with the variant being read in the place of its name. -/
def stored (name : Bytes) (r : VariantRule × DAVConfigIndex) : DAVConfigIndex :=
  { r.2 with variants := r.2.variants.insert name r.1 }

/-- A property of the index holds of every index that `Load` builds, once it holds of the empty one and every step of the reading
of one variant keeps it. -/
theorem load_induction {s : Session} {P : DAVConfigIndex → Prop} (hempty : P { loaded := true })
    (hbegin : ∀ index name linkTo overrideHead, P index →
      P (stored name ({ (index.variants.lookup name).getD {} with name, linkTo, overrideHead }, index)))
    (hform : ∀ name r entry, P (stored name r) → P (stored name (loadFormRule s r entry)))
    (hslot : ∀ name r entry, P (stored name r) → P (stored name (loadSlotRule s r entry)))
    (root : Option (List DirectoryEntry)) : P (load s root) := by
  have hvariant : ∀ index jsonVariant, P index → P (loadVariant s index jsonVariant) := by
    intro index jsonVariant h
    unfold loadVariant
    split
    · exact h
    · rename_i name _
      refine List.foldlRecOn (motive := fun r => P (stored name r)) _ (loadSlotRule s) ?_ fun r hr entry _ => hslot name r entry hr
      exact List.foldlRecOn (motive := fun r => P (stored name r)) _ (loadFormRule s) (hbegin _ _ _ _ h)
        fun r hr entry _ => hform name r entry hr
  rw [load_eq]
  exact List.foldlRecOn (motive := P) _ (loadVariant s) hempty fun index h jsonVariant _ => hvariant index jsonVariant h

/-- An entry of `replaceByForm` adds a rule, or nothing. -/
theorem loadFormRule_cases (s : Session) (r : VariantRule × DAVConfigIndex) (entry : Bytes × Json) :
    loadFormRule s r entry = r ∨ ∃ source, parseStableForm s entry.1 = some source ∧ source.isStable = true ∧
      readReplacementList s entry.2 ≠ [] ∧ loadFormRule s r entry =
        ({ r.1 with replaceByForm := r.1.replaceByForm.insert source.stableKey (sortAndUnique (readReplacementList s entry.2)) },
          { r.2 with sourceArmorAddons := insert source.stableKey r.2.sourceArmorAddons }) := by
  unfold loadFormRule
  cases hparse : parseStableForm s entry.1 with
  | none => exact Or.inl rfl
  | some source =>
    cases hstable : source.isStable with
    | false => exact Or.inl (by simp [hstable])
    | true =>
      cases hempty : (readReplacementList s entry.2).isEmpty with
      | true => exact Or.inl (by simp [hstable, hempty])
      | false => exact Or.inr ⟨source, rfl, hstable, by simpa using hempty, by simp [hstable, hempty]⟩

/-- An entry of `replaceBySlot` adds a rule for a biped slot, or nothing. -/
theorem loadSlotRule_cases (s : Session) (r : VariantRule × DAVConfigIndex) (entry : Bytes × Json) :
    loadSlotRule s r entry = r ∨ ∃ slot : UInt32, (30 ≤ slot ∧ slot ≤ 61) ∧ loadSlotRule s r entry =
      ({ r.1 with replaceBySlot := r.1.replaceBySlot.insert slot (sortAndUnique (readReplacementList s entry.2)) },
        { r.2 with sourceSlots := insert slot r.2.sourceSlots }) := by
  unfold loadSlotRule
  cases hread : Hex.stoul entry.1 10 with
  | none => exact Or.inl rfl
  | some read =>
    obtain ⟨slot, consumed⟩ := read
    by_cases hslot : slot < 30 ∨ 61 < slot
    · exact Or.inl (by simp [hslot])
    · rw [not_or, not_lt, not_lt] at hslot
      exact Or.inr ⟨slot, hslot, by simp [not_lt.mpr hslot.1, not_lt.mpr hslot.2]⟩

/-- `Load` builds a loaded index. -/
theorem load_loaded (s : Session) (root : Option (List DirectoryEntry)) : (load s root).loaded = true := by
  refine load_induction (P := fun index => index.loaded = true) rfl (fun _ _ _ _ h => h) ?_ ?_ root
  · intro name r entry h
    rcases loadFormRule_cases s r entry with heq | ⟨_, -, -, -, heq⟩ <;> (rw [heq]; exact h)
  · intro name r entry h
    rcases loadSlotRule_cases s r entry with heq | ⟨_, -, heq⟩ <;> (rw [heq]; exact h)

/-! ## The rules -/

/-- An identity of an addon that the session finds for a text of the configuration. -/
def FromAddon (s : Session) (i : FormIdentity) : Prop :=
  ∃ (identity : FormIdentity) (addon : TESObjectARMA),
    identity.resolve s = some (.arma addon) ∧ i = makeFormIdentity addon.toTESForm

/-- A replacement list as the index stores it: identities of addons, sorted, without repeated neighbours. -/
def IsReplacementList (s : Session) (l : List FormIdentity) : Prop :=
  ∃ read, (∀ i ∈ read, FromAddon s i) ∧ l = sortAndUnique read

/-- A variant as the index stores it under a name. -/
structure VariantRule.StoredAs (s : Session) (name : Bytes) (variant : VariantRule) : Prop where
  named : variant.name = name
  forms : ∀ k l, variant.replaceByForm.lookup k = some l → l ≠ [] ∧ IsReplacementList s l
  slots : ∀ slot l, variant.replaceBySlot.lookup slot = some l → (30 ≤ slot ∧ slot ≤ 61) ∧ IsReplacementList s l

/-- What `Load` keeps: every variant is well stored, and the two sets are the sources of all rules. -/
structure DAVConfigIndex.Invariant (s : Session) (index : DAVConfigIndex) : Prop where
  variants : ∀ name variant, index.variants.lookup name = some variant → variant.StoredAs s name
  addons : ∀ k, k ∈ index.sourceArmorAddons ↔
    ∃ name variant, index.variants.lookup name = some variant ∧ k ∈ variant.replaceByForm
  slots : ∀ slot, slot ∈ index.sourceSlots ↔
    ∃ name variant, index.variants.lookup name = some variant ∧ slot ∈ variant.replaceBySlot

/-- An entry of a replacement list adds identities of addons. -/
theorem fromAddon_readReplacement {s : Session} (value : Json) : ∀ i ∈ readReplacement s value, FromAddon s i := by
  intro i hi
  unfold readReplacement at hi
  split at hi
  · rename_i text
    split at hi
    · rename_i addon haddon
      obtain ⟨f, hf, hasARMA⟩ := Option.bind_eq_some_iff.mp haddon
      obtain ⟨identity, -, hresolve⟩ := Option.bind_eq_some_iff.mp hf
      cases f with
      | arma a =>
        cases hasARMA
        rw [List.mem_singleton.mp hi]
        exact ⟨identity, addon, hresolve, rfl⟩
      | _ => cases hasARMA
    · cases hi
  · cases hi

theorem isReplacementList_read (s : Session) (value : Json) : IsReplacementList s (sortAndUnique (readReplacementList s value)) := by
  refine ⟨_, fun i hi => ?_, rfl⟩
  unfold readReplacementList at hi
  split at hi
  · exact fromAddon_readReplacement _ i hi
  · obtain ⟨item, -, hmem⟩ := List.mem_flatMap.mp hi
    exact fromAddon_readReplacement item i hmem
  · cases hi

section

variable {s : Session}

/-- A variant that was in the index, or an empty one, under the name and with the texts that were read. -/
theorem VariantRule.StoredAs.begin {index : DAVConfigIndex} (h : index.Invariant s) (name linkTo overrideHead : Bytes) :
    ({ (index.variants.lookup name).getD {} with name, linkTo, overrideHead } : VariantRule).StoredAs s name := by
  cases hv : index.variants.lookup name with
  | none => exact ⟨rfl, fun k l hl => by simp [AList.lookup_empty] at hl, fun slot l hl => by simp [AList.lookup_empty] at hl⟩
  | some variant => exact ⟨rfl, (h.variants name variant hv).forms, (h.variants name variant hv).slots⟩

/-- The invariant holds of the index with the variant about to be read in its place. -/
theorem invariant_begin {index : DAVConfigIndex} (h : index.Invariant s) (name linkTo overrideHead : Bytes) :
    (stored name ({ (index.variants.lookup name).getD {} with name, linkTo, overrideHead }, index)).Invariant s where
  variants name' variant hv := by
    by_cases hname : name' = name
    · rw [hname, stored, AList.lookup_insert, Option.some.injEq] at hv
      rw [hname, ← hv]
      exact VariantRule.StoredAs.begin h name linkTo overrideHead
    · exact h.variants name' variant ((AList.lookup_insert_ne hname).symm.trans hv)
  addons k := by
    refine (h.addons k).trans (exists_lookup_insert_iff (fun variant : VariantRule => k ∈ variant.replaceByForm) ?_).symm
    cases index.variants.lookup name <;> simp
  slots slot := by
    refine (h.slots slot).trans (exists_lookup_insert_iff (fun variant : VariantRule => slot ∈ variant.replaceBySlot) ?_).symm
    cases index.variants.lookup name <;> simp

/-- The invariant is kept when the variant being read gets more sources and the two sets get the same ones. -/
theorem DAVConfigIndex.Invariant.update {name : Bytes} {r r' : VariantRule × DAVConfigIndex} (h : (stored name r).Invariant s)
    (hvariants : r'.2.variants = r.2.variants) (hstored : r'.1.StoredAs s name)
    (hforms : ∀ k ∈ r.1.replaceByForm, k ∈ r'.1.replaceByForm) (hslots : ∀ slot ∈ r.1.replaceBySlot, slot ∈ r'.1.replaceBySlot)
    (haddons : ∀ k, k ∈ r'.2.sourceArmorAddons ↔ k ∈ r'.1.replaceByForm ∨ k ∈ r.2.sourceArmorAddons)
    (hsources : ∀ slot, slot ∈ r'.2.sourceSlots ↔ slot ∈ r'.1.replaceBySlot ∨ slot ∈ r.2.sourceSlots) :
    (stored name r').Invariant s where
  variants name' variant hv := by
    rw [stored, hvariants] at hv
    by_cases hname : name' = name
    · rw [hname, AList.lookup_insert, Option.some.injEq] at hv
      rw [hname, ← hv]
      exact hstored
    · exact h.variants name' variant ((AList.lookup_insert_ne hname).trans ((AList.lookup_insert_ne hname).symm.trans hv))
  addons k := by
    have hbefore := (h.addons k).trans (exists_lookup_insert (fun variant : VariantRule => k ∈ variant.replaceByForm))
    refine (haddons k).trans (Iff.trans ?_ (exists_lookup_insert (fun variant : VariantRule => k ∈ variant.replaceByForm)).symm)
    rw [hvariants]
    refine (or_congr_right hbefore).trans ?_
    rw [← or_assoc, or_iff_left_of_imp (hforms k)]
  slots slot := by
    have hbefore := (h.slots slot).trans (exists_lookup_insert (fun variant : VariantRule => slot ∈ variant.replaceBySlot))
    refine (hsources slot).trans (Iff.trans ?_ (exists_lookup_insert (fun variant : VariantRule => slot ∈ variant.replaceBySlot)).symm)
    rw [hvariants]
    refine (or_congr_right hbefore).trans ?_
    rw [← or_assoc, or_iff_left_of_imp (hslots slot)]

/-- The sources of the variant being read are in the two sets. -/
theorem DAVConfigIndex.Invariant.mem_sources {name : Bytes} {r : VariantRule × DAVConfigIndex} (h : (stored name r).Invariant s) :
    (∀ k ∈ r.1.replaceByForm, k ∈ r.2.sourceArmorAddons) ∧ ∀ slot ∈ r.1.replaceBySlot, slot ∈ r.2.sourceSlots :=
  ⟨fun k hk => (h.addons k).mpr ⟨name, r.1, AList.lookup_insert _, hk⟩,
    fun slot hslot => (h.slots slot).mpr ⟨name, r.1, AList.lookup_insert _, hslot⟩⟩

/-- One entry of `replaceByForm` keeps the invariant. -/
theorem invariant_loadFormRule {name : Bytes} {r : VariantRule × DAVConfigIndex} (h : (stored name r).Invariant s)
    (entry : Bytes × Json) : (stored name (loadFormRule s r entry)).Invariant s := by
  have hold := h.variants name r.1 (AList.lookup_insert _)
  obtain ⟨haddons, hslots⟩ := h.mem_sources
  rcases loadFormRule_cases s r entry with heq | ⟨source, -, -, hne, heq⟩
  · rw [heq]
    exact h
  · rw [heq]
    refine h.update rfl { hold with forms := fun k l hl => ?_ } (fun k hk => (AList.mem_insert _).mpr (Or.inr hk)) (fun _ hk => hk)
      (fun k => ?_) (fun slot => (or_iff_right_of_imp (hslots slot)).symm)
    · rcases lookup_insert_eq_some hl with rfl | hl
      · exact ⟨fun hnil => hne (SortUnique.sortUnique_eq_nil.mp hnil), isReplacementList_read s entry.2⟩
      · exact hold.forms k l hl
    · rw [AList.mem_insert, or_assoc, or_iff_right_of_imp (haddons k)]
      exact Finset.mem_insert

/-- One entry of `replaceBySlot` keeps the invariant. -/
theorem invariant_loadSlotRule {name : Bytes} {r : VariantRule × DAVConfigIndex} (h : (stored name r).Invariant s)
    (entry : Bytes × Json) : (stored name (loadSlotRule s r entry)).Invariant s := by
  have hold := h.variants name r.1 (AList.lookup_insert _)
  obtain ⟨haddons, hslots⟩ := h.mem_sources
  rcases loadSlotRule_cases s r entry with heq | ⟨slot, hrange, heq⟩
  · rw [heq]
    exact h
  · rw [heq]
    refine h.update rfl { hold with slots := fun slot' l hl => ?_ } (fun _ hk => hk) (fun _ hk => (AList.mem_insert _).mpr (Or.inr hk))
      (fun k => (or_iff_right_of_imp (haddons k)).symm) (fun slot' => ?_)
    · by_cases hslot : slot' = slot
      · rw [hslot, AList.lookup_insert, Option.some.injEq] at hl
        rw [hslot, ← hl]
        exact ⟨hrange, isReplacementList_read s entry.2⟩
      · exact hold.slots slot' l ((AList.lookup_insert_ne hslot).symm.trans hl)
    · rw [AList.mem_insert, or_assoc, or_iff_right_of_imp (hslots slot')]
      exact Finset.mem_insert

/-- Every index that `Load` builds keeps the invariant, in every session. -/
theorem load_invariant (s : Session) (root : Option (List DirectoryEntry)) : (load s root).Invariant s := by
  refine load_induction (P := DAVConfigIndex.Invariant s) ?_ (fun _ name linkTo overrideHead h => invariant_begin h name linkTo overrideHead)
    (fun _ _ entry h => invariant_loadFormRule h entry) (fun _ _ entry h => invariant_loadSlotRule h entry) root
  refine ⟨fun name variant hv => ?_, fun k => ?_, fun slot => ?_⟩
  · rw [AList.lookup_empty] at hv
    cases hv
  · simp [AList.lookup_empty]
  · simp [AList.lookup_empty]

/-- A file that does not parse adds nothing. -/
theorem loadEntry_of_unparsed (s : Session) (index : DAVConfigIndex) {entry : DirectoryEntry} (h : entry.json = none) :
    loadEntry s index entry = index := by
  rw [loadEntry, h]
  split <;> rfl

end

/-! ## What an identity finds -/

/-- What an identity resolves to is a form that a lookup finds. -/
theorem FormIdentity.finds_of_resolve {s : Session} {i : FormIdentity} {f : Form} (h : i.resolve s = some f) : s.Finds f := by
  unfold FormIdentity.resolve at h
  split at h
  · split at h
    · exact Or.inl ⟨_, h⟩
    · cases h
  · exact Or.inr ⟨_, _, h⟩

/-- What an identity finds in a lawful session is a form of the session. -/
theorem Session.Lawful.loaded_of_resolve {s : Session} (hs : s.Lawful) {i : FormIdentity} {f : Form} (h : i.resolve s = some f) :
    s.Loaded f :=
  hs.loaded_of_finds (FormIdentity.finds_of_resolve h)

end DAVSyncTogether
