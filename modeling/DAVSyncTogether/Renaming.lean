import DAVSyncTogether.StateSnapshot
import Mathlib.Data.Option.Basic

/-!
# Two load orders

Another load order gives the same forms other runtime IDs. `Renaming ρ names s₁ s₂` relates the two games by an injective map of
runtime IDs: corresponding forms have the same file, local ID, kind, slot mask and addons, and corresponding forms are found by
the `names`, pairs of a local ID and a file. Nothing is asked of other pairs: `LookupForm` adds the local ID to the place of the
file, and a sum beyond the file is a form of another file. What the plugin may let out of the game is the `stableName` of an
identity, its file and local ID. `SameName` says that two identities, one of each game, are of forms with a file and have one
name.
-/

namespace DAVSyncTogether

open ByteString SortUnique

/-! ## Corresponding forms -/

/-- A form under another runtime ID. -/
def TESForm.rename (ρ : FormID → FormID) (f : TESForm) : TESForm := { f with formID := ρ f.formID }

def TESObjectARMA.rename (ρ : FormID → FormID) (a : TESObjectARMA) : TESObjectARMA := { a with formID := ρ a.formID }

/-- Two armors correspond: neither the editor ID nor the shown name need agree. -/
structure TESObjectARMO.Renamed (ρ : FormID → FormID) (a b : TESObjectARMO) : Prop where
  toTESForm : b.toTESForm = a.toTESForm.rename ρ
  slotMask : b.slotMask = a.slotMask
  armorAddons : b.armorAddons = a.armorAddons.map (Option.map (TESObjectARMA.rename ρ))

/-- Two forms correspond: they are of one kind, and agree on what is not the runtime ID. -/
inductive Form.Renamed (ρ : FormID → FormID) : Form → Form → Prop where
  | armo {a b : TESObjectARMO} (h : a.Renamed ρ b) : Form.Renamed ρ (.armo a) (.armo b)
  | arma (a : TESObjectARMA) : Form.Renamed ρ (.arma a) (.arma (a.rename ρ))
  | actor (f : TESForm) : Form.Renamed ρ (.actor f) (.actor (f.rename ρ))
  | other (f : TESForm) : Form.Renamed ρ (.other f) (.other (f.rename ρ))

/-- A form of the session has the local ID and the file. -/
def Session.NamesForm (s : Session) (l : FormID) (p : Bytes) : Prop :=
  ∃ f, s.Loaded f ∧ f.toTESForm.localFormID = l ∧ f.toTESForm.sourceFile = some p

/-- The session finds its own forms by file and local ID. -/
def Session.FindsForms (s : Session) : Prop :=
  ∀ f p, s.Loaded f → f.toTESForm.sourceFile = some p → s.lookupForm f.toTESForm.localFormID p = some f

/-- The second game is the first one under other runtime IDs, and the given local IDs and files find corresponding forms. -/
structure Renaming (ρ : FormID → FormID) (names : FormID → Bytes → Prop) (s₁ s₂ : Session) : Prop where
  injective : Function.Injective ρ
  lookupByID : ∀ id, Option.Rel (Form.Renamed ρ) (s₁.lookupByID id) (s₂.lookupByID (ρ id))
  lookupForm : ∀ l p, names l p → Option.Rel (Form.Renamed ρ) (s₁.lookupForm l p) (s₂.lookupForm l p)

theorem Form.Renamed.toTESForm {ρ : FormID → FormID} {f g : Form} (h : f.Renamed ρ g) :
    g.toTESForm = f.toTESForm.rename ρ := by
  cases h with
  | armo h => exact h.toTESForm
  | arma a => rfl
  | actor f => rfl
  | other f => rfl

/-- Two games of corresponding forms that find their own forms: the names of the forms find corresponding ones, and so do names
that find nothing in either. -/
theorem Renaming.of_findsForms {ρ : FormID → FormID} {names : FormID → Bytes → Prop} {s₁ s₂ : Session} (hρ : Function.Injective ρ)
    (hforms : ∀ id, Option.Rel (Form.Renamed ρ) (s₁.lookupByID id) (s₂.lookupByID (ρ id))) (h₁ : s₁.FindsForms)
    (h₂ : s₂.FindsForms)
    (hnames : ∀ l p, names l p → s₁.NamesForm l p ∨ (s₁.lookupForm l p = none ∧ s₂.lookupForm l p = none)) :
    Renaming ρ names s₁ s₂ := by
  refine ⟨hρ, hforms, fun l p hlp => ?_⟩
  rcases hnames l p hlp with ⟨f, hf, rfl, hfile⟩ | ⟨hf, hg⟩
  · have hrel := hforms f.formID
    rw [show s₁.lookupByID f.formID = some f from hf] at hrel
    cases hg : s₂.lookupByID (ρ f.formID) with
    | none =>
      rw [hg] at hrel
      cases hrel
    | some g =>
      rw [hg] at hrel
      have hfg : f.Renamed ρ g := by
        cases hrel with
        | some hfg => exact hfg
      have hid : g.formID = ρ f.formID := congrArg TESForm.formID hfg.toTESForm
      have hlocal : g.toTESForm.localFormID = f.toTESForm.localFormID := by rw [hfg.toTESForm]; rfl
      have hsource : g.toTESForm.sourceFile = some p := by rw [hfg.toTESForm]; exact hfile
      have hloaded : s₂.Loaded g := by rw [Session.Loaded, hid, hg]
      rw [h₁ f p hf hfile, ← hlocal, h₂ g p hloaded hsource]
      exact Option.Rel.some hfg
  · rw [hf, hg]
    exact Option.Rel.none

/-! ## Names -/

/-- What names a form in every load order. -/
def FormIdentity.stableName (i : FormIdentity) : Bytes × FormID := (i.plugin, i.localFormID)

/-- The order of names: by file, then by local ID. -/
def nameLess (a b : Bytes × FormID) : Bool := if a.1 ≠ b.1 then decide (a.1 < b.1) else decide (a.2 < b.2)

/-- An identity of a form of the session that comes from a file. -/
structure Session.Names (s : Session) (i : FormIdentity) : Prop where
  makes : s.Makes i
  stable : i.isStable = true

theorem Session.Lawful.names {s : Session} (hs : s.Lawful) {f : Form} (hf : s.Loaded f) (hfile : f.toTESForm.sourceFile ≠ none) :
    s.Names (makeFormIdentity f.toTESForm) := by
  refine ⟨Or.inl ⟨f, hf, rfl⟩, ?_⟩
  rw [FormIdentity.isStable_iff]
  unfold makeFormIdentity
  cases hsrc : f.toTESForm.sourceFile with
  | none => exact absurd hsrc hfile
  | some file =>
    rintro rfl
    exact hs.sourceFile_ne_nil f hf hsrc

/-- The name of such an identity is that of a form of the session. -/
theorem Session.Names.namesForm {s : Session} {i : FormIdentity} (hi : s.Names i) : s.NamesForm i.localFormID i.plugin := by
  rcases hi.makes with ⟨f, hf, rfl⟩ | ⟨id, -, rfl⟩
  · obtain ⟨hsource, hlocal⟩ := makeFormIdentity_stable hi.stable
    exact ⟨f, hf, hlocal, hsource⟩
  · cases hi.stable

/-- In one session a name has one identity. -/
theorem Session.Lawful.eq_of_stableName {s : Session} (hs : s.Lawful) {a b : FormIdentity} (ha : s.Names a) (hb : s.Names b)
    (h : a.stableName = b.stableName) : a = b := by
  rw [← hs.stableEquivalent_iff ha.makes hb.makes, FormIdentity.stableEquivalent_of_stable ha.stable hb.stable]
  simpa only [FormIdentity.stableName, Prod.mk.injEq] using h

/-- Of identities of forms with a file, the order compares the names: the runtime ID, which breaks ties, is never asked. -/
theorem Session.Lawful.nameLess_stableName {s : Session} (hs : s.Lawful) {a b : FormIdentity} (ha : s.Names a) (hb : s.Names b) :
    nameLess a.stableName b.stableName = formIdentityLess a b := by
  unfold nameLess formIdentityLess FormIdentity.stableName
  by_cases hp : a.plugin = b.plugin
  · by_cases hi : a.localFormID = b.localFormID
    · have hab := hs.eq_of_stableName ha hb (Prod.ext hp hi)
      simp [hab]
    · simp [hp, hi]
  · simp [hp]

/-- Sorting identities of forms with a file sorts their names. -/
theorem Session.Lawful.map_stableName_sortUnique {s : Session} (hs : s.Lawful) {l : List FormIdentity}
    (hl : ∀ i ∈ l, s.Names i) :
    (sortUnique formIdentityLess FormIdentity.stableEquivalent l).map FormIdentity.stableName =
      sortUnique nameLess (fun a b => a == b) (l.map FormIdentity.stableName) := by
  refine (sortUnique_map FormIdentity.stableName l (fun a ha b hb => hs.nameLess_stableName (hl a ha) (hl b hb))
    (fun a ha b hb => ?_)).symm
  rw [Bool.eq_iff_iff, FormIdentity.stableEquivalent_of_stable (hl a ha).stable (hl b hb).stable, beq_iff_eq]
  simp only [FormIdentity.stableName, Prod.mk.injEq]

/-- The order of names is a strict total order. -/
theorem nameLess_strictTotal : StrictTotal nameLess := by
  have hlex : ∀ a b : Bytes × FormID, nameLess a b = true ↔ toLex a < toLex b := by
    intro a b
    unfold nameLess
    rw [Prod.Lex.toLex_lt_toLex]
    by_cases hp : a.1 = b.1
    · simp [hp]
    · simp [hp]
  exact StrictTotal.ofKey hlex toLex.injective

/-! ## Two identities of one name -/

/-- Two identities, one of each game, name one form that comes from a file. -/
structure SameName (s₁ s₂ : Session) (i j : FormIdentity) : Prop where
  left : s₁.Names i
  right : s₂.Names j
  stableName : i.stableName = j.stableName

/-- Two lists of identities name the same forms, in order. -/
abbrev SameNames (s₁ s₂ : Session) (l m : List FormIdentity) : Prop := List.Forall₂ (SameName s₁ s₂) l m

section

variable {s₁ s₂ : Session} {i j i' j' : FormIdentity} {l m l' m' : List FormIdentity}

theorem SameName.plugin (h : SameName s₁ s₂ i j) : i.plugin = j.plugin := congrArg Prod.fst h.stableName

theorem SameName.localFormID (h : SameName s₁ s₂ i j) : i.localFormID = j.localFormID := congrArg Prod.snd h.stableName

/-- The key of an identity is its name. -/
theorem SameName.stableKey (h : SameName s₁ s₂ i j) : i.stableKey = j.stableKey := by
  unfold FormIdentity.stableKey
  rw [h.left.stable, h.right.stable, h.plugin, h.localFormID]
  rfl

/-- Equivalence compares names. -/
theorem SameName.stableEquivalent (h : SameName s₁ s₂ i j) (h' : SameName s₁ s₂ i' j') :
    i.stableEquivalent i' = j.stableEquivalent j' := by
  rw [Bool.eq_iff_iff, FormIdentity.stableEquivalent_of_stable h.left.stable h'.left.stable,
    FormIdentity.stableEquivalent_of_stable h.right.stable h'.right.stable, h.plugin, h.localFormID, h'.plugin, h'.localFormID]

/-- The order compares names. -/
theorem SameName.formIdentityLess (h₁ : s₁.Lawful) (h₂ : s₂.Lawful) (h : SameName s₁ s₂ i j) (h' : SameName s₁ s₂ i' j') :
    formIdentityLess i i' = formIdentityLess j j' := by
  rw [← h₁.nameLess_stableName h.left h'.left, ← h₂.nameLess_stableName h.right h'.right, h.stableName, h'.stableName]

theorem sameNames_iff : SameNames s₁ s₂ l m ↔ (∀ i ∈ l, s₁.Names i) ∧ (∀ j ∈ m, s₂.Names j) ∧
    l.map FormIdentity.stableName = m.map FormIdentity.stableName := by
  constructor
  · intro h
    induction h with
    | nil => simp
    | cons hij _ ih =>
      obtain ⟨hl, hm, hmap⟩ := ih
      refine ⟨List.forall_mem_cons.mpr ⟨hij.left, hl⟩, List.forall_mem_cons.mpr ⟨hij.right, hm⟩, ?_⟩
      rw [List.map_cons, List.map_cons, hij.stableName, hmap]
  · rintro ⟨hl, hm, hmap⟩
    induction l generalizing m with
    | nil =>
      cases m with
      | nil => exact List.Forall₂.nil
      | cons j m => cases hmap
    | cons i l ih =>
      cases m with
      | nil => cases hmap
      | cons j m =>
        rw [List.map_cons, List.map_cons, List.cons.injEq] at hmap
        rw [List.forall_mem_cons] at hl hm
        exact List.Forall₂.cons ⟨hl.1, hm.1, hmap.1⟩ (ih hl.2 hm.2 hmap.2)

theorem SameNames.isEmpty (h : SameNames s₁ s₂ l m) : l.isEmpty = m.isEmpty := by
  cases h <;> rfl

/-- Lists that name the same forms, in any order and with any repetitions, name the same forms in order once they are sorted. -/
theorem sameNames_sortUnique (h₁ : s₁.Lawful) (h₂ : s₂.Lawful) (hl : ∀ i ∈ l, s₁.Names i) (hm : ∀ j ∈ m, s₂.Names j)
    (hmem : ∀ n, n ∈ l.map FormIdentity.stableName ↔ n ∈ m.map FormIdentity.stableName) :
    SameNames s₁ s₂ (sortUnique formIdentityLess FormIdentity.stableEquivalent l)
      (sortUnique formIdentityLess FormIdentity.stableEquivalent m) := by
  refine sameNames_iff.mpr ⟨fun i hi => hl i (sortUnique_subset _ _ _ i hi), fun j hj => hm j (sortUnique_subset _ _ _ j hj), ?_⟩
  rw [h₁.map_stableName_sortUnique hl, h₂.map_stableName_sortUnique hm]
  exact sortUnique_congr nameLess_strictTotal (fun a _ b _ => by simp) hmem

/-- Sorting keeps two lists naming the same forms. -/
theorem SameNames.sortUnique (h₁ : s₁.Lawful) (h₂ : s₂.Lawful) (h : SameNames s₁ s₂ l m) :
    SameNames s₁ s₂ (SortUnique.sortUnique formIdentityLess FormIdentity.stableEquivalent l)
      (SortUnique.sortUnique formIdentityLess FormIdentity.stableEquivalent m) := by
  obtain ⟨hl, hm, hmap⟩ := sameNames_iff.mp h
  exact sameNames_sortUnique h₁ h₂ hl hm fun n => by rw [hmap]

/-- Index by index, equivalence compares names. -/
theorem SameNames.identityVectorsEquivalent (h : SameNames s₁ s₂ l m) (h' : SameNames s₁ s₂ l' m') :
    identityVectorsEquivalent l l' = identityVectorsEquivalent m m' := by
  induction h generalizing l' m' with
  | nil => cases h' <;> rfl
  | cons hij _ ih =>
    cases h' with
    | nil => rfl
    | cons hij' h' =>
      rw [identityVectorsEquivalent_cons, identityVectorsEquivalent_cons, hij.stableEquivalent hij', ih h']

end

end DAVSyncTogether
