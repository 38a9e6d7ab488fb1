import DAVSyncTogether.Lib.Hex
import DAVSyncTogether.Lib.SortUnique
import Mathlib.Data.List.Lex
import Mathlib.Data.Prod.Lex
import Mathlib.Order.Lex

/-!
# Forms and their load-order-safe identity

The game is a `Session`: what its two lookups return, and nothing else. A form is what the plugin reads of it.
`Session.Lawful` says what the plugin relies on: the runtime ID of a form is its own and finds it again, file names are
nonempty, and a file name with a local ID names one form. A `FormIdentity` names a form by its plugin file and local ID, or,
when it has no source file, by its runtime ID.
-/

namespace DAVSyncTogether

open ByteString Hex SortUnique

/-- A form ID, runtime or local. -/
abbrev FormID : Type := UInt32

/-- The part of `RE::TESForm` every form has: its runtime ID, the name of the file that defines it (`GetFile(0)`), and its ID
within that file. -/
structure TESForm where
  formID : FormID
  sourceFile : Option Bytes
  localFormID : FormID
  deriving DecidableEq, Repr

/-- `RE::TESObjectARMA`, an armor addon: the mask has the biped slots it covers. -/
structure TESObjectARMA extends TESForm where
  slotMask : UInt32
  deriving DecidableEq, Repr

/-- `RE::TESObjectARMO`, an armor: `none` in its list of addons is a null pointer. -/
structure TESObjectARMO extends TESForm where
  slotMask : UInt32
  editorID : Option Bytes
  name : Option Bytes
  armorAddons : List (Option TESObjectARMA)
  deriving DecidableEq, Repr

/-- A form by its kind, which is what `As<T>()` tests. -/
inductive Form where
  | armo (armor : TESObjectARMO)
  | arma (addon : TESObjectARMA)
  | actor (base : TESForm)
  | other (base : TESForm)
  deriving DecidableEq, Repr

namespace Form

/-- The part every form has. -/
def toTESForm : Form → TESForm
  | armo a => a.toTESForm
  | arma a => a.toTESForm
  | actor f => f
  | other f => f

/-- `form->GetFormID()`. -/
def formID (f : Form) : FormID := f.toTESForm.formID

/-- `form->As<RE::TESObjectARMO>()`. -/
def asARMO : Form → Option TESObjectARMO
  | armo a => some a
  | _ => none

/-- `form->As<RE::TESObjectARMA>()`. -/
def asARMA : Form → Option TESObjectARMA
  | arma a => some a
  | _ => none

/-- `form->As<RE::Actor>()`. -/
def asActor : Form → Option TESForm
  | actor f => some f
  | _ => none

end Form

/-- A running game, by its lookups: `RE::TESForm::LookupByID`, and `RE::TESDataHandler::LookupForm` by local ID and plugin file
(`none` also while there is no data handler). -/
structure Session where
  lookupByID : FormID → Option Form
  lookupForm : FormID → Bytes → Option Form

/-- A form of the session: its own ID finds it. -/
def Session.Loaded (s : Session) (f : Form) : Prop := s.lookupByID f.formID = some f

/-- What the engine guarantees of its forms. -/
structure Session.Lawful (s : Session) : Prop where
  formID_of_lookup : ∀ id f, s.lookupByID id = some f → f.formID = id
  loaded_of_lookupForm : ∀ l p f, s.lookupForm l p = some f → s.Loaded f
  loaded_of_armorAddons : ∀ a, s.Loaded (.armo a) → ∀ addon, some addon ∈ a.armorAddons → s.Loaded (.arma addon)
  sourceFile_ne_nil : ∀ f, s.Loaded f → f.toTESForm.sourceFile ≠ some []
  unique : ∀ f g p, s.Loaded f → s.Loaded g → f.toTESForm.sourceFile = some p → g.toTESForm.sourceFile = some p →
    f.toTESForm.localFormID = g.toTESForm.localFormID → f = g

/-- A form that one of the two lookups finds. -/
def Session.Finds (s : Session) (f : Form) : Prop :=
  (∃ id, s.lookupByID id = some f) ∨ ∃ l p, s.lookupForm l p = some f

/-- The forms that are found are told apart: by their runtime IDs and, when they have a source file, by file and local ID. -/
structure Session.Distinct (s : Session) : Prop where
  formID_injective : ∀ f g, s.Finds f → s.Finds g → f.formID = g.formID → f = g
  unique : ∀ f g p, s.Finds f → s.Finds g → f.toTESForm.sourceFile = some p → g.toTESForm.sourceFile = some p →
    f.toTESForm.localFormID = g.toTESForm.localFormID → f = g

/-- A lawful session finds forms of the session only, and so tells them apart. -/
theorem Session.Lawful.loaded_of_finds {s : Session} (hs : s.Lawful) {f : Form} (h : s.Finds f) : s.Loaded f := by
  rcases h with ⟨id, hid⟩ | ⟨l, p, hlp⟩
  · rw [Session.Loaded, hs.formID_of_lookup id f hid, hid]
  · exact hs.loaded_of_lookupForm l p f hlp

theorem Session.Lawful.distinct {s : Session} (hs : s.Lawful) : s.Distinct where
  formID_injective f g hf hg h := by
    have hf' := hs.loaded_of_finds hf
    have hg' := hs.loaded_of_finds hg
    rw [Session.Loaded, h, hg'] at hf'
    exact (Option.some.inj hf').symm
  unique f g p hf hg := hs.unique f g p (hs.loaded_of_finds hf) (hs.loaded_of_finds hg)

/-- The identity of a form: plugin file and local ID when it has a source file, and the runtime ID of this session. -/
structure FormIdentity where
  runtimeFormID : FormID := 0
  localFormID : FormID := 0
  plugin : Bytes := []
  deriving DecidableEq, Repr

namespace FormIdentity

/-- An identity is stable when it names a plugin file. -/
def isStable (i : FormIdentity) : Bool := !i.plugin.isEmpty

/-- The key of an identity in the maps of the plugin. -/
def stableKey (i : FormIdentity) : Bytes :=
  if !i.isStable then ascii "runtime:" ++ hexPadded 8 i.runtimeFormID.toNat
  else i.plugin ++ ascii "|" ++ hexPadded 8 i.localFormID.toNat

/-- The form an identity names in a session. -/
def resolve (s : Session) (i : FormIdentity) : Option Form :=
  if !i.isStable then (if i.runtimeFormID ≠ 0 then s.lookupByID i.runtimeFormID else none)
  else s.lookupForm i.localFormID i.plugin

/-- Two identities name the same form: by file and local ID when both are stable, by runtime ID otherwise. -/
def stableEquivalent (lhs rhs : FormIdentity) : Bool :=
  if lhs.isStable && rhs.isStable then lhs.localFormID == rhs.localFormID && lhs.plugin == rhs.plugin
  else lhs.runtimeFormID == rhs.runtimeFormID

end FormIdentity

/-- `MakeFormIdentity(const RE::TESForm*)`, for a form that is there. -/
def makeFormIdentity (form : TESForm) : FormIdentity :=
  match form.sourceFile with
  | none => { runtimeFormID := form.formID }
  | some file => { runtimeFormID := form.formID, localFormID := form.localFormID, plugin := file }

/-- `MakeFormIdentity(RE::FormID)`: an ID that finds no form keeps only itself. -/
def makeFormIdentityOfID (s : Session) (runtimeFormID : FormID) : FormIdentity :=
  match s.lookupByID runtimeFormID with
  | some form => makeFormIdentity form.toTESForm
  | none => { runtimeFormID := runtimeFormID }

/-- The order of identities: by plugin file, then local ID, then runtime ID. -/
def formIdentityLess (lhs rhs : FormIdentity) : Bool :=
  if lhs.plugin ≠ rhs.plugin then decide (lhs.plugin < rhs.plugin)
  else if lhs.localFormID ≠ rhs.localFormID then decide (lhs.localFormID < rhs.localFormID)
  else decide (lhs.runtimeFormID < rhs.runtimeFormID)

/-! ## The order of identities is a strict total order -/

/-- The three fields an identity is ordered by, most significant first. -/
def FormIdentity.orderKey (i : FormIdentity) : Bytes ×ₗ (FormID ×ₗ FormID) :=
  toLex (i.plugin, toLex (i.localFormID, i.runtimeFormID))

theorem formIdentityLess_iff (a b : FormIdentity) : formIdentityLess a b = true ↔ a.orderKey < b.orderKey := by
  unfold formIdentityLess FormIdentity.orderKey
  rw [Prod.Lex.toLex_lt_toLex, Prod.Lex.toLex_lt_toLex]
  by_cases hp : a.plugin = b.plugin
  · by_cases hl : a.localFormID = b.localFormID
    · simp [hp, hl]
    · simp [hp, hl]
  · simp [hp]

theorem FormIdentity.orderKey_injective {a b : FormIdentity} (h : a.orderKey = b.orderKey) : a = b := by
  obtain ⟨r, l, p⟩ := a
  obtain ⟨r', l', p'⟩ := b
  simp only [FormIdentity.orderKey, EmbeddingLike.apply_eq_iff_eq, Prod.mk.injEq] at h
  obtain ⟨rfl, rfl, rfl⟩ := h
  rfl

/-- `FormIdentityLess` is a strict total order. -/
theorem formIdentityLess_strictTotal : StrictTotal formIdentityLess :=
  StrictTotal.ofKey formIdentityLess_iff fun _ _ => FormIdentity.orderKey_injective

/-! ## Keys and equivalence -/

theorem FormIdentity.isStable_iff (i : FormIdentity) : i.isStable = true ↔ i.plugin ≠ [] := by
  simp [FormIdentity.isStable]

@[simp] theorem FormIdentity.stableEquivalent_refl (i : FormIdentity) : i.stableEquivalent i = true := by
  unfold FormIdentity.stableEquivalent
  split <;> simp

theorem FormIdentity.stableEquivalent_comm (a b : FormIdentity) : a.stableEquivalent b = b.stableEquivalent a := by
  rw [Bool.eq_iff_iff]
  unfold FormIdentity.stableEquivalent
  rw [Bool.and_comm a.isStable b.isStable]
  split
  · simp only [Bool.and_eq_true, beq_iff_eq]
    exact ⟨fun h => ⟨h.1.symm, h.2.symm⟩, fun h => ⟨h.1.symm, h.2.symm⟩⟩
  · simp only [beq_iff_eq]
    exact eq_comm

/-- Of two stable identities, equivalence compares file and local ID. -/
theorem FormIdentity.stableEquivalent_of_stable {a b : FormIdentity} (ha : a.isStable = true) (hb : b.isStable = true) :
    a.stableEquivalent b = true ↔ a.plugin = b.plugin ∧ a.localFormID = b.localFormID := by
  simp [FormIdentity.stableEquivalent, ha, hb, and_comm]

theorem FormIdentity.stableEquivalent_trans {a b c : FormIdentity} (ha : a.isStable = true) (hb : b.isStable = true)
    (hc : c.isStable = true) (hab : a.stableEquivalent b = true) (hbc : b.stableEquivalent c = true) :
    a.stableEquivalent c = true := by
  rw [stableEquivalent_of_stable ha hb] at hab
  rw [stableEquivalent_of_stable hb hc] at hbc
  rw [stableEquivalent_of_stable ha hc]
  exact ⟨hab.1.trans hbc.1, hab.2.trans hbc.2⟩

/-! ## What `MakeFormIdentity` guarantees -/

/-- An identity the plugin made in the session: of a form of the session, or of a runtime ID that finds none. -/
def Session.Makes (s : Session) (i : FormIdentity) : Prop :=
  (∃ f, s.Loaded f ∧ i = makeFormIdentity f.toTESForm) ∨
    ∃ id, s.lookupByID id = none ∧ i = { runtimeFormID := id }

theorem makeFormIdentity_runtimeFormID (f : TESForm) : (makeFormIdentity f).runtimeFormID = f.formID := by
  unfold makeFormIdentity
  split <;> rfl

theorem Session.Lawful.makes_ofID {s : Session} (hs : s.Lawful) (id : FormID) : s.Makes (makeFormIdentityOfID s id) := by
  unfold makeFormIdentityOfID
  cases h : s.lookupByID id with
  | none => exact Or.inr ⟨id, h, rfl⟩
  | some f =>
    have hid := hs.formID_of_lookup id f h
    exact Or.inl ⟨f, by rw [Session.Loaded, hid, h], rfl⟩

/-- A form whose identity is stable has that identity's file and local ID. -/
theorem makeFormIdentity_stable {f : TESForm} (h : (makeFormIdentity f).isStable = true) :
    f.sourceFile = some (makeFormIdentity f).plugin ∧ f.localFormID = (makeFormIdentity f).localFormID := by
  unfold makeFormIdentity at h ⊢
  cases hf : f.sourceFile with
  | none => simp [hf, FormIdentity.isStable] at h
  | some file => simp

/-- The runtime ID determines an identity the plugin made. -/
theorem Session.Makes.eq_of_runtimeFormID {s : Session} {a b : FormIdentity} (ha : s.Makes a) (hb : s.Makes b)
    (h : a.runtimeFormID = b.runtimeFormID) : a = b := by
  rcases ha with ⟨f, hf, rfl⟩ | ⟨x, hx, rfl⟩ <;> rcases hb with ⟨g, hg, rfl⟩ | ⟨y, hy, rfl⟩
  · rw [makeFormIdentity_runtimeFormID, makeFormIdentity_runtimeFormID] at h
    have hf' : s.lookupByID g.formID = some f := by rw [← show f.formID = g.formID from h]; exact hf
    rw [Session.Loaded, hf', Option.some.injEq] at hg
    rw [hg]
  · rw [makeFormIdentity_runtimeFormID] at h
    rw [Session.Loaded, show f.formID = y from h, hy] at hf
    cases hf
  · rw [makeFormIdentity_runtimeFormID] at h
    rw [Session.Loaded, show g.formID = x from h.symm, hx] at hg
    cases hg
  · exact congrArg (fun id => ({ runtimeFormID := id } : FormIdentity)) h

/-- Equivalence is equality where runtime IDs, and files with local IDs, determine the identity. -/
theorem FormIdentity.stableEquivalent_iff_eq {a b : FormIdentity} (hruntime : a.runtimeFormID = b.runtimeFormID → a = b)
    (hstable : a.isStable = true → b.isStable = true → a.plugin = b.plugin → a.localFormID = b.localFormID → a = b) :
    a.stableEquivalent b = true ↔ a = b := by
  refine ⟨fun h => ?_, fun h => by simp [h]⟩
  cases hab : a.isStable && b.isStable with
  | false =>
    unfold FormIdentity.stableEquivalent at h
    rw [hab] at h
    exact hruntime (by simpa using h)
  | true =>
    rw [Bool.and_eq_true] at hab
    obtain ⟨hp, hl⟩ := (FormIdentity.stableEquivalent_of_stable hab.1 hab.2).mp h
    exact hstable hab.1 hab.2 hp hl

/-- In a lawful session, identities the plugin made are equivalent only when they are equal. -/
theorem Session.Lawful.stableEquivalent_iff {s : Session} (hs : s.Lawful) {a b : FormIdentity} (ha : s.Makes a)
    (hb : s.Makes b) : a.stableEquivalent b = true ↔ a = b := by
  refine FormIdentity.stableEquivalent_iff_eq (ha.eq_of_runtimeFormID hb) (fun hsa hsb hp hl => ?_)
  rcases ha with ⟨f, hf, rfl⟩ | ⟨x, -, rfl⟩
  · rcases hb with ⟨g, hg, rfl⟩ | ⟨y, -, rfl⟩
    · obtain ⟨hf1, hf2⟩ := makeFormIdentity_stable hsa
      obtain ⟨hg1, hg2⟩ := makeFormIdentity_stable hsb
      rw [hs.unique f g _ hf hg hf1 (hp ▸ hg1) (by rw [hf2, hg2, hl])]
    · exact absurd hsb Bool.false_ne_true
  · exact absurd hsa Bool.false_ne_true

/-- Where forms are told apart, so are their identities. -/
theorem Session.Distinct.stableEquivalent_iff {s : Session} (hs : s.Distinct) {f g : Form} (hf : s.Finds f) (hg : s.Finds g) :
    (makeFormIdentity f.toTESForm).stableEquivalent (makeFormIdentity g.toTESForm) = true ↔
      makeFormIdentity f.toTESForm = makeFormIdentity g.toTESForm := by
  refine FormIdentity.stableEquivalent_iff_eq (fun h => ?_) (fun hsa hsb hp hl => ?_)
  · rw [makeFormIdentity_runtimeFormID, makeFormIdentity_runtimeFormID] at h
    rw [hs.formID_injective f g hf hg h]
  · obtain ⟨hf1, hf2⟩ := makeFormIdentity_stable hsa
    obtain ⟨hg1, hg2⟩ := makeFormIdentity_stable hsb
    rw [hs.unique f g _ hf hg hf1 (hp ▸ hg1) (by rw [hf2, hg2, hl])]

/-- The lists of identities made in a lawful session are told apart by `StableEquivalent`. -/
theorem Session.Lawful.separates {s : Session} (hs : s.Lawful) {l : List FormIdentity} (hl : ∀ i ∈ l, s.Makes i) :
    Separates FormIdentity.stableEquivalent l :=
  fun _ ha _ hb => hs.stableEquivalent_iff (hl _ ha) (hl _ hb)

end DAVSyncTogether
