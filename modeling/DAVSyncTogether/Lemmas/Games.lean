import DAVSyncTogether.Run
import DAVSyncTogether.NetworkReceiver

/-!
# Games to run in

A game given by the list of its forms is lawful when the forms are told apart (`ListsForms.lawful`), and so is one in which a load
order lays them out (`LaidOut.lawful`). The counterexamples and witnesses run in such games. The first one has a plugin file
with a helmet and its addon, and a configuration whose one variant hides what covers slot 31. The surroundings send every message,
at a clock that stands still, unless said otherwise. The second one has a hood with any list of addons and one more addon that a
variant can put in their place. Receivers are given one proxy, or none yet.
-/

namespace DAVSyncTogether

open ByteString

/-! ## A game from a list of forms -/

/-- The game with the listed forms. -/
def Session.ofForms (forms : List Form) : Session where
  lookupByID id := forms.find? fun f => f.formID = id
  lookupForm l p := forms.find? fun f => f.toTESForm.localFormID = l ∧ f.toTESForm.sourceFile = some p

/-- A list of forms of a game: told apart by runtime ID, and by file and local ID. -/
structure ListsForms (forms : List Form) : Prop where
  ids : (forms.map Form.formID).Nodup
  names : (forms.map fun f => (f.toTESForm.sourceFile, f.toTESForm.localFormID)).Nodup
  files : ∀ f ∈ forms, f.toTESForm.sourceFile ≠ none ∧ f.toTESForm.sourceFile ≠ some []
  addons : ∀ a, Form.armo a ∈ forms → ∀ addon, some addon ∈ a.armorAddons → Form.arma addon ∈ forms

section

variable {forms : List Form}

/-- Of forms that are told apart by runtime ID, each is found by its own. -/
theorem find?_formID (hids : (forms.map Form.formID).Nodup) (f : Form) :
    forms.find? (fun g => g.formID = f.formID) = some f ↔ f ∈ forms := by
  refine ⟨List.mem_of_find?_eq_some, fun hf => ?_⟩
  cases hg : forms.find? fun g => g.formID = f.formID with
  | none => simpa using List.find?_eq_none.mp hg f hf
  | some g =>
    have hid : g.formID = f.formID := by simpa using List.find?_some hg
    rw [List.inj_on_of_nodup_map hids (List.mem_of_find?_eq_some hg) hf hid]

/-- The forms of the game are the listed ones. -/
theorem ListsForms.loaded_iff (h : ListsForms forms) (f : Form) : (Session.ofForms forms).Loaded f ↔ f ∈ forms :=
  find?_formID h.ids f

theorem ListsForms.lawful (h : ListsForms forms) : (Session.ofForms forms).Lawful where
  formID_of_lookup id f hf := by simpa using List.find?_some hf
  loaded_of_lookupForm l p f hf := (h.loaded_iff f).mpr (List.mem_of_find?_eq_some hf)
  loaded_of_armorAddons a ha addon haddon :=
    (h.loaded_iff _).mpr (h.addons a ((h.loaded_iff _).mp ha) addon haddon)
  sourceFile_ne_nil f hf := (h.files f ((h.loaded_iff f).mp hf)).2
  unique f g p hf hg hfp hgp hl :=
    List.inj_on_of_nodup_map h.names ((h.loaded_iff f).mp hf) ((h.loaded_iff g).mp hg)
      (Prod.ext (hfp.trans hgp.symm) hl)

end

/-! ## A game in a load order -/

/-- The game with the listed forms, whose files have places in a load order: `LookupForm` adds the local ID to the place of the
file. -/
def Session.ofLoadOrder (place : Bytes → Option FormID) (forms : List Form) : Session where
  lookupByID id := forms.find? fun f => f.formID = id
  lookupForm l p := (place p).bind fun base => forms.find? fun f => f.formID = base + l

/-- A list of forms of a game: told apart by runtime ID, and those of a file laid out from its place on. -/
structure LaidOut (place : Bytes → Option FormID) (forms : List Form) : Prop where
  ids : (forms.map Form.formID).Nodup
  placed : ∀ f ∈ forms, ∀ p ∈ f.toTESForm.sourceFile,
    p ≠ [] ∧ (place p).map (fun base => base + f.toTESForm.localFormID) = some f.formID
  addons : ∀ a, Form.armo a ∈ forms → ∀ addon, some addon ∈ a.armorAddons → Form.arma addon ∈ forms

section

variable {place : Bytes → Option FormID} {forms : List Form}

/-- The forms of the game are the listed ones. -/
theorem LaidOut.loaded_iff (h : LaidOut place forms) (f : Form) : (Session.ofLoadOrder place forms).Loaded f ↔ f ∈ forms :=
  find?_formID h.ids f

theorem LaidOut.lawful (h : LaidOut place forms) : (Session.ofLoadOrder place forms).Lawful where
  formID_of_lookup id f hf := by simpa using List.find?_some hf
  loaded_of_lookupForm l p f hf := by
    obtain ⟨base, -, hf⟩ := Option.bind_eq_some_iff.mp hf
    exact (h.loaded_iff f).mpr (List.mem_of_find?_eq_some hf)
  loaded_of_armorAddons a ha addon haddon := (h.loaded_iff _).mpr (h.addons a ((h.loaded_iff _).mp ha) addon haddon)
  sourceFile_ne_nil f hf hfile := (h.placed f ((h.loaded_iff f).mp hf) [] hfile).1 rfl
  unique f g p hf hg hfp hgp hl := by
    have hf' := (h.loaded_iff f).mp hf
    have hg' := (h.loaded_iff g).mp hg
    -- The place of the file and the local ID make the runtime ID.
    have hid := (h.placed f hf' p hfp).2
    rw [hl, (h.placed g hg' p hgp).2, Option.some.injEq] at hid
    exact List.inj_on_of_nodup_map h.ids hf' hg' hid.symm

end

/-- A variant of an index that passes a test, found by evaluation. -/
theorem exists_variant (index : DAVConfigIndex) (name : Bytes) (p : VariantRule → Bool)
    (h : (index.variants.lookup name).any p = true) : ∃ variant, index.variants.lookup name = some variant ∧ p variant = true :=
  (Option.any_eq_true _ _).mp h

/-! ## A helmet and a variant that hides it -/

namespace Helmet

open DAVProbe

def addonForm : TESObjectARMA :=
  { formID := 0x05000801, sourceFile := some (ascii "Helmet.esp"), localFormID := 0x801, slotMask := 2 }

def armorForm : TESObjectARMO :=
  { formID := 0x05000800, sourceFile := some (ascii "Helmet.esp"), localFormID := 0x800, slotMask := 2
    editorID := none, name := some (ascii "Helmet"), armorAddons := [some addonForm] }

def session : Session := Session.ofForms [.armo armorForm, .arma addonForm]

theorem lawful : session.Lawful := by
  refine ListsForms.lawful ⟨by decide, by decide, by decide, fun a ha addon haddon => ?_⟩
  obtain rfl : a = armorForm := by simpa using ha
  obtain rfl : addon = addonForm := by simpa [armorForm] using haddon
  simp

/-- The configuration: one variant, with an empty replacement list for slot 31. -/
def config : Json :=
  .object [(ascii "variants", .array [.object
    [(ascii "name", .string (ascii "HideHelmet")), (ascii "replaceBySlot", .object [(ascii "31", .array [])])]])]

def index : DAVConfigIndex :=
  load session (some [{ isRegularFile := true, extension := ascii ".json", opens := true, json := some config }])

/-- The worn helmet, by what is rendered for it. -/
def worn (visualState : ArmorVisualState) (activeArmorAddons : List FormIdentity) : WornArmorState :=
  { armor := makeFormIdentity armorForm.toTESForm, visualState, activeArmorAddons
    baseArmorAddons := [makeFormIdentity addonForm.toTESForm] }

def hidden : WornArmorState := worn .hidden []

def visible : WornArmorState := worn .visible [makeFormIdentity addonForm.toTESForm]

/-- Another helmet of the file, hidden as well. -/
def otherHidden : WornArmorState :=
  { hidden with armor := { plugin := ascii "Helmet.esp", localFormID := 0x810, runtimeFormID := 0x05000810 } }

/-- A service that sends whatever it is given, and one that does not run. -/
def sending : DAVNetworkService := { running := true, send := some fun _ => .ok }

def stopped : DAVNetworkService := { running := false, send := none }

/-- A tick that sees the helmet. -/
def tick (service : DAVNetworkService) (a : WornArmorState) : Tick where
  clock _ := 0
  network _ := service
  snapshot := { davLoaded := true, playerName := ascii "Player", wornArmors := [a] }
  distinct := List.nodup_singleton _

/-- The one variant is selected for the hidden helmet. -/
example : selectVariant session index hidden = some (ascii "HideHelmet") := by decide

end Helmet

/-! ## A hood with an addon for each race -/

namespace Hood

/-- An addon of the hood's file. -/
def addonForm (localFormID slotMask : UInt32) : TESObjectARMA :=
  { formID := 0x05000000 + localFormID, sourceFile := some (ascii "Hood.esp"), localFormID, slotMask }

/-- The addon of the lowered hood. -/
def lowered : TESObjectARMA := addonForm 0x8FF 2

def armorForm (addons : List TESObjectARMA) : TESObjectARMO :=
  { formID := 0x05000800, sourceFile := some (ascii "Hood.esp"), localFormID := 0x800, slotMask := 3
    editorID := none, name := some (ascii "Hood"), armorAddons := addons.map some }

def forms (addons : List TESObjectARMA) : List Form := .armo (armorForm addons) :: (addons ++ [lowered]).map .arma

def session (addons : List TESObjectARMA) : Session := Session.ofForms (forms addons)

/-- A game whose forms are told apart, all from the hood's file, is lawful. -/
theorem lawful {addons : List TESObjectARMA} (hids : ((forms addons).map Form.formID).Nodup)
    (hnames : ((forms addons).map fun f => (f.toTESForm.sourceFile, f.toTESForm.localFormID)).Nodup)
    (hfiles : ∀ addon ∈ addons, addon.sourceFile = some (ascii "Hood.esp")) : (session addons).Lawful := by
  refine ListsForms.lawful ⟨hids, hnames, fun f hf => ?_, fun a ha addon haddon => ?_⟩
  · have hfile : f.toTESForm.sourceFile = some (ascii "Hood.esp") := by
      rcases List.mem_cons.mp hf with rfl | hf
      · rfl
      · obtain ⟨addon, haddon, rfl⟩ := List.mem_map.mp hf
        rcases List.mem_append.mp haddon with haddon | haddon
        · exact hfiles addon haddon
        · rw [List.mem_singleton.mp haddon]
          rfl
    rw [hfile]
    exact ⟨nofun, by decide⟩
  · rcases List.mem_cons.mp ha with ha | ha
    · cases ha
      obtain ⟨b, hb, hab⟩ := List.mem_map.mp haddon
      cases hab
      exact List.mem_cons_of_mem _ (List.mem_map.mpr ⟨addon, List.mem_append_left _ hb, rfl⟩)
    · obtain ⟨b, -, hab⟩ := List.mem_map.mp ha
      cases hab

/-- A configuration of one file with the given variants. -/
def root (variants : List Json) : Option (List DirectoryEntry) :=
  some [{
    isRegularFile := true, extension := ascii ".json", opens := true
    json := some (.object [(ascii "variants", .array variants)]) }]

/-- The worn hood, by what is rendered for it. -/
def worn (addons : List TESObjectARMA) (visualState : ArmorVisualState) (activeArmorAddons : List FormIdentity) : WornArmorState :=
  { armor := makeFormIdentity (armorForm addons).toTESForm, visualState, activeArmorAddons
    baseArmorAddons := addons.map fun addon => makeFormIdentity addon.toTESForm }

end Hood

/-! ## A proxy -/

namespace Proxy

/-- The proxy actor. -/
def form : TESForm := { formID := 0x07000900, sourceFile := some (ascii "Proxies.esp"), localFormID := 0x900 }

/-- The proxy of every connection, shown as an empty skeleton. -/
def mapped : Receiver where
  resolver := some fun _ => (.ok, form.formID)
  actors _ := { object3D := .node (ascii "Skeleton") false [] }

/-- The receiver before the proxy appears. -/
def unmapped : Receiver where
  resolver := some fun _ => (.targetNotFound, kInvalidProxyFormID)
  actors _ := { object3D := .null }

/-- A Papyrus machine that takes every call. -/
def dispatching : VirtualMachine := { available := true, dispatchStaticCall := true }

end Proxy

end DAVSyncTogether
