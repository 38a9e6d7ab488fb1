import DAVSyncTogether.Lemmas.Games
import DAVSyncTogether.Lemmas.RenamedCapture

/-!
# Two files in two load orders

A game whose forms a load order lays out finds its own forms (`LaidOut.findsForms`), so two such games of corresponding forms differ
in their load order, for every configuration whose texts name forms of the games, or nothing in either (`LaidOut.loadOrders`). One
game twice: boots of the game's own file, which comes first in both, and a helmet and a hood of two files, whose places in the
load order are exchanged. One variant of the configuration hides the helmet, another replaces the hood.
-/

namespace DAVSyncTogether

open ByteString

/-! ## Forms under other runtime IDs -/

/-- An armor under other runtime IDs, as its addons are. -/
def TESObjectARMO.rename (ρ : FormID → FormID) (a : TESObjectARMO) : TESObjectARMO :=
  { a with formID := ρ a.formID, armorAddons := a.armorAddons.map (Option.map (TESObjectARMA.rename ρ)) }

/-- A form under another runtime ID. -/
def Form.rename (ρ : FormID → FormID) : Form → Form
  | .armo a => .armo (a.rename ρ)
  | .arma a => .arma (a.rename ρ)
  | .actor f => .actor (f.rename ρ)
  | .other f => .other (f.rename ρ)

theorem Form.renamed_rename (ρ : FormID → FormID) (f : Form) : f.Renamed ρ (f.rename ρ) := by
  cases f with
  | armo a => exact .armo ⟨rfl, rfl, rfl⟩
  | arma a => exact .arma a
  | actor f => exact .actor f
  | other f => exact .other f

section

variable {forms : List Form} {ρ : FormID → FormID} {place place' : Bytes → Option FormID}

/-- Searching for a renamed ID finds the renamed form. -/
theorem find?_renamed (hρ : Function.Injective ρ) (forms : List Form) (id : FormID) :
    Option.Rel (Form.Renamed ρ) (forms.find? fun f => f.formID = id)
      ((forms.map (Form.rename ρ)).find? fun g => g.formID = ρ id) := by
  induction forms with
  | nil => exact Option.Rel.none
  | cons f forms ih =>
    have hid : decide ((f.rename ρ).formID = ρ id) = decide (f.formID = id) := by
      rw [decide_eq_decide, Form.formID, (f.renamed_rename ρ).toTESForm]
      exact hρ.eq_iff
    rw [List.map_cons, List.find?_cons, List.find?_cons, hid]
    cases decide (f.formID = id) with
    | true => exact Option.Rel.some (f.renamed_rename ρ)
    | false => exact ih

/-- In a load order every form of a file is found by its name. -/
theorem LaidOut.findsForms (h : LaidOut place forms) : (Session.ofLoadOrder place forms).FindsForms := by
  intro f p hf hfile
  have hmem := (h.loaded_iff f).mp hf
  obtain ⟨base, hbase, hid⟩ := Option.map_eq_some_iff.mp (h.placed f hmem p hfile).2
  change (place p).bind _ = some f
  rw [hbase, Option.bind_some, hid]
  exact (find?_formID h.ids f).mpr hmem

/-- The forms of a game, laid out in another load order, are those of that game under other runtime IDs: the names of its forms, and
names that find nothing in either game, find corresponding forms. -/
theorem LaidOut.renaming (h : LaidOut place forms) (h' : LaidOut place' (forms.map (Form.rename ρ))) (hρ : Function.Injective ρ)
    {names : FormID → Bytes → Prop}
    (hnames : ∀ l p, names l p → (Session.ofLoadOrder place forms).NamesForm l p ∨
      ((Session.ofLoadOrder place forms).lookupForm l p = none ∧
        (Session.ofLoadOrder place' (forms.map (Form.rename ρ))).lookupForm l p = none)) :
    Renaming ρ names (Session.ofLoadOrder place forms) (Session.ofLoadOrder place' (forms.map (Form.rename ρ))) :=
  Renaming.of_findsForms hρ (find?_renamed hρ forms) h.findsForms h'.findsForms hnames

/-- Two games that lay out the same forms differ in their load order, for a configuration whose texts name forms, or nothing in
either game. -/
theorem LaidOut.loadOrders (h : LaidOut place forms) (h' : LaidOut place' (forms.map (Form.rename ρ))) (hρ : Function.Injective ρ)
    {root : Option (List DirectoryEntry)}
    (htexts : ∀ text ∈ configTexts root, ∀ i ∈ parseFormText text,
      (∃ f ∈ forms, f.toTESForm.localFormID = i.localFormID ∧ f.toTESForm.sourceFile = some i.plugin) ∨
        ((Session.ofLoadOrder place forms).lookupForm i.localFormID i.plugin = none ∧
          (Session.ofLoadOrder place' (forms.map (Form.rename ρ))).lookupForm i.localFormID i.plugin = none)) :
    LoadOrders ρ root (Session.ofLoadOrder place forms) (Session.ofLoadOrder place' (forms.map (Form.rename ρ))) := by
  have hnamed : ∀ l p, NamedIn root l p → (Session.ofLoadOrder place forms).NamesForm l p ∨
      ((Session.ofLoadOrder place forms).lookupForm l p = none ∧
        (Session.ofLoadOrder place' (forms.map (Form.rename ρ))).lookupForm l p = none) := by
    rintro l p ⟨text, htext, i, hi, rfl, rfl⟩
    refine (htexts text htext i hi).imp_left ?_
    rintro ⟨f, hf, hlocal, hfile⟩
    exact ⟨f, (h.loaded_iff f).mpr hf, hlocal, hfile⟩
  refine ⟨h.renaming h' hρ fun l p hlp => hlp.elim Or.inl (hnamed l p), h.lawful, h'.lawful, fun l p f hlp hf => ?_⟩
  rcases hnamed l p hlp with ⟨g, hg, rfl, hfile⟩ | ⟨hnone, -⟩
  · rw [h.findsForms g p hg hfile, Option.some.injEq] at hf
    rw [← hf, hfile]
    exact nofun
  · rw [hnone] at hf
    cases hf

end

/-! ## A helmet and a hood -/

namespace SwappedFiles

/-- The load order: `Skyrim.esm` comes first, the other two files have the given places. -/
def place (helmet hood : FormID) (file : Bytes) : Option FormID :=
  if file = ascii "Skyrim.esm" then some 0
  else if file = ascii "Helmet.esp" then some helmet
  else if file = ascii "Hood.esp" then some hood
  else none

/-- An addon of a file in the first load order. -/
def addonForm (base : FormID) (file : Bytes) (localFormID slotMask : UInt32) : TESObjectARMA :=
  { formID := base + localFormID, sourceFile := some file, localFormID, slotMask }

/-- An armor of a file in the first load order, with its one addon behind it. -/
def armorForm (base : FormID) (file : Bytes) (localFormID slotMask : UInt32) : TESObjectARMO :=
  { formID := base + localFormID, sourceFile := some file, localFormID, slotMask
    editorID := none, name := none, armorAddons := [some (addonForm base file (localFormID + 1) slotMask)] }

def boots : TESObjectARMO := armorForm 0 (ascii "Skyrim.esm") 0x12345 0x80

def helmet : TESObjectARMO := armorForm 0x05000000 (ascii "Helmet.esp") 0x800 2

def hood : TESObjectARMO := armorForm 0x06000000 (ascii "Hood.esp") 0x800 2

/-- The addon of the lowered hood. -/
def lowered : TESObjectARMA := addonForm 0x06000000 (ascii "Hood.esp") 0x802 2

/-- The actor of a proxy, which comes from no file. -/
def proxy : TESForm := { formID := 0xFF000900, sourceFile := none, localFormID := 0x900 }

/-- The forms in the first load order. -/
def forms : List Form :=
  [.armo boots, .arma (addonForm 0 (ascii "Skyrim.esm") 0x12346 0x80),
    .armo helmet, .arma (addonForm 0x05000000 (ascii "Helmet.esp") 0x801 2),
    .armo hood, .arma (addonForm 0x06000000 (ascii "Hood.esp") 0x801 2),
    .arma lowered, .actor proxy]

/-- Exchanges the places 5 and 6 of the load order. -/
def swap (id : FormID) : FormID := if id >>> 24 = 5 ∨ id >>> 24 = 6 then id ^^^ 0x03000000 else id

/-- The game in the first load order. -/
def session₁ : Session := Session.ofLoadOrder (place 0x05000000 0x06000000) forms

/-- The game in the second load order. -/
def session₂ : Session := Session.ofLoadOrder (place 0x06000000 0x05000000) (forms.map (Form.rename swap))

/-- The configuration: one variant hides what covers slot 31, another gives the hood another addon, and a third is about a file
that is not there. -/
def root : Option (List DirectoryEntry) :=
  some [{ isRegularFile := true, extension := ascii ".json", opens := true,
          json := some (.object [(ascii "variants", .array [
            .object [(ascii "name", .string (ascii "HideHelmet")),
              (ascii "replaceBySlot", .object [(ascii "31", .array [])])],
            .object [(ascii "name", .string (ascii "HoodDown")),
              (ascii "replaceByForm", .object [(ascii "Hood.esp|801", .array [.string (ascii "Hood.esp|802")])])],
            .object [(ascii "name", .string (ascii "CloakDown")),
              (ascii "replaceByForm", .object [(ascii "Cloak.esp|801", .string (ascii "Cloak.esp|802"))])]])]) }]

/-- The player wears all three; the helmet is hidden, the hood replaced, the boots are shown. -/
def player₁ : PlayerCharacter where
  object3D := .node (ascii "Root") false
    [.geometry (ascii "Down (06000802) [0]/Hood (06000800) [0]") false,
      .geometry (ascii "Boots (00012346) [0]/Boots (00012345) [0]") false]
  name := some (ascii "Player")
  inventory := [boots, helmet, hood].map fun a => { item := some (.armo a), count := 1, worn := some true }

/-- The same player in the other load order, with another order of the inventory and the hood rendered in two nodes. -/
def player₂ : PlayerCharacter where
  object3D := .node (ascii "Root") false
    [.geometry (ascii "Boots (00012346) [0]/Boots (00012345) [0]") false,
      .geometry (ascii "Down (05000802) [0]/Hood (05000800) [0]") false, .geometry (ascii "Skin") false,
      .geometry (ascii "Down (05000802) [1]/Hood (05000800) [1]") false]
  name := some (ascii "Player")
  inventory := ([hood, boots, helmet].map (TESObjectARMO.rename swap)).map fun a =>
    { item := some (.armo a), count := 1, worn := some true }

theorem laidOut₁ : LaidOut (place 0x05000000 0x06000000) forms where
  ids := by decide
  placed := by decide
  addons := by simp [forms, boots, helmet, hood, armorForm]

theorem laidOut₂ : LaidOut (place 0x06000000 0x05000000) (forms.map (Form.rename swap)) where
  ids := by decide
  placed := by decide
  addons := by simp [forms, boots, helmet, hood, armorForm, Form.rename, TESObjectARMO.rename]

/-- Exchanging the places twice changes nothing. -/
theorem swap_swap (id : FormID) : swap (swap id) = id := by
  have hplace : (id ^^^ 0x03000000) >>> 24 = id >>> 24 ^^^ 3 := UInt32.shiftRight_xor
  unfold swap
  by_cases h : id >>> 24 = 5 ∨ id >>> 24 = 6
  · have h' : (id ^^^ 0x03000000) >>> 24 = 5 ∨ (id ^^^ 0x03000000) >>> 24 = 6 := by
      rw [hplace]
      rcases h with h | h
      · exact Or.inr (by rw [h]; rfl)
      · exact Or.inl (by rw [h]; rfl)
    rw [if_pos h, if_pos h', UInt32.xor_assoc, UInt32.xor_self, UInt32.xor_zero]
  · rw [if_neg h, if_neg h]

theorem swap_injective : Function.Injective swap := Function.LeftInverse.injective swap_swap

/-- The two games differ in the order of the two files. -/
theorem loadOrders : LoadOrders swap root session₁ session₂ := laidOut₁.loadOrders laidOut₂ swap_injective (by decide)

theorem parsedPairs₁ : player₁.object3D.parsedPairs = {(0x06000802, 0x06000800), (0x00012346, 0x00012345)} := by
  have hlist : player₁.object3D.objects.filterMap (fun p => DAVProbe.parseArmorNode p.1) =
      [(0x06000802, 0x06000800), (0x00012346, 0x00012345)] := by
    decide
  ext r
  rw [NiAVObject.mem_parsedPairs, hlist]
  simp

theorem parsedPairs₂ : player₂.object3D.parsedPairs = {(0x05000802, 0x05000800), (0x00012346, 0x00012345)} := by
  have hlist : player₂.object3D.objects.filterMap (fun p => DAVProbe.parseArmorNode p.1) =
      [(0x00012346, 0x00012345), (0x05000802, 0x05000800), (0x05000802, 0x05000800)] := by
    decide
  ext r
  rw [NiAVObject.mem_parsedPairs, hlist]
  simp [or_comm]

theorem worn₁ : player₁.worn = [boots, helmet, hood] := by decide

theorem worn₂ : player₂.worn = [hood, boots, helmet].map (TESObjectARMO.rename swap) := by decide

/-- The two games look at one player. -/
theorem playersAlike : PlayersAlike swap session₁ session₂ player₁ player₂ where
  object3D := by simp [player₁, player₂]
  parsedPairs := by
    rw [parsedPairs₁, parsedPairs₂, Set.image_pair]
    rfl
  worn := by
    rw [worn₁, worn₂]
    decide
  loaded₁ := by
    rw [worn₁]
    simp only [List.forall_mem_cons, session₁, laidOut₁.loaded_iff]
    simp [forms]
  loaded₂ := by
    rw [worn₂]
    simp only [List.forall_mem_map, List.forall_mem_cons, session₂, laidOut₂.loaded_iff]
    simp [forms, Form.rename]
  armorFiles := by simp [worn₁, boots, helmet, hood, armorForm]
  addonFiles := by simp [worn₁, boots, helmet, hood, armorForm, addonForm]
  renderedFiles := by
    intro a _ id hid
    rw [parsedPairs₁] at hid
    rcases hid with hid | hid
    · obtain ⟨rfl, -⟩ := Prod.mk.inj hid
      exact ⟨.arma lowered, by decide, by decide⟩
    · obtain ⟨rfl, -⟩ := Prod.mk.inj hid
      exact ⟨.arma (addonForm 0 (ascii "Skyrim.esm") 0x12346 0x80), by decide, by decide⟩

end SwappedFiles

end DAVSyncTogether
