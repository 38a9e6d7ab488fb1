import DAVSyncTogether.Lemmas.Loading
import DAVSyncTogether.Lemmas.Games

/-!
# The loaded index

Where the forms that the session finds are told apart, `StableEquivalent` is equality on the identities of addons, so the lists
that `Load` stores are strictly increasing, whatever the files say.
-/

namespace DAVSyncTogether

open ByteString SortUnique

/-- A replacement list in canonical form: sorted, without equivalent members, and of addons that the session finds. -/
structure CanonicalAddons (s : Session) (l : List FormIdentity) : Prop where
  sorted : l.Pairwise (fun a b => formIdentityLess a b = true)
  distinct : l.Pairwise (fun a b => a.stableEquivalent b = false)
  addons : ∀ i ∈ l, FromAddon s i

/-- An index whose variants stand under their names with canonical lists for every source, and whose two sets are the sources
of all variants together. -/
structure DAVConfigIndex.WellFormed (s : Session) (index : DAVConfigIndex) : Prop where
  named : ∀ name variant, index.variants.lookup name = some variant → variant.name = name
  forms_ne_nil : ∀ name variant, index.variants.lookup name = some variant →
    ∀ k l, variant.replaceByForm.lookup k = some l → l ≠ []
  forms : ∀ name variant, index.variants.lookup name = some variant →
    ∀ k l, variant.replaceByForm.lookup k = some l → CanonicalAddons s l
  slots : ∀ name variant, index.variants.lookup name = some variant →
    ∀ slot l, variant.replaceBySlot.lookup slot = some l → CanonicalAddons s l
  biped : ∀ name variant, index.variants.lookup name = some variant → ∀ slot ∈ variant.replaceBySlot, 30 ≤ slot ∧ slot ≤ 61
  sourceArmorAddons : ∀ k, k ∈ index.sourceArmorAddons ↔
    ∃ name variant, index.variants.lookup name = some variant ∧ k ∈ variant.replaceByForm
  sourceSlots : ∀ slot, slot ∈ index.sourceSlots ↔
    ∃ name variant, index.variants.lookup name = some variant ∧ slot ∈ variant.replaceBySlot

/-- A stored list is canonical where the forms are told apart. -/
theorem Session.Distinct.canonicalAddons {s : Session} (hs : s.Distinct) {l : List FormIdentity} (h : IsReplacementList s l) :
    CanonicalAddons s l := by
  obtain ⟨read, hread, rfl⟩ := h
  have hmem : ∀ i ∈ sortAndUnique read, FromAddon s i := fun i hi => hread i (sortUnique_subset _ _ _ i hi)
  have hseparates : Separates FormIdentity.stableEquivalent read := by
    intro a ha b hb
    obtain ⟨_, addon, hf, rfl⟩ := hread a ha
    obtain ⟨_, addon', hg, rfl⟩ := hread b hb
    exact hs.stableEquivalent_iff (FormIdentity.finds_of_resolve hf) (FormIdentity.finds_of_resolve hg)
  have hsorted := pairwise_sortUnique formIdentityLess_strictTotal hseparates
  refine ⟨hsorted, List.Pairwise.imp_of_mem (fun {a b} ha hb hlt => ?_) hsorted, hmem⟩
  -- Equivalent members would be equal, and nothing is less than itself.
  rw [Bool.eq_false_iff]
  intro heqv
  rw [(hseparates a (sortUnique_subset _ _ _ a ha) b (sortUnique_subset _ _ _ b hb)).mp heqv,
    formIdentityLess_strictTotal.irrefl] at hlt
  cases hlt

/-- Whatever files `Load` reads, in any order and with any contents, the index is well formed; and a file that does not parse
contributes nothing. -/
theorem load_index_wellFormed {s : Session} (hs : s.Distinct) (root : Option (List DirectoryEntry)) :
    (load s root).WellFormed s ∧ ∀ before entry after, entry.json = none →
      load s (some (before ++ entry :: after)) = load s (some (before ++ after)) := by
  have h := load_invariant s root
  constructor
  · refine ⟨fun name variant hv => (h.variants name variant hv).named, fun name variant hv k l hl => ?_,
      fun name variant hv k l hl => ?_, fun name variant hv slot l hl => ?_, fun name variant hv slot hslot => ?_, h.addons, h.slots⟩
    · exact ((h.variants name variant hv).forms k l hl).1
    · exact hs.canonicalAddons ((h.variants name variant hv).forms k l hl).2
    · exact hs.canonicalAddons ((h.variants name variant hv).slots slot l hl).2
    · obtain ⟨l, hl⟩ := Option.isSome_iff_exists.mp (AList.lookup_isSome.mpr hslot)
      exact ((h.variants name variant hv).slots slot l hl).1
  · intro before entry after hparse
    rw [load, load, Option.getD_some, Option.getD_some, List.foldl_append, List.foldl_cons, loadEntry_of_unparsed s _ hparse,
      List.foldl_append]

/-- The index that hides the helmet, with a file that does not parse beside it. -/
theorem load_index_wellFormed_helmet : Helmet.index.WellFormed Helmet.session ∧ ∀ before entry after, entry.json = none →
    load Helmet.session (some (before ++ entry :: after)) = load Helmet.session (some (before ++ after)) :=
  load_index_wellFormed Helmet.lawful.distinct
    (some [{ isRegularFile := true, extension := ascii ".json", opens := true, json := some Helmet.config }])

end DAVSyncTogether
