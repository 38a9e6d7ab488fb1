import DAVSyncTogether.Probe
import DAVSyncTogether.Lemmas.Games

/-!
# Identities

On arbitrary values `StableEquivalent` is not transitive: a stable and an unstable identity are compared by runtime ID. On the
identities that the plugin makes in a lawful session it is equality, and so are the comparisons by key and by order
(`Session.Lawful.stableKey_injective`). The sorted lists of such identities are then a canonical form of finite sets.
-/

namespace DAVSyncTogether

open ByteString Hex SortUnique

/-! ## Keys -/

/-- Texts that end in a separator and a local or runtime ID agree on both and on what stands before. -/
theorem append_hexPadded_inj {x y : Bytes} {c d : UInt8} {m n : FormID}
    (h : x ++ [c] ++ hexPadded 8 m.toNat = y ++ [d] ++ hexPadded 8 n.toNat) : x = y ∧ c = d ∧ m = n := by
  obtain ⟨hhead, htail⟩ := List.append_inj' h (by rw [hexPadded_length, hexPadded_length])
  obtain ⟨hxy, hcd⟩ := List.append_inj' hhead rfl
  exact ⟨hxy, List.singleton_inj.mp hcd, UInt32.toNat_inj.mp (hexPadded_injective m.toNat_lt n.toNat_lt htail)⟩

/-- Identities with one key are both stable, with one file and local ID, or both unstable, with one runtime ID. -/
theorem FormIdentity.stableKey_inj {a b : FormIdentity} (h : a.stableKey = b.stableKey) :
    (a.isStable = true ∧ b.isStable = true ∧ a.plugin = b.plugin ∧ a.localFormID = b.localFormID) ∨
      (a.isStable = false ∧ b.isStable = false ∧ a.runtimeFormID = b.runtimeFormID) := by
  have hruntime : ascii "runtime:" = ascii "runtime" ++ [58] := rfl
  have hbar : ascii "|" = [124] := rfl
  unfold FormIdentity.stableKey at h
  rw [hruntime, hbar] at h
  cases ha : a.isStable with
  | false =>
    cases hb : b.isStable with
    | false =>
      simp only [ha, hb, Bool.not_false, if_true] at h
      exact Or.inr ⟨rfl, rfl, (append_hexPadded_inj h).2.2⟩
    | true =>
      -- A colon stands before the ID of one key and a bar before that of the other.
      simp only [ha, hb, Bool.not_false, Bool.not_true, if_true, Bool.false_eq_true, if_false] at h
      exact absurd (append_hexPadded_inj h).2.1 (by decide)
  | true =>
    cases hb : b.isStable with
    | false =>
      simp only [ha, hb, Bool.not_false, Bool.not_true, if_true, Bool.false_eq_true, if_false] at h
      exact absurd (append_hexPadded_inj h).2.1 (by decide)
    | true =>
      simp only [ha, hb, Bool.not_true, Bool.false_eq_true, if_false] at h
      obtain ⟨hp, -, hl⟩ := append_hexPadded_inj h
      exact Or.inl ⟨rfl, rfl, hp, hl⟩

section

variable {s : Session} {a b : FormIdentity}

/-- The key tells the identities made in a lawful session apart. -/
theorem Session.Lawful.stableKey_injective (hs : s.Lawful) (ha : s.Makes a) (hb : s.Makes b) (h : a.stableKey = b.stableKey) :
    a = b := by
  rcases FormIdentity.stableKey_inj h with ⟨hsa, hsb, hp, hl⟩ | ⟨-, -, hr⟩
  · exact (hs.stableEquivalent_iff ha hb).mp ((FormIdentity.stableEquivalent_of_stable hsa hsb).mpr ⟨hp, hl⟩)
  · exact ha.eq_of_runtimeFormID hb hr

/-- Neither of two identities is less than the other exactly when they are equal. -/
theorem eq_iff_not_formIdentityLess : a = b ↔ formIdentityLess a b = false ∧ formIdentityLess b a = false := by
  constructor
  · rintro rfl
    exact ⟨formIdentityLess_strictTotal.irrefl a, formIdentityLess_strictTotal.irrefl a⟩
  · rintro ⟨hab, hba⟩
    rcases formIdentityLess_strictTotal.total a b with hlt | heq | hgt
    · rw [hab] at hlt
      cases hlt
    · exact heq
    · rw [hba] at hgt
      cases hgt

/-- Sorted lists of identities made in a lawful session are equivalent exactly when they hold the same identities. -/
theorem Session.Lawful.identityVectorsEquivalent_iff (hs : s.Lawful) {l m : List FormIdentity} (hl : ∀ i ∈ l, s.Makes i)
    (hm : ∀ i ∈ m, s.Makes i) :
    identityVectorsEquivalent (sortAndUnique l) (sortAndUnique m) = true ↔ ∀ i, i ∈ l ↔ i ∈ m := by
  have hequal := identityVectorsEquivalent_iff_map id (l := sortAndUnique l) (m := sortAndUnique m) fun i hi j hj =>
    hs.stableEquivalent_iff (hl i (sortUnique_subset _ _ _ i hi)) (hm j (sortUnique_subset _ _ _ j hj))
  rw [hequal, List.map_id, List.map_id]
  have hmemL : ∀ i, i ∈ sortAndUnique l ↔ i ∈ l := mem_sortUnique (hs.separates hl)
  have hmemM : ∀ i, i ∈ sortAndUnique m ↔ i ∈ m := mem_sortUnique (hs.separates hm)
  constructor
  · intro h i
    rw [← hmemL, h, hmemM]
  · exact sortUnique_congr formIdentityLess_strictTotal (hs.separates hl)

end

/-- In a lawful session, for the identities that `MakeFormIdentity` makes of its forms and of any runtime ID: equivalence, equal
keys and being unordered are one relation, and an equivalence relation; and sorting a list, in either copy, gives the strictly
increasing list of the same identities, so that two results are equivalent index by index exactly when the lists hold the same
identities. -/
theorem identities_canonical {s : Session} (hs : s.Lawful) :
    (∀ f, s.Loaded f → s.Makes (makeFormIdentity f.toTESForm)) ∧ (∀ id, s.Makes (makeFormIdentityOfID s id)) ∧
    (∀ a b, s.Makes a → s.Makes b → (a.stableEquivalent b = true ↔ a.stableKey = b.stableKey) ∧
      (a.stableEquivalent b = true ↔ formIdentityLess a b = false ∧ formIdentityLess b a = false)) ∧
    Equivalence (fun a b : { i // s.Makes i } => a.val.stableEquivalent b.val = true) ∧
    (∀ l, (∀ i ∈ l, s.Makes i) → DAVProbe.sortAndUniqueIdentities l = sortAndUnique l ∧
      (sortAndUnique l).Pairwise (fun a b => formIdentityLess a b = true) ∧ ∀ i, i ∈ sortAndUnique l ↔ i ∈ l) ∧
    ∀ l m, (∀ i ∈ l, s.Makes i) → (∀ i ∈ m, s.Makes i) →
      (identityVectorsEquivalent (sortAndUnique l) (sortAndUnique m) = true ↔ ∀ i, i ∈ l ↔ i ∈ m) := by
  refine ⟨fun f hf => Or.inl ⟨f, hf, rfl⟩, hs.makes_ofID, fun a b ha hb => ⟨?_, ?_⟩,
    ⟨fun a => ?_, fun {a b} h => ?_, fun {a b c} h h' => ?_⟩,
    fun l hl => ⟨rfl, pairwise_sortUnique formIdentityLess_strictTotal (hs.separates hl), mem_sortUnique (hs.separates hl)⟩,
    fun l m => hs.identityVectorsEquivalent_iff⟩
  · rw [hs.stableEquivalent_iff ha hb]
    exact ⟨congrArg FormIdentity.stableKey, hs.stableKey_injective ha hb⟩
  · rw [hs.stableEquivalent_iff ha hb]
    exact eq_iff_not_formIdentityLess
  · exact FormIdentity.stableEquivalent_refl a.val
  · rwa [FormIdentity.stableEquivalent_comm]
  · rw [hs.stableEquivalent_iff a.property b.property] at h
    rw [h]
    exact h'

/-- The helmet and its addon, and an ID of no form. -/
theorem identities_canonical_helmet :
    let l := [makeFormIdentity Helmet.armorForm.toTESForm, makeFormIdentityOfID Helmet.session 7]
    identityVectorsEquivalent (sortAndUnique l) (sortAndUnique l.reverse) = true := by
  intro l
  have hl : ∀ i ∈ l, Helmet.session.Makes i := by
    intro i hi
    rcases List.mem_cons.mp hi with rfl | hi
    · exact (identities_canonical Helmet.lawful).1 (.armo Helmet.armorForm) (by unfold Session.Loaded; decide)
    · rw [List.mem_singleton.mp hi]
      exact (identities_canonical Helmet.lawful).2.1 7
  exact ((identities_canonical Helmet.lawful).2.2.2.2.2 l l.reverse hl (fun i hi => hl i (List.mem_reverse.mp hi))).mpr
    (fun i => List.mem_reverse.symm)

end DAVSyncTogether
