import DAVSyncTogether.Lib.ByteString
import Mathlib.Data.List.Basic
import Mathlib.Data.List.TakeWhile

/-!
# Searches in a text of segments

A text is read as segments that a separator byte keeps apart (`List.splitOn`). A needle without the separator never spans two
segments, so what stands behind its first occurrence, up to the next separator, is found segment by segment
(`segmentAfter_eq_findSome`). That segment need not begin with the needle: `FirstAtBoundary` says when a search of the whole
text and a search for a segment that begins with the needle give the same (`findSome_textAfter_iff`).
-/

namespace ByteString

/-! ## The first occurrence -/

/-- An occurrence that does not begin inside a piece does not begin there when more text follows. -/
theorem NoOccurrence.extend {needle x y : Bytes} (h : NoOccurrence needle x y) (hlen : needle.length ≤ y.length) (z : Bytes) :
    NoOccurrence needle x (y ++ z) := by
  induction x with
  | nil => trivial
  | cons b x ih =>
    refine ⟨fun hp => h.1 ?_, ih h.2⟩
    rw [← List.append_assoc] at hp
    refine List.prefix_of_prefix_length_le hp (List.prefix_append _ _) ?_
    rw [List.length_append]
    omega

/-- A needle that does not occur in a piece does not begin there when a byte follows that it lacks. -/
theorem NoOccurrence.of_separator {needle x : Bytes} {c : UInt8} (hc : c ∉ needle) (h : ¬needle <:+: x) (y : Bytes) :
    NoOccurrence needle x (c :: y) := by
  induction x with
  | nil => trivial
  | cons b x ih =>
    have hx : ¬needle <:+: x := fun hi => h (hi.trans (List.suffix_cons b x).isInfix)
    refine ⟨fun hp => ?_, ih hx⟩
    rcases List.prefix_or_prefix_of_prefix hp (List.prefix_append (b :: x) (c :: y)) with hq | ⟨t, rfl⟩
    · exact h hq.isInfix
    · -- The needle would reach over the separator.
      rw [List.prefix_append_right_inj] at hp
      cases t with
      | nil => exact h (by simp)
      | cons d t =>
        obtain ⟨rfl, -⟩ := List.cons_prefix_cons.mp hp
        exact hc (by simp)

/-- The first occurrence of a needle, and what stands before and behind it. -/
theorem findIdx_eq_some {needle s : Bytes} {i : Nat} :
    findIdx needle s = some i ↔ ∃ x y, s = x ++ (needle ++ y) ∧ NoOccurrence needle x (needle ++ y) ∧ i = x.length := by
  constructor
  · intro h
    induction s generalizing i with
    | nil =>
      rw [findIdx] at h
      split at h
      · rename_i hempty
        exact ⟨[], [], by simp [List.isEmpty_iff.mp hempty], trivial, (Option.some.inj h).symm⟩
      · cases h
    | cons b s ih =>
      rw [findIdx] at h
      split at h
      · rename_i hp
        obtain ⟨y, hy⟩ := List.isPrefixOf_iff_prefix.mp hp
        exact ⟨[], y, hy.symm, trivial, (Option.some.inj h).symm⟩
      · rename_i hp
        obtain ⟨j, hj, rfl⟩ := Option.map_eq_some_iff.mp h
        obtain ⟨x, y, rfl, hx, rfl⟩ := ih hj
        exact ⟨b :: x, y, rfl, ⟨fun hq => hp (List.isPrefixOf_iff_prefix.mpr hq), hx⟩, rfl⟩
  · rintro ⟨x, y, rfl, hx, rfl⟩
    rw [findIdx_append hx, findIdx_of_begins (List.prefix_append _ _)]
    rfl

/-- A needle is not found in a text in which it does not occur. -/
theorem findIdx_eq_none {needle s : Bytes} : findIdx needle s = none ↔ ¬needle <:+: s := by
  rw [Option.eq_none_iff_forall_ne_some]
  constructor
  · intro h hi
    induction s with
    | nil =>
      obtain rfl := List.infix_nil.mp hi
      exact h 0 rfl
    | cons b s ih =>
      rcases List.infix_cons_iff.mp hi with hp | hi
      · exact h 0 (findIdx_of_begins hp)
      · refine ih (fun i hs => ?_) hi
        by_cases hp : needle <+: b :: s
        · exact h 0 (findIdx_of_begins hp)
        · exact h (i + 1) (by rw [findIdx, if_neg (fun hq => hp (List.isPrefixOf_iff_prefix.mp hq)), hs]; rfl)
  · rintro h i hi
    obtain ⟨x, y, rfl, -, -⟩ := findIdx_eq_some.mp hi
    exact h ⟨x, y, by simp⟩

/-- What stands behind the first occurrence of a needle. -/
def textAfter (needle s : Bytes) : Option Bytes := (findIdx needle s).map (fun i => s.drop (i + needle.length))

theorem textAfter_of_occurrence {needle x y : Bytes} (h : NoOccurrence needle x (needle ++ y)) :
    textAfter needle (x ++ (needle ++ y)) = some y := by
  rw [textAfter, findIdx_eq_some.mpr ⟨x, y, rfl, h, rfl⟩, Option.map_some, ← List.drop_drop, List.drop_left, List.drop_left]

theorem textAfter_eq_none {needle s : Bytes} : textAfter needle s = none ↔ ¬needle <:+: s := by
  rw [textAfter, Option.map_eq_none_iff, findIdx_eq_none]

/-! ## Segment by segment -/

/-- What stands behind the first occurrence of a needle, up to the next separator. -/
def segmentAfter (c : UInt8) (needle s : Bytes) : Option Bytes := (textAfter needle s).map (List.takeWhile (· != c))

/-- Text that is taken up to a separator ends at it, or at the end of the text. -/
theorem takeWhile_of_notMem {c : UInt8} {x : Bytes} (h : c ∉ x) : x.takeWhile (· != c) = x := by
  refine List.takeWhile_eq_self_iff.mpr (fun b hb => ?_)
  rw [bne_iff_ne]
  rintro rfl
  exact h hb

theorem takeWhile_separator {c : UInt8} {x : Bytes} (h : c ∉ x) (y : Bytes) : (x ++ c :: y).takeWhile (· != c) = x := by
  rw [List.takeWhile_append, takeWhile_of_notMem h, if_pos rfl, List.takeWhile_cons_of_neg (by simp), List.append_nil]

/-- A search in a text whose first segment ends at a separator. -/
theorem segmentAfter_cons {c : UInt8} {needle x : Bytes} (hc : c ∉ needle) (hne : needle ≠ []) (hx : c ∉ x) (y : Bytes) :
    segmentAfter c needle (x ++ c :: y) = (textAfter needle x).or (segmentAfter c needle y) := by
  by_cases hi : needle <:+: x
  · obtain ⟨i, hfind⟩ := Option.ne_none_iff_exists'.mp (fun h => findIdx_eq_none.mp h hi)
    obtain ⟨p, q, rfl, hp, -⟩ := findIdx_eq_some.mp hfind
    have hlong : NoOccurrence needle p (needle ++ (q ++ c :: y)) := by
      have := hp.extend (by simp) (c :: y)
      rwa [List.append_assoc] at this
    have hq : c ∉ q := fun h => hx (by simp [h])
    rw [textAfter_of_occurrence hp, segmentAfter, List.append_assoc, List.append_assoc, textAfter_of_occurrence hlong,
      Option.map_some, takeWhile_separator hq]
    rfl
  · have hskip : NoOccurrence needle (x ++ [c]) y := by
      refine NoOccurrence.append (NoOccurrence.of_separator hc hi y) ⟨fun hp => ?_, trivial⟩
      obtain ⟨b, t, rfl⟩ := List.exists_cons_of_ne_nil hne
      obtain ⟨rfl, -⟩ := List.cons_prefix_cons.mp hp
      exact hc (by simp)
    have hafter : textAfter needle (x ++ c :: y) = textAfter needle y := by
      have := findIdx_append hskip
      rw [List.append_assoc, List.singleton_append] at this
      rw [textAfter, this, textAfter, Option.map_map]
      congr 1
      funext i
      rw [Function.comp_apply, Nat.add_assoc, ← List.drop_drop, List.length_append, List.length_singleton, drop_separator]
    rw [segmentAfter, hafter, textAfter_eq_none.mpr hi]
    rfl

/-- A needle without the separator is searched for segment by segment. -/
theorem segmentAfter_eq_findSome {c : UInt8} {needle : Bytes} (hc : c ∉ needle) (hne : needle ≠ []) (s : Bytes) :
    segmentAfter c needle s = (s.splitOn c).findSome? (textAfter needle) := by
  by_cases hs : c ∈ s
  · obtain ⟨x, y, rfl, hx⟩ := List.eq_append_cons_of_mem hs
    rw [segmentAfter_cons hc hne hx, List.splitOn_append_cons_self_of_not_mem hx, List.findSome?_cons,
      segmentAfter_eq_findSome hc hne y]
    cases textAfter needle x <;> rfl
  · rw [List.splitOn_eq_singleton hs, List.findSome?_singleton, segmentAfter]
    cases h : textAfter needle s with
    | none => rfl
    | some y =>
      have hy : c ∉ y := by
        obtain ⟨i, -, rfl⟩ := Option.map_eq_some_iff.mp h
        exact fun hm => hs (List.mem_of_mem_drop hm)
      rw [Option.map_some, takeWhile_of_notMem hy]
termination_by s.length
decreasing_by
  subst_vars
  simp only [List.length_append, List.length_cons]
  omega

/-- A search in a joined text is a search of its parts, one after the other. -/
theorem segmentAfter_intercalate {c : UInt8} {needle : Bytes} (hc : c ∉ needle) (hne : needle ≠ []) {parts : List Bytes}
    (h : parts ≠ []) : segmentAfter c needle ([c].intercalate parts) = parts.findSome? (segmentAfter c needle) := by
  induction parts with
  | nil => exact absurd rfl h
  | cons x parts ih =>
    cases parts with
    | nil => rw [List.intercalate_singleton, List.findSome?_singleton]
    | cons y parts =>
      rw [List.intercalate_cons_cons, List.append_assoc, List.singleton_append, segmentAfter_eq_findSome hc hne,
        List.splitOn_append_cons_self, List.findSome?_append, ← segmentAfter_eq_findSome hc hne,
        ← segmentAfter_eq_findSome hc hne, ih (by simp), List.findSome?_cons (a := x)]
      cases segmentAfter c needle x <;> rfl

/-- What the search of a text cuts out between the needle and the next separator. -/
theorem substr_separator {s : Bytes} {pos : Nat} (hpos : pos ≤ s.length) (c : UInt8) :
    substr s pos ((find s [c] pos).getD s.length - pos) = (s.drop pos).takeWhile (· != c) := by
  rw [find, if_pos hpos, substr]
  cases hfind : findIdx [c] (s.drop pos) with
  | none =>
    have hc : c ∉ s.drop pos := by
      rw [findIdx_eq_none, List.singleton_infix_iff] at hfind
      exact hfind
    rw [takeWhile_of_notMem hc, Option.map_none, Option.getD_none]
    exact List.take_of_length_le (by simp)
  | some i =>
    obtain ⟨x, y, hxy, hx, rfl⟩ := findIdx_byte_eq_some.mp hfind
    rw [Option.map_some, Option.getD_some, Nat.add_sub_cancel_left, hxy, takeWhile_separator hx, List.take_left]

/-! ## Segments that begin with the needle -/

/-- What stands behind the needle in the first segment that begins with it. -/
def segmentBehind (needle : Bytes) (segments : List Bytes) : Option Bytes :=
  segments.findSome? (fun segment => segment.dropPrefix? needle)

/-- The first occurrence of the needle begins its segment, or the first segment that begins with the needle says the same as
the text behind that occurrence. -/
def FirstAtBoundary (needle : Bytes) : List Bytes → Prop
  | [] => True
  | segment :: segments =>
    match findIdx needle segment with
    | none => FirstAtBoundary needle segments
    | some 0 => True
    | some (i + 1) => segmentBehind needle segments = some (segment.drop (i + 1 + needle.length))

/-- A segment in which the first occurrence is not at the beginning does not begin with the needle. -/
theorem dropPrefix_eq_none {needle segment : Bytes} (h : findIdx needle segment ≠ some 0) :
    segment.dropPrefix? needle = none := by
  rw [Option.eq_none_iff_forall_ne_some]
  intro y hy
  obtain ⟨p, rfl, hp⟩ := List.dropPrefix?_eq_some_iff.mp hy
  obtain rfl := eq_of_beq hp
  exact h (findIdx_of_begins (List.prefix_append _ _))

/-- The two searches give the same exactly where the first occurrence is at a boundary or makes no difference. -/
theorem findSome_textAfter_iff (needle : Bytes) (segments : List Bytes) :
    segments.findSome? (textAfter needle) = segmentBehind needle segments ↔ FirstAtBoundary needle segments := by
  induction segments with
  | nil => simp [segmentBehind, FirstAtBoundary]
  | cons segment segments ih =>
    rw [segmentBehind, List.findSome?_cons, List.findSome?_cons, FirstAtBoundary]
    cases hfind : findIdx needle segment with
    | none =>
      rw [dropPrefix_eq_none (by simp [hfind]), textAfter, hfind]
      exact ih
    | some i =>
      cases i with
      | zero =>
        obtain ⟨x, y, rfl, -, hx⟩ := findIdx_eq_some.mp hfind
        obtain rfl := List.eq_nil_of_length_eq_zero hx.symm
        have hbehind : (needle ++ y).dropPrefix? needle = some y :=
          List.dropPrefix?_eq_some_iff.mpr ⟨needle, rfl, beq_self_eq_true needle⟩
        rw [List.nil_append, hbehind, textAfter, findIdx_of_begins (List.prefix_append _ _)]
        simp
      | succ i =>
        rw [dropPrefix_eq_none (by simp [hfind]), textAfter, hfind]
        exact eq_comm

end ByteString
