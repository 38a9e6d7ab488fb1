import DAVSyncTogether.Scene
import DAVSyncTogether.Lib.PrefixCode

/-!
# The grammar of node names

Both copies of the name parser read exactly the texts `A(X)B/C(Y)D` in which no part holds the delimiter that ends it, and no
text is of that form in two ways (`node_names_parsed`). The parser computes its offsets from the positions that its searches
find; `parseNodeNameChecked` is the same parser with every offset and length checked before it is used, and never stops at a
check (`parseNodeNameChecked_eq`).
-/

namespace DAVSyncTogether

open ByteString PrefixCode

/-! ## The grammar -/

/-- The name of a node that renders an armor addon, by its parts. -/
@[ext]
structure NodeName where
  addonName : Bytes
  arma : Bytes
  addonSuffix : Bytes
  armorName : Bytes
  armo : Bytes
  armorSuffix : Bytes
  addonName_plain : 40 ∉ addonName
  arma_plain : 41 ∉ arma
  addonSuffix_plain : 47 ∉ addonSuffix
  armorName_plain : 40 ∉ armorName
  armo_plain : 41 ∉ armo

namespace NodeName

/-- `A(X)B/C(Y)D`. -/
def text (n : NodeName) : Bytes :=
  n.addonName ++ ascii "(" ++ n.arma ++ ascii ")" ++ n.addonSuffix ++ ascii "/" ++ n.armorName ++ ascii "(" ++ n.armo ++
    ascii ")" ++ n.armorSuffix

theorem text_eq (n : NodeName) : n.text = n.addonName ++ 40 :: (n.arma ++ 41 :: (n.addonSuffix ++ 47 ::
    (n.armorName ++ 40 :: (n.armo ++ 41 :: n.armorSuffix)))) := by
  simp [text, ascii]

/-- A text has at most one decomposition. -/
theorem text_injective {n n' : NodeName} (h : n.text = n'.text) : n = n' := by
  rw [text_eq, text_eq] at h
  obtain ⟨h1, h⟩ := delimited n.addonName_plain n'.addonName_plain h
  obtain ⟨h2, h⟩ := delimited n.arma_plain n'.arma_plain h
  obtain ⟨h3, h⟩ := delimited n.addonSuffix_plain n'.addonSuffix_plain h
  obtain ⟨h4, h⟩ := delimited n.armorName_plain n'.armorName_plain h
  obtain ⟨h5, h6⟩ := delimited n.armo_plain n'.armo_plain h
  exact NodeName.ext h1 h2 h3 h4 h5 h6

end NodeName

/-! ## The parser and the grammar -/

section

variable {c : UInt8} {name p s x y : Bytes} {start i : Nat}

/-- A search for a byte finds it behind the part that lacks it, and the next search starts behind it. -/
theorem find_part (hname : name = p ++ s) (hstart : start = p.length) (hs : s = x ++ c :: y) (hx : c ∉ x) :
    find name [c] start = some (p ++ x).length ∧ name = (p ++ x ++ [c]) ++ y ∧ (p ++ x).length + 1 = (p ++ x ++ [c]).length := by
  subst hname hstart hs
  refine ⟨?_, by simp, by simp [Nat.add_assoc]⟩
  rw [List.length_append]
  exact find_byte_eq_some.mpr ⟨x, y, rfl, hx, rfl⟩

/-- What a search for a byte finds cuts the rest of the name into the part that lacks it and what stands behind it. -/
theorem part_of_find (h : find name [c] start = some i) (hname : name = p ++ s) (hstart : start = p.length) :
    ∃ x y, c ∉ x ∧ name = (p ++ x ++ [c]) ++ y ∧ i + 1 = (p ++ x ++ [c]).length := by
  subst hname hstart
  obtain ⟨x, y, rfl, hx, rfl⟩ := find_byte_eq_some.mp h
  exact ⟨x, y, hx, by simp, by simp [Nat.add_assoc]⟩

/-- The text between an opening parenthesis and the closing one. -/
theorem substr_part (hname : name = (p ++ x ++ [c]) ++ y) (hstart : start + 1 = p.length) :
    substr name (start + 1) ((p ++ x).length - start - 1) = x := by
  have hlength : (p ++ x).length - start - 1 = x.length := by
    rw [List.length_append]
    omega
  rw [hlength, hstart, hname, List.append_assoc, List.append_assoc]
  exact substr_append p x ([c] ++ y)

end

section

variable {parseFormID : Bytes → Option FormID} {name : Bytes}

/-- The parser reads the two IDs of a name of the grammar. -/
theorem parseNodeName_text (n : NodeName) :
    parseNodeName parseFormID n.text =
      (parseFormID n.arma).bind fun arma => (parseFormID n.armo).map fun armo => (arma, armo) := by
  obtain ⟨h1, hname1, hp1⟩ := find_part (p := []) n.text_eq rfl rfl n.addonName_plain
  obtain ⟨h2, hname2, hp2⟩ := find_part hname1 hp1 rfl n.arma_plain
  obtain ⟨h3, hname3, hp3⟩ := find_part hname2 hp2 rfl n.addonSuffix_plain
  obtain ⟨h4, hname4, hp4⟩ := find_part hname3 hp3 rfl n.armorName_plain
  obtain ⟨h5, hname5, -⟩ := find_part hname4 hp4 rfl n.armo_plain
  have hopen : ascii "(" = [40] := rfl
  have hclose : ascii ")" = [41] := rfl
  have hslash : ascii "/" = [47] := rfl
  change find n.text [40] 0 = _ at h1
  unfold parseNodeName
  simp only [hopen, hclose, hslash, h1, h2, h3, h4, h5, Option.bind_eq_bind, Option.bind_some, substr_part hname2 hp1,
    substr_part hname5 hp4]
  cases parseFormID n.arma with
  | none => rfl
  | some arma =>
    cases parseFormID n.armo with
    | none => rfl
    | some armo => rfl

/-- A name that is parsed is of the grammar. -/
theorem exists_text_of_parsed {r : FormID × FormID} (h : parseNodeName parseFormID name = some r) :
    ∃ n : NodeName, n.text = name := by
  unfold parseNodeName at h
  simp only [Option.bind_eq_bind, Option.bind_eq_some_iff] at h
  obtain ⟨firstOpen, h1, firstClose, h2, slash, h3, secondOpen, h4, secondClose, h5, -⟩ := h
  obtain ⟨addonName, s1, hplain1, hname1, hp1⟩ := part_of_find (c := 40) (p := []) h1 rfl rfl
  obtain ⟨arma, s2, hplain2, hname2, hp2⟩ := part_of_find (c := 41) h2 hname1 hp1
  obtain ⟨addonSuffix, s3, hplain3, hname3, hp3⟩ := part_of_find (c := 47) h3 hname2 hp2
  obtain ⟨armorName, s4, hplain4, hname4, hp4⟩ := part_of_find (c := 40) h4 hname3 hp3
  obtain ⟨armo, armorSuffix, hplain5, hname5, -⟩ := part_of_find (c := 41) h5 hname4 hp4
  refine ⟨⟨addonName, arma, addonSuffix, armorName, armo, armorSuffix, hplain1, hplain2, hplain3, hplain4, hplain5⟩, ?_⟩
  rw [NodeName.text_eq, hname5]
  simp

/-- The parser returns two IDs exactly for a name of the grammar whose texts of IDs are read as them. -/
theorem parseNodeName_eq_some {arma armo : FormID} : parseNodeName parseFormID name = some (arma, armo) ↔
    ∃ n : NodeName, n.text = name ∧ parseFormID n.arma = some arma ∧ parseFormID n.armo = some armo := by
  constructor
  · intro h
    obtain ⟨n, rfl⟩ := exists_text_of_parsed h
    rw [parseNodeName_text, Option.bind_eq_some_iff] at h
    obtain ⟨arma', harma, hmap⟩ := h
    obtain ⟨armo', harmo, hpair⟩ := Option.map_eq_some_iff.mp hmap
    cases hpair
    exact ⟨n, rfl, harma, harmo⟩
  · rintro ⟨n, rfl, harma, harmo⟩
    rw [parseNodeName_text, harma, harmo]
    rfl

/-! ## The offsets -/

/-- A search from a position that must lie in the text; without an answer the search is out of range. -/
def findChecked (s needle : Bytes) (pos : Nat) : OptionT Option Nat := if pos ≤ s.length then some (find s needle pos) else none

/-- A difference of sizes, which must not wrap around. -/
def subChecked (m n : Nat) : Option Nat := if n ≤ m then some (m - n) else none

/-- A part of a text, which must lie in the text. -/
def substrChecked (s : Bytes) (pos n : Nat) : Option Bytes := if pos + n ≤ s.length then some (substr s pos n) else none

/-- `name.substr(open + 1, close - open - 1)`, with every offset and length checked. -/
def partChecked (name : Bytes) (start stop : Nat) : Option Bytes := do
  let n ← subChecked stop start
  let n ← subChecked n 1
  substrChecked name (start + 1) n

/-- `ParseArmorNode` with every offset and length checked before it is used; without an answer one was out of range. -/
def parseNodeNameChecked (parseFormID : Bytes → Option FormID) (name : Bytes) : OptionT Option (FormID × FormID) := do
  let firstOpen ← findChecked name (ascii "(") 0
  let firstClose ← findChecked name (ascii ")") (firstOpen + 1)
  let slash ← findChecked name (ascii "/") (firstClose + 1)
  let secondOpen ← findChecked name (ascii "(") (slash + 1)
  let secondClose ← findChecked name (ascii ")") (secondOpen + 1)
  let arma ← OptionT.lift (partChecked name firstOpen firstClose)
  let armo ← OptionT.lift (partChecked name secondOpen secondClose)
  match parseFormID arma, parseFormID armo with
  | some arma, some armo => pure (arma, armo)
  | _, _ => failure

/-- A checked search in range goes on as the search does. -/
theorem findChecked_bind {α : Type} {needle : Bytes} {pos : Nat} (hpos : pos ≤ name.length) {k : Nat → OptionT Option α}
    {k' : Nat → Option α} (hk : ∀ i, find name needle pos = some i → (k i).run = some (k' i)) :
    (findChecked name needle pos >>= k).run = some ((find name needle pos).bind k') := by
  unfold findChecked
  rw [if_pos hpos]
  cases hfind : find name needle pos with
  | none => rfl
  | some i => exact hk i hfind

/-- The part between two positions that were found one after the other lies in the text. -/
theorem partChecked_eq {start stop : Nat} (hstart : start + 1 ≤ stop) (hstop : stop ≤ name.length) :
    partChecked name start stop = some (substr name (start + 1) (stop - start - 1)) := by
  have h1 : start ≤ stop := by omega
  have h2 : 1 ≤ stop - start := by omega
  have h3 : start + 1 + (stop - start - 1) ≤ name.length := by omega
  simp only [partChecked, subChecked, substrChecked, if_pos h1, if_pos h2, if_pos h3, Option.bind_eq_bind, Option.bind_some]

/-- A check that passes goes on with what it checked. -/
theorem lift_some_bind {α β : Type} (a : α) (k : α → OptionT Option β) : (OptionT.lift (some a) >>= k).run = (k a).run := rfl

/-- No offset and no length of the parser is ever out of range. -/
theorem parseNodeNameChecked_eq : (parseNodeNameChecked parseFormID name).run = some (parseNodeName parseFormID name) := by
  unfold parseNodeNameChecked parseNodeName
  refine findChecked_bind (Nat.zero_le _) fun firstOpen h1 => ?_
  obtain ⟨-, hin1⟩ := find_range h1
  refine findChecked_bind hin1 fun firstClose h2 => ?_
  obtain ⟨hle2, hin2⟩ := find_range h2
  refine findChecked_bind hin2 fun slash h3 => ?_
  obtain ⟨hle3, hin3⟩ := find_range h3
  refine findChecked_bind hin3 fun secondOpen h4 => ?_
  obtain ⟨hle4, hin4⟩ := find_range h4
  refine findChecked_bind hin4 fun secondClose h5 => ?_
  obtain ⟨hle5, hin5⟩ := find_range h5
  rw [partChecked_eq hle2 (Nat.le_of_succ_le hin2), partChecked_eq hle5 (Nat.le_of_succ_le hin5), lift_some_bind, lift_some_bind]
  cases parseFormID (substr name (firstOpen + 1) (firstClose - firstOpen - 1)) with
  | none => rfl
  | some arma =>
    cases parseFormID (substr name (secondOpen + 1) (secondClose - secondOpen - 1)) with
    | none => rfl
    | some armo => rfl

end

/-- Both copies of the parser, on every name: they return two IDs exactly for the texts `A(X)B/C(Y)D` in which no part holds the
delimiter that ends it and `ParseFormID` reads the IDs in `X` and `Y`; a name is of that form in at most one way; and no offset
or length is out of range on the way. -/
theorem node_names_parsed (name : Bytes) :
    (∀ arma armo, DAVProbe.parseArmorNode name = some (arma, armo) ↔ ∃ n : NodeName, n.text = name ∧
      DAVProbe.parseFormID n.arma = some arma ∧ DAVProbe.parseFormID n.armo = some armo) ∧
    (∀ arma armo, DAVRemoteApplier.parseArmorNode name = some (arma, armo) ↔ ∃ n : NodeName, n.text = name ∧
      DAVRemoteApplier.parseFormID n.arma = some arma ∧ DAVRemoteApplier.parseFormID n.armo = some armo) ∧
    (∀ n n' : NodeName, n.text = name → n'.text = name → n = n') ∧
    (parseNodeNameChecked DAVProbe.parseFormID name).run = some (DAVProbe.parseArmorNode name) ∧
    (parseNodeNameChecked DAVRemoteApplier.parseFormID name).run = some (DAVRemoteApplier.parseArmorNode name) := by
  refine ⟨fun _ _ => parseNodeName_eq_some, fun _ _ => parseNodeName_eq_some, fun n n' hn hn' => ?_, parseNodeNameChecked_eq,
    parseNodeNameChecked_eq⟩
  exact NodeName.text_injective (hn.trans hn'.symm)

end DAVSyncTogether
