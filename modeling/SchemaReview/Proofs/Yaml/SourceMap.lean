import Mathlib
import SchemaReview.Lint.RuleFile
import SchemaReview.Proofs.Datum

/-!
# Looking up places by pointer

The pointers of different paths differ, whatever characters the steps have, since an escaped step
has no slash and can be read back. So the last slash of a pointer is in front of its last step, and
cutting there leaves the pointer of the path without it. A tree in which every step leads to one
node gives each pointer the place of the node at its path; a pointer without a node is located at
the nearest node around it, which is the one at the longest part of the path that leads to a node.
-/
namespace SchemaReview

/-! ### Pointers -/

namespace Path

/-- A character of a step as a pointer shows it. -/
def escapeChar (c : Char) : List Char :=
  if c == '~' then ['~', '0'] else if c == '/' then ['~', '1'] else [c]

theorem toList_escape (text : String) :
    (escape text).toList = text.toList.flatMap escapeChar := by
  rw [escape, String.toList_ofList]
  rfl

/-- What a character is escaped to tells the character, whatever follows. -/
theorem escapeChar_append_inj {c d : Char} {cs ds : List Char}
    (h : escapeChar c ++ cs = escapeChar d ++ ds) : c = d ∧ cs = ds := by
  unfold escapeChar at h
  grind

theorem flatMap_escapeChar_injective : Function.Injective (List.flatMap escapeChar) := by
  intro cs
  induction cs with
  | nil =>
    intro ds h
    cases ds with
    | nil => rfl
    | cons d ds =>
      rw [List.flatMap_nil, List.flatMap_cons] at h
      unfold escapeChar at h
      grind
  | cons c cs ih =>
    intro ds h
    cases ds with
    | nil =>
      rw [List.flatMap_nil, List.flatMap_cons] at h
      unfold escapeChar at h
      grind
    | cons d ds =>
      rw [List.flatMap_cons, List.flatMap_cons] at h
      obtain ⟨rfl, rest⟩ := escapeChar_append_inj h
      rw [ih rest]

theorem escape_injective : Function.Injective escape := by
  intro s t h
  have chars := congrArg String.toList h
  rw [toList_escape, toList_escape] at chars
  exact String.toList_injective (flatMap_escapeChar_injective chars)

theorem slash_notMem_escape (text : String) : '/' ∉ (escape text).toList := by
  rw [toList_escape]
  intro h
  obtain ⟨c, -, hc⟩ := List.mem_flatMap.mp h
  unfold escapeChar at hc
  grind

@[simp] theorem pointerOfTexts_nil : pointerOfTexts [] = "" := rfl

theorem toList_pointerOfTexts_concat (path : List String) (step : String) :
    (pointerOfTexts (path ++ [step])).toList =
      (pointerOfTexts path).toList ++ '/' :: (escape step).toList := by
  unfold pointerOfTexts
  rw [List.map_append, String.toList_join, String.toList_join, List.flatMap_append]
  simp [String.toList_append]

/-- Cutting a pointer at its last slash takes away its last step. -/
theorem outer_pointerOfTexts_concat (path : List String) (step : String) :
    Yaml.SourceMap.outer (pointerOfTexts (path ++ [step])).toList.reverse =
      (pointerOfTexts path).toList.reverse := by
  have plain : ∀ c ∈ (escape step).toList.reverse, decide (c ≠ '/') = true := by
    intro c hc
    rw [decide_eq_true_iff]
    rintro rfl
    exact slash_notMem_escape step (List.mem_reverse.mp hc)
  rw [toList_pointerOfTexts_concat, List.reverse_append, List.reverse_cons, List.append_assoc]
  unfold Yaml.SourceMap.outer
  rw [List.dropWhile_append_of_pos plain]
  simp

theorem toList_pointerOfTexts_concat_ne_nil (path : List String) (step : String) :
    (pointerOfTexts (path ++ [step])).toList ≠ [] := by
  rw [toList_pointerOfTexts_concat]
  simp

/-- The last step of a pointer is what follows its last slash, so the steps can be read off one by
one from the end. -/
theorem pointerOfTexts_injective : Function.Injective pointerOfTexts := by
  intro path
  induction path using List.reverseRecOn with
  | nil =>
    intro path' h
    cases path' using List.reverseRecOn with
    | nil => rfl
    | append_singleton path' step' _ =>
      exact absurd (congrArg String.toList h).symm (toList_pointerOfTexts_concat_ne_nil path' step')
  | append_singleton path step ih =>
    intro path' h
    cases path' using List.reverseRecOn with
    | nil => exact absurd (congrArg String.toList h) (toList_pointerOfTexts_concat_ne_nil path step)
    | append_singleton path' step' _ =>
      have shorter :
          (pointerOfTexts path).toList.reverse = (pointerOfTexts path').toList.reverse := by
        rw [← outer_pointerOfTexts_concat path step, h, outer_pointerOfTexts_concat]
      obtain rfl : path = path' := ih (String.toList_injective (List.reverse_injective shorter))
      have chars := congrArg String.toList h
      rw [toList_pointerOfTexts_concat, toList_pointerOfTexts_concat] at chars
      have last := (List.cons.inj (List.append_cancel_left chars)).2
      rw [escape_injective (String.toList_injective last)]

end Path

namespace Yaml

/-! ### Nodes by their paths -/

namespace Node

/-- The nodes that one step leads to, with the texts of the steps. -/
def children : Node → List (String × Node)
  | .sequence _ items _ => items.zipIdx.map fun placed => (toString placed.2, placed.1)
  | .mapping _ entries _ => entries.map fun entry => (entry.1.keyText, entry.2)
  | _ => []

/-- The node at a path, if the path leads to one. -/
def at? : List String → Node → Option Node
  | [], n => some n
  | step :: rest, n => (n.children.lookup step).bind (at? rest)

@[simp] theorem at?_nil (n : Node) : n.at? [] = some n := rfl

theorem at?_cons (step : String) (rest : List String) (n : Node) :
    n.at? (step :: rest) = (n.children.lookup step).bind (at? rest) := rfl

/-- The keys of all mappings of a tree are scalars, and those of one mapping have distinct texts. -/
inductive HasDistinctKeys : Node → Prop where
  | scalar (tag : Tag) (text : String) (start : Mark) : HasDistinctKeys (.scalar tag text start)
  | sequence (tag : Tag) {items : List Node} (start : Mark)
    (below : ∀ x ∈ items, HasDistinctKeys x) : HasDistinctKeys (.sequence tag items start)
  | mapping (tag : Tag) {entries : List (Node × Node)} (start : Mark)
    (scalars : ∀ entry ∈ entries, ∃ tag text start, entry.1 = .scalar tag text start)
    (distinct : (entries.map fun entry => entry.1.keyText).Nodup)
    (below : ∀ entry ∈ entries, HasDistinctKeys entry.2) :
    HasDistinctKeys (.mapping tag entries start)
  | enclosing (start : Mark) : HasDistinctKeys (.enclosing start)

theorem HasDistinctKeys.nodup_children {n : Node} (h : n.HasDistinctKeys) :
    (n.children.map Prod.fst).Nodup := by
  cases h with
  | scalar => exact List.nodup_nil
  | @sequence tag items start below =>
    have texts : (items.zipIdx.map fun placed => (toString placed.2, placed.1)).map Prod.fst =
        (List.range' 0 items.length).map toString := by
      rw [List.map_map, ← List.zipIdx_map_snd 0 items, List.map_map]
      rfl
    unfold children
    rw [texts]
    exact List.Nodup.map (fun _ _ => Nat.repr_inj.mp) List.nodup_range'
  | mapping tag start scalars distinct below =>
    unfold children
    rw [List.map_map]
    exact distinct
  | enclosing => exact List.nodup_nil

theorem HasDistinctKeys.of_mem_children {n : Node} (h : n.HasDistinctKeys) :
    ∀ child ∈ n.children, child.2.HasDistinctKeys := by
  intro child hc
  cases h with
  | scalar => cases hc
  | sequence tag start below =>
    obtain ⟨placed, hp, rfl⟩ := List.mem_map.mp hc
    exact below _ (List.fst_mem_of_mem_zipIdx hp)
  | mapping tag start scalars distinct below =>
    obtain ⟨entry, he, rfl⟩ := List.mem_map.mp hc
    exact below entry he
  | enclosing => cases hc

/-- A step leads to one node only. -/
theorem HasDistinctKeys.lookup_children {n : Node} (h : n.HasDistinctKeys) {step : String}
    {child : Node} : n.children.lookup step = some child ↔ (step, child) ∈ n.children :=
  lookup_eq_some_iff_mem h.nodup_children

theorem itemPlaces_eq (path : List String) (position : Nat) (items : List Node) :
    itemPlaces path position items = (items.zipIdx position).flatMap fun placed =>
      placed.1.places (path ++ [toString placed.2]) := by
  induction items generalizing position with
  | nil => rfl
  | cons x rest ih =>
    rw [itemPlaces, ih, List.zipIdx_cons, List.flatMap_cons]

theorem entryPlaces_eq (path : List String) (entries : List (Node × Node)) :
    entryPlaces path entries = entries.flatMap fun entry =>
      entry.2.places (path ++ [entry.1.keyText]) := by
  induction entries with
  | nil => rfl
  | cons entry rest ih =>
    rw [entryPlaces, ih, List.flatMap_cons]

/-- The places in a tree are that of its root and, one step further, those below it. -/
theorem places_eq (path : List String) (n : Node) :
    n.places path = (path, n.start) :: n.children.flatMap fun child =>
      child.2.places (path ++ [child.1]) := by
  cases n with
  | scalar => rfl
  | sequence tag items start =>
    rw [places, itemPlaces_eq, children, List.flatMap_map]
    rfl
  | mapping tag entries start =>
    rw [places, entryPlaces_eq, children, List.flatMap_map]
    rfl
  | enclosing => rfl

theorem sizeOf_children_lt {n : Node} {child : String × Node} (h : child ∈ n.children) :
    sizeOf child.2 < sizeOf n := by
  cases n with
  | scalar => cases h
  | sequence tag items start =>
    obtain ⟨placed, hp, rfl⟩ := List.mem_map.mp h
    have := List.sizeOf_lt_of_mem (List.fst_mem_of_mem_zipIdx hp)
    simp only [sequence.sizeOf_spec]
    omega
  | mapping tag entries start =>
    obtain ⟨⟨key, value⟩, he, rfl⟩ := List.mem_map.mp h
    have := List.sizeOf_lt_of_mem he
    simp only [Prod.mk.sizeOf_spec] at this
    simp only [mapping.sizeOf_spec]
    omega
  | enclosing => cases h

/-- A tree with distinct keys lists the place of the node at every path that leads to one, and no
other places. -/
theorem mem_places {n : Node} (h : n.HasDistinctKeys) (path : List String)
    {place : List String × Mark} :
    place ∈ n.places path ↔
      ∃ rest node, n.at? rest = some node ∧ place = (path ++ rest, node.start) := by
  rw [places_eq, List.mem_cons, List.mem_flatMap]
  constructor
  · rintro (rfl | ⟨child, hc, listed⟩)
    · exact ⟨[], n, rfl, by rw [List.append_nil]⟩
    · have smaller := sizeOf_children_lt hc
      obtain ⟨rest, node, found, rfl⟩ := (mem_places (h.of_mem_children child hc) _).mp listed
      refine ⟨child.1 :: rest, node, ?_, by rw [List.append_assoc, List.singleton_append]⟩
      rw [at?_cons, h.lookup_children.mpr hc, Option.bind_some, found]
  · rintro ⟨rest, node, found, rfl⟩
    cases rest with
    | nil =>
      cases found
      exact .inl (by rw [List.append_nil])
    | cons step rest =>
      rw [at?_cons] at found
      obtain ⟨child, reached, found⟩ := Option.bind_eq_some_iff.mp found
      have hc := h.lookup_children.mp reached
      have smaller := sizeOf_children_lt hc
      refine .inr ⟨(step, child), hc, (mem_places (h.of_mem_children _ hc) _).mpr ?_⟩
      exact ⟨rest, node, found, by rw [List.append_assoc, List.singleton_append]⟩
termination_by sizeOf n

end Node

/-! ### Looking up pointers -/

namespace SourceMap

variable {m : SourceMap} {pointer : String}

theorem find?_insert (m : SourceMap) (set pointer : String) (place : Mark) :
    (m.insert set place).find? pointer = if pointer = set then some place else m.find? pointer := by
  unfold find? insert
  rw [List.lookup_cons]
  split
  · rename_i same
    rw [if_pos (beq_iff_eq.mp same)]
  · rename_i other
    have different : pointer ≠ set := by simpa using other
    rw [if_neg different]
    induction m.places with
    | nil => rfl
    | cons entry rest ih =>
      rw [List.filter_cons, List.lookup_cons]
      split
      · rw [List.lookup_cons, ih]
      · rename_i replaced
        have key : entry.1 = set := by simpa using replaced
        rw [ih, key, beq_false_of_ne different]

/-- Of the places that are entered for a pointer, the last one counts. -/
theorem find?_foldl_insert (m : SourceMap) (places : List (List String × Mark)) (pointer : String) :
    (places.foldl (fun m p => m.insert (Path.pointerOfTexts p.1) p.2) m).find? pointer =
      ((places.reverse.find? fun p => Path.pointerOfTexts p.1 = pointer).map Prod.snd).or
        (m.find? pointer) := by
  induction places generalizing m with
  | nil => rfl
  | cons place rest ih =>
    rw [List.foldl_cons, ih, find?_insert, List.reverse_cons, List.find?_append]
    cases rest.reverse.find? fun p => Path.pointerOfTexts p.1 = pointer with
    | some later => rfl
    | none =>
      rw [List.find?_singleton]
      grind

/-- The source map of a tree with distinct keys has, for every path, the place of the node there. -/
theorem find?_ofNode {root : Node} (h : root.HasDistinctKeys) (path : List String) :
    (ofNode root).find? (Path.pointerOfTexts path) = (root.at? path).map Node.start := by
  unfold ofNode
  rw [find?_foldl_insert]
  have places (place : List String × Mark) : place ∈ (root.places []).reverse ↔
      ∃ rest node, root.at? rest = some node ∧ place = (rest, node.start) := by
    rw [List.mem_reverse, Node.mem_places h]
    rfl
  cases last : (root.places []).reverse.find? fun p =>
      Path.pointerOfTexts p.1 = Path.pointerOfTexts path with
  | some place =>
    have same := List.find?_some last
    obtain ⟨rest, node, found, rfl⟩ := (places place).mp (List.mem_of_find?_eq_some last)
    obtain rfl : rest = path := Path.pointerOfTexts_injective (by simpa using same)
    rw [found]
    rfl
  | none =>
    cases found : root.at? path with
    | none => rfl
    | some node =>
      have absent := List.find?_eq_none.mp last _ ((places _).mpr ⟨path, node, found, rfl⟩)
      simp at absent

theorem locate_eq_of_find? {place : Mark} (h : m.find? pointer = some place) :
    m.locate pointer = some place := by
  unfold locate locateFrom
  rw [List.reverse_reverse, String.ofList_toList, h]

/-- A pointer that is not in the map is located where the pointer without its last step is. -/
theorem locate_concat_of_find?_eq_none {path : List String} {step : String}
    (h : m.find? (Path.pointerOfTexts (path ++ [step])) = none) :
    m.locate (Path.pointerOfTexts (path ++ [step])) = m.locate (Path.pointerOfTexts path) := by
  have outer := Path.outer_pointerOfTexts_concat path step
  have nonempty := Path.toList_pointerOfTexts_concat_ne_nil path step
  unfold locate
  rw [← outer]
  cases chars : (Path.pointerOfTexts (path ++ [step])).toList.reverse with
  | nil => exact absurd (List.reverse_eq_nil_iff.mp chars) nonempty
  | cons c cs =>
    rw [locateFrom, ← chars, List.reverse_reverse, String.ofList_toList, h]

end SourceMap

/-- A node lies at the longest part of a path, from its start, that leads to a node. -/
def Node.IsNearest (root : Node) (path : List String) (node : Node) : Prop :=
  ∃ taken, taken <+: path ∧ root.at? taken = some node ∧
    ∀ longer, longer <+: path → (root.at? longer).isSome → longer.length ≤ taken.length

theorem SourceMap.locate_pointerOfTexts {root : Node} (h : root.HasDistinctKeys)
    (path : List String) :
    ∃ node, root.IsNearest path node ∧
      (SourceMap.ofNode root).locate (Path.pointerOfTexts path) = some node.start := by
  -- Steps are cut off at the end of the path until there is a node, at the root at the latest.
  induction path using List.reverseRecOn with
  | nil =>
    refine ⟨root, ⟨[], List.prefix_refl _, rfl, fun longer hl _ => hl.length_le⟩, ?_⟩
    exact locate_eq_of_find? (find?_ofNode h [])
  | append_singleton path step ih =>
    have found := find?_ofNode h (path ++ [step])
    cases reached : root.at? (path ++ [step]) with
    | some node =>
      rw [reached] at found
      exact ⟨node, ⟨_, List.prefix_refl _, reached, fun longer hl _ => hl.length_le⟩,
        locate_eq_of_find? found⟩
    | none =>
      rw [reached] at found
      obtain ⟨node, ⟨taken, part, leads, longest⟩, located⟩ := ih
      refine ⟨node, ⟨taken, part.trans (List.prefix_append _ _), leads,
        fun longer hl exists_ => ?_⟩, ?_⟩
      · obtain rfl | shorter := List.prefix_concat_iff.mp hl
        · rw [reached] at exists_
          cases exists_
        · exact longest longer shorter exists_
      · rw [locate_concat_of_find?_eq_none found, located]

end Yaml

open Yaml in
/-- Different paths have different pointers, and what follows the last slash of a pointer is its
last step. In a tree whose mappings have distinct keys, the place that a fault is reported at is
that of the node at the longest part of the path that leads to a node. -/
theorem place_pointerOfTexts :
    Function.Injective Path.pointerOfTexts ∧
    (∀ path step, ∃ shown, '/' ∉ shown ∧ (Path.pointerOfTexts (path ++ [step])).toList =
      (Path.pointerOfTexts path).toList ++ '/' :: shown) ∧
    ∀ root : Node, root.HasDistinctKeys → ∀ path : List String, ∃ node, root.IsNearest path node ∧
      (SourceMap.ofNode root).locate (Path.pointerOfTexts path) = some node.start ∧
      ∀ origin, Lint.RuleFile.place origin (SourceMap.ofNode root) (Path.pointerOfTexts path) =
        origin ++ ":" ++ toString (node.start.line + 1) := by
  refine ⟨Path.pointerOfTexts_injective, fun path step => ?_, fun root distinct path => ?_⟩
  · exact ⟨_, Path.slash_notMem_escape step, Path.toList_pointerOfTexts_concat path step⟩
  · obtain ⟨node, nearest, located⟩ := SourceMap.locate_pointerOfTexts distinct path
    refine ⟨node, nearest, located, fun origin => ?_⟩
    unfold Lint.RuleFile.place
    rw [located]

open Yaml in
/-- A rule file with a rule that has a slash in its key and a rule whose key is empty. -/
def slashFile : Node :=
  .mapping .map [(.scalar .str "rules" ⟨0, 0, 0⟩,
    .mapping .map [
      (.scalar .str "a/b" ⟨1, 2, 9⟩, .sequence .seq [.scalar .int "1" ⟨2, 4, 18⟩] ⟨2, 2, 16⟩),
      (.scalar .str "" ⟨3, 2, 20⟩, .scalar .null "~" ⟨3, 6, 24⟩)] ⟨1, 2, 9⟩)] ⟨0, 0, 0⟩

open Yaml in
/-- The list of the first rule has one item, so a fault at a second one is reported at the list. -/
theorem place_pointerOfTexts_rules :
    slashFile.HasDistinctKeys ∧
      Path.pointerOfTexts ["rules", "a/b", "1"] = "/rules/a~1b/1" ∧
      Lint.RuleFile.place "rules.yaml" (SourceMap.ofNode slashFile) "/rules/a~1b/1" =
        "rules.yaml:3" := by
  have distinct : slashFile.HasDistinctKeys := by
    refine .mapping _ _ (by simp) (by simp) ?_
    simp only [List.mem_singleton, forall_eq]
    refine .mapping _ _ (by simp) (by simp [Node.keyText]) ?_
    simp only [List.mem_cons, List.not_mem_nil, or_false, forall_eq_or_imp, forall_eq]
    refine ⟨.sequence _ _ ?_, .scalar _ _ _⟩
    simp only [List.mem_singleton, forall_eq]
    exact .scalar _ _ _
  obtain ⟨node, ⟨taken, part, leads, longest⟩, -, places⟩ :=
    place_pointerOfTexts.2.2 slashFile distinct ["rules", "a/b", "1"]
  have pointer : Path.pointerOfTexts ["rules", "a/b", "1"] = "/rules/a~1b/1" := by decide
  have atLeast : 2 ≤ taken.length := longest ["rules", "a/b"] (by simp) rfl
  have atMost : taken.length ≤ 3 := part.length_le
  rw [List.prefix_iff_eq_take] at part
  rw [pointer] at places
  obtain two | three : taken.length = 2 ∨ taken.length = 3 := by omega
  · rw [two] at part
    subst part
    cases leads
    exact ⟨distinct, pointer, places "rules.yaml"⟩
  · rw [three] at part
    subst part
    cases leads

end SchemaReview
