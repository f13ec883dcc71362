import SchemaReview.Proofs.Schema.WellFormed

/-!
# Places in a tree

A list can be described by a partial function from keys: it has one element for each key that the
function is defined at, in the order of these keys. Such a description is carried through the ways
in which one list is made of others.

The walk over a tree is described by places. A place is the way from the root to a node, given by
the positions of the children on it. Places are compared as words: a node comes before what is below
it, and what is below one child before what is below the next. A walk visits the places of a tree in
this order, each once, and what a visit holds is fixed by the way to its place. The path of a visit
can be followed without the walk: at each step the node is looked through, as an array or a map,
until the step can be taken. Following the path leads to the visited node, or to the arrays and maps
around it.
-/
namespace SchemaReview

/-! ### Lists in the order of their keys -/

section

variable {κ ι α β : Type} {lt : κ → κ → Prop} {before : ι → ι → Prop}

/-- A list holds what is found at keys, one element for each key, in the order of the keys. -/
def Lists (lt : κ → κ → Prop) (at? : κ → Option α) (xs : List α) : Prop :=
  ∃ keys : List κ, keys.Pairwise lt ∧ List.Forall₂ (fun k x => at? k = some x) keys xs ∧
    ∀ k, (at? k).isSome = true → k ∈ keys

/-- A list holds what stands at its positions. -/
theorem lists_getElem? (xs : List α) : Lists (· < ·) (fun i : Nat => xs[i]?) xs := by
  refine ⟨List.range xs.length, List.pairwise_lt_range, ?_, fun i found => ?_⟩
  · rw [List.forall₂_iff_get]
    simp
  · rw [List.mem_range]
    simpa using found

/-- The keys of a list are those that something is found at. -/
theorem mem_keys_iff {at? : κ → Option α} {xs : List α} {keys : List κ}
    (found : List.Forall₂ (fun k x => at? k = some x) keys xs)
    (complete : ∀ k, (at? k).isSome = true → k ∈ keys) {k : κ} :
    k ∈ keys ↔ (at? k).isSome = true := by
  refine ⟨fun hk => ?_, complete k⟩
  obtain ⟨i, hi, rfl⟩ := List.mem_iff_getElem.mp hk
  have here : at? keys[i] = _ := found.get hi (found.length_eq ▸ hi)
  rw [here]
  rfl

namespace Lists

variable {at? : κ → Option α} {xs : List α}

/-- A list holds what is found at some key. -/
theorem mem_iff (h : Lists lt at? xs) {x : α} : x ∈ xs ↔ ∃ k, at? k = some x := by
  obtain ⟨keys, -, found, complete⟩ := h
  constructor
  · intro hx
    obtain ⟨i, hi, rfl⟩ := List.mem_iff_getElem.mp hx
    exact ⟨_, found.get (found.length_eq ▸ hi) hi⟩
  · rintro ⟨k, here⟩
    obtain ⟨i, hi, rfl⟩ := List.mem_iff_getElem.mp (complete k (by simp [here]))
    have listed := found.get hi (found.length_eq ▸ hi)
    simp only [List.get_eq_getElem, here, Option.some.injEq] at listed
    exact listed ▸ List.getElem_mem _

/-- What is chosen from a list is found at the keys of what it is chosen from. -/
theorem filterMap (h : Lists lt at? xs) (g : α → Option β) :
    Lists lt (fun k => (at? k).bind g) (xs.filterMap g) := by
  obtain ⟨keys, ordered, found, complete⟩ := h
  refine ⟨keys.filter fun k => ((at? k).bind g).isSome, ordered.filter _, ?_, fun k hk => ?_⟩
  · clear ordered complete
    induction found with
    | nil => exact .nil
    | @cons k x keys xs here rest ih =>
      cases chosen : g x with
      | none =>
        rw [List.filterMap_cons_none chosen, List.filter_cons_of_neg (by simp [here, chosen])]
        exact ih
      | some y =>
        rw [List.filterMap_cons_some chosen, List.filter_cons_of_pos (by simp [here, chosen])]
        exact .cons (by simp [here, chosen]) ih
  · have defined : (at? k).isSome = true := by
      cases here : at? k with
      | none => simp [here] at hk
      | some x => rfl
    exact List.mem_filter.mpr ⟨complete k defined, hk⟩

/-- Where each element of a list gives a list, the whole is in the order of the elements, and for
one element in the order of its own list. -/
theorem flatMap (h : Lists lt at? xs) {f : α → List β} {inner? : α → ι → Option β}
    (inner : ∀ x ∈ xs, Lists before (inner? x) (f x)) :
    Lists (Prod.Lex lt before) (fun k : κ × ι => (at? k.1).bind fun x => inner? x k.2)
      (xs.flatMap f) := by
  obtain ⟨keys, ordered, found, complete⟩ := h
  have merged : ∃ pairs : List (κ × ι), pairs.Pairwise (Prod.Lex lt before) ∧
      List.Forall₂ (fun k y => ((at? k.1).bind fun x => inner? x k.2) = some y) pairs
        (xs.flatMap f) ∧
      (∀ k ∈ pairs, k.1 ∈ keys) ∧
      ∀ k ∈ keys, ∀ i, ((at? k).bind fun x => inner? x i).isSome = true → (k, i) ∈ pairs := by
    clear complete
    induction found with
    | nil => exact ⟨[], .nil, .nil, by simp, by simp⟩
    | @cons k x keys xs here rest ih =>
      rw [List.pairwise_cons] at ordered
      rw [List.forall_mem_cons] at inner
      obtain ⟨own, ownOrdered, ownFound, ownComplete⟩ := inner.1
      obtain ⟨pairs, pairsOrdered, pairsFound, within, all⟩ := ih inner.2 ordered.2
      refine ⟨own.map (Prod.mk k) ++ pairs, ?_, ?_, ?_, ?_⟩
      · rw [List.pairwise_append, List.pairwise_map, List.forall_mem_map]
        exact ⟨ownOrdered.imp fun earlier => .right k earlier, pairsOrdered,
          fun i _ pair hp => .left i pair.2 (ordered.1 _ (within pair hp))⟩
      · rw [List.flatMap_cons]
        refine List.rel_append ?_ pairsFound
        rw [List.forall₂_map_left_iff]
        exact ownFound.imp fun i y given => by simpa [here] using given
      · rw [List.forall_mem_append, List.forall_mem_map]
        exact ⟨fun _ _ => List.mem_cons_self,
          fun pair hp => List.mem_cons_of_mem _ (within pair hp)⟩
      · rw [List.forall_mem_cons]
        refine ⟨fun i given => List.mem_append_left _ ?_, fun k' hk i given => ?_⟩
        · rw [here] at given
          exact List.mem_map_of_mem (ownComplete i given)
        · exact List.mem_append_right _ (all k' hk i given)
  obtain ⟨pairs, pairsOrdered, pairsFound, -, all⟩ := merged
  refine ⟨pairs, pairsOrdered, pairsFound, fun k hk => all k.1 (complete k.1 ?_) k.2 hk⟩
  cases here : at? k.1 with
  | none => simp [here] at hk
  | some x => rfl

end Lists

end

/-! ### Places -/

abbrev Place := List Nat

/-- What leads from a node to one directly below it. -/
inductive Branch where
  | field (f : Field)
  | member (position : Nat)
  /-- To the items of an array or the values of a map. -/
  | inner

namespace Branch

/-- What a branch adds to the path. -/
def steps : Branch → Path
  | .field f => [.name f.name]
  | .member position => [.index position]
  | .inner => []

def field? : Branch → Option Field
  | .field f => some f
  | _ => none

end Branch

/-- The branches from each node to the next one, with the nodes that they lead to. -/
abbrev Way := List (Branch × Schema)

namespace Schema

/-- The branches of a node with the nodes that they lead to, in the order of a walk. -/
def branches (s : Schema) : Way :=
  match s.kind with
  | .record | .message | .file => s.fields.map fun f => (.field f, f.type)
  | .union => s.members.zipIdx.map fun m => (.member m.2, m.1)
  | .array => s.items.toList.map fun inner => (.inner, inner)
  | .map => s.values.toList.map fun inner => (.inner, inner)
  | _ => []

/-- The branches of a node lead to its children. -/
theorem map_snd_branches (s : Schema) : s.branches.map Prod.snd = s.children := by
  unfold branches children
  cases s.kind with
  | record | message | file | array | map => simp [Function.comp_def]
  | union =>
    rw [List.map_map]
    exact List.zipIdx_map_fst 0 s.members
  | _ => rfl

theorem sizeOf_lt_of_mem_branches {s : Schema} {b : Branch × Schema} (hb : b ∈ s.branches) :
    sizeOf b.2 < sizeOf s :=
  sizeOf_lt_of_mem_children (s.map_snd_branches ▸ List.mem_map_of_mem hb)

/-- The way from a node to the one at a place below it. -/
def way? (s : Schema) : Place → Option Way
  | [] => some []
  | i :: rest => s.branches[i]?.bind fun b => (b.2.way? rest).map (b :: ·)

/-- The nodes on a way, with the one that it starts from. -/
def along (s : Schema) (way : Way) : List Schema := s :: way.map Prod.snd

/-- The nodes from the root of a tree to the one at a place, which is the last. -/
def nodesTo? (s : Schema) (place : Place) : Option (List Schema) := (s.way? place).map s.along

/-- The visit at the end of a way, below a number of nesting nodes, a path and a field. -/
def visitFrom (s : Schema) (path : Path) (above : Nat) (owner : Option Field) (way : Way) :
    Visit where
  path := path ++ way.flatMap fun b => b.1.steps
  node := (way.map Prod.snd).getLastD s
  depth := above + (s.along way).countP fun t => t.kind.isNesting
  field := (way.filterMap fun b => b.1.field?).getLast?.or owner

/-- The visit at a place of a tree. -/
def visitAt? (s : Schema) (place : Place) : Option Visit :=
  (s.way? place).map (s.visitFrom [] 0 none)

/-- How far a node adds to the depth. -/
def level (s : Schema) : Nat := if s.kind.isNesting then 1 else 0

/-! ### What a walk visits -/

theorem walkFields_eq (fields : List Field) (path : Path) (depth : Nat) :
    walkFields fields path depth =
      fields.flatMap fun f => f.type.walkFrom (path ++ [.name f.name]) depth (some f) := by
  induction fields with
  | nil => rfl
  | cons f rest ih => rw [walkFields, walkField, ih, List.flatMap_cons]

theorem walkMembers_eq (members : List Schema) (position : Nat) (path : Path) (depth : Nat)
    (owner : Option Field) :
    walkMembers members position path depth owner =
      (members.zipIdx position).flatMap fun m =>
        m.1.walkFrom (path ++ [.index m.2]) depth owner := by
  induction members generalizing position with
  | nil => rfl
  | cons m rest ih => rw [walkMembers, ih, List.zipIdx_cons, List.flatMap_cons]

theorem walkInner_eq (inner : Option Schema) (path : Path) (depth : Nat) (owner : Option Field) :
    walkInner inner path depth owner =
      inner.toList.flatMap fun s => s.walkFrom path depth owner := by
  cases inner with
  | none => rfl
  | some s => rw [walkInner, Option.toList_some, List.flatMap_singleton]

/-- A walk visits a node and goes on along its branches. -/
theorem walkFrom_eq (s : Schema) (path : Path) (above : Nat) (owner : Option Field) :
    s.walkFrom path above owner = ⟨path, s, above + s.level, owner⟩ ::
      s.branches.flatMap fun b =>
        b.2.walkFrom (path ++ b.1.steps) (above + s.level) (b.1.field?.or owner) := by
  obtain ⟨kind, name, qualifier, documentation, fields, typeName, logicalType, size, symbols,
    symbolValues, items, values, members, additionalProperties⟩ := s
  rw [walkFrom.eq_def]
  cases kind with
  | record | message | file =>
    simp [walkFields_eq, branches, level, Kind.isNesting, List.flatMap_map, Branch.steps,
      Branch.field?]
  | union =>
    simp [walkMembers_eq, branches, level, Kind.isNesting, List.flatMap_map, Branch.steps,
      Branch.field?]
  | array | map =>
    simp [walkInner_eq, branches, level, Kind.isNesting, List.flatMap_map, Branch.steps,
      Branch.field?]
  | _ => rfl

section

variable {s : Schema} {path : Path} {above : Nat} {owner : Option Field}

theorem visitFrom_nil : s.visitFrom path above owner [] = ⟨path, s, above + s.level, owner⟩ := by
  simp [visitFrom, along, level, List.countP_cons]

/-- A visit depends on the rest of the way as one that starts behind the first branch. -/
theorem visitFrom_cons (b : Branch × Schema) (way : Way) :
    s.visitFrom path above owner (b :: way) =
      b.2.visitFrom (path ++ b.1.steps) (above + s.level) (b.1.field?.or owner) way := by
  unfold visitFrom along level
  congr 1
  · rw [List.flatMap_cons, List.append_assoc]
  · rw [List.map_cons, List.getLastD_cons]
  · rw [List.countP_cons, List.map_cons]
    omega
  · cases passed : b.1.field? with
    | none => simp only [List.filterMap_cons, passed, Option.none_or]
    | some f =>
      simp only [List.filterMap_cons, passed, List.getLast?_cons]
      cases (way.filterMap fun b => b.1.field?).getLast? <;> rfl

end

/-- A walk from anywhere lists what it visits at the places of a tree, in their order. -/
theorem lists_walkFrom (s : Schema) (path : Path) (above : Nat) (owner : Option Field) :
    Lists (· < ·) (fun place => (s.way? place).map (s.visitFrom path above owner))
      (s.walkFrom path above owner) := by
  have inner : ∀ b ∈ s.branches, Lists (· < ·)
      (fun place => (b.2.way? place).map
        (b.2.visitFrom (path ++ b.1.steps) (above + s.level) (b.1.field?.or owner)))
      (b.2.walkFrom (path ++ b.1.steps) (above + s.level) (b.1.field?.or owner)) := by
    intro b hb
    have := sizeOf_lt_of_mem_branches hb
    exact lists_walkFrom b.2 _ _ _
  obtain ⟨keys, ordered, found, complete⟩ := (lists_getElem? s.branches).flatMap inner
  rw [walkFrom_eq]
  refine ⟨[] :: keys.map fun k => k.1 :: k.2, ?_, .cons ?_ ?_, ?_⟩
  · rw [List.pairwise_cons, List.forall_mem_map, List.pairwise_map]
    refine ⟨fun k _ => List.nil_lt_cons _ _, ordered.imp fun earlier => ?_⟩
    rw [List.cons_lt_cons_iff]
    exact Prod.lex_iff.mp earlier
  · exact congrArg some visitFrom_nil
  · rw [List.forall₂_map_left_iff]
    refine found.imp fun k v here => ?_
    obtain ⟨b, at_, here⟩ := Option.bind_eq_some_iff.mp here
    obtain ⟨way, leads, rfl⟩ := Option.map_eq_some_iff.mp here
    simp [way?, at_, leads, visitFrom_cons]
  · intro place defined
    cases place with
    | nil => exact List.mem_cons_self
    | cons i rest =>
      refine List.mem_cons_of_mem _ (List.mem_map.mpr ⟨(i, rest), complete (i, rest) ?_, rfl⟩)
      simpa [way?, Option.isSome_bind] using defined
termination_by sizeOf s

/-- A walk visits the places of a tree in their order, each once. -/
theorem lists_walk (s : Schema) : Lists (· < ·) s.visitAt? s.walk := lists_walkFrom s [] 0 none

/-! ### The nodes to a place -/

theorem nodesTo?_nil (s : Schema) : s.nodesTo? [] = some [s] := rfl

theorem nodesTo?_cons (s : Schema) (i : Nat) (rest : Place) :
    s.nodesTo? (i :: rest) =
      s.branches[i]?.bind fun b => (b.2.nodesTo? rest).map (s :: ·) := by
  unfold nodesTo?
  rw [way?, Option.map_bind]
  refine Option.bind_congr fun b _ => ?_
  rw [Function.comp_apply, Option.map_map, Option.map_map]
  rfl

theorem length_of_nodesTo? {s : Schema} {place : Place} {nodes : List Schema}
    (h : s.nodesTo? place = some nodes) : nodes.length = place.length + 1 := by
  induction place generalizing s nodes with
  | nil =>
    obtain rfl := Option.some.inj h
    rfl
  | cons i rest ih =>
    rw [nodesTo?_cons] at h
    obtain ⟨b, -, h⟩ := Option.bind_eq_some_iff.mp h
    obtain ⟨lower, below, rfl⟩ := Option.map_eq_some_iff.mp h
    rw [List.length_cons, List.length_cons, ih below]

/-- The nodes to a place further up are the first ones. -/
theorem nodesTo?_take {s : Schema} {place : Place} {nodes : List Schema}
    (h : s.nodesTo? place = some nodes) (k : Nat) :
    s.nodesTo? (place.take k) = some (nodes.take (k + 1)) := by
  induction place generalizing s nodes k with
  | nil =>
    obtain rfl := Option.some.inj h
    simp [nodesTo?_nil, along]
  | cons i rest ih =>
    rw [nodesTo?_cons] at h
    obtain ⟨b, here, h⟩ := Option.bind_eq_some_iff.mp h
    obtain ⟨lower, below, rfl⟩ := Option.map_eq_some_iff.mp h
    cases k with
    | zero => rfl
    | succ k => simp [nodesTo?_cons, here, ih below k]

theorem subset_of_nodesTo? {s : Schema} {place : Place} {nodes : List Schema}
    (h : s.nodesTo? place = some nodes) : nodes ⊆ s.nodes := by
  induction place generalizing s nodes with
  | nil =>
    obtain rfl := Option.some.inj h
    exact List.cons_subset.mpr ⟨s.self_mem_nodes, List.nil_subset _⟩
  | cons i rest ih =>
    rw [nodesTo?_cons] at h
    obtain ⟨b, here, h⟩ := Option.bind_eq_some_iff.mp h
    obtain ⟨lower, below, rfl⟩ := Option.map_eq_some_iff.mp h
    have child : b.2 ∈ s.children :=
      s.map_snd_branches ▸ List.mem_map_of_mem (List.mem_of_getElem? here)
    exact List.cons_subset.mpr
      ⟨s.self_mem_nodes, List.Subset.trans (ih below) (nodes_subset_of_child child)⟩

/-- The last node on a way. -/
theorem getLast?_along (s : Schema) (way : Way) :
    (s.along way).getLast? = some ((way.map Prod.snd).getLastD s) := by
  unfold along
  rw [List.getLast?_cons, List.getLastD_eq_getLast?]

/-- A visit is one of the last node to its place, and as deep as there are nesting nodes among
these. -/
theorem visitAt?_eq_some {s : Schema} {place : Place} {v : Visit}
    (h : s.visitAt? place = some v) :
    ∃ above, s.nodesTo? place = some (above ++ [v.node]) ∧
      v.depth = (above ++ [v.node]).countP fun t => t.kind.isNesting := by
  obtain ⟨way, leads, rfl⟩ := Option.map_eq_some_iff.mp h
  obtain ⟨above, last⟩ := List.getLast?_eq_some_iff.mp (s.getLast?_along way)
  refine ⟨above, ?_, ?_⟩
  · simp only [nodesTo?, leads, visitFrom, last, Option.map_some]
  · simp only [visitFrom, last, Nat.zero_add]

theorem isSome_visitAt? (s : Schema) (place : Place) :
    (s.visitAt? place).isSome = (s.nodesTo? place).isSome := by
  simp [visitAt?, nodesTo?]

/-! ### Layers

An array or a map hands its path on to what it holds, so the nodes with one path are layers around
each other. -/

/-- What an array or a map holds. -/
def wrapped? (s : Schema) : Option Schema :=
  match s.kind with
  | .array => s.items
  | .map => s.values
  | _ => none

mutual

/-- A node and, below arrays and maps, what they hold. -/
def layers (node : Schema) : List Schema :=
  match node with
  | { kind, name, qualifier, documentation, fields, typeName, logicalType, size, symbols,
      symbolValues, items, values, members, additionalProperties } =>
    { kind, name, qualifier, documentation, fields, typeName, logicalType, size, symbols,
      symbolValues, items, values, members, additionalProperties } ::
      (match kind with
      | .array => innerLayers items
      | .map => innerLayers values
      | _ => [])

def innerLayers (inner : Option Schema) : List Schema :=
  match inner with
  | none => []
  | some s => layers s

end

theorem innerLayers_eq (inner : Option Schema) :
    innerLayers inner = inner.toList.flatMap layers := by
  cases inner with
  | none => rfl
  | some s => rw [innerLayers, Option.toList_some, List.flatMap_singleton]

theorem layers_eq (s : Schema) : s.layers = s :: s.wrapped?.toList.flatMap layers := by
  obtain ⟨kind, name, qualifier, documentation, fields, typeName, logicalType, size, symbols,
    symbolValues, items, values, members, additionalProperties⟩ := s
  rw [layers.eq_def]
  cases kind with
  | array | map => exact congrArg _ (innerLayers_eq _)
  | _ => rfl

theorem of_wrapped?_eq_some {s t : Schema} (h : s.wrapped? = some t) :
    (s.kind = .array ∨ s.kind = .map) ∧ sizeOf t < sizeOf s := by
  unfold wrapped? at h
  split at h
  · rename_i array
    exact ⟨.inl array, sizeOf_lt_of_mem_children (mem_children_of_items array h)⟩
  · rename_i map
    exact ⟨.inr map, sizeOf_lt_of_mem_children (mem_children_of_values map h)⟩
  · cases h

/-- Other nodes have no layer but themselves. -/
theorem layers_of_not_wrapper {s : Schema} (array : s.kind ≠ .array) (map : s.kind ≠ .map) :
    s.layers = [s] := by
  rw [layers_eq]
  cases inner : s.wrapped? with
  | none => rfl
  | some t => exact ((of_wrapped?_eq_some inner).1.elim array map).elim

/-- Either a node hands its path and its depth on to what it holds, or every branch adds to the
path. -/
theorem branches_cases (s : Schema) :
    (s.level = 0 ∧ s.branches = s.wrapped?.toList.map fun t => (.inner, t)) ∨
      (s.wrapped? = none ∧ ∀ b ∈ s.branches, b.1.steps ≠ []) := by
  unfold level branches wrapped?
  cases s.kind with
  | array | map => exact .inl ⟨rfl, rfl⟩
  | union =>
    refine .inr ⟨rfl, List.forall_mem_map.mpr fun m _ => ?_⟩
    exact List.cons_ne_nil _ _
  | record | message | file =>
    refine .inr ⟨rfl, List.forall_mem_map.mpr fun f _ => ?_⟩
    exact List.cons_ne_nil _ _
  | _ => exact .inr ⟨rfl, nofun⟩

/-! ### Following a path -/

/-- The node that a step leads to from a node with fields or members. -/
def direct? (s : Schema) : Step → Option Schema
  | .name text => if s.kind.isContainer then (s.field? text).map FieldOf.type else none
  | .index position => if s.kind = .union then s.members[position]? else none

/-- The node that a step leads to, through arrays and maps if need be. -/
def step? (s : Schema) (step : Step) : Option Schema := s.layers.findSome? (·.direct? step)

/-- The node that a path leads to. -/
def follow? : Path → Schema → Option Schema
  | [], s => some s
  | step :: rest, s => (s.step? step).bind (follow? rest)

theorem follow?_cons (step : Step) (rest : Path) (s : Schema) :
    s.follow? (step :: rest) = (s.step? step).bind (follow? rest) := rfl

/-- A visit tells a way: the node at its end, the steps on it, the number of records and messages
that it passes, and the field that it passes last. Its path leads to the node, if it is followed. -/
structure Tells (s : Schema) (way : Way) (v : Visit) : Prop where
  node : (s.along way).getLast? = some v.node
  path : v.path = way.flatMap fun b => b.1.steps
  depth : v.depth = (s.along way).countP fun t => t.kind.isNesting
  field : v.field = (way.filterMap fun b => b.1.field?).getLast?
  followed : ∃ top, s.follow? v.path = some top ∧ v.node ∈ top.layers

section

variable {s t : Schema}

theorem self_mem_layers (s : Schema) : s ∈ s.layers := by
  rw [layers_eq]
  exact List.mem_cons_self

theorem subset_layers_of_wrapped? (h : s.wrapped? = some t) : t.layers ⊆ s.layers := by
  rw [layers_eq s, h, Option.toList_some, List.flatMap_singleton]
  exact List.subset_cons_self _ _

/-- An array or a map is looked through. -/
theorem step?_of_wrapped? (h : s.wrapped? = some t) (step : Step) :
    s.step? step = t.step? step := by
  have passed : s.direct? step = none := by
    obtain array | map := (of_wrapped?_eq_some h).1 <;> cases step <;>
      simp [direct?, *, Kind.isContainer]
  unfold step?
  rw [layers_eq s, h, Option.toList_some, List.flatMap_singleton, List.findSome?_cons, passed]

theorem step?_of_direct? {step : Step} (h : s.direct? step = some t) : s.step? step = some t := by
  unfold step?
  rw [layers_eq, List.findSome?_cons, h]

/-- The nodes on a way of which the first step is taken. -/
theorem getLast?_along_cons (s : Schema) (b : Branch × Schema) (way : Way) :
    (s.along (b :: way)).getLast? = (b.2.along way).getLast? := by
  unfold along
  rw [List.map_cons, List.getLast?_cons_cons]

/-- A branch is a step to where it leads, or it leads to what an array or a map holds. -/
theorem branch_cases (distinct : (s.fields.map FieldOf.name).Nodup) {b : Branch × Schema}
    (hb : b ∈ s.branches) :
    (∃ step, b.1.steps = [step] ∧ s.direct? step = some b.2) ∨
      b.1.steps = [] ∧ s.wrapped? = some b.2 := by
  unfold branches at hb
  cases kind : s.kind with
  | record | message | file =>
    rw [kind] at hb
    obtain ⟨f, hf, rfl⟩ := List.mem_map.mp hb
    refine .inl ⟨.name f.name, rfl, ?_⟩
    simp [direct?, kind, Kind.isContainer, field?, find?_name_of_nodup distinct hf]
  | union =>
    rw [kind] at hb
    obtain ⟨m, hm, rfl⟩ := List.mem_map.mp hb
    refine .inl ⟨.index m.2, rfl, ?_⟩
    simpa [direct?, kind] using List.mem_zipIdx_iff_getElem?.mp hm
  | array | map =>
    rw [kind] at hb
    obtain ⟨t, ht, rfl⟩ := List.mem_map.mp hb
    refine .inr ⟨rfl, ?_⟩
    simpa [wrapped?, kind] using ht
  | _ =>
    rw [kind] at hb
    cases hb

/-- The steps on a way lead to its end, if the nodes of the tree were made. -/
theorem exists_follow? (made : ∀ t ∈ s.nodes, t.checked.isOk = true) {place : Place} {way : Way}
    (leads : s.way? place = some way) :
    ∃ top, s.follow? (way.flatMap fun b => b.1.steps) = some top ∧
      ∃ node ∈ top.layers, (s.along way).getLast? = some node := by
  induction place generalizing s way with
  | nil =>
    cases leads
    exact ⟨s, rfl, s, s.self_mem_layers, rfl⟩
  | cons i rest ih =>
    obtain ⟨b, here, leads⟩ := Option.bind_eq_some_iff.mp leads
    obtain ⟨way, below, rfl⟩ := Option.map_eq_some_iff.mp leads
    have hb := List.mem_of_getElem? here
    have child : b.2 ∈ s.children := s.map_snd_branches ▸ List.mem_map_of_mem hb
    obtain ⟨top, followed, node, inside, last⟩ :=
      ih (fun t ht => made t (nodes_subset_of_child child ht)) below
    have distinct := (of_checked_isOk (made s s.self_mem_nodes)).2
    rw [List.flatMap_cons, getLast?_along_cons, last]
    obtain ⟨step, steps, taken⟩ | ⟨steps, wrapped⟩ := branch_cases distinct hb
    · refine ⟨top, ?_, node, inside, rfl⟩
      rw [steps, List.singleton_append, follow?_cons, step?_of_direct? taken, Option.bind_some,
        followed]
    · rw [steps, List.nil_append]
      -- The path may end at what the array or map holds, and then it ends at the array or map.
      cases path : way.flatMap fun b => b.1.steps with
      | nil =>
        rw [path] at followed
        cases followed
        exact ⟨s, rfl, node, subset_layers_of_wrapped? wrapped inside, rfl⟩
      | cons step rest =>
        rw [path, follow?_cons] at followed
        refine ⟨top, ?_, node, inside, rfl⟩
        rw [follow?_cons, step?_of_wrapped? wrapped, followed]

end

/-- A walk visits the places of a tree, each once and in their order, and what it holds of a visit
is told by the way to its place. -/
theorem walk_faithful {s : Schema} (made : ∀ t ∈ s.nodes, t.checked.isOk = true) :
    ∃ places : List Place, places.Pairwise (· < ·) ∧
      (∀ place, place ∈ places ↔ (s.way? place).isSome = true) ∧
      List.Forall₂ (fun place v => ∃ way, s.way? place = some way ∧ s.Tells way v) places s.walk := by
  obtain ⟨places, ordered, found, complete⟩ := s.lists_walk
  refine ⟨places, ordered, fun place => ?_, found.imp fun place v here => ?_⟩
  · rw [mem_keys_iff found complete, visitAt?, Option.isSome_map]
  · obtain ⟨way, leads, rfl⟩ := Option.map_eq_some_iff.mp here
    obtain ⟨top, followed, node, inside, last⟩ := exists_follow? made leads
    have visited : (s.along way).getLast? = some (s.visitFrom [] 0 none way).node :=
      s.getLast?_along way
    rw [visited, Option.some.injEq] at last
    exact ⟨way, leads, {
      node := visited
      path := List.nil_append _
      depth := Nat.zero_add _
      field := Option.or_none
      followed := ⟨top, followed, last ▸ inside⟩ }⟩

/-- An order whose lines are a list of nothing or a record of counts. -/
def orderLines : Schema :=
  { kind := .record, name := .str "Order", fields := [
      { name := "lines"
        type := { kind := .array, items := some {
          kind := .union
          members := [{ kind := .primitive, typeName := some "null" },
            { kind := .record, name := .str "Line", fields := [
                { name := "counts"
                  type := { kind := .map
                            values := some { kind := .primitive, typeName := some "int" } } }] }] } } }] }

/-- The counts are reached through the list, the second member and the map. -/
theorem walk_faithful_orderLines :
    (∀ t ∈ orderLines.nodes, t.checked.isOk = true) ∧
      ∃ v ∈ orderLines.walk, v.path = [.name "lines", .index 1, .name "counts"] ∧
        v.node.typeName = some "int" ∧ v.depth = 2 ∧ v.field.map FieldOf.name = some "counts" ∧
        ∃ top, orderLines.follow? v.path = some top ∧ v.node ∈ top.layers := by
  have made : ∀ t ∈ orderLines.nodes, t.checked.isOk = true := by decide
  obtain ⟨places, -, complete, told⟩ := walk_faithful made
  have listed : [0, 0, 1, 0, 0] ∈ places := (complete _).mpr rfl
  obtain ⟨v, hv, way, leads, tells⟩ := exists_of_forall₂ told listed
  cases leads
  refine ⟨made, v, hv, tells.path, ?_, tells.depth, ?_, tells.followed⟩
  · rw [← Option.some.inj tells.node]
    rfl
  · rw [tells.field]
    rfl

end Schema
end SchemaReview
