import SchemaReview.Proofs.Avro.Tree
import SchemaReview.Proofs.Compatibility.Resolution
import SchemaReview.Proofs.Compatibility.SignatureText
import SchemaReview.Proofs.Json.Member
import SchemaReview.Proofs.Schema.Nodes

/-!
# Equal signatures of Avro types

A type whose signature has not changed is not compared any further at its own level. That is sound
where the text of a signature can be taken apart again: names must be words and must not be names
of primitive types, and the text of a logical type must not contain the bracket that ends it. The
kind of a named type is not part of its signature, so it has to follow from the name.
-/
namespace SchemaReview.Schema

open SchemaReview.Avro (primitives)

/-- Whether the names and attributes of a node leave its signature readable. -/
structure IsProper (s : Schema) : Prop where
  nonempty : s.name ≠ .str ""
  word : ∀ q, s.qualifiedName = .str q → IsWord q
  notPrimitive : ∀ q, s.isNamed = true → s.qualifiedName = .str q → q ∉ primitives
  logical : s.logicalType.isTruthy = true → ')' ∉ s.logicalType.toText.toList

/-- A tree of an accepted Avro schema without references whose nodes are all proper. -/
structure IsSelfContained (s : Schema) : Prop where
  tree : Avro.IsTree s
  notReference : ∀ t ∈ s.nodes, t.kind ≠ .reference
  proper : ∀ t ∈ s.nodes, IsProper t

theorem IsSelfContained.node {s t : Schema} (h : IsSelfContained s) (ht : t ∈ s.nodes) :
    IsSelfContained t :=
  ⟨h.tree.node ht, fun u hu => h.notReference u (nodes_subset_of_node ht hu),
    fun u hu => h.proper u (nodes_subset_of_node ht hu)⟩

theorem IsSelfContained.child {s c : Schema} (h : IsSelfContained s) (hc : c ∈ s.children) :
    IsSelfContained c := h.node (mem_nodes_of_child hc c.self_mem_nodes)

mutual

/-- What the signature of a type describes. -/
inductive Signed : Schema → Signature → Prop
  | primitive {s word} (kind : s.kind = .primitive) (type : s.typeName = some word)
      (known : word ∈ primitives) (plain : s.logicalType.isTruthy = false) : Signed s (.word word)
  | logical {s word text} (kind : s.kind = .primitive) (type : s.typeName = some word)
      (known : word ∈ primitives) (present : s.logicalType.isTruthy = true)
      (shown : s.logicalType.toText = text) : Signed s (.logical word text)
  | fixed {s q n} (kind : s.kind = .primitive) (type : s.typeName = some "fixed")
      (name : s.qualifiedName = .str q) (size : s.size = some n) : Signed s (.fixed q n)
  | named {s q} (named : s.isNamed = true) (name : s.qualifiedName = .str q) (nonempty : q ≠ "")
      (new : q ∉ primitives) : Signed s (.word q)
  | array {s i g} (kind : s.kind = .array) (items : s.items = some i) (inner : Signed i g) :
      Signed s (.array g)
  | map {s v g} (kind : s.kind = .map) (values : s.values = some v) (inner : Signed v g) :
      Signed s (.map g)
  | union {s m ms g gs} (kind : s.kind = .union) (members : s.members = m :: ms)
      (first : Signed m g) (rest : SignedAll ms gs) : Signed s (.union g gs)

/-- What the signatures of several types describe. -/
inductive SignedAll : List Schema → List Signature → Prop
  | nil : SignedAll [] []
  | cons {s ss g gs} (first : Signed s g) (rest : SignedAll ss gs) :
      SignedAll (s :: ss) (g :: gs)

end

theorem exists_qualifiedName_of_name {s : Schema} {name : String} (hname : s.name = .str name)
    (nonempty : name ≠ "") : ∃ q, s.qualifiedName = .str q ∧ q ≠ "" := by
  unfold qualifiedName
  rw [hname]
  simp only [Json.isTruthy, bne_iff_ne, ne_eq, nonempty, not_false_iff, if_true]
  cases s.qualifier with
  | none => exact ⟨name, rfl, nonempty⟩
  | some q =>
    by_cases hq : q = ""
    · exact ⟨name, by simp [hq], nonempty⟩
    · refine ⟨q ++ "." ++ name, by simp only [hq, if_false, Json.toText_str], ?_⟩
      intro h
      exact nonempty (String.append_eq_empty_iff.mp h).2

theorem exists_qualifiedName {s : Schema} {name : String} (proper : IsProper s)
    (hname : s.name = .str name) : ∃ q, s.qualifiedName = .str q ∧ q ≠ "" :=
  exists_qualifiedName_of_name hname fun he => proper.nonempty (he ▸ hname)

theorem IsSelfContained.exists_qualifiedName {s : Schema} (h : IsSelfContained s)
    (hs : s.isNamed = true) : ∃ q, s.qualifiedName = .str q ∧ q ≠ "" := by
  have proper := h.proper s s.self_mem_nodes
  cases h.tree with
  | enum name | record name => exact Schema.exists_qualifiedName proper rfl
  | _ => cases hs

theorem isWord_primitive {word : String} (h : word ∈ primitives) : IsWord word := by
  revert word
  decide

theorem exists_signed_named {s : Schema} {name : String} (hs : s.isNamed = true)
    (hname : s.name = .str name) (proper : IsProper s) :
    ∃ g : Signature, Signed s g ∧ g.IsWellFormed := by
  obtain ⟨q, hq, hne⟩ := exists_qualifiedName proper hname
  exact ⟨_, .named hs hq hne (proper.notPrimitive q hs hq), proper.word q hq⟩

theorem exists_signedAll {members : List Schema}
    (h : ∀ m ∈ members, ∃ g : Signature, Signed m g ∧ g.IsWellFormed) :
    ∃ gs, SignedAll members gs ∧ Signature.AreWellFormed gs := by
  induction members with
  | nil => exact ⟨[], .nil, trivial⟩
  | cons m rest ih =>
    rw [List.forall_mem_cons] at h
    obtain ⟨g, hg, wg⟩ := h.1
    obtain ⟨gs, hgs, wgs⟩ := ih h.2
    exact ⟨g :: gs, .cons hg hgs, wg, wgs⟩

/-- Every type of a self-contained tree has a signature that can be taken apart. -/
theorem exists_signed_of_tree {s : Schema} (tree : Avro.IsTree s) (h : IsSelfContained s) :
    ∃ g : Signature, Signed s g ∧ g.IsWellFormed := by
  have proper := h.proper s s.self_mem_nodes
  match tree with
  | .primitive known logical doc =>
    by_cases present : logical.isTruthy
    · exact ⟨_, .logical rfl rfl known present rfl, isWord_primitive known, proper.logical present⟩
    · exact ⟨_, .primitive rfl rfl known (by simpa using present), isWord_primitive known⟩
  | .reference name => exact absurd rfl (h.notReference _ (self_mem_nodes _))
  | .union nonempty trees =>
    obtain ⟨gs, hgs, wgs⟩ := exists_signedAll fun m hm =>
      exists_signed_of_tree (trees m hm) (h.child hm)
    cases hgs with
    | nil => exact absurd rfl nonempty
    | cons first rest => exact ⟨_, .union rfl rfl first rest, wgs⟩
  | .array tree doc =>
    obtain ⟨g, hg, wg⟩ := exists_signed_of_tree tree (h.child List.mem_cons_self)
    exact ⟨_, .array rfl rfl hg, wg⟩
  | .map tree doc =>
    obtain ⟨g, hg, wg⟩ := exists_signed_of_tree tree (h.child List.mem_cons_self)
    exact ⟨_, .map rfl rfl hg, wg⟩
  | .enum name own doc distinct => exact exists_signed_named rfl rfl proper
  | .fixed name own size logical doc =>
    obtain ⟨q, hq, -⟩ := exists_qualifiedName proper rfl
    exact ⟨_, .fixed rfl rfl hq rfl, proper.word q hq⟩
  | .record name own doc distinct trees => exact exists_signed_named rfl rfl proper

section

variable {s : Schema}

theorem typeSignature_primitive (h : s.kind = .primitive) (byName : Bool) :
    s.typeSignature byName = .ok (.str s.primitiveSignature) := by
  cases s
  subst h
  rw [typeSignature]

theorem typeSignature_array {i : Schema} {text : String} (h : s.kind = .array)
    (items : s.items = some i) (inner : i.typeSignature true = .ok (.str text)) :
    s.typeSignature true = .ok (.str ("array<" ++ text ++ ">")) := by
  cases s
  subst h items
  rw [typeSignature, innerSignature, inner]
  simp only [bind, Except.bind, pure, Except.pure, Json.toText_str]

theorem typeSignature_map {v : Schema} {text : String} (h : s.kind = .map)
    (values : s.values = some v) (inner : v.typeSignature true = .ok (.str text)) :
    s.typeSignature true = .ok (.str ("map<" ++ text ++ ">")) := by
  cases s
  subst h values
  rw [typeSignature, innerSignature, inner]
  simp only [bind, Except.bind, pure, Except.pure, Json.toText_str]

theorem typeSignature_named {q : String} (h : s.isNamed = true) (name : s.qualifiedName = .str q)
    (nonempty : q ≠ "") : s.typeSignature true = .ok (.str q) := by
  have truthy : (true && (Json.str q).isTruthy) = true := by simp [Json.isTruthy, nonempty]
  cases s with
  | mk kind =>
    cases kind with
    | record | enum | message =>
      rw [typeSignature.eq_def]
      dsimp only
      rw [name, if_pos truthy]
    | _ => cases h

theorem namedSignature_named {q : String} (h : s.isNamed = true) (name : s.qualifiedName = .str q)
    (nonempty : q ≠ "") : s.namedSignature true = .ok (.str q) := by
  unfold namedSignature
  split
  · rw [name]
  · exact typeSignature_named h name nonempty

theorem firstNonText?_map (texts : List String) (position : Nat) :
    firstNonText? (texts.map .str) position = none := by
  induction texts generalizing position with
  | nil => rfl
  | cons text rest ih => exact ih _

theorem typeSignature_union {texts : List String} (h : s.kind = .union)
    (members : memberSignatures true s.members = .ok (texts.map .str)) :
    s.typeSignature true = .ok (.str ("union[" ++ ",".intercalate texts ++ "]")) := by
  cases s
  subst h
  rw [typeSignature, members]
  simp only [bind, Except.bind, pure, Except.pure, firstNonText?_map, List.map_map]
  rw [show Json.toText ∘ Json.str = id from funext Json.toText_str, List.map_id]

end

theorem known_ne {word : String} (h : word ∈ primitives) : word ≠ "fixed" ∧ word ≠ "" := by
  revert word
  decide

mutual

/-- The signature that a type has is the text of what describes it. -/
theorem typeSignature_of_signed {s : Schema} {g : Signature} (h : Signed s g) :
    s.typeSignature true = .ok (.str (String.ofList g.render)) := by
  match h with
  | .primitive kind type known plain =>
    have hw := known_ne known
    rw [typeSignature_primitive kind, primitiveSignature, type]
    simp [hw, presentOr, plain, Signature.render]
  | .logical kind type known present shown =>
    have hw := known_ne known
    rw [typeSignature_primitive kind, primitiveSignature, type, shown]
    simp [hw, presentOr, present, Signature.render, ← String.toList_inj]
  | .fixed kind type name size =>
    rw [typeSignature_primitive kind, primitiveSignature, type, size, name]
    simp [Signature.render, Json.toText_str, ← String.toList_inj]
  | .named named name nonempty new =>
    rw [typeSignature_named named name nonempty]
    simp [Signature.render]
  | .array kind items inner =>
    rw [typeSignature_array kind items (typeSignature_of_signed inner)]
    simp [Signature.render, ← String.toList_inj]
  | .map kind values inner =>
    rw [typeSignature_map kind values (typeSignature_of_signed inner)]
    simp [Signature.render, ← String.toList_inj]
  | @Signed.union _ _ _ g gs kind members first rest =>
    have signatures := memberSignatures_of_signed (.cons first rest)
    rw [← members] at signatures
    rw [typeSignature_union kind signatures]
    have parts := Signature.intercalate_render g gs
    simp only [Except.ok.injEq, Json.str.injEq, ← String.toList_inj, String.toList_append,
      String.toList_intercalate, String.toList_ofList, List.map_map, Signature.render,
      List.append_assoc]
    simpa [Function.comp_def] using parts
termination_by (sizeOf g, 1)

theorem memberSignatures_of_signed {members : List Schema} {gs : List Signature}
    (h : SignedAll members gs) : memberSignatures true members =
      .ok ((gs.map fun g => String.ofList g.render).map .str) := by
  match h with
  | .nil => rfl
  | .cons first rest =>
    rw [memberSignatures, typeSignature_of_signed first, memberSignatures_of_signed rest]
    rfl
termination_by (sizeOf gs, 0)

end

theorem equals_str (a b : String) : (Json.str a).equals (.str b) = true ↔ a = b := by
  simp [Json.equals, Json.same]

/-- Whether a name stands for one kind of type in two trees. -/
def KindsAgree (s t : Schema) : Prop :=
  ∀ a ∈ s.nodes, ∀ b ∈ t.nodes, a.isNamed = true → b.isNamed = true →
    a.qualifiedName = b.qualifiedName → a.kind = b.kind

theorem KindsAgree.children {s t a b : Schema} (h : KindsAgree s t) (ha : a ∈ s.children)
    (hb : b ∈ t.children) : KindsAgree a b :=
  fun c hc d hd => h c (mem_nodes_of_child ha hc) d (mem_nodes_of_child hb hd)

theorem KindsAgree.nodes {s t a b : Schema} (h : KindsAgree s t) (ha : a ∈ s.nodes)
    (hb : b ∈ t.nodes) : KindsAgree a b :=
  fun c hc d hd => h c (nodes_subset_of_node ha hc) d (nodes_subset_of_node hb hd)

theorem resolutionName_named {s : Schema} {q : String} (hs : s.isNamed = true)
    (name : s.qualifiedName = .str q) (nonempty : q ≠ "") : s.resolutionName true = .str q := by
  have notReference : (s.kind == .reference) = false := by
    rw [beq_eq_false_iff_ne]
    intro h
    simp [isNamed, h, Kind.isNamed] at hs
  simp [resolutionName, notReference, name, Json.isTruthy, nonempty]

theorem canReadPrimitive_of_known {r w : Schema} {word : String} (hr : r.typeName = some word)
    (hw : w.typeName = some word) (known : word ∈ primitives) : canReadPrimitive r w = true := by
  simp [canReadPrimitive, hr, hw, known_ne known]

mutual

/-- Types that are described alike can read each other's data. -/
theorem canRead_of_signed {r w : Schema} {g : Signature} (hr : Signed r g) (hw : Signed w g)
    (agree : KindsAgree r w) : canRead true r w = true := by
  match hr, hw with
  | .primitive kind type known plain, .primitive kind' type' known' plain' =>
    exact canRead_of_primitive kind kind' (canReadPrimitive_of_known type type' known)
  | .primitive kind type known plain, .named named name nonempty new => exact absurd known new
  | .named named name nonempty new, .primitive kind type known plain => exact absurd known new
  | .logical kind type known present shown, .logical kind' type' known' present' shown' =>
    exact canRead_of_primitive kind kind' (canReadPrimitive_of_known type type' known)
  | .fixed kind type name size, .fixed kind' type' name' size' =>
    refine canRead_of_primitive kind kind' ?_
    simp [canReadPrimitive, type, type', name, name', size, size', equals_str]
  | .named named name nonempty new, .named named' name' nonempty' new' =>
    refine canRead_of_name named ?_ ?_
    · exact agree r r.self_mem_nodes w w.self_mem_nodes named named' (name.trans name'.symm)
    · rw [resolutionName_named named name nonempty, resolutionName_named named' name' nonempty',
        equals_str]
  | .array kind items inner, .array kind' items' inner' =>
    refine canRead_of_items kind kind' items items' (canRead_of_signed inner inner' ?_)
    exact agree.children (mem_children_of_items kind items) (mem_children_of_items kind' items')
  | .map kind values inner, .map kind' values' inner' =>
    refine canRead_of_values kind kind' values values' (canRead_of_signed inner inner' ?_)
    exact agree.children (mem_children_of_values kind values)
      (mem_children_of_values kind' values')
  | .union kind members first rest, .union kind' members' first' rest' =>
    rw [canRead_writtenUnion kind']
    intro m hm
    have parts := canRead_of_signedAll (.cons first rest) (.cons first' rest') fun a ha b hb =>
      agree.children (mem_children_of_member kind (members ▸ ha))
        (mem_children_of_member kind' (members' ▸ hb))
    obtain ⟨p, hp, hread⟩ := parts m (members' ▸ hm)
    exact canRead_of_member kind (members ▸ hp) hread
termination_by (sizeOf g, 1)

theorem canRead_of_signedAll {rs ws : List Schema} {gs : List Signature} (hr : SignedAll rs gs)
    (hw : SignedAll ws gs) (agree : ∀ r ∈ rs, ∀ w ∈ ws, KindsAgree r w) :
    ∀ w ∈ ws, ∃ r ∈ rs, canRead true r w = true := by
  match hr, hw with
  | .nil, .nil => simp
  | .cons first rest, .cons first' rest' =>
    intro w hw
    obtain rfl | hw := List.mem_cons.mp hw
    · exact ⟨_, List.mem_cons_self,
        canRead_of_signed first first' (agree _ List.mem_cons_self _ List.mem_cons_self)⟩
    · obtain ⟨r, hr, hread⟩ := canRead_of_signedAll rest rest'
        (fun a ha b hb => agree a (List.mem_cons_of_mem _ ha) b (List.mem_cons_of_mem _ hb)) w hw
      exact ⟨r, List.mem_cons_of_mem _ hr, hread⟩
termination_by (sizeOf gs, 0)

end

theorem namedSignature_of_signed {s : Schema} {g : Signature} (h : Signed s g) :
    s.namedSignature true = .ok (.str (String.ofList g.render)) := by
  unfold namedSignature
  split
  · rename_i hn
    simp only [Bool.true_and, Bool.and_eq_true] at hn
    have hs := typeSignature_of_signed h
    cases h with
    | named named name nonempty new =>
      rw [typeSignature_named named name nonempty] at hs
      rw [name, hs]
    | primitive kind => simp [kind, Kind.isNamed] at hn
    | logical kind => simp [kind, Kind.isNamed] at hn
    | fixed kind => simp [kind, Kind.isNamed] at hn
    | array kind => simp [kind, Kind.isNamed] at hn
    | map kind => simp [kind, Kind.isNamed] at hn
    | union kind => simp [kind, Kind.isNamed] at hn
  · exact typeSignature_of_signed h

/-- Self-contained types with one signature can read each other's data. -/
theorem canRead_of_equalSignatures {r w : Schema} {old new : Json} (hr : IsSelfContained r)
    (hw : IsSelfContained w) (agree : KindsAgree r w) (hold : w.namedSignature true = .ok old)
    (hnew : r.namedSignature true = .ok new) (same : old.equals new = true) :
    canRead true r w = true := by
  obtain ⟨g, hg, wg⟩ := exists_signed_of_tree hr.tree hr
  obtain ⟨h, hh, wh⟩ := exists_signed_of_tree hw.tree hw
  rw [namedSignature_of_signed hg] at hnew
  rw [namedSignature_of_signed hh] at hold
  cases hnew
  cases hold
  rw [equals_str, String.ofList_inj] at same
  obtain rfl := Signature.render_injective wh wg same
  exact canRead_of_signed hg hh agree

end SchemaReview.Schema
