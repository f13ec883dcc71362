import SchemaReview.Proofs.Compatibility.Likeness
import SchemaReview.Proofs.Schema.Shape

/-!
# The order of fields makes no difference

Trees that are equal once the fields of their nodes are put in another order, at any depth, have no
differences in any mode. What is asked for equality has to be equal to itself, which not-a-number is
not, and what a signature spells out has to be written alike, which equal numbers need not be.
-/
namespace SchemaReview

mutual

/-- A tree with the fields of its nodes in another order, at any depth. -/
inductive Schema.IsReordering : Schema → Schema → Prop
  | mk {s t : Schema} {fields : List Field}
    (types : List.Forall₂ FieldOf.IsReordering s.fields fields) (order : fields.Perm t.fields)
    (items : Option.Rel Schema.IsReordering s.items t.items)
    (values : Option.Rel Schema.IsReordering s.values t.values)
    (members : List.Forall₂ Schema.IsReordering s.members t.members)
    (rest : t = { s with
      fields := t.fields, items := t.items, values := t.values, members := t.members }) :
    Schema.IsReordering s t

/-- A field whose type has its fields in another order. -/
inductive FieldOf.IsReordering : Field → Field → Prop
  | mk {f g : Field} (type : Schema.IsReordering f.type g.type)
    (rest : g = { f with type := g.type }) : FieldOf.IsReordering f g

end

namespace Schema

/-- Whether two trees spell out alike what a signature shows of a node: its logical type and, where
it counts, its name. -/
inductive IsWrittenAlike (byName : Bool) : Schema → Schema → Prop
  | mk {s t : Schema} (logicalType : s.logicalType.toText = t.logicalType.toText)
    (name : byName = true ∨ s.typeName = some "fixed" → s.name.toText = t.name.toText)
    (below : List.Forall₂ (IsWrittenAlike byName) s.children t.children) : IsWrittenAlike byName s t

/-- Whether a tree is equal to another one, and written alike, once its fields are put in another
order. -/
def IsRearranged (byName : Bool) (s t : Schema) : Prop :=
  ∃ u, s.IsReordering u ∧ u.same t = true ∧ u.IsWrittenAlike byName t

/-- Whether what a comparison asks of a node for equality is equal to itself, and whether a union
has a signature. -/
def isSettled (byName : Bool) (s : Schema) : Bool :=
  (!s.kind.isStructured || (!s.name.isNaN && !s.documentation.isNaN)) &&
    s.fields.all FieldOf.hidesNothing &&
    (!(byName && s.kind == .union) ||
      s.members.all fun m => !m.kind.isStructured || m.qualifiedName.isTextOrNull)

/-- Whether all nodes of a tree are settled. -/
def IsSettled (byName : Bool) (s : Schema) : Prop := ∀ t ∈ s.nodes, t.isSettled byName = true

section

variable {byName : Bool} {s t u : Schema} {f g : Field}

namespace IsSettled

theorem child (h : s.IsSettled byName) (ht : t ∈ s.children) : t.IsSettled byName :=
  fun v hv => h v (mem_nodes_of_child ht hv)

theorem self (h : s.IsSettled byName) :
    (s.kind.isStructured = true → s.name.isNaN = false ∧ s.documentation.isNaN = false) ∧
      (∀ f ∈ s.fields, f.documentation.isNaN = false ∧ f.default.isNaN = false) ∧
      (byName = true → s.kind = .union → ∀ m ∈ s.members, m.kind.isStructured = true →
        m.qualifiedName.isTextOrNull = true) := by
  have self := h s s.self_mem_nodes
  simp only [isSettled, Bool.and_eq_true, Bool.or_eq_true, Bool.not_eq_true', List.all_eq_true,
    FieldOf.hidesNothing, Bool.and_eq_false_iff, beq_eq_false_iff_ne] at self
  obtain ⟨⟨label, fields⟩, names⟩ := self
  refine ⟨fun structured => ?_, fields, fun counts kind m hm structured => ?_⟩
  · exact label.resolve_left fun not => Bool.false_ne_true (not.symm.trans structured)
  · obtain (not | other) | texts := names
    · exact absurd (not.symm.trans counts) Bool.false_ne_true
    · exact absurd kind other
    · refine (texts m hm).resolve_left fun not => ?_
      exact Bool.false_ne_true (not.symm.trans structured)

end IsSettled

/-- What rearranged nodes have in common, their parts aside. -/
structure HaveLikeAttributes (byName : Bool) (s t : Schema) : Prop where
  kind : s.kind = t.kind
  name : s.name.same t.name = true
  nameText : byName = true ∨ s.typeName = some "fixed" → s.name.toText = t.name.toText
  qualifier : s.qualifier = t.qualifier
  documentation : s.documentation.same t.documentation = true
  typeName : s.typeName = t.typeName
  logicalType : s.logicalType.same t.logicalType = true
  logicalText : s.logicalType.toText = t.logicalType.toText
  size : s.size = t.size
  symbols : s.symbols = t.symbols
  symbolValues : s.symbolValues = t.symbolValues

theorem IsRearranged.attributes (h : s.IsRearranged byName t) : HaveLikeAttributes byName s t := by
  obtain ⟨u, reordered, equal, written⟩ := h
  cases reordered with
  | mk _ _ _ _ _ rest =>
    have own : u.kind = s.kind ∧ u.name = s.name ∧ u.qualifier = s.qualifier ∧
        u.documentation = s.documentation ∧ u.typeName = s.typeName ∧
        u.logicalType = s.logicalType ∧ u.size = s.size ∧ u.symbols = s.symbols ∧
        u.symbolValues = s.symbolValues := by
      rw [rest]
      exact ⟨rfl, rfl, rfl, rfl, rfl, rfl, rfl, rfl, rfl⟩
    obtain ⟨kind, name, qualifier, documentation, typeName, logicalType, size, symbols,
      symbolValues⟩ := own
    have equal := same_iff.mp equal
    cases written with
    | mk logicalText nameText _ =>
      rw [typeName, name] at nameText
      rw [logicalType] at logicalText
      exact {
        kind := kind ▸ equal.kind
        name := name ▸ equal.name
        nameText
        qualifier := qualifier ▸ equal.qualifier
        documentation := documentation ▸ equal.documentation
        typeName := typeName ▸ equal.typeName
        logicalType := logicalType ▸ equal.logicalType
        logicalText
        size := size ▸ equal.size
        symbols := symbols ▸ equal.symbols
        symbolValues := symbolValues ▸ equal.symbolValues }

/-! ### Parts -/

theorem forall₂_comp {α β γ : Type} {P : α → β → Prop} {Q : β → γ → Prop} {xs : List α}
    {ys : List β} {zs : List γ} (h : List.Forall₂ P xs ys) (h' : List.Forall₂ Q ys zs) :
    List.Forall₂ (fun x z => ∃ y, P x y ∧ Q y z) xs zs := by
  induction h generalizing zs with
  | nil =>
    cases h'
    exact .nil
  | cons p _ ih =>
    cases h' with
    | cons q rest => exact .cons ⟨_, p, q⟩ (ih rest)

/-- What two optional parts and their lists say of them. -/
theorem rel_rearranged {a b c : Option Schema} (reordered : Option.Rel IsReordering a b)
    (equal : Option.Rel (fun s t => s.same t = true) b c)
    (written : List.Forall₂ (IsWrittenAlike byName) b.toList c.toList) :
    Option.Rel (IsRearranged byName) a c := by
  cases reordered with
  | none =>
    cases equal
    exact .none
  | some reordered =>
    cases equal with
    | some equal =>
      cases written with
      | cons written _ => exact .some ⟨_, reordered, equal, written⟩

theorem IsReordering.kind (h : s.IsReordering u) : u.kind = s.kind := by
  cases h with
  | mk _ _ _ _ _ rest => rw [rest]

theorem IsRearranged.items (h : s.IsRearranged byName t) (kind : s.kind = .array) :
    Option.Rel (IsRearranged byName) s.items t.items := by
  obtain ⟨u, reordered, equal, written⟩ := h
  have here := reordered.kind.trans kind
  have equal := same_iff.mp equal
  have there := equal.kind.symm.trans here
  cases reordered with
  | mk _ _ items _ _ _ =>
    cases written with
    | mk _ _ below =>
      unfold children at below
      rw [here, there] at below
      exact rel_rearranged items equal.items below

theorem IsRearranged.values (h : s.IsRearranged byName t) (kind : s.kind = .map) :
    Option.Rel (IsRearranged byName) s.values t.values := by
  obtain ⟨u, reordered, equal, written⟩ := h
  have here := reordered.kind.trans kind
  have equal := same_iff.mp equal
  have there := equal.kind.symm.trans here
  cases reordered with
  | mk _ _ _ values _ _ =>
    cases written with
    | mk _ _ below =>
      unfold children at below
      rw [here, there] at below
      exact rel_rearranged values equal.values below

theorem IsRearranged.members (h : s.IsRearranged byName t) (kind : s.kind = .union) :
    List.Forall₂ (IsRearranged byName) s.members t.members := by
  obtain ⟨u, reordered, equal, written⟩ := h
  have here := reordered.kind.trans kind
  have equal := same_iff.mp equal
  have there := equal.kind.symm.trans here
  cases reordered with
  | mk _ _ _ _ members _ =>
    cases written with
    | mk _ _ below =>
      unfold children at below
      rw [here, there] at below
      have both := List.Forall₂.mp (fun _ _ => And.intro) equal.members below
      exact forall₂_comp members both

/-- The fields of a container and of a rearranged one, pair by pair but in two orders. -/
theorem IsRearranged.fields (h : s.IsRearranged byName t) (container : s.kind.isContainer = true) :
    ∃ fields others, List.Forall₂ FieldOf.IsReordering s.fields fields ∧ fields.Perm others ∧
      List.Forall₂ (fun f g => f.AreEqual g ∧ f.type.IsWrittenAlike byName g.type) others
        t.fields := by
  obtain ⟨u, reordered, equal, written⟩ := h
  have kind := reordered.kind
  have equal := same_iff.mp equal
  have here : u.children = u.fields.map FieldOf.type :=
    children_of_container (kind ▸ container)
  have there : t.children = t.fields.map FieldOf.type :=
    children_of_container (equal.kind ▸ kind ▸ container)
  cases reordered with
  | mk types order _ _ _ _ =>
    cases written with
    | mk _ _ below =>
      rw [here, there, List.forall₂_map_left_iff, List.forall₂_map_right_iff] at below
      exact ⟨_, u.fields, types, order, List.Forall₂.mp (fun _ _ => And.intro) equal.fields below⟩

end

end Schema

/-- A field that is equal to another one up to the order of fields in its type. -/
structure FieldOf.IsRearranged (byName : Bool) (f g : Field) : Prop where
  name : f.name = g.name
  type : f.type.IsRearranged byName g.type
  documentation : f.documentation.same g.documentation = true
  hasDefault : f.hasDefault = g.hasDefault
  default : f.default.same g.default = true
  tag : f.tag = g.tag

namespace Schema

section

variable {byName : Bool} {s t : Schema} {f g h : Field}

theorem isRearranged_of_reordering (reordered : f.IsReordering g) (equal : g.AreEqual h)
    (written : g.type.IsWrittenAlike byName h.type) : f.IsRearranged byName h := by
  cases reordered with
  | mk type rest =>
    have own : g.name = f.name ∧ g.documentation = f.documentation ∧
        g.hasDefault = f.hasDefault ∧ g.default = f.default ∧ g.tag = f.tag := by
      rw [rest]
      exact ⟨rfl, rfl, rfl, rfl, rfl⟩
    obtain ⟨name, documentation, hasDefault, default, tag⟩ := own
    exact {
      name := name ▸ equal.name
      type := ⟨g.type, type, equal.type, written⟩
      documentation := documentation ▸ equal.documentation
      hasDefault := hasDefault ▸ equal.hasDefault
      default := default ▸ equal.default
      tag := tag ▸ equal.tag }

/-- Each field of one side has its counterpart on the other side. -/
theorem IsRearranged.exists_field (related : s.IsRearranged byName t)
    (container : s.kind.isContainer = true) :
    (∀ f ∈ s.fields, ∃ g ∈ t.fields, f.IsRearranged byName g) ∧
      ∀ g ∈ t.fields, ∃ f ∈ s.fields, f.IsRearranged byName g := by
  obtain ⟨fields, others, types, order, equal⟩ := related.fields container
  constructor
  · intro f hf
    obtain ⟨g, hg, reordered⟩ := exists_of_forall₂ types hf
    obtain ⟨h, hh, equal, written⟩ := exists_of_forall₂ equal (order.mem_iff.mp hg)
    exact ⟨h, hh, isRearranged_of_reordering reordered equal written⟩
  · intro h hh
    obtain ⟨g, hg, equal, written⟩ := exists_of_forall₂ equal.flip hh
    obtain ⟨f, hf, reordered⟩ := exists_of_forall₂ types.flip (order.mem_iff.mpr hg)
    exact ⟨f, hf, isRearranged_of_reordering reordered equal written⟩

/-! ### The likeness -/

theorem isSpeltAlike_qualifiedName (name : s.name.IsSpeltAlike t.name)
    (qualifier : s.qualifier = t.qualifier) : s.qualifiedName.IsSpeltAlike t.qualifiedName := by
  unfold qualifiedName
  rw [name.isTruthy, qualifier, name.toText]
  split
  · split
    · split
      · exact name
      · exact isSpeltAlike_str _
    · exact name
  · exact ⟨rfl, rfl⟩

theorem toText_qualifiedName (name : s.name.same t.name = true)
    (text : s.name.toText = t.name.toText) (qualifier : s.qualifier = t.qualifier) :
    s.qualifiedName.toText = t.qualifiedName.toText := by
  unfold qualifiedName
  rw [Json.isTruthy_of_same name, qualifier, text]
  split
  · split
    · split
      · exact text
      · rfl
    · exact text
  · rfl

theorem HaveLikeAttributes.primitiveSignature (h : HaveLikeAttributes byName s t) :
    s.primitiveSignature = t.primitiveSignature := by
  unfold Schema.primitiveSignature
  rw [← h.typeName, h.size, Json.isTruthy_of_same h.logicalType, h.logicalText]
  split
  · rename_i fixed
    rw [toText_qualifiedName h.name (h.nameText (.inr fixed)) h.qualifier]
  · rfl

theorem HaveLikeAttributes.hasLikeLabel (h : HaveLikeAttributes byName s t)
    (settled : s.IsSettled byName) (structured : s.kind.isStructured = true) :
    HasLikeLabel byName s t := by
  obtain ⟨nameNumber, documentationNumber⟩ := settled.self.1 structured
  have name := Json.equals_of_same nameNumber h.name
  exact {
    name
    qualifier := h.qualifier
    documentation := docsDiffer_of_same documentationNumber h.documentation
    qualifiedName := fun counts =>
      isSpeltAlike_qualifiedName ⟨name, h.nameText (.inl counts)⟩ h.qualifier }

theorem hasLikeDetails_of_isRearranged (related : f.IsRearranged byName g)
    (settled : f.documentation.isNaN = false ∧ f.default.isNaN = false) : f.HasLikeDetails g where
  documentation := docsDiffer_of_same settled.1 related.documentation
  hasDefault := related.hasDefault
  default := fun _ => Json.equals_of_same settled.2 related.default
  tag := related.tag

/-- Being equal up to the order of fields is a likeness between settled trees. -/
theorem isLikeness_isRearranged (byName : Bool) : IsLikeness byName fun s t =>
    s.IsRearranged byName t ∧ s.IsSettled byName ∧ s.IsWellFormed ∧ t.IsWellFormed where
  kind := fun ⟨h, _⟩ => h.attributes.kind
  typeName := fun ⟨h, _⟩ => h.attributes.typeName
  primitive := fun ⟨h, _⟩ _ => h.attributes.primitiveSignature
  label := fun ⟨h, settled, _⟩ structured => h.attributes.hasLikeLabel settled structured
  symbols := fun ⟨h, _⟩ => ⟨h.attributes.symbols, h.attributes.symbolValues⟩
  items := fun ⟨h, settled, hs, ht⟩ kind => rel_of_mem (h.items kind) fun _ hi _ hj related =>
    ⟨related, settled.child (mem_children_of_items kind hi),
      hs.child (mem_children_of_items kind hi),
      ht.child (mem_children_of_items (h.attributes.kind ▸ kind) hj)⟩
  values := fun ⟨h, settled, hs, ht⟩ kind => rel_of_mem (h.values kind) fun _ hi _ hj related =>
    ⟨related, settled.child (mem_children_of_values kind hi),
      hs.child (mem_children_of_values kind hi),
      ht.child (mem_children_of_values (h.attributes.kind ▸ kind) hj)⟩
  members := fun ⟨h, settled, hs, ht⟩ kind => forall₂_of_mem (h.members kind) fun _ hm _ hn related =>
    ⟨related, settled.child (mem_children_of_member kind hm),
      hs.child (mem_children_of_member kind hm),
      ht.child (mem_children_of_member (h.attributes.kind ▸ kind) hn)⟩
  memberNames := fun ⟨_, settled, _⟩ kind counts => settled.self.2.2 counts kind
  field := by
    rintro s t f ⟨h, settled, hs, ht⟩ hf
    obtain ⟨g, hg, related⟩ := (h.exists_field (hs.isContainer hf)).1 f hf
    refine ⟨g, related.name ▸ ht.field?_of_mem hg, ⟨related.type, ?_, hs.field hf, ht.field hg⟩, ?_⟩
    · exact settled.child (hs.type_mem_children hf)
    · exact hasLikeDetails_of_isRearranged related (settled.self.2.1 f hf)
  known := by
    rintro s t g ⟨h, settled, hs, ht⟩ hg
    have container := h.attributes.kind ▸ ht.isContainer hg
    obtain ⟨f, hf, related⟩ := (h.exists_field container).2 g hg
    exact ⟨f, related.name ▸ hs.field?_of_mem hf⟩

/-- A node has its own attributes, also where numbers stand for texts. -/
theorem IsWellFormed.haveLikeAttributes (h : s.IsWellFormed) : HaveLikeAttributes byName s s := by
  have sound := h s s.self_mem_nodes
  simp only [isSound, Bool.and_eq_true] at sound
  have logicalType : s.logicalType.hasDistinctKeys = true := sound.1.2
  exact {
    kind := rfl
    name := Json.same_of_sorted_eq h.name h.name rfl
    nameText := fun _ => rfl
    qualifier := rfl
    documentation := Json.same_of_sorted_eq h.documentation h.documentation rfl
    typeName := rfl
    logicalType := Json.same_of_sorted_eq logicalType logicalType rfl
    logicalText := rfl
    size := rfl
    symbols := rfl
    symbolValues := rfl }

/-- Being the same is a likeness between settled trees. -/
theorem isLikeness_eq (byName : Bool) : IsLikeness byName fun s t =>
    s = t ∧ s.IsSettled byName ∧ s.IsWellFormed where
  kind := fun ⟨same, _⟩ => same ▸ rfl
  typeName := fun ⟨same, _⟩ => same ▸ rfl
  primitive := fun ⟨same, _⟩ _ => same ▸ rfl
  label := fun ⟨same, settled, hs⟩ structured =>
    same ▸ hs.haveLikeAttributes.hasLikeLabel settled structured
  symbols := fun ⟨same, _⟩ => same ▸ ⟨rfl, rfl⟩
  items := by
    rintro s _ ⟨rfl, settled, hs⟩ kind
    cases given : s.items with
    | none => exact .none
    | some i =>
      have child := mem_children_of_items kind given
      exact .some ⟨rfl, settled.child child, hs.child child⟩
  values := by
    rintro s _ ⟨rfl, settled, hs⟩ kind
    cases given : s.values with
    | none => exact .none
    | some i =>
      have child := mem_children_of_values kind given
      exact .some ⟨rfl, settled.child child, hs.child child⟩
  members := by
    rintro s _ ⟨rfl, settled, hs⟩ kind
    refine List.forall₂_same.mpr fun m hm => ?_
    have child := mem_children_of_member kind hm
    exact ⟨rfl, settled.child child, hs.child child⟩
  memberNames := fun ⟨_, settled, _⟩ kind counts => settled.self.2.2 counts kind
  field := by
    rintro s _ f ⟨rfl, settled, hs⟩ hf
    have child := hs.type_mem_children hf
    obtain ⟨documentationNumber, defaultNumber⟩ := settled.self.2.1 f hf
    obtain ⟨documentation, default⟩ := hs.fieldValues hf
    refine ⟨f, hs.field?_of_mem hf, ⟨rfl, settled.child child, hs.child child⟩, ?_⟩
    exact {
      documentation := docsDiffer_of_same documentationNumber
        (Json.same_of_sorted_eq documentation documentation rfl)
      hasDefault := rfl
      default := fun _ => Json.equals_of_same defaultNumber
        (Json.same_of_sorted_eq default default rfl)
      tag := rfl }
  known := by
    rintro s _ g ⟨rfl, -, hs⟩ hg
    exact ⟨g, hs.field?_of_mem hg⟩

/-! ### Trees in their own order -/

theorem IsReordering.refl (s : Schema) : s.IsReordering s := by
  have smaller := s.sizeOf_held_lt
  have held {o : Option Schema} {i : Schema} (given : o = some i) (h : sizeOf o < sizeOf s) :
      sizeOf i < sizeOf s := by
    rw [given, Option.some.sizeOf_spec] at h
    omega
  refine .mk (List.forall₂_same.mpr fun f hf => ?_) (List.Perm.refl _) ?_ ?_ ?_ (by cases s; rfl)
  · have := sizeOf_lt_of_mem_fields hf
    exact .mk (refl f.type) (by cases f; rfl)
  · cases given : s.items with
    | none => exact .none
    | some i =>
      have := held given smaller.1
      exact .some (refl i)
  · cases given : s.values with
    | none => exact .none
    | some i =>
      have := held given smaller.2.1
      exact .some (refl i)
  · refine List.forall₂_same.mpr fun m hm => ?_
    have := List.sizeOf_lt_of_mem hm
    exact refl m
termination_by sizeOf s

theorem IsWrittenAlike.refl (s : Schema) : s.IsWrittenAlike byName s :=
  .mk rfl (fun _ => rfl) (List.forall₂_same.mpr fun c hc =>
    have := sizeOf_lt_of_mem_children hc
    refl c)
termination_by sizeOf s

end

end Schema

/-- A schema has no differences, in any mode, to one that is equal to it up to the order of fields
at any depth, if no name, documentation or default is not-a-number, equal names and logical types
are written alike where signatures show them, and unions have signatures where names count. In
particular, it has none to itself. -/
theorem diff_eq_nil_of_reordering {a : SchemaInput} (ha : a.root.IsWellFormed) :
    (∀ (b : SchemaInput) (c : Schema), b.root.IsWellFormed →
      a.root.IsSettled (comparesByName a b) → a.root.IsReordering c → c.same b.root = true →
      c.IsWrittenAlike (comparesByName a b) b.root → ∀ mode, diff a b mode = .ok []) ∧
    (a.root.IsSettled (comparesByName a a) → ∀ mode, diff a a mode = .ok []) := by
  refine ⟨fun b c hb settled reordered equal written mode => ?_, fun settled mode => ?_⟩
  · have rearranged : a.root.IsRearranged (comparesByName a b) b.root :=
      ⟨c, reordered, equal, written⟩
    exact Comparison.rootChanges_of_likeness (c := ⟨mode, comparesByName a b⟩)
      (Schema.isLikeness_isRearranged _) ⟨rearranged, settled, ha, hb⟩
  · exact Comparison.rootChanges_of_likeness (c := ⟨mode, comparesByName a a⟩)
      (Schema.isLikeness_eq _) ⟨rfl, settled, ha⟩

/-- A field of a person or an address that is a text. -/
def textField (name : String) : Field :=
  { name := name, type := { kind := .primitive, typeName := some "string" } }

/-- An address with its fields in one of two orders. -/
def orderedAddress (turned : Bool) : Schema :=
  { kind := .record, name := .str "Address",
    fields := if turned then [textField "zip", textField "street"]
      else [textField "street", textField "zip"] }

/-- The homes of a person, whose addresses have their fields in one of two orders. -/
def orderedHomes (turned : Bool) : Field :=
  { name := "homes", type := { kind := .array, items := some (orderedAddress turned) } }

/-- A person with all fields in one of two orders. -/
def orderedPerson (turned : Bool) : Schema :=
  { kind := .record, name := .str "Person",
    fields := if turned then [textField "name", orderedHomes true]
      else [orderedHomes false, textField "name"] }

theorem diff_eq_nil_of_reordering_person :
    (orderedPerson false).IsReordering (orderedPerson true) ∧
      diff (.model (orderedPerson false)) (.model (orderedPerson true)) .full = .ok [] ∧
      diff (.model (orderedPerson false)) (.model (orderedPerson false)) .full = .ok [] := by
  have before : (orderedPerson false).IsWellFormed := by
    unfold Schema.IsWellFormed
    decide
  have after : (orderedPerson true).IsWellFormed := by
    unfold Schema.IsWellFormed
    decide
  have settled : (orderedPerson false).IsSettled true := by
    unfold Schema.IsSettled
    decide
  have address : (orderedAddress false).IsReordering (orderedAddress true) :=
    .mk (List.forall₂_same.mpr fun f _ => .mk (.refl f.type) (by cases f; rfl))
      (List.Perm.swap ..) .none .none .nil rfl
  have homes : (orderedHomes false).type.IsReordering (orderedHomes true).type :=
    .mk .nil .nil (.some address) .none .nil rfl
  have reordered : (orderedPerson false).IsReordering (orderedPerson true) :=
    .mk (.cons (.mk homes rfl) (.cons (.mk (.refl _) rfl) .nil)) (List.Perm.swap ..) .none .none .nil
      rfl
  have equal : (orderedPerson true).same (orderedPerson true) = true := by
    cbv
  obtain ⟨others, itself⟩ := diff_eq_nil_of_reordering (a := .model (orderedPerson false)) before
  exact ⟨reordered,
    others (.model (orderedPerson true)) _ after settled reordered equal (.refl _) .full,
    itself settled .full⟩

/-- A record that is described by what is not a number. -/
def numberlessRecord : Schema := { kind := .record, documentation := .float .nan }

/-- A text in some format. -/
def formattedText (format : Json) : Schema :=
  { kind := .primitive, typeName := some "string", logicalType := format }

/-- A record with a choice of one record, which is titled by a number. -/
def numberedChoice : Schema :=
  { kind := .record,
    fields := [{ name := "choice",
                 type := { kind := .union, members := [{ kind := .record, name := .int 1 }] } }] }

/-- Equal schemas differ if a description is not equal to itself or equal formats are written in two
ways, and the comparison fails where a name should be part of a text and is none. -/
theorem equal_schemas_differ :
    (numberlessRecord.IsWellFormed ∧ numberlessRecord.same numberlessRecord = true ∧
      diff (.model numberlessRecord) (.model numberlessRecord) .none ≠ .ok []) ∧
    ((formattedText (.int 1)).IsWellFormed ∧ (formattedText (.bool true)).IsWellFormed ∧
      (formattedText (.int 1)).same (formattedText (.bool true)) = true ∧
      diff (.model (formattedText (.int 1))) (.model (formattedText (.bool true))) .none ≠ .ok []) ∧
    (numberedChoice.IsWellFormed ∧ numberedChoice.same numberedChoice = true ∧
      diff (.model numberedChoice) (.model numberedChoice) .none ≠ .ok []) := by
  refine ⟨⟨?_, ?_, ?_⟩, ⟨?_, ?_, ?_, ?_⟩, ?_, ?_, ?_⟩
  · unfold Schema.IsWellFormed
    decide
  · cbv
  · have entries : List.length <$> diff (.model numberlessRecord) (.model numberlessRecord) .none =
        .ok 1 := by
      cbv
    intro same
    rw [same] at entries
    cases entries
  · unfold Schema.IsWellFormed
    decide
  · unfold Schema.IsWellFormed
    decide
  · cbv
  · have spelt (format : Json) : (formattedText format).namedSignature true =
        .ok (.str (formattedText format).primitiveSignature) := rfl
    have one : (formattedText (.int 1)).primitiveSignature = "string(1)" := by decide +kernel
    have other : (formattedText (.bool true)).primitiveSignature = "string(True)" := by
      decide +kernel
    have differ : (⟨.none, true⟩ : Comparison).signaturesDiffer (formattedText (.int 1))
        (formattedText (.bool true)) = .ok true := by
      unfold Comparison.signaturesDiffer
      rw [spelt, spelt, one, other]
      rfl
    intro same
    have ran : (⟨.none, true⟩ : Comparison).rootChanges (formattedText (.int 1))
        (formattedText (.bool true)) = .ok [] := same
    rw [Comparison.rootChanges, differ] at ran
    cases ran
  · unfold Schema.IsWellFormed
    decide
  · cbv
  · have failed : diff (.model numberedChoice) (.model numberedChoice) .none =
        .error (.nonTextInSequence 0 "int") := by
      cbv
    intro same
    rw [failed] at same
    cases same

end SchemaReview
