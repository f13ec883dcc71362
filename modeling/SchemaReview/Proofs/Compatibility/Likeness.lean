import SchemaReview.Proofs.Compatibility.Fields
import SchemaReview.Proofs.Compatibility.Totality
import SchemaReview.Proofs.Json.Transitivity

/-!
# Trees between which a comparison finds nothing

A comparison walks two trees side by side and looks at a few attributes of each pair of nodes. A
relation under which paired nodes agree in these, and which leads from a pair to the pairs below it,
is a likeness. Nodes that are paired by some likeness are described alike, stand for named types
that are paired again, and have no differences.
-/
namespace SchemaReview

/-- Whether two values are equal and are written alike. -/
structure Json.IsSpeltAlike (a b : Json) : Prop where
  equals : a.equals b = true
  toText : a.toText = b.toText

/-- Whether a comparison of two fields finds nothing besides their types. -/
structure FieldOf.HasLikeDetails (f g : Field) : Prop where
  documentation : docsDiffer f.documentation g.documentation = false
  hasDefault : f.hasDefault = g.hasDefault
  default : f.hasDefault = true → f.default.equals g.default = true
  tag : f.tag = g.tag

namespace Json

variable {a b : Json}

theorem same_of_equals (h : a.equals b = true) : a.same b = true := by
  rwa [equals_of_ne_nan] at h
  rintro rfl
  cases h

theorem equals_of_same (number : a.isNaN = false) (h : a.same b = true) : a.equals b = true := by
  rw [equals_of_ne_nan]
  · exact h
  · rintro rfl
    cases number

theorem IsSpeltAlike.isTruthy (h : a.IsSpeltAlike b) : a.isTruthy = b.isTruthy :=
  isTruthy_of_same (same_of_equals h.equals)

end Json

/-- Equal documentations do not count as different. -/
theorem docsDiffer_of_same {a b : Json} (number : a.isNaN = false) (h : a.same b = true) :
    docsDiffer a b = false := by
  unfold docsDiffer
  dsimp only
  rw [Json.isTruthy_of_same h]
  split
  · rw [Json.equals_of_same number h]
    rfl
  · rfl

namespace Schema

/-- Whether a comparison of two nodes finds nothing in their labels. -/
structure HasLikeLabel (byName : Bool) (s t : Schema) : Prop where
  name : s.name.equals t.name = true
  qualifier : s.qualifier = t.qualifier
  documentation : docsDiffer s.documentation t.documentation = false
  qualifiedName : byName = true → s.qualifiedName.IsSpeltAlike t.qualifiedName

/-- A relation between nodes that agree in all that a comparison looks at, and whose parts are
related again. -/
structure IsLikeness (byName : Bool) (R : Schema → Schema → Prop) : Prop where
  kind {s t : Schema} : R s t → s.kind = t.kind
  typeName {s t : Schema} : R s t → s.typeName = t.typeName
  primitive {s t : Schema} : R s t → s.kind = .primitive →
    s.primitiveSignature = t.primitiveSignature
  label {s t : Schema} : R s t → s.kind.isStructured = true → HasLikeLabel byName s t
  symbols {s t : Schema} : R s t → s.symbols = t.symbols ∧ s.symbolValues = t.symbolValues
  items {s t : Schema} : R s t → s.kind = .array → Option.Rel R s.items t.items
  values {s t : Schema} : R s t → s.kind = .map → Option.Rel R s.values t.values
  members {s t : Schema} : R s t → s.kind = .union → List.Forall₂ R s.members t.members
  memberNames {s t : Schema} : R s t → s.kind = .union → byName = true → ∀ m ∈ s.members,
    m.kind.isStructured = true → m.qualifiedName.isTextOrNull = true
  field {s t : Schema} {f : Field} : R s t → f ∈ s.fields →
    ∃ g, t.field? f.name = some g ∧ R f.type g.type ∧ f.HasLikeDetails g
  known {s t : Schema} {g : Field} : R s t → g ∈ t.fields → ∃ f, s.field? g.name = some f

/-! ### Signatures -/

/-- What is spelt like a text is this text. -/
theorem eq_of_isSpeltAlike_str {text : String} {v : Json} (h : (Json.str text).IsSpeltAlike v) :
    v = .str text := by
  cases v with
  | str other => rw [(equals_str text other).mp h.equals]
  | _ => exact absurd h.equals nofun

theorem isSpeltAlike_str (text : String) : (Json.str text).IsSpeltAlike (.str text) :=
  ⟨(equals_str text text).mpr rfl, rfl⟩

/-- The signature of a type is a text, unless it is a name that is none. -/
theorem exists_text_of_typeSignature {byName : Bool} {s : Schema} {signature : Json}
    (read : s.typeSignature byName = .ok signature)
    (text : byName = true → s.kind.isStructured = true → s.qualifiedName.isTextOrNull = true) :
    ∃ word, signature = .str word := by
  rw [typeSignature_eq] at read
  cases kind : s.kind with
  | primitive | reference =>
    rw [kind] at read
    cases read
    exact ⟨_, rfl⟩
  | array | map =>
    rw [kind] at read
    obtain ⟨inner, -, read⟩ := bind_eq_ok.mp read
    cases read
    exact ⟨_, rfl⟩
  | union =>
    rw [kind] at read
    obtain ⟨parts, -, read⟩ := bind_eq_ok.mp read
    split at read
    · cases read
    · cases read
      exact ⟨_, rfl⟩
  | record | enum | message | file =>
    rw [kind] at read text
    dsimp only at read
    split at read
    · rename_i named
      cases read
      rw [Bool.and_eq_true] at named
      exact exists_text_of_isTruthy (text named.1 rfl) named.2
    · cases read
      exact ⟨_, rfl⟩

variable {byName : Bool} {R : Schema → Schema → Prop}

mutual

/-- Nodes that are paired have signatures, and these are spelt alike. -/
theorem IsLikeness.typeSignature (h : IsLikeness byName R) {s t : Schema} (r : R s t) :
    ∃ u v, s.typeSignature byName = .ok u ∧ t.typeSignature byName = .ok v ∧ u.IsSpeltAlike v := by
  have smaller := s.sizeOf_held_lt
  rw [typeSignature_eq byName s, typeSignature_eq byName t, ← h.kind r]
  cases kind : s.kind with
  | primitive =>
    dsimp only
    rw [h.primitive r kind]
    exact ⟨_, _, rfl, rfl, isSpeltAlike_str _⟩
  | reference =>
    dsimp only
    rw [h.typeName r]
    exact ⟨_, _, rfl, rfl, isSpeltAlike_str _⟩
  | array =>
    obtain ⟨text, here, there⟩ := h.innerSignature (h.items r kind)
    dsimp only
    rw [here, there]
    exact ⟨_, _, rfl, rfl, isSpeltAlike_str _⟩
  | map =>
    obtain ⟨text, here, there⟩ := h.innerSignature (h.values r kind)
    dsimp only
    rw [here, there]
    exact ⟨_, _, rfl, rfl, isSpeltAlike_str _⟩
  | union =>
    obtain ⟨texts, here, there⟩ := h.memberSignatures (h.members r kind) (h.memberNames r kind)
    dsimp only
    rw [here, there]
    simp only [bind, Except.bind, firstNonText?_map]
    exact ⟨_, _, rfl, rfl, isSpeltAlike_str _⟩
  | record | enum | message | file =>
    have label := h.label r (by rw [kind]; rfl)
    dsimp only
    cases byName with
    | false => exact ⟨_, _, rfl, rfl, isSpeltAlike_str _⟩
    | true =>
      have alike := label.qualifiedName rfl
      rw [← alike.isTruthy]
      split
      · exact ⟨_, _, rfl, rfl, alike⟩
      · exact ⟨_, _, rfl, rfl, isSpeltAlike_str _⟩
termination_by sizeOf s

theorem IsLikeness.innerSignature (h : IsLikeness byName R) {a b : Option Schema}
    (r : Option.Rel R a b) :
    ∃ text, innerSignature byName a = .ok text ∧ innerSignature byName b = .ok text := by
  match a, b, r with
  | none, none, .none => exact ⟨"?", rfl, rfl⟩
  | some i, some j, .some r =>
    obtain ⟨u, v, here, there, alike⟩ := h.typeSignature r
    refine ⟨u.toText, ?_, ?_⟩
    · rw [Schema.innerSignature, here]
      rfl
    · rw [Schema.innerSignature, there, alike.toText]
      rfl
termination_by sizeOf a

theorem IsLikeness.memberSignatures (h : IsLikeness byName R) {ms ns : List Schema}
    (r : List.Forall₂ R ms ns) (names : byName = true → ∀ m ∈ ms,
      m.kind.isStructured = true → m.qualifiedName.isTextOrNull = true) :
    ∃ texts : List String, memberSignatures byName ms = .ok (texts.map .str) ∧
      memberSignatures byName ns = .ok (texts.map .str) := by
  match ms, ns, r with
  | [], [], .nil => exact ⟨[], rfl, rfl⟩
  | m :: ms, n :: ns, .cons r rest =>
    obtain ⟨u, v, here, there, alike⟩ := h.typeSignature r
    obtain ⟨word, rfl⟩ := exists_text_of_typeSignature here fun counts =>
      names counts m List.mem_cons_self
    obtain rfl := eq_of_isSpeltAlike_str alike
    obtain ⟨texts, others, othersThere⟩ := h.memberSignatures rest fun counts k hk =>
      names counts k (List.mem_cons_of_mem _ hk)
    refine ⟨word :: texts, ?_, ?_⟩
    · rw [Schema.memberSignatures, here, others]
      rfl
    · rw [Schema.memberSignatures, there, othersThere]
      rfl
termination_by sizeOf ms

end

theorem IsLikeness.namedSignature (h : IsLikeness byName R) {s t : Schema} (r : R s t) :
    ∃ u v, s.namedSignature byName = .ok u ∧ t.namedSignature byName = .ok v ∧
      u.IsSpeltAlike v := by
  unfold Schema.namedSignature
  rw [← h.kind r]
  by_cases named : (byName && s.kind.isNamed) = true
  · rw [named, Bool.true_and, Bool.true_and]
    rw [Bool.and_eq_true] at named
    have alike := (h.label r (Kind.isStructured_of_isNamed named.2)).qualifiedName named.1
    rw [← alike.isTruthy]
    split
    · exact ⟨_, _, rfl, rfl, alike⟩
    · exact h.typeSignature r
  · rw [Bool.eq_false_iff.mpr named]
    exact h.typeSignature r

/-! ### Named types -/

/-- A relation between nodes of one kind that leads from a pair to the pairs that it is made of. -/
structure IsPairing (R : Schema → Schema → Prop) : Prop where
  kind {s t : Schema} : R s t → s.kind = t.kind
  isNull {s t : Schema} : R s t → s.isNull = t.isNull
  items {s t : Schema} : R s t → s.kind = .array → Option.Rel R s.items t.items
  values {s t : Schema} : R s t → s.kind = .map → Option.Rel R s.values t.values
  members {s t : Schema} : R s t → s.kind = .union → List.Forall₂ R s.members t.members

theorem IsLikeness.isPairing (h : IsLikeness byName R) : IsPairing R where
  kind := h.kind
  isNull r := by
    unfold Schema.isNull
    rw [h.kind r, h.typeName r]
  items := h.items
  values := h.values
  members := h.members

theorem IsPairing.all_isNull (h : IsPairing R) {ms ns : List Schema} (r : List.Forall₂ R ms ns) :
    ms.all Schema.isNull = ns.all Schema.isNull := by
  induction r with
  | nil => rfl
  | cons r rest ih => rw [List.all_cons, List.all_cons, h.isNull r, ih]

mutual

/-- Types that are paired stand for named types that are paired, or both for none. -/
theorem IsPairing.unwrapNamed (h : IsPairing R) {s t : Schema} (r : R s t) :
    Option.Rel R s.unwrapNamed t.unwrapNamed := by
  have smaller := s.sizeOf_held_lt
  rw [unwrapNamed_eq s, unwrapNamed_eq t, ← h.kind r]
  cases kind : s.kind with
  | record | message | enum => exact .some r
  | union => exact h.unwrapSole (h.members r kind)
  | array => exact h.unwrapInner (h.items r kind)
  | map => exact h.unwrapInner (h.values r kind)
  | primitive | reference | file => exact .none
termination_by sizeOf s

theorem IsPairing.unwrapSole (h : IsPairing R) {ms ns : List Schema}
    (r : List.Forall₂ R ms ns) : Option.Rel R (unwrapSole ms) (unwrapSole ns) := by
  match ms, ns, r with
  | [], [], .nil => exact .none
  | m :: ms, n :: ns, .cons r rest =>
    rw [Schema.unwrapSole, Schema.unwrapSole, h.isNull r, h.all_isNull rest]
    split
    · exact h.unwrapSole rest
    · split
      · exact h.unwrapNamed r
      · exact .none
termination_by sizeOf ms

theorem IsPairing.unwrapInner (h : IsPairing R) {a b : Option Schema}
    (r : Option.Rel R a b) : Option.Rel R (unwrapInner a) (unwrapInner b) := by
  match a, b, r with
  | none, none, .none => exact .none
  | some i, some j, .some r =>
    rw [Schema.unwrapInner, Schema.unwrapInner]
    exact h.unwrapNamed r
termination_by sizeOf a

end

end Schema

/-! ### Comparisons -/

namespace Comparison

variable {c : Comparison} {R : Schema → Schema → Prop} {path : Path} {before after : Schema}

theorem signaturesDiffer_of_likeness (h : Schema.IsLikeness c.byName R) (r : R before after) :
    c.signaturesDiffer before after = .ok false := by
  obtain ⟨u, v, here, there, alike⟩ := h.namedSignature r
  unfold signaturesDiffer
  rw [here, there]
  simp only [bind, Except.bind, alike.equals]
  rfl

theorem headChanges_of_hasLikeLabel (h : before.HasLikeLabel c.byName after) :
    c.headChanges path before after = [] := by
  unfold headChanges
  simp only [h.name, h.qualifier, h.documentation, if_true, Bool.false_eq_true, if_false,
    List.append_nil]

theorem symbolChanges_eq_nil (h : before.symbols = after.symbols)
    (values : before.symbolValues = after.symbolValues) :
    c.symbolChanges path before after = [] := by
  have numbered (symbol : String) : symbolValue? before symbol = symbolValue? after symbol := by
    unfold symbolValue?
    rw [h, values]
  have same : sameSymbols before after = true := by
    unfold sameSymbols
    simp [h, numbered]
  unfold symbolChanges
  rw [if_pos same]

theorem fieldDetails_of_hasLikeDetails {old new : Field} (h : old.HasLikeDetails new) :
    c.fieldDetails path old new = [] := by
  have default : (old.hasDefault && !old.default.equals new.default) = false := by
    cases given : old.hasDefault with
    | false => rfl
    | true => rw [h.default given]; rfl
  unfold fieldDetails
  simp [h.documentation, h.tag, ← h.hasDefault, default]

theorem fieldTypeEntries_of_likeness (h : Schema.IsLikeness c.byName R) (r : R before after) :
    c.fieldTypeEntries path before after = .ok [] := by
  have kept : kindSwapped before after = false := by
    unfold kindSwapped
    rw [h.kind r, bne_self_eq_false, Bool.false_and, Bool.false_and]
  unfold fieldTypeEntries
  rw [kept, signaturesDiffer_of_likeness h r]
  rfl

theorem removals_eq_nil (h : ∀ f ∈ before.fields, ∃ g, after.field? f.name = some g) :
    c.removals path before after = .ok [] := by
  have none : (before.fields.filter fun f => (after.field? f.name).isNone) = [] := by
    rw [List.filter_eq_nil_iff]
    intro f hf
    obtain ⟨g, found⟩ := h f hf
    rw [found]
    exact Bool.false_ne_true
  unfold removals
  rw [none]
  rfl

theorem additions_eq_nil (h : ∀ g ∈ after.fields, ∃ f, before.field? g.name = some f) :
    c.additions path before after = .ok [] := by
  have none : (after.fields.filter fun f => (before.field? f.name).isNone) = [] := by
    rw [List.filter_eq_nil_iff]
    intro g hg
    obtain ⟨f, found⟩ := h g hg
    rw [found]
    exact Bool.false_ne_true
  unfold additions
  rw [none]
  rfl

theorem flatten_mapM_eq_ok_nil {α : Type} {run : α → Entries} {xs : List α}
    (h : ∀ x ∈ xs, run x = .ok []) : List.flatten <$> xs.mapM run = .ok [] := by
  have walked : xs.mapM run = .ok (xs.map fun _ => []) := mapM_eq_ok_map h
  rw [walked]
  refine congrArg Except.ok (List.flatten_eq_nil_iff.mpr ?_)
  simp

/-- The induction follows the named types downwards; the likeness leads from each pair of them to
the next. -/
theorem namedChanges_of_likeness {c : Comparison} {R : Schema → Schema → Prop} {path : Path}
    {before after : Schema} (h : Schema.IsLikeness c.byName R) (r : R before after)
    (structured : before.kind.isStructured = true) : c.namedChanges path before after = .ok [] := by
  have head : c.headChanges path before after = [] :=
    headChanges_of_hasLikeLabel (h.label r structured)
  by_cases kind : before.kind = .enum
  · obtain ⟨symbols, values⟩ := h.symbols r
    rw [namedChanges_enum c path kind, head, symbolChanges_eq_nil symbols values]
    rfl
  have shared : ∀ pair ∈ sharedFields before.fields after, c.pairChanges path pair = .ok [] := by
    rintro ⟨old, new⟩ hpair
    obtain ⟨hold, found⟩ := mem_sharedFields.mp hpair
    obtain ⟨g, found', related, details⟩ := h.field r hold
    have same : g = new := Option.some.inj (found'.symm.trans found)
    subst same
    have own : c.fieldChanges (path ++ [.name old.name]) old g = .ok [] := by
      rw [fieldChanges_eq, fieldTypeEntries_of_likeness h related,
        fieldDetails_of_hasLikeDetails details]
      rfl
    have nested : c.nestedChanges (path ++ [.name old.name]) old.type g.type = .ok [] := by
      rw [nestedChanges_eq_matched]
      split
      · rename_i named matched
        have smaller := sizeOf_matched_lt hpair matched
        obtain ⟨stands, standsThere, -⟩ := matchedNamed?_eq_some.mp matched
        have below := h.isPairing.unwrapNamed related
        rw [stands, standsThere] at below
        cases below with
        | some below =>
          exact namedChanges_of_likeness h below
            (Kind.isStructured_of_isNamed (Schema.of_unwrapNamed_eq_some stands).2)
      · rfl
    unfold pairChanges
    rw [own, nested]
    rfl
  have lost : ∀ f ∈ before.fields, ∃ g, after.field? f.name = some g := fun f hf =>
    (h.field r hf).imp fun _ found => found.1
  rw [namedChanges_container c path kind, removals_eq_nil lost,
    additions_eq_nil fun g hg => h.known r hg, flatten_mapM_eq_ok_nil shared, head]
  rfl
termination_by sizeOf before

/-- A comparison finds nothing between trees whose roots are paired by a likeness. -/
theorem rootChanges_of_likeness (h : Schema.IsLikeness c.byName R) (r : R before after) :
    c.rootChanges before after = .ok [] := by
  unfold rootChanges
  rw [if_neg (not_not_intro (h.kind r))]
  split
  · rename_i structured
    exact namedChanges_of_likeness h r structured
  · rw [signaturesDiffer_of_likeness h r]
    rfl

end Comparison

/-! ### Comparing what is hashed alike

Trees that can be built, that are hashed alike and of which the hash hides nothing have no
differences: not at the root, not in a field, and not in the named types that a field stands for, at
any depth and in any mode. -/

/-- What a comparison asks of a tree: it can be built, and a hash hides nothing of it. -/
structure Schema.IsComparable (byName : Bool) (s : Schema) : Prop where
  wellFormed : s.IsWellFormed
  transparent : s.IsTransparent byName

namespace Schema

variable {byName : Bool} {s t : Schema} {f : Field}

theorem IsComparable.child (h : s.IsComparable byName) (ht : t ∈ s.children) :
    t.IsComparable byName :=
  ⟨h.wellFormed.child ht, h.transparent.child ht⟩

theorem IsComparable.field (h : s.IsComparable byName) (hf : f ∈ s.fields) :
    f.type.IsComparable byName := h.child (h.wellFormed.type_mem_children hf)

theorem IsAlike.symm (h : s.IsAlike t) : t.IsAlike s := Eq.symm h

/-- Each field of one side has its like under its name on the other side. -/
theorem IsAlike.field? (h : s.IsAlike t) (ht : t.IsWellFormed) (hf : f ∈ s.fields) :
    ∃ g, t.field? f.name = some g ∧ f.IsAlike g := by
  obtain ⟨g, hg, alike⟩ := exists_of_forall₂ h.fields hf
  refine ⟨g, ?_, alike⟩
  rw [alike.name]
  exact ht.field?_of_mem hg

theorem IsAlike.hasLikeLabel (h : s.IsAlike t) (hs : s.IsComparable byName)
    (ht : t.IsComparable byName) : HasLikeLabel byName s t where
  name := Json.equals_of_sorted_eq hs.wellFormed.name ht.wellFormed.name hs.transparent.self.1 h.name
  qualifier := h.qualifier
  documentation := docsDiffer_of_same hs.transparent.self.2.1
    (Json.same_of_sorted_eq hs.wellFormed.documentation ht.wellFormed.documentation h.documentation)
  qualifiedName counts := by
    have text := isTextOrNull_qualifiedName (hs.transparent.textName (.inl counts))
    rw [← h.qualifiedName hs.transparent ht.transparent (.inl counts)]
    refine ⟨?_, rfl⟩
    cases name : s.qualifiedName with
    | null => rfl
    | str word => exact (equals_str word word).mpr rfl
    | _ =>
      rw [name] at text
      cases text

theorem hasLikeDetails_of_isAlike {g : Field} (h : f.IsAlike g) (hs : s.IsComparable byName)
    (ht : t.IsComparable byName) (hf : f ∈ s.fields) (hg : g ∈ t.fields) : f.HasLikeDetails g := by
  obtain ⟨documentation, default⟩ := hs.wellFormed.fieldValues hf
  obtain ⟨documentationThere, defaultThere⟩ := ht.wellFormed.fieldValues hg
  obtain ⟨documentationNumber, defaultNumber⟩ := hs.transparent.self.2.2.2.2 f hf
  exact {
    documentation := docsDiffer_of_same documentationNumber
      (Json.same_of_sorted_eq documentation documentationThere h.documentation)
    hasDefault := h.hasDefault
    default := fun _ => Json.equals_of_sorted_eq default defaultThere defaultNumber h.default
    tag := h.tag }

/-- Being hashed alike is a likeness between trees of which a hash hides nothing. -/
theorem isLikeness_isAlike (byName : Bool) : IsLikeness byName fun s t =>
    s.IsAlike t ∧ s.IsComparable byName ∧ t.IsComparable byName where
  kind := fun ⟨h, _, _⟩ => h.kind
  typeName := fun ⟨h, _, _⟩ => h.typeName
  primitive := fun ⟨h, hs, ht⟩ _ => h.primitiveSignature hs.transparent ht.transparent
  label := fun ⟨h, hs, ht⟩ _ => h.hasLikeLabel hs ht
  symbols := fun ⟨h, _, _⟩ => ⟨h.symbols, h.symbolValues⟩
  items := fun ⟨h, hs, ht⟩ kind => rel_of_mem h.items fun _ hi _ hj alike =>
    ⟨alike, hs.child (mem_children_of_items kind hi),
      ht.child (mem_children_of_items (h.kind ▸ kind) hj)⟩
  values := fun ⟨h, hs, ht⟩ kind => rel_of_mem h.values fun _ hi _ hj alike =>
    ⟨alike, hs.child (mem_children_of_values kind hi),
      ht.child (mem_children_of_values (h.kind ▸ kind) hj)⟩
  members := fun ⟨h, hs, ht⟩ kind => forall₂_of_mem h.members fun _ hm _ hn alike =>
    ⟨alike, hs.child (mem_children_of_member kind hm),
      ht.child (mem_children_of_member (h.kind ▸ kind) hn)⟩
  memberNames := fun ⟨_, hs, _⟩ kind counts _ hm _ => isTextOrNull_qualifiedName
    ((hs.child (mem_children_of_member kind hm)).transparent.textName (.inl counts))
  field := by
    rintro s t f ⟨h, hs, ht⟩ hf
    obtain ⟨g, found, alike⟩ := h.field? ht.wellFormed hf
    have hg := (of_field?_eq_some found).1
    exact ⟨g, found, ⟨alike.type, hs.field hf, ht.field hg⟩, hasLikeDetails_of_isAlike alike hs ht hf hg⟩
  known := by
    rintro s t g ⟨h, hs, -⟩ hg
    obtain ⟨f, found, -⟩ := h.symm.field? hs.wellFormed hg
    exact ⟨f, found⟩

end Schema

/-- Whether names count in the comparison of two schemas. -/
def comparesByName (before after : SchemaInput) : Bool := !(before.hasLabels || after.hasLabels)

/-- What a comparison asks of two schemas whose hashes stand for them. -/
structure AreComparable (before after : SchemaInput) : Prop where
  rootBefore : before.root.IsComparable (comparesByName before after)
  rootAfter : after.root.IsComparable (comparesByName before after)
  distinctBefore : before.root.payload.hasDistinctKeys = true
  distinctAfter : after.root.payload.hasDistinctKeys = true

/-- Schemas with one text to hash have no differences, in any mode. -/
theorem diff_eq_nil_of_payloadText_eq {before after : SchemaInput}
    (h : AreComparable before after) (same : before.root.payloadText = after.root.payloadText)
    (mode : Mode) : diff before after mode = .ok [] := by
  have alike : before.root.IsAlike after.root :=
    Schema.isAlike_of_payloadText_eq h.distinctBefore h.distinctAfter same
  exact Comparison.rootChanges_of_likeness (c := ⟨mode, comparesByName before after⟩)
    (Schema.isLikeness_isAlike _) ⟨alike, h.rootBefore, h.rootAfter⟩

end SchemaReview
