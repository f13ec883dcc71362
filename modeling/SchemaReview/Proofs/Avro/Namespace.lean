import SchemaReview.Proofs.Avro.Reading
import SchemaReview.Proofs.Json.Equality
import SchemaReview.Proofs.Json.Member

/-!
# Another namespace for the root

A record passes its namespace on to the types inside it and to the names that are written there. A
value whose root declares another namespace is therefore read as a tree of the same nodes in which
types may belong to the new namespace, and in which a reference may name another type. If it does,
both names end alike, and each of them is in the namespace of its root or in none.
-/
namespace SchemaReview

/-- Whether a full name stands where another one stood when the namespace `a` was `b`: both have one
short name, and each is in its namespace or in none. -/
def NameMoves (a b old new : String) : Prop :=
  old ≠ new ∧ ∃ short, Avro.IsPlain short ∧ (old = a ++ "." ++ short ∨ old = short) ∧
    (new = b ++ "." ++ short ∨ new = short)

mutual

/-- Whether two trees have the same nodes, up to types that are in `b` instead of `a` and references
whose names have moved. -/
inductive Schema.Moves (a b : String) : Schema → Schema → Prop
  | mk {s t : Schema}
    (qualifier : s.qualifier = t.qualifier ∨
      s.qualifier = some a ∧ t.qualifier = some b ∧ ∃ n, s.name = .str n ∧ Avro.IsPlain n)
    (typeName : s.typeName = t.typeName ∨ s.kind = .reference ∧
      ∃ old new, s.typeName = some old ∧ t.typeName = some new ∧ NameMoves a b old new)
    (fields : List.Forall₂ (FieldOf.Moves a b) s.fields t.fields)
    (items : Option.Rel (Schema.Moves a b) s.items t.items)
    (values : Option.Rel (Schema.Moves a b) s.values t.values)
    (members : List.Forall₂ (Schema.Moves a b) s.members t.members)
    (rest : t = { s with
      qualifier := t.qualifier, typeName := t.typeName, fields := t.fields, items := t.items,
      values := t.values, members := t.members }) : Schema.Moves a b s t

/-- Whether two fields are the same up to the names in their types. -/
inductive FieldOf.Moves (a b : String) : Field → Field → Prop
  | mk {f g : Field} (type : Schema.Moves a b f.type g.type)
    (rest : g = { f with type := g.type }) : FieldOf.Moves a b f g

end

namespace Schema.Moves

variable {a b : String} {s t : Schema}

theorem rest (h : s.Moves a b t) : t = { s with
    qualifier := t.qualifier, typeName := t.typeName, fields := t.fields, items := t.items,
    values := t.values, members := t.members } := by
  obtain ⟨-, -, -, -, -, -, rest⟩ := h
  exact rest

theorem kind (h : s.Moves a b t) : s.kind = t.kind := (congrArg Schema.kind h.rest).symm

theorem name (h : s.Moves a b t) : s.name = t.name := (congrArg Schema.name h.rest).symm

end Schema.Moves

namespace Avro

variable {a b : String} {q r own own' : Option String} {D E D' E' : Definitions}
  {name name' : String} {members : List (String × Json)}

/-- Whether two namespaces are the same, or the one of the old root and the one of the new root. -/
def SpaceMoves (a b : String) (q r : Option String) : Prop := q = r ∨ q = some a ∧ r = some b

/-- Whether two definitions are the same up to the namespace of the root. -/
def DefinitionMoves (a b : String) (d e : Option String) : Prop :=
  d = e ∨ ∃ n, IsPlain n ∧ d = some (a ++ "." ++ n) ∧ e = some (b ++ "." ++ n)

/-- Whether two values are the same but for the namespace of the root, a record with a plain name
that declares `a` in one of them and `b` in the other. -/
inductive ReplacesNamespace (a b : String) : Json → Json → Prop
  | record {members : List (String × Json)} {word name : String}
    (type : Json.member? members "type" = some (.str word))
    (known : word = "record" ∨ word = "error")
    (named : Json.memberOrNull members "name" = .str name) (plain : IsPlain name)
    (space : Json.memberOrNull members "namespace" = .str a) :
    ReplacesNamespace a b (.obj members) (.obj (Json.setMember members "namespace" (.str b)))
  | wrapped {members : List (String × Json)} {inner other : Json}
    (type : Json.member? members "type" = some inner)
    (replaced : ReplacesNamespace a b inner other) :
    ReplacesNamespace a b (.obj members) (.obj (Json.setMember members "type" other))

/-! ### Names -/

theorem qualify_of_ne (h : a ≠ "") : qualify name (some a) = a ++ "." ++ name := by
  unfold qualify
  dsimp only
  rw [if_neg h]

/-- A plain name that is qualified stays the last part of the name. -/
theorem eq_of_qualify_eq_dotted {space short : String} (plain : IsPlain name)
    (plain' : IsPlain short) (h : qualify name q = space ++ "." ++ short) : short = name := by
  have unqualified : name ≠ space ++ "." ++ short := by
    rintro rfl
    exact not_plain_dotted space short plain
  unfold qualify at h
  split at h
  · split at h
    · exact absurd h unqualified
    · exact (dotted_injective plain plain' h).2.symm
  · exact absurd h unqualified

/-- A name is cut alike in both namespaces; only a plain one takes the namespace around it. -/
theorem splitName_moves (hq : SpaceMoves a b q r) (written : String) :
    (splitName written q).1 = (splitName written r).1 ∧
      SpaceMoves a b (splitName written q).2 (splitName written r).2 := by
  unfold splitName
  cases splitLastDot written.toList with
  | none => exact ⟨rfl, hq⟩
  | some parts => exact ⟨rfl, .inl rfl⟩

theorem declares_moves (hq : SpaceMoves a b q r) (h : Declares members q name own)
    (h' : Declares members r name' own') : name = name' ∧ SpaceMoves a b own own' := by
  obtain ⟨written, named, -, given⟩ := h
  obtain ⟨again, named', -, given'⟩ := h'
  obtain rfl := Json.str.inj (named.symm.trans named')
  have around {q' r' : Option String} (moves : SpaceMoves a b q' r')
      (split : splitName written q' = (name, own)) (split' : splitName written r' = (name', own')) :
      name = name' ∧ SpaceMoves a b own own' := by
    have parts := splitName_moves moves written
    rwa [split, split'] at parts
  obtain ⟨none, split⟩ | ⟨given, space, split⟩ := given <;>
    obtain ⟨none', split'⟩ | ⟨given', space', split'⟩ := given'
  · exact around hq split split'
  · cases none.symm.trans space'
  · cases none'.symm.trans space
  · obtain rfl := Json.str.inj (space.symm.trans space')
    refine around ?_ split split'
    split
    · exact hq
    · exact .inl rfl

theorem fullName_moves (ha : a ≠ "") (hb : b ≠ "") (plain : IsPlain name)
    (space : SpaceMoves a b own own') :
    DefinitionMoves a b (fullName name own) (fullName name own') := by
  unfold fullName
  split
  · exact .inl rfl
  obtain rfl | ⟨rfl, rfl⟩ := space
  · exact .inl rfl
  · exact .inr ⟨name, plain, by rw [qualify_of_ne ha], by rw [qualify_of_ne hb]⟩

/-- What is defined before is defined after, unless it is in the namespace of the root. -/
theorem mem_of_definitionMoves (hD : List.Forall₂ (DefinitionMoves a b) D E) (h : some name ∈ D) :
    some name ∈ E ∨ ∃ n, IsPlain n ∧ name = a ++ "." ++ n := by
  obtain ⟨e, he, rfl | ⟨n, plain, old, -⟩⟩ := exists_of_forall₂ hD h
  · exact .inl he
  · exact .inr ⟨n, plain, Option.some.inj old⟩

theorem mem_of_definitionMoves_right (hD : List.Forall₂ (DefinitionMoves a b) D E)
    (h : some name ∈ E) : some name ∈ D ∨ ∃ n, IsPlain n ∧ name = b ++ "." ++ n := by
  obtain ⟨d, hd, rfl | ⟨n, plain, -, new⟩⟩ := exists_of_forall₂ hD.flip h
  · exact .inl hd
  · exact .inr ⟨n, plain, Option.some.inj new⟩

/-- A name in neither namespace is defined on both sides or on none. -/
theorem mem_definitions_iff (hD : List.Forall₂ (DefinitionMoves a b) D E)
    (old : ∀ n, IsPlain n → name ≠ a ++ "." ++ n) (new : ∀ n, IsPlain n → name ≠ b ++ "." ++ n) :
    some name ∈ D ↔ some name ∈ E := by
  constructor
  · intro h
    obtain h | ⟨n, plain, same⟩ := mem_of_definitionMoves hD h
    · exact h
    · exact absurd same (old n plain)
  · intro h
    obtain h | ⟨n, plain, same⟩ := mem_of_definitionMoves_right hD h
    · exact h
    · exact absurd same (new n plain)

theorem mem_plain_iff (hD : List.Forall₂ (DefinitionMoves a b) D E) (plain : IsPlain name) :
    some name ∈ D ↔ some name ∈ E := by
  refine mem_definitions_iff hD ?_ ?_ <;>
  · rintro n - rfl
    exact not_plain_dotted _ _ plain

theorem referenceName_eq (name : String) (q : Option String) (D : Definitions) :
    referenceName name q D =
      if some (qualify (splitName name q).1 (splitName name q).2) ∉ D ∧ some name ∈ D then name
      else qualify (splitName name q).1 (splitName name q).2 := by
  unfold referenceName
  simp only [Bool.and_eq_true, Bool.not_eq_true', List.contains_iff_mem, ← Bool.not_eq_true]

/-- A dotted name means the same whatever namespace the root has. -/
theorem referenceName_dotted (ha : a ≠ "") (hb : b ≠ "")
    (hD : List.Forall₂ (DefinitionMoves a b) D E) {space short : String} (plain : IsPlain short) :
    referenceName (space ++ "." ++ short) q D = referenceName (space ++ "." ++ short) r E := by
  rw [referenceName_eq, referenceName_eq]
  by_cases hs : space = ""
  · subst hs
    have cut (q : Option String) : splitName ("" ++ "." ++ short) q = (short, none) := by
      unfold splitName
      rw [toList_dotted, splitLastDot_join plain]
      simp
    have written : some ("" ++ "." ++ short) ∈ D ↔ some ("" ++ "." ++ short) ∈ E :=
      mem_definitions_iff hD (fun n hn same => ha (dotted_injective plain hn same).1.symm)
        fun n hn same => hb (dotted_injective plain hn same).1.symm
    rw [cut, cut]
    exact if_congr (and_congr (not_congr (mem_plain_iff hD plain)) written) rfl rfl
  · rw [splitName_dotted hs plain, splitName_dotted hs plain, qualify_of_ne hs]
    simp only [ite_self]

/-- Where a plain name is meant in the namespace around it or as it is written, it can move only if
that namespace is one of the two. -/
theorem referenceName_around (hD : List.Forall₂ (DefinitionMoves a b) D E) (plain : IsPlain name)
    (differ : referenceName name q D ≠ referenceName name q E) :
    (referenceName name q D = a ++ "." ++ name ∨ referenceName name q D = name) ∧
      (referenceName name q E = b ++ "." ++ name ∨ referenceName name q E = name) := by
  have written := mem_plain_iff hD plain
  rw [referenceName_eq, referenceName_eq, splitName_of_plain plain] at *
  dsimp only at *
  by_cases hd : some (qualify name q) ∈ D <;> by_cases he : some (qualify name q) ∈ E
  · simp [hd, he] at differ
  · obtain kept | ⟨n, hn, same⟩ := mem_of_definitionMoves hD hd
    · exact absurd kept he
    simp only [hd, he, not_true, false_and, if_false, not_false_iff, true_and] at differ ⊢
    obtain rfl := eq_of_qualify_eq_dotted plain hn same
    refine ⟨.inl same, ?_⟩
    split
    · exact .inr rfl
    · rename_i unwritten
      rw [if_neg unwritten] at differ
      exact absurd rfl differ
  · obtain kept | ⟨n, hn, same⟩ := mem_of_definitionMoves_right hD he
    · exact absurd kept hd
    simp only [hd, he, not_true, false_and, if_false, not_false_iff, true_and] at differ ⊢
    obtain rfl := eq_of_qualify_eq_dotted plain hn same
    refine ⟨?_, .inl same⟩
    split
    · exact .inr rfl
    · rename_i unwritten
      rw [if_neg unwritten] at differ
      exact absurd rfl differ
  · simp [hd, he, written] at differ

/-- A written name means one type on both sides, or types whose names move. -/
theorem referenceName_moves (ha : a ≠ "") (hb : b ≠ "") (hq : SpaceMoves a b q r)
    (hD : List.Forall₂ (DefinitionMoves a b) D E) (name : String) :
    referenceName name q D = referenceName name r E ∨
      NameMoves a b (referenceName name q D) (referenceName name r E) := by
  by_cases same : referenceName name q D = referenceName name r E
  · exact .inl same
  refine .inr ⟨same, ?_⟩
  obtain ⟨plain, -⟩ | ⟨space, short, rfl, plain, -⟩ := splitName_cases name q
  · refine ⟨name, plain, ?_⟩
    obtain rfl | ⟨rfl, rfl⟩ := hq
    · exact referenceName_around hD plain same
    · have either {c : String} (hc : c ≠ "") (D : Definitions) :
          referenceName name (some c) D = c ++ "." ++ name ∨
            referenceName name (some c) D = name := by
        rw [referenceName_eq, splitName_of_plain plain, qualify_of_ne hc]
        split
        · exact .inr rfl
        · exact .inl rfl
      exact ⟨either ha D, either hb E⟩
  · exact absurd (referenceName_dotted ha hb hD plain) same

/-! ### Readings -/

/-- A node without parts, whose qualifier and type name move. -/
theorem moves_leaf {s t : Schema}
    (qualifier : s.qualifier = t.qualifier ∨
      s.qualifier = some a ∧ t.qualifier = some b ∧ ∃ n, s.name = .str n ∧ IsPlain n)
    (typeName : s.typeName = t.typeName ∨ s.kind = .reference ∧
      ∃ old new, s.typeName = some old ∧ t.typeName = some new ∧ NameMoves a b old new)
    (bare : s.fields = [] ∧ s.items = none ∧ s.values = none ∧ s.members = [])
    (rest : t = { s with qualifier := t.qualifier, typeName := t.typeName }) : s.Moves a b t := by
  obtain ⟨fields, items, values, members⟩ := bare
  generalize t.qualifier = qualifier', t.typeName = typeName' at *
  subst rest
  refine .mk qualifier typeName ?_ ?_ ?_ ?_ rfl
  · rw [fields]
    exact .nil
  · rw [items]
    exact .none
  · rw [values]
    exact .none
  · rw [members]
    exact .nil

theorem namedType_moves (ha : a ≠ "") (hb : b ≠ "") (hq : SpaceMoves a b q r)
    (hD : List.Forall₂ (DefinitionMoves a b) D E) (name : String) :
    (namedType name q D).Moves a b (namedType name r E) := by
  unfold namedType
  split
  · exact moves_leaf (.inl rfl) (.inl rfl) ⟨rfl, rfl, rfl, rfl⟩ rfl
  · refine moves_leaf (.inl rfl) ?_ ⟨rfl, rfl, rfl, rfl⟩ rfl
    obtain same | moves := referenceName_moves ha hb hq hD name
    · exact .inl (congrArg some same)
    · exact .inr ⟨rfl, _, _, rfl, rfl, moves⟩

/-- The qualifier of a node that is declared with a name. -/
theorem qualifier_moves (declared : Declares members q name own) (space : SpaceMoves a b own own') :
    own = own' ∨ own = some a ∧ own' = some b ∧ ∃ n, Json.str name = .str n ∧ IsPlain n :=
  space.imp_right fun moved => ⟨moved.1, moved.2, name, rfl, declared.plain⟩

mutual

/-- Two readings of one value, in namespaces and after definitions that are the same up to that of
the root. -/
theorem moves_of_reads {a b : String} {q r : Option String} {D E D' E' : Definitions} {v : Json}
    {s t : Schema} (ha : a ≠ "") (hb : b ≠ "") (hq : SpaceMoves a b q r)
    (hD : List.Forall₂ (DefinitionMoves a b) D E) (h : Reads q D v s D') (h' : Reads r E v t E') :
    s.Moves a b t ∧ List.Forall₂ (DefinitionMoves a b) D' E' := by
  match h with
  | .name name =>
    cases h'
    exact ⟨namedType_moves ha hb hq hD name, hD⟩
  | .union _ read =>
    cases h' with
    | union _ read' =>
      obtain ⟨members, defined⟩ := moves_of_readsMembers ha hb hq hD read read'
      exact ⟨.mk (.inl rfl) (.inl rfl) .nil .none .none members rfl, defined⟩
  | .wrapped type nested read =>
    exact moves_of_reads ha hb hq hD read (of_reads_wrapped type nested h')
  | .primitive type known =>
    obtain ⟨rfl, rfl⟩ := reads_unique h' (.primitive type known)
    exact ⟨moves_leaf (.inl rfl) (.inl rfl) ⟨rfl, rfl, rfl, rfl⟩ rfl, hD⟩
  | .reference type simple unknown =>
    obtain ⟨rfl, rfl⟩ := reads_unique h' (.reference type simple unknown)
    exact ⟨namedType_moves ha hb hq hD _, hD⟩
  | .array type present read =>
    obtain ⟨t', read', rfl⟩ := of_reads_array type present h'
    obtain ⟨items, defined⟩ := moves_of_reads ha hb hq hD read read'
    exact ⟨.mk (.inl rfl) (.inl rfl) .nil (.some items) .none .nil rfl, defined⟩
  | .map type present read =>
    obtain ⟨t', read', rfl⟩ := of_reads_map type present h'
    obtain ⟨values, defined⟩ := moves_of_reads ha hb hq hD read read'
    exact ⟨.mk (.inl rfl) (.inl rfl) .nil .none (.some values) .nil rfl, defined⟩
  | .enum type declared listed texts _ _ =>
    cases h' with
    | enum _ declared' listed' texts' _ _ =>
      obtain ⟨rfl, space⟩ := declares_moves hq declared declared'
      obtain rfl := Json.arr.inj (listed.symm.trans listed')
      obtain rfl := Option.some.inj (texts.symm.trans texts')
      exact ⟨moves_leaf (qualifier_moves declared space) (.inl rfl) ⟨rfl, rfl, rfl, rfl⟩ rfl,
        .cons (fullName_moves ha hb declared.plain space) hD⟩
    | _ => simp_all [primitives, complexWords, IsNested]
  | .fixed type declared sized _ =>
    cases h' with
    | fixed _ declared' sized' _ =>
      obtain ⟨rfl, space⟩ := declares_moves hq declared declared'
      obtain rfl := Json.int.inj (sized.symm.trans sized')
      exact ⟨moves_leaf (qualifier_moves declared space) (.inl rfl) ⟨rfl, rfl, rfl, rfl⟩ rfl,
        .cons (fullName_moves ha hb declared.plain space) hD⟩
    | _ => simp_all [primitives, complexWords, IsNested]
  | .record type known declared listed _ read =>
    obtain ⟨name', own', items', gs, declared', listed', read', rfl⟩ :=
      of_reads_record type known h'
    obtain rfl := Json.arr.inj (Option.some.inj (listed.symm.trans listed'))
    obtain ⟨rfl, space⟩ := declares_moves hq declared declared'
    obtain ⟨fields, defined⟩ := moves_of_readsFields ha hb space
      (.cons (fullName_moves ha hb declared.plain space) hD) read read'
    exact ⟨.mk (qualifier_moves declared space) (.inl rfl) fields .none .none .nil rfl, defined⟩

theorem moves_of_readsMembers {a b : String} {q r : Option String} {D E D' E' : Definitions}
    {items : List Json} {ss ts : List Schema} (ha : a ≠ "") (hb : b ≠ "")
    (hq : SpaceMoves a b q r) (hD : List.Forall₂ (DefinitionMoves a b) D E)
    (h : ReadsMembers q D items ss D') (h' : ReadsMembers r E items ts E') :
    List.Forall₂ (Schema.Moves a b) ss ts ∧ List.Forall₂ (DefinitionMoves a b) D' E' := by
  match h with
  | .nil =>
    cases h'
    exact ⟨.nil, hD⟩
  | .cons first others =>
    cases h' with
    | cons first' others' =>
      obtain ⟨type, defined⟩ := moves_of_reads ha hb hq hD first first'
      obtain ⟨types, defined⟩ := moves_of_readsMembers ha hb hq defined others others'
      exact ⟨.cons type types, defined⟩

theorem moves_of_readsFields {a b : String} {q r : Option String} {D E D' E' : Definitions}
    {seen : List String} {items : List Json} {fs gs : List Field} (ha : a ≠ "") (hb : b ≠ "")
    (hq : SpaceMoves a b q r) (hD : List.Forall₂ (DefinitionMoves a b) D E)
    (h : ReadsFields q D seen items fs D') (h' : ReadsFields r E seen items gs E') :
    List.Forall₂ (FieldOf.Moves a b) fs gs ∧ List.Forall₂ (DefinitionMoves a b) D' E' := by
  match h with
  | .nil =>
    cases h'
    exact ⟨.nil, hD⟩
  | .cons named _ typed _ first others =>
    cases h' with
    | cons named' _ typed' _ first' others' =>
      obtain rfl := Json.str.inj (named.symm.trans named')
      obtain rfl := Option.some.inj (typed.symm.trans typed')
      obtain ⟨type, defined⟩ := moves_of_reads ha hb hq hD first first'
      obtain ⟨types, defined⟩ := moves_of_readsFields ha hb hq defined others others'
      exact ⟨.cons (.mk type rfl) types, defined⟩

end

/-- A record with a plain name is in the namespace that it declares. -/
theorem Declares.of_plain {space : String} (declared : Declares members q name own)
    (named : Json.memberOrNull members "name" = .str name') (plain : IsPlain name')
    (given : Json.memberOrNull members "namespace" = .str space) (h : space ≠ "") :
    name = name' ∧ own = some space := by
  obtain ⟨written, again, -, ⟨none, -⟩ | ⟨space', given', split⟩⟩ := declared
  · cases none.symm.trans given
  · obtain rfl := Json.str.inj (again.symm.trans named)
    obtain rfl := Json.str.inj (given'.symm.trans given)
    rw [if_neg h, splitName_of_plain plain] at split
    obtain ⟨rfl, rfl⟩ := Prod.mk.inj split
    exact ⟨rfl, rfl⟩

/-- Reading a value with another namespace at its root gives a tree that has moved. -/
theorem moves_of_replacesNamespace {v w : Json} {s t : Schema} (ha : a ≠ "") (hb : b ≠ "")
    (replaced : ReplacesNamespace a b v w) (h : Reads q D v s D') (h' : Reads q D w t E') :
    s.Moves a b t ∧ s.kind = .record ∧ s.qualifier = some a ∧ t.qualifier = some b := by
  have kept (key : String) (other : "namespace" ≠ key) (members : List (String × Json)) :
      Json.member? (Json.setMember members "namespace" (.str b)) key = Json.member? members key :=
    Json.member?_setMember_of_ne other
  induction replaced with
  | @record members word name type known named plain space =>
    have type' := (kept "type" (by decide) members).trans type
    have named' := (Json.memberOrNull_congr (kept "name" (by decide) members)).trans named
    have doc := Json.memberOrNull_congr (kept "doc" (by decide) members)
    have space' : Json.memberOrNull (Json.setMember members "namespace" (.str b)) "namespace" =
        .str b := by
      rw [Json.memberOrNull, Json.member?_setMember_self]
      rfl
    have fields := kept "fields" (by decide) members
    obtain ⟨_, _, items, fs, declared, listed, read, rfl⟩ := of_reads_record type known h
    obtain ⟨_, _, items', gs, declared', listed', read', rfl⟩ := of_reads_record type' known h'
    obtain rfl := Json.arr.inj (Option.some.inj ((fields.trans listed).symm.trans listed'))
    obtain ⟨rfl, rfl⟩ := declared.of_plain named plain space ha
    obtain ⟨rfl, rfl⟩ := declared'.of_plain named' plain space' hb
    have moved : SpaceMoves a b (some a) (some b) := .inr ⟨rfl, rfl⟩
    have same : List.Forall₂ (DefinitionMoves a b) D D := List.forall₂_same.mpr fun d _ => .inl rfl
    obtain ⟨each, -⟩ := moves_of_readsFields ha hb moved
      (.cons (fullName_moves ha hb plain moved) same) read read'
    refine ⟨.mk (.inr ⟨rfl, rfl, _, rfl, plain⟩) (.inl rfl) each .none .none .nil ?_, rfl, rfl, rfl⟩
    rw [doc]
  | @wrapped members inner other type replaced ih =>
    have type' : Json.member? (Json.setMember members "type" other) "type" = some other :=
      Json.member?_setMember_self
    have nested : IsNested inner ∧ IsNested other := by
      cases replaced <;> exact ⟨trivial, trivial⟩
    exact ih (of_reads_wrapped type nested.1 h) (of_reads_wrapped type' nested.2 h')

end Avro
end SchemaReview
