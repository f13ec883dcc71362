import SchemaReview.Proofs.Avro.Naming
import SchemaReview.Proofs.Avro.Tree
import SchemaReview.Proofs.Schema.Shape

/-!
# Types without a name

A record or an enum is declared with a name that is not empty, but a name that ends with a dot is
cut to an empty one. Which values are read inside a value is said here beside the reader; a reading
then yields a type without a name exactly where one of these values declares a name that ends with a
dot.
-/
namespace SchemaReview

/-- A node is of a kind that calls for a name, and its name is empty. -/
def Schema.LacksName (s : Schema) : Prop := s.isNamed = true ∧ s.name = .str ""

namespace Avro

/-- The type of a written field. -/
def fieldType? : Json → Option Json
  | .obj members => Json.member? members "type"
  | _ => none

/-- The values inside a value that are read with it. -/
def parts : Json → List Json
  | .arr items => items
  | .obj members =>
    match Json.member? members "type" with
    | some (.obj inner) => [.obj inner]
    | some (.arr inner) => [.arr inner]
    | some (.str word) =>
      if word = "array" then (Json.member? members "items").toList
      else if word = "map" then (Json.member? members "values").toList
      else if word = "record" ∨ word = "error" then
        match Json.member? members "fields" with
        | some (.arr items) => items.filterMap fieldType?
        | _ => []
      else []
    | _ => []
  | _ => []

/-- The type words of declarations that need a name. -/
def declaringWords : List String := ["record", "error", "enum"]

/-- A value declares a record or an enum with a name that ends with a dot. -/
def IsDotted (v : Json) : Prop :=
  ∃ members word name, v = .obj members ∧ Json.member? members "type" = some (.str word) ∧
    word ∈ declaringWords ∧ Json.memberOrNull members "name" = .str name ∧ EndsWithDot name

theorem complexWord_of_declaring {word : String} (h : word ∈ declaringWords) :
    word ∈ complexWords := by
  revert word
  decide

/-- A record or an enum with a name that ends with a dot is read with a value. -/
inductive DeclaresNameless : Json → Prop
  | own {v} (h : IsDotted v) : DeclaresNameless v
  | within {v part} (h : part ∈ parts v) (found : DeclaresNameless part) : DeclaresNameless v

theorem declaresNameless_iff {v : Json} :
    DeclaresNameless v ↔ IsDotted v ∨ ∃ part ∈ parts v, DeclaresNameless part := by
  constructor
  · intro h
    cases h with
    | own h => exact .inl h
    | within h found => exact .inr ⟨_, h, found⟩
  · rintro (h | ⟨part, hp, found⟩)
    · exact .own h
    · exact .within hp found

/-- The names of a reading: no field of it lacks one, and a type does exactly if one is declared
with a name that ends with a dot. -/
def NamesFit (v : Json) (s : Schema) : Prop :=
  (∀ t ∈ s.nodes, ∀ f ∈ t.fields, f.name ≠ "") ∧
    ((∃ t ∈ s.nodes, t.LacksName) ↔ DeclaresNameless v)

section

variable {v : Json} {s : Schema} {members : List (String × Json)} {word : String}

theorem forall_children {values : List Json} {children : List Schema}
    (h : List.Forall₂ NamesFit values children) :
    ∀ c ∈ children, ∀ t ∈ c.nodes, ∀ f ∈ t.fields, f.name ≠ "" := by
  induction h with
  | nil => simp
  | cons first _ ih => exact List.forall_mem_cons.mpr ⟨first.1, ih⟩

theorem exists_nameless_iff {values : List Json} {children : List Schema}
    (h : List.Forall₂ NamesFit values children) :
    (∃ c ∈ children, ∃ t ∈ c.nodes, t.LacksName) ↔ ∃ v ∈ values, DeclaresNameless v := by
  induction h with
  | nil => simp
  | cons first _ ih => simp only [List.exists_mem_cons_iff, first.2, ih]

/-- The names of a node fit if its own do and those of its children fit the parts of the value. -/
theorem NamesFit.of_parts (named : ∀ f ∈ s.fields, f.name ≠ "") (self : s.LacksName ↔ IsDotted v)
    (below : List.Forall₂ NamesFit (parts v) s.children) : NamesFit v s := by
  refine ⟨Schema.forall_nodes named (forall_children below), ?_⟩
  rw [Schema.exists_nodes, declaresNameless_iff, self, exists_nameless_iff below]

theorem isDotted_obj (type : Json.member? members "type" = some (.str word)) :
    IsDotted (.obj members) ↔ word ∈ declaringWords ∧
      ∃ name, Json.memberOrNull members "name" = .str name ∧ EndsWithDot name := by
  constructor
  · rintro ⟨others, w, name, same, again, declaring, written, dot⟩
    cases same
    rw [type] at again
    cases again
    exact ⟨declaring, name, written, dot⟩
  · rintro ⟨declaring, name, written, dot⟩
    exact ⟨members, word, name, rfl, type, declaring, written, dot⟩

/-- A declared name is cut to an empty one exactly if it ends with a dot. -/
theorem isDotted_of_declares {q own : Option String} {name : String}
    (type : Json.member? members "type" = some (.str word)) (declaring : word ∈ declaringWords)
    (declared : Declares members q name own) : name = "" ↔ IsDotted (.obj members) := by
  obtain ⟨written, found, nonempty, cut⟩ := declared
  have short : name = "" ↔ EndsWithDot written := by
    obtain ⟨-, cut⟩ | ⟨space, -, cut⟩ := cut
    · exact splitName_short_eq_empty nonempty cut
    · exact splitName_short_eq_empty nonempty cut
  rw [isDotted_obj type, short]
  simp [declaring, found]

theorem not_isDotted_of_word (type : Json.member? members "type" = some (.str word))
    (other : word ∉ declaringWords) : ¬ IsDotted (.obj members) :=
  fun h => other ((isDotted_obj type).mp h).1

theorem not_isDotted_of_simple (type : Json.member? members "type" = some (.str word))
    (simple : word ∉ complexWords) : ¬ IsDotted (.obj members) :=
  not_isDotted_of_word type (mt complexWord_of_declaring simple)

theorem parts_of_simple (type : Json.member? members "type" = some (.str word))
    (simple : word ∉ complexWords) : parts (.obj members) = [] := by
  simp only [complexWords, List.mem_cons, List.not_mem_nil, or_false, not_or] at simple
  simp [parts, type, simple]

theorem parts_record {items : List Json} (type : Json.member? members "type" = some (.str word))
    (known : word = "record" ∨ word = "error")
    (listed : Json.member? members "fields" = some (.arr items)) :
    parts (.obj members) = items.filterMap fieldType? := by
  obtain rfl | rfl := known <;> simp [parts, type, listed]

theorem parts_wrapped {inner : Json} (type : Json.member? members "type" = some inner)
    (nested : IsNested inner) : parts (.obj members) = [inner] := by
  cases inner with
  | obj | arr => simp [parts, type]
  | _ => exact nested.elim

/-- A value in which another one is wrapped declares nothing of its own. -/
theorem declaresNameless_wrapped {inner : Json} (type : Json.member? members "type" = some inner)
    (nested : IsNested inner) : DeclaresNameless (.obj members) ↔ DeclaresNameless inner := by
  have undotted : ¬ IsDotted (.obj members) := by
    rintro ⟨others, word, name, same, again, -⟩
    cases same
    rw [type] at again
    cases again
    exact nested
  rw [declaresNameless_iff, parts_wrapped type nested]
  simp [undotted]

/-- A leaf that needs no name. -/
theorem NamesFit.of_leaf (bare : s.fields = [] ∧ s.children = [] ∧ s.isNamed = false)
    (undotted : ¬ IsDotted v) (leaf : parts v = []) : NamesFit v s := by
  obtain ⟨fields, children, unnamed⟩ := bare
  refine .of_parts (by simp [fields]) (iff_of_false ?_ undotted) ?_
  · rintro ⟨named, -⟩
    rw [unnamed] at named
    cases named
  · rw [leaf, children]
    exact .nil

theorem bare_namedType (name : String) (q : Option String) (D : Definitions) :
    (namedType name q D).fields = [] ∧ (namedType name q D).children = [] ∧
      (namedType name q D).isNamed = false := by
  unfold namedType
  split <;> exact ⟨rfl, rfl, rfl⟩

end

mutual

theorem namesFit_of_reads {q : Option String} {D D' : Definitions} {v : Json} {s : Schema}
    (h : Reads q D v s D') : NamesFit v s := by
  match h with
  | .name name =>
    refine .of_leaf (bare_namedType name q D) ?_ rfl
    rintro ⟨_, _, _, written, -⟩
    cases written
  | .union nonempty read =>
    refine .of_parts (by simp) (iff_of_false (fun h => nomatch h.1) ?_)
      (namesFit_of_readsMembers read)
    rintro ⟨_, _, _, written, -⟩
    cases written
  | .wrapped type nested read =>
    obtain ⟨named, nameless⟩ := namesFit_of_reads read
    exact ⟨named, nameless.trans (declaresNameless_wrapped type nested).symm⟩
  | .primitive type known =>
    have simple := mt complexWord_not_primitive (not_not.mpr known)
    exact .of_leaf ⟨rfl, rfl, rfl⟩ (not_isDotted_of_simple type simple)
      (parts_of_simple type simple)
  | .reference type simple unknown =>
    exact .of_leaf (bare_namedType _ q D) (not_isDotted_of_simple type simple)
      (parts_of_simple type simple)
  | .array type present read =>
    refine .of_parts (by simp) (iff_of_false (fun h => nomatch h.1)
      (not_isDotted_of_word type (by decide))) ?_
    simp [parts, type, present, Schema.children, namesFit_of_reads read]
  | .map type present read =>
    refine .of_parts (by simp) (iff_of_false (fun h => nomatch h.1)
      (not_isDotted_of_word type (by decide))) ?_
    simp [parts, type, present, Schema.children, namesFit_of_reads read]
  | .enum type declared listed texts distinct new =>
    refine .of_parts (by simp) ?_ ?_
    · rw [← isDotted_of_declares type (by decide) declared]
      simp [Schema.LacksName, Schema.isNamed, Kind.isNamed]
    · simp [parts, type, Schema.children]
  | .fixed type declared sized new =>
    refine .of_leaf ⟨rfl, rfl, rfl⟩ (not_isDotted_of_word type (by decide)) ?_
    simp [parts, type]
  | .record type known declared listed new read =>
    obtain ⟨named, below⟩ := namesFit_of_readsFields read
    refine .of_parts named ?_ ?_
    · rw [← isDotted_of_declares type (by obtain rfl | rfl := known <;> decide) declared]
      simp [Schema.LacksName, Schema.isNamed, Kind.isNamed]
    · rwa [parts_record type known listed]

theorem namesFit_of_readsMembers {q : Option String} {D D' : Definitions} {items : List Json}
    {members : List Schema} (h : ReadsMembers q D items members D') :
    List.Forall₂ NamesFit items members := by
  match h with
  | .nil => exact .nil
  | .cons first others =>
    exact .cons (namesFit_of_reads first) (namesFit_of_readsMembers others)

theorem namesFit_of_readsFields {q : Option String} {D D' : Definitions} {seen : List String}
    {items : List Json} {fields : List Field} (h : ReadsFields q D seen items fields D') :
    (∀ f ∈ fields, f.name ≠ "") ∧
      List.Forall₂ NamesFit (items.filterMap fieldType?) (fields.map FieldOf.type) := by
  match h with
  | .nil => exact ⟨by simp, .nil⟩
  | .cons named nonempty typed new first others =>
    obtain ⟨rest, below⟩ := namesFit_of_readsFields others
    refine ⟨List.forall_mem_cons.mpr ⟨nonempty, rest⟩, ?_⟩
    simp only [List.filterMap_cons, fieldType?, typed]
    exact .cons (namesFit_of_reads first) below

end

end Avro
end SchemaReview
