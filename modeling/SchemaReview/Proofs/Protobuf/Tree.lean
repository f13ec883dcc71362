import SchemaReview.Proofs.Schema.Nodes
import SchemaReview.Proofs.Outcome
import SchemaReview.Protobuf.Reader

/-!
# The trees that the reader of interface definitions yields

A reading collects fields, symbols and declarations, each under a name that is not empty and not yet
taken. What a collection holds before a line or block it holds after it, so every node of an
accepted text has one of seven shapes.
-/
namespace SchemaReview.Protobuf

/-- Fields can stand in one node: their names are not empty and distinct. -/
def AreNamedApart (fields : List Field) : Prop :=
  (∀ f ∈ fields, f.name ≠ "") ∧ (fields.map FieldOf.name).Nodup

/-- The nodes that a reading yields. -/
inductive IsTree : Schema → Prop
  | scalar {word} (known : word ∈ scalarTypes) :
      IsTree { kind := .primitive, typeName := some word }
  | reference (name : String) : IsTree { kind := .reference, typeName := some name }
  | array {items} (tree : IsTree items) : IsTree { kind := .array, items := some items }
  | map {values} (tree : IsTree values) : IsTree { kind := .map, values := some values }
  | message {name} (nonempty : name ≠ "") (package : Option String) {fields}
      (apart : AreNamedApart fields) (trees : ∀ f ∈ fields, IsTree f.type) :
      IsTree { kind := .message, name := .str name, qualifier := package, fields := fields }
  | enum {name} (nonempty : name ≠ "") (package : Option String) {entries : List (String × Int)}
      (distinct : (entries.map (·.1)).Nodup) : IsTree {
      kind := .enum, name := .str name, qualifier := package, symbols := entries.map (·.1),
      symbolValues := entries.map (·.2) }
  | file (package : Option String) {fields} (apart : AreNamedApart fields)
      (trees : ∀ f ∈ fields, IsTree f.type) :
      IsTree { kind := .file, qualifier := package, fields := fields }

theorem IsTree.child {s c : Schema} (h : IsTree s) (hc : c ∈ s.children) : IsTree c := by
  cases h with
  | array tree | map tree =>
    obtain rfl := List.mem_singleton.mp hc
    exact tree
  | message _ _ _ trees | file _ _ trees =>
    obtain ⟨f, hf, rfl⟩ := List.mem_map.mp hc
    exact trees f hf
  | _ => cases hc

theorem IsTree.node {s t : Schema} (h : IsTree s) (ht : t ∈ s.nodes) : IsTree t := by
  obtain rfl | ⟨c, hc, ht⟩ := Schema.mem_nodes_iff.mp ht
  · exact h
  · have smaller := Schema.sizeOf_lt_of_mem_children hc
    exact (h.child hc).node ht
termination_by sizeOf s

section

variable {s rest run : List Char} {test : Char → Bool}

/-- A run of characters is never empty. -/
theorem ne_nil_of_span? (h : span? test s = some (run, rest)) : run ≠ [] := by
  unfold span? at h
  dsimp only at h
  split at h
  · cases h
  · rename_i nonempty
    cases h
    simpa using nonempty

theorem ofList_ne_empty (h : run ≠ []) : String.ofList run ≠ "" := by
  intro he
  rw [← String.toList_inj, String.toList_ofList] at he
  exact h he

theorem name_ne_nil_of_blockHeader? {keyword : String} {name : List Char}
    (h : blockHeader? s = some (keyword, name)) : name ≠ [] := by
  unfold blockHeader? at h
  obtain ⟨word, -, h⟩ := List.exists_of_findSome?_eq_some h
  obtain ⟨afterWord, -, h⟩ := Option.bind_eq_some_iff.mp h
  obtain ⟨text, -, h⟩ := Option.bind_eq_some_iff.mp h
  obtain ⟨⟨run, rest⟩, spanned, h⟩ := Option.bind_eq_some_iff.mp h
  dsimp only at h
  split at h
  · cases h
    exact ne_nil_of_span? spanned
  · cases h

theorem name_ne_nil_of_fieldFromType? {label : Option String} {line : FieldLine}
    (h : fieldFromType? label s = some line) : line.name ≠ [] := by
  unfold fieldFromType? at h
  obtain ⟨⟨type, text⟩, -, h⟩ := Option.bind_eq_some_iff.mp h
  obtain ⟨text, -, h⟩ := Option.bind_eq_some_iff.mp h
  obtain ⟨⟨run, rest⟩, spanned, h⟩ := Option.bind_eq_some_iff.mp h
  obtain ⟨text, -, h⟩ := Option.bind_eq_some_iff.mp h
  obtain ⟨⟨number, rest⟩, -, h⟩ := Option.bind_eq_some_iff.mp h
  dsimp only at h
  split at h
  · cases h
    exact ne_nil_of_span? spanned
  · cases h

/-- A field is read from its type on, after a cardinality word or at once. -/
theorem fieldFromType?_of_field? {line : FieldLine} (h : field? s = some line) :
    ∃ label text, fieldFromType? label text = some line := by
  unfold field? at h
  dsimp only at h
  cases labelled : labels.findSome? fun label => do
      let s ← afterWord? label s
      fieldFromType? (some label) (← afterBlanks? s) with
  | some found =>
    rw [labelled] at h
    cases h
    obtain ⟨label, -, h⟩ := List.exists_of_findSome?_eq_some labelled
    obtain ⟨afterLabel, -, h⟩ := Option.bind_eq_some_iff.mp h
    obtain ⟨text, -, h⟩ := Option.bind_eq_some_iff.mp h
    exact ⟨_, _, h⟩
  | none =>
    rw [labelled] at h
    exact ⟨_, _, h⟩

theorem name_ne_nil_of_field? {line : FieldLine} (h : field? s = some line) : line.name ≠ [] := by
  obtain ⟨label, text, h⟩ := fieldFromType?_of_field? h
  exact name_ne_nil_of_fieldFromType? h

end

theorem isTree_namedType (name : List Char) : IsTree (namedType name) := by
  unfold namedType
  dsimp only
  split
  · rename_i known
    exact .scalar (by simpa using known)
  · exact .reference _

theorem TypeText.isTree_schema (t : TypeText) : IsTree t.schema := by
  unfold TypeText.schema
  split
  · exact .map (isTree_namedType _)
  · exact isTree_namedType _

/-- A field whose name is not taken can be added. -/
theorem AreNamedApart.append {fields : List Field} {f : Field} (h : AreNamedApart fields)
    (nonempty : f.name ≠ "") (new : (fields.any fun g => g.name == f.name) = false) :
    AreNamedApart (fields ++ [f]) := by
  have unused : ∀ g ∈ fields, g.name ≠ f.name := by simpa using new
  refine ⟨?_, ?_⟩
  · simpa [or_imp, forall_and] using ⟨h.1, nonempty⟩
  · rw [List.map_append, List.nodup_append]
    refine ⟨h.2, by simp, ?_⟩
    simpa using unused

/-- What holds of the declarations of a file and of the fields of a message while they are read. -/
structure AreReadable (fields : List Field) : Prop where
  apart : AreNamedApart fields
  trees : ∀ f ∈ fields, IsTree f.type

theorem areReadable_nil : AreReadable [] := ⟨⟨by simp, by simp⟩, by simp⟩

theorem AreReadable.append {fields : List Field} {f : Field} (h : AreReadable fields)
    (nonempty : f.name ≠ "") (tree : IsTree f.type)
    (new : (fields.any fun g => g.name == f.name) = false) : AreReadable (fields ++ [f]) :=
  ⟨h.apart.append nonempty new, by simpa [or_imp, forall_and] using ⟨h.trees, tree⟩⟩

theorem of_memberLine_field? {line : MemberLine} {level : Option String} {f : Field}
    (h : line.field? level = some f) : f.name ≠ "" ∧ IsTree f.type := by
  unfold MemberLine.field? at h
  split at h
  · cases h
  · obtain ⟨parsed, read, h⟩ := Option.bind_eq_some_iff.mp h
    cases h
    refine ⟨ofList_ne_empty (name_ne_nil_of_field? read), ?_⟩
    dsimp only
    generalize parsed.label.or _ = label
    split
    · exact .array parsed.type.isTree_schema
    · exact parsed.type.isTree_schema

/-- Each line leaves the fields readable. -/
theorem areReadable_of_fieldsOf {message : String} {level : Option String}
    {lines : List MemberLine} {done fields : List Field} (h : AreReadable done)
    (read : fieldsOf message level lines done = .ok fields) : AreReadable fields := by
  induction lines generalizing done with
  | nil =>
    cases read
    exact h
  | cons line rest ih =>
    rw [fieldsOf] at read
    split at read
    · exact ih h read
    · rename_i f found
      split at read
      · cases read
      · rename_i new
        obtain ⟨nonempty, tree⟩ := of_memberLine_field? found
        exact ih (h.append nonempty tree (by simpa using new)) read

theorem isTree_of_messageOf {name : String} {package level : Option String}
    {children : List Item} {s : Schema} (nonempty : name ≠ "")
    (read : messageOf name package level children = .ok s) : IsTree s := by
  obtain ⟨fields, made, read⟩ := bind_eq_ok.mp read
  cases read
  have readable := areReadable_of_fieldsOf areReadable_nil made
  exact .message nonempty package readable.apart readable.trees

/-- Each statement leaves the symbols distinct. -/
theorem nodup_of_enumEntries {enum : String} {items : List Item}
    {done entries : List (String × Int)} (distinct : (done.map (·.1)).Nodup)
    (read : enumEntries enum items done = .ok entries) : (entries.map (·.1)).Nodup := by
  induction items generalizing done with
  | nil =>
    cases read
    exact distinct
  | cons item rest ih =>
    cases item with
    | block header offset children => exact ih distinct read
    | statement text offset =>
      rw [enumEntries] at read
      split at read
      · exact ih distinct read
      · dsimp only at read
        split at read
        · cases read
        · rename_i symbol number found new
          have unused : ∀ e ∈ done, e.1 ≠ String.ofList symbol := fun e he same =>
            new (List.any_eq_true.mpr ⟨e, he, beq_iff_eq.mpr same⟩)
          refine ih ?_ read
          rw [List.map_append, List.nodup_append]
          refine ⟨distinct, by simp, fun name hname other hother => ?_⟩
          obtain ⟨e, he, rfl⟩ := List.mem_map.mp hname
          obtain rfl := List.mem_singleton.mp hother
          exact unused e he

theorem isTree_of_enumOf {name : String} {package : Option String} {children : List Item}
    {s : Schema} (nonempty : name ≠ "") (read : enumOf name package children = .ok s) :
    IsTree s := by
  obtain ⟨entries, made, read⟩ := bind_eq_ok.mp read
  cases read
  exact .enum nonempty package (nodup_of_enumEntries (by simp) made)

theorem below_ne_empty {outer : Option String} {name : String} (h : name ≠ "") :
    below outer name ≠ "" := by
  unfold below
  split
  · split
    · exact h
    · intro he
      have chars := congrArg String.toList he
      simp at chars
  · exact h

theorem areReadable_of_declare {done next : List Field} {key : String} {type : Schema}
    {header : List Char} {offset : Nat} (h : AreReadable done) (nonempty : key ≠ "")
    (tree : IsTree type) (made : declare done key type header offset = .ok next) :
    AreReadable next := by
  unfold declare at made
  split at made
  · cases made
  · rename_i new
    cases made
    exact h.append nonempty tree (by simpa using new)

/-- Each block leaves the declarations readable, and so do the blocks nested in it. -/
theorem areReadable_of_declarationsOf {level : Option String} {items : List Item}
    {package outer : Option String} {done fields : List Field} (h : AreReadable done)
    (read : declarationsOf level items package outer done = .ok fields) : AreReadable fields := by
  match items with
  | [] =>
    rw [declarationsOf] at read
    cases read
    exact h
  | .statement .. :: rest =>
    rw [declarationsOf] at read
    exact areReadable_of_declarationsOf h read
  | .block header offset children :: rest =>
    rw [declarationsOf] at read
    split at read
    · rename_i keyword chars found
      have named := ofList_ne_empty (name_ne_nil_of_blockHeader? found)
      dsimp only at read
      split at read
      · obtain ⟨type, typed, read⟩ := bind_eq_ok.mp read
        obtain ⟨next, declared, read⟩ := bind_eq_ok.mp read
        obtain ⟨inner, nested, read⟩ := bind_eq_ok.mp read
        have tree := isTree_of_messageOf named typed
        have readable := areReadable_of_declare h (below_ne_empty named) tree declared
        exact areReadable_of_declarationsOf (areReadable_of_declarationsOf readable nested) read
      split at read
      · obtain ⟨type, typed, read⟩ := bind_eq_ok.mp read
        obtain ⟨next, declared, read⟩ := bind_eq_ok.mp read
        have tree := isTree_of_enumOf named typed
        have readable := areReadable_of_declare h (below_ne_empty named) tree declared
        exact areReadable_of_declarationsOf readable read
      · exact areReadable_of_declarationsOf h read
    · exact areReadable_of_declarationsOf h read
termination_by sizeOf items

/-- The document with given declarations, for a text with given statements and blocks. -/
def documentWith (items : List Item) (fields : List Field) : Document :=
  let syntaxLevel := topLevelValue? syntaxValue? items
  let package := topLevelValue? packageName? items
  let warning (message : String) : Issue :=
    { ruleId := "parse", severity := .warning, message := message }
  { format := .protobuf, root := { kind := .file, qualifier := package, fields := fields }
    syntaxLevel := syntaxLevel, package := package
    warnings := (if syntaxLevel.isNone then [warning missingSyntaxMessage] else []) ++
      (if package.isNone then [warning missingPackageMessage] else []) }

/-- A text is accepted if it is not blank, its braces fit and its declarations can be read. -/
theorem ofText_eq_ok {text : String} {d : Document} : ofText text = .ok d ↔
    Text.isBlankText text = false ∧ ∃ items fields,
      scan (stripComments text.toList) = .ok items ∧
      declarationsOf (topLevelValue? syntaxValue? items) items (topLevelValue? packageName? items)
        none [] = .ok fields ∧ d = documentWith items fields := by
  unfold ofText
  dsimp only
  cases blank : Text.isBlankText text with
  | true => simp [throw, throwThe, MonadExceptOf.throw, bind, Except.bind]
  | false =>
    rw [if_neg (by decide)]
    cases scanned : scan (stripComments text.toList) with
    | error e => simp [throw, throwThe, MonadExceptOf.throw, bind, Except.bind]
    | ok items =>
      simp only [pure_bind, bind_eq_ok, pure_eq_ok, true_and, Except.ok.injEq]
      constructor
      · rintro ⟨fields, made, rfl⟩
        exact ⟨items, fields, rfl, made, rfl⟩
      · rintro ⟨_, fields, rfl, made, rfl⟩
        exact ⟨fields, made, rfl⟩

theorem of_ofText_eq_ok {text : String} {d : Document} (h : ofText text = .ok d) :
    d.format = .protobuf ∧ IsTree d.root := by
  obtain ⟨-, items, fields, -, made, rfl⟩ := ofText_eq_ok.mp h
  have readable := areReadable_of_declarationsOf areReadable_nil made
  exact ⟨rfl, .file _ readable.apart readable.trees⟩

/-! ### What an accepted interface definition declares

The fields of a message are those that its lines declare, and the declarations of a file are the
messages and enums of its blocks, however deep these are nested. -/

/-- A field that a line of a message declares. -/
def IsLineField (level : Option String) (f : Field) : Prop :=
  ∃ line : MemberLine, line.field? level = some f

/-- The types that blocks declare. -/
inductive IsDeclared (level : Option String) : Schema → Prop
  | message (name : String) (package : Option String) {fields : List Field}
    (lines : ∀ f ∈ fields, IsLineField level f) : IsDeclared level {
      kind := .message, name := .str name, qualifier := package, fields := fields }
  | enum (name : String) (package : Option String) (entries : List (String × Int)) :
    IsDeclared level {
      kind := .enum, name := .str name, qualifier := package, symbols := entries.map (·.1),
      symbolValues := entries.map (·.2) }

/-- A declared type under its key. It is a field without a number, a label or a default. -/
def IsDeclaration (level : Option String) (f : Field) : Prop :=
  ∃ key type raw, f = { name := key, type := type, raw := raw } ∧ IsDeclared level type

section

variable {level : Option String}

/-- Each line adds its field. -/
theorem isLineField_of_fieldsOf {message : String} {lines : List MemberLine}
    {done fields : List Field} (h : ∀ f ∈ done, IsLineField level f)
    (read : fieldsOf message level lines done = .ok fields) :
    ∀ f ∈ fields, IsLineField level f := by
  induction lines generalizing done with
  | nil =>
    cases read
    exact h
  | cons line rest ih =>
    rw [fieldsOf] at read
    split at read
    · exact ih h read
    · rename_i f found
      split at read
      · cases read
      · refine ih (fun g hg => ?_) read
        obtain hg | hg := List.mem_append.mp hg
        · exact h g hg
        · obtain rfl := List.mem_singleton.mp hg
          exact ⟨line, found⟩

theorem isDeclared_of_messageOf {name : String} {package : Option String} {children : List Item}
    {s : Schema} (read : messageOf name package level children = .ok s) : IsDeclared level s := by
  obtain ⟨fields, made, read⟩ := bind_eq_ok.mp read
  cases read
  exact .message name package (isLineField_of_fieldsOf (List.forall_mem_nil _) made)

theorem isDeclared_of_enumOf {name : String} {package : Option String} {children : List Item}
    {s : Schema} (read : enumOf name package children = .ok s) : IsDeclared level s := by
  obtain ⟨entries, made, read⟩ := bind_eq_ok.mp read
  cases read
  exact .enum name package entries

theorem isDeclaration_of_declare {done next : List Field} {key : String} {type : Schema}
    {header : List Char} {offset : Nat} (h : ∀ f ∈ done, IsDeclaration level f)
    (declared : IsDeclared level type) (made : declare done key type header offset = .ok next) :
    ∀ f ∈ next, IsDeclaration level f := by
  unfold declare at made
  split at made
  · cases made
  · cases made
    intro f hf
    obtain hf | hf := List.mem_append.mp hf
    · exact h f hf
    · obtain rfl := List.mem_singleton.mp hf
      exact ⟨key, type, _, rfl, declared⟩

/-- Each block adds its declaration, and so do the blocks nested in it. -/
theorem isDeclaration_of_declarationsOf {items : List Item} {package outer : Option String}
    {done fields : List Field} (h : ∀ f ∈ done, IsDeclaration level f)
    (read : declarationsOf level items package outer done = .ok fields) :
    ∀ f ∈ fields, IsDeclaration level f := by
  match items with
  | [] =>
    rw [declarationsOf] at read
    cases read
    exact h
  | .statement .. :: rest =>
    rw [declarationsOf] at read
    exact isDeclaration_of_declarationsOf h read
  | .block header offset children :: rest =>
    rw [declarationsOf] at read
    split at read
    · dsimp only at read
      split at read
      · obtain ⟨type, typed, read⟩ := bind_eq_ok.mp read
        obtain ⟨next, declared, read⟩ := bind_eq_ok.mp read
        obtain ⟨inner, nested, read⟩ := bind_eq_ok.mp read
        have added := isDeclaration_of_declare h (isDeclared_of_messageOf typed) declared
        exact isDeclaration_of_declarationsOf (isDeclaration_of_declarationsOf added nested) read
      split at read
      · obtain ⟨type, typed, read⟩ := bind_eq_ok.mp read
        obtain ⟨next, declared, read⟩ := bind_eq_ok.mp read
        have added := isDeclaration_of_declare h (isDeclared_of_enumOf typed) declared
        exact isDeclaration_of_declarationsOf added read
      · exact isDeclaration_of_declarationsOf h read
    · exact isDeclaration_of_declarationsOf h read
termination_by sizeOf items

end

/-- An accepted text is a file of declarations. -/
theorem isDeclaration_of_ofText {text : String} {d : Document} (h : ofText text = .ok d) :
    (∃ package fields, d.root = { kind := .file, qualifier := package, fields := fields }) ∧
      ∀ f ∈ d.root.fields, IsDeclaration d.syntaxLevel f := by
  obtain ⟨-, items, fields, -, made, rfl⟩ := ofText_eq_ok.mp h
  exact ⟨⟨_, _, rfl⟩, isDeclaration_of_declarationsOf (List.forall_mem_nil _) made⟩

end SchemaReview.Protobuf
