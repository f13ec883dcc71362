import SchemaReview.Proofs.Protobuf.QuotedLines
import SchemaReview.Proofs.Schema.Shape
import SchemaReview.Proofs.Outcome

/-!
# Statements and blocks with other literals

Statements and blocks are alike if their texts are the same but for what their literals say,
wherever they stand. From items that are alike the reader takes equal declarations, or it fails for
one reason at one path: lines and headers are read up to the first quote, and only the text that a
field was read from shows the literal.
-/
namespace SchemaReview.Protobuf

variable {s t : List Char}

/-- Whether two texts of statements or headers are the same but for what literals say. -/
def TextAlike (s t : List Char) : Prop := s = t ∨ SameToQuote s t

theorem TextAlike.eq_of {α : Type} {read : List Char → α} (h : TextAlike s t)
    (same : ∀ {s t}, SameToQuote s t → read s = read t) : read s = read t := by
  rcases h with rfl | h
  · rfl
  · exact same h

/-- Whether two items have texts that are alike, wherever they stand. -/
inductive Item.Alike : Item → Item → Prop
  | statement {s t : List Char} {i j : Nat} (text : TextAlike s t) :
      Item.Alike (.statement s i) (.statement t j)
  | block {s t : List Char} {i j : Nat} {xs ys : List Item} (header : TextAlike s t)
      (children : List.Forall₂ Item.Alike xs ys) : Item.Alike (.block s i xs) (.block t j ys)

abbrev ItemsAlike : List Item → List Item → Prop := List.Forall₂ Item.Alike

theorem Item.Alike.refl (x : Item) : x.Alike x := by
  cases x with
  | statement text offset => exact .statement (.inl rfl)
  | block header offset children =>
    exact .block (.inl rfl) (List.forall₂_same.mpr fun c hc => Item.Alike.refl c)
termination_by sizeOf x
decreasing_by
  have := List.sizeOf_lt_of_mem hc
  simp only [Item.block.sizeOf_spec]
  omega

theorem ItemsAlike.refl (xs : List Item) : ItemsAlike xs xs :=
  List.forall₂_same.mpr fun x _ => .refl x

/-- Whether two failures give one reason at one path. -/
def SameFault (e f : ParseError) : Prop := e.fault = f.fault ∧ e.path = f.path

abbrev FieldsAlike : List Field → List Field → Prop := List.Forall₂ FieldOf.AreEqual

theorem FieldsAlike.any_name_eq {fs gs : List Field} (h : FieldsAlike fs gs) (name : String) :
    (fs.any fun f => f.name == name) = gs.any fun f => f.name == name := by
  induction h with
  | nil => rfl
  | cons first _ ih => rw [List.any_cons, List.any_cons, ih, first.name]

/-! ### Fields and values -/

/-- A node without fields and members equals itself if its attributes and parts do. -/
theorem same_self_of_leaf {s : Schema} (name : s.name.same s.name = true)
    (documentation : s.documentation = .null) (logicalType : s.logicalType = .null)
    (fields : s.fields = []) (members : s.members = [])
    (items : ∀ i ∈ s.items, i.same i = true) (values : ∀ v ∈ s.values, v.same v = true) :
    s.same s = true := by
  have option (a : Option Schema) (h : ∀ x ∈ a, x.same x = true) :
      Option.Rel (fun a b => a.same b = true) a a := by
    cases a with
    | none => exact .none
    | some x => exact .some (h x rfl)
  rw [Schema.same_iff]
  exact {
    kind := rfl
    name := name
    qualifier := rfl
    documentation := by rw [documentation]; rfl
    fields := by rw [fields]; exact .nil
    typeName := rfl
    logicalType := by rw [logicalType]; rfl
    size := rfl
    symbols := rfl
    symbolValues := rfl
    items := option _ items
    values := option _ values
    members := by rw [members]; exact .nil
    additionalProperties := rfl }

theorem same_self_namedType (name : List Char) :
    (namedType name).same (namedType name) = true := by
  unfold namedType
  dsimp only
  split <;> exact same_self_of_leaf rfl rfl rfl rfl rfl (by simp) (by simp)

theorem TypeText.same_self_schema (t : TypeText) : t.schema.same t.schema = true := by
  unfold TypeText.schema
  split
  · rename_i value _
    exact same_self_of_leaf rfl rfl rfl rfl rfl (by simp) (by simpa using same_self_namedType value)
  · exact same_self_namedType t.text

/-- Whether two lines of a message have texts that are alike. -/
structure MemberLine.Alike (l m : MemberLine) : Prop where
  text : TextAlike l.text m.text
  inOneof : l.inOneof = m.inOneof

theorem MemberLine.Alike.field? {l m : MemberLine} (h : l.Alike m) (level : Option String) :
    Option.Rel FieldOf.AreEqual (l.field? level) (m.field? level) := by
  have skipped := h.text.eq_of SameToQuote.skipped_eq
  have parsed := h.text.eq_of SameToQuote.field?_eq
  unfold MemberLine.field?
  rw [skipped, parsed, h.inOneof]
  split
  · exact .none
  · cases Protobuf.field? m.text with
    | none => exact .none
    | some line =>
      have type (label : Option String) :
          (if label = some "repeated"
            then ({ kind := .array, items := some line.type.schema } : Schema)
            else line.type.schema).same
          (if label = some "repeated"
            then { kind := .array, items := some line.type.schema }
            else line.type.schema) = true := by
        have one := line.type.same_self_schema
        split
        · exact same_self_of_leaf rfl rfl rfl rfl rfl (by simpa using one) (by simp)
        · exact one
      exact .some {
        name := rfl, type := type _, documentation := rfl, hasDefault := rfl, default := rfl,
        tag := rfl, label := rfl }

/-- A line leaves the fields equal, or both messages have a field twice. -/
theorem fieldsOf_alike {message : String} {level : Option String} {ls ms : List MemberLine}
    {fs gs : List Field} (lines : List.Forall₂ MemberLine.Alike ls ms) (done : FieldsAlike fs gs) :
    EndAlike SameFault FieldsAlike (fieldsOf message level ls fs)
      (fieldsOf message level ms gs) := by
  induction lines generalizing fs gs with
  | nil => exact .ok done
  | @cons l m ls ms first _ ih =>
    have read := first.field? level
    rw [fieldsOf, fieldsOf]
    generalize l.field? level = a at read
    generalize m.field? level = b at read
    cases read with
    | none => exact ih done
    | @some f g equal =>
      dsimp only
      rw [done.any_name_eq, equal.name]
      split
      · exact .error ⟨rfl, rfl⟩
      · exact ih (List.rel_append done (.cons equal .nil))

theorem memberLines_alike {xs ys : List Item} (h : ItemsAlike xs ys) :
    List.Forall₂ MemberLine.Alike (memberLines xs) (memberLines ys) := by
  unfold memberLines
  induction h with
  | nil => exact .nil
  | cons first _ ih =>
    rw [List.flatMap_cons, List.flatMap_cons]
    refine List.rel_append ?_ ih
    cases first with
    | statement text => exact .cons ⟨text, rfl⟩ .nil
    | block header children =>
      have group := header.eq_of SameToQuote.isOneofHeader_eq
      dsimp only
      rw [group]
      split
      · clear group
        induction children with
        | nil => exact .nil
        | cons one _ rest =>
          cases one with
          | statement text => exact .cons ⟨text, rfl⟩ rest
          | block => exact rest
      · exact .nil

theorem messageOf_alike {name : String} {package level : Option String} {xs ys : List Item}
    (h : ItemsAlike xs ys) :
    EndAlike SameFault (fun s t => s.same t = true) (messageOf name package level xs)
      (messageOf name package level ys) := by
  refine (fieldsOf_alike (memberLines_alike h) .nil).bind fun fs gs fields => .ok ?_
  rw [Schema.same_iff]
  exact {
    kind := rfl, name := by simp [Json.same], qualifier := rfl, documentation := rfl
    fields := fields
    typeName := rfl, logicalType := rfl, size := rfl, symbols := rfl, symbolValues := rfl
    items := .none, values := .none, members := .nil
    additionalProperties := rfl }

/-- A statement leaves the values of an enum equal, or both enums have a symbol twice. -/
theorem enumEntries_alike {enum : String} {xs ys : List Item} (h : ItemsAlike xs ys)
    (done : List (String × Int)) :
    EndAlike SameFault Eq (enumEntries enum xs done) (enumEntries enum ys done) := by
  induction h generalizing done with
  | nil => exact .ok rfl
  | cons first _ ih =>
    cases first with
    | statement text =>
      have read := text.eq_of SameToQuote.enumValue?_eq
      rw [enumEntries, enumEntries, read]
      split
      · exact ih done
      · dsimp only
        split
        · exact .error ⟨rfl, rfl⟩
        · exact ih _
    | block => exact ih done

theorem enumOf_alike {name : String} {package : Option String} {xs ys : List Item}
    (h : ItemsAlike xs ys) :
    EndAlike SameFault (fun s t => s.same t = true) (enumOf name package xs)
      (enumOf name package ys) := by
  refine (enumEntries_alike h []).bind fun entries _ same => .ok ?_
  subst same
  exact same_self_of_leaf (by simp [Json.same]) rfl rfl rfl rfl (by simp) (by simp)

/-! ### Declarations -/

theorem declare_alike {key : String} {type type' : Schema} {header header' : List Char} {i j : Nat}
    {fs gs : List Field} (done : FieldsAlike fs gs) (same : type.same type' = true) :
    EndAlike SameFault FieldsAlike (declare fs key type header i)
      (declare gs key type' header' j) := by
  unfold declare
  rw [done.any_name_eq]
  split
  · exact .error ⟨rfl, rfl⟩
  · refine .ok (List.rel_append done (.cons ?_ .nil))
    exact {
      name := rfl, type := same, documentation := rfl, hasDefault := rfl, default := rfl,
      tag := rfl, label := rfl }

/-- Each block leaves the declarations equal, and so do the blocks nested in it, or both texts fail
there. -/
theorem declarationsOf_alike {level : Option String} {xs ys : List Item} (h : ItemsAlike xs ys)
    (package outer : Option String) {fs gs : List Field} (done : FieldsAlike fs gs) :
    EndAlike SameFault FieldsAlike (declarationsOf level xs package outer fs)
      (declarationsOf level ys package outer gs) := by
  match xs, ys, h with
  | [], [], .nil =>
    rw [declarationsOf, declarationsOf]
    exact .ok done
  | .statement .. :: xs, .statement .. :: ys, .cons (.statement _) rest =>
    rw [declarationsOf, declarationsOf]
    exact declarationsOf_alike rest package outer done
  | .block header i children :: xs, .block header' j children' :: ys,
      .cons (.block sameHeader inner) rest =>
    have read := sameHeader.eq_of SameToQuote.blockHeader?_eq
    rw [declarationsOf, declarationsOf, read]
    split
    · dsimp only
      split
      · refine (messageOf_alike inner).bind fun type type' same => ?_
        refine (declare_alike done same).bind fun fs gs done => ?_
        refine (declarationsOf_alike inner _ _ done).bind fun fs gs done => ?_
        exact declarationsOf_alike rest package outer done
      split
      · refine (enumOf_alike inner).bind fun type type' same => ?_
        refine (declare_alike done same).bind fun fs gs done => ?_
        exact declarationsOf_alike rest package outer done
      · exact declarationsOf_alike rest package outer done
    · exact declarationsOf_alike rest package outer done
termination_by sizeOf xs

theorem packageName_alike {xs ys : List Item} (h : ItemsAlike xs ys) :
    topLevelValue? packageName? xs = topLevelValue? packageName? ys := by
  unfold topLevelValue?
  induction h with
  | nil => rfl
  | cons first _ ih =>
    rw [List.findSome?_cons, List.findSome?_cons, ih]
    cases first with
    | statement text =>
      dsimp only
      rw [text.eq_of SameToQuote.packageName?_eq]
    | block => rfl

end SchemaReview.Protobuf
