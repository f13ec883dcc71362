import SchemaReview.JsonSchema.Constraint
import SchemaReview.Proofs.Compatibility.Totality
import SchemaReview.Proofs.Compatibility.Likeness
import SchemaReview.Proofs.Json.Equality
import SchemaReview.Proofs.JsonSchema.Reading
import SchemaReview.Proofs.Parse.Outcome

/-!
# Changes of enumerated values

An `enum` lists values of any kind, and its node a symbol for each: a text is its own symbol, and
any other value is printed. Two values have one symbol if they are one value, or if one is the text
that is printed for the other. So a comparison reports every change of such a list, unless all that
changes is that values are replaced by the texts that are printed for them, or the other way round.
-/
namespace SchemaReview

namespace JsonSchema

/-- Whether two lists hold the same values. -/
def HoldSameValues (xs ys : List Json) : Prop :=
  (∀ x ∈ xs, ∃ y ∈ ys, sameElement x y = true) ∧ ∀ y ∈ ys, ∃ x ∈ xs, sameElement x y = true

/-- Whether a value is the text that is printed for another one, which is no text. -/
def IsPrintOf (x y : Json) : Prop := x = .str (y.write .spacedAscii) ∧ ∀ s, y ≠ .str s

/-- Whether two values have one symbol although one is a text and the other is not. -/
def AreConfused (x y : Json) : Prop := IsPrintOf x y ∨ IsPrintOf y x

/-- Whether a list arises from another one by printing some of its values and reading others from
their texts. The order of members in a value does not matter. -/
structure IsReprint (xs ys : List Json) : Prop where
  alike : List.Forall₂ (fun x y => x.sorted = y.sorted ∨ AreConfused x y) xs ys
  confused : ∃ pair ∈ xs.zip ys, AreConfused pair.1 pair.2

/-- Whether an object is read as an object type, with its properties. -/
structure IsReadAsObject (members : List (String × Json)) : Prop extends IsReadByType members where
  type : Json.memberOrNull members "type" = .str "object" ∨ Json.memberOrNull members "type" = .null

/-- Two schemas that differ only in the values that they enumerate, as a whole or at a path of
nested properties. -/
inductive DifferAt (xs ys : List Json) : Path → Json → Json → Prop
  | own {members : List (String × Json)} (plain : Json.member? members "$ref" = none) :
    DifferAt xs ys [] (.obj (Json.setMember members "enum" (.arr xs)))
      (.obj (Json.setMember members "enum" (.arr ys)))
  | property {members properties : List (String × Json)} {name : String} {place : Path} {x y : Json}
    (object : IsReadAsObject members) (below : DifferAt xs ys place x y) :
    DifferAt xs ys (.name name :: place)
      (.obj (Json.setMember members "properties" (.obj (Json.setMember properties name x))))
      (.obj (Json.setMember members "properties" (.obj (Json.setMember properties name y))))

/-! ### Symbols -/

section

variable {x y : Json} {xs ys : List Json}

theorem symbolOf_of_ne_str (h : ∀ s, x ≠ .str s) : symbolOf x = x.write .spacedAscii := by
  cases x with
  | str s => exact absurd rfl (h s)
  | _ => rfl

theorem eq_str_of_sorted_eq {s : String} (h : (Json.str s).sorted = y.sorted) : .str s = y :=
  Json.eq_of_sorted_eq_of_ne (by simp) (by simp) h

/-- A text and another value have one symbol if the text is printed for the value. -/
theorem symbolOf_str_eq_iff {s : String} (hy : ∀ t, y ≠ .str t) :
    symbolOf (.str s) = symbolOf y ↔
      (Json.str s).sorted = y.sorted ∨ AreConfused (.str s) y := by
  rw [symbolOf_of_ne_str hy, symbolOf]
  constructor
  · rintro rfl
    exact .inr (.inl ⟨rfl, hy⟩)
  · rintro (alike | ⟨printed, -⟩ | ⟨-, other⟩)
    · exact absurd (eq_str_of_sorted_eq alike).symm (hy s)
    · exact Json.str.inj printed
    · exact absurd rfl (other s)

theorem areConfused_comm : AreConfused x y ↔ AreConfused y x := or_comm

/-- Two values have one symbol exactly if they differ in the order of members at most, or if one is
printed as the other. -/
theorem symbolOf_eq_iff (hx : x.hasDistinctKeys = true) (hy : y.hasDistinctKeys = true) :
    symbolOf x = symbolOf y ↔ x.sorted = y.sorted ∨ AreConfused x y := by
  by_cases textX : ∃ s, x = .str s
  · obtain ⟨s, rfl⟩ := textX
    by_cases textY : ∃ t, y = .str t
    · obtain ⟨t, rfl⟩ := textY
      constructor
      · intro same
        exact .inl (congrArg (fun u => (Json.str u).sorted) same)
      · rintro (alike | ⟨-, other⟩ | ⟨-, other⟩)
        · exact Json.str.inj (eq_str_of_sorted_eq alike)
        · exact absurd rfl (other t)
        · exact absurd rfl (other s)
    · exact symbolOf_str_eq_iff (not_exists.mp textY)
  · rw [not_exists] at textX
    by_cases textY : ∃ t, y = .str t
    · obtain ⟨t, rfl⟩ := textY
      rw [eq_comm, symbolOf_str_eq_iff textX, eq_comm, areConfused_comm]
    · rw [not_exists] at textY
      rw [symbolOf_of_ne_str textX, symbolOf_of_ne_str textY]
      constructor
      · intro same
        exact .inl (Json.sorted_eq_of_write_eq Json.isOrdered_spacedAscii hx hy same)
      · rintro (alike | ⟨printed, -⟩ | ⟨printed, -⟩)
        · exact Json.write_eq_of_sorted_eq Json.isOrdered_spacedAscii alike
        · exact absurd printed (textX _)
        · exact absurd printed (textY _)

theorem sameElements_of_forall₂ (h : List.Forall₂ (fun x y => sameElement x y = true) xs ys) :
    sameElements xs ys = true := by
  induction h with
  | nil => rfl
  | cons first _ ih => rw [sameElements, first, ih]; rfl

theorem sameMembers_of_found {xs ys : List (String × Json)}
    (h : ∀ entry ∈ xs, ∃ w, Json.member? ys entry.1 = some w ∧ sameElement entry.2 w = true) :
    sameMembers xs ys = true := by
  induction xs with
  | nil => rfl
  | cons entry rest ih =>
    rw [List.forall_mem_cons] at h
    obtain ⟨⟨w, found, same⟩, others⟩ := h
    rw [sameMembers, found]
    dsimp only
    rw [same, ih others]
    rfl

/-- Values that differ in the order of members are the same element of a list. -/
theorem sameElement_of_sorted_eq (hx : x.hasDistinctKeys = true) (hy : y.hasDistinctKeys = true)
    (h : x.sorted = y.sorted) : sameElement x y = true := by
  refine Json.rel_of_sorted_eq (R := fun x y => sameElement x y = true) (fun a items members => ?_)
    (fun alike => ?_) (fun length found => ?_) hx hy h
  · cases a with
    | arr xs => exact absurd rfl (items xs)
    | obj xs => exact absurd rfl (members xs)
    | float x => exact Json.Number.same_self _
    | null => rfl
    | _ => simp [sameElement]
  · rw [sameElement, sameElements_of_forall₂ alike]
  · rw [sameElement, Bool.and_eq_true, beq_iff_eq]
    exact ⟨length, sameMembers_of_found found⟩

/-- Two lists have one list of symbols exactly if their values do, position by position. -/
theorem map_symbolOf_eq_iff (hx : ∀ x ∈ xs, x.hasDistinctKeys = true)
    (hy : ∀ y ∈ ys, y.hasDistinctKeys = true) :
    xs.map symbolOf = ys.map symbolOf ↔
      List.Forall₂ (fun x y => x.sorted = y.sorted ∨ AreConfused x y) xs ys := by
  rw [← List.forall₂_eq_eq_eq, List.forall₂_map_left_iff, List.forall₂_map_right_iff,
    List.forall₂_iff_zip, List.forall₂_iff_zip]
  refine and_congr_right fun _ => ⟨fun h x y paired => ?_, fun h x y paired => ?_⟩
  · have listed := List.of_mem_zip paired
    exact (symbolOf_eq_iff (hx x listed.1) (hy y listed.2)).mp (h paired)
  · have listed := List.of_mem_zip paired
    exact (symbolOf_eq_iff (hx x listed.1) (hy y listed.2)).mpr (h paired)

/-- Lists of different values have different symbols, unless one is a reprint of the other. -/
theorem map_symbolOf_ne (hx : ∀ x ∈ xs, x.hasDistinctKeys = true)
    (hy : ∀ y ∈ ys, y.hasDistinctKeys = true) (changed : ¬HoldSameValues xs ys)
    (apart : ¬IsReprint xs ys) : xs.map symbolOf ≠ ys.map symbolOf := by
  intro same
  have alike := (map_symbolOf_eq_iff hx hy).mp same
  have values : List.Forall₂ (fun x y => sameElement x y = true) xs ys := by
    rw [List.forall₂_iff_zip] at alike ⊢
    refine ⟨alike.1, fun {x y} paired => ?_⟩
    have listed := List.of_mem_zip paired
    refine sameElement_of_sorted_eq (hx x listed.1) (hy y listed.2) ?_
    refine (alike.2 paired).resolve_right fun confused => apart ⟨?_, _, paired, confused⟩
    exact List.forall₂_iff_zip.mpr alike
  refine changed ⟨fun x listed => exists_of_forall₂ values listed, fun y listed => ?_⟩
  exact exists_of_forall₂ values.flip listed

end

end JsonSchema

/-! ### Enums in trees -/

/-- The enum that is reached from a tree by a path of fields has these symbols. -/
inductive HasSymbolsAt (symbols : List String) : Path → Schema → Prop
  | own {s : Schema} (kind : s.kind = .enum) (listed : s.symbols = symbols) :
    HasSymbolsAt symbols [] s
  | field {s : Schema} {f : Field} {name : String} {place : Path} (kind : s.kind = .record)
    (found : s.field? name = some f) (below : HasSymbolsAt symbols place f.type) :
    HasSymbolsAt symbols (.name name :: place) s

section

variable {symbols others : List String} {place path : Path} {s t : Schema}

theorem HasSymbolsAt.isNamed (h : HasSymbolsAt symbols place s) : s.isNamed = true := by
  unfold Schema.isNamed
  cases h with
  | own kind => rw [kind]; rfl
  | field kind => rw [kind]; rfl

theorem HasSymbolsAt.kind_eq (hs : HasSymbolsAt symbols place s)
    (ht : HasSymbolsAt others place t) : s.kind = t.kind := by
  cases hs with
  | own kind =>
    cases ht with
    | own kind' => exact kind.trans kind'.symm
  | field kind =>
    cases ht with
    | field kind' => exact kind.trans kind'.symm

/-- The comparison of two enums with different symbols has an entry for them. -/
theorem Comparison.symbolsChanged_of_symbols_ne (c : Comparison) (path : Path)
    (differ : s.symbols ≠ t.symbols) :
    ∃ e ∈ c.symbolChanges path s t, e.kind = .symbolsChanged ∧ e.path = path := by
  have changed : Comparison.sameSymbols s t = false := by
    unfold Comparison.sameSymbols
    rw [Bool.and_eq_false_iff]
    exact .inl (beq_false_of_ne differ)
  unfold Comparison.symbolChanges
  rw [changed]
  exact ⟨_, List.mem_singleton_self _, rfl, rfl⟩

/-- The comparison of two trees in which only labels are named goes down to their enums. -/
theorem Comparison.symbolsChanged_of_namedChanges {c : Comparison} (labels : c.byName = false)
    (hs : HasSymbolsAt symbols place s) (ht : HasSymbolsAt others place t)
    (differ : symbols ≠ others) {entries : List DiffEntry}
    (ran : c.namedChanges path s t = .ok entries) :
    ∃ e ∈ entries, e.kind = .symbolsChanged ∧ e.path = path ++ place := by
  induction hs generalizing t path entries with
  | own kind listed =>
    cases ht with
    | own kind' listed' =>
      rw [namedChanges_enum c path kind] at ran
      cases ran
      obtain ⟨e, he, changed⟩ := c.symbolsChanged_of_symbols_ne path (listed ▸ listed' ▸ differ)
      exact ⟨e, List.mem_append_right _ he, by simpa using changed⟩
  | @field s f name place kind found below ih =>
    cases ht with
    | @field t g _ _ kind' found' below' =>
      obtain ⟨listed, rfl⟩ := Schema.of_field?_eq_some found
      rw [namedChanges_container c path (by rw [kind]; decide)] at ran
      obtain ⟨removed, -, ran⟩ := bind_eq_ok.mp ran
      obtain ⟨added, -, ran⟩ := bind_eq_ok.mp ran
      obtain ⟨changed, shared, ran⟩ := bind_eq_ok.mp ran
      obtain rfl := pure_eq_ok.mp ran
      obtain ⟨lists, walked, rfl⟩ := map_eq_ok.mp shared
      obtain ⟨both, listed, pairRan⟩ :=
        of_mapM_eq_ok walked _ (mem_sharedFields.mpr ⟨listed, found'⟩)
      obtain ⟨own, -, pairRan⟩ := bind_eq_ok.mp pairRan
      obtain ⟨nested, nestedRan, pairRan⟩ := bind_eq_ok.mp pairRan
      obtain rfl := pure_eq_ok.mp pairRan
      have matched : c.matchesNamed f.type g.type = true := by
        simp [matchesNamed, labels, below.kind_eq below']
      rw [nestedChanges_eq (Schema.unwrapNamed_named below.isNamed)
        (Schema.unwrapNamed_named below'.isNamed) matched] at nestedRan
      obtain ⟨e, he, changed⟩ := ih below' nestedRan
      refine ⟨e, List.mem_append_right _ (List.mem_flatten.mpr ⟨_, listed, ?_⟩), ?_⟩
      · exact List.mem_append_right _ he
      · simpa using changed

theorem Comparison.symbolsChanged_of_rootChanges {c : Comparison} (labels : c.byName = false)
    (hs : HasSymbolsAt symbols place s) (ht : HasSymbolsAt others place t)
    (differ : symbols ≠ others) :
    ∃ entries, c.rootChanges s t = .ok entries ∧
      ∃ e ∈ entries, e.kind = .symbolsChanged ∧ e.path = place := by
  have unnamed (u : Schema) : u.HasTextNames c.byName := by
    intro counts
    rw [labels] at counts
    cases counts
  have structured : s.kind.isStructured = true := Kind.isStructured_of_isNamed hs.isNamed
  have matched : c.rootChanges s t = c.namedChanges [] s t := by
    rw [rootChanges, if_neg (not_not.mpr (hs.kind_eq ht)), if_pos structured]
  obtain ⟨entries, ran⟩ := succeeds_rootChanges (unnamed s) (unnamed t)
  exact ⟨entries, ran, symbolsChanged_of_namedChanges labels hs ht differ (matched ▸ ran)⟩

end

namespace JsonSchema

/-! ### Reading schemas that differ in a list -/

section

variable {xs ys : List Json} {x y : Json} {members properties : List (String × Json)}
  {name key : String} {place path : Path} {s : Schema}

theorem DifferAt.symm (h : DifferAt xs ys place x y) : DifferAt ys xs place y x := by
  induction h with
  | own plain => exact .own plain
  | property object _ ih => exact .property object ih

theorem DifferAt.hasDistinctKeys (h : DifferAt xs ys place x y) (hx : x.hasDistinctKeys = true) :
    ∀ v ∈ xs, v.hasDistinctKeys = true := by
  induction h with
  | own _ =>
    have listed := Json.hasDistinctKeys_of_member? hx Json.member?_setMember_self
    exact Json.hasDistinctKeys_arr.mp listed
  | property _ _ ih =>
    have listed := Json.hasDistinctKeys_of_member? hx Json.member?_setMember_self
    exact ih (Json.hasDistinctKeys_of_member? listed Json.member?_setMember_self)

theorem setMember_ne_nil : Json.setMember members key x ≠ [] := by
  intro empty
  have found : Json.member? (Json.setMember members key x) key = some x :=
    Json.member?_setMember_self
  rw [empty] at found
  cases found

theorem schemaOf_setEnum (plain : Json.member? members "$ref" = none) :
    schemaOf (.obj (Json.setMember members "enum" (.arr xs))) path =
      .ok { kind := .enum, name := Json.memberOrNull members "title",
            documentation := Json.memberOrNull members "description",
            symbols := xs.map symbolOf } := by
  rw [schemaOf_obj]
  simp only [Json.member?_setMember_self, Json.memberOrNull,
    Json.member?_setMember_of_ne (show "enum" ≠ "$ref" by decide), plain,
    Json.member?_setMember_of_ne (show "enum" ≠ "title" by decide),
    Json.member?_setMember_of_ne (show "enum" ≠ "description" by decide)]

/-- An object type with properties is read property by property. -/
theorem schemaOf_setProperties (object : IsReadAsObject members) (listed : properties ≠ []) :
    schemaOf (.obj (Json.setMember members "properties" (.obj properties))) path = (do
      let required ← requiredNames (Json.member? members "required") path
      let fields ← fieldsOf properties required path
      let flag ← additionalFlag (Json.memberOrNull members "additionalProperties") path
      return { kind := .record, name := Json.memberOrNull members "title",
               documentation := Json.memberOrNull members "description", fields := fields,
               additionalProperties := flag }) := by
  have kept (key : String) (other : "properties" ≠ key) :
      Json.member? (Json.setMember members "properties" (.obj properties)) key =
        Json.member? members key := Json.member?_setMember_of_ne other
  have keptValue (key : String) (other : "properties" ≠ key) :
      Json.memberOrNull (Json.setMember members "properties" (.obj properties)) key =
        Json.memberOrNull members key := Json.memberOrNull_congr (kept key other)
  have byType : schemaOf (.obj (Json.setMember members "properties" (.obj properties))) path =
      objectOf (Json.setMember members "properties" (.obj properties)) path := by
    rw [schemaOf_obj]
    simp only [kept "$ref" (by decide), object.reference, kept "enum" (by decide),
      object.enum, kept "anyOf" (by decide), object.anyOf, kept "oneOf" (by decide),
      object.oneOf, keptValue "type" (by decide), Json.hasMember, Json.member?_setMember_self]
    obtain type | type := object.type
    · rw [type]
      rfl
    · rw [type]
      rfl
  rw [byType, objectOf_eq]
  simp only [Json.member?_setMember_self, kept "required" (by decide),
    keptValue "title" (by decide), keptValue "description" (by decide),
    keptValue "additionalProperties" (by decide), List.isEmpty_eq_false_iff.mpr listed]

/-- A field that is made of a property has its name and its type. -/
theorem propertyField_eq_ok {value : Json} {type : Schema} {required : List String} {f : Field}
    (h : propertyField name value type required = .ok f) : f.name = name ∧ f.type = type := by
  unfold propertyField at h
  split at h
  · cases h
  · obtain rfl := pure_eq_ok.mp h
    exact ⟨rfl, rfl⟩

/-- A field can be made of a property by its name alone. -/
theorem exists_propertyField {value : Json} {type : Schema} {required : List String} {f : Field}
    (h : propertyField name value type required = .ok f) (other : Json) (otherType : Schema) :
    ∃ g, propertyField name other otherType required = .ok g := by
  unfold propertyField at h ⊢
  split at h
  · cases h
  · rename_i named
    rw [if_neg named]
    exact ⟨_, rfl⟩

/-- If only one property changes and can still be read, all of them can, and the fields of that name
have the types that are read there. -/
theorem fieldsOf_setMember {R : Schema → Schema → Prop} {required : List String}
    {fields : List Field}
    (h : ∀ s, schemaOf x (path ++ [.name name]) = .ok s →
      ∃ t, schemaOf y (path ++ [.name name]) = .ok t ∧ R s t)
    (read : fieldsOf (Json.setMember properties name x) required path = .ok fields) :
    ∃ others f g, fieldsOf (Json.setMember properties name y) required path = .ok others ∧
      fields.find? (fun f => f.name == name) = some f ∧
      others.find? (fun f => f.name == name) = some g ∧ R f.type g.type := by
  -- The property that is set, with those that follow it.
  have here {rest : List (String × Json)} {fields : List Field}
      (read : fieldsOf ((name, x) :: rest) required path = .ok fields) :
      ∃ others f g, fieldsOf ((name, y) :: rest) required path = .ok others ∧
        fields.find? (fun f => f.name == name) = some f ∧
        others.find? (fun f => f.name == name) = some g ∧ R f.type g.type := by
    obtain ⟨s, f, more, hs, hf, hmore, rfl⟩ := fieldsOf_cons_eq_ok.mp read
    obtain ⟨t, ht, related⟩ := h s hs
    obtain ⟨g, hg⟩ := exists_propertyField hf y t
    have built := fieldsOf_cons_eq_ok.mpr ⟨t, g, more, ht, hg, hmore, rfl⟩
    obtain ⟨fName, rfl⟩ := propertyField_eq_ok hf
    obtain ⟨gName, rfl⟩ := propertyField_eq_ok hg
    refine ⟨g :: more, f, g, built, ?_, ?_, related⟩
    · exact List.find?_cons_of_pos (by simpa using fName)
    · exact List.find?_cons_of_pos (by simpa using gName)
  induction properties generalizing fields with
  | nil => exact here read
  | cons property rest ih =>
    obtain ⟨first, value⟩ := property
    rw [Json.setMember] at read
    rw [Json.setMember]
    split at read
    · rename_i same
      subst same
      rw [if_pos rfl]
      exact here read
    · rename_i other
      rw [if_neg other]
      obtain ⟨s, e, more, hs, he, hmore, rfl⟩ := fieldsOf_cons_eq_ok.mp read
      obtain ⟨others, f, g, built, hf, hg, related⟩ := ih hmore
      have skipped : (e.name == name) = false := by
        rw [(propertyField_eq_ok he).1]
        exact beq_false_of_ne other
      refine ⟨e :: others, f, g, ?_, ?_, ?_, related⟩
      · exact fieldsOf_cons_eq_ok.mpr ⟨s, e, others, hs, he, built, rfl⟩
      · rw [List.find?_cons, skipped]
        exact hf
      · rw [List.find?_cons, skipped]
        exact hg

/-- Two schemas that differ in a list of values are both read or both not, and their trees have the
symbols of the two lists at that place. -/
theorem DifferAt.schemaOf (h : DifferAt xs ys place x y) (read : schemaOf x path = .ok s) :
    ∃ t, JsonSchema.schemaOf y path = .ok t ∧ HasSymbolsAt (xs.map symbolOf) place s ∧
      HasSymbolsAt (ys.map symbolOf) place t := by
  induction h generalizing path s with
  | own plain =>
    rw [schemaOf_setEnum plain] at read
    cases read
    exact ⟨_, schemaOf_setEnum plain, .own rfl rfl, .own rfl rfl⟩
  | property object below ih =>
    rw [schemaOf_setProperties object setMember_ne_nil] at read
    rw [schemaOf_setProperties object setMember_ne_nil]
    obtain ⟨required, hr, read⟩ := bind_eq_ok.mp read
    obtain ⟨fields, hf, read⟩ := bind_eq_ok.mp read
    obtain ⟨flag, hflag, read⟩ := bind_eq_ok.mp read
    obtain rfl := pure_eq_ok.mp read
    obtain ⟨others, f, g, built, found, found', symbols, symbols'⟩ :=
      fieldsOf_setMember (fun s hs => ih hs) hf
    simp only [bind, Except.bind, hr, built, hflag]
    exact ⟨_, rfl, .field rfl found symbols, .field rfl found' symbols'⟩

/-- The dialect of a schema that changes in another member stays. -/
theorem declaredUri_setMember (other : key ≠ "$schema") :
    declaredUri (Json.setMember members key x) = declaredUri members := by
  unfold declaredUri
  rw [Json.memberOrNull_congr (Json.member?_setMember_of_ne other)]

/-- The documents of two schemas that differ in a list of values have the symbols of the two lists
at that place. -/
theorem DifferAt.ofJson {d : Document} (h : DifferAt xs ys place x y) (read : ofJson x = .ok d) :
    ∃ e, JsonSchema.ofJson y = .ok e ∧ (SchemaInput.document d).hasLabels = true ∧
      HasSymbolsAt (xs.map symbolOf) place d.root ∧ HasSymbolsAt (ys.map symbolOf) place e.root := by
  have whole {members others : List (String × Json)}
      (h : DifferAt xs ys place (.obj members) (.obj others))
      (uri : declaredUri others = declaredUri members)
      (read : JsonSchema.ofJson (.obj members) = .ok d) :
      ∃ e, JsonSchema.ofJson (.obj others) = .ok e ∧ (SchemaInput.document d).hasLabels = true ∧
        HasSymbolsAt (xs.map symbolOf) place d.root ∧
        HasSymbolsAt (ys.map symbolOf) place e.root := by
    obtain ⟨declared, hu, read⟩ := bind_eq_ok.mp read
    obtain ⟨root, hr, read⟩ := bind_eq_ok.mp read
    obtain rfl := pure_eq_ok.mp read
    obtain ⟨t, ht, symbols, symbols'⟩ := h.schemaOf hr
    refine ⟨{ format := .jsonSchema, root := t, schemaUri := declared }, ?_, rfl, symbols, symbols'⟩
    rw [JsonSchema.ofJson]
    simp only [bind, Except.bind, uri, hu, ht]
    rfl
  have uri (key : String) (other : key ≠ "$schema") (members : List (String × Json)) (v w : Json) :
      declaredUri (Json.setMember members key w) = declaredUri (Json.setMember members key v) := by
    rw [declaredUri_setMember other, declaredUri_setMember other]
  cases h with
  | own plain => exact whole (.own plain) (uri _ (by decide) _ _ _) read
  | property object below => exact whole (.property object below) (uri _ (by decide) _ _ _) read

end

end JsonSchema

open JsonSchema in
/-- If the values that a schema enumerates change, as a whole or for one property, the other schema
is read, too, its symbols at that place are others, and a comparison reports them in every mode. The
only changes that are not reported replace values by the texts that are printed for them or such
texts by the values. -/
theorem diff_reports_enumChange {before after : String} {x y : Json} {xs ys : List Json}
    {place : Path} {d : Document} (spelledBefore : jsonOfSchemaText before = .ok x)
    (spelledAfter : jsonOfSchemaText after = .ok y) (differ : DifferAt xs ys place x y)
    (changed : ¬HoldSameValues xs ys) (apart : ¬IsReprint xs ys)
    (parsed : parse before .jsonSchema = .ok d) :
    ∃ e, parse after .jsonSchema = .ok e ∧
      HasSymbolsAt (xs.map symbolOf) place d.root ∧ HasSymbolsAt (ys.map symbolOf) place e.root ∧
      xs.map symbolOf ≠ ys.map symbolOf ∧
      ∀ mode, ∃ entries, diff (.document d) (.document e) mode = .ok entries ∧
        ∃ entry ∈ entries, entry.kind = .symbolsChanged ∧ entry.path = place := by
  rw [parse_jsonSchema spelledBefore] at parsed
  obtain ⟨e, parsed', labelled, symbols, symbols'⟩ := differ.ofJson parsed
  have distinct := Json.hasDistinctKeys_of_ofText (jsonOfSchemaText_eq_ok.mp spelledBefore)
  have distinct' := Json.hasDistinctKeys_of_ofText (jsonOfSchemaText_eq_ok.mp spelledAfter)
  have others := map_symbolOf_ne (differ.hasDistinctKeys distinct)
    (differ.symm.hasDistinctKeys distinct') changed apart
  refine ⟨e, (parse_jsonSchema spelledAfter).trans parsed', symbols, symbols', others,
    fun mode => ?_⟩
  have labels : (!((SchemaInput.document d).hasLabels || (SchemaInput.document e).hasLabels)) =
      false := by
    rw [labelled]
    rfl
  exact Comparison.symbolsChanged_of_rootChanges labels symbols symbols' others

/-- The schema of things that have one of some sizes. -/
def sizedJson (sizes : List Json) : Json :=
  .obj [("properties", .obj [("size", .obj [("enum", .arr sizes)])])]

def twoSizesText : String :=
  "\x7b\"properties\":\x7b\"size\":\x7b\"enum\":[null,\"L\"]\x7d\x7d\x7d"

def threeSizesText : String :=
  "\x7b\"properties\":\x7b\"size\":\x7b\"enum\":[null,\"L\",true]\x7d\x7d\x7d"

open JsonSchema in
theorem diff_reports_enumChange_sizes :
    ∃ d e, parse twoSizesText .jsonSchema = .ok d ∧ parse threeSizesText .jsonSchema = .ok e ∧
      HasSymbolsAt ["null", "L"] [.name "size"] d.root ∧
      HasSymbolsAt ["null", "L", "true"] [.name "size"] e.root ∧
      ∃ entries, diff (.document d) (.document e) .backward = .ok entries ∧
        ∃ entry ∈ entries, entry.kind = .symbolsChanged ∧ entry.path = [.name "size"] := by
  have before : jsonOfSchemaText twoSizesText = .ok (sizedJson [.null, .str "L"]) :=
    jsonOfSchemaText_eq_ok.mpr (Json.ofText_of_spelled rfl (by cbv))
  have after : jsonOfSchemaText threeSizesText = .ok (sizedJson [.null, .str "L", .bool true]) :=
    jsonOfSchemaText_eq_ok.mpr (Json.ofText_of_spelled rfl (by cbv))
  have differ : DifferAt [.null, .str "L"] [.null, .str "L", .bool true] [.name "size"]
      (sizedJson [.null, .str "L"]) (sizedJson [.null, .str "L", .bool true]) := by
    have object : IsReadAsObject [] := ⟨⟨rfl, rfl, rfl, rfl⟩, .inr rfl⟩
    exact @DifferAt.property _ _ [] [] "size" [] _ _ object (@DifferAt.own _ _ [] rfl)
  have changed : ¬HoldSameValues [.null, .str "L"] [.null, .str "L", .bool true] := by
    unfold HoldSameValues
    decide
  have apart : ¬IsReprint [.null, .str "L"] [.null, .str "L", .bool true] := by
    intro reprint
    cases reprint.alike.length_eq
  obtain ⟨d, made⟩ : ∃ d, parse twoSizesText .jsonSchema = .ok d := by
    rw [parse_jsonSchema before]
    exact ⟨_, by cbv⟩
  obtain ⟨e, made', symbols, symbols', -, reported⟩ :=
    diff_reports_enumChange before after differ changed apart made
  exact ⟨d, e, made, made', symbols, symbols', reported .backward⟩

/-- The schema of nothing but the absent value. -/
def absenceText : String := "\x7b\"enum\":[null]\x7d"

/-- The schema of nothing but the text that is printed for the absent value. -/
def printedAbsenceText : String := "\x7b\"enum\":[\"null\"]\x7d"

open JsonSchema in
/-- An absent value that becomes the text that is printed for it leaves no trace. -/
theorem enumChange_unreported_of_print :
    ∃ x y d e, jsonOfSchemaText absenceText = .ok x ∧ jsonOfSchemaText printedAbsenceText = .ok y ∧
      DifferAt [.null] [.str "null"] [] x y ∧ ¬HoldSameValues [.null] [.str "null"] ∧
      parse absenceText .jsonSchema = .ok d ∧ parse printedAbsenceText .jsonSchema = .ok e ∧
      HasSymbolsAt ["null"] [] d.root ∧ HasSymbolsAt ["null"] [] e.root ∧
      ∀ mode, diff (.document d) (.document e) mode = .ok [] := by
  have before : jsonOfSchemaText absenceText = .ok (.obj [("enum", .arr [.null])]) :=
    jsonOfSchemaText_eq_ok.mpr (Json.ofText_of_spelled rfl (by cbv))
  have after : jsonOfSchemaText printedAbsenceText = .ok (.obj [("enum", .arr [.str "null"])]) :=
    jsonOfSchemaText_eq_ok.mpr (Json.ofText_of_spelled rfl (by cbv))
  have made : ofJson (.obj [("enum", .arr [.null])]) =
      .ok { format := .jsonSchema, root := { kind := .enum, symbols := ["null"] } } := by cbv
  have made' : ofJson (.obj [("enum", .arr [.str "null"])]) =
      .ok { format := .jsonSchema, root := { kind := .enum, symbols := ["null"] } } := by cbv
  have changed : ¬HoldSameValues [.null] [.str "null"] := by
    unfold HoldSameValues
    decide
  refine ⟨_, _, _, _, before, after, @DifferAt.own _ _ [] rfl, changed,
    (parse_jsonSchema before).trans made, (parse_jsonSchema after).trans made', .own rfl rfl,
    .own rfl rfl, fun mode => ?_⟩
  cbv

end SchemaReview
