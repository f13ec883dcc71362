import SchemaReview.Proofs.Json.MemberOrder
import SchemaReview.Schema.Fingerprint

/-!
# What is hashed of a tree

The payload of a tree is an object with one member for each attribute that is present. Trees are
alike if their payloads differ in the order of members at most. The attributes of such trees are
equal where they are texts or numbers, differ in the order of members where they are values, and
hold alike trees where they hold trees.
-/
namespace SchemaReview

theorem Kind.text_injective : Function.Injective Kind.text := by
  intro a b h
  have named (k : Kind) : Kind.ofText? k.text = some k := by
    cases k <;> rfl
  exact Option.some.inj (by rw [← named a, h, named b])

namespace Json

/-- A list that counts as absent when it is empty. -/
def ofList {α : Type} (toJson : α → Json) (xs : List α) : Json :=
  if xs.isEmpty then .null else .arr (xs.map toJson)

/-- The members of an object whose value is present. -/
def presentMembers (members : List (String × Json)) : List (String × Json) :=
  members.flatMap fun entry => present entry.1 entry.2

theorem memberOrNull_presentMembers {members : List (String × Json)}
    (distinct : (members.map Prod.fst).Nodup) (key : String) :
    memberOrNull (presentMembers members) key = memberOrNull members key := by
  induction members with
  | nil => rfl
  | cons entry rest ih =>
    obtain ⟨k, value⟩ := entry
    rw [List.map_cons, List.nodup_cons] at distinct
    have others := ih distinct.2
    unfold presentMembers at others ⊢
    rw [List.flatMap_cons]
    by_cases absent : value = .null
    · subst absent
      rw [present_null, List.nil_append, others]
      unfold memberOrNull
      rw [member?_cons]
      split
      · rename_i same
        have missing : member? rest key = none := by
          refine member?_eq_none fun other ho named => distinct.1 ?_
          rw [same, ← named]
          exact List.mem_map.mpr ⟨other, ho, rfl⟩
        rw [missing]
        rfl
      · rfl
    · rw [present_of_ne_null absent, List.singleton_append]
      unfold memberOrNull at others ⊢
      rw [member?_cons, member?_cons]
      split
      · rfl
      · exact others

theorem nodup_presentMembers {members : List (String × Json)}
    (distinct : (members.map Prod.fst).Nodup) :
    ((presentMembers members).map Prod.fst).Nodup := by
  refine List.Nodup.sublist ?_ distinct
  refine List.Sublist.map _ ?_
  induction members with
  | nil => exact List.Sublist.refl _
  | cons entry rest ih =>
    have others := ih (List.nodup_cons.mp distinct).2
    unfold presentMembers at others ⊢
    rw [List.flatMap_cons]
    unfold present
    split
    · exact others.trans (List.sublist_cons_self _ _)
    · exact others.cons_cons _

section

variable {α : Type} {toJson : α → Json}

theorem rel_of_sorted_ofOption {a b : Option α} (given : ∀ x, (toJson x).sorted ≠ .null)
    (h : (ofOption toJson a).sorted = (ofOption toJson b).sorted) :
    Option.Rel (fun x y => (toJson x).sorted = (toJson y).sorted) a b := by
  cases a with
  | none =>
    cases b with
    | none => exact .none
    | some y => exact (given y h.symm).elim
  | some x =>
    cases b with
    | none => exact (given x h).elim
    | some y => exact .some h

theorem forall₂_of_sorted_ofList {xs ys : List α}
    (h : (ofList toJson xs).sorted = (ofList toJson ys).sorted) :
    List.Forall₂ (fun x y => (toJson x).sorted = (toJson y).sorted) xs ys := by
  have items (zs : List α) (value : Json) (hz : (ofList toJson zs).sorted = value) :
      value = .null ∧ zs = [] ∨
        value = .arr (zs.map fun z => (toJson z).sorted) ∧ zs ≠ [] := by
    subst hz
    unfold ofList
    cases zs with
    | nil => exact .inl ⟨rfl, rfl⟩
    | cons z rest =>
      refine .inr ⟨?_, List.cons_ne_nil _ _⟩
      rw [List.isEmpty_cons, if_neg Bool.false_ne_true, sorted_arr, List.map_map]
      rfl
  obtain ⟨left, rfl⟩ | ⟨left, some⟩ := items xs _ h
  · obtain ⟨-, rfl⟩ | ⟨right, -⟩ := items ys _ rfl
    · exact .nil
    · rw [left] at right
      cases right
  · obtain ⟨right, -⟩ | ⟨right, -⟩ := items ys _ rfl
    · rw [left] at right
      cases right
    · rw [left] at right
      have same := arr.inj right
      rw [← List.forall₂_eq_eq_eq, List.forall₂_map_left_iff, List.forall₂_map_right_iff] at same
      exact same

/-- Whether a way to write plain values tells them apart. -/
structure IsPlain (toJson : α → Json) : Prop where
  given : ∀ x, (toJson x).sorted ≠ .null
  apart : ∀ x y, (toJson x).sorted = (toJson y).sorted → x = y

theorem isPlain_str : IsPlain str where
  given x h := by cases h
  apart x y h := str.inj h

theorem isPlain_int : IsPlain int where
  given x h := by cases h
  apart x y h := int.inj h

theorem isPlain_bool : IsPlain bool where
  given x h := by cases h
  apart x y h := bool.inj h

theorem IsPlain.eq_of_ofOption (plain : IsPlain toJson) {a b : Option α}
    (h : (ofOption toJson a).sorted = (ofOption toJson b).sorted) : a = b := by
  cases rel_of_sorted_ofOption plain.given h with
  | none => rfl
  | some same => rw [plain.apart _ _ same]

theorem IsPlain.eq_of_ofList (plain : IsPlain toJson) {xs ys : List α}
    (h : (ofList toJson xs).sorted = (ofList toJson ys).sorted) : xs = ys := by
  rw [← List.forall₂_eq_eq_eq]
  exact (forall₂_of_sorted_ofList h).imp plain.apart

end

end Json

namespace Schema

/-- The attributes of a node with the names under which they are hashed. -/
def attributes (s : Schema) : List (String × Json) :=
  [("kind", .str s.kind.text), ("name", s.name), ("namespace", Json.ofOption .str s.qualifier),
    ("documentation", s.documentation), ("type_name", Json.ofOption .str s.typeName),
    ("logical_type", s.logicalType), ("size", Json.ofOption .int s.size),
    ("additional_properties", Json.ofOption .bool s.additionalProperties),
    ("symbols", Json.ofList .str s.symbols), ("symbol_values", Json.ofList .int s.symbolValues),
    ("items", Json.ofOption payload s.items), ("values", Json.ofOption payload s.values),
    ("members", Json.ofList payload s.members), ("fields", Json.ofList fieldPayload s.fields)]

theorem nodup_attributes (s : Schema) : (s.attributes.map Prod.fst).Nodup := by
  have names : s.attributes.map Prod.fst = ["kind", "name", "namespace", "documentation",
      "type_name", "logical_type", "size", "additional_properties", "symbols", "symbol_values",
      "items", "values", "members", "fields"] := rfl
  rw [names]
  decide

theorem memberPayloads_eq (members : List Schema) : memberPayloads members = members.map payload := by
  induction members with
  | nil => rfl
  | cons m rest ih => rw [memberPayloads, ih, List.map_cons]

theorem fieldPayloads_eq (fields : List Field) : fieldPayloads fields = fields.map fieldPayload := by
  induction fields with
  | nil => rfl
  | cons f rest ih => rw [fieldPayloads, ih, List.map_cons]

theorem isNull_payload (s : Schema) : s.payload.isNull = false := by
  cases s
  rw [payload]
  rfl

theorem sorted_payload_ne_null (s : Schema) : s.payload.sorted ≠ .null := by
  cases s
  rw [payload, Json.sorted_obj]
  nofun

theorem present_ofList {α : Type} (toJson : α → Json) (key : String) (xs : List α) :
    Json.present key (Json.ofList toJson xs) =
      if xs.isEmpty then [] else [(key, .arr (xs.map toJson))] := by
  cases xs <;> rfl

theorem present_ofOption_payload (key : String) (inner : Option Schema) :
    Json.present key (Json.ofOption payload inner) = innerPayload key inner := by
  cases inner with
  | none => rfl
  | some i =>
    rw [Json.ofOption, Json.present, isNull_payload, innerPayload]
    rfl

/-- What is hashed are the attributes that are present. -/
theorem payload_eq (s : Schema) : s.payload = .obj (Json.presentMembers s.attributes) := by
  cases s
  rw [payload]
  simp only [memberPayloads_eq, fieldPayloads_eq, ← present_ofOption_payload, ← present_ofList]
  simp only [Json.presentMembers, attributes, List.flatMap_cons, List.flatMap_nil, List.append_assoc,
    List.append_nil]
  rfl

/-- Whether the payloads of two trees differ in the order of members at most. -/
def IsAlike (s t : Schema) : Prop := s.payload.sorted = t.payload.sorted

/-- Trees with one text to hash are alike. -/
theorem isAlike_of_payloadText_eq {s t : Schema} (hs : s.payload.hasDistinctKeys = true)
    (ht : t.payload.hasDistinctKeys = true) (same : s.payloadText = t.payloadText) :
    s.IsAlike t :=
  Json.sorted_eq_of_write_eq Json.isOrdered_canonical hs ht same

theorem IsAlike.payloadText {s t : Schema} (h : s.IsAlike t) : s.payloadText = t.payloadText :=
  Json.write_eq_of_sorted_eq Json.isOrdered_canonical h

end Schema

/-- Whether what is hashed of two fields differs in the order of members at most. -/
def FieldOf.IsAlike (f g : Field) : Prop :=
  (Schema.fieldPayload f).sorted = (Schema.fieldPayload g).sorted

namespace Schema.IsAlike

variable {s t : Schema}

/-- Under each name, alike trees have values that differ in the order of members at most. -/
theorem under (h : s.IsAlike t) (key : String) :
    (Json.memberOrNull s.attributes key).sorted = (Json.memberOrNull t.attributes key).sorted := by
  unfold IsAlike at h
  rw [payload_eq, payload_eq] at h
  have found := Json.memberOrNull_of_sorted_eq (Json.nodup_presentMembers s.nodup_attributes) h key
  rwa [Json.memberOrNull_presentMembers s.nodup_attributes,
    Json.memberOrNull_presentMembers t.nodup_attributes] at found

theorem kind (h : s.IsAlike t) : s.kind = t.kind :=
  Kind.text_injective (Json.str.inj (h.under "kind"))

theorem name (h : s.IsAlike t) : s.name.sorted = t.name.sorted := h.under "name"

theorem documentation (h : s.IsAlike t) : s.documentation.sorted = t.documentation.sorted :=
  h.under "documentation"

theorem logicalType (h : s.IsAlike t) : s.logicalType.sorted = t.logicalType.sorted :=
  h.under "logical_type"

theorem qualifier (h : s.IsAlike t) : s.qualifier = t.qualifier :=
  Json.isPlain_str.eq_of_ofOption (h.under "namespace")

theorem typeName (h : s.IsAlike t) : s.typeName = t.typeName :=
  Json.isPlain_str.eq_of_ofOption (h.under "type_name")

theorem size (h : s.IsAlike t) : s.size = t.size :=
  Json.isPlain_int.eq_of_ofOption (h.under "size")

theorem additionalProperties (h : s.IsAlike t) :
    s.additionalProperties = t.additionalProperties :=
  Json.isPlain_bool.eq_of_ofOption (h.under "additional_properties")

theorem symbols (h : s.IsAlike t) : s.symbols = t.symbols :=
  Json.isPlain_str.eq_of_ofList (h.under "symbols")

theorem symbolValues (h : s.IsAlike t) : s.symbolValues = t.symbolValues :=
  Json.isPlain_int.eq_of_ofList (h.under "symbol_values")

theorem items (h : s.IsAlike t) : Option.Rel IsAlike s.items t.items :=
  Json.rel_of_sorted_ofOption sorted_payload_ne_null (h.under "items")

theorem values (h : s.IsAlike t) : Option.Rel IsAlike s.values t.values :=
  Json.rel_of_sorted_ofOption sorted_payload_ne_null (h.under "values")

theorem members (h : s.IsAlike t) : List.Forall₂ IsAlike s.members t.members :=
  Json.forall₂_of_sorted_ofList (h.under "members")

theorem fields (h : s.IsAlike t) : List.Forall₂ FieldOf.IsAlike s.fields t.fields :=
  Json.forall₂_of_sorted_ofList (h.under "fields")

end Schema.IsAlike

namespace FieldOf

/-- The attributes of a field with the names under which they are hashed. -/
def attributes (f : Field) : List (String × Json) :=
  [("name", .str f.name), ("type", f.type.payload), ("doc", f.documentation),
    ("has_default", .bool f.hasDefault), ("default", f.default), ("tag", Json.ofOption .int f.tag),
    ("label", Json.ofOption .str f.label)]

theorem nodup_attributes (f : Field) : (f.attributes.map Prod.fst).Nodup := by
  have names : f.attributes.map Prod.fst =
      ["name", "type", "doc", "has_default", "default", "tag", "label"] := rfl
  rw [names]
  decide

theorem fieldPayload_eq (f : Field) : Schema.fieldPayload f = .obj f.attributes := by
  cases f
  rw [Schema.fieldPayload]
  rfl

namespace IsAlike

variable {f g : Field}

theorem under (h : f.IsAlike g) (key : String) :
    (Json.memberOrNull f.attributes key).sorted = (Json.memberOrNull g.attributes key).sorted := by
  unfold IsAlike at h
  rw [fieldPayload_eq, fieldPayload_eq] at h
  exact Json.memberOrNull_of_sorted_eq f.nodup_attributes h key

theorem name (h : f.IsAlike g) : f.name = g.name := Json.str.inj (h.under "name")

theorem type (h : f.IsAlike g) : f.type.IsAlike g.type := h.under "type"

theorem documentation (h : f.IsAlike g) : f.documentation.sorted = g.documentation.sorted :=
  h.under "doc"

theorem hasDefault (h : f.IsAlike g) : f.hasDefault = g.hasDefault :=
  Json.bool.inj (h.under "has_default")

theorem default (h : f.IsAlike g) : f.default.sorted = g.default.sorted := h.under "default"

theorem tag (h : f.IsAlike g) : f.tag = g.tag :=
  Json.isPlain_int.eq_of_ofOption (h.under "tag")

theorem label (h : f.IsAlike g) : f.label = g.label :=
  Json.isPlain_str.eq_of_ofOption (h.under "label")

end IsAlike

end FieldOf
end SchemaReview
