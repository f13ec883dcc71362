import SchemaReview.Proofs.Json.MemberOrder
import SchemaReview.Proofs.Json.Transitivity
import SchemaReview.Proofs.Schema.Nodes
import SchemaReview.Proofs.Schema.Payload

/-!
# The payload determines the tree

Agreement of two values takes a whole number, a floating-point number and a boolean for three
different things and leaves the order of members open; what makes two floating-point numbers agree
is a parameter. Where it is identity, values agree exactly if they are one value once their members
are in order.

Trees agree if their nodes have the same attributes, where values that were taken from a text agree
and the text that a field was read from does not count. Two trees have one text to hash exactly if
they agree, with floating-point numbers compared as they are: the text leaves out what is absent or
empty, but nothing that is present. Equality of numbers does not do in the place of identity, since
the two zeros are equal and are written apart.
-/
namespace SchemaReview

/-! ### Values that agree -/

namespace Binary64

variable {x y : Binary64}

theorem eqInt_zero : x.eqInt 0 = true ↔ ∃ negative, x = zero negative := by
  constructor
  · intro h
    obtain ⟨negative, e, f, rfl⟩ := exists_finite_of_eqInt h
    have none : significand e f = 0 := by
      by_contra some
      have positive := scaledNum_pos (Nat.pos_of_ne_zero some) (scale e)
      rw [eqInt_finite] at h
      split at h <;> omega
    obtain ⟨rfl, rfl⟩ := Json.significand_eq_zero none
    exact ⟨negative, rfl⟩
  · rintro ⟨negative, rfl⟩
    cases negative <;> decide

/-- Whether two numbers are equal, not a number being equal to itself. -/
def IsSame (x y : Binary64) : Prop := (Json.Number.float x).same (.float y) = true

theorem isSame_iff : x.IsSame y ↔ x = y ∨ ∃ s t, x = zero s ∧ y = zero t := by
  unfold IsSame
  by_cases number : x = nan
  · subst number
    cases y <;> simp [Json.Number.same, Json.Number.eq, numEq, zero]
  · have same : (Json.Number.float x).same (.float y) = x.numEq y := by
      cases x with
      | nan => exact absurd rfl number
      | _ => rfl
    rw [same, numEq_iff, eqInt_zero, eqInt_zero]
    constructor
    · rintro ⟨-, rfl | ⟨⟨s, rfl⟩, t, rfl⟩⟩
      · exact .inl rfl
      · exact .inr ⟨s, t, rfl, rfl⟩
    · rintro (rfl | ⟨s, t, rfl, rfl⟩)
      · exact ⟨number, .inl rfl⟩
      · exact ⟨number, .inr ⟨⟨s, rfl⟩, t, rfl⟩⟩

end Binary64

namespace Json

mutual

/-- Whether two values hold the same, in any order of members, with numbers of different types kept
apart and floating-point numbers compared by `E`. -/
inductive Agree (E : Binary64 → Binary64 → Prop) : Json → Json → Prop
  | null : Agree E .null .null
  | bool (b : Bool) : Agree E (.bool b) (.bool b)
  | int (n : Int) : Agree E (.int n) (.int n)
  | float {x y} (numbers : E x y) : Agree E (.float x) (.float y)
  | str (s : String) : Agree E (.str s) (.str s)
  | arr {xs ys} (items : List.Forall₂ (Agree E) xs ys) : Agree E (.arr xs) (.arr ys)
  | obj {xs ys zs} (members : List.Forall₂ (MembersAgree E) xs zs) (order : zs.Perm ys) :
      Agree E (.obj xs) (.obj ys)

/-- Whether two members have one key and values that hold the same. -/
inductive MembersAgree (E : Binary64 → Binary64 → Prop) : String × Json → String × Json → Prop
  | mk {key v w} (value : Agree E v w) : MembersAgree E (key, v) (key, w)

end

theorem sizeOf_snd_lt_of_mem {members : List (String × Json)} {entry : String × Json}
    (h : entry ∈ members) : sizeOf entry.2 < sizeOf members := by
  have listed : sizeOf entry < sizeOf members := List.sizeOf_lt_of_mem h
  obtain ⟨key, value⟩ := entry
  rw [Prod.mk.sizeOf_spec] at listed
  dsimp only
  omega

/-- Members with distinct keys have one order. -/
theorem inKeyOrder_perm {xs ys : List (String × Json)} (distinct : (xs.map Prod.fst).Nodup)
    (perm : xs.Perm ys) : inKeyOrder xs = inKeyOrder ys := by
  have ascending (members : List (String × Json)) :
      (inKeyOrder members).Pairwise fun a b => a.1 ≤ b.1 := by
    have sorted := @List.pairwise_mergeSort _ (fun a b : String × Json => a.1 ≤ b.1)
      (fun a b c hab hbc => by
        rw [decide_eq_true_iff] at *
        exact hab.trans hbc)
      (fun a b => by
        rw [Bool.or_eq_true, decide_eq_true_iff, decide_eq_true_iff]
        exact le_total _ _) members
    exact sorted.imp fun h => of_decide_eq_true h
  have toFirst : (inKeyOrder xs).Perm xs := List.mergeSort_perm ..
  have toSecond : (inKeyOrder ys).Perm ys := List.mergeSort_perm ..
  refine List.Perm.eq_of_pairwise ?_ (ascending xs) (ascending ys)
    (toFirst.trans (perm.trans toSecond.symm))
  intro a b ha hb hab hba
  have listed := toFirst.mem_iff.mp ha
  have also := perm.mem_iff.mpr (toSecond.mem_iff.mp hb)
  exact List.inj_on_of_nodup_map distinct listed also (hab.antisymm hba)

/-- Values that are one value in order agree, with floating-point numbers compared as they are. -/
theorem agree_of_sorted_eq {v w : Json} (h : v.sorted = w.sorted) : Agree Eq v w := by
  match v with
  | .null | .bool _ | .int _ | .float _ | .str _ =>
    obtain rfl := eq_of_sorted_eq_of_ne (by simp) (by simp) h
    constructor <;> rfl
  | .arr xs =>
    cases w with
    | arr ys =>
      rw [sorted_arr, sorted_arr, arr.injEq, ← List.forall₂_eq_eq_eq, List.forall₂_map_left_iff,
        List.forall₂_map_right_iff] at h
      refine .arr (forall₂_of_mem h fun x hx y _ same => ?_)
      have : sizeOf x < sizeOf xs := List.sizeOf_lt_of_mem hx
      exact agree_of_sorted_eq same
    | _ => rw [sorted_arr] at h; cases h
  | .obj xs =>
    cases w with
    | obj ys =>
      have perm := perm_of_sorted_eq h
      obtain ⟨zs, same, order⟩ :
          Relation.Comp (fun us zs => us = List.map sortedMember zs) List.Perm
            (xs.map sortedMember) ys := by
        rw [List.eq_map_comp_perm]
        exact perm
      rw [← List.forall₂_eq_eq_eq, List.forall₂_map_left_iff, List.forall₂_map_right_iff] at same
      refine .obj (forall₂_of_mem same ?_) order
      rintro ⟨key, value⟩ hx ⟨other, held⟩ - alike
      have : sizeOf value < sizeOf xs := sizeOf_snd_lt_of_mem hx
      obtain ⟨rfl, values⟩ := Prod.mk.inj alike
      exact .mk (agree_of_sorted_eq values)
    | _ => rw [sorted_obj] at h; cases h
termination_by sizeOf v

/-- Values that agree, with floating-point numbers compared as they are, are one value in order. -/
theorem sorted_eq_of_agree {v w : Json} (distinct : v.hasDistinctKeys = true) (h : Agree Eq v w) :
    v.sorted = w.sorted := by
  match h with
  | .null | .bool _ | .int _ | .str _ => rfl
  | .float numbers => rw [numbers]
  | @Agree.arr _ xs ys items =>
    rw [hasDistinctKeys_arr] at distinct
    rw [sorted_arr, sorted_arr, arr.injEq, ← List.forall₂_eq_eq_eq, List.forall₂_map_left_iff,
      List.forall₂_map_right_iff]
    refine forall₂_of_mem items fun x hx y _ agree => ?_
    have : sizeOf x < sizeOf xs := List.sizeOf_lt_of_mem hx
    exact sorted_eq_of_agree (distinct x hx) agree
  | @Agree.obj _ xs ys zs members order =>
    rw [hasDistinctKeys_obj] at distinct
    have same : xs.map sortedMember = zs.map sortedMember := by
      rw [← List.forall₂_eq_eq_eq, List.forall₂_map_left_iff, List.forall₂_map_right_iff]
      refine forall₂_of_mem members ?_
      rintro ⟨key, value⟩ hx _ - ⟨agree⟩
      have : sizeOf value < sizeOf xs := sizeOf_snd_lt_of_mem hx
      rw [sortedMember, sortedMember, sorted_eq_of_agree (distinct.2 _ hx) agree]
    have keys : (zs.map Prod.fst).Nodup := by
      rw [← map_fst_sortedMember, ← same, map_fst_sortedMember]
      exact distinct.1
    rw [sorted_obj, sorted_obj, ← inKeyOrder_map_sortedMember, same, inKeyOrder_map_sortedMember,
      inKeyOrder_perm keys order]
termination_by sizeOf v

end Json

/-! ### Trees that agree -/

mutual

/-- Whether two trees hold the same, where values that hold the same may be written in different
orders of members, and floating-point numbers are compared by `E`. -/
inductive Schema.Agree (E : Binary64 → Binary64 → Prop) : Schema → Schema → Prop
  | mk {s t : Schema} (name : Json.Agree E s.name t.name)
    (documentation : Json.Agree E s.documentation t.documentation)
    (logicalType : Json.Agree E s.logicalType t.logicalType)
    (fields : List.Forall₂ (FieldOf.Agree E) s.fields t.fields)
    (items : Option.Rel (Schema.Agree E) s.items t.items)
    (values : Option.Rel (Schema.Agree E) s.values t.values)
    (members : List.Forall₂ (Schema.Agree E) s.members t.members)
    (rest : t = { s with
      name := t.name, documentation := t.documentation, logicalType := t.logicalType,
      fields := t.fields, items := t.items, values := t.values, members := t.members }) :
    Schema.Agree E s t

/-- Whether two fields hold the same, whatever text they were read from. -/
inductive FieldOf.Agree (E : Binary64 → Binary64 → Prop) : Field → Field → Prop
  | mk {f g : Field} (type : Schema.Agree E f.type g.type)
    (documentation : Json.Agree E f.documentation g.documentation)
    (default : Json.Agree E f.default g.default)
    (rest : g = { f with
      type := g.type, documentation := g.documentation, default := g.default, raw := g.raw }) :
    FieldOf.Agree E f g

end

mutual

/-- Whether no object among the attributes and defaults of a tree names a member twice, as no JSON
value does. -/
inductive Schema.HoldsValues : Schema → Prop
  | mk {s : Schema} (name : s.name.hasDistinctKeys = true)
    (documentation : s.documentation.hasDistinctKeys = true)
    (logicalType : s.logicalType.hasDistinctKeys = true)
    (fields : ∀ f ∈ s.fields, FieldOf.HoldsValues f)
    (items : ∀ i ∈ s.items, Schema.HoldsValues i)
    (values : ∀ v ∈ s.values, Schema.HoldsValues v)
    (members : ∀ m ∈ s.members, Schema.HoldsValues m) : Schema.HoldsValues s

inductive FieldOf.HoldsValues : Field → Prop
  | mk {f : Field} (type : Schema.HoldsValues f.type)
    (documentation : f.documentation.hasDistinctKeys = true)
    (default : f.default.hasDistinctKeys = true) : FieldOf.HoldsValues f

end

namespace Json

theorem hasDistinctKeys_presentMembers {members : List (String × Json)}
    (distinct : (members.map Prod.fst).Nodup)
    (values : ∀ entry ∈ members, entry.2.hasDistinctKeys = true) :
    (obj (presentMembers members)).hasDistinctKeys = true := by
  refine hasDistinctKeys_obj.mpr ⟨nodup_presentMembers distinct, fun entry he => ?_⟩
  obtain ⟨source, listed, present⟩ := List.mem_flatMap.mp he
  unfold Json.present at present
  split at present
  · cases present
  · rw [List.mem_singleton.mp present]
    exact values source listed

theorem hasDistinctKeys_ofOption {α : Type} {toJson : α → Json} {a : Option α}
    (h : ∀ x ∈ a, (toJson x).hasDistinctKeys = true) :
    (ofOption toJson a).hasDistinctKeys = true := by
  cases a with
  | none => rfl
  | some x => exact h x rfl

theorem hasDistinctKeys_ofList {α : Type} {toJson : α → Json} {xs : List α}
    (h : ∀ x ∈ xs, (toJson x).hasDistinctKeys = true) :
    (ofList toJson xs).hasDistinctKeys = true := by
  unfold ofList
  split
  · rfl
  · refine hasDistinctKeys_arr.mpr fun value hv => ?_
    obtain ⟨x, hx, rfl⟩ := List.mem_map.mp hv
    exact h x hx

theorem isNull_of_sorted_eq {v w : Json} (h : v.sorted = w.sorted) : v.isNull = w.isNull := by
  rw [Bool.eq_iff_iff, isNull_iff, isNull_iff]
  constructor
  · rintro rfl
    exact (eq_of_sorted_eq_of_ne (by simp) (by simp) h).symm
  · rintro rfl
    exact (eq_of_sorted_eq_of_ne (by simp) (by simp) h.symm).symm

/-- Whether two members have one key and values that are one value in order. -/
def IsSameMember (a b : String × Json) : Prop := a.1 = b.1 ∧ a.2.sorted = b.2.sorted

theorem sorted_obj_of_forall₂ {xs ys : List (String × Json)} (h : List.Forall₂ IsSameMember xs ys) :
    (obj xs).sorted = (obj ys).sorted := by
  have same : xs.map sortedMember = ys.map sortedMember := by
    rw [← List.forall₂_eq_eq_eq, List.forall₂_map_left_iff, List.forall₂_map_right_iff]
    refine h.imp fun a b alike => ?_
    rw [sortedMember, sortedMember, alike.1, alike.2]
  rw [sorted_obj, sorted_obj, ← inKeyOrder_map_sortedMember, same, inKeyOrder_map_sortedMember]

theorem forall₂_presentMembers {xs ys : List (String × Json)}
    (h : List.Forall₂ IsSameMember xs ys) :
    List.Forall₂ IsSameMember (presentMembers xs) (presentMembers ys) := by
  induction h with
  | nil => exact .nil
  | @cons a b xs ys first _ ih =>
    unfold presentMembers at ih ⊢
    rw [List.flatMap_cons, List.flatMap_cons]
    unfold present
    rw [isNull_of_sorted_eq first.2]
    split
    · exact ih
    · exact .cons first ih

theorem sorted_ofOption {α : Type} {toJson : α → Json} {a b : Option α}
    (h : Option.Rel (fun x y => (toJson x).sorted = (toJson y).sorted) a b) :
    (ofOption toJson a).sorted = (ofOption toJson b).sorted := by
  cases h with
  | none => rfl
  | some same => exact same

theorem sorted_ofList {α : Type} {toJson : α → Json} {xs ys : List α}
    (h : List.Forall₂ (fun x y => (toJson x).sorted = (toJson y).sorted) xs ys) :
    (ofList toJson xs).sorted = (ofList toJson ys).sorted := by
  cases h with
  | nil => rfl
  | @cons x y xs ys first rest =>
    have items : (x :: xs).map (sorted ∘ toJson) = (y :: ys).map (sorted ∘ toJson) := by
      rw [← List.forall₂_eq_eq_eq, List.forall₂_map_left_iff, List.forall₂_map_right_iff]
      exact .cons first rest
    unfold ofList
    rw [List.isEmpty_cons, List.isEmpty_cons, if_neg Bool.false_ne_true,
      if_neg Bool.false_ne_true, sorted_arr, sorted_arr, List.map_map, List.map_map, items]

end Json

/-! ### Trees of one text -/

namespace Schema

variable {s t : Schema}

/-- The trees that a node holds are smaller than it, whatever its kind. -/
theorem sizeOf_lt_of_isPart {p : Schema} (h : (∃ f ∈ s.fields, p = f.type) ∨ s.items = some p ∨
    s.values = some p ∨ p ∈ s.members) : sizeOf p < sizeOf s := by
  cases s
  simp only [Schema.mk.sizeOf_spec]
  obtain ⟨f, hf, rfl⟩ | given | given | hm := h
  · have listed := List.sizeOf_lt_of_mem hf
    have smaller := f.sizeOf_type_lt
    dsimp only at listed
    omega
  · dsimp only at given
    rw [given, Option.some.sizeOf_spec]
    omega
  · dsimp only at given
    rw [given, Option.some.sizeOf_spec]
    omega
  · have listed := List.sizeOf_lt_of_mem hm
    dsimp only at listed
    omega

theorem IsAlike.rest (h : s.IsAlike t) : t = { s with
    name := t.name, documentation := t.documentation, logicalType := t.logicalType,
    fields := t.fields, items := t.items, values := t.values, members := t.members } := by
  have kind := h.kind
  have qualifier := h.qualifier
  have typeName := h.typeName
  have size := h.size
  have symbols := h.symbols
  have symbolValues := h.symbolValues
  have additional := h.additionalProperties
  cases s
  cases t
  dsimp only at *
  subst kind qualifier typeName size symbols symbolValues additional
  rfl

end Schema

theorem FieldOf.IsAlike.rest {f g : Field} (h : f.IsAlike g) : g = { f with
    type := g.type, documentation := g.documentation, default := g.default, raw := g.raw } := by
  have name := h.name
  have hasDefault := h.hasDefault
  have tag := h.tag
  have label := h.label
  cases f
  cases g
  dsimp only at *
  subst name hasDefault tag label
  rfl

namespace Schema

/-- What is hashed of a tree of values is a value. -/
theorem HoldsValues.payload {s : Schema} (h : s.HoldsValues) :
    s.payload.hasDistinctKeys = true := by
  obtain ⟨name, documentation, logicalType, fields, items, values, members⟩ := h
  have ofFields : ∀ f ∈ s.fields, (fieldPayload f).hasDistinctKeys = true := by
    intro f hf
    obtain ⟨type, documentation, default⟩ := fields f hf
    have := sizeOf_lt_of_isPart (.inl ⟨f, hf, rfl⟩)
    rw [FieldOf.fieldPayload_eq]
    refine Json.hasDistinctKeys_obj.mpr ⟨f.nodup_attributes, ?_⟩
    simp only [FieldOf.attributes, List.forall_mem_cons]
    refine ⟨rfl, type.payload, documentation, rfl, default, ?_, ?_, nofun⟩
    · exact Json.hasDistinctKeys_ofOption fun _ _ => rfl
    · exact Json.hasDistinctKeys_ofOption fun _ _ => rfl
  have ofItems : ∀ i ∈ s.items, i.payload.hasDistinctKeys = true := by
    intro i hi
    have := sizeOf_lt_of_isPart (.inr (.inl hi))
    exact (items i hi).payload
  have ofValues : ∀ v ∈ s.values, v.payload.hasDistinctKeys = true := by
    intro v hv
    have := sizeOf_lt_of_isPart (.inr (.inr (.inl hv)))
    exact (values v hv).payload
  have ofMembers : ∀ m ∈ s.members, m.payload.hasDistinctKeys = true := by
    intro m hm
    have := sizeOf_lt_of_isPart (.inr (.inr (.inr hm)))
    exact (members m hm).payload
  rw [payload_eq]
  refine Json.hasDistinctKeys_presentMembers s.nodup_attributes ?_
  simp only [attributes, List.forall_mem_cons]
  refine ⟨rfl, name, ?_, documentation, ?_, logicalType, ?_, ?_, ?_, ?_, ?_, ?_, ?_, ?_, nofun⟩
  · exact Json.hasDistinctKeys_ofOption fun _ _ => rfl
  · exact Json.hasDistinctKeys_ofOption fun _ _ => rfl
  · exact Json.hasDistinctKeys_ofOption fun _ _ => rfl
  · exact Json.hasDistinctKeys_ofOption fun _ _ => rfl
  · exact Json.hasDistinctKeys_ofList fun _ _ => rfl
  · exact Json.hasDistinctKeys_ofList fun _ _ => rfl
  · exact Json.hasDistinctKeys_ofOption ofItems
  · exact Json.hasDistinctKeys_ofOption ofValues
  · exact Json.hasDistinctKeys_ofList ofMembers
  · exact Json.hasDistinctKeys_ofList ofFields
termination_by sizeOf s

/-- Trees that are alike agree. -/
theorem IsAlike.agree {s t : Schema} (h : s.IsAlike t) : s.Agree Eq t := by
  refine .mk (Json.agree_of_sorted_eq h.name) (Json.agree_of_sorted_eq h.documentation)
    (Json.agree_of_sorted_eq h.logicalType) ?fields ?items ?values ?members h.rest
  case fields =>
    refine forall₂_of_mem h.fields fun f hf g _ alike => ?_
    have := sizeOf_lt_of_isPart (.inl ⟨f, hf, rfl⟩)
    exact .mk alike.type.agree (Json.agree_of_sorted_eq alike.documentation)
      (Json.agree_of_sorted_eq alike.default) alike.rest
  case items =>
    refine rel_of_mem h.items fun i hi j _ alike => ?_
    have := sizeOf_lt_of_isPart (.inr (.inl hi))
    exact alike.agree
  case values =>
    refine rel_of_mem h.values fun v hv w _ alike => ?_
    have := sizeOf_lt_of_isPart (.inr (.inr (.inl hv)))
    exact alike.agree
  case members =>
    refine forall₂_of_mem h.members fun m hm n _ alike => ?_
    have := sizeOf_lt_of_isPart (.inr (.inr (.inr hm)))
    exact alike.agree
termination_by sizeOf s

/-- Trees of values that agree are alike. -/
theorem isAlike_of_agree {s t : Schema} (held : s.HoldsValues) (h : s.Agree Eq t) :
    s.IsAlike t := by
  obtain ⟨vName, vDocumentation, vLogicalType, vFields, vItems, vValues, vMembers⟩ := held
  obtain ⟨name, documentation, logicalType, fields, items, values, members, rest⟩ := h
  have ofFields : List.Forall₂ FieldOf.IsAlike s.fields t.fields := by
    refine forall₂_of_mem fields fun f hf g _ agree => ?_
    have := sizeOf_lt_of_isPart (.inl ⟨f, hf, rfl⟩)
    obtain ⟨vType, vDocumentation, vDefault⟩ := vFields f hf
    obtain ⟨type, documentation, default, rest⟩ := agree
    unfold FieldOf.IsAlike
    rw [FieldOf.fieldPayload_eq, FieldOf.fieldPayload_eq]
    refine Json.sorted_obj_of_forall₂ ?_
    have name : f.name = g.name := (congrArg FieldOf.name rest).symm
    have hasDefault : f.hasDefault = g.hasDefault := (congrArg FieldOf.hasDefault rest).symm
    have tag : f.tag = g.tag := (congrArg FieldOf.tag rest).symm
    have label : f.label = g.label := (congrArg FieldOf.label rest).symm
    simp only [FieldOf.attributes, List.forall₂_cons, Json.IsSameMember, true_and, name,
      hasDefault, tag, label]
    exact ⟨isAlike_of_agree vType type, Json.sorted_eq_of_agree vDocumentation documentation,
      Json.sorted_eq_of_agree vDefault default, .nil⟩
  have ofItems : Option.Rel IsAlike s.items t.items := by
    refine rel_of_mem items fun i hi j _ agree => ?_
    have := sizeOf_lt_of_isPart (.inr (.inl hi))
    exact isAlike_of_agree (vItems i hi) agree
  have ofValues : Option.Rel IsAlike s.values t.values := by
    refine rel_of_mem values fun v hv w _ agree => ?_
    have := sizeOf_lt_of_isPart (.inr (.inr (.inl hv)))
    exact isAlike_of_agree (vValues v hv) agree
  have ofMembers : List.Forall₂ IsAlike s.members t.members := by
    refine forall₂_of_mem members fun m hm n _ agree => ?_
    have := sizeOf_lt_of_isPart (.inr (.inr (.inr hm)))
    exact isAlike_of_agree (vMembers m hm) agree
  unfold IsAlike
  rw [payload_eq, payload_eq]
  refine Json.sorted_obj_of_forall₂ (Json.forall₂_presentMembers ?_)
  have kind : s.kind = t.kind := (congrArg Schema.kind rest).symm
  have qualifier : s.qualifier = t.qualifier := (congrArg Schema.qualifier rest).symm
  have typeName : s.typeName = t.typeName := (congrArg Schema.typeName rest).symm
  have size : s.size = t.size := (congrArg Schema.size rest).symm
  have symbols : s.symbols = t.symbols := (congrArg Schema.symbols rest).symm
  have symbolValues : s.symbolValues = t.symbolValues :=
    (congrArg Schema.symbolValues rest).symm
  have additional : s.additionalProperties = t.additionalProperties :=
    (congrArg Schema.additionalProperties rest).symm
  simp only [attributes, List.forall₂_cons, Json.IsSameMember, true_and, kind, qualifier, typeName,
    size, symbols, symbolValues, additional]
  exact ⟨Json.sorted_eq_of_agree vName name,
    Json.sorted_eq_of_agree vDocumentation documentation,
    Json.sorted_eq_of_agree vLogicalType logicalType, Json.sorted_ofOption ofItems,
    Json.sorted_ofOption ofValues, Json.sorted_ofList ofMembers, Json.sorted_ofList ofFields, .nil⟩
termination_by sizeOf s

/-- What is hashed of two trees of values is one text exactly if the trees agree. -/
theorem payloadText_eq_iff {s t : Schema} (hs : s.HoldsValues) (ht : t.HoldsValues) :
    s.payloadText = t.payloadText ↔ s.Agree Eq t := by
  constructor
  · intro same
    exact (isAlike_of_payloadText_eq hs.payload ht.payload same).agree
  · intro agree
    exact (isAlike_of_agree hs agree).payloadText

/-! ### A record with one default -/

/-- A record with one field, whose default is given. -/
def withDefault (default : Json) : Schema where
  kind := .record
  name := .str "R"
  fields := [{ name := "x", type := { kind := .primitive, typeName := some "double" },
               hasDefault := true, default }]

theorem holdsValues_withDefault {default : Json} (h : default.hasDistinctKeys = true) :
    (withDefault default).HoldsValues := by
  have double : HoldsValues { kind := .primitive, typeName := some "double" } :=
    .mk rfl rfl rfl nofun nofun nofun nofun
  refine .mk rfl rfl rfl (fun f hf => ?_) nofun nofun nofun
  obtain rfl := List.mem_singleton.mp hf
  exact .mk double rfl h

/-- Such records agree exactly if their defaults do. -/
theorem agree_withDefault {E : Binary64 → Binary64 → Prop} {v w : Json} :
    (withDefault v).Agree E (withDefault w) ↔ Json.Agree E v w := by
  constructor
  · rintro ⟨-, -, -, fields, -, -, -, -⟩
    obtain ⟨⟨-, -, default, -⟩, -⟩ := List.forall₂_cons.mp fields
    exact default
  · intro default
    have double : Agree E { kind := .primitive, typeName := some "double" }
        { kind := .primitive, typeName := some "double" } :=
      .mk .null .null .null .nil .none .none .nil rfl
    exact .mk (.str "R") .null .null (.cons (.mk double .null default rfl) .nil) .none .none .nil
      rfl

/-- The order of the members of a default does not count. -/
theorem payloadText_withDefault_swap :
    (withDefault (.obj [("a", .int 1), ("b", .float .nan)])).payloadText =
      (withDefault (.obj [("b", .float .nan), ("a", .int 1)])).payloadText := by
  refine (payloadText_eq_iff (holdsValues_withDefault (by decide))
    (holdsValues_withDefault (by decide))).mpr (agree_withDefault.mpr ?_)
  exact .obj (.cons (.mk (.int 1)) (.cons (.mk (.float rfl)) .nil)) (List.Perm.swap _ _ _)

/-- The zeros are equal as numbers, and trees that differ in the sign of a zero are hashed apart. -/
theorem payloadText_zeros_ne :
    let plus := withDefault (.float (.zero false))
    let minus := withDefault (.float (.zero true))
    plus.HoldsValues ∧ minus.HoldsValues ∧ plus.Agree Binary64.IsSame minus ∧
      plus.payloadText ≠ minus.payloadText := by
  intro plus minus
  have first : plus.HoldsValues := holdsValues_withDefault rfl
  have second : minus.HoldsValues := holdsValues_withDefault rfl
  refine ⟨first, second, agree_withDefault.mpr (.float ?_), fun same => ?_⟩
  · exact Binary64.isSame_iff.mpr (.inr ⟨false, true, rfl, rfl⟩)
  · have agree := (isAlike_of_payloadText_eq first.payload second.payload same).agree
    cases agree_withDefault.mp agree with
    | float numbers => cases numbers

end Schema
end SchemaReview
