import SchemaReview.Proofs.Json.CanonicalText

/-!
# Values that differ in the order of members

What two values have in common that differ at most in the order in which their objects list their
members: they are equal as values, count both as present or both as absent, and hold such values
under each key. They are the same value where no object has several members.
-/
namespace SchemaReview.Json

section

variable {xs ys : List (String × Json)} {key : String}

/-- Objects that are in order the same list the same members, each with its value in order. -/
theorem perm_of_sorted_eq (h : (obj xs).sorted = (obj ys).sorted) :
    (xs.map sortedMember).Perm (ys.map sortedMember) := by
  rw [sorted_obj, sorted_obj] at h
  have same := obj.inj h
  have first := (List.mergeSort_perm xs fun a b => a.1 ≤ b.1).map sortedMember
  have second := (List.mergeSort_perm ys fun a b => a.1 ≤ b.1).map sortedMember
  unfold inKeyOrder at same
  rw [same] at first
  exact first.symm.trans second

theorem map_fst_sortedMember (members : List (String × Json)) :
    (members.map sortedMember).map Prod.fst = members.map Prod.fst := by
  rw [List.map_map]
  rfl

theorem member?_map_sortedMember (members : List (String × Json)) (key : String) :
    member? (members.map sortedMember) key = (member? members key).map sorted := by
  induction members with
  | nil => rfl
  | cons entry rest ih =>
    obtain ⟨k, x⟩ := entry
    rw [List.map_cons, sortedMember, member?_cons, member?_cons]
    split
    · rfl
    · exact ih

/-- The order of members with distinct keys has no influence on what is found under a key. -/
theorem member?_perm (distinct : (xs.map Prod.fst).Nodup) (perm : xs.Perm ys) (key : String) :
    member? xs key = member? ys key := by
  have apart : (ys.map Prod.fst).Nodup := (perm.map _).nodup_iff.mp distinct
  cases found : member? xs key with
  | some value =>
    have listed : (key, value) ∈ ys := perm.mem_iff.mp (mem_of_member? found)
    exact (member?_of_mem apart listed).symm
  | none =>
    cases there : member? ys key with
    | none => rfl
    | some value =>
      have listed : (key, value) ∈ xs := perm.mem_iff.mpr (mem_of_member? there)
      rw [member?_of_mem distinct listed] at found
      cases found

/-- Under each key there are values that differ in the order of members at most. -/
theorem memberOrNull_of_sorted_eq (distinct : (xs.map Prod.fst).Nodup)
    (h : (obj xs).sorted = (obj ys).sorted) (key : String) :
    (memberOrNull xs key).sorted = (memberOrNull ys key).sorted := by
  have apart : ((xs.map sortedMember).map Prod.fst).Nodup := by
    rw [map_fst_sortedMember]
    exact distinct
  have found := member?_perm apart (perm_of_sorted_eq h) key
  rw [member?_map_sortedMember, member?_map_sortedMember] at found
  unfold memberOrNull
  cases hx : member? xs key with
  | none =>
    cases hy : member? ys key with
    | none => rfl
    | some w =>
      rw [hx, hy] at found
      cases found
  | some v =>
    cases hy : member? ys key with
    | none =>
      rw [hx, hy] at found
      cases found
    | some w =>
      rw [hx, hy] at found
      exact Option.some.inj found

end

theorem Number.same_self (n : Number) : n.same n = true := by
  cases n with
  | int m => simp [Number.same, Number.eq]
  | float x =>
    cases x with
    | nan => rfl
    | infinity negative => simp [Number.same, Number.eq, Binary64.numEq]
    | finite negative e f => simp [Number.same, Number.eq, Binary64.numEq]

/-- A value without parts is the only one that is like it up to the order of members. -/
theorem eq_of_sorted_eq_of_ne {a b : Json} (items : ∀ xs, a ≠ .arr xs) (members : ∀ xs, a ≠ .obj xs)
    (h : a.sorted = b.sorted) : a = b := by
  have plain : a.sorted = a := by
    cases a with
    | arr xs => exact absurd rfl (items xs)
    | obj xs => exact absurd rfl (members xs)
    | _ => rfl
  rw [plain] at h
  cases b with
  | arr ys => exact absurd (h.trans (sorted_arr ys)) (items _)
  | obj ys => exact absurd (h.trans (sorted_obj ys)) (members _)
  | _ => exact h

/-- Values that differ in the order of members are in every relation that each value without parts
has to itself and that goes over from the parts of a value to the value. -/
theorem rel_of_sorted_eq {R : Json → Json → Prop}
    (plain : ∀ a, (∀ xs, a ≠ .arr xs) → (∀ xs, a ≠ .obj xs) → R a a)
    (items : ∀ {xs ys}, List.Forall₂ R xs ys → R (.arr xs) (.arr ys))
    (members : ∀ {xs ys : List (String × Json)}, xs.length = ys.length →
      (∀ entry ∈ xs, ∃ w, member? ys entry.1 = some w ∧ R entry.2 w) → R (.obj xs) (.obj ys))
    {a b : Json} (ha : a.hasDistinctKeys = true) (hb : b.hasDistinctKeys = true)
    (h : a.sorted = b.sorted) : R a b := by
  match a with
  | .null | .bool _ | .int _ | .float _ | .str _ =>
    rw [← eq_of_sorted_eq_of_ne (by simp) (by simp) h]
    exact plain _ (by simp) (by simp)
  | .arr xs =>
    cases b with
    | arr ys =>
      rw [sorted_arr, sorted_arr, arr.injEq, ← List.forall₂_eq_eq_eq, List.forall₂_map_left_iff,
        List.forall₂_map_right_iff, List.forall₂_iff_zip] at h
      rw [hasDistinctKeys_arr] at ha hb
      refine items (List.forall₂_iff_zip.mpr ⟨h.1, fun {x y} paired => ?_⟩)
      obtain ⟨hx, hy⟩ := List.of_mem_zip paired
      have : sizeOf x < sizeOf xs := List.sizeOf_lt_of_mem hx
      exact rel_of_sorted_eq plain items members (ha x hx) (hb y hy) (h.2 paired)
    | _ => rw [sorted_arr] at h; cases h
  | .obj xs =>
    cases b with
    | obj ys =>
      have perm := perm_of_sorted_eq h
      rw [hasDistinctKeys_obj] at ha hb
      refine members (by simpa using perm.length_eq) fun entry he => ?_
      have listed : sortedMember entry ∈ ys.map sortedMember :=
        perm.mem_iff.mp (List.mem_map_of_mem he)
      obtain ⟨other, ho, alike⟩ := List.mem_map.mp listed
      obtain ⟨key, value⟩ := Prod.mk.inj alike
      have : sizeOf entry < sizeOf xs := List.sizeOf_lt_of_mem he
      have : sizeOf entry.2 < sizeOf entry := by
        obtain ⟨key, value⟩ := entry
        simp only [Prod.mk.sizeOf_spec]
        omega
      refine ⟨other.2, key ▸ member?_of_mem hb.1 ho, ?_⟩
      exact rel_of_sorted_eq plain items members (ha.2 entry he) (hb.2 other ho) value.symm
    | _ => rw [sorted_obj] at h; cases h
termination_by sizeOf a

theorem sameItems_of_forall₂ {xs ys : List Json}
    (h : List.Forall₂ (fun x y => x.same y = true) xs ys) : sameItems xs ys = true := by
  induction h with
  | nil => rfl
  | cons first _ ih => rw [sameItems, first, ih]; rfl

/-- Values that differ in the order of members are equal. -/
theorem same_of_sorted_eq {a b : Json} (ha : a.hasDistinctKeys = true)
    (hb : b.hasDistinctKeys = true) (h : a.sorted = b.sorted) : a.same b = true := by
  refine rel_of_sorted_eq (R := fun a b => a.same b = true) (fun a items members => ?_)
    (fun alike => ?_) (fun length found => ?_) ha hb h
  · cases a with
    | null => rfl
    | str s => simp [same]
    | arr xs => exact absurd rfl (items xs)
    | obj xs => exact absurd rfl (members xs)
    | bool | int | float =>
      rw [same_of_number? rfl]
      exact Number.same_self _
  · rw [same, sameItems_of_forall₂ alike]
  · rw [same, Bool.and_eq_true, beq_iff_eq]
    exact ⟨length, sameMembers_iff.mpr found⟩

section

variable {a b : Json}

/-- Whether a value is a bare not-a-number, which is not equal to itself. -/
def isNaN : Json → Bool
  | .float .nan => true
  | _ => false

theorem equals_of_sorted_eq (ha : a.hasDistinctKeys = true) (hb : b.hasDistinctKeys = true)
    (number : a.isNaN = false) (h : a.sorted = b.sorted) : a.equals b = true := by
  rw [equals_of_ne_nan]
  · exact same_of_sorted_eq ha hb h
  · rintro rfl
    cases number

end

mutual

/-- Whether no object within a value has several members. -/
def hasOneOrder : Json → Bool
  | .arr items => itemsHaveOneOrder items
  | .obj members => members.length ≤ 1 && membersHaveOneOrder members
  | _ => true

def itemsHaveOneOrder : List Json → Bool
  | [] => true
  | x :: rest => hasOneOrder x && itemsHaveOneOrder rest

def membersHaveOneOrder : List (String × Json) → Bool
  | [] => true
  | (_, x) :: rest => hasOneOrder x && membersHaveOneOrder rest

end

theorem hasOneOrder_arr {items : List Json} :
    (arr items).hasOneOrder = true ↔ ∀ x ∈ items, x.hasOneOrder = true := by
  rw [hasOneOrder]
  induction items with
  | nil => simp [itemsHaveOneOrder]
  | cons x rest ih => simp [itemsHaveOneOrder, ih]

theorem hasOneOrder_obj {members : List (String × Json)} :
    (obj members).hasOneOrder = true ↔ members.length ≤ 1 ∧
      ∀ entry ∈ members, entry.2.hasOneOrder = true := by
  have values : membersHaveOneOrder members = true ↔
      ∀ entry ∈ members, entry.2.hasOneOrder = true := by
    induction members with
    | nil => simp [membersHaveOneOrder]
    | cons entry rest ih =>
      obtain ⟨key, x⟩ := entry
      simp only [membersHaveOneOrder, Bool.and_eq_true, ih, List.forall_mem_cons]
  rw [hasOneOrder, Bool.and_eq_true, decide_eq_true_iff, values]

theorem inKeyOrder_of_length_le_one {members : List (String × Json)} (h : members.length ≤ 1) :
    inKeyOrder members = members := by
  cases members with
  | nil => exact List.mergeSort_nil
  | cons entry rest =>
    obtain rfl : rest = [] := by simpa using h
    exact List.mergeSort_singleton entry

/-- Where there is nothing to order, a value is in order. -/
theorem sorted_of_hasOneOrder {a : Json} (h : a.hasOneOrder = true) : a.sorted = a := by
  match a with
  | .null | .bool _ | .int _ | .float _ | .str _ => rfl
  | .arr items =>
    rw [hasOneOrder_arr] at h
    have each : ∀ x ∈ items, x.sorted = id x := by
      intro x hx
      have : sizeOf x < sizeOf items := List.sizeOf_lt_of_mem hx
      exact sorted_of_hasOneOrder (h x hx)
    rw [sorted_arr, List.map_congr_left each, List.map_id]
  | .obj members =>
    rw [hasOneOrder_obj] at h
    have each : ∀ entry ∈ members, sortedMember entry = id entry := by
      rintro ⟨key, value⟩ he
      have : sizeOf (key, value) < sizeOf members := List.sizeOf_lt_of_mem he
      have : sizeOf value < sizeOf (key, value) := by
        simp only [Prod.mk.sizeOf_spec]
        omega
      rw [sortedMember, sorted_of_hasOneOrder (h.2 _ he), id]
    have alone : inKeyOrder members = members := inKeyOrder_of_length_le_one h.1
    rw [sorted_obj, alone, List.map_congr_left each, List.map_id]
termination_by sizeOf a

end SchemaReview.Json
