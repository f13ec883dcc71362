import Mathlib
import SchemaReview.Datum

/-!
# Members of a written object

A writer lists the members of an object piece by piece and leaves out those whose value is absent.
The laws below look a key up in such a list; a member left out and a member that is `null` read
the same.
-/
namespace SchemaReview.Json

variable {members rest : List (String × Json)} {key k : String} {value : Json}

@[simp] theorem member?_nil : member? [] key = none := rfl

@[simp] theorem member?_cons :
    member? ((k, value) :: rest) key = if k = key then some value else member? rest key := rfl

@[simp] theorem member?_append :
    member? (members ++ rest) key = (member? members key).or (member? rest key) := by
  induction members with
  | nil => simp
  | cons entry others ih =>
    obtain ⟨k, value⟩ := entry
    simp only [List.cons_append, member?_cons]
    split
    · rfl
    · exact ih

theorem member?_setMember_self : member? (setMember members key value) key = some value := by
  induction members with
  | nil => simp [setMember]
  | cons entry others ih =>
    obtain ⟨k, other⟩ := entry
    rw [setMember]
    split
    · rename_i h
      simp [h]
    · rename_i h
      simp [h, ih]

theorem member?_setMember_of_ne (h : k ≠ key) :
    member? (setMember members k value) key = member? members key := by
  induction members with
  | nil => simp [setMember, h]
  | cons entry others ih =>
    obtain ⟨j, other⟩ := entry
    rw [setMember]
    split
    · rename_i hj
      subst hj
      simp [h]
    · simp [ih]

theorem isNull_iff : value.isNull = true ↔ value = .null := by
  cases value <;> simp [isNull]

theorem member?_present_of_ne (h : k ≠ key) : member? (present k value) key = none := by
  unfold present
  split
  · rfl
  · simp [h]

@[simp] theorem member?_present_getD : (member? (present key value) key).getD .null = value := by
  unfold present
  split
  · rename_i h
    simp [isNull_iff.mp h]
  · simp

theorem present_null : present key .null = [] := rfl

theorem present_of_ne_null (h : value ≠ .null) : present key value = [(key, value)] := by
  unfold present
  rw [if_neg (mt isNull_iff.mp h)]

/-- A member written only if another object has it is found there as in that object. -/
theorem member?_copied :
    member? (if hasMember members key then [(key, memberOrNull members key)] else []) key =
      member? members key := by
  unfold hasMember memberOrNull
  cases member? members key <;> simp

theorem member?_copied_of_ne {b : Bool} (h : k ≠ key) :
    member? (if b then [(k, value)] else []) key = none := by
  cases b <;> simp [h]

theorem hasMember_congr (h : member? members key = member? rest key) :
    hasMember members key = hasMember rest key := congrArg Option.isSome h

theorem memberOrNull_congr (h : member? members key = member? rest key) :
    memberOrNull members key = memberOrNull rest key := by
  rw [memberOrNull, memberOrNull, h]

@[simp] theorem present_eq_nil : present key value = [] ↔ value = .null := by
  by_cases h : value = .null
  · simp [h, present_null]
  · simp [h, present_of_ne_null h]

theorem member?_eq_none (h : ∀ entry ∈ members, entry.1 ≠ key) : member? members key = none := by
  induction members with
  | nil => rfl
  | cons entry others ih =>
    rw [List.forall_mem_cons] at h
    rw [member?, if_neg h.1]
    exact ih h.2

/-- The text of a text is the text itself. -/
theorem toText_str (s : String) : (str s).toText = s := by
  simp [toText, toDatum, Datum.text]

theorem mem_of_member? (h : member? members key = some value) : (key, value) ∈ members := by
  induction members with
  | nil => cases h
  | cons entry others ih =>
    obtain ⟨k, other⟩ := entry
    rw [member?_cons] at h
    split at h
    · rename_i hk
      cases h
      rw [hk]
      exact List.mem_cons_self
    · exact List.mem_cons_of_mem _ (ih h)

theorem memberOrNull_eq_of_member? (h : member? members key = some value) :
    memberOrNull members key = value := by
  rw [memberOrNull, h]
  rfl

theorem member?_of_memberOrNull (h : memberOrNull members key = value) (hn : value ≠ .null) :
    member? members key = some value := by
  unfold memberOrNull at h
  cases found : member? members key with
  | none =>
    rw [found] at h
    exact absurd h.symm hn
  | some other =>
    rw [found] at h
    exact congrArg some h

end SchemaReview.Json
