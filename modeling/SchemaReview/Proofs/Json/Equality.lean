import SchemaReview.Json.Reader
import SchemaReview.Proofs.Json.Member

/-!
# Equality of JSON values

Equality as values is symmetric, for numbers of both kinds and for objects in any order, as long as
no object names a member twice. Where one does, the members that stand behind another of their key
are compared on one side only.
-/
namespace SchemaReview

namespace Binary64

theorem numEq_comm (x y : Binary64) : x.numEq y = y.numEq x := by
  unfold numEq
  split
  · split
    · rfl
    · rfl
    · rename_i hy
      exact (hy rfl).elim
  · rfl
  · rw [Bool.and_comm, Bool.beq_comm]

end Binary64

/-! ### Pairs of elements -/

theorem forall₂_of_mem {α β : Type} {R S : α → β → Prop} {xs : List α} {ys : List β}
    (h : List.Forall₂ R xs ys) (each : ∀ x ∈ xs, ∀ y ∈ ys, R x y → S x y) :
    List.Forall₂ S xs ys := by
  induction h with
  | nil => exact .nil
  | cons related rest ih =>
    refine .cons (each _ List.mem_cons_self _ List.mem_cons_self related) (ih fun x hx y hy => ?_)
    exact each x (List.mem_cons_of_mem _ hx) y (List.mem_cons_of_mem _ hy)

theorem exists_of_forall₂ {α β : Type} {R : α → β → Prop} {xs : List α} {ys : List β}
    (h : List.Forall₂ R xs ys) {x : α} (hx : x ∈ xs) : ∃ y ∈ ys, R x y := by
  induction h with
  | nil => cases hx
  | cons related rest ih =>
    obtain rfl | hrest := List.mem_cons.mp hx
    · exact ⟨_, List.mem_cons_self, related⟩
    · obtain ⟨y, hy, related⟩ := ih hrest
      exact ⟨y, List.mem_cons_of_mem _ hy, related⟩

theorem rel_of_mem {α β : Type} {R S : α → β → Prop} {a : Option α} {b : Option β}
    (h : Option.Rel R a b) (each : ∀ x, a = some x → ∀ y, b = some y → R x y → S x y) :
    Option.Rel S a b := by
  cases h with
  | none => exact .none
  | some related => exact .some (each _ rfl _ rfl related)

namespace Json

theorem Number.eq_comm (a b : Number) : a.eq b = b.eq a := by
  cases a with
  | int m =>
    cases b with
    | int n => exact Bool.beq_comm
    | float y => rfl
  | float x =>
    cases b with
    | int n => rfl
    | float y => exact x.numEq_comm y

theorem Number.same_comm (a b : Number) : a.same b = b.same a := by
  unfold Number.same
  split
  · rfl
  · rename_i h
    rw [Number.eq_comm]
    split
    · rename_i h'
      exact (h rfl rfl).elim
    · rfl

mutual

/-- Whether no object within a value names a member twice. -/
def hasDistinctKeys : Json → Bool
  | .arr items => itemsHaveDistinctKeys items
  | .obj members => (members.map Prod.fst).Nodup && membersHaveDistinctKeys members
  | _ => true

def itemsHaveDistinctKeys : List Json → Bool
  | [] => true
  | x :: rest => hasDistinctKeys x && itemsHaveDistinctKeys rest

def membersHaveDistinctKeys : List (String × Json) → Bool
  | [] => true
  | (_, x) :: rest => hasDistinctKeys x && membersHaveDistinctKeys rest

end

theorem hasDistinctKeys_arr {items : List Json} :
    (arr items).hasDistinctKeys = true ↔ ∀ x ∈ items, x.hasDistinctKeys = true := by
  rw [hasDistinctKeys]
  induction items with
  | nil => simp [itemsHaveDistinctKeys]
  | cons x rest ih => simp [itemsHaveDistinctKeys, ih]

theorem hasDistinctKeys_obj {members : List (String × Json)} :
    (obj members).hasDistinctKeys = true ↔ (members.map Prod.fst).Nodup ∧
      ∀ entry ∈ members, entry.2.hasDistinctKeys = true := by
  have values : membersHaveDistinctKeys members = true ↔
      ∀ entry ∈ members, entry.2.hasDistinctKeys = true := by
    induction members with
    | nil => simp [membersHaveDistinctKeys]
    | cons entry rest ih =>
      obtain ⟨key, x⟩ := entry
      simp only [membersHaveDistinctKeys, Bool.and_eq_true, ih, List.forall_mem_cons]
  rw [hasDistinctKeys, Bool.and_eq_true, decide_eq_true_iff, values]

section

variable {xs ys : List (String × Json)}

/-- Among members with distinct keys, each is found by its key. -/
theorem member?_of_mem {members : List (String × Json)} {key : String} {value : Json}
    (distinct : (members.map Prod.fst).Nodup) (h : (key, value) ∈ members) :
    member? members key = some value := by
  induction members with
  | nil => cases h
  | cons entry rest ih =>
    obtain ⟨k, other⟩ := entry
    rw [List.map_cons, List.nodup_cons] at distinct
    rw [member?_cons]
    obtain same | hrest := List.mem_cons.mp h
    · obtain ⟨rfl, rfl⟩ := Prod.mk.inj same
      rw [if_pos rfl]
    · have different : k ≠ key := by
        rintro rfl
        exact distinct.1 (List.mem_map.mpr ⟨_, hrest, rfl⟩)
      rw [if_neg different]
      exact ih distinct.2 hrest

theorem sameMembers_iff : sameMembers xs ys = true ↔
    ∀ entry ∈ xs, ∃ w, member? ys entry.1 = some w ∧ entry.2.same w = true := by
  induction xs with
  | nil => simp [sameMembers]
  | cons entry rest ih =>
    obtain ⟨k, v⟩ := entry
    rw [sameMembers, List.forall_mem_cons]
    cases found : member? ys k with
    | none => simp
    | some w =>
      dsimp only
      rw [Bool.and_eq_true, ih]
      simp

/-- Members with distinct keys that are all found in an object with as many of them are all the
members that it has. -/
theorem sameMembers_symm (distinctX : (xs.map Prod.fst).Nodup)
    (distinctY : (ys.map Prod.fst).Nodup) (length : xs.length = ys.length)
    (values : ∀ e ∈ xs, ∀ f ∈ ys, e.2.same f.2 = f.2.same e.2)
    (h : sameMembers xs ys = true) : sameMembers ys xs = true := by
  rw [sameMembers_iff] at h ⊢
  have found : xs.map Prod.fst ⊆ ys.map Prod.fst := by
    intro key hk
    obtain ⟨entry, he, rfl⟩ := List.mem_map.mp hk
    obtain ⟨w, hw, -⟩ := h entry he
    exact List.mem_map.mpr ⟨_, mem_of_member? hw, rfl⟩
  have all : (xs.map Prod.fst).Perm (ys.map Prod.fst) := by
    refine (List.subperm_of_subset distinctX found).perm_of_length_le ?_
    simp [length]
  intro other ho
  obtain ⟨entry, he, key⟩ := List.mem_map.mp (all.mem_iff.mpr (List.mem_map.mpr ⟨other, ho, rfl⟩))
  obtain ⟨w, hw, same⟩ := h entry he
  rw [key, member?_of_mem distinctY ho] at hw
  cases hw
  refine ⟨entry.2, ?_, ?_⟩
  · rw [← key]
    exact member?_of_mem distinctX he
  · rw [← values entry he other ho]
    exact same

end

theorem sameItems_comm {xs ys : List Json}
    (values : ∀ x ∈ xs, ∀ y ∈ ys, x.same y = y.same x) : sameItems xs ys = sameItems ys xs := by
  induction xs generalizing ys with
  | nil =>
    cases ys with
    | nil => rfl
    | cons y ys => rfl
  | cons x xs ih =>
    cases ys with
    | nil => rfl
    | cons y ys =>
      have rest : sameItems xs ys = sameItems ys xs := ih fun a ha b hb =>
        values a (List.mem_cons_of_mem _ ha) b (List.mem_cons_of_mem _ hb)
      rw [sameItems, sameItems, values x List.mem_cons_self y List.mem_cons_self, rest]

/-- A number is equal to numbers only, and to these by its amount. -/
theorem same_of_number? {a : Json} {n : Number} (h : a.number? = some n) (b : Json) :
    a.same b = match b.number? with
      | some k => n.same k
      | none => false := by
  cases a with
  | bool | int | float =>
    cases h
    cases number : b.number? with
    | none => simp only [same, number]
    | some k => simp only [same, number]
  | null | str | arr | obj => cases h

theorem same_number_of_number?_eq_none {a b : Json} {n : Number} (ha : a.number? = none)
    (hb : b.number? = some n) : a.same b = false := by
  cases a with
  | null | str | arr | obj =>
    cases b with
    | bool | int | float => rfl
    | null | str | arr | obj => cases hb
  | bool | int | float => cases ha

theorem same_comm {a b : Json} (ha : a.hasDistinctKeys = true) (hb : b.hasDistinctKeys = true) :
    a.same b = b.same a := by
  match na : a.number?, nb : b.number? with
  | some m, some n =>
    rw [same_of_number? na, same_of_number? nb, na, nb]
    exact m.same_comm n
  | some m, none =>
    rw [same_of_number? na, nb, same_number_of_number?_eq_none nb na]
  | none, some n =>
    rw [same_of_number? nb, na, same_number_of_number?_eq_none na nb]
  | none, none =>
    match a, b with
    | .null, .null => rfl
    | .null, .str _ => rfl
    | .null, .arr _ => rfl
    | .null, .obj _ => rfl
    | .str _, .null => rfl
    | .str _, .arr _ => rfl
    | .str _, .obj _ => rfl
    | .arr _, .null => rfl
    | .arr _, .str _ => rfl
    | .arr _, .obj _ => rfl
    | .obj _, .null => rfl
    | .obj _, .str _ => rfl
    | .obj _, .arr _ => rfl
    | .str s, .str t =>
      rw [same, same]
      exact Bool.beq_comm
    | .arr xs, .arr ys =>
      rw [hasDistinctKeys_arr] at ha hb
      rw [same, same]
      refine sameItems_comm fun x hx y hy => ?_
      have : sizeOf x < sizeOf xs := List.sizeOf_lt_of_mem hx
      exact same_comm (ha x hx) (hb y hy)
    | .obj xs, .obj ys =>
      rw [hasDistinctKeys_obj] at ha hb
      have values : ∀ e ∈ xs, ∀ f ∈ ys, e.2.same f.2 = f.2.same e.2 := by
        intro e he f hf
        have : sizeOf e < sizeOf xs := List.sizeOf_lt_of_mem he
        have : sizeOf e.2 < sizeOf e := by
          obtain ⟨k, v⟩ := e
          simp only [Prod.mk.sizeOf_spec]
          omega
        exact same_comm (ha.2 e he) (hb.2 f hf)
      rw [same, same, Bool.eq_iff_iff, Bool.and_eq_true, Bool.and_eq_true, beq_iff_eq, beq_iff_eq]
      constructor
      · rintro ⟨length, h⟩
        exact ⟨length.symm, sameMembers_symm ha.1 hb.1 length values h⟩
      · rintro ⟨length, h⟩
        refine ⟨length.symm, sameMembers_symm hb.1 ha.1 length (fun f hf e he => ?_) h⟩
        exact (values e he f hf).symm
termination_by sizeOf a

/-- Among elements, not a number is equal to itself only. -/
theorem eq_of_same_nan {a : Json} (h : a.same (.float .nan) = true) : a = .float .nan := by
  cases a with
  | float x =>
    cases x with
    | nan => rfl
    | infinity | finite => cases h
  | bool | int | null | str | arr | obj => cases h

theorem equals_of_ne_nan {a : Json} (h : a ≠ .float .nan) (b : Json) : a.equals b = a.same b := by
  unfold equals
  split
  · exact (h rfl).elim
  · rfl

theorem equals_comm {a b : Json} (ha : a.hasDistinctKeys = true) (hb : b.hasDistinctKeys = true) :
    a.equals b = b.equals a := by
  by_cases na : a = .float .nan
  · subst na
    by_cases nb : b = .float .nan
    · rw [nb]
    · rw [equals_of_ne_nan nb]
      symm
      exact Bool.eq_false_iff.mpr fun h => nb (eq_of_same_nan h)
  · rw [equals_of_ne_nan na]
    by_cases nb : b = .float .nan
    · subst nb
      exact Bool.eq_false_iff.mpr fun h => na (eq_of_same_nan h)
    · rw [equals_of_ne_nan nb, same_comm ha hb]

/-! ### Values that are read

Of repeated keys the last value counts, in the place of the first. So no object that is read from a
text has two members of one key. -/

section

variable {members : List (String × Json)} {key : String} {value : Json}

theorem hasDistinctKeys_of_member? (h : (obj members).hasDistinctKeys = true)
    (hm : member? members key = some value) : value.hasDistinctKeys = true :=
  (hasDistinctKeys_obj.mp h).2 _ (mem_of_member? hm)

theorem hasDistinctKeys_memberOrNull (h : (obj members).hasDistinctKeys = true) (key : String) :
    (memberOrNull members key).hasDistinctKeys = true := by
  unfold memberOrNull
  cases held : member? members key with
  | none => rfl
  | some value => exact hasDistinctKeys_of_member? h held

/-- Setting a member adds its key at most. -/
theorem mem_of_mem_setMember {entry : String × Json}
    (h : entry ∈ setMember members key value) : entry = (key, value) ∨ entry ∈ members := by
  induction members with
  | nil => exact .inl (List.mem_singleton.mp h)
  | cons first rest ih =>
    obtain ⟨k, other⟩ := first
    rw [setMember] at h
    split at h
    · rename_i same
      obtain rfl | later := List.mem_cons.mp h
      · exact .inl (by rw [same])
      · exact .inr (List.mem_cons_of_mem _ later)
    · obtain rfl | later := List.mem_cons.mp h
      · exact .inr List.mem_cons_self
      · exact (ih later).imp_right (List.mem_cons_of_mem _)

theorem nodup_setMember (h : (members.map Prod.fst).Nodup) :
    ((setMember members key value).map Prod.fst).Nodup := by
  induction members with
  | nil => simp [setMember]
  | cons first rest ih =>
    obtain ⟨k, other⟩ := first
    rw [List.map_cons, List.nodup_cons] at h
    rw [setMember]
    split
    · rw [List.map_cons, List.nodup_cons]
      exact h
    · rename_i apart
      rw [List.map_cons, List.nodup_cons]
      refine ⟨fun again => ?_, ih h.2⟩
      obtain ⟨entry, listed, same⟩ := List.mem_map.mp again
      obtain rfl | listed := mem_of_mem_setMember listed
      · exact apart same.symm
      · exact h.1 (List.mem_map.mpr ⟨entry, listed, same⟩)

theorem hasDistinctKeys_setMember (key : String) (h : (obj members).hasDistinctKeys = true)
    (hv : value.hasDistinctKeys = true) :
    (obj (setMember members key value)).hasDistinctKeys = true := by
  rw [hasDistinctKeys_obj] at h ⊢
  refine ⟨nodup_setMember h.1, fun entry listed => ?_⟩
  obtain rfl | listed := mem_of_mem_setMember listed
  · exact hv
  · exact h.2 entry listed

end

section

variable {s rest : List Char} {v : Json}

theorem hasDistinctKeys_of_scanWord? (h : scanWord? s = some (v, rest)) :
    v.hasDistinctKeys = true := by
  obtain ⟨entry, listed, found⟩ := List.exists_of_findSome?_eq_some h
  have words : ∀ entry ∈ wordValues, entry.2.hasDistinctKeys = true := by decide
  dsimp only at found
  split at found
  · cases found
    exact words entry listed
  · cases found

theorem hasDistinctKeys_of_scanNumber (h : scanNumber s = .ok (v, rest)) :
    v.hasDistinctKeys = true := by
  unfold scanNumber at h
  dsimp only at h
  split at h
  · cases h
  · cases h
    unfold numberOf
    split <;> rfl

/-- The induction is on the fuel: each value, member and item that is read goes to what was read
before. -/
theorem hasDistinctKeys_of_scan (fuel : Nat) :
    (∀ s v rest, scanValue fuel s = .ok (v, rest) → v.hasDistinctKeys = true) ∧
    (∀ s read v rest, (obj read).hasDistinctKeys = true →
      scanMembers fuel s read = .ok (v, rest) → v.hasDistinctKeys = true) ∧
    ∀ s read v rest, (∀ x ∈ read, x.hasDistinctKeys = true) →
      scanItems fuel s read = .ok (v, rest) → v.hasDistinctKeys = true := by
  induction fuel with
  | zero => exact ⟨nofun, nofun, nofun⟩
  | succ fuel ih =>
    obtain ⟨ofValue, ofMembers, ofItems⟩ := ih
    have empty : (obj []).hasDistinctKeys = true := rfl
    refine ⟨fun s v rest h => ?_, fun s read v rest hr h => ?_, fun s read v rest hr h => ?_⟩
    · unfold scanValue at h
      split at h
      · cases h
      · split at h
        · cases h
          rfl
        · cases h
      · split at h
        · cases h
          exact empty
        · exact ofMembers _ _ _ _ empty h
      · split at h
        · cases h
          rfl
        · exact ofItems _ _ _ _ (List.forall_mem_nil _) h
      · split at h
        · rename_i word found
          cases h
          exact hasDistinctKeys_of_scanWord? found
        · exact hasDistinctKeys_of_scanNumber h
    · unfold scanMembers at h
      split at h
      · split at h
        · cases h
        · split at h
          · split at h
            · cases h
            · rename_i value _ scanned
              have added (key : String) := hasDistinctKeys_setMember key hr
                (ofValue _ _ _ scanned)
              dsimp only at h
              split at h
              · cases h
                exact added _
              · exact ofMembers _ _ _ _ (added _) h
              · cases h
          · cases h
      · cases h
    · unfold scanItems at h
      split at h
      · cases h
      · rename_i value _ scanned
        have all : ∀ x ∈ value :: read, x.hasDistinctKeys = true :=
          List.forall_mem_cons.mpr ⟨ofValue _ _ _ scanned, hr⟩
        split at h
        · cases h
          rw [hasDistinctKeys_arr]
          exact fun x hx => all x (List.mem_reverse.mp hx)
        · exact ofItems _ _ _ _ all h
        · cases h

/-- No object that is read from a text has two members of one key. -/
theorem hasDistinctKeys_of_ofText {text : String} (h : ofText text = .ok v) :
    v.hasDistinctKeys = true := by
  unfold ofText ofChars at h
  dsimp only at h
  split at h
  · cases h
  · split at h
    · cases h
    · rename_i scanned
      split at h
      · cases h
        exact (hasDistinctKeys_of_scan _).1 _ _ _ scanned
      · cases h

end

end Json
end SchemaReview
