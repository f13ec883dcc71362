import Mathlib
import SchemaReview.Proofs.Outcome
import SchemaReview.Sorting

/-!
# Sorting

What a sort by a key makes of a list, without the sort: the same elements, ascending by their keys,
and those of one key in the order in which they were given.

A sort that comes to an end has compared every element with its neighbours, so the elements are in
any order with which its comparisons agree. A sort that fails does so at a comparison of two of the
elements.
-/
namespace SchemaReview

/-! ### Stable sorting by a key -/

section

/-- A list holds some elements in ascending order of their keys, those of one key in the order in
which they were given. -/
structure IsSortedBy {α β : Type} [LE β] [BEq β] (key : α → β) (given ordered : List α) : Prop where
  perm : ordered.Perm given
  ascending : ordered.Pairwise fun a b => key a ≤ key b
  stable : ∀ k, (ordered.filter fun a => key a == k) = given.filter fun a => key a == k

variable {α β : Type} [LE β] [DecidableLE β] [BEq β] [LawfulBEq β]

theorem isSortedBy_mergeSort (key : α → β) (trans : ∀ i j k : β, i ≤ j → j ≤ k → i ≤ k)
    (total : ∀ i j : β, i ≤ j ∨ j ≤ i) (xs : List α) :
    IsSortedBy key xs (xs.mergeSort fun a b => key a ≤ key b) := by
  have transKeys : ∀ a b c : α, decide (key a ≤ key b) = true → decide (key b ≤ key c) = true →
      decide (key a ≤ key c) = true := by
    intro a b c hab hbc
    rw [decide_eq_true_iff] at *
    exact trans _ _ _ hab hbc
  have totalKeys : ∀ a b : α, (decide (key a ≤ key b) || decide (key b ≤ key a)) = true := by
    intro a b
    rw [Bool.or_eq_true, decide_eq_true_iff, decide_eq_true_iff]
    exact total _ _
  have perm := List.mergeSort_perm xs fun a b => decide (key a ≤ key b)
  have ascending := List.pairwise_mergeSort transKeys totalKeys xs
  refine ⟨perm, ascending.imp fun h => of_decide_eq_true h, fun k => ?_⟩
  -- The elements of one key are ascending as they are, so the sort keeps their order.
  have flat : (xs.filter fun a => key a == k).Pairwise
      fun a b => decide (key a ≤ key b) = true := by
    refine List.pairwise_of_forall_mem_list fun a ha b hb => ?_
    simp only [List.mem_filter, beq_iff_eq] at ha hb
    rw [decide_eq_true_iff, ha.2, hb.2]
    exact (total k k).elim id id
  have kept := (List.sublist_mergeSort transKeys totalKeys flat List.filter_sublist).filter
    fun a => key a == k
  simp only [List.filter_filter, Bool.and_self] at kept
  exact (kept.eq_of_length (perm.filter _).length_eq.symm).symm

end

namespace Sorting

variable {α ε : Type} {lt : α → α → Except ε Bool} {P : α → Prop} {S : α → α → Prop}

/-- An order with which the comparisons of some elements agree. -/
structure Agrees (lt : α → α → Except ε Bool) (P : α → Prop) (S : α → α → Prop) : Prop where
  trans : ∀ x y z, S x y → S y z → S x z
  before : ∀ x y, P x → P y → lt x y = .ok true → S x y
  notBefore : ∀ x y, P x → P y → lt x y = .ok false → S y x

/-! ### The run at the start -/

theorem of_runFrom_eq_ok (agrees : Agrees lt P S) {descending : Bool} {previous : α} {xs : List α}
    {n : Nat} (members : ∀ x ∈ previous :: xs, P x)
    (h : runFrom lt descending previous xs = .ok n) :
    n ≤ xs.length ∧
      List.IsChain (fun x y => if descending then S y x else S x y) (previous :: xs.take n) := by
  induction xs generalizing previous n with
  | nil =>
    obtain rfl : 0 = n := Except.ok.inj h
    exact ⟨Nat.le_refl _, .singleton previous⟩
  | cons x rest ih =>
    rw [runFrom] at h
    obtain ⟨comes, compared, h⟩ := bind_eq_ok.mp h
    split at h
    · rename_i same
      obtain ⟨m, ran, h⟩ := bind_eq_ok.mp h
      obtain rfl := pure_eq_ok.mp h
      rw [List.forall_mem_cons, List.forall_mem_cons] at members
      obtain ⟨first, second, others⟩ := members
      obtain ⟨bound, chain⟩ := ih (List.forall_mem_cons.mpr ⟨second, others⟩) ran
      refine ⟨Nat.succ_le_succ bound, ?_⟩
      rw [List.take_succ_cons, List.isChain_cons_cons]
      refine ⟨?_, chain⟩
      subst same
      cases comes with
      | true => exact agrees.before x previous second first compared
      | false => exact agrees.notBefore x previous second first compared
    · obtain rfl := pure_eq_ok.mp h
      exact ⟨Nat.zero_le _, .singleton previous⟩

/-- The run at the start is in order, and the elements stay the same. -/
theorem of_startRun_eq_ok (agrees : Agrees lt P S) {xs ys : List α} {n : Nat}
    (members : ∀ x ∈ xs, P x) (h : startRun lt xs = .ok (ys, n)) :
    ys.Perm xs ∧ List.IsChain S (ys.take n) := by
  match xs with
  | [] =>
    cases h
    exact ⟨.refl _, by simp⟩
  | [a] =>
    cases h
    exact ⟨.refl _, by simp⟩
  | a :: b :: rest =>
    rw [startRun] at h
    obtain ⟨descending, compared, h⟩ := bind_eq_ok.mp h
    obtain ⟨m, ran, h⟩ := bind_eq_ok.mp h
    rw [List.forall_mem_cons, List.forall_mem_cons] at members
    obtain ⟨first, second, others⟩ := members
    obtain ⟨bound, chain⟩ :=
      of_runFrom_eq_ok agrees (List.forall_mem_cons.mpr ⟨second, others⟩) ran
    cases descending with
    | true =>
      obtain ⟨rfl, rfl⟩ := Prod.mk.inj (pure_eq_ok.mp h)
      have run : List.IsChain (flip S) (a :: b :: rest.take m) :=
        List.isChain_cons_cons.mpr ⟨agrees.before b a second first compared, chain⟩
      refine ⟨?_, ?_⟩
      · have reversed := ((a :: b :: rest).take (m + 2)).reverse_perm
        simpa using reversed.append_right ((a :: b :: rest).drop (m + 2))
      · rw [List.take_append_of_le_length (by simp; omega), List.take_of_length_le (by simp)]
        simpa [flip] using List.isChain_reverse.mpr run
    | false =>
      obtain ⟨rfl, rfl⟩ := Prod.mk.inj (pure_eq_ok.mp h)
      exact ⟨.refl _, List.isChain_cons_cons.mpr
        ⟨agrees.notBefore b a second first compared, chain⟩⟩

/-! ### Where an element is placed -/

/-- What is known of the place of an element while it is looked for between two positions: it
belongs after what stands before the first, and before what stands at the second. -/
structure BelongsBetween (S : α → α → Prop) (sorted : Array α) (x : α) (low high : Nat) :
    Prop where
  order : low ≤ high
  bound : high ≤ sorted.size
  after : 0 < low → ∀ y, sorted[low - 1]? = some y → S y x
  before : ∀ y, sorted[high]? = some y → S x y

/-- The place that is found is between neighbours with which the element was compared. -/
theorem of_place_eq_ok (agrees : Agrees lt P S) {sorted : Array α} {x : α}
    (members : ∀ y ∈ sorted, P y) (member : P x) {fuel low high p : Nat}
    (enough : high - low ≤ fuel) (between : BelongsBetween S sorted x low high)
    (h : place lt sorted x fuel low high = .ok p) : BelongsBetween S sorted x p p := by
  have found {low high : Nat} (closed : high ≤ low) (between : BelongsBetween S sorted x low high) :
      BelongsBetween S sorted x low low := by
    obtain rfl : low = high := Nat.le_antisymm between.order closed
    exact between
  induction fuel generalizing low high with
  | zero =>
    cases h
    exact found (by omega) between
  | succ fuel ih =>
    rw [place] at h
    split at h
    · rename_i closed
      cases h
      exact found closed between
    · have bound := between.bound
      dsimp only at h
      generalize hm : low + (high - low) / 2 = middle at h
      have inside : middle < sorted.size := by omega
      rw [Array.getElem?_eq_getElem inside] at h
      have there := members _ (Array.getElem_mem inside)
      obtain ⟨comes, compared, h⟩ := bind_eq_ok.mp h
      cases comes with
      | true =>
        refine ih (by omega) ⟨by omega, by omega, between.after, fun y hy => ?_⟩ h
        rw [Array.getElem?_eq_getElem inside] at hy
        obtain rfl := Option.some.inj hy
        exact agrees.before x _ member there compared
      | false =>
        refine ih (by omega) ⟨by omega, bound, fun _ y hy => ?_, between.before⟩ h
        rw [Nat.add_sub_cancel, Array.getElem?_eq_getElem inside] at hy
        obtain rfl := Option.some.inj hy
        exact agrees.notBefore x _ member there compared

theorem belongsBetween_ends (sorted : Array α) (x : α) :
    BelongsBetween S sorted x 0 sorted.size where
  order := Nat.zero_le _
  bound := Nat.le_refl _
  after := fun positive => absurd positive (Nat.lt_irrefl 0)
  before := fun y hy => by simp at hy

theorem isChain_insertIdx {xs : List α} {x : α} {p : Nat} (chain : List.IsChain S xs)
    (after : 0 < p → ∀ y, xs[p - 1]? = some y → S y x) (before : ∀ y, xs[p]? = some y → S x y) :
    List.IsChain S (xs.insertIdx p x) := by
  induction xs generalizing p with
  | nil => cases p <;> simp
  | cons y ys ih =>
    cases p with
    | zero => exact List.isChain_cons_cons.mpr ⟨before y rfl, chain⟩
    | succ p =>
      obtain ⟨head, tail⟩ := List.isChain_cons.mp chain
      rw [List.insertIdx_succ_cons, List.isChain_cons]
      cases p with
      | zero =>
        refine ⟨?_, ih tail (fun positive => absurd positive (Nat.lt_irrefl 0)) before⟩
        simpa using after (Nat.succ_pos 0) y rfl
      | succ p =>
        refine ⟨?_, ih tail (fun _ => after (Nat.succ_pos _)) before⟩
        cases ys with
        | nil => simp
        | cons z zs => simpa using head

/-- Placing the elements one after the other keeps them in order. -/
theorem of_insertAll_eq_ok (agrees : Agrees lt P S) {sorted out : Array α} {xs : List α}
    (members : ∀ x ∈ sorted.toList ++ xs, P x) (chain : List.IsChain S sorted.toList)
    (h : insertAll lt sorted xs = .ok out) :
    out.toList.Perm (sorted.toList ++ xs) ∧ List.IsChain S out.toList := by
  induction xs generalizing sorted with
  | nil =>
    obtain rfl : sorted = out := Except.ok.inj h
    exact ⟨by simp, chain⟩
  | cons x rest ih =>
    rw [insertAll] at h
    obtain ⟨p, placed, h⟩ := bind_eq_ok.mp h
    have inSorted : ∀ y ∈ sorted, P y := fun y hy =>
      members y (List.mem_append_left _ (Array.mem_toList_iff.mpr hy))
    have own : P x := members x (List.mem_append_right _ List.mem_cons_self)
    have between := of_place_eq_ok agrees inSorted own (by omega) (belongsBetween_ends sorted x)
      placed
    have inserted : (sorted.insertIdxIfInBounds p x).toList = sorted.toList.insertIdx p x := by
      simp [Array.insertIdxIfInBounds, between.bound]
    have moved : (sorted.toList.insertIdx p x ++ rest).Perm (sorted.toList ++ x :: rest) :=
      ((List.perm_insertIdx x _ between.bound).append_right rest).trans List.perm_middle.symm
    rw [← inserted] at moved
    obtain ⟨perm, ordered⟩ := ih (fun y hy => members y (moved.mem_iff.mp hy)) (by
      rw [inserted]
      exact isChain_insertIdx chain (by simpa using between.after)
        (by simpa using between.before)) h
    exact ⟨perm.trans moved, ordered⟩

/-- A sort that comes to an end gives the same elements, in every order with which its comparisons
agree. -/
theorem of_sort_eq_ok (agrees : Agrees lt P S) {xs ys : List α} (members : ∀ x ∈ xs, P x)
    (h : sort lt xs = .ok ys) : ys.Perm xs ∧ ys.Pairwise S := by
  unfold sort at h
  obtain ⟨⟨begun, n⟩, started, h⟩ := bind_eq_ok.mp h
  obtain ⟨out, inserted, h⟩ := bind_eq_ok.mp h
  obtain rfl := pure_eq_ok.mp h
  obtain ⟨perm, run⟩ := of_startRun_eq_ok agrees members started
  have membersBegun : ∀ x ∈ (begun.take n).toArray.toList ++ begun.drop n, P x := by
    rw [List.take_append_drop]
    exact fun x hx => members x (perm.mem_iff.mp hx)
  obtain ⟨whole, chain⟩ := of_insertAll_eq_ok agrees membersBegun run inserted
  rw [List.take_append_drop] at whole
  have : Trans S S S := ⟨fun {x y z} => agrees.trans x y z⟩
  exact ⟨whole.trans perm, chain.pairwise⟩

/-! ### Failing comparisons -/

/-- A run that fails does so at a comparison of two of the elements. -/
theorem of_runFrom_eq_error {descending : Bool} {previous : α} {xs : List α} {e : ε}
    (h : runFrom lt descending previous xs = .error e) :
    ∃ a b, [a, b].Subperm (previous :: xs) ∧ lt a b = .error e := by
  induction xs generalizing previous with
  | nil => cases h
  | cons x rest ih =>
    rw [runFrom] at h
    obtain failed | ⟨comes, -, h⟩ := bind_eq_error.mp h
    · refine ⟨x, previous, ?_, failed⟩
      exact (List.Perm.swap previous x []).subperm.trans
        (List.Sublist.subperm (by simp))
    · split at h
      · obtain failed | ⟨m, -, h⟩ := bind_eq_error.mp h
        · obtain ⟨a, b, pair, failed⟩ := ih failed
          exact ⟨a, b, pair.trans (List.sublist_cons_self _ _).subperm, failed⟩
        · cases h
      · cases h

theorem of_startRun_eq_error {xs : List α} {e : ε} (h : startRun lt xs = .error e) :
    ∃ a b, [a, b].Subperm xs ∧ lt a b = .error e := by
  match xs with
  | [] | [_] => cases h
  | a :: b :: rest =>
    rw [startRun] at h
    obtain failed | ⟨descending, -, h⟩ := bind_eq_error.mp h
    · refine ⟨b, a, ?_, failed⟩
      exact (List.Perm.swap a b []).subperm.trans (List.Sublist.subperm (by simp))
    · obtain failed | ⟨m, -, h⟩ := bind_eq_error.mp h
      · obtain ⟨c, d, pair, failed⟩ := of_runFrom_eq_error failed
        exact ⟨c, d, pair.trans (List.sublist_cons_self _ _).subperm, failed⟩
      · cases descending <;> cases h

theorem of_place_eq_error {sorted : Array α} {x : α} {fuel low high : Nat} {e : ε}
    (h : place lt sorted x fuel low high = .error e) : ∃ y ∈ sorted, lt x y = .error e := by
  induction fuel generalizing low high with
  | zero => cases h
  | succ fuel ih =>
    rw [place] at h
    split at h
    · cases h
    · dsimp only at h
      split at h
      · cases h
      · rename_i y found
        obtain failed | ⟨comes, -, h⟩ := bind_eq_error.mp h
        · exact ⟨y, Array.mem_of_getElem? found, failed⟩
        · cases comes with
          | true => exact ih h
          | false => exact ih h

theorem of_insertAll_eq_error {sorted : Array α} {xs : List α} {e : ε}
    (h : insertAll lt sorted xs = .error e) :
    ∃ a b, [a, b].Subperm (sorted.toList ++ xs) ∧ lt a b = .error e := by
  induction xs generalizing sorted with
  | nil => cases h
  | cons x rest ih =>
    rw [insertAll] at h
    obtain failed | ⟨p, -, h⟩ := bind_eq_error.mp h
    · obtain ⟨y, hy, failed⟩ := of_place_eq_error failed
      have single : [y].Sublist (sorted.toList ++ rest) :=
        List.singleton_sublist.mpr (List.mem_append_left _ (Array.mem_toList_iff.mpr hy))
      exact ⟨x, y, (single.cons_cons x).subperm.trans List.perm_middle.symm.subperm, failed⟩
    · obtain ⟨a, b, pair, failed⟩ := ih h
      refine ⟨a, b, pair.trans (List.Subperm.trans ?_ List.perm_middle.symm.subperm), failed⟩
      have inserted : (sorted.insertIdxIfInBounds p x).toList.Subperm (x :: sorted.toList) := by
        unfold Array.insertIdxIfInBounds
        split
        · rename_i bound
          rw [Array.toList_insertIdx]
          exact (List.perm_insertIdx x _ bound).subperm
        · exact (List.sublist_cons_self x _).subperm
      exact (List.subperm_append_right rest).mpr inserted

/-- A sort that fails does so at a comparison of two of the elements. -/
theorem of_sort_eq_error {xs : List α} {e : ε} (h : sort lt xs = .error e) :
    ∃ a b, [a, b].Subperm xs ∧ lt a b = .error e := by
  unfold sort at h
  obtain failed | ⟨⟨begun, n⟩, started, h⟩ := bind_eq_error.mp h
  · exact of_startRun_eq_error failed
  · obtain failed | ⟨out, -, h⟩ := bind_eq_error.mp h
    · obtain ⟨a, b, pair, failed⟩ := of_insertAll_eq_error failed
      rw [List.take_append_drop] at pair
      have always : Agrees lt (fun _ => True) fun _ _ => True := by constructor <;> simp
      obtain ⟨perm, -⟩ := of_startRun_eq_ok always (by simp) started
      exact ⟨a, b, pair.trans perm.subperm, failed⟩
    · cases h

/-- A relation without a direction that holds of each two elements holds of two of them in any
order. -/
theorem of_subperm_pairwise {R : α → α → Prop} (symm : ∀ {x y}, R x y → R y x) {a b : α}
    {xs : List α} (pair : [a, b].Subperm xs) (h : xs.Pairwise R) : R a b := by
  obtain ⟨ordered, perm, within⟩ := pair
  have two := (h.sublist within).perm perm symm
  simpa using two

/-- Whether two elements can be compared either way. -/
def AreComparable (lt : α → α → Except ε Bool) (x y : α) : Prop :=
  (∃ r, lt x y = .ok r) ∧ ∃ r, lt y x = .ok r

/-- A sort comes to an end if each two elements can be compared. -/
theorem exists_sort (xs : List α) (h : xs.Pairwise (AreComparable lt)) :
    ∃ ys, sort lt xs = .ok ys := by
  cases run : sort lt xs with
  | ok ys => exact ⟨ys, rfl⟩
  | error e =>
    obtain ⟨a, b, pair, failed⟩ := of_sort_eq_error run
    obtain ⟨⟨r, compared⟩, -⟩ := of_subperm_pairwise And.symm pair h
    rw [failed] at compared
    cases compared

end Sorting
end SchemaReview
