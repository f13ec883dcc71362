import Mathlib

/-!
# How a run ends

A computation that may fail succeeds exactly when each of its steps does, and fails exactly when one
of them does, so a run can be turned into the results of its steps.

A run is described by two predicates on its failures: those with which it may end at any time, and
those that have a cause in its input. It ends well exactly where there is no cause, unless it is
refused. Such a description is carried through the steps of a run and over lists.
-/
namespace SchemaReview

variable {ε σ α β : Type}

/-! ### What a run says about its steps -/

theorem bind_eq_ok {x : Except ε α} {f : α → Except ε β} {b : β} :
    (x >>= f) = .ok b ↔ ∃ a, x = .ok a ∧ f a = .ok b := by
  cases x <;> simp [bind, Except.bind]

theorem bind_eq_error {x : Except ε α} {f : α → Except ε β} {e : ε} :
    (x >>= f) = .error e ↔ x = .error e ∨ ∃ a, x = .ok a ∧ f a = .error e := by
  cases x <;> simp [bind, Except.bind]

theorem map_eq_ok {x : Except ε α} {f : α → β} {b : β} :
    (f <$> x) = .ok b ↔ ∃ a, x = .ok a ∧ f a = b := by
  cases x <;> simp [Functor.map, Except.map]

theorem map_eq_error {x : Except ε α} {f : α → β} {e : ε} :
    (f <$> x) = .error e ↔ x = .error e := by
  cases x <;> simp [Functor.map, Except.map]

@[simp] theorem pure_eq_ok {a b : α} : (pure a : Except ε α) = .ok b ↔ a = b := by
  simp [pure, Except.pure]

@[simp] theorem throw_eq_ok {e : ε} {a : α} : (throw e : Except ε α) = .ok a ↔ False := by
  constructor
  · intro h
    cases h
  · exact False.elim

theorem state_bind_eq_ok {x : StateT σ (Except ε) α} {f : α → StateT σ (Except ε) β} {s u : σ}
    {b : β} : (x >>= f) s = .ok (b, u) ↔ ∃ a t, x s = .ok (a, t) ∧ f a t = .ok (b, u) := by
  cases h : x s with
  | error e => simp [bind, StateT.bind, Except.bind, h]
  | ok r =>
    obtain ⟨a, t⟩ := r
    simp [bind, StateT.bind, Except.bind, h]

@[simp] theorem state_pure_eq_ok {a b : α} {s u : σ} :
    (pure a : StateT σ (Except ε) α) s = .ok (b, u) ↔ a = b ∧ s = u := by
  simp [pure, StateT.pure, Except.pure]

theorem state_get_bind {f : σ → StateT σ (Except ε) β} {s : σ} :
    ((get : StateT σ (Except ε) σ) >>= f) s = f s s := rfl

/-- A walk over a list that succeeds has a result for each element. -/
theorem of_mapM_eq_ok {f : α → Except ε β} {xs : List α} {ys : List β} (h : xs.mapM f = .ok ys) :
    ∀ x ∈ xs, ∃ y ∈ ys, f x = .ok y := by
  induction xs generalizing ys with
  | nil => simp
  | cons x rest ih =>
    rw [List.mapM_cons] at h
    obtain ⟨y, hy, h⟩ := bind_eq_ok.mp h
    obtain ⟨others, ho, h⟩ := bind_eq_ok.mp h
    obtain rfl := pure_eq_ok.mp h
    refine List.forall_mem_cons.mpr ⟨⟨y, List.mem_cons_self, hy⟩, fun z hz => ?_⟩
    obtain ⟨w, hw, he⟩ := ih ho z hz
    exact ⟨w, List.mem_cons_of_mem _ hw, he⟩

/-- A walk that succeeds has a result for each element, in their order. -/
theorem forall₂_of_mapM_eq_ok {f : α → Except ε β} {xs : List α} {ys : List β}
    (h : xs.mapM f = .ok ys) : List.Forall₂ (fun x y => f x = .ok y) xs ys := by
  induction xs generalizing ys with
  | nil =>
    obtain rfl := pure_eq_ok.mp h
    exact .nil
  | cons x rest ih =>
    rw [List.mapM_cons] at h
    obtain ⟨y, made, h⟩ := bind_eq_ok.mp h
    obtain ⟨others, walked, h⟩ := bind_eq_ok.mp h
    obtain rfl := pure_eq_ok.mp h
    exact .cons made (ih walked)

/-- A walk that succeeds on every element gives the list of its results. -/
theorem mapM_eq_ok_map {f : α → Except ε β} {g : α → β} {xs : List α}
    (h : ∀ x ∈ xs, f x = .ok (g x)) : xs.mapM f = .ok (xs.map g) := by
  induction xs with
  | nil => rfl
  | cons x rest ih =>
    rw [List.forall_mem_cons] at h
    rw [List.mapM_cons, h.1, ih h.2]
    rfl

/-- A selection whose tests all succeed is the selection by their results. -/
theorem filterM_eq_ok {f : α → Except ε Bool} {test : α → Bool} {xs : List α}
    (h : ∀ x ∈ xs, f x = .ok (test x)) : xs.filterM f = .ok (xs.filter test) := by
  have walk (kept : List α) : xs.filterAuxM f kept = .ok ((xs.filter test).reverse ++ kept) := by
    induction xs generalizing kept with
    | nil => rfl
    | cons x rest ih =>
      rw [List.forall_mem_cons] at h
      show (f x >>= fun b => rest.filterAuxM f (cond b (x :: kept) kept)) = _
      rw [h.1]
      show rest.filterAuxM f (cond (test x) (x :: kept) kept) = _
      rw [ih h.2]
      cases chosen : test x <;> simp [chosen]
  show (xs.filterAuxM f [] >>= fun ys => pure ys.reverse) = _
  rw [walk []]
  simp [bind, Except.bind, pure, Except.pure]

/-- A walk that succeeds does so on every element, and its results are in the order of the
elements. -/
theorem exists_map_of_mapM_eq_ok [Inhabited β] {f : α → Except ε β} {xs : List α} {ys : List β}
    (h : xs.mapM f = .ok ys) : ∃ g : α → β, (∀ x ∈ xs, f x = .ok (g x)) ∧ ys = xs.map g := by
  let result (x : α) : β := match f x with
    | .ok y => y
    | .error _ => default
  have ran : ∀ x ∈ xs, f x = .ok (result x) := by
    intro x hx
    obtain ⟨y, -, hy⟩ := of_mapM_eq_ok h x hx
    simp only [result, hy]
  have same := mapM_eq_ok_map ran
  rw [h] at same
  exact ⟨result, ran, Except.ok.inj same⟩

/-- A walk that fails does so at one of its elements. -/
theorem exists_of_mapM_eq_error {f : α → Except ε β} {xs : List α} {e : ε}
    (h : xs.mapM f = .error e) : ∃ x ∈ xs, f x = .error e := by
  induction xs with
  | nil => cases h
  | cons x rest ih =>
    rw [List.mapM_cons] at h
    cases first : f x with
    | error fault =>
      rw [first] at h
      cases h
      exact ⟨x, List.mem_cons_self, first⟩
    | ok y =>
      cases others : rest.mapM f with
      | error fault =>
        rw [first, others] at h
        cases h
        obtain ⟨z, hz, failed⟩ := ih others
        exact ⟨z, List.mem_cons_of_mem _ hz, failed⟩
      | ok ys =>
        rw [first, others] at h
        cases h

/-- Whether a run comes to a result. -/
def Succeeds (x : Except ε α) : Prop := ∃ a, x = .ok a

namespace Succeeds

variable {x : Except ε α}

theorem ok (a : α) : Succeeds (.ok a : Except ε α) := ⟨a, rfl⟩

theorem bind {f : α → Except ε β} (first : Succeeds x) (next : ∀ a, Succeeds (f a)) :
    Succeeds (x >>= f) := by
  obtain ⟨a, rfl⟩ := first
  exact next a

theorem map {f : α → β} (h : Succeeds x) : Succeeds (f <$> x) := by
  obtain ⟨a, rfl⟩ := h
  exact ⟨f a, rfl⟩

theorem mapM {f : α → Except ε β} {xs : List α} (h : ∀ a ∈ xs, Succeeds (f a)) :
    Succeeds (xs.mapM f) := by
  cases walked : xs.mapM f with
  | ok ys => exact ok ys
  | error e =>
    obtain ⟨a, ha, failed⟩ := exists_of_mapM_eq_error walked
    obtain ⟨b, made⟩ := h a ha
    rw [made] at failed
    cases failed

end Succeeds

/-! ### Failures with a cause -/

/-- A run gives a result where no failure has a cause, and otherwise fails: for a cause, or because
it is refused. -/
def Ends (refused cause : ε → Prop) (run : Except ε α) : Prop :=
  ((∃ a, run = .ok a) ∧ ∀ e, ¬ cause e) ∨ ∃ e, run = .error e ∧ (refused e ∨ cause e)

/-- A run that is never refused: it fails for a cause or not at all. -/
abbrev EndsFor (cause : ε → Prop) (run : Except ε α) : Prop := Ends (fun _ => False) cause run

namespace Ends

variable {refused cause other : ε → Prop} {x : Except ε α}

theorem ok (a : α) (clear : ∀ e, ¬ cause e) : Ends refused cause (.ok a) := .inl ⟨⟨a, rfl⟩, clear⟩

theorem refuse {e : ε} (h : refused e) : Ends refused cause (.error e : Except ε α) :=
  .inr ⟨e, rfl, .inl h⟩

theorem fault {e : ε} (h : cause e) : Ends refused cause (.error e : Except ε α) :=
  .inr ⟨e, rfl, .inr h⟩

/-- A run does not end with a failure that is neither refused nor caused. -/
theorem ne_error {e : ε} (h : Ends refused cause x) (unrefused : ¬ refused e)
    (uncaused : ¬ cause e) : x ≠ .error e := by
  rintro rfl
  obtain ⟨⟨a, made⟩, -⟩ | ⟨e, same, failed⟩ := h
  · cases made
  · cases same
    exact failed.elim unrefused uncaused

/-- A description depends on which causes there are only. -/
theorem congr (h : Ends refused cause x) (same : ∀ e, cause e ↔ other e) :
    Ends refused other x := by
  obtain rfl : cause = other := funext fun e => propext (same e)
  exact h

/-- A step and what follows it have their causes together. -/
theorem bind {f : α → Except ε β} (first : Ends refused cause x)
    (next : ∀ a, x = .ok a → Ends refused other (f a)) :
    Ends refused (fun e => cause e ∨ other e) (x >>= f) := by
  obtain ⟨⟨a, rfl⟩, clear⟩ | ⟨e, rfl, failed⟩ := first
  · obtain ⟨⟨b, hb⟩, rest⟩ | ⟨e, he, failed⟩ := next a rfl
    · exact .inl ⟨⟨b, hb⟩, fun e => not_or.mpr ⟨clear e, rest e⟩⟩
    · exact .inr ⟨e, he, failed.imp_right .inr⟩
  · exact .inr ⟨e, rfl, failed.imp_right .inl⟩

/-- What follows a step and is refused at most adds no cause. -/
theorem followed {f : α → Except ε β} (first : Ends refused cause x)
    (next : ∀ a e, f a = .error e → refused e) : Ends refused cause (x >>= f) := by
  obtain ⟨⟨a, rfl⟩, clear⟩ | ⟨e, rfl, failed⟩ := first
  · cases h : f a with
    | ok b => exact .inl ⟨⟨b, h⟩, clear⟩
    | error e => exact .inr ⟨e, h, .inl (next a e h)⟩
  · exact .inr ⟨e, rfl, failed⟩

/-- What follows a step without failing adds no cause. -/
theorem then_ok {f : α → Except ε β} {g : α → β} (first : Ends refused cause x)
    (next : ∀ a, f a = .ok (g a)) : Ends refused cause (x >>= f) := by
  refine first.followed fun a e h => ?_
  rw [next a] at h
  cases h

/-- A step that is refused at most adds no cause to what follows it. -/
theorem after {f : α → Except ε β} (first : ∀ e, x = .error e → refused e)
    (next : ∀ a, x = .ok a → Ends refused cause (f a)) : Ends refused cause (x >>= f) := by
  cases x with
  | ok a => exact next a rfl
  | error e => exact refuse (first e rfl)

/-- A walk over a list has the causes of its elements. -/
theorem mapM {f : α → Except ε β} {causes : α → ε → Prop} {xs : List α}
    (h : ∀ a ∈ xs, Ends refused (causes a) (f a)) :
    Ends refused (fun e => ∃ a ∈ xs, causes a e) (xs.mapM f) := by
  induction xs with
  | nil => exact ok [] (by simp)
  | cons a rest ih =>
    rw [List.forall_mem_cons] at h
    rw [List.mapM_cons]
    have walk := h.1.bind fun b _ => (ih h.2).then_ok (g := (b :: ·)) fun _ => rfl
    exact walk.congr fun e => by simp

/-- A walk over a list has a result for each element and no cause anywhere, or it fails for the
cause of an element. -/
theorem mapM_cases [Inhabited β] {f : α → Except ε β} {causes : α → ε → Prop} {xs : List α}
    (h : ∀ a ∈ xs, EndsFor (causes a) (f a)) :
    (∃ g : α → β, (∀ a ∈ xs, f a = .ok (g a)) ∧ xs.mapM f = .ok (xs.map g) ∧
      ∀ a ∈ xs, ∀ e, ¬ causes a e) ∨
    ∃ a ∈ xs, ∃ e, causes a e ∧ xs.mapM f = .error e := by
  obtain ⟨⟨ys, walked⟩, clear⟩ | ⟨e, walked, refused | ⟨a, ha, failed⟩⟩ := mapM h
  · obtain ⟨g, ran, rfl⟩ := exists_map_of_mapM_eq_ok walked
    exact .inl ⟨g, ran, walked, fun a ha e failed => clear e ⟨a, ha, failed⟩⟩
  · exact refused.elim
  · exact .inr ⟨a, ha, e, failed, walked⟩

/-- A selection from a list has the causes of its elements. -/
theorem filterM {f : α → Except ε Bool} {causes : α → ε → Prop} {xs : List α}
    (h : ∀ a ∈ xs, Ends refused (causes a) (f a)) :
    Ends refused (fun e => ∃ a ∈ xs, causes a e) (xs.filterM f) := by
  have walk (kept : List α) :
      Ends refused (fun e => ∃ a ∈ xs, causes a e) (xs.filterAuxM f kept) := by
    induction xs generalizing kept with
    | nil => exact ok kept (by simp)
    | cons a rest ih =>
      rw [List.forall_mem_cons] at h
      exact (h.1.bind fun b _ => ih h.2 _).congr fun e => by simp
  exact (walk []).then_ok fun _ => rfl

end Ends

/-! ### Two runs side by side

Two computations that may fail end alike if both come to results that belong together, or both fail
with failures that belong together. Steps that end alike can be followed by steps that do, so two
runs of one program on related inputs are compared step by step. -/

section

variable {ε' γ δ : Type}

/-- Whether two runs both fail, with failures in `E`, or both give a result, with results in `R`. -/
inductive EndAlike (E : ε → ε' → Prop) (R : α → β → Prop) : Except ε α → Except ε' β → Prop
  | ok {a b} (results : R a b) : EndAlike E R (.ok a) (.ok b)
  | error {e f} (failures : E e f) : EndAlike E R (.error e) (.error f)

namespace EndAlike

variable {E : ε → ε' → Prop} {R : α → β → Prop} {S : γ → δ → Prop} {x : Except ε α}
  {y : Except ε' β}

theorem bind {f : α → Except ε γ} {g : β → Except ε' δ} (first : EndAlike E R x y)
    (next : ∀ a b, R a b → EndAlike E S (f a) (g b)) : EndAlike E S (x >>= f) (y >>= g) := by
  cases first with
  | ok results => exact next _ _ results
  | error failures => exact .error failures

theorem mono {R' : α → β → Prop} (h : EndAlike E R x y) (weaker : ∀ a b, R a b → R' a b) :
    EndAlike E R' x y := by
  cases h with
  | ok results => exact .ok (weaker _ _ results)
  | error failures => exact .error failures

/-- One run ends as it ends. -/
theorem refl (x : Except ε α) : EndAlike Eq Eq x x := by
  cases x with
  | ok a => exact .ok rfl
  | error e => exact .error rfl

/-- The two ways in which runs end alike. -/
theorem cases (h : EndAlike E R x y) :
    (∃ e f, x = .error e ∧ y = .error f ∧ E e f) ∨ ∃ a b, x = .ok a ∧ y = .ok b ∧ R a b := by
  cases h with
  | ok results => exact .inr ⟨_, _, rfl, rfl, results⟩
  | error failures => exact .inl ⟨_, _, rfl, rfl, failures⟩

end EndAlike

/-- Whether two runs with a state end alike from each state, with one failure or with one state and
results in `R`. -/
def RunAlike (R : α → β → Prop) (x : StateT σ (Except ε) α) (y : StateT σ (Except ε) β) : Prop :=
  ∀ s, EndAlike Eq (fun p q => R p.1 q.1 ∧ p.2 = q.2) (x s) (y s)

namespace RunAlike

variable {R : α → β → Prop} {S : γ → δ → Prop} {x : StateT σ (Except ε) α}
  {y : StateT σ (Except ε) β}

theorem pure {a : α} {b : β} (h : R a b) :
    RunAlike R (Pure.pure a : StateT σ (Except ε) α) (Pure.pure b) :=
  fun _ => .ok ⟨h, rfl⟩

theorem refl (x : StateT σ (Except ε) α) : RunAlike Eq x x := by
  intro s
  cases x s with
  | ok p => exact .ok ⟨rfl, rfl⟩
  | error e => exact .error rfl

/-- A failure that does not depend on the state. -/
theorem throw (e : ε) :
    RunAlike R (MonadExcept.throw e : StateT σ (Except ε) α) (MonadExcept.throw e) :=
  fun _ => .error rfl

theorem bind {f : α → StateT σ (Except ε) γ} {g : β → StateT σ (Except ε) δ}
    (first : RunAlike R x y) (next : ∀ a b, R a b → RunAlike S (f a) (g b)) :
    RunAlike S (x >>= f) (y >>= g) := by
  intro s
  refine (first s).bind fun p q h => ?_
  obtain ⟨a, t⟩ := p
  obtain ⟨b, u⟩ := q
  obtain ⟨results, rfl⟩ := h
  exact next a b results t

end RunAlike

end

end SchemaReview
