import Mathlib
import SchemaReview.Pattern.Expression

/-!
# Patterns without groups

Single characters, anchors, sequences, choices and repetitions of one character set no marks and
look at none. The places where a match of such a pattern can end are given by recursion over the
pattern, the preferred one first, and the search finds the first of them.
-/
namespace SchemaReview.Pattern

/-! ### Attempts that leave the marks alone -/

section

variable {inside : Bool} {marks : Marks} {α β : Type}

theorem attempt_bind (x : StateM Marks α) (f : α → StateM Marks β) (marks : Marks) :
    (x >>= f) marks = f (x marks).1 (x marks).2 := rfl

theorem attempt_get (marks : Marks) : (get : StateM Marks Marks) marks = (marks, marks) := rfl

theorem putBack_self : putBack inside marks marks = ((), marks) := by
  cases inside with
  | true => rfl
  | false => exact congrArg (Prod.mk ()) List.take_length

/-- Of attempts that leave the marks alone, the first one that succeeds is taken. -/
theorem firstSuccess_eq {attempt : Nat → Attempt} {found : Nat → List Nat} {places : List Nat}
    (tries : ∀ p ∈ places, attempt p marks = ((found p).head?, marks)) :
    firstSuccess inside marks attempt places marks = ((places.flatMap found).head?, marks) := by
  induction places with
  | nil => rfl
  | cons p rest ih =>
    rw [List.forall_mem_cons] at tries
    rw [firstSuccess, attempt_bind, tries.1, List.flatMap_cons]
    cases found p with
    | nil =>
      have next := ih tries.2
      simpa only [List.head?_nil, List.nil_append, attempt_bind, putBack_self] using next
    | cons q others => rfl

end

namespace Node

/-! ### Where matches end -/

/-- Whether a pattern is made of single characters, anchors, sequences, choices and repetitions of
one character. -/
@[simp] def isPlain : Node → Bool
  | .empty | .literal .. | .any _ | .set .. | .anchor .. => true
  | .seq a b => a.isPlain && b.isPlain
  | .alt a b => a.isPlain && b.isPlain
  | .rounds _ _ _ body => body.isUnit
  | .scoped body => body.isPlain
  | _ => false

/-- The number of rounds that a repetition of a unit can have from a place. -/
def reach (subject : Array Char) (most : Option Nat) (body : Node) (p : Nat) : Nat :=
  match most with
  | some m => min m (unitRun subject body.unitHolds p)
  | none => unitRun subject body.unitHolds p

/-- The places where a match of a plain pattern from a place can end, the preferred one first. -/
@[simp] def ends (subject : Array Char) : Node → Nat → List Nat
  | .empty, p => [p]
  | .anchor flags a, p => if anchorHolds flags subject p a then [p] else []
  | .seq a b, p => (a.ends subject p).flatMap (b.ends subject)
  | .alt a b, p => a.ends subject p ++ b.ends subject p
  | .rounds least most greed body, p => unitEnds greed least (reach subject most body p) p
  | .scoped body, p => body.ends subject p
  | n, p => if run.holdsAt subject n.unitHolds p then [p + 1] else []

/-- The places where a match of several patterns, one after another, can end. -/
@[simp] def endsOf (subject : Array Char) : List Node → Nat → List Nat
  | [], p => [p]
  | n :: rest, p => (n.ends subject p).flatMap (endsOf subject rest)

/-- The frames that a path through several patterns can pass. -/
def framesOf (size : Nat) (nodes : List Node) : Nat := (nodes.map (frames size)).sum

@[simp] theorem framesOf_cons (size : Nat) (n : Node) (rest : List Node) :
    framesOf size (n :: rest) = n.frames size + framesOf size rest := by
  simp [framesOf]

end Node

/-- A possessive repetition ends in one place only. -/
theorem unitEnds_possessive (least reach p : Nat) :
    unitEnds .possessive least reach p = if reach < least then [] else [p + reach] := by
  unfold unitEnds
  dsimp only
  split
  · rename_i short
    have noEnds : reach + 1 - least = 0 := by omega
    simp [noEnds]
  · rename_i enough
    obtain ⟨k, rfl⟩ : ∃ k, reach = least + k := ⟨reach - least, by omega⟩
    simp [List.range_succ, Nat.add_assoc]

/-! ### The search -/

open Node

variable {subject : Array Char}

/-- The search for a match of plain patterns finds the first of its ends, and leaves the marks as
they are. -/
theorem run_plain {fuel : Nat} {nodes : List Node} (plain : ∀ n ∈ nodes, n.isPlain = true)
    (enough : framesOf subject.size nodes < fuel) (inside : Bool) (p : Nat) (marks : Marks) :
    run subject fuel (nodes.map Frame.node) inside p marks =
      ((endsOf subject nodes p).head?, marks) := by
  induction fuel generalizing nodes p with
  | zero => omega
  | succ fuel ih =>
    cases nodes with
    | nil => rfl
    | cons n rest =>
      rw [List.forall_mem_cons] at plain
      obtain ⟨first, others⟩ := plain
      rw [framesOf_cons] at enough
      have goOn (q : Nat) (fewer : framesOf subject.size rest < fuel) :
          run subject fuel (rest.map Frame.node) inside q marks =
            ((endsOf subject rest q).head?, marks) := ih others fewer q
      rw [List.map_cons, endsOf]
      cases n with
      | empty =>
        simp only [frames] at enough
        simpa [run] using goOn p (by omega)
      | literal | any | set =>
        simp only [frames] at enough
        simp only [run, ends]
        split
        · simpa using goOn (p + 1) (by omega)
        · rfl
      | anchor flags a =>
        simp only [frames] at enough
        simp only [run, ends]
        split
        · simpa using goOn p (by omega)
        · rfl
      | seq a b =>
        simp only [frames] at enough
        simp only [isPlain, Bool.and_eq_true] at first
        have both := @ih (a :: b :: rest) (by simpa using ⟨first.1, first.2, others⟩)
          (by simp; omega) p
        simpa [run, List.flatMap_assoc] using both
      | «scoped» body =>
        simp only [frames] at enough
        have inner := @ih (body :: rest) (by simpa using ⟨first, others⟩)
          (by simp; omega) p
        simpa [run] using inner
      | alt a b =>
        simp only [frames] at enough
        simp only [isPlain, Bool.and_eq_true] at first
        have left := @ih (a :: rest) (by simpa using ⟨first.1, others⟩)
          (by simp; omega) p
        have right := @ih (b :: rest) (by simpa using ⟨first.2, others⟩)
          (by simp; omega) p
        simp only [List.map_cons, endsOf] at left right
        simp only [run, ends, List.flatMap_append, attempt_bind, attempt_get, left]
        cases (a.ends subject p).flatMap (endsOf subject rest) with
        | nil =>
          simp only [List.head?_nil, List.nil_append, attempt_bind, putBack_self, right]
          cases ((b.ends subject p).flatMap (endsOf subject rest)) with
          | nil => simp only [List.head?_nil, attempt_bind, putBack_self]; rfl
          | cons q more => rfl
        | cons q more => rfl
      | rounds least most greed body =>
        simp only [frames] at enough
        simp only [isPlain] at first
        have goOn (q : Nat) := goOn q (by omega)
        simp only [run, ends, first, if_true]
        cases greed with
        | greedy | lazy => exact firstSuccess_eq fun q _ => goOn q
        | possessive =>
          change (if reach subject most body p < least then pure none else
            run subject fuel (rest.map Frame.node) inside (p + reach subject most body p)) marks = _
          rw [unitEnds_possessive]
          split
          · rfl
          · simpa using goOn (p + reach subject most body p)
      | _ => cases first

theorem marksAtStart?_plain {node : Node} (plain : node.isPlain = true) :
    node.marksAtStart? subject = if node.ends subject 0 = [] then none else some [] := by
  have ran := @run_plain subject (node.frames subject.size + 1) [node] (by simpa using plain)
    (by simp [framesOf]) false 0 []
  unfold marksAtStart?
  rw [List.map_singleton] at ran
  simp only [ran, endsOf]
  cases node.ends subject 0 <;> rfl

/-- An expression with a plain pattern matches a text that is long enough where a match can end. -/
theorem match?_plain {e : Expression} (plain : e.node.isPlain = true) (text : String) :
    e.match? text =
      .ok (decide (e.least ≤ text.toList.length ∧ e.node.ends text.toList.toArray 0 ≠ [])) := by
  unfold Expression.match? Expression.marksAtStart?
  dsimp only
  rw [List.size_toArray, marksAtStart?_plain plain]
  by_cases short : text.toList.length < e.least
  · simp [short]
  · by_cases endless : e.node.ends text.toList.toArray 0 = []
    · simp [short, endless]
    · simp only [short, endless, if_false, ne_eq, not_false_eq_true, and_true]
      rw [decide_eq_true (by omega)]
      rfl

/-! ### Runs up to the end of a line -/

/-- The pattern of a run of characters that ends where the text or its last line does. -/
def runToEnd (least : Nat) (unit : Node) : Node :=
  .seq (.rounds least none .greedy unit) (.anchor {} .lineEnd)

/-- Characters that pass a test, at least so many, and after them nothing or a line end. -/
def IsRunToEnd (least : Nat) (test : Char → Bool) (chars : List Char) : Prop :=
  ∃ word rest, chars = word ++ rest ∧ least ≤ word.length ∧ (∀ c ∈ word, test c = true) ∧
    (rest = [] ∨ rest = ['\n'])

theorem mem_unitEnds_greedy {least reach p q : Nat} :
    q ∈ unitEnds .greedy least reach p ↔ p + least ≤ q ∧ q ≤ p + reach := by
  simp only [unitEnds, List.mem_reverse, List.mem_map, List.mem_range]
  constructor
  · rintro ⟨k, few, rfl⟩
    omega
  · rintro ⟨low, high⟩
    exact ⟨q - p - least, by omega, by omega⟩

theorem anchorHolds_lineEnd_iff {p : Nat} (inText : p ≤ subject.size) :
    anchorHolds {} subject p .lineEnd = true ↔
      subject.toList.drop p = [] ∨ subject.toList.drop p = ['\n'] := by
  unfold anchorHolds
  by_cases last : p = subject.size
  · simp [last]
  · have before : p < subject.toList.length := by
      rw [Array.length_toList]
      omega
    have after : subject.toList.drop (p + 1) = [] ↔ p + 1 = subject.size := by
      rw [List.drop_eq_nil_iff, Array.length_toList]
      omega
    rw [List.drop_eq_getElem_cons before]
    simp [last, after, Array.getElem?_eq_getElem (show p < subject.size by omega)]

theorem take_of_le_takeWhile {α : Type} {test : α → Bool} {xs : List α} {k : Nat}
    (h : k ≤ (xs.takeWhile test).length) : ∀ x ∈ xs.take k, test x = true := by
  have same : xs.take k = (xs.takeWhile test).take k := by
    obtain ⟨rest, whole⟩ := xs.takeWhile_prefix test
    conv_lhs => rw [← whole, List.take_append_of_le_length h]
  intro x hx
  rw [same] at hx
  exact List.mem_takeWhile_imp (List.mem_of_mem_take hx)

theorem ends_runToEnd_ne_nil {least p : Nat} {unit : Node} (inText : p ≤ subject.size) :
    (runToEnd least unit).ends subject p ≠ [] ↔
      IsRunToEnd least unit.unitHolds (subject.toList.drop p) := by
  have mem (q : Nat) : q ∈ (runToEnd least unit).ends subject p ↔
      (p + least ≤ q ∧ q ≤ p + unitRun subject unit.unitHolds p) ∧
        anchorHolds {} subject q .lineEnd = true := by
    simp only [runToEnd, ends, reach, List.mem_flatMap, mem_unitEnds_greedy]
    constructor
    · rintro ⟨m, span, here⟩
      split at here
      · rename_i holds
        obtain rfl := List.mem_singleton.mp here
        exact ⟨span, holds⟩
      · cases here
    · rintro ⟨span, holds⟩
      exact ⟨q, span, by simp [holds]⟩
  have taken : unitRun subject unit.unitHolds p ≤ (subject.toList.drop p).length :=
    (List.takeWhile_sublist _).length_le
  rw [List.length_drop, Array.length_toList] at taken
  constructor
  · intro matched
    obtain ⟨q, found⟩ := List.exists_mem_of_ne_nil _ matched
    obtain ⟨⟨low, high⟩, holds⟩ := (mem q).mp found
    obtain ⟨k, rfl⟩ : ∃ k, q = p + k := ⟨q - p, by omega⟩
    have rest := (anchorHolds_lineEnd_iff (by omega)).mp holds
    refine ⟨(subject.toList.drop p).take k, subject.toList.drop (p + k), ?_, ?_, ?_, rest⟩
    · rw [← List.drop_drop, List.take_append_drop]
    · rw [List.length_take, List.length_drop, Array.length_toList]
      omega
    · exact take_of_le_takeWhile (by unfold unitRun at high; omega)
  · rintro ⟨word, rest, whole, long, all, ending⟩ endless
    have far : word.length ≤ unitRun subject unit.unitHolds p := by
      rw [unitRun, whole, List.takeWhile_append_of_pos all, List.length_append]
      omega
    have left : subject.toList.drop (p + word.length) = rest := by
      rw [← List.drop_drop, whole, List.drop_left]
    have found := (mem (p + word.length)).mpr
      ⟨⟨by omega, by omega⟩, (anchorHolds_lineEnd_iff (by omega)).mpr (by rw [left]; exact ending)⟩
    rw [endless] at found
    cases found

/-- The pattern of texts that begin with a character of one set and go on with characters of
another up to the end of the text or of its last line. -/
def wordPattern (first others : List SetItem) : Node :=
  .seq (.anchor {} .lineStart) (.seq (.set {} false first) (runToEnd 0 (.set {} false others)))

/-- The pattern of texts that characters of one set make up, to the end of the text or of its last
line. -/
def runPattern (items : List SetItem) : Node :=
  .seq (.anchor {} .lineStart) (runToEnd 1 (.set {} false items))

theorem unitHolds_set (items : List SetItem) :
    (Node.set {} false items).unitHolds = setHolds {} items := by
  funext c
  simp [unitHolds]

theorem ends_lineStart (next : Node) :
    (Node.seq (.anchor {} .lineStart) next).ends subject 0 = next.ends subject 0 := by
  simp [anchorHolds]

/-- A run of one character at least begins with a character. -/
theorem isRunToEnd_one {test : Char → Bool} {chars : List Char} :
    IsRunToEnd 1 test chars ↔
      ∃ c rest, chars = c :: rest ∧ test c = true ∧ IsRunToEnd 0 test rest := by
  constructor
  · rintro ⟨word, rest, rfl, long, all, ending⟩
    cases word with
    | nil => cases long
    | cons c word =>
      rw [List.forall_mem_cons] at all
      exact ⟨c, word ++ rest, rfl, all.1, word, rest, rfl, Nat.zero_le _, all.2, ending⟩
  · rintro ⟨c, _, rfl, first, word, rest, rfl, -, all, ending⟩
    exact ⟨c :: word, rest, rfl, by simp, List.forall_mem_cons.mpr ⟨first, all⟩, ending⟩

theorem ends_wordPattern_ne_nil {first others : List SetItem} :
    (wordPattern first others).ends subject 0 ≠ [] ↔
      ∃ c rest, subject.toList = c :: rest ∧ setHolds {} first c = true ∧
        IsRunToEnd 0 (setHolds {} others) rest := by
  have holdsAt : run.holdsAt subject (Node.set {} false first).unitHolds 0 =
      subject.toList.head?.any (setHolds {} first) := by
    rw [unitHolds_set, run.holdsAt, ← Array.getElem?_toList]
    cases subject.toList <;> rfl
  rw [wordPattern, ends_lineStart]
  simp only [ends, holdsAt]
  cases whole : subject.toList with
  | nil => simp
  | cons c rest =>
    have inText : 1 ≤ subject.size := by simp [← Array.length_toList, whole]
    have tail := @ends_runToEnd_ne_nil subject 0 1 (.set {} false others) inText
    rw [unitHolds_set, whole, List.drop_one, List.tail_cons] at tail
    by_cases begins : setHolds {} first c = true
    · simp [begins, tail]
    · simp [begins]

theorem ends_runPattern_ne_nil {items : List SetItem} :
    (runPattern items).ends subject 0 ≠ [] ↔
      ∃ c rest, subject.toList = c :: rest ∧ setHolds {} items c = true ∧
        IsRunToEnd 0 (setHolds {} items) rest := by
  rw [runPattern, ends_lineStart, ends_runToEnd_ne_nil (Nat.zero_le _), unitHolds_set,
    List.drop_zero, isRunToEnd_one]

end SchemaReview.Pattern
