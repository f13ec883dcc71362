import Mathlib
import SchemaReview.Proofs.Text.Words
import SchemaReview.Protobuf.Block

/-!
# Scanning what was printed

The scan for statements and blocks undoes printing them, however the blanks are chosen, and it
fails only for braces that have no partner. The braces that are open where the scan stands are the
ones on its stack, with text between them in which every brace has a partner; so a closing brace
that finds the stack empty closes nothing, and a brace that is on the stack at the end is never
closed.
-/
namespace SchemaReview.Protobuf

open Text (isBlank normalizeBlanks IsSpaced IsSpread)

variable {s t : List Char} {c : Char} {offset : Nat} {offsets : List Nat}

/-! ### Printed statements and blocks -/

/-- A statement or a block, wherever it stands. -/
inductive Node where
  | statement (text : List Char)
  | block (header : List Char) (children : List Node)
deriving Repr

mutual

/-- What a statement or a block says. -/
def Item.node : Item → Node
  | .statement text _ => .statement text
  | .block header _ children => .block header (nodesOf children)

/-- What statements and blocks say. -/
def nodesOf : List Item → List Node
  | [] => []
  | item :: items => item.node :: nodesOf items

end

/-- The marks that end statements and open and close blocks. -/
def isMark (c : Char) : Bool := c == ';' || c == '\x7b' || c == '\x7d'

/-- Whether a text can be that of a statement or a header: it has no marks, and its words are one
space apart. -/
def IsLine (s : List Char) : Prop := (∀ c ∈ s, isMark c = false) ∧ IsSpaced s

mutual

/-- Whether a statement or a block can be printed: a statement is not empty. -/
def Node.IsPrintable : Node → Prop
  | .statement text => IsLine text ∧ text ≠ []
  | .block header children => IsLine header ∧ ArePrintable children

/-- Whether statements and blocks can be printed. -/
def ArePrintable : List Node → Prop
  | [] => True
  | node :: nodes => node.IsPrintable ∧ ArePrintable nodes

end

/-- Whether a text prints statements and blocks, with any blanks around and between the words. -/
inductive IsPrint : List Node → List Char → Prop
  | nil {gap : List Char} (blank : ∀ c ∈ gap, isBlank c = true) : IsPrint [] gap
  | statement {text written rest : List Char} {nodes : List Node} (spread : IsSpread text written)
      (more : IsPrint nodes rest) : IsPrint (.statement text :: nodes) (written ++ ';' :: rest)
  | block {header written inner rest : List Char} {children nodes : List Node}
      (spread : IsSpread header written) (inside : IsPrint children inner)
      (more : IsPrint nodes rest) :
      IsPrint (.block header children :: nodes)
        (written ++ '\x7b' :: (inner ++ '\x7d' :: rest))

mutual

/-- The shortest print of a statement or a block. -/
def Node.print : Node → List Char
  | .statement text => text ++ [';']
  | .block header children => header ++ '\x7b' :: (printAll children ++ ['\x7d'])

/-- The shortest print of statements and blocks. -/
def printAll : List Node → List Char
  | [] => []
  | node :: nodes => node.print ++ printAll nodes

end

theorem isPrint_printAll : (nodes : List Node) → IsPrint nodes (printAll nodes)
  | [] => .nil (List.forall_mem_nil _)
  | .statement text :: nodes => by
    rw [printAll, Node.print, List.append_assoc]
    exact .statement (.refl text) (isPrint_printAll nodes)
  | .block header children :: nodes => by
    have written :=
      IsPrint.block (.refl header) (isPrint_printAll children) (isPrint_printAll nodes)
    simpa [printAll, Node.print] using written

/-! ### Runs of the scan -/

theorem Scan.run_cons {st next : Scan} (h : st.step c offset = .ok next) (s : List Char) :
    st.run (c :: s) offset = next.run s (offset + 1) := by
  rw [Scan.run, h]

theorem Scan.run_append (st : Scan) (s t : List Char) (offset : Nat) :
    st.run (s ++ t) offset = (st.run s offset).bind fun st => st.run t (offset + s.length) := by
  induction s generalizing st offset with
  | nil => rfl
  | cons c s ih =>
    rw [List.cons_append, Scan.run, Scan.run]
    cases st.step c offset with
    | error e => rfl
    | ok st => simp only [ih, List.length_cons, Nat.add_assoc, Nat.add_comm 1]

theorem Scan.step_of_not_mark (h : isMark c = false) (st : Scan) (offset : Nat) :
    st.step c offset = .ok { st with pending := c :: st.pending } := by
  simp only [isMark, Bool.or_eq_false_iff] at h
  obtain ⟨⟨semicolon, opening⟩, closing⟩ := h
  simp [Scan.step, semicolon, opening, closing]

/-- Text between marks is put by until the next one. -/
theorem Scan.run_of_no_mark (h : ∀ c ∈ s, isMark c = false) (st : Scan) (offset : Nat) :
    st.run s offset = .ok { st with pending := s.reverse ++ st.pending } := by
  induction s generalizing st offset with
  | nil => rfl
  | cons c s ih =>
    rw [Scan.run, Scan.step_of_not_mark (h c List.mem_cons_self)]
    simp [ih fun d hd => h d (List.mem_cons_of_mem c hd)]

theorem isMark_of_isBlank (h : isBlank c = true) : isMark c = false := by
  by_contra hm
  simp only [isMark, Bool.not_eq_false, Bool.or_eq_true, beq_iff_eq] at hm
  rcases hm with (rfl | rfl) | rfl <;> simp [isBlank] at h

/-- The text before a mark is the printed one. -/
theorem Scan.run_spread {text written : List Char} (line : IsLine text)
    (spread : IsSpread text written) {st : Scan} (fresh : st.pending = []) (offset : Nat) :
    ∃ pending, st.run written offset = .ok { st with pending := pending } ∧
      normalizeBlanks pending.reverse = text := by
  have quiet : ∀ c ∈ written, isMark c = false :=
    spread.forall_mem (fun _ => isMark_of_isBlank) line.1
  refine ⟨written.reverse, ?_, ?_⟩
  · rw [Scan.run_of_no_mark quiet, fresh, List.append_nil]
  · rw [List.reverse_reverse, spread.normalizeBlanks_eq line.2]

/-- A run over printed statements and blocks adds them, whatever is open around them. -/
theorem Scan.run_print {nodes : List Node} (printed : IsPrint nodes s)
    (printable : ArePrintable nodes) (st : Scan) (fresh : st.pending = []) (offset : Nat) :
    ∃ items pending start, nodesOf items = nodes ∧ st.run s offset =
      .ok ⟨items.reverse ++ st.items, st.stack, pending, start⟩ := by
  induction printed generalizing st offset with
  | nil blank =>
    have quiet := Scan.run_of_no_mark (fun c hc => isMark_of_isBlank (blank c hc)) st offset
    exact ⟨[], _, st.start, rfl, quiet⟩
  | @statement text written rest nodes spread more ih =>
    obtain ⟨⟨line, hne⟩, others⟩ := printable
    obtain ⟨pending, ran, read⟩ := Scan.run_spread line spread fresh offset
    have ended (o : Nat) : Scan.step { st with pending := pending } ';' o =
        .ok ⟨.statement text st.start :: st.items, st.stack, [], o + 1⟩ := by
      simp [Scan.step, Scan.text, read, hne]
    obtain ⟨items, last, start, same, later⟩ := ih others
      ⟨.statement text st.start :: st.items, st.stack, [], offset + written.length + 1⟩ rfl
      (offset + written.length + 1)
    refine ⟨.statement text st.start :: items, last, start, by rw [nodesOf, same]; rfl, ?_⟩
    rw [Scan.run_append, ran, Except.bind, Scan.run_cons (ended _), later]
    simp
  | @block header written inner rest children nodes spread inside more ihInside ihMore =>
    obtain ⟨⟨line, below⟩, others⟩ := printable
    obtain ⟨pending, ran, read⟩ := Scan.run_spread line spread fresh offset
    have opened (o : Nat) : Scan.step { st with pending := pending } '\x7b' o =
        .ok ⟨[], ⟨header, o, st.items⟩ :: st.stack, [], o + 1⟩ := by
      simp [Scan.step, Scan.text, read]
    obtain ⟨found, last, start, sameInside, insideRan⟩ := ihInside below
      ⟨[], ⟨header, offset + written.length, st.items⟩ :: st.stack, [],
        offset + written.length + 1⟩ rfl (offset + written.length + 1)
    have closed (b : OpenBlock) (o : Nat) :
        Scan.step ⟨found.reverse ++ [], b :: st.stack, last, start⟩ '\x7d' o =
          .ok ⟨.block b.header b.offset found :: b.items, st.stack, [], o + 1⟩ := by
      simp [Scan.step]
    obtain ⟨items, last', start', same, later⟩ := ihMore others
      ⟨.block header (offset + written.length) found :: st.items, st.stack, [],
        offset + written.length + 1 + inner.length + 1⟩ rfl
      (offset + written.length + 1 + inner.length + 1)
    refine ⟨.block header (offset + written.length) found :: items, last', start',
      by rw [nodesOf, Item.node, same, sameInside], ?_⟩
    rw [Scan.run_append, ran, Except.bind, Scan.run_cons (opened _), Scan.run_append, insideRan,
      Except.bind, Scan.run_cons (closed _ _), later]
    simp

/-- What was printed is scanned back. -/
theorem scan_print {nodes : List Node} (printable : ArePrintable nodes)
    (printed : IsPrint nodes s) : ∃ items, scan s = .ok items ∧ nodesOf items = nodes := by
  obtain ⟨items, pending, start, same, ran⟩ := Scan.run_print printed printable {} rfl 0
  exact ⟨items, by simp [scan, ran], same⟩

/-! ### Braces and their partners -/

/-- How many more blocks a text opens than it closes. -/
def depth (s : List Char) : Int := s.count '\x7b' - s.count '\x7d'

@[simp] theorem depth_nil : depth [] = 0 := rfl

@[simp] theorem depth_append (s t : List Char) : depth (s ++ t) = depth s + depth t := by
  simp only [depth, List.count_append]
  omega

theorem depth_cons (c : Char) (s : List Char) : depth (c :: s) = depth [c] + depth s :=
  depth_append [c] s

@[simp] theorem depth_open : depth ['\x7b'] = 1 := rfl

@[simp] theorem depth_close : depth ['\x7d'] = -1 := rfl

theorem depth_of_no_brace (opening : c ≠ '\x7b') (closing : c ≠ '\x7d') : depth [c] = 0 := by
  simp [depth, opening, closing]

/-- Whether no start of a text closes more than it opens. -/
def NeverBelow (s : List Char) : Prop := ∀ a b, s = a ++ b → 0 ≤ depth a

/-- Whether the braces of a text balance. -/
def IsBalanced (s : List Char) : Prop := NeverBelow s ∧ depth s = 0

theorem NeverBelow.of_append (h : NeverBelow (s ++ t)) : NeverBelow s := by
  rintro a b rfl
  exact h a (b ++ t) (List.append_assoc a b t)

theorem NeverBelow.append (h : NeverBelow s) (later : ∀ a b, t = a ++ b → 0 ≤ depth s + depth a) :
    NeverBelow (s ++ t) := by
  intro a b hab
  rcases List.append_eq_append_iff.mp hab with ⟨u, rfl, rfl⟩ | ⟨u, rfl, rfl⟩
  · rw [depth_append]
    exact later u b rfl
  · exact h a u rfl

theorem IsBalanced.nil : IsBalanced [] := by
  refine ⟨?_, rfl⟩
  intro a b h
  rw [(List.append_eq_nil_iff.mp h.symm).1]
  exact le_refl 0

theorem IsBalanced.append (hs : IsBalanced s) (ht : IsBalanced t) : IsBalanced (s ++ t) := by
  refine ⟨hs.1.append ?_, ?_⟩
  · intro a b h
    rw [hs.2, zero_add]
    exact ht.1 a b h
  · rw [depth_append, hs.2, ht.2, add_zero]

theorem isBalanced_of_no_brace (opening : c ≠ '\x7b') (closing : c ≠ '\x7d') :
    IsBalanced [c] := by
  refine ⟨?_, depth_of_no_brace opening closing⟩
  intro a b h
  rcases List.append_eq_singleton_iff.mp h.symm with ⟨rfl, -⟩ | ⟨rfl, -⟩
  · exact le_refl 0
  · exact (depth_of_no_brace opening closing).ge

/-- A pair of braces around balanced text. -/
theorem IsBalanced.braces (h : IsBalanced s) : IsBalanced ('\x7b' :: (s ++ ['\x7d'])) := by
  refine ⟨?_, by rw [depth_cons, depth_append, h.2, depth_open, depth_close]; rfl⟩
  intro a b hab
  cases a with
  | nil => exact le_refl 0
  | cons c a =>
    obtain ⟨rfl, rest⟩ := List.cons.inj hab
    rw [depth_cons, depth_open]
    rcases List.append_eq_append_iff.mp rest with ⟨u, rfl, last⟩ | ⟨u, rfl, -⟩
    · rw [depth_append, h.2]
      rcases List.append_eq_singleton_iff.mp last.symm with ⟨rfl, -⟩ | ⟨rfl, -⟩ <;> decide
    · have inside := h.1 a u rfl
      omega

/-- Text in which the given offsets are those of the braces that are still open, the last one first;
what stands between them is balanced. -/
inductive IsOpen : List Nat → List Char → Prop
  | nil {s : List Char} (balanced : IsBalanced s) : IsOpen [] s
  | cons {offsets : List Nat} {s t : List Char} (outer : IsOpen offsets s)
      (balanced : IsBalanced t) : IsOpen (s.length :: offsets) (s ++ '\x7b' :: t)

theorem IsOpen.append (h : IsOpen offsets s) (ht : IsBalanced t) : IsOpen offsets (s ++ t) := by
  cases h with
  | nil balanced => exact .nil (balanced.append ht)
  | cons outer balanced =>
    rw [List.append_assoc]
    exact .cons outer (balanced.append ht)

/-- Where a brace closes, the text before it ends with a block that is open there. -/
theorem IsOpen.close (h : IsOpen (offset :: offsets) s) : IsOpen offsets (s ++ ['\x7d']) := by
  cases h with
  | @cons _ s t outer balanced =>
    have block := outer.append balanced.braces
    simpa using block

theorem IsOpen.depth_eq (h : IsOpen offsets s) : depth s = offsets.length := by
  induction h with
  | nil balanced => exact balanced.2
  | @cons offsets s t outer balanced ih =>
    rw [depth_append, depth_cons, depth_open, ih, balanced.2, List.length_cons]
    push_cast
    ring

theorem IsOpen.neverBelow (h : IsOpen offsets s) : NeverBelow s := by
  induction h with
  | nil balanced => exact balanced.1
  | @cons offsets s t outer balanced ih =>
    refine ih.append ?_
    intro a b hab
    have below : 0 ≤ depth s := ih s [] (List.append_nil s).symm
    cases a with
    | nil => simpa using below
    | cons c a =>
      obtain ⟨rfl, rfl⟩ := List.cons.inj hab
      have inside := balanced.1 a b rfl
      rw [depth_cons, depth_open]
      omega

/-- In every text, either some braces are open at the end or a first one closes nothing. -/
theorem isOpen_cases (s : List Char) : (∃ offsets, IsOpen offsets s) ∨
    ∃ a b, IsBalanced a ∧ s = a ++ '\x7d' :: b := by
  induction s using List.reverseRecOn with
  | nil => exact .inl ⟨[], .nil .nil⟩
  | append_singleton s c ih =>
    rcases ih with ⟨offsets, h⟩ | ⟨a, b, ha, rfl⟩
    · by_cases opening : c = '\x7b'
      · subst opening
        exact .inl ⟨_, .cons h .nil⟩
      by_cases closing : c = '\x7d'
      · subst closing
        cases h with
        | nil balanced => exact .inr ⟨s, [], balanced, rfl⟩
        | cons outer balanced => exact .inl ⟨_, (IsOpen.cons outer balanced).close⟩
      exact .inl ⟨offsets, h.append (isBalanced_of_no_brace opening closing)⟩
    · exact .inr ⟨a, b ++ [c], ha, by simp⟩

theorem exists_isOpen (h : NeverBelow s) : ∃ offsets, IsOpen offsets s := by
  rcases isOpen_cases s with opened | ⟨a, b, ha, rfl⟩
  · exact opened
  · have below := h (a ++ ['\x7d']) b (by simp)
    rw [depth_append, ha.2, depth_close] at below
    omega

/-- Whether the brace at the second offset closes the one at the first. -/
def Closes (s : List Char) (start stop : Nat) : Prop :=
  ∃ a m b, IsBalanced m ∧ s = a ++ '\x7b' :: (m ++ '\x7d' :: b) ∧ start = a.length ∧
    stop = start + m.length + 1

/-- Whether a closing brace stands at an offset and closes nothing. -/
def ClosesNothing (s : List Char) (stop : Nat) : Prop :=
  s[stop]? = some '\x7d' ∧ ∀ start, ¬ Closes s start stop

/-- Whether an opening brace stands at an offset and is left open. -/
def IsLeftOpen (s : List Char) (start : Nat) : Prop :=
  s[start]? = some '\x7b' ∧ ∀ stop, ¬ Closes s start stop

theorem Closes.append_right {start stop : Nat} (h : Closes s start stop) (t : List Char) :
    Closes (s ++ t) start stop := by
  obtain ⟨a, m, b, hm, rfl, hstart, hstop⟩ := h
  exact ⟨a, m, b ++ t, hm, by simp, hstart, hstop⟩

theorem Closes.append_left {start stop : Nat} (h : Closes s start stop) (t : List Char) :
    Closes (t ++ s) (t.length + start) (t.length + stop) := by
  obtain ⟨a, m, b, hm, rfl, rfl, rfl⟩ := h
  exact ⟨t ++ a, m, b, hm, by simp, by simp, by omega⟩

theorem exists_append_of_getElem? {i : Nat} (h : s[i]? = some c) :
    ∃ a b, s = a ++ c :: b ∧ i = a.length := by
  obtain ⟨hi, rfl⟩ := List.getElem?_eq_some_iff.mp h
  exact ⟨s.take i, s.drop (i + 1), by simp, by rw [List.length_take_of_le hi.le]⟩

/-- Where no start of a text closes more than it opens, every closing brace has a partner. -/
theorem NeverBelow.not_closesNothing (h : NeverBelow s) (stop : Nat) : ¬ ClosesNothing s stop := by
  rintro ⟨here, none⟩
  obtain ⟨a, b, rfl, rfl⟩ := exists_append_of_getElem? here
  obtain ⟨offsets, opened⟩ := exists_isOpen h.of_append
  cases opened with
  | nil balanced =>
    have below := h (a ++ ['\x7d']) b (by simp)
    rw [depth_append, balanced.2, depth_close] at below
    omega
  | @cons _ a m outer balanced =>
    refine none a.length ⟨a, m, b, balanced, by simp, rfl, ?_⟩
    simp only [List.length_append, List.length_cons]
    omega

/-- In balanced text, every opening brace has a partner. -/
theorem IsBalanced.not_isLeftOpen (h : IsBalanced s) (start : Nat) : ¬ IsLeftOpen s start := by
  rintro ⟨here, none⟩
  obtain ⟨a, t, rfl, rfl⟩ := exists_append_of_getElem? here
  rcases isOpen_cases t with ⟨offsets, opened⟩ | ⟨m, b, balanced, rfl⟩
  · have before := h.1 a _ rfl
    have total := h.2
    rw [depth_append, depth_cons, depth_open, opened.depth_eq] at total
    omega
  · exact none _ ⟨a, m, b, balanced, rfl, rfl, rfl⟩

/-- The closing brace behind balanced text closes nothing, and is the first that does so. -/
theorem IsBalanced.closesNothing (h : IsBalanced s) (t : List Char) :
    ClosesNothing (s ++ '\x7d' :: t) s.length ∧
      ∀ i < s.length, ¬ ClosesNothing (s ++ '\x7d' :: t) i := by
  refine ⟨⟨by simp, ?_⟩, ?_⟩
  · rintro start ⟨a, m, b, hm, text, rfl, length⟩
    have text : s ++ '\x7d' :: t = (a ++ '\x7b' :: m) ++ '\x7d' :: b := by simp [text]
    have same : s.length = (a ++ '\x7b' :: m).length := by
      simp only [List.length_append, List.length_cons]
      omega
    obtain ⟨rfl, -⟩ := List.append_inj text same
    have before := h.1 a _ rfl
    have total := h.2
    rw [depth_append, depth_cons, depth_open, hm.2] at total
    omega
  · rintro i hi ⟨here, none⟩
    rw [List.getElem?_append_left hi] at here
    exact h.1.not_closesNothing i ⟨here, fun start closed => none start (closed.append_right _)⟩

/-- The innermost open brace is left open, and no later one is. -/
theorem IsOpen.isLeftOpen {start : Nat} (h : IsOpen (start :: offsets) s) :
    IsLeftOpen s start ∧ ∀ i > start, ¬ IsLeftOpen s i := by
  cases h with
  | @cons _ s t outer balanced =>
    refine ⟨⟨by simp, ?_⟩, ?_⟩
    · rintro stop ⟨a, m, b, hm, text, length, -⟩
      obtain ⟨rfl, rest⟩ := List.append_inj text length
      have below := balanced.1 (m ++ ['\x7d']) b (by simpa using (List.cons.inj rest).2)
      rw [depth_append, hm.2, depth_close] at below
      omega
    · rintro i hi ⟨here, none⟩
      obtain ⟨j, rfl⟩ : ∃ j, i = (s ++ ['\x7b']).length + j :=
        ⟨i - (s.length + 1), by simp only [List.length_append, List.length_singleton]; omega⟩
      have text : s ++ '\x7b' :: t = (s ++ ['\x7b']) ++ t := by simp
      rw [text] at here none
      rw [List.getElem?_append_right (Nat.le_add_right _ _), Nat.add_sub_cancel_left] at here
      exact balanced.not_isLeftOpen j
        ⟨here, fun stop closed => none _ (closed.append_left (s ++ ['\x7b']))⟩

/-- A fault of the braces of a text: the first closing one that closes nothing or, if there is none,
the last opening one that is left open. -/
def IsBraceFault (s : List Char) (e : BlockFault) : Prop :=
  (e.fault = .unexpectedClose ∧ ClosesNothing s e.offset ∧
      ∀ i < e.offset, ¬ ClosesNothing s i) ∨
    (e.fault = .unterminatedBlock ∧ (∀ i, ¬ ClosesNothing s i) ∧ IsLeftOpen s e.offset ∧
      ∀ i > e.offset, ¬ IsLeftOpen s i)

theorem IsBraceFault.eq {e f : BlockFault} (he : IsBraceFault s e) (hf : IsBraceFault s f) :
    e = f := by
  obtain ⟨fault, i⟩ := e
  obtain ⟨fault', j⟩ := f
  rcases he with ⟨rfl, here, first⟩ | ⟨rfl, closed, here, last⟩ <;>
    rcases hf with ⟨rfl, here', first'⟩ | ⟨rfl, closed', here', last'⟩
  · have before : ¬ i < j := fun h => first' i h here
    have behind : ¬ j < i := fun h => first j h here'
    exact congrArg _ (by omega)
  · exact absurd here (closed' i)
  · exact absurd here' (closed j)
  · have before : ¬ i < j := fun h => last j h here'
    have behind : ¬ j < i := fun h => last' i h here
    exact congrArg _ (by omega)

theorem IsBraceFault.not_isBalanced {e : BlockFault} (h : IsBraceFault s e) :
    ¬ IsBalanced s := by
  intro balanced
  rcases h with ⟨-, here, -⟩ | ⟨-, -, here, -⟩
  · exact balanced.1.not_closesNothing e.offset here
  · exact balanced.not_isLeftOpen e.offset here

/-! ### The stack of the scan -/

/-- The offsets of the blocks that are open. -/
def Scan.openOffsets (st : Scan) : List Nat := st.stack.map (·.offset)

/-- One character leaves the open braces on the stack, or it is a closing one and there are none. -/
theorem Scan.step_cases {st : Scan} (h : IsOpen st.openOffsets s) (c : Char) :
    (∃ next, st.step c s.length = .ok next ∧ IsOpen next.openOffsets (s ++ [c])) ∨
      (c = '\x7d' ∧ IsBalanced s ∧ st.step c s.length = .error ⟨.unexpectedClose, s.length⟩) := by
  by_cases semicolon : c = ';'
  · subst semicolon
    exact .inl ⟨_, rfl, h.append (isBalanced_of_no_brace (by decide) (by decide))⟩
  by_cases opening : c = '\x7b'
  · subst opening
    exact .inl ⟨_, rfl, .cons h .nil⟩
  by_cases closing : c = '\x7d'
  · subst closing
    obtain ⟨items, stack, pending, start⟩ := st
    cases stack with
    | nil =>
      cases h with
      | nil balanced => exact .inr ⟨rfl, balanced, rfl⟩
    | cons b outer => exact .inl ⟨_, rfl, h.close⟩
  · have quiet : isMark c = false := by simp [isMark, semicolon, opening, closing]
    exact .inl ⟨_, Scan.step_of_not_mark quiet st _,
      h.append (isBalanced_of_no_brace opening closing)⟩

theorem Scan.run_cases {st : Scan} (h : IsOpen st.openOffsets s) (t : List Char) :
    (∃ last, st.run t s.length = .ok last ∧ IsOpen last.openOffsets (s ++ t)) ∨
      ∃ a b, t = a ++ '\x7d' :: b ∧ IsBalanced (s ++ a) ∧
        st.run t s.length = .error ⟨.unexpectedClose, (s ++ a).length⟩ := by
  induction t generalizing st s with
  | nil => exact .inl ⟨st, rfl, by rwa [List.append_nil]⟩
  | cons c t ih =>
    rcases Scan.step_cases h c with ⟨next, stepped, opened⟩ | ⟨rfl, balanced, failed⟩
    · have length : s.length + 1 = (s ++ [c]).length := by simp
      have text : s ++ c :: t = s ++ [c] ++ t := by simp
      rw [Scan.run_cons stepped, length, text]
      rcases ih opened with ran | ⟨a, b, rfl, balanced, failed⟩
      · exact .inl ran
      · exact .inr ⟨c :: a, b, rfl, by simpa using balanced, by simpa using failed⟩
    · refine .inr ⟨[], t, rfl, by rwa [List.append_nil], ?_⟩
      rw [Scan.run, failed, List.append_nil]

/-- A scan succeeds on balanced text, and else it fails for a fault of the braces. -/
theorem scan_cases (s : List Char) : (∃ items, scan s = .ok items ∧ IsBalanced s) ∨
    ∃ e, scan s = .error e ∧ IsBraceFault s e := by
  have start : IsOpen (Scan.openOffsets {}) [] := .nil .nil
  rcases Scan.run_cases start s with ⟨last, ran, opened⟩ | ⟨a, b, rfl, balanced, failed⟩
  · rw [List.length_nil] at ran
    rw [List.nil_append] at opened
    obtain ⟨items, stack, pending, o⟩ := last
    cases stack with
    | nil =>
      cases opened with
      | nil balanced => exact .inl ⟨items.reverse, by rw [scan, ran], balanced⟩
    | cons b outer =>
      exact .inr ⟨⟨.unterminatedBlock, b.offset⟩, by rw [scan, ran],
        .inr ⟨rfl, opened.neverBelow.not_closesNothing, opened.isLeftOpen⟩⟩
  · rw [List.length_nil, List.nil_append] at failed
    exact .inr ⟨⟨.unexpectedClose, a.length⟩, by rw [scan, failed],
      .inl ⟨rfl, balanced.closesNothing b⟩⟩

theorem scan_error_iff {e : BlockFault} : scan s = .error e ↔ IsBraceFault s e := by
  rcases scan_cases s with ⟨items, scanned, balanced⟩ | ⟨f, failed, fault⟩
  · rw [scanned]
    exact iff_of_false (by simp) fun fault => fault.not_isBalanced balanced
  · rw [failed, Except.error.injEq]
    exact ⟨fun same => same ▸ fault, fun h => fault.eq h⟩

theorem exists_scan_error_iff : (∃ e, scan s = .error e) ↔ ¬ IsBalanced s := by
  rcases scan_cases s with ⟨items, scanned, balanced⟩ | ⟨f, failed, fault⟩
  · exact iff_of_false (by simp [scanned]) (not_not_intro balanced)
  · exact iff_of_true ⟨f, failed⟩ fault.not_isBalanced

/-- The scan undoes printing and rejects unbalanced text only. Statements and blocks that can be
printed are scanned back from every print of theirs; and a text is rejected exactly if its braces
do not balance, at the first closing one that closes nothing or, if there is none, at the last
opening one that is left open. -/
theorem scan_undoes_print_and_rejects_unbalanced :
    (∀ nodes, ArePrintable nodes → IsPrint nodes (printAll nodes) ∧
      ∀ s, IsPrint nodes s → ∃ items, scan s = .ok items ∧ nodesOf items = nodes) ∧
    (∀ s, ((∃ e, scan s = .error e) ↔ ¬ IsBalanced s) ∧
      ∀ e, scan s = .error e ↔ IsBraceFault s e) := by
  refine ⟨fun nodes printable => ⟨isPrint_printAll nodes, fun s => scan_print printable⟩, ?_⟩
  exact fun s => ⟨exists_scan_error_iff, fun e => scan_error_iff⟩

/-- A block with blanks around its words, and a text with a brace left open. -/
theorem scan_spread_block :
    (∃ items, scan ['a', ' ', '\x7b', 'b', '\n', ' ', '=', ';', ' ', '\x7d'] = .ok items ∧
      nodesOf items = [.block ['a'] [.statement ['b', ' ', '=']]]) ∧
    ¬ IsBalanced ['a', ';', '\x7b'] := by
  have header : IsLine ['a'] := ⟨by simp [isMark], [['a']], by simp [isBlank], rfl⟩
  have value : IsLine ['b', ' ', '='] :=
    ⟨by simp [isMark], [['b'], ['=']], by simp [isBlank], rfl⟩
  have gap : ∀ c ∈ [' '], isBlank c = true := by simp [isBlank]
  have wideGap : ∀ c ∈ ['\n', ' '], isBlank c = true := by simp [isBlank]
  have spread : IsSpread ['a'] ['a', ' '] := ⟨[], _, by simp, .char (.nil gap), rfl⟩
  have spreadValue : IsSpread ['b', ' ', '='] ['b', '\n', ' ', '='] :=
    ⟨[], _, by simp, .char (.space wideGap (by simp) (.refl ['='])), rfl⟩
  have printed := IsPrint.block spread (.statement spreadValue (.nil gap))
    (.nil (List.forall_mem_nil _))
  have printable : ArePrintable [.block ['a'] [.statement ['b', ' ', '=']]] :=
    ⟨⟨header, ⟨value, by simp⟩, trivial⟩, trivial⟩
  obtain ⟨scanned, rejected⟩ := scan_undoes_print_and_rejects_unbalanced
  exact ⟨(scanned _ printable).2 _ printed, (rejected _).1.mp ⟨⟨.unterminatedBlock, 2⟩, rfl⟩⟩

end SchemaReview.Protobuf
