import SchemaReview.Proofs.Parse.Outcome
import SchemaReview.Proofs.Protobuf.QuotedLines

/-!
# Nested declarations

The declarations of a file are the messages and enums of its text, lifted out of the message blocks
around them. They stand in the order in which their blocks start, which is the order of their
addresses: where a block stands among its siblings, and before that, where the blocks around it
stand. The name of a declaration is the dotted path of the blocks on the way to it, and no two
declarations have the same one.
-/
namespace SchemaReview.Protobuf

open Text (isBlank)

variable {header name : List Char} {keyword : String}

/-! ### Headers -/

/-- Whether a header is a keyword and a name of word characters and dots, with blanks between. -/
def IsHeader (keyword : String) (name header : List Char) : Prop :=
  name ≠ [] ∧ (∀ c ∈ name, isPathChar c = true) ∧
    ∃ gap, gap ≠ [] ∧ (∀ c ∈ gap, isBlank c = true) ∧ header = keyword.toList ++ gap ++ name

/-- The code points of blanks. -/
def blankCodes : List Nat :=
  [9, 10, 11, 12, 13, 28, 29, 30, 31, 32, 0x85, 0xA0, 0x1680, 0x2000, 0x2001, 0x2002, 0x2003,
   0x2004, 0x2005, 0x2006, 0x2007, 0x2008, 0x2009, 0x200A, 0x2028, 0x2029, 0x202F, 0x205F, 0x3000]

/-- No blank can stand in a name. -/
theorem isPathChar_of_isBlank {c : Char} (h : isBlank c = true) : isPathChar c = false := by
  have apart : ∀ n ∈ blankCodes, isPathChar (Char.ofNat n) = false := by decide +kernel
  have listed : c.toNat ∈ blankCodes := by
    simp only [isBlank, Bool.or_eq_true, Bool.and_eq_true, decide_eq_true_eq, beq_iff_eq] at h
    simp only [blankCodes, List.mem_cons, List.not_mem_nil, or_false]
    omega
  simpa using apart c.toNat listed

theorem afterWord?_append (word : String) (rest : List Char) :
    afterWord? word (word.toList ++ rest) = some rest := by
  simp [afterWord?, ← String.length_toList]

theorem afterBlanks?_eq_some {s rest : List Char} :
    afterBlanks? s = some rest ↔ (∃ c ∈ s.head?, isBlank c = true) ∧ skipBlanks s = rest := by
  cases s with
  | nil => simp [afterBlanks?]
  | cons c s => simp [afterBlanks?]

/-- The reading of a header that starts with a given keyword. -/
def headerWith? (header : List Char) (keyword : String) : Option (String × List Char) := do
  let s ← afterWord? keyword header
  let s ← afterBlanks? s
  let (name, rest) ← span? isPathChar s
  if rest.isEmpty then some (keyword, name) else none

theorem blockHeader?_eq (header : List Char) :
    blockHeader? header = blockKeywords.findSome? (headerWith? header) := rfl

theorem skipBlanks_gap {gap s : List Char} (blank : ∀ c ∈ gap, isBlank c = true)
    (starts : ∀ c ∈ s.head?, isBlank c = false) : skipBlanks (gap ++ s) = s := by
  unfold skipBlanks
  rw [List.dropWhile_append_of_pos blank]
  cases s with
  | nil => rfl
  | cons c s => rw [List.dropWhile_cons_of_neg (by simpa using starts c rfl)]

/-- A header that is read is a keyword, blanks and a name. -/
theorem headerWith?_eq_some {found : String × List Char} :
    headerWith? header keyword = some found ↔
      ∃ name, found = (keyword, name) ∧ IsHeader keyword name header := by
  constructor
  · intro h
    obtain ⟨s, started, h⟩ := Option.bind_eq_some_iff.mp h
    obtain ⟨t, spaced, h⟩ := Option.bind_eq_some_iff.mp h
    obtain ⟨⟨name, rest⟩, spanned, h⟩ := Option.bind_eq_some_iff.mp h
    dsimp only at h
    rw [Option.ite_none_right_eq_some, List.isEmpty_iff] at h
    obtain ⟨rfl, made⟩ := h
    cases made
    obtain ⟨⟨c, first, blank⟩, rfl⟩ := afterBlanks?_eq_some.mp spaced
    obtain ⟨whole, path⟩ := eq_and_forall_of_span? spanned
    refine ⟨name, rfl, ne_nil_of_span? spanned, path, s.takeWhile isBlank, ?_, ?_, ?_⟩
    · obtain ⟨rest, rfl⟩ := List.head?_eq_some_iff.mp first
      rw [List.takeWhile_cons_of_pos blank]
      exact List.cons_ne_nil _ _
    · exact fun c hc => List.mem_takeWhile_imp hc
    · rw [List.append_nil] at whole
      rw [eq_of_afterWord? started, List.append_assoc, ← whole, skipBlanks,
        List.takeWhile_append_dropWhile]
  · rintro ⟨name, rfl, nonempty, path, gap, hgap, blank, rfl⟩
    have starts : ∀ c ∈ name.head?, isBlank c = false := by
      intro c first
      by_contra other
      have apart := isPathChar_of_isBlank (Bool.not_eq_false _ ▸ other)
      rw [path c (List.mem_of_mem_head? first)] at apart
      cases apart
    have spaced : afterBlanks? (gap ++ name) = some name := by
      refine afterBlanks?_eq_some.mpr ⟨?_, skipBlanks_gap blank starts⟩
      cases gap with
      | nil => exact absurd rfl hgap
      | cons c gap => exact ⟨c, rfl, blank c List.mem_cons_self⟩
    have spanned : span? isPathChar name = some (name, []) := by
      unfold span?
      rw [List.takeWhile_eq_self_iff.mpr path, List.dropWhile_eq_nil_iff.mpr path]
      simp [nonempty]
    unfold headerWith?
    rw [List.append_assoc, afterWord?_append]
    dsimp only [bind, Option.bind]
    rw [spaced]
    dsimp only
    rw [spanned]
    rfl

/-- No keyword starts another one. -/
theorem keyword_unique {k l : String} (hk : k ∈ blockKeywords) (hl : l ∈ blockKeywords)
    (pk : k.toList <+: header) (pl : l.toList <+: header) : k = l := by
  have apart : ∀ k ∈ blockKeywords, ∀ l ∈ blockKeywords, k.toList <+: l.toList → k = l := by
    decide
  obtain one | other := List.prefix_or_prefix_of_prefix pk pl
  · exact apart k hk l hl one
  · exact (apart l hl k hk other).symm

/-- The header of a block is read if and only if it is a keyword, blanks and a name. -/
theorem blockHeader?_eq_some : blockHeader? header = some (keyword, name) ↔
    keyword ∈ blockKeywords ∧ IsHeader keyword name header := by
  rw [blockHeader?_eq]
  constructor
  · intro h
    obtain ⟨k, hk, h⟩ := List.exists_of_findSome?_eq_some h
    obtain ⟨read, same, formed⟩ := headerWith?_eq_some.mp h
    cases same
    exact ⟨hk, formed⟩
  · rintro ⟨hk, formed⟩
    have read := headerWith?_eq_some.mpr ⟨name, rfl, formed⟩
    have isSome : (blockKeywords.findSome? (headerWith? header)).isSome :=
      List.findSome?_isSome_iff.mpr ⟨keyword, hk, by rw [read]; rfl⟩
    obtain ⟨found, h⟩ := Option.isSome_iff_exists.mp isSome
    obtain ⟨l, hl, again⟩ := List.exists_of_findSome?_eq_some h
    have starts {k name} (formed : IsHeader k name header) : k.toList <+: header := by
      obtain ⟨-, -, gap, -, -, rfl⟩ := formed
      exact ⟨gap ++ name, (List.append_assoc ..).symm⟩
    obtain ⟨other, rfl, otherFormed⟩ := headerWith?_eq_some.mp again
    obtain rfl := keyword_unique hk hl (starts formed) (starts otherFormed)
    rw [h, ← again, read]

/-! ### Blocks that declare types -/

/-- A block that declares a message or an enum, and the names of the message blocks around it, the
outermost first. -/
structure DeclaringBlock where
  keyword : String
  outer : List String
  name : String
  header : List Char
  children : List Item

namespace DeclaringBlock

/-- The dotted names of the blocks on the way to a block, its own last. -/
def path (b : DeclaringBlock) : String := ".".intercalate (b.outer ++ [b.name])

/-- A block with more blocks around it. -/
def under (names : List String) (b : DeclaringBlock) : DeclaringBlock :=
  { b with outer := names ++ b.outer }

theorem under_under (names inner : List String) (b : DeclaringBlock) :
    (b.under inner).under names = b.under (names ++ inner) := by
  simp [under]

/-- Whether a type is read from a block, in whatever package. -/
def Gives (b : DeclaringBlock) (level : Option String) (type : Schema) : Prop :=
  ∃ package, (b.keyword = "message" ∧ messageOf b.name package level b.children = .ok type) ∨
    (b.keyword = "enum" ∧ enumOf b.name package b.children = .ok type)

end DeclaringBlock

/-- The block at an address declares a type: only message blocks are around it. An address has the
position of the outermost block first. -/
inductive IsDeclaredAt : List Item → List Nat → DeclaringBlock → Prop
  | here {items i header offset children keyword name}
      (found : items[i]? = some (.block header offset children))
      (declares : keyword = "message" ∨ keyword = "enum") (formed : IsHeader keyword name header) :
      IsDeclaredAt items [i] ⟨keyword, [], String.ofList name, header, children⟩
  | inside {items i header offset children name address block}
      (found : items[i]? = some (.block header offset children))
      (formed : IsHeader "message" name header) (inner : IsDeclaredAt children address block) :
      IsDeclaredAt items (i :: address) (block.under [String.ofList name])

/-- What a block declares, given the declarations inside it: its own type, and behind it what is
inside if it is a message. -/
def blockDeclarations (header : List Char) (children : List Item) (position : Nat)
    (inner : List (List Nat × DeclaringBlock)) : List (List Nat × DeclaringBlock) :=
  match blockHeader? header with
  | some (keyword, chars) =>
    let name := String.ofList chars
    let own : List Nat × DeclaringBlock := ([position], ⟨keyword, [], name, header, children⟩)
    if keyword = "message" then
      own :: inner.map fun (address, block) => (position :: address, block.under [name])
    else if keyword = "enum" then [own]
    else []
  | none => []

/-- The blocks that declare types, with their addresses, in the order in which they start. The first
item has the given position. -/
def declaringBlocks (items : List Item) (position : Nat) : List (List Nat × DeclaringBlock) :=
  match items with
  | [] => []
  | .statement .. :: rest => declaringBlocks rest (position + 1)
  | .block header _ children :: rest =>
    blockDeclarations header children position (declaringBlocks children 0) ++
      declaringBlocks rest (position + 1)
termination_by sizeOf items
decreasing_by
  all_goals
    simp only [List.cons.sizeOf_spec, Item.block.sizeOf_spec]
    omega

section

variable {items : List Item} {item : Item} {address : List Nat} {block : DeclaringBlock}

theorem IsDeclaredAt.address_ne_nil (h : IsDeclaredAt items address block) : address ≠ [] := by
  cases h <;> exact List.cons_ne_nil _ _

/-- What stands behind the first item has the addresses that it has without it, moved by one. -/
theorem isDeclaredAt_later {i : Nat} : IsDeclaredAt (item :: items) ((i + 1) :: address) block ↔
    IsDeclaredAt items (i :: address) block := by
  constructor
  · intro h
    cases h with
    | here found declares formed => exact .here (by simpa using found) declares formed
    | inside found formed inner => exact .inside (by simpa using found) formed inner
  · intro h
    cases h with
    | here found declares formed => exact .here (by simpa using found) declares formed
    | inside found formed inner => exact .inside (by simpa using found) formed inner

/-- A block declares its own type, or it is a message with declarations inside. -/
theorem isDeclaredAt_block {header : List Char} {offset : Nat} {children : List Item} :
    IsDeclaredAt (.block header offset children :: items) (0 :: address) block ↔
      ∃ keyword name, blockHeader? header = some (keyword, name) ∧
        ((address = [] ∧ (keyword = "message" ∨ keyword = "enum") ∧
            block = ⟨keyword, [], String.ofList name, header, children⟩) ∨
          (keyword = "message" ∧ ∃ b, IsDeclaredAt children address b ∧
            block = b.under [String.ofList name])) := by
  constructor
  · intro h
    cases h with
    | here found declares formed =>
      cases found
      refine ⟨_, _, blockHeader?_eq_some.mpr ⟨?_, formed⟩, .inl ⟨rfl, declares, rfl⟩⟩
      obtain rfl | rfl := declares <;> decide
    | inside found formed inner =>
      cases found
      exact ⟨_, _, blockHeader?_eq_some.mpr ⟨by decide, formed⟩, .inr ⟨rfl, _, inner, rfl⟩⟩
  · rintro ⟨keyword, name, read, h⟩
    have formed := (blockHeader?_eq_some.mp read).2
    obtain ⟨rfl, declares, rfl⟩ | ⟨rfl, b, inner, rfl⟩ := h
    · exact .here rfl declares formed
    · exact .inside rfl formed inner

/-- The addresses among items are those at the first one and those behind it. -/
theorem exists_isDeclaredAt_cons {position : Nat} :
    (∃ i rest, address = (position + i) :: rest ∧
      IsDeclaredAt (item :: items) (i :: rest) block) ↔
    (∃ rest, address = position :: rest ∧ IsDeclaredAt (item :: items) (0 :: rest) block) ∨
      ∃ i rest, address = (position + 1 + i) :: rest ∧ IsDeclaredAt items (i :: rest) block := by
  constructor
  · rintro ⟨i, rest, rfl, h⟩
    cases i with
    | zero => exact .inl ⟨rest, rfl, h⟩
    | succ i => exact .inr ⟨i, rest, by rw [Nat.add_right_comm]; rfl, isDeclaredAt_later.mp h⟩
  · rintro (⟨rest, rfl, h⟩ | ⟨i, rest, rfl, h⟩)
    · exact ⟨0, rest, rfl, h⟩
    · exact ⟨i + 1, rest, by rw [Nat.add_right_comm]; rfl, isDeclaredAt_later.mpr h⟩

/-- The header of a block is that of a message or of an enum, or it declares nothing. -/
theorem header_cases (header : List Char) :
    (∃ chars, blockHeader? header = some ("message", chars)) ∨
      (∃ chars, blockHeader? header = some ("enum", chars)) ∨
      ∀ keyword chars, blockHeader? header = some (keyword, chars) →
        keyword ≠ "message" ∧ keyword ≠ "enum" := by
  by_cases message : ∃ chars, blockHeader? header = some ("message", chars)
  · exact .inl message
  by_cases enum : ∃ chars, blockHeader? header = some ("enum", chars)
  · exact .inr (.inl enum)
  refine .inr (.inr fun keyword chars read => ⟨?_, ?_⟩)
  · rintro rfl
    exact message ⟨chars, read⟩
  · rintro rfl
    exact enum ⟨chars, read⟩

section

variable {header chars : List Char} {children : List Item} {position : Nat}
  {inner : List (List Nat × DeclaringBlock)}

theorem blockDeclarations_message (read : blockHeader? header = some ("message", chars)) :
    blockDeclarations header children position inner =
      ([position], ⟨"message", [], String.ofList chars, header, children⟩) ::
        inner.map fun (address, block) =>
          (position :: address, block.under [String.ofList chars]) := by
  rw [blockDeclarations, read]
  rfl

theorem blockDeclarations_enum (read : blockHeader? header = some ("enum", chars)) :
    blockDeclarations header children position inner =
      [([position], ⟨"enum", [], String.ofList chars, header, children⟩)] := by
  rw [blockDeclarations, read]
  rfl

theorem blockDeclarations_other (other : ∀ keyword chars, blockHeader? header =
    some (keyword, chars) → keyword ≠ "message" ∧ keyword ≠ "enum") :
    blockDeclarations header children position inner = [] := by
  unfold blockDeclarations
  split
  · rename_i keyword chars read
    obtain ⟨notMessage, notEnum⟩ := other keyword chars read
    dsimp only
    rw [if_neg notMessage, if_neg notEnum]
  · rfl

theorem mem_blockDeclarations {offset : Nat}
    (listed : ∀ a b, (a, b) ∈ inner ↔ IsDeclaredAt children a b) :
    (address, block) ∈ blockDeclarations header children position inner ↔
      ∃ rest, address = position :: rest ∧
        IsDeclaredAt (.block header offset children :: items) (0 :: rest) block := by
  simp only [isDeclaredAt_block]
  obtain ⟨chars, read⟩ | ⟨chars, read⟩ | other := header_cases header
  · rw [blockDeclarations_message read, read]
    constructor
    · intro h
      obtain own | h := List.mem_cons.mp h
      · cases own
        exact ⟨[], rfl, _, _, rfl, .inl ⟨rfl, .inl rfl, rfl⟩⟩
      · obtain ⟨⟨a, b⟩, hab, same⟩ := List.mem_map.mp h
        cases same
        exact ⟨a, rfl, _, _, rfl, .inr ⟨rfl, b, (listed a b).mp hab, rfl⟩⟩
    · rintro ⟨rest, rfl, _, _, same, ⟨rfl, -, rfl⟩ | ⟨-, b, h, rfl⟩⟩ <;> cases same
      · exact List.mem_cons_self
      · exact List.mem_cons_of_mem _ (List.mem_map.mpr ⟨(rest, b), (listed rest b).mpr h, rfl⟩)
  · rw [blockDeclarations_enum read, read, List.mem_singleton]
    constructor
    · rintro own
      cases own
      exact ⟨[], rfl, _, _, rfl, .inl ⟨rfl, .inr rfl, rfl⟩⟩
    · rintro ⟨rest, rfl, _, _, same, ⟨rfl, -, rfl⟩ | ⟨message, -⟩⟩ <;> cases same
      · rfl
      · exact absurd message (by decide)
  · rw [blockDeclarations_other other]
    refine iff_of_false List.not_mem_nil ?_
    rintro ⟨rest, -, keyword, chars, read, h⟩
    obtain ⟨notMessage, notEnum⟩ := other keyword chars read
    obtain ⟨-, message | enum, -⟩ | ⟨message, -⟩ := h
    · exact notMessage message
    · exact notEnum enum
    · exact notMessage message

end

theorem exists_zero_add : (∃ i rest, address = (0 + i) :: rest ∧
    IsDeclaredAt items (i :: rest) block) ↔ IsDeclaredAt items address block := by
  simp only [Nat.zero_add]
  constructor
  · rintro ⟨i, rest, rfl, h⟩
    exact h
  · intro h
    obtain ⟨i, rest, rfl⟩ := List.exists_cons_of_ne_nil h.address_ne_nil
    exact ⟨i, rest, rfl, h⟩

/-- The blocks that are listed are those that declare types. -/
theorem mem_declaringBlocks {items : List Item} {position : Nat} {address : List Nat}
    {block : DeclaringBlock} : (address, block) ∈ declaringBlocks items position ↔
      ∃ i rest, address = (position + i) :: rest ∧ IsDeclaredAt items (i :: rest) block := by
  match items with
  | [] =>
    rw [declaringBlocks]
    refine iff_of_false List.not_mem_nil ?_
    rintro ⟨i, rest, -, h⟩
    cases h with
    | here found | inside found => cases found
  | .statement .. :: rest =>
    rw [declaringBlocks, mem_declaringBlocks, exists_isDeclaredAt_cons]
    refine (or_iff_right ?_).symm
    rintro ⟨rest, -, h⟩
    cases h with
    | here found | inside found => cases found
  | .block header offset children :: rest =>
    have listed (a : List Nat) (b : DeclaringBlock) :
        (a, b) ∈ declaringBlocks children 0 ↔ IsDeclaredAt children a b :=
      mem_declaringBlocks.trans exists_zero_add
    rw [declaringBlocks, List.mem_append, mem_declaringBlocks, exists_isDeclaredAt_cons,
      mem_blockDeclarations listed]
termination_by sizeOf items

theorem mem_declaringBlocks_zero :
    (address, block) ∈ declaringBlocks items 0 ↔ IsDeclaredAt items address block :=
  mem_declaringBlocks.trans exists_zero_add

/-- The address of a block precedes those of the blocks in it and behind it. -/
theorem pairwise_declaringBlocks (items : List Item) (position : Nat) :
    ((declaringBlocks items position).map Prod.fst).Pairwise (· < ·) := by
  match items with
  | [] =>
    rw [declaringBlocks]
    exact .nil
  | .statement .. :: rest =>
    rw [declaringBlocks]
    exact pairwise_declaringBlocks rest (position + 1)
  | .block header offset children :: rest =>
    rw [declaringBlocks, List.map_append, List.pairwise_append]
    refine ⟨?_, pairwise_declaringBlocks rest (position + 1), ?_⟩
    · have inner := pairwise_declaringBlocks children 0
      obtain ⟨chars, read⟩ | ⟨chars, read⟩ | other := header_cases header
      · rw [blockDeclarations_message read, List.map_cons, List.pairwise_cons, List.map_map,
          List.forall_mem_map, List.pairwise_map]
        constructor
        · intro entry h
          obtain ⟨i, t, inside, -⟩ := mem_declaringBlocks.mp h
          show [position] < position :: entry.1
          rw [inside]
          exact List.cons_lt_cons_iff.mpr (.inr ⟨rfl, List.nil_lt_cons _ _⟩)
        · rw [List.pairwise_map] at inner
          exact inner.imp fun before => List.cons_lt_cons_iff.mpr (.inr ⟨rfl, before⟩)
      · rw [blockDeclarations_enum read]
        exact List.pairwise_singleton _ _
      · rw [blockDeclarations_other other]
        exact .nil
    · -- Addresses at this block and behind it differ in their first position.
      rw [List.forall_mem_map]
      intro entry h
      rw [List.forall_mem_map]
      intro later hl
      have placed : ∃ t, entry.1 = position :: t ∧
          IsDeclaredAt (.block header offset children :: rest) (0 :: t) entry.2 :=
        (mem_blockDeclarations fun _ _ => mem_declaringBlocks_zero).mp h
      obtain ⟨t, own, -⟩ := placed
      obtain ⟨i, u, behind, -⟩ := mem_declaringBlocks.mp hl
      rw [own, behind]
      exact List.cons_lt_cons_iff.mpr (.inl (by omega))
termination_by sizeOf items

end

/-! ### What the reader declares -/

/-- The names of blocks, joined by dots, if there are any. -/
def dotted? (names : List String) : Option String :=
  if names = [] then none else some (".".intercalate names)

theorem dotted?_concat (names : List String) (name : String) :
    dotted? (names ++ [name]) = some (".".intercalate (names ++ [name])) :=
  if_neg (List.append_ne_nil_of_right_ne_nil _ (List.cons_ne_nil _ _))

/-- A name below the dotted names of the blocks around it. -/
theorem below_dotted? {names : List String} (nonempty : ∀ n ∈ names, n ≠ "") (name : String) :
    below (dotted? names) name = ".".intercalate (names ++ [name]) := by
  cases names with
  | nil => exact String.intercalate_singleton.symm
  | cons n names =>
    have present : ".".intercalate (n :: names) ≠ "" := by
      have first := nonempty n List.mem_cons_self
      cases names with
      | nil => rwa [String.intercalate_singleton]
      | cons m names => simp [String.intercalate_cons_cons]
    rw [dotted?, if_neg (List.cons_ne_nil _ _), below, if_neg present,
      String.intercalate_append_of_ne_nil (List.cons_ne_nil _ _) (List.cons_ne_nil _ _),
      String.intercalate_singleton]

/-- The last of several names can be dotted itself. -/
theorem intercalate_concat {names path : List String} (h : path ≠ []) :
    ".".intercalate (names ++ [".".intercalate path]) = ".".intercalate (names ++ path) := by
  cases names with
  | nil => exact String.intercalate_singleton
  | cons n names =>
    rw [String.intercalate_append_of_ne_nil (List.cons_ne_nil _ _) (List.cons_ne_nil _ _),
      String.intercalate_append_of_ne_nil (List.cons_ne_nil _ _) h, String.intercalate_singleton]

theorem qualifiedName_eq_below {s : Schema} {name : String} (named : s.name = .str name)
    (nonempty : name ≠ "") : s.qualifiedName = .str (below s.qualifier name) := by
  have present : (Json.str name).isTruthy = true := by simpa [Json.isTruthy] using nonempty
  unfold Schema.qualifiedName below
  rw [named, if_pos present]
  cases s.qualifier with
  | none => rfl
  | some q =>
    dsimp only
    split <;> rfl

theorem of_messageOf_eq_ok {name : String} {package level : Option String} {children : List Item}
    {s : Schema} (h : messageOf name package level children = .ok s) :
    s.name = .str name ∧ s.qualifier = package := by
  obtain ⟨fields, -, h⟩ := bind_eq_ok.mp h
  cases h
  exact ⟨rfl, rfl⟩

theorem of_enumOf_eq_ok {name : String} {package : Option String} {children : List Item}
    {s : Schema} (h : enumOf name package children = .ok s) :
    s.name = .str name ∧ s.qualifier = package := by
  obtain ⟨entries, -, h⟩ := bind_eq_ok.mp h
  cases h
  exact ⟨rfl, rfl⟩

theorem eq_of_declare {done next : List Field} {key : String} {type : Schema}
    {header : List Char} {offset : Nat} (h : declare done key type header offset = .ok next) :
    next = done ++ [{ name := key, type := type, raw := some (String.ofList header) }] := by
  unfold declare at h
  split at h
  · cases h
  · exact (Except.ok.inj h).symm

/-- What the declaration of a block says, in a file of a package. -/
structure IsDeclarationOf (package level : Option String) (b : DeclaringBlock) (f : Field) :
    Prop where
  name : f.name = b.path
  qualified : f.type.qualifiedName = .str (".".intercalate (package.toList ++ [f.name]))
  raw : f.raw = some (String.ofList b.header)
  type : b.Gives level f.type

section

variable {level package : Option String} {outer : List String}

/-- The declaration that a block adds is its own. -/
theorem isDeclarationOf_own {keyword name : String} {header : List Char} {children : List Item}
    {type : Schema} (nonempty : ∀ n ∈ package.toList ++ outer, n ≠ "") (named : name ≠ "")
    (typeName : type.name = .str name)
    (qualifier : type.qualifier = dotted? (package.toList ++ outer))
    (given : DeclaringBlock.Gives ⟨keyword, [], name, header, children⟩ level type) :
    IsDeclarationOf package level
      (DeclaringBlock.under outer ⟨keyword, [], name, header, children⟩)
      { name := below (dotted? outer) name, type := type, raw := some (String.ofList header) } := by
  have key : below (dotted? outer) name = ".".intercalate (outer ++ [name]) :=
    below_dotted? (fun n hn => nonempty n (List.mem_append_right _ hn)) name
  refine ⟨?_, ?_, rfl, given⟩
  · rw [key, DeclaringBlock.path, DeclaringBlock.under, List.append_nil]
  · rw [qualifiedName_eq_below typeName named, qualifier, below_dotted? nonempty, key,
      intercalate_concat (by simp), List.append_assoc]

/-- The declarations that items add are those of the blocks among them, in their order. -/
theorem forall₂_of_declarationsOf {items : List Item} {outer : List String}
    (nonempty : ∀ n ∈ package.toList ++ outer, n ≠ "") {done fields : List Field} (position : Nat)
    (read : declarationsOf level items (dotted? (package.toList ++ outer)) (dotted? outer) done =
      .ok fields) :
    ∃ added, fields = done ++ added ∧
      List.Forall₂ (fun entry f => IsDeclarationOf package level (entry.2.under outer) f)
        (declaringBlocks items position) added := by
  match items with
  | [] =>
    rw [declarationsOf] at read
    cases read
    rw [declaringBlocks]
    exact ⟨[], (List.append_nil _).symm, .nil⟩
  | .statement .. :: rest =>
    rw [declarationsOf] at read
    rw [declaringBlocks]
    exact forall₂_of_declarationsOf nonempty (position + 1) read
  | .block header offset children :: rest =>
    rw [declarationsOf] at read
    rw [declaringBlocks]
    obtain ⟨chars, found⟩ | ⟨chars, found⟩ | other := header_cases header
    · have named := ofList_ne_empty (name_ne_nil_of_blockHeader? found)
      rw [found] at read
      dsimp only at read
      rw [if_pos rfl] at read
      obtain ⟨type, typed, read⟩ := bind_eq_ok.mp read
      obtain ⟨next, declared, read⟩ := bind_eq_ok.mp read
      obtain ⟨inner, nested, read⟩ := bind_eq_ok.mp read
      obtain ⟨typeName, qualifier⟩ := of_messageOf_eq_ok typed
      have given : DeclaringBlock.Gives ⟨"message", [], String.ofList chars, header, children⟩
          level type := ⟨_, .inl ⟨rfl, typed⟩⟩
      have own := isDeclarationOf_own nonempty named typeName qualifier given
      have deeper : ∀ n ∈ package.toList ++ (outer ++ [String.ofList chars]), n ≠ "" := by
        rw [← List.append_assoc]
        exact List.forall_mem_append.mpr ⟨nonempty, List.forall_mem_singleton.mpr named⟩
      -- Inside the message, the namespace and the path of declarations are one name longer.
      have within : some (below (dotted? (package.toList ++ outer)) (String.ofList chars)) =
          dotted? (package.toList ++ (outer ++ [String.ofList chars])) := by
        rw [below_dotted? nonempty, ← dotted?_concat, List.append_assoc]
      have path : some (below (dotted? outer) (String.ofList chars)) =
          dotted? (outer ++ [String.ofList chars]) := by
        rw [below_dotted? fun n hn => nonempty n (List.mem_append_right _ hn), dotted?_concat]
      rw [within, path] at nested
      obtain rfl := eq_of_declare declared
      obtain ⟨addedInside, rfl, inside⟩ := forall₂_of_declarationsOf deeper 0 nested
      obtain ⟨addedBehind, rfl, behind⟩ := forall₂_of_declarationsOf nonempty (position + 1) read
      rw [blockDeclarations_message found, List.cons_append]
      refine ⟨_ :: (addedInside ++ addedBehind), by simp, .cons own ?_⟩
      refine List.rel_append ?_ behind
      rw [List.forall₂_map_left_iff]
      exact inside.imp fun entry f h => by rwa [DeclaringBlock.under_under]
    · have named := ofList_ne_empty (name_ne_nil_of_blockHeader? found)
      rw [found] at read
      dsimp only at read
      rw [if_neg (by decide), if_pos rfl] at read
      obtain ⟨type, typed, read⟩ := bind_eq_ok.mp read
      obtain ⟨next, declared, read⟩ := bind_eq_ok.mp read
      obtain ⟨typeName, qualifier⟩ := of_enumOf_eq_ok typed
      have given : DeclaringBlock.Gives ⟨"enum", [], String.ofList chars, header, children⟩
          level type := ⟨_, .inr ⟨rfl, typed⟩⟩
      have own := isDeclarationOf_own nonempty named typeName qualifier given
      obtain rfl := eq_of_declare declared
      obtain ⟨added, rfl, others⟩ := forall₂_of_declarationsOf nonempty (position + 1) read
      rw [blockDeclarations_enum found]
      exact ⟨_ :: added, by simp, .cons own others⟩
    · rw [blockDeclarations_other other]
      refine forall₂_of_declarationsOf nonempty (position + 1) ?_
      split at read
      · rename_i keyword chars found
        obtain ⟨notMessage, notEnum⟩ := other keyword chars found
        dsimp only at read
        rwa [if_neg notMessage, if_neg notEnum] at read
      · exact read
termination_by sizeOf items

theorem dotted?_toList (package : Option String) : dotted? (package.toList ++ []) = package := by
  cases package with
  | none => rfl
  | some p => exact congrArg some String.intercalate_singleton

end

/-- The name of a package is never empty. -/
theorem package_ne_empty {items : List Item} :
    ∀ n ∈ (topLevelValue? packageName? items).toList, n ≠ "" := by
  intro n hn
  obtain ⟨item, -, found⟩ := List.exists_of_findSome?_eq_some (Option.mem_toList.mp hn)
  cases item with
  | block => cases found
  | statement text offset =>
    obtain ⟨chars, read, rfl⟩ := Option.map_eq_some_iff.mp found
    obtain ⟨s, -, read⟩ := Option.bind_eq_some_iff.mp read
    obtain ⟨t, -, read⟩ := Option.bind_eq_some_iff.mp read
    obtain ⟨⟨name, rest⟩, spanned, read⟩ := Option.bind_eq_some_iff.mp read
    dsimp only at read
    rw [Option.ite_none_right_eq_some] at read
    obtain rfl := Option.some.inj read.2
    exact ofList_ne_empty (ne_nil_of_span? spanned)

/-- The fields of a file are what its blocks declare, each once and in pre-order. -/
structure ListsDeclarations (items : List Item) (d : Document)
    (placed : List (List Nat × DeclaringBlock)) : Prop where
  package : d.package = topLevelValue? packageName? items
  ordered : (placed.map Prod.fst).Pairwise (· < ·)
  complete : ∀ address block, (address, block) ∈ placed ↔ IsDeclaredAt items address block
  declared : List.Forall₂ (fun entry f => IsDeclarationOf d.package d.syntaxLevel entry.2 f) placed
    d.root.fields

theorem listsDeclarations_of_ofText {text : String} {d : Document} (h : ofText text = .ok d) :
    ∃ items, scan (stripComments text.toList) = .ok items ∧ d.root.kind = .file ∧
      (d.root.fields.map FieldOf.name).Nodup ∧ ∃ placed, ListsDeclarations items d placed := by
  obtain ⟨-, items, fields, scanned, made, rfl⟩ := ofText_eq_ok.mp h
  have apart := (areReadable_of_declarationsOf areReadable_nil made).apart
  have named : ∀ n ∈ (topLevelValue? packageName? items).toList ++ [], n ≠ "" := by
    rw [List.append_nil]
    exact package_ne_empty
  rw [← dotted?_toList (topLevelValue? packageName? items)] at made
  obtain ⟨added, rfl, declared⟩ := forall₂_of_declarationsOf named 0 made
  refine ⟨items, scanned, rfl, apart.2, declaringBlocks items 0, ?_⟩
  exact ⟨rfl, pairwise_declaringBlocks items 0, fun _ _ => mem_declaringBlocks_zero, declared⟩

/-- Blocks at different addresses have different paths in an accepted text. -/
theorem ListsDeclarations.eq_of_path {items : List Item} {d : Document}
    {placed : List (List Nat × DeclaringBlock)} (h : ListsDeclarations items d placed)
    (distinct : (d.root.fields.map FieldOf.name).Nodup) {a b : List Nat}
    {first second : DeclaringBlock} (ha : IsDeclaredAt items a first)
    (hb : IsDeclaredAt items b second) (same : first.path = second.path) : a = b := by
  have paths : d.root.fields.map FieldOf.name = placed.map fun entry => entry.2.path := by
    have names : List.Forall₂ (fun name path => name = path) (d.root.fields.map FieldOf.name)
        (placed.map fun entry => entry.2.path) := by
      rw [List.forall₂_map_left_iff, List.forall₂_map_right_iff]
      exact h.declared.flip.imp fun f entry declares => declares.name
    exact List.forall₂_eq_eq_eq ▸ names
  rw [paths] at distinct
  have entries := List.inj_on_of_nodup_map distinct ((h.complete a first).mpr ha)
    ((h.complete b second).mpr hb) same
  exact congrArg Prod.fst entries

/-- Flattening loses no declaration and invents none: the declarations of an accepted text are those
of its blocks, in their order. A text that gives one path to two of its blocks is refused. -/
theorem declarations_of_parse (text : String) :
    (∀ d, parse text .protobuf = .ok d → ∃ items, scan (stripComments text.toList) = .ok items ∧
      d.root.kind = .file ∧ (d.root.fields.map FieldOf.name).Nodup ∧
      ∃ placed, ListsDeclarations items d placed) ∧
    (∀ items a b first second, scan (stripComments text.toList) = .ok items →
      IsDeclaredAt items a first → IsDeclaredAt items b second → a ≠ b →
      first.path = second.path → ∃ e, parse text .protobuf = .error (.parse e)) := by
  have accepted : ∀ d, parse text .protobuf = .ok d →
      ∃ items, scan (stripComments text.toList) = .ok items ∧ d.root.kind = .file ∧
        (d.root.fields.map FieldOf.name).Nodup ∧ ∃ placed, ListsDeclarations items d placed :=
    fun d h => listsDeclarations_of_ofText (failParse_eq_ok.mp h)
  refine ⟨accepted, fun items a b first second scanned ha hb apart same => ?_⟩
  cases read : parse text .protobuf with
  | ok d =>
    obtain ⟨_, again, -, distinct, placed, lists⟩ := accepted d read
    obtain rfl := Except.ok.inj (scanned.symm.trans again)
    exact absurd (lists.eq_of_path distinct ha hb same) apart
  | error e =>
    obtain ⟨cause, rfl⟩ := isParseError_of_failParse read
    exact ⟨cause, rfl⟩

/-- A package with a message that has a message and an enum in it. -/
def nestedText : String :=
  "package shop; message Order \x7b message Line \x7b int32 n = 1; \x7d " ++
    "enum State \x7b NEW = 0; \x7d \x7d"

def nestedItems : List Item :=
  [.statement "package shop".toList 0,
    .block "message Order".toList 28
      [.block "message Line".toList 43 [.statement "int32 n = 1".toList 44],
        .block "enum State".toList 71 [.statement "NEW = 0".toList 72]]]

/-- A message whose dotted name is the path of another one. -/
def redeclaringText : String := "message A \x7b message B \x7b\x7d \x7d message A.B \x7b\x7d"

def redeclaringItems : List Item :=
  [.block "message A".toList 10 [.block "message B".toList 22 []],
    .block "message A.B".toList 39 []]

theorem scan_nestedText : scan (stripComments nestedText.toList) = .ok nestedItems := by
  have plain : stripComments nestedText.toList = nestedText.toList := by decide +kernel
  rw [plain]
  rfl

theorem scan_redeclaringText :
    scan (stripComments redeclaringText.toList) = .ok redeclaringItems := by
  have plain : stripComments redeclaringText.toList = redeclaringText.toList := by decide +kernel
  rw [plain]
  rfl

/-- The three declarations of the nested text. -/
theorem parse_nestedText : ∃ d, parse nestedText .protobuf = .ok d ∧
    d.root.fields.map FieldOf.name = ["Order", "Order.Line", "Order.State"] := by
  have read : (fun d => d.root.fields.map FieldOf.name) <$> ofText nestedText =
      .ok ["Order", "Order.Line", "Order.State"] := by decide +kernel
  obtain ⟨d, read, names⟩ := map_eq_ok.mp read
  exact ⟨d, failParse_eq_ok.mpr read, names⟩

theorem declarations_of_parse_nested :
    (∃ d placed, parse nestedText .protobuf = .ok d ∧ ListsDeclarations nestedItems d placed ∧
      d.root.fields.map FieldOf.name = ["Order", "Order.Line", "Order.State"]) ∧
    ∃ e, parse redeclaringText .protobuf = .error (.parse e) := by
  constructor
  · obtain ⟨d, read, names⟩ := parse_nestedText
    obtain ⟨items, scanned, -, -, placed, lists⟩ := (declarations_of_parse nestedText).1 d read
    obtain rfl := Except.ok.inj (scan_nestedText.symm.trans scanned)
    exact ⟨d, placed, read, lists, names⟩
  · have formed {keyword header name} (read : blockHeader? header = some (keyword, name)) :
        IsHeader keyword name header := (blockHeader?_eq_some.mp read).2
    have outer : IsHeader "message" "A".toList "message A".toList := formed rfl
    have inner : IsHeader "message" "B".toList "message B".toList := formed rfl
    have dotted : IsHeader "message" "A.B".toList "message A.B".toList := formed rfl
    have first : IsDeclaredAt redeclaringItems [0, 0] (DeclaringBlock.under
        [String.ofList "A".toList]
        ⟨"message", [], String.ofList "B".toList, "message B".toList, []⟩) :=
      .inside rfl outer (.here rfl (.inl rfl) inner)
    have second : IsDeclaredAt redeclaringItems [1]
        ⟨"message", [], String.ofList "A.B".toList, "message A.B".toList, []⟩ :=
      .here rfl (.inl rfl) dotted
    exact (declarations_of_parse redeclaringText).2 _ _ _ _ _ scan_redeclaringText first second
      (by decide) (by decide)

end SchemaReview.Protobuf
