import SchemaReview.Proofs.Protobuf.Declarations

/-!
# What a file says about itself

A file gives its syntax level and its package by a statement outside of all blocks, each in one
form. The reader takes the first statement of the form, and warns where there is none.
-/
namespace SchemaReview.Protobuf

open Text (isBlank)

variable {s run rest value : List Char} {test : Char → Bool} {q : Char}

/-- What is read of a run ends where the test fails. -/
theorem span?_eq_some : span? test s = some (run, rest) ↔
    run ≠ [] ∧ s = run ++ rest ∧ (∀ c ∈ run, test c = true) ∧
      ∀ c ∈ rest.head?, test c = false := by
  constructor
  · intro h
    obtain ⟨whole, passes⟩ := eq_and_forall_of_span? h
    refine ⟨ne_nil_of_span? h, whole, passes, fun c first => ?_⟩
    obtain rfl : s.dropWhile test = rest := by
      unfold span? at h
      dsimp only at h
      split at h
      · cases h
      · exact (Prod.mk.inj (Option.some.inj h)).2
    have stops := List.head?_dropWhile_not test s
    rw [Option.mem_def.mp first] at stops
    simpa using stops
  · rintro ⟨nonempty, rfl, passes, stops⟩
    have none : rest.takeWhile test = [] ∧ rest.dropWhile test = rest := by
      cases rest with
      | nil => exact ⟨rfl, rfl⟩
      | cons c rest => simp [stops c rfl]
    unfold span?
    rw [List.takeWhile_append_of_pos passes, List.dropWhile_append_of_pos passes, none.1, none.2,
      List.append_nil]
    simp [nonempty]

/-- The form of a statement that gives a syntax level. -/
def IsSyntaxLine (value s : List Char) : Prop :=
  value ≠ [] ∧ (∀ c ∈ value, isQuote c = false) ∧
    ∃ gap gap' q q', (∀ c ∈ gap, isBlank c = true) ∧ (∀ c ∈ gap', isBlank c = true) ∧
      isQuote q = true ∧ isQuote q' = true ∧
      s = ("syntax".toList ++ gap ++ '=' :: gap') ++ q :: (value ++ [q'])

theorem syntaxValue?_front {gap gap' : List Char} (blank : ∀ c ∈ gap, isBlank c = true)
    (blank' : ∀ c ∈ gap', isBlank c = true) (opens : isQuote q = true) (s : List Char) :
    syntaxValue? (("syntax".toList ++ gap ++ '=' :: gap') ++ q :: s) =
      (span? (fun c => !isQuote c) s).bind fun found =>
        match found.2 with
        | [_] => some found.1
        | _ => none := by
  have sign : skipBlanks (gap ++ '=' :: (gap' ++ q :: s)) = '=' :: (gap' ++ q :: s) :=
    skipBlanks_gap blank (by simp; decide +kernel)
  have quote : skipBlanks (gap' ++ q :: s) = q :: s :=
    skipBlanks_gap blank' (by simpa using isBlank_noQuotePasses q opens)
  unfold syntaxValue?
  rw [List.append_assoc, List.append_assoc, afterWord?_append]
  dsimp only [bind, Option.bind]
  rw [List.cons_append, sign]
  dsimp only [afterChar?]
  rw [if_pos (by decide)]
  dsimp only
  rw [quote]
  exact if_pos opens

theorem syntaxValue?_eq_some : syntaxValue? s = some value ↔ IsSyntaxLine value s := by
  constructor
  · intro h
    obtain ⟨gap, gap', q, q', blank, blank', opens, plain, rfl⟩ := exists_of_syntaxValue? h
    rw [syntaxValue?_front blank blank' opens] at h
    obtain ⟨⟨run, rest⟩, spanned, h⟩ := Option.bind_eq_some_iff.mp h
    obtain ⟨nonempty, whole, -, stops⟩ := span?_eq_some.mp spanned
    dsimp only at h
    split at h
    · cases h
      obtain rfl := List.singleton_inj.mp (List.append_cancel_left whole)
      refine ⟨nonempty, plain, gap, gap', q, _, blank, blank', opens, ?_, rfl⟩
      simpa using stops _ rfl
    · cases h
  · rintro ⟨nonempty, plain, gap, gap', q, q', blank, blank', opens, closes, rfl⟩
    have spanned : span? (fun c => !isQuote c) (value ++ [q']) = some (value, [q']) :=
      span?_eq_some.mpr ⟨nonempty, rfl, by simpa using plain, by simpa using closes⟩
    rw [syntaxValue?_front blank blank' opens, spanned]
    rfl

theorem packageName?_eq_some : packageName? s = some value ↔ IsHeader "package" value s := by
  have same : packageName? s = (headerWith? s "package").map Prod.snd := by
    unfold packageName? headerWith?
    simp only [bind, Option.map_bind, Function.comp_def]
    refine Option.bind_congr fun u _ => Option.bind_congr fun v _ =>
      Option.bind_congr fun found _ => ?_
    split <;> rfl
  rw [same, Option.map_eq_some_iff]
  constructor
  · rintro ⟨found, read, rfl⟩
    obtain ⟨name, rfl, formed⟩ := headerWith?_eq_some.mp read
    exact formed
  · exact fun formed => ⟨_, headerWith?_eq_some.mpr ⟨_, rfl, formed⟩, rfl⟩

/-! ### Statements outside of all blocks -/

/-- A text has a statement of some form outside of all blocks. -/
def StatesAtTop (form : List Char → Prop) (text : String) : Prop :=
  ∃ items, scan (stripComments text.toList) = .ok items ∧
    ∃ words offset, .statement words offset ∈ items ∧ form words

/-- A text gives a syntax level. -/
def DeclaresSyntax : String → Prop := StatesAtTop fun words => ∃ value, IsSyntaxLine value words

/-- A text names its package. -/
def DeclaresPackage : String → Prop :=
  StatesAtTop fun words => ∃ name, IsHeader "package" name words

theorem topLevelValue?_eq_none {read : List Char → Option (List Char)} {items : List Item} :
    topLevelValue? read items = none ↔
      ¬ ∃ words offset, .statement words offset ∈ items ∧ ∃ value, read words = some value := by
  unfold topLevelValue?
  rw [List.findSome?_eq_none_iff]
  constructor
  · rintro unread ⟨words, offset, stated, value, given⟩
    have none := unread _ stated
    simp [given] at none
  · intro unstated item hi
    cases item with
    | block header offset children => rfl
    | statement words offset =>
      rw [Option.map_eq_none_iff, Option.eq_none_iff_forall_not_mem]
      exact fun value given => unstated ⟨words, offset, hi, value, given⟩

theorem exists_of_topLevelValue? {read : List Char → Option (List Char)} {items : List Item}
    {value : String} (h : topLevelValue? read items = some value) :
    ∃ words chars, read words = some chars ∧ value = String.ofList chars := by
  obtain ⟨item, -, h⟩ := List.exists_of_findSome?_eq_some h
  cases item with
  | block header offset children => cases h
  | statement words offset =>
    obtain ⟨chars, given, rfl⟩ := Option.map_eq_some_iff.mp h
    exact ⟨words, chars, given, rfl⟩

/-- What an accepted text says about itself is what its document says, and for what is missing there
is one warning. -/
structure IsFileOf (d : Document) (text : String) : Prop where
  format : d.format = .protobuf
  root : d.root.kind = .file
  syntaxLevel : d.syntaxLevel = none ↔ ¬ DeclaresSyntax text
  package : d.package = none ↔ ¬ DeclaresPackage text
  named : d.package ≠ some ""
  warnings : d.warnings.map Issue.message =
    (if d.syntaxLevel.isNone then [missingSyntaxMessage] else []) ++
      (if d.package.isNone then [missingPackageMessage] else [])

theorem isFileOf_of_ofText {text : String} {d : Document} (h : ofText text = .ok d) :
    IsFileOf d text := by
  obtain ⟨-, items, fields, scanned, -, rfl⟩ := ofText_eq_ok.mp h
  have states (form : List Char → Prop) : StatesAtTop form text ↔
      ∃ words offset, .statement words offset ∈ items ∧ form words := by
    simp [StatesAtTop, scanned]
  constructor
  · rfl
  · rfl
  · rw [DeclaresSyntax, states]
    simp only [← syntaxValue?_eq_some]
    exact topLevelValue?_eq_none
  · rw [DeclaresPackage, states]
    simp only [← packageName?_eq_some]
    exact topLevelValue?_eq_none
  · intro empty
    obtain ⟨words, chars, read, same⟩ := exists_of_topLevelValue? empty
    exact ofList_ne_empty (packageName?_eq_some.mp read).1 same.symm
  · unfold documentWith
    dsimp only
    rw [List.map_append]
    congr 1 <;> split <;> rfl

end SchemaReview.Protobuf
