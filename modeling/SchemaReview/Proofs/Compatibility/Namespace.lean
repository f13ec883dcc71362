import SchemaReview.Proofs.Avro.Namespace
import SchemaReview.Proofs.Avro.Scope
import SchemaReview.Proofs.Compatibility.Batch
import SchemaReview.Proofs.Compatibility.Leaves
import SchemaReview.Proofs.Compatibility.Matched
import SchemaReview.Proofs.Compatibility.Shortcut

/-!
# Comparing a root with itself in another namespace

The namespace of a root is informational, but the types inside it and the names written there are
qualified with it, and types are compared by their full names. So the only entries that can be
breaking are those of fields whose types show a name that has moved.
-/
namespace SchemaReview

namespace Schema

/-- The full name that a signature shows of a type: the one that a reference means, or its own. -/
def shownName (s : Schema) : Json :=
  if s.kind = .reference then Json.ofOption .str s.typeName else s.qualifiedName

/-- Whether two types show, in one place, a name and the one that it has moved to. -/
inductive ShowsMove (a b : String) : Schema → Schema → Prop
  | here {s t : Schema} {old new : String} (before : s.shownName = .str old)
    (after : t.shownName = .str new) (moved : NameMoves a b old new) : ShowsMove a b s t
  | inside {s t p q : Schema} (place : Nat) (before : s.components[place]? = some p)
    (after : t.components[place]? = some q) (shown : ShowsMove a b p q) : ShowsMove a b s t

section

variable {a b : String} {s t : Schema}

theorem qualifiedName_moves (ha : a ≠ "") (hb : b ≠ "") (h : s.Moves a b t) :
    s.qualifiedName = t.qualifiedName ∨ ∃ old new, s.qualifiedName = .str old ∧
      t.qualifiedName = .str new ∧ NameMoves a b old new := by
  obtain ⟨same | ⟨before, after, n, named, plain⟩, -, -, -, -, -, rest⟩ := h
  · left
    have name : s.name = t.name := (congrArg Schema.name rest).symm
    unfold qualifiedName
    rw [name, same]
  · have name : t.name = .str n := (congrArg Schema.name rest).trans named
    by_cases hn : n = ""
    · left
      unfold qualifiedName
      rw [named, name, hn]
      rfl
    have truthy : (Json.str n).isTruthy = true := by simpa [Json.isTruthy] using hn
    have old : s.qualifiedName = .str (a ++ "." ++ n) := by
      unfold qualifiedName
      simp only [named, before, truthy, ha, if_true, if_false, Json.toText_str]
    have new : t.qualifiedName = .str (b ++ "." ++ n) := by
      unfold qualifiedName
      simp only [name, after, truthy, hb, if_true, if_false, Json.toText_str]
    by_cases same : a ++ "." ++ n = b ++ "." ++ n
    · exact .inl (by rw [old, new, same])
    · exact .inr ⟨_, _, old, new, same, n, plain, .inl rfl, .inl rfl⟩

/-- A node shows the same name as before, or a name that has moved. -/
theorem shownName_moves (ha : a ≠ "") (hb : b ≠ "") (h : s.Moves a b t) :
    s.shownName = t.shownName ∨ s.ShowsMove a b t := by
  by_cases kind : s.kind = .reference
  · have kind' : t.kind = .reference := h.kind ▸ kind
    obtain ⟨-, same | ⟨-, old, new, before, after, moved⟩, -, -, -, -, -⟩ := h
    · left
      unfold shownName
      rw [if_pos kind, if_pos kind', same]
    · refine .inr (.here ?_ ?_ moved)
      · rw [shownName, if_pos kind, before]
        rfl
      · rw [shownName, if_pos kind', after]
        rfl
  · have kind' : t.kind ≠ .reference := h.kind ▸ kind
    obtain same | ⟨old, new, before, after, moved⟩ := qualifiedName_moves ha hb h
    · left
      rwa [shownName, shownName, if_neg kind, if_neg kind']
    · refine .inr (.here ?_ ?_ moved)
      · rwa [shownName, if_neg kind]
      · rwa [shownName, if_neg kind']

theorem qualifiedName_eq_of_shownName (h : s.Moves a b t) (kind : s.kind ≠ .reference)
    (same : s.shownName = t.shownName) : s.qualifiedName = t.qualifiedName := by
  have kind' : t.kind ≠ .reference := h.kind ▸ kind
  rwa [shownName, shownName, if_neg kind, if_neg kind'] at same

theorem typeName_eq_of_shownName (h : s.Moves a b t) (kind : s.kind = .reference)
    (same : s.shownName = t.shownName) : s.typeName = t.typeName := by
  have kind' : t.kind = .reference := h.kind ▸ kind
  rw [shownName, shownName, if_pos kind, if_pos kind'] at same
  exact Avro.ofOption_str_injective same

theorem typeName_moves (h : s.Moves a b t) (kind : s.kind ≠ .reference) :
    s.typeName = t.typeName := by
  obtain ⟨-, same | ⟨reference, -⟩, -⟩ := h
  · exact same
  · exact absurd reference kind

theorem primitiveSignature_eq_of_shownName (h : s.Moves a b t) (kind : s.kind = .primitive)
    (same : s.shownName = t.shownName) : s.primitiveSignature = t.primitiveSignature := by
  have other : s.kind ≠ .reference := by
    rw [kind]
    decide
  have size : s.size = t.size := (congrArg Schema.size h.rest).symm
  have logicalType : s.logicalType = t.logicalType := (congrArg Schema.logicalType h.rest).symm
  unfold primitiveSignature
  rw [typeName_moves h other, qualifiedName_eq_of_shownName h other same, size, logicalType]

/-- Nodes that have moved stand for nodes that have moved. -/
theorem isPairing_moves (a b : String) : IsPairing (Moves a b) where
  kind := Moves.kind
  isNull {s t} h := by
    have kinds : s.kind = t.kind := h.kind
    unfold isNull
    rw [← kinds]
    cases kind : s.kind with
    | primitive => rw [typeName_moves h (by rw [kind]; decide)]
    | _ => rfl
  items h _ := by
    obtain ⟨-, -, -, items, -⟩ := h
    exact items
  values h _ := by
    obtain ⟨-, -, -, -, values, -⟩ := h
    exact values
  members h _ := by
    obtain ⟨-, -, -, -, -, members, -⟩ := h
    exact members

end

/-! ### Signatures -/

mutual

/-- Types that have moved have one signature, unless they show it. -/
theorem typeSignature_moves {a b : String} {s t : Schema} (ha : a ≠ "") (hb : b ≠ "")
    (h : s.Moves a b t) :
    s.ShowsMove a b t ∨ s.typeSignature true = t.typeSignature true := by
  have smaller := s.sizeOf_held_lt
  obtain shown | move := shownName_moves ha hb h
  swap
  · exact .inl move
  have kinds := h.kind
  rw [typeSignature_eq true s, typeSignature_eq true t, ← kinds]
  cases kind : s.kind with
  | primitive =>
    dsimp only
    rw [primitiveSignature_eq_of_shownName h kind shown]
    exact .inr rfl
  | reference =>
    dsimp only
    rw [typeName_eq_of_shownName h kind shown]
    exact .inr rfl
  | array =>
    dsimp only
    obtain ⟨p, q, before, after, shows⟩ | same :=
      innerSignature_moves ha hb ((isPairing_moves a b).items h kind)
    · refine .inl (.inside 0 ?_ ?_ shows)
      · simp [components, held?, kind, before]
      · simp [components, held?, ← kinds, kind, after]
    · rw [same]
      exact .inr rfl
  | map =>
    dsimp only
    obtain ⟨p, q, before, after, shows⟩ | same :=
      innerSignature_moves ha hb ((isPairing_moves a b).values h kind)
    · refine .inl (.inside 0 ?_ ?_ shows)
      · simp [components, held?, kind, before]
      · simp [components, held?, ← kinds, kind, after]
    · rw [same]
      exact .inr rfl
  | union =>
    dsimp only
    obtain ⟨place, p, q, before, after, shows⟩ | same :=
      memberSignatures_moves ha hb ((isPairing_moves a b).members h kind)
    · refine .inl (.inside place ?_ ?_ shows)
      · simpa [components, kind] using before
      · simpa [components, ← kinds, kind] using after
    · rw [same]
      exact .inr rfl
  | record | enum | message | file =>
    dsimp only
    rw [qualifiedName_eq_of_shownName h (by rw [kind]; decide) shown]
    exact .inr rfl
termination_by sizeOf s

theorem innerSignature_moves {a b : String} {x y : Option Schema} (ha : a ≠ "") (hb : b ≠ "")
    (h : Option.Rel (Moves a b) x y) :
    (∃ p q : Schema, x = some p ∧ y = some q ∧ ShowsMove a b p q) ∨
      innerSignature true x = innerSignature true y := by
  match x, y, h with
  | none, none, .none => exact .inr rfl
  | some i, some j, .some moves =>
    obtain shows | same := typeSignature_moves ha hb moves
    · exact .inl ⟨i, j, rfl, rfl, shows⟩
    · right
      rw [innerSignature, innerSignature, same]
termination_by sizeOf x

theorem memberSignatures_moves {a b : String} {xs ys : List Schema} (ha : a ≠ "") (hb : b ≠ "")
    (h : List.Forall₂ (Moves a b) xs ys) :
    (∃ (place : Nat) (p q : Schema), xs[place]? = some p ∧ ys[place]? = some q ∧
      ShowsMove a b p q) ∨
      memberSignatures true xs = memberSignatures true ys := by
  match xs, ys, h with
  | [], [], .nil => exact .inr rfl
  | x :: xs, y :: ys, .cons first others =>
    obtain shows | same := typeSignature_moves ha hb first
    · exact .inl ⟨0, x, y, rfl, rfl, shows⟩
    obtain ⟨place, p, q, before, after, shows⟩ | rest := memberSignatures_moves ha hb others
    · exact .inl ⟨place + 1, p, q, before, after, shows⟩
    · right
      rw [memberSignatures, memberSignatures, same, rest]
termination_by sizeOf xs

end

theorem namedSignature_moves {a b : String} {s t : Schema} (ha : a ≠ "") (hb : b ≠ "")
    (h : s.Moves a b t) :
    s.ShowsMove a b t ∨ s.namedSignature true = t.namedSignature true := by
  obtain shown | move := shownName_moves ha hb h
  swap
  · exact .inl move
  obtain move | same := typeSignature_moves ha hb h
  · exact .inl move
  right
  unfold namedSignature
  rw [← h.kind, same]
  by_cases named : s.kind.isNamed = true
  · have other : s.kind ≠ .reference := by
      intro reference
      rw [reference] at named
      cases named
    rw [qualifiedName_eq_of_shownName h other shown]
  · simp only [Bool.not_eq_true] at named
    simp only [named, Bool.and_false, Bool.false_and, Bool.false_eq_true, if_false]

/-- A name stands for fields on both sides or on none, and their types have moved. -/
theorem field?_moves {a b : String} {s t : Schema} (h : s.Moves a b t) (name : String) :
    Option.Rel (FieldOf.Moves a b) (s.field? name) (t.field? name) := by
  obtain ⟨-, -, fields, -⟩ := h
  unfold field?
  generalize s.fields = fs, t.fields = gs at fields
  induction fields with
  | nil => exact .none
  | @cons f g _ _ first _ ih =>
    have same : f.name = g.name := by
      obtain ⟨-, rest⟩ := first
      exact (congrArg FieldOf.name rest).symm
    rw [List.find?_cons, List.find?_cons, same]
    cases g.name == name with
    | true => exact .some first
    | false => exact ih

/-- A field of one side has its like under its name on the other side. -/
theorem exists_field?_moves {a b : String} {s t : Schema} {f : Field} (h : s.Moves a b t)
    (tree : Avro.IsTree s) (hf : f ∈ s.fields) : ∃ g, t.field? f.name = some g ∧ f.Moves a b g := by
  have moved := field?_moves h f.name
  rw [tree.field?_of_mem hf] at moved
  generalize t.field? f.name = found at moved ⊢
  cases moved with
  | some moved => exact ⟨_, rfl, moved⟩

theorem exists_field?_of_moves {a b : String} {s t : Schema} {g : Field} (h : s.Moves a b t)
    (tree : Avro.IsTree t) (hg : g ∈ t.fields) : ∃ f, s.field? g.name = some f := by
  have moved := field?_moves h g.name
  rw [tree.field?_of_mem hg] at moved
  generalize s.field? g.name = found at moved ⊢
  cases moved with
  | some moved => exact ⟨_, rfl⟩

end Schema

theorem Avro.IsTree.hasTextNames {byName : Bool} {s : Schema} (h : Avro.IsTree s) :
    s.HasTextNames byName := fun _ _ ht => (h.node ht).isTextOrNull_name

/-! ### Entries -/

/-- Whether an entry is for a field whose type shows a move after which one version cannot be read
as the mode asks. -/
structure DiffEntry.IsMove (a b : String) (mode : Mode) (before after : Schema) (e : DiffEntry) :
    Prop where
  kind : e.kind = .fieldTypeChanged
  field : ∃ place old new name f g, MatchedAt true before after place old new ∧
    old.field? name = some f ∧ new.field? name = some g ∧ e.path = place ++ [.name name] ∧
    f.type.ShowsMove a b g.type ∧ Schema.isBreakingChange true mode f.type g.type = true

namespace Comparison

variable {c : Comparison} {a b : String} {before after : Schema} {path : Path}

theorem signaturesDiffer_moves (ha : a ≠ "") (hb : b ≠ "") (names : c.byName = true)
    (h : before.Moves a b after) (texts : before.HasTextNames true) :
    before.ShowsMove a b after ∨ c.signaturesDiffer before after = .ok false := by
  refine (Schema.namedSignature_moves ha hb h).imp_right fun same => ?_
  obtain ⟨text, signature⟩ := texts.exists_namedSignature
  have equals : (Json.str text).equals (.str text) = true := (Schema.equals_str text text).mpr rfl
  unfold signaturesDiffer
  rw [names, ← same, signature]
  simp only [bind, Except.bind, equals]
  rfl

/-- A type that has moved gives an entry only if it shows the move. -/
theorem finds_fieldTypeEntries (ha : a ≠ "") (hb : b ≠ "") (names : c.byName = true)
    (h : before.Moves a b after) (texts : before.HasTextNames true) :
    Finds (fun e => e.kind = .fieldTypeChanged ∧ e.path = path ∧
      e.breaking = Schema.isBreakingChange true c.mode before after ∧
      before.ShowsMove a b after) (c.fieldTypeEntries path before after) := by
  have kept : kindSwapped before after = false := by
    unfold kindSwapped
    rw [h.kind, bne_self_eq_false, Bool.false_and, Bool.false_and]
  unfold fieldTypeEntries
  rw [kept]
  obtain shows | same := signaturesDiffer_moves ha hb names h texts
  · refine finds_ite nofun fun _ entries ran => ?_
    obtain ⟨differs, -, ran⟩ := bind_eq_ok.mp ran
    cases differs with
    | true =>
      unfold typeChange at ran
      obtain ⟨old, -, ran⟩ := bind_eq_ok.mp ran
      obtain ⟨new, -, ran⟩ := bind_eq_ok.mp ran
      obtain rfl := pure_eq_ok.mp ran
      exact List.forall_mem_singleton.mpr ⟨rfl, rfl, by rw [names], shows⟩
    | false =>
      cases ran
      nofun
  · rw [same]
    exact finds_ok nofun

/-- Besides its type, nothing of a field that has moved gives a breaking entry. -/
theorem breaking_of_mem_fieldDetails {old new : Field} (tag : old.tag = new.tag) :
    ∀ e ∈ c.fieldDetails path old new, e.breaking = false := by
  unfold fieldDetails
  refine List.forall_mem_append.mpr ⟨?_, List.forall_mem_append.mpr ⟨?_, ?_⟩⟩
  · rw [if_pos tag]
    nofun
  · split
    · exact List.forall_mem_singleton.mpr rfl
    · nofun
  · split
    · exact List.forall_mem_singleton.mpr rfl
    · nofun

/-- Apart from the name, nothing of a named type itself gives a breaking entry. -/
theorem breaking_of_mem_headChanges (name : before.name.equals after.name = true) :
    ∀ e ∈ c.headChanges path before after, e.breaking = false := by
  unfold headChanges
  refine List.forall_mem_append.mpr ⟨List.forall_mem_append.mpr ⟨?_, ?_⟩, ?_⟩
  · rw [if_pos name]
    nofun
  · split
    · nofun
    · exact List.forall_mem_singleton.mpr rfl
  · split
    · exact List.forall_mem_singleton.mpr rfl
    · nofun

/-- A change of the namespace is reported. -/
theorem exists_namespaceChanged (old : before.qualifier = some a) (new : after.qualifier = some b)
    (differ : a ≠ b) : ∃ e ∈ c.headChanges path before after, e.kind = .namespaceChanged ∧
      e.path = path ∧ e.before = .str a ∧ e.after = .str b ∧ e.breaking = false := by
  have changed : before.qualifier ≠ after.qualifier := by
    rw [old, new]
    exact fun same => differ (Option.some.inj same)
  unfold headChanges
  dsimp only
  rw [if_neg changed]
  refine ⟨_, List.mem_append_left _ (List.mem_append_right _ List.mem_cons_self), rfl, rfl, ?_, ?_,
    rfl⟩
  · rw [old]
    rfl
  · rw [new]
    rfl

/-- The induction follows the named types downwards; each of them is a record that is put side by
side with its like, or an enum with the same symbols. -/
theorem breaksByMoves_namedChanges {c : Comparison} {a b : String}
    {root root' before after : Schema} {path : Path} (ha : a ≠ "") (hb : b ≠ "") (names : c.byName = true)
    (h : before.Moves a b after) (tree : Avro.IsTree before) (tree' : Avro.IsTree after)
    (matched : before.kind ≠ .enum → MatchedAt true root root' path before after) :
    Finds (fun e => e.breaking = true → e.IsMove a b c.mode root root')
      (c.namedChanges path before after) := by
  have name : before.name.equals after.name = true := by
    rw [← h.name]
    exact Schema.equals_self_of_isTextOrNull tree.isTextOrNull_name
  have head : ∀ e ∈ c.headChanges path before after,
      e.breaking = true → e.IsMove a b c.mode root root' := fun e he breaking =>
    absurd breaking (by simp [breaking_of_mem_headChanges name e he])
  by_cases kind : before.kind = .enum
  · have symbols : before.symbols = after.symbols := (congrArg Schema.symbols h.rest).symm
    have values : before.symbolValues = after.symbolValues :=
      (congrArg Schema.symbolValues h.rest).symm
    rw [namedChanges_enum c path kind, symbolChanges_eq_nil symbols values, List.append_nil]
    exact finds_ok head
  refine finds_namedChanges kind head ?lost ?gained fun pair hp => ?pairs
  case lost =>
    rw [removals_eq_nil fun f hf =>
      (Schema.exists_field?_moves h tree hf).imp fun _ found => found.1]
    exact finds_ok nofun
  case gained =>
    rw [additions_eq_nil fun g hg => Schema.exists_field?_of_moves h tree' hg]
    exact finds_ok nofun
  case pairs =>
    obtain ⟨old, new⟩ := pair
    obtain ⟨hold, found⟩ := mem_sharedFields.mp hp
    have hnew := (Schema.of_field?_eq_some found).1
    have oldFound := tree.field?_of_mem hold
    obtain ⟨g, found', type, rest⟩ := Schema.exists_field?_moves h tree hold
    obtain rfl := Option.some.inj (found.symm.trans found')
    have oldTree := tree.type hold
    have newTree := tree'.type hnew
    unfold pairChanges
    rw [fieldChanges_eq]
    refine Finds.append (Finds.append ?_ (finds_ok ?_)) ?_
    · intro entries ran e he breaking
      obtain ⟨changed, place, breaks, shows⟩ :=
        finds_fieldTypeEntries ha hb names type oldTree.hasTextNames entries ran e he
      exact ⟨changed, path, before, after, old.name, old, new, matched kind, oldFound, found, place,
        shows, breaks.symm.trans breaking⟩
    · intro e he breaking
      have tag : old.tag = new.tag := (congrArg FieldOf.tag rest).symm
      rw [breaking_of_mem_fieldDetails tag e he] at breaking
      cases breaking
    · rw [nestedChanges_eq_matched]
      cases below : c.matchedNamed? old.type new.type with
      | none => exact finds_ok (by simp)
      | some named =>
        obtain ⟨oldNamed, newNamed⟩ := named
        have smaller : sizeOf oldNamed < sizeOf before := sizeOf_matched_lt hp below
        obtain ⟨oldStands, newStands, -⟩ := matchedNamed?_eq_some.mp below
        obtain ⟨oldNode, named⟩ := Schema.of_unwrapNamed_eq_some oldStands
        have pair := (Schema.isPairing_moves a b).unwrapNamed type
        rw [oldStands, newStands] at pair
        cases pair with
        | some pair =>
          refine breaksByMoves_namedChanges ha hb names pair (oldTree.node oldNode)
            (newTree.node (Schema.of_unwrapNamed_eq_some newStands).1) fun other => ?_
          have nesting : oldNamed.kind.isNesting = true :=
            Kind.isNesting_of_isNamed named
              (Kind.isContainer_of_isStructured (Kind.isStructured_of_isNamed named) other)
          exact .field (matched kind) (names ▸ standFor_of_matched oldFound found below nesting)
termination_by sizeOf before

/-- The attributes of two matched types are part of what their comparison gives. -/
theorem mem_of_mem_headChanges {entries : List DiffEntry} {e : DiffEntry}
    (ran : c.namedChanges path before after = .ok entries)
    (he : e ∈ c.headChanges path before after) : e ∈ entries := by
  by_cases kind : before.kind = .enum
  · rw [namedChanges_enum c path kind] at ran
    cases ran
    exact List.mem_append_left _ he
  · rw [namedChanges_container c path kind] at ran
    obtain ⟨removed, -, ran⟩ := bind_eq_ok.mp ran
    obtain ⟨added, -, ran⟩ := bind_eq_ok.mp ran
    obtain ⟨changed, -, ran⟩ := bind_eq_ok.mp ran
    obtain rfl := pure_eq_ok.mp ran
    simp [he]

end Comparison

/-- A record of a namespace is compared with the same record of another one. The change of the
namespace is reported and is not breaking, in any mode. What is breaking are only changes of types
that show a name which has moved with the namespace. -/
theorem diff_replacedNamespace {a b textBefore textAfter : String} {v w : Json}
    {before after : Document} (given : a ≠ "") (other : b ≠ "") (differ : a ≠ b)
    (replaced : Avro.ReplacesNamespace a b v w) (spelt : jsonOfSchemaText textBefore = .ok v)
    (spelt' : jsonOfSchemaText textAfter = .ok w) (accepted : parse textBefore .avro = .ok before)
    (accepted' : parse textAfter .avro = .ok after) (mode : Mode) :
    ∃ entries, diff (.document before) (.document after) mode = .ok entries ∧
      (∃ e ∈ entries, e.kind = .namespaceChanged ∧ e.path = [] ∧ e.before = .str a ∧
        e.after = .str b ∧ e.breaking = false) ∧
      ∀ e ∈ entries, e.breaking = true → e.IsMove a b mode before.root after.root := by
  obtain ⟨entries, ran⟩ := succeeds_diff_of_isParsed ⟨textBefore, .avro, before, rfl, accepted⟩
    ⟨textAfter, .avro, after, rfl, accepted'⟩ mode
  obtain ⟨v', s, read, built, rfl⟩ := parse_avro_eq_ok.mp accepted
  obtain ⟨w', t, read', built', rfl⟩ := parse_avro_eq_ok.mp accepted'
  obtain rfl := Except.ok.inj (spelt.symm.trans read)
  obtain rfl := Except.ok.inj (spelt'.symm.trans read')
  obtain ⟨_, reads⟩ := Avro.ofJson_eq_ok.mp built
  obtain ⟨_, reads'⟩ := Avro.ofJson_eq_ok.mp built'
  obtain ⟨moves, kind, old, new⟩ :=
    Avro.moves_of_replacesNamespace given other replaced reads reads'
  have compared : (⟨mode, true⟩ : Comparison).namedChanges [] s t = .ok entries := by
    change Comparison.rootChanges ⟨mode, true⟩ s t = .ok entries at ran
    unfold Comparison.rootChanges at ran
    rwa [if_neg (not_not_intro moves.kind), if_pos (by rw [kind]; rfl)] at ran
  refine ⟨entries, ran, ?_, ?_⟩
  · obtain ⟨e, he, reported⟩ := Comparison.exists_namespaceChanged old new differ
    exact ⟨e, Comparison.mem_of_mem_headChanges compared he, reported⟩
  · have matched : MatchedAt true s t [] s t := .roots moves.kind (by rw [kind]; rfl)
    exact Comparison.breaksByMoves_namedChanges given other rfl moves (Avro.isTree_of_ofJson built)
      (Avro.isTree_of_ofJson built') (fun _ => matched) entries compared

/-- A record with fields, in a namespace. -/
def rootText (space fields : String) : String :=
  "\x7b\"type\":\"record\",\"name\":\"R\",\"namespace\":\"" ++ space ++
    "\",\"fields\":[" ++ fields ++ "]\x7d"

def rootJson (space : String) (fields : List Json) : Json :=
  .obj [("type", .str "record"), ("name", .str "R"), ("namespace", .str space),
    ("fields", .arr fields)]

theorem replacesNamespace_rootJson (a b : String) (fields : List Json) :
    Avro.ReplacesNamespace a b (rootJson a fields) (rootJson b fields) :=
  .record rfl (.inl rfl) rfl (by decide) rfl

/-- A field that refers to the record around it. -/
def nextText : String := "\x7b\"name\":\"next\",\"type\":[\"null\",\"R\"]\x7d"

def nextJson : Json := .obj [("name", .str "next"), ("type", .arr [.str "null", .str "R"])]

/-- What a record with such a field is read as. -/
def linkedRoot (space target : String) : Schema where
  kind := .record
  name := .str "R"
  qualifier := some space
  fields := [{ name := "next", type := { kind := .union, members := [
    { kind := .primitive, typeName := some "null" },
    { kind := .reference, typeName := some target }] } }]

def linkedDocument (space target : String) : Document where
  format := .avro
  root := linkedRoot space target

theorem read_linked_a :
    jsonOfSchemaText (rootText "a" nextText) = .ok (rootJson "a" [nextJson]) := by
  have spelled : rootText "a" nextText = String.ofList _ :=
    spelled_append (spelled_append (spelled_append (spelled_append rfl rfl) rfl) rfl) rfl
  exact jsonOfSchemaText_eq_ok.mpr (Json.ofText_of_spelled spelled (by cbv))

theorem read_linked_b :
    jsonOfSchemaText (rootText "b" nextText) = .ok (rootJson "b" [nextJson]) := by
  have spelled : rootText "b" nextText = String.ofList _ :=
    spelled_append (spelled_append (spelled_append (spelled_append rfl rfl) rfl) rfl) rfl
  exact jsonOfSchemaText_eq_ok.mpr (Json.ofText_of_spelled spelled (by cbv))

theorem parse_linked_a : parse (rootText "a" nextText) .avro = .ok (linkedDocument "a" "a.R") := by
  have built : Avro.ofJson (rootJson "a" [nextJson]) = .ok (linkedRoot "a" "a.R") := by cbv
  exact parse_avro_eq_ok.mpr ⟨_, _, read_linked_a, built, rfl⟩

theorem parse_linked_b : parse (rootText "b" nextText) .avro = .ok (linkedDocument "b" "b.R") := by
  have built : Avro.ofJson (rootJson "b" [nextJson]) = .ok (linkedRoot "b" "b.R") := by cbv
  exact parse_avro_eq_ok.mpr ⟨_, _, read_linked_b, built, rfl⟩

theorem hasBreaking_linked :
    hasBreaking <$> diff (.document (linkedDocument "a" "a.R"))
      (.document (linkedDocument "b" "b.R")) .backward = .ok true := by
  cbv

/-- The type of the field is named, and its name has moved. -/
theorem diff_replacedNamespace_linked :
    Avro.ReplacesNamespace "a" "b" (rootJson "a" [nextJson]) (rootJson "b" [nextJson]) ∧
      parse (rootText "a" nextText) .avro = .ok (linkedDocument "a" "a.R") ∧
      parse (rootText "b" nextText) .avro = .ok (linkedDocument "b" "b.R") ∧
      ∃ entries, diff (.document (linkedDocument "a" "a.R"))
          (.document (linkedDocument "b" "b.R")) .backward = .ok entries ∧
        (∃ e ∈ entries, e.kind = .namespaceChanged ∧ e.breaking = false) ∧
        ∃ e ∈ entries, e.breaking = true ∧
          e.IsMove "a" "b" .backward (linkedRoot "a" "a.R") (linkedRoot "b" "b.R") := by
  have replaced := replacesNamespace_rootJson "a" "b" [nextJson]
  obtain ⟨entries, ran, ⟨e, he, kind, -, -, -, harmless⟩, moves⟩ :=
    diff_replacedNamespace (by decide) (by decide) (by decide) replaced read_linked_a read_linked_b
      parse_linked_a parse_linked_b .backward
  refine ⟨replaced, parse_linked_a, parse_linked_b, entries, ran, ⟨e, he, kind, harmless⟩, ?_⟩
  have breaks := hasBreaking_linked
  rw [ran] at breaks
  obtain ⟨loss, listed, breaking⟩ := List.any_eq_true.mp (Except.ok.inj breaks)
  exact ⟨loss, listed, breaking, moves loss listed breaking⟩

/-- A field whose type has the full name that the root has in the namespace `b`. -/
def stateText : String :=
  "\x7b\"name\":\"state\",\"type\":\x7b\"type\":\"enum\",\"name\":\"b.R\"," ++
    "\"symbols\":[\"ON\"]\x7d\x7d"

def stateJson : Json :=
  .obj [("name", .str "state"), ("type", .obj [("type", .str "enum"), ("name", .str "b.R"),
    ("symbols", .arr [.str "ON"])])]

set_option maxRecDepth 2000 in
theorem read_state_a :
    jsonOfSchemaText (rootText "a" stateText) = .ok (rootJson "a" [stateJson]) := by
  have spelled : rootText "a" stateText = String.ofList _ :=
    spelled_append (spelled_append (spelled_append (spelled_append rfl rfl) rfl)
      (spelled_append rfl rfl)) rfl
  exact jsonOfSchemaText_eq_ok.mpr (Json.ofText_of_spelled spelled (by cbv))

set_option maxRecDepth 2000 in
theorem read_state_b :
    jsonOfSchemaText (rootText "b" stateText) = .ok (rootJson "b" [stateJson]) := by
  have spelled : rootText "b" stateText = String.ofList _ :=
    spelled_append (spelled_append (spelled_append (spelled_append rfl rfl) rfl)
      (spelled_append rfl rfl)) rfl
  exact jsonOfSchemaText_eq_ok.mpr (Json.ofText_of_spelled spelled (by cbv))

set_option maxRecDepth 2000 in
theorem exists_parse_state_a : ∃ before, parse (rootText "a" stateText) .avro = .ok before := by
  have built : (Avro.ofJson (rootJson "a" [stateJson])).isOk = true := by cbv
  cases accepted : Avro.ofJson (rootJson "a" [stateJson]) with
  | ok root => exact ⟨_, parse_avro_eq_ok.mpr ⟨_, _, read_state_a, accepted, rfl⟩⟩
  | error e =>
    rw [accepted] at built
    cases built

set_option maxRecDepth 2000 in
/-- In the namespace `b`, the name of the type is the name of the root. -/
theorem parse_state_b_ne_ok (after : Document) :
    parse (rootText "b" stateText) .avro ≠ .ok after := by
  have refused : (Avro.ofJson (rootJson "b" [stateJson])).isOk = false := by cbv
  intro accepted
  obtain ⟨v, root, read, built, -⟩ := parse_avro_eq_ok.mp accepted
  obtain rfl := Except.ok.inj (read_state_b.symm.trans read)
  rw [built] at refused
  cases refused

/-- Replacing the namespace of the root alone can be breaking, and it can make a schema that defines
one name twice. -/
theorem replacedNamespace_breaks :
    (∃ entries, parse (rootText "a" nextText) .avro = .ok (linkedDocument "a" "a.R") ∧
      parse (rootText "b" nextText) .avro = .ok (linkedDocument "b" "b.R") ∧
      jsonOfSchemaText (rootText "a" nextText) = .ok (rootJson "a" [nextJson]) ∧
      jsonOfSchemaText (rootText "b" nextText) = .ok (rootJson "b" [nextJson]) ∧
      Avro.ReplacesNamespace "a" "b" (rootJson "a" [nextJson]) (rootJson "b" [nextJson]) ∧
      diff (.document (linkedDocument "a" "a.R")) (.document (linkedDocument "b" "b.R"))
        .backward = .ok entries ∧ ∃ e ∈ entries, e.breaking = true) ∧
      (∃ before, parse (rootText "a" stateText) .avro = .ok before) ∧
      jsonOfSchemaText (rootText "a" stateText) = .ok (rootJson "a" [stateJson]) ∧
      jsonOfSchemaText (rootText "b" stateText) = .ok (rootJson "b" [stateJson]) ∧
      Avro.ReplacesNamespace "a" "b" (rootJson "a" [stateJson]) (rootJson "b" [stateJson]) ∧
      ∀ after, parse (rootText "b" stateText) .avro ≠ .ok after := by
  obtain ⟨entries, ran, breaks⟩ := map_eq_ok.mp hasBreaking_linked
  refine ⟨⟨entries, parse_linked_a, parse_linked_b, read_linked_a, read_linked_b,
    replacesNamespace_rootJson "a" "b" [nextJson], ran, List.any_eq_true.mp breaks⟩,
    exists_parse_state_a, read_state_a, read_state_b, ?_, parse_state_b_ne_ok⟩
  exact replacesNamespace_rootJson "a" "b" [stateJson]

end SchemaReview
