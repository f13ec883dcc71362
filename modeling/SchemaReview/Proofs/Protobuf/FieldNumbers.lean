import SchemaReview.Proofs.Compatibility.Soundness
import SchemaReview.Proofs.Compatibility.Totality
import SchemaReview.Proofs.Parse.WellFormed
import SchemaReview.Proofs.Protobuf.FieldTypes

/-!
# Field numbers under a comparison without breaking entries

Encoded data names a field by its number, and a comparison matches fields by their names. Where the
backward comparison of two interface definitions has no breaking entry, a number that one field has
on either side belongs to fields of one name, with types that can be read, or it has passed from a
field that is gone to one that is new. In the second case nothing is said of the types.
-/
namespace SchemaReview.Protobuf

open Schema

/-- Whether a number belongs to one field of a message and to no other. -/
def IsSoleUse (message : Schema) (number : Int) (f : Field) : Prop :=
  message.fields.filter (fun g => g.tag == some number) = [f]

/-- Whether a number passes from a field whose name is gone to a field whose name is new. Neither of
them has to be present in data. -/
structure IsReassigned (before after : Schema) (f g : Field) : Prop where
  dropped : after.field? f.name = none
  added : before.field? g.name = none
  defaultBefore : f.hasDefault = true
  defaultAfter : g.hasDefault = true

section

variable {message : Schema} {number : Int} {f g : Field}

theorem IsSoleUse.mem (h : IsSoleUse message number f) :
    f ∈ message.fields ∧ f.tag = some number := by
  have found : f ∈ message.fields.filter fun g => g.tag == some number := by
    rw [h]
    exact List.mem_singleton_self f
  simpa using List.mem_filter.mp found

theorem IsSoleUse.eq_of_mem (h : IsSoleUse message number f) (hg : g ∈ message.fields)
    (tag : g.tag = some number) : g = f := by
  have found : g ∈ message.fields.filter fun g => g.tag == some number :=
    List.mem_filter.mpr ⟨hg, beq_iff_eq.mpr tag⟩
  rw [h] at found
  exact List.mem_singleton.mp found

end

/-- A message that a text declares. -/
structure IsMessage (s : Schema) : Prop where
  kind : s.kind = .message
  typeName : s.typeName = none
  named : ∃ q, s.qualifiedName = .str q ∧ q ≠ ""
  formed : s.IsWellFormed
  lines : ∀ f ∈ s.fields, ∃ level, IsLineField level f

namespace IsMessage

variable {s : Schema}

theorem isNamed (h : IsMessage s) : s.isNamed = true := by
  rw [Schema.isNamed, h.kind]
  rfl

theorem isOwnType (h : IsMessage s) : IsOwnType s where
  notUnion := by simp [h.kind]
  notReference := by simp [h.kind]
  notAny := by simp [h.typeName]

end IsMessage

/-- The messages among the declarations of a text. -/
theorem isMessage_of_parse {text : String} {d : Document} (h : parse text .protobuf = .ok d)
    {f : Field} (hf : f ∈ d.root.fields) (kind : f.type.kind = .message) : IsMessage f.type := by
  have formed := (isWellFormed_of_parse h).field hf
  have read := failParse_eq_ok.mp h
  obtain ⟨⟨package, fields, root⟩, declarations⟩ := isDeclaration_of_ofText read
  have tree := (of_ofText_eq_ok read).2.child
    (mem_children_of_container (by rw [root]; rfl) hf)
  obtain ⟨key, type, raw, rfl, declared⟩ := declarations f hf
  cases declared with
  | message name package lines =>
    cases tree with
    | message nonempty =>
      exact ⟨rfl, rfl, exists_qualifiedName_of_name rfl nonempty, formed,
        fun g hg => ⟨_, lines g hg⟩⟩
  | enum => cases kind

section

variable {path : Path} {entries : List DiffEntry}

/-- Two messages under one key whose types are not reported have one name, so the comparison goes on
with their fields. -/
theorem matchesNamed_of_fieldChanges {old new : Field} (hold : IsMessage old.type)
    (hnew : IsMessage new.type) (h : backwardByName.fieldChanges path old new = .ok entries)
    (safe : hasBreaking entries = false) :
    backwardByName.matchesNamed old.type new.type = true := by
  obtain ⟨p, hp, pne⟩ := hold.named
  obtain ⟨q, hq, qne⟩ := hnew.named
  have same : p = q := by
    obtain reads | ⟨a, b, ha, hb, same⟩ := Comparison.types_of_fieldChanges h safe
    · have alike := canRead_of_isOwnType hnew.isOwnType hold.isOwnType
        (canRead_of_not_breaking reads)
      have name := alike.name hnew.isNamed
      rw [resolutionName_named hnew.isNamed hq qne, resolutionName_named hold.isNamed hp pne,
        equals_str] at name
      exact name.symm
    · rw [show backwardByName.byName = true from rfl] at ha hb
      rw [namedSignature_named hold.isNamed hp pne] at ha
      rw [namedSignature_named hnew.isNamed hq qne] at hb
      cases ha
      cases hb
      exact (equals_str p q).mp same
  simp [Comparison.matchesNamed, backwardByName, hold.kind, hnew.kind, hp, hq, same, equals_str]

/-- Two messages under one key of two files are compared field by field. -/
theorem namedChanges_of_rootChanges {before after : Schema}
    (h : backwardByName.rootChanges before after = .ok entries)
    (safe : hasBreaking entries = false) (hb : before.kind = .file) (ha : after.kind = .file)
    {old new : Field} (hold : old ∈ before.fields) (hnew : after.field? old.name = some new)
    (oldMessage : IsMessage old.type) (newMessage : IsMessage new.type) :
    ∃ path nested, backwardByName.namedChanges path old.type new.type = .ok nested ∧
      hasBreaking nested = false := by
  unfold Comparison.rootChanges at h
  rw [if_neg (by simp [hb, ha]), if_pos (by rw [hb]; rfl)] at h
  obtain ⟨enum, -⟩ | ⟨-, removed, added, changed, -, -, -, -, common, csafe⟩ :=
    Comparison.namedChanges_eq_ok h safe
  · rw [hb] at enum
    cases enum
  obtain ⟨own, nested, ho, osafe, hn, nsafe⟩ :=
    Comparison.commonChanges_eq_ok common csafe hold hnew
  have matched := matchesNamed_of_fieldChanges oldMessage newMessage ho osafe
  rw [Comparison.nestedChanges_eq (unwrapNamed_named oldMessage.isNamed)
    (unwrapNamed_named newMessage.isNamed) matched] at hn
  exact ⟨_, nested, hn, nsafe⟩

/-- Two fields of one name without breaking entries have one number, and types that can be read. -/
theorem tag_eq_and_canRead_of_fieldChanges {old new : Field} {level level' : Option String}
    (hold : IsLineField level old) (hnew : IsLineField level' new)
    (h : backwardByName.fieldChanges path old new = .ok entries)
    (safe : hasBreaking entries = false) :
    old.tag = new.tag ∧ canRead true new.type old.type = true := by
  refine ⟨Comparison.tag_of_fieldChanges h safe rfl, ?_⟩
  obtain reads | ⟨a, b, ha, hb, same⟩ := Comparison.types_of_fieldChanges h safe
  · exact canRead_of_not_breaking reads
  · exact canRead_of_equalSignatures hold hnew ha hb same

/-- A comparison of two messages without breaking entries keeps or reassigns each number that one
field has on either side. -/
theorem keepsNumber_of_namedChanges {before after : Schema} (hb : IsMessage before)
    (ha : IsMessage after) (h : backwardByName.namedChanges path before after = .ok entries)
    (safe : hasBreaking entries = false) {number : Int} {f g : Field}
    (hf : IsSoleUse before number f) (hg : IsSoleUse after number g) :
    (f.name = g.name ∧ canRead true g.type f.type = true) ∨ IsReassigned before after f g := by
  have notFile : before.kind ≠ .file := by simp [hb.kind]
  obtain ⟨enum, -⟩ | ⟨-, removed, added, changed, removals, rsafe, additions, asafe, common,
    csafe⟩ := Comparison.namedChanges_eq_ok h safe
  · rw [hb.kind] at enum
    cases enum
  have shared : ∀ old ∈ before.fields, ∀ new, after.field? old.name = some new →
      old.tag = new.tag ∧ canRead true new.type old.type = true := by
    intro old hold new hnew
    obtain ⟨level, oldLine⟩ := hb.lines old hold
    obtain ⟨level', newLine⟩ := ha.lines new (of_field?_eq_some hnew).1
    obtain ⟨own, nested, ho, osafe, -, -⟩ :=
      Comparison.commonChanges_eq_ok common csafe hold hnew
    exact tag_eq_and_canRead_of_fieldChanges oldLine newLine ho osafe
  obtain ⟨fMem, fTag⟩ := hf.mem
  obtain ⟨gMem, gTag⟩ := hg.mem
  cases lost : after.field? f.name with
  | some new =>
    -- the field of this name has the number, too, and no other field has it
    obtain ⟨newMem, name⟩ := of_field?_eq_some lost
    obtain ⟨tag, reads⟩ := shared f fMem new lost
    obtain rfl := hg.eq_of_mem newMem (tag ▸ fTag)
    exact .inl ⟨name.symm, reads⟩
  | none =>
    cases new : before.field? g.name with
    | some old =>
      obtain ⟨oldMem, name⟩ := of_field?_eq_some new
      have kept : after.field? old.name = some g := by
        rw [name]
        exact ha.formed.field?_of_mem gMem
      obtain rfl := hf.eq_of_mem oldMem ((shared old oldMem g kept).1.trans gTag)
      rw [lost] at kept
      cases kept
    | none =>
      refine .inr ⟨lost, new, ?_, ?_⟩
      · exact Comparison.hasDefault_of_removals removals rsafe rfl notFile fMem lost
      · exact Comparison.hasDefault_of_additions additions asafe rfl notFile gMem new

end

/-- Interface definitions are compared by the names of their types. -/
theorem diff_eq_rootChanges {earlier later : Document} (hearlier : earlier.format = .protobuf)
    (hlater : later.format = .protobuf) : diff (.document earlier) (.document later) .backward =
      backwardByName.rootChanges earlier.root later.root := by
  unfold diff SchemaInput.hasLabels
  dsimp only
  rw [hearlier, hlater]
  rfl

/-- Two accepted texts can be compared. If the backward comparison has no breaking entry, then in
every message under one key of both, a number that one field has on either side belongs to fields of
one name whose types can be read, or it is reassigned. -/
theorem diff_keepsNumbers {earlierText laterText : String} {earlier later : Document}
    (readEarlier : parse earlierText .protobuf = .ok earlier)
    (readLater : parse laterText .protobuf = .ok later) :
    ∃ entries, diff (.document earlier) (.document later) .backward = .ok entries ∧
      (hasBreaking entries = false →
        ∀ d ∈ earlier.root.fields, ∀ e ∈ later.root.fields, d.name = e.name →
          d.type.kind = .message → e.type.kind = .message →
          ∀ number f g, IsSoleUse d.type number f → IsSoleUse e.type number g →
            (f.name = g.name ∧ canRead true g.type f.type = true) ∨
              IsReassigned d.type e.type f g) := by
  have plainNames : ∀ byName, byName = true → Format.protobuf ≠ Format.jsonSchema := by
    rintro _ - ⟨⟩
  have compares : Succeeds (diff (.document earlier) (.document later) .backward) :=
    succeeds_diff .backward (hasTextNames_of_parse readEarlier (plainNames _))
      (hasTextNames_of_parse readLater (plainNames _))
  obtain ⟨entries, compared⟩ := compares
  refine ⟨entries, compared, fun safe d hd e he key dKind eKind number f g hf hg => ?_⟩
  rw [diff_eq_rootChanges (format_of_parse readEarlier) (format_of_parse readLater)] at compared
  obtain ⟨⟨p, fs, earlierFile⟩, -⟩ := isDeclaration_of_ofText (failParse_eq_ok.mp readEarlier)
  obtain ⟨⟨q, gs, laterFile⟩, -⟩ := isDeclaration_of_ofText (failParse_eq_ok.mp readLater)
  have found : later.root.field? d.name = some e := by
    rw [key]
    exact (isWellFormed_of_parse readLater).field?_of_mem he
  have dMessage := isMessage_of_parse readEarlier hd dKind
  have eMessage := isMessage_of_parse readLater he eKind
  obtain ⟨path, nested, changes, nsafe⟩ := namedChanges_of_rootChanges compared safe
    (by rw [earlierFile]) (by rw [laterFile]) hd found dMessage eMessage
  exact keepsNumber_of_namedChanges dMessage eMessage changes nsafe hf hg

/-! ### A number that is kept and one that is reassigned -/

/-- A message in which 1 is the number of a name and 2 that of an age. -/
def userText : String :=
  "syntax = \"proto3\"; message User \x7b string name = 1; int32 age = 2; \x7d"

/-- A message of the same name in which 2 is the number of a city. -/
def laterUserText : String :=
  "syntax = \"proto3\"; message User \x7b bytes name = 1; string city = 2; \x7d"

def userMessage (fields : List Field) : Schema :=
  { kind := .message, name := .str "User", fields := fields }

/-- A document with one message. -/
def userDocument (fields : List Field) : Document := {
  format := .protobuf
  root := { kind := .file, fields := [
    { name := "User", type := userMessage fields, raw := some "message User" }] }
  syntaxLevel := some "proto3"
  warnings := [{ ruleId := "parse", severity := .warning, message := missingPackageMessage }] }

/-- A field of a scalar type that may be absent from data. -/
def scalarField (word name : String) (number : Int) (line : String) : Field :=
  { name := name, type := { kind := .primitive, typeName := some word }, hasDefault := true,
    tag := some number, raw := some line }

def userFields : List Field :=
  [scalarField "string" "name" 1 "string name = 1", scalarField "int32" "age" 2 "int32 age = 2"]

def laterUserFields : List Field :=
  [scalarField "bytes" "name" 1 "bytes name = 1",
    scalarField "string" "city" 2 "string city = 2"]

/-- The statements of a message with two lines. -/
def userLines (first second : String) (offset : Nat) : List Item :=
  [.statement first.toList 33, .statement second.toList offset]

def userItems (first second : String) (offset : Nat) : List Item :=
  [.statement "syntax = \"proto3\"".toList 0,
    .block "message User".toList 32 (userLines first second offset)]

theorem ofText_userItems {text first second : String} {offset : Nat} {fields : List Field}
    (written : Text.isBlankText text = false) (plain : stripComments text.toList = text.toList)
    (scanned : scan text.toList = .ok (userItems first second offset))
    (made : messageOf "User" none (some "proto3") (userLines first second offset) =
      .ok (userMessage fields)) : ofText text = .ok (userDocument fields) := by
  have level : topLevelValue? syntaxValue? (userItems first second offset) = some "proto3" := rfl
  have package : topLevelValue? packageName? (userItems first second offset) = none := rfl
  have header : blockHeader? "message User".toList = some ("message", "User".toList) := rfl
  have declared : declarationsOf (some "proto3") (userItems first second offset) none none [] =
      .ok (userDocument fields).root.fields := by
    unfold userItems
    rw [declarationsOf, declarationsOf, header]
    dsimp only
    rw [if_pos rfl, String.ofList_toList, made]
    dsimp only [bind, Except.bind]
    simp only [userLines, declarationsOf]
    rfl
  rw [← level, ← package] at declared
  exact ofText_eq_ok.mpr ⟨written, _, _, by rw [plain, scanned], declared, rfl⟩

theorem parse_userText : parse userText .protobuf = .ok (userDocument userFields) := by
  have scanned : scan userText.toList =
      .ok (userItems "string name = 1" "int32 age = 2" 50) := rfl
  exact failParse_eq_ok.mpr
    (ofText_userItems (by decide +kernel) (by decide +kernel) scanned rfl)

theorem parse_laterUserText :
    parse laterUserText .protobuf = .ok (userDocument laterUserFields) := by
  have scanned : scan laterUserText.toList =
      .ok (userItems "bytes name = 1" "string city = 2" 49) := rfl
  exact failParse_eq_ok.mpr
    (ofText_userItems (by decide +kernel) (by decide +kernel) scanned rfl)

theorem hasBreaking_diff_user :
    hasBreaking <$> diff (.document (userDocument userFields))
      (.document (userDocument laterUserFields)) .backward = .ok false := by cbv

/-- The name keeps its number, and the age gives its number to the city. -/
theorem diff_keepsNumbers_user :
    parse userText .protobuf = .ok (userDocument userFields) ∧
      parse laterUserText .protobuf = .ok (userDocument laterUserFields) ∧
      ∃ entries, diff (.document (userDocument userFields))
          (.document (userDocument laterUserFields)) .backward = .ok entries ∧
        hasBreaking entries = false ∧
        ∀ number f g, IsSoleUse (userMessage userFields) number f →
          IsSoleUse (userMessage laterUserFields) number g →
          (f.name = g.name ∧ canRead true g.type f.type = true) ∨
            IsReassigned (userMessage userFields) (userMessage laterUserFields) f g := by
  obtain ⟨entries, compared, kept⟩ := diff_keepsNumbers parse_userText parse_laterUserText
  have safe := hasBreaking_diff_user
  rw [compared] at safe
  obtain safe : hasBreaking entries = false := Except.ok.inj safe
  refine ⟨parse_userText, parse_laterUserText, entries, compared, safe, ?_⟩
  exact kept safe _ (List.mem_singleton_self _) _ (List.mem_singleton_self _) rfl rfl rfl

/-- The number that passes from the age to the city does not keep its type, and that is no breaking
entry. -/
theorem reassignedNumber_unread :
    ∃ earlier later entries, parse userText .protobuf = .ok earlier ∧
      parse laterUserText .protobuf = .ok later ∧
      diff (.document earlier) (.document later) .backward = .ok entries ∧
      hasBreaking entries = false ∧
      ∃ d ∈ earlier.root.fields, ∃ e ∈ later.root.fields, d.name = e.name ∧
        d.type.kind = .message ∧ e.type.kind = .message ∧
        ∃ f g, IsSoleUse d.type 2 f ∧ IsSoleUse e.type 2 g ∧
          canRead true g.type f.type = false := by
  obtain ⟨entries, compared, safe⟩ := map_eq_ok.mp hasBreaking_diff_user
  refine ⟨_, _, entries, parse_userText, parse_laterUserText, compared, safe, ?_⟩
  refine ⟨_, List.mem_singleton_self _, _, List.mem_singleton_self _, rfl, rfl, rfl, ?_⟩
  exact ⟨_, _, rfl, rfl, by cbv⟩

end SchemaReview.Protobuf
