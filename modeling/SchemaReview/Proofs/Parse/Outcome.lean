import SchemaReview.Parse
import SchemaReview.Proofs.Avro.Tree
import SchemaReview.Proofs.Json.CanonicalText
import SchemaReview.Proofs.JsonSchema.Nameless
import SchemaReview.Proofs.Protobuf.Tree
import SchemaReview.Proofs.Schema.Shape
import SchemaReview.Source.Basic

/-!
# How the parsing of a text ends

A text becomes a document or is refused with an error of parsing. One kind of text does neither: a
JSON Schema in which a property without a name is read fails with the failure of the field that the
property cannot become.
-/
namespace SchemaReview

/-! ### What a document is read from

A document says which language its text is in, and the text of an Avro schema is read in two steps:
as a JSON value, and as the schema of that value. The names of the types that are read are texts,
unless they are the titles of a JSON Schema. -/

theorem Json.isBlank_of_isLead {c : Char} (h : isLead c = true) : Text.isBlank c = false := by
  simp only [isLead, leads, Bool.or_eq_true, List.contains_iff_mem] at h
  obtain listed | digit := h
  · have visible : leads.all (fun d => !Text.isBlank d) = true := rfl
    exact Bool.not_eq_true' _ ▸ List.all_eq_true.mp visible c listed
  · simp only [Char.isDigit, Bool.and_eq_true, decide_eq_true_eq, UInt32.le_iff_toNat_le] at digit
    change 48 ≤ c.toNat ∧ c.toNat ≤ 57 at digit
    simp [Text.isBlank]
    omega

/-- A text with nothing but blanks spells no value. -/
theorem Json.isBlankText_of_ofText {text : String} {v : Json} (h : Json.ofText text = .ok v) :
    Text.isBlankText text = false := by
  unfold Json.ofText Json.ofChars at h
  dsimp only at h
  split at h
  · cases h
  · cases scanned : scanValue (text.toList.length + 1) (skipSpace text.toList) with
    | error e =>
      rw [scanned] at h
      cases h
    | ok read =>
      cases start : skipSpace text.toList with
      | nil =>
        rw [start] at scanned
        cases scanned
      | cons c rest =>
        rw [start] at scanned
        have here : c ∈ text.toList := by
          refine (List.dropWhile_suffix isSpace).subset ?_
          rw [← skipSpace, start]
          exact List.mem_cons_self
        refine List.all_eq_false.mpr ⟨c, here, ?_⟩
        simp [isBlank_of_isLead (isLead_of_scanValue scanned)]

theorem spelled_append {s t : String} {cs ds : List Char} (hs : s = String.ofList cs)
    (ht : t = String.ofList ds) : s ++ t = String.ofList (cs ++ ds) := by
  rw [hs, ht, String.ofList_append]

/-- A text is read by its characters. -/
theorem Json.ofText_of_spelled {text : String} {chars : List Char} {v : Json}
    (spelled : text = String.ofList chars) (read : ofChars chars = .ok v) :
    ofText text = .ok v := by
  rw [ofText, spelled, String.toList_ofList]
  exact read

theorem jsonOfSchemaText_eq_ok {text : String} {v : Json} :
    jsonOfSchemaText text = .ok v ↔ Json.ofText text = .ok v := by
  unfold jsonOfSchemaText
  cases blank : Text.isBlankText text with
  | true =>
    refine iff_of_false (by simp) fun read => ?_
    rw [Json.isBlankText_of_ofText read] at blank
    cases blank
  | false => cases Json.ofText text <;> simp

theorem failParse_eq_ok {α : Type} {x : Except ParseError α} {a : α} :
    failParse x = .ok a ↔ x = .ok a := by
  cases x <;> simp [failParse]

theorem parse_avro_eq_ok {text : String} {d : Document} :
    parse text .avro = .ok d ↔ ∃ v root, jsonOfSchemaText text = .ok v ∧
      Avro.ofJson v = .ok root ∧ d = { format := .avro, root := root } := by
  unfold parse
  rw [failParse_eq_ok, bind_eq_ok]
  constructor
  · rintro ⟨v, read, h⟩
    obtain ⟨root, built, h⟩ := bind_eq_ok.mp h
    exact ⟨v, root, read, built, (pure_eq_ok.mp h).symm⟩
  · rintro ⟨v, root, read, built, rfl⟩
    exact ⟨v, read, bind_eq_ok.mpr ⟨root, built, rfl⟩⟩

/-- A schema text is read as the document of the value that it spells. -/
theorem parse_jsonSchema {text : String} {v : Json} (h : jsonOfSchemaText text = .ok v) :
    parse text .jsonSchema = JsonSchema.ofJson v := by
  unfold parse
  simp only [h, failParse]
  rfl

theorem parse_jsonSchema_eq_ok {text : String} {d : Document} :
    parse text .jsonSchema = .ok d ↔
      ∃ v, jsonOfSchemaText text = .ok v ∧ JsonSchema.ofJson v = .ok d := by
  constructor
  · intro h
    obtain ⟨v, read, built⟩ := bind_eq_ok.mp h
    exact ⟨v, failParse_eq_ok.mp read, built⟩
  · rintro ⟨v, read, built⟩
    exact (parse_jsonSchema read).trans built

/-- A document is in the language that its text was read in. -/
theorem format_of_parse {text : String} {format : Format} {d : Document}
    (h : parse text format = .ok d) : d.format = format := by
  cases format with
  | avro =>
    obtain ⟨v, root, -, -, rfl⟩ := parse_avro_eq_ok.mp h
    rfl
  | protobuf => exact (Protobuf.of_ofText_eq_ok (failParse_eq_ok.mp h)).1
  | jsonSchema =>
    obtain ⟨v, -, h⟩ := parse_jsonSchema_eq_ok.mp h
    cases v with
    | obj members =>
      obtain ⟨uri, -, h⟩ := bind_eq_ok.mp h
      obtain ⟨root, -, h⟩ := bind_eq_ok.mp h
      cases h
      rfl
    | _ => cases h

theorem Avro.IsTree.isTextOrNull_name {s : Schema} (h : Avro.IsTree s) :
    s.name.isTextOrNull = true := by
  cases h <;> rfl

theorem Protobuf.IsTree.isTextOrNull_name {s : Schema} (h : Protobuf.IsTree s) :
    s.name.isTextOrNull = true := by
  cases h <;> rfl

/-- The names of a parsed tree are texts or absent, except for titles, which are labels. -/
theorem hasTextNames_of_parse {text : String} {format : Format} {d : Document} {byName : Bool}
    (h : parse text format = .ok d) (unlabelled : byName = true → format ≠ .jsonSchema) :
    d.root.HasTextNames byName := by
  intro counts t ht
  cases format with
  | avro =>
    obtain ⟨v, root, -, built, rfl⟩ := parse_avro_eq_ok.mp h
    exact ((Avro.isTree_of_ofJson built).node ht).isTextOrNull_name
  | protobuf =>
    have tree := (Protobuf.of_ofText_eq_ok (failParse_eq_ok.mp h)).2
    exact (tree.node ht).isTextOrNull_name
  | jsonSchema => exact absurd rfl (unlabelled counts)

/-! ### Refused texts -/

theorem isParseError_of_failParse {α : Type} {x : Except ParseError α} {e : Failure}
    (h : failParse x = .error e) : JsonSchema.IsParseError e := by
  cases x with
  | ok a => cases h
  | error error =>
    cases h
    exact ⟨error, rfl⟩

/-- A text of a JSON Schema in which a property without a name is read. -/
def ReadsNameless (text : String) (format : Format) : Prop :=
  format = .jsonSchema ∧ ∃ v, Json.ofText text = .ok v ∧ JsonSchema.HasNamelessProperty v

/-- A run that fails with errors of parsing only has no other cause of failing. -/
theorem ends_failParse {α : Type} {cause : Failure → Prop} (x : Except ParseError α)
    (clear : ∀ e, ¬ cause e) : Ends JsonSchema.IsParseError cause (failParse x) := by
  cases x with
  | ok a => exact .ok a clear
  | error error => exact .refuse ⟨error, rfl⟩

/-- A text is parsed or refused, unless a property without a name is read. -/
theorem ends_parse (text : String) (format : Format) :
    Ends JsonSchema.IsParseError (fun e => ReadsNameless text format ∧ e = JsonSchema.emptyName)
      (parse text format) := by
  cases format with
  | avro => exact ends_failParse _ fun e h => nomatch h.1.1
  | protobuf => exact ends_failParse _ fun e h => nomatch h.1.1
  | jsonSchema =>
    refine .after (fun e => isParseError_of_failParse) fun v read => ?_
    have decoded := jsonOfSchemaText_eq_ok.mp (failParse_eq_ok.mp read)
    refine (JsonSchema.ends_ofJson v).congr fun e => and_congr_left fun _ => ?_
    constructor
    · exact fun found => ⟨rfl, v, decoded, found⟩
    · rintro ⟨-, w, again, found⟩
      rw [decoded] at again
      cases again
      exact found

/-! ### Sources -/

namespace Source

/-- A source of a JSON Schema in which a property without a name is read. -/
def ReadsNameless (s : Source) : Prop :=
  ∃ format, s.resolveFormat = .ok format ∧ SchemaReview.ReadsNameless s.text format

/-- A source is parsed or refused, unless a property without a name is read. -/
theorem ends_parse (s : Source) :
    Ends JsonSchema.IsParseError (fun e => s.ReadsNameless ∧ e = JsonSchema.emptyName) s.parse := by
  refine .after (fun e failed => ?_) fun format resolved => ?_
  · unfold resolveFormat at failed
    split at failed
    · cases failed
    · exact isParseError_of_failParse failed
  · refine (SchemaReview.ends_parse s.text format).congr fun e => and_congr_left fun _ => ?_
    simp [ReadsNameless, resolved]

/-- The document of a source is the one that its text is read as. -/
theorem exists_read (s : Source) : ∃ format, s.read = (format, s.parse) := by
  unfold read Source.parse
  cases s.resolveFormat with
  | error f => exact ⟨_, rfl⟩
  | ok format => exact ⟨_, rfl⟩

/-- A source fails for a property without a name, and not with an error of parsing. -/
def FailsNameless (s : Source) (e : Failure) : Prop :=
  s.ReadsNameless ∧ s.parse = .error e ∧ e = JsonSchema.emptyName

theorem FailsNameless.parse {s : Source} {e : Failure} (h : s.FailsNameless e) :
    s.parse = .error JsonSchema.emptyName := by
  obtain ⟨-, failed, rfl⟩ := h
  exact failed

theorem not_failsNameless {s : Source} {outcome : Except Failure Document} {e : Failure}
    (h : s.parse = outcome) (other : outcome ≠ .error JsonSchema.emptyName) :
    ¬ s.FailsNameless e :=
  fun nameless => other (h.symm.trans nameless.parse)

/-- The failure for a property without a name has no other cause. -/
theorem failsNameless_of_parse {s : Source} (h : s.parse = .error JsonSchema.emptyName) :
    s.FailsNameless JsonSchema.emptyName := by
  obtain ⟨⟨d, made⟩, -⟩ | ⟨e, failed, ⟨error, rfl⟩ | ⟨nameless, -⟩⟩ := s.ends_parse
  · rw [h] at made
    cases made
  · rw [h] at failed
    cases failed
  · exact ⟨nameless, h, rfl⟩

/-- What a source is read as: a document, an error of parsing, or the failure for a property
without a name. -/
theorem read_outcome (s : Source) :
    ∃ format, (∃ d, s.read = (format, .ok d) ∧ s.parse = .ok d) ∨
      (∃ error, s.read = (format, .error (.parse error)) ∧ s.parse = .error (.parse error)) ∨
      ∃ e, s.read = (format, .error e) ∧ s.FailsNameless e := by
  obtain ⟨format, read⟩ := s.exists_read
  refine ⟨format, ?_⟩
  obtain ⟨⟨d, made⟩, -⟩ | ⟨e, failed, ⟨error, rfl⟩ | ⟨nameless, rfl⟩⟩ := s.ends_parse
  · exact .inl ⟨d, by rw [read, made], made⟩
  · exact .inr (.inl ⟨error, by rw [read, failed], failed⟩)
  · exact .inr (.inr ⟨_, by rw [read, failed], nameless, failed, rfl⟩)

end Source

/-! ### Texts -/

/-- Parsing yields a document, or fails with an error of parsing, or fails for a field without a
name. The last happens for texts of JSON Schemas only, and only where a property without a name is
read; no document is made of such a text. -/
theorem parse_outcome (text : String) (format : Format) :
    (∃ d, parse text format = .ok d ∧ ¬ ReadsNameless text format) ∨
      (∃ error, parse text format = .error (.parse error)) ∨
      (ReadsNameless text format ∧
        parse text format = .error (.value (.model .emptyFieldName))) := by
  obtain ⟨⟨d, made⟩, clear⟩ | ⟨e, failed, ⟨error, rfl⟩ | ⟨found, rfl⟩⟩ := ends_parse text format
  · exact .inl ⟨d, made, fun found => clear _ ⟨found, rfl⟩⟩
  · exact .inr (.inl ⟨error, failed⟩)
  · exact .inr (.inr ⟨found, failed⟩)

/-- An object type whose only property is called by the empty text. -/
def namelessText : String := "\x7b\"type\":\"object\",\"properties\":\x7b\"\":\x7b\x7d\x7d\x7d"

theorem parse_namelessText :
    parse namelessText .jsonSchema = .error (.value (.model .emptyFieldName)) := by
  have decoded : jsonOfSchemaText namelessText =
      .ok (.obj [("type", .str "object"), ("properties", .obj [("", .obj [])])]) :=
    jsonOfSchemaText_eq_ok.mpr (Json.ofText_of_spelled rfl (by cbv))
  unfold parse
  rw [decoded]
  cbv

/-- An object with a property without a name is no document, and it is not refused with an error of
parsing either. -/
theorem namelessText_failsOtherwise :
    ¬ ((∃ d, parse namelessText .jsonSchema = .ok d) ∨
      ∃ error, parse namelessText .jsonSchema = .error (.parse error)) := by
  rw [parse_namelessText]
  rintro (⟨d, made⟩ | ⟨error, failed⟩)
  · cases made
  · cases failed

end SchemaReview
