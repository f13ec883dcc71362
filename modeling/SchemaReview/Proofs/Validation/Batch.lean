import SchemaReview.Proofs.Lint.Check
import SchemaReview.Validation.Batch

/-!
# Validating and linting batches

A text that is refused with an error of parsing is invalid. Apart from that the validation of a
source stops where its text fails for a property without a name, and in the check of a JSON Schema
against the schema of its dialect, which is taken to return here.
-/
namespace SchemaReview

open Lint

instance : Inhabited ValidationResult := ⟨⟨"", none, none, []⟩⟩

/-- The check against the schema of the dialect returns for the schema in the text of a source. -/
def Source.ReturnsComplaint (s : Source) : Prop :=
  ∀ d schema, s.parse = .ok d → d.format = .jsonSchema → Json.ofText s.text = .ok schema →
    ∃ complaint, checkMetaschema s.text = .ok complaint

/-- The text of a parsed JSON Schema can be decoded. -/
theorem Source.exists_schema {s : Source} {d : Document} (parsed : s.parse = .ok d)
    (format : d.format = .jsonSchema) : ∃ schema, Json.ofText s.text = .ok schema := by
  obtain ⟨resolved, -, read⟩ := bind_eq_ok.mp parsed
  obtain rfl : resolved = .jsonSchema := (format_of_parse read).symm.trans format
  obtain ⟨schema, decoded, -⟩ := bind_eq_ok.mp read
  exact ⟨schema, jsonOfSchemaText_eq_ok.mp (failParse_eq_ok.mp decoded)⟩

theorem succeeds_structuralError {s : Source} {d : Document} (returns : s.ReturnsComplaint)
    (parsed : s.parse = .ok d) : Succeeds (structuralError d s.text) := by
  unfold structuralError
  cases format : d.format with
  | avro => exact .ok _
  | protobuf => exact .ok _
  | jsonSchema =>
    obtain ⟨schema, decoded⟩ := Source.exists_schema parsed format
    exact returns d schema parsed format decoded

/-- The validation of a source stops only for a property without a name. -/
theorem ends_validateSource {s : Source} (returns : s.ReturnsComplaint) :
    EndsFor s.FailsNameless (validateSource s) := by
  unfold validateSource
  obtain ⟨format, ⟨d, read, parsed⟩ | ⟨error, read, parsed⟩ | ⟨e, read, nameless⟩⟩ := s.read_outcome
  · obtain ⟨complaint, checked⟩ := succeeds_structuralError returns parsed
    rw [read]
    dsimp only
    rw [checked]
    exact .ok _ fun e => Source.not_failsNameless parsed nofun
  · rw [read]
    exact .ok _ fun e => Source.not_failsNameless parsed nofun
  · rw [read]
    obtain ⟨-, -, rfl⟩ := id nameless
    exact .fault nameless

theorem identifier_validateSource {s : Source} {r : ValidationResult}
    (h : validateSource s = .ok r) : r.identifier = s.identifier := by
  unfold validateSource at h
  split at h
  · split at h
    · cases h
      rfl
    · cases h
  · obtain ⟨complaint, -, h⟩ := bind_eq_ok.mp h
    cases h
    rfl

/-- The record of an invalid source has no influence on its result. -/
theorem validateLogged_value (s : Source) : (validateLogged s).value = validateSource s := by
  unfold validateLogged
  split
  · rename_i failed
    exact failed.symm
  · rename_i made
    rw [made]
    split <;> rfl

theorem validateSources_value (sources : List Source) :
    (validateSources sources).value = (sources.mapM validateSource).map fun results =>
      ⟨(BatchRecord.finalize (results.map ValidationResult.record)).map BatchRecord.payload⟩ := by
  unfold validateSources
  rw [Logged.value_bind, Logged.value_collect]
  simp only [validateLogged_value]
  cases sources.mapM validateSource with
  | error f => rfl
  | ok results =>
    dsimp only
    split <;> rfl

/-- The validation of a batch stops only for a property without a name in one of its sources. -/
theorem batchEnds_validateSources {sources : List Source}
    (returns : ∀ s ∈ sources, s.ReturnsComplaint) :
    BatchEnds ValidationResult.identifier ValidationReport.results validateSource
      Source.FailsNameless sources (validateSources sources).value := by
  rw [validateSources_value]
  refine batchEnds_of_mapM ValidationResult.record ValidationReport.mk ?_ ?_ ?_ ?_
  · exact fun _ => rfl
  · exact fun _ => ⟨rfl, rfl⟩
  · exact fun _ _ => identifier_validateSource
  · exact fun s hs => ends_validateSource (returns s hs)

/-! ### Batches of both kinds -/

/-- A text that is blank. -/
def voidSource : Source := ⟨"", some .avro, some (.named "void.avsc")⟩

/-- An object type that says nothing else. -/
def objectText : String := "\x7b\"type\":\"object\"\x7d"

def objectSource : Source := ⟨objectText, some .jsonSchema, some (.named "object.json")⟩

def objectDocument : Document := { format := .jsonSchema, root := { kind := .record } }

theorem jsonOf_objectText : Json.ofText objectText = .ok (.obj [("type", .str "object")]) := by
  cbv

theorem parse_objectText : parse objectText .jsonSchema = .ok objectDocument := by
  unfold parse
  rw [jsonOfSchemaText_eq_ok.mpr jsonOf_objectText]
  cbv

theorem checkMetaschema_objectText : checkMetaschema objectText = .ok none := by
  unfold checkMetaschema
  rw [jsonOf_objectText]
  rfl

/-- The default rules, and a description is asked for. -/
def describedRules : RuleSet :=
  RuleSet.defaults.set .descriptionRequired
    { RuleId.descriptionRequired.defaultConfig with enabled := true }

theorem isConfigured_describedRules : IsConfigured describedRules := by
  have accepted : (mergeOverrides .defaults
      (.mapping [(.str "description_required", .bool true)])).value = .ok describedRules := rfl
  exact .merged .defaults accepted

theorem not_stopsAt_objectDocument (rules : RuleSet) (e : Failure) :
    ¬ StopsAt rules objectDocument e := by
  rintro ⟨v, hv, ⟨id, config⟩, hr, -, stops⟩
  obtain ⟨format, -, -⟩ := mem_activeRules.mp hr
  have undocumented : v.node.documentation = .null := by
    simp only [objectDocument, Schema.walk, Schema.walkFrom, Schema.walkFields,
      List.mem_singleton] at hv
    rw [hv]
  cases id with
  | descriptionRequired =>
    have stray : v.node.documentation.isTruthy = true := stops.1
    rw [undocumented] at stray
    cases stray
  | schemaVersionRequired | titleRequired | additionalProperties => exact stops
  | _ => cases format

/-- A record whose documentation is a boolean. -/
def strayDocText : String :=
  "\x7b\"type\":\"record\",\"name\":\"r\",\"namespace\":\"n\",\"doc\":true,\"fields\":[]\x7d"

def strayDocDocument : Document :=
  { format := .avro, root :=
    { kind := .record, name := .str "r", qualifier := some "n", documentation := .bool true } }

theorem parse_strayDocText : parse strayDocText .avro = .ok strayDocDocument := by
  have read : jsonOfSchemaText strayDocText = .ok (.obj [("type", .str "record"),
      ("name", .str "r"), ("namespace", .str "n"), ("doc", .bool true), ("fields", .arr [])]) :=
    jsonOfSchemaText_eq_ok.mpr (Json.ofText_of_spelled rfl (by cbv))
  exact parse_avro_eq_ok.mpr ⟨_, _, read, by cbv, rfl⟩

end SchemaReview
