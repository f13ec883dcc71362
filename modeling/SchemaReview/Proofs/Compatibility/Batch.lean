import SchemaReview.Compatibility.Batch
import SchemaReview.Proofs.Batch
import SchemaReview.Proofs.Compatibility.Check
import SchemaReview.Proofs.Compatibility.Totality
import SchemaReview.Proofs.Datum
import SchemaReview.Proofs.Parse.Outcome

/-!
# Batches of candidates

A batch of candidates that are checked against parsed schemas always comes to a report. Parsed
schemas can be compared, because their names are texts wherever names count; a source that is not
parsed, or for which there is no subject, fails in a way that becomes its result. So every source
has its own result, whatever else is in the batch.
-/
namespace SchemaReview

/-! ### Comparing parsed documents -/

/-- A schema is the document of some text. -/
def SchemaInput.IsParsed (schema : SchemaInput) : Prop :=
  ∃ text format d, schema = .document d ∧ parse text format = .ok d

theorem succeeds_diff_of_isParsed {before after : SchemaInput} (hb : before.IsParsed)
    (ha : after.IsParsed) (mode : Mode) : Succeeds (diff before after mode) := by
  obtain ⟨oldText, oldFormat, old, rfl, oldRead⟩ := hb
  obtain ⟨newText, newFormat, new, rfl, newRead⟩ := ha
  have oldIs := format_of_parse oldRead
  have newIs := format_of_parse newRead
  refine succeeds_diff mode (hasTextNames_of_parse oldRead fun byName => ?_)
    (hasTextNames_of_parse newRead fun byName => ?_)
  · rintro rfl
    simp [SchemaInput.hasLabels, oldIs] at byName
  · rintro rfl
    simp [SchemaInput.hasLabels, newIs] at byName

/-! ### One source -/

/-- The registered versions of all subjects are parsed schemas. -/
def HoldsParsed (registered : Registrations) : Prop :=
  ∀ subject ∈ registered, ∀ v ∈ subject.2, v.schema.IsParsed

variable {registered : Registrations} {mode : Mode}

/-- A check against parsed schemas comes to a result. -/
theorem succeeds_checkCompatible {candidate : SchemaInput} {prior : List PriorVersion}
    (hc : candidate.IsParsed) (hp : ∀ v ∈ prior, v.schema.IsParsed) (mode : Mode)
    (identifier : String) : Succeeds (checkCompatible candidate prior mode identifier).value := by
  cases prior with
  | nil => exact .ok _
  | cons first rest =>
    rw [checkCompatible_value (List.cons_ne_nil first rest)]
    obtain ⟨v, hv, fault, failed, -⟩ | ⟨differences, result, -, made, -⟩ :=
      compareAll_outcome candidate mode identifier (checkedAgainst mode (first :: rest))
    · have checks := isChecked_checkedAgainst mode (List.cons_ne_nil first rest)
      obtain ⟨given, hg, schema⟩ := exists_of_mem_numberedVersions (checks.subset hv)
      obtain ⟨entries, compared⟩ := succeeds_diff_of_isParsed (schema ▸ hp given hg) hc mode
      rw [compared] at failed
      cases failed
    · exact ⟨result, made⟩

theorem isParsed_of_lookup (h : HoldsParsed registered) (subject : String) :
    ∀ v ∈ (registered.lookup subject).getD [], v.schema.IsParsed := by
  cases found : registered.lookup subject with
  | none => simp
  | some versions => exact h (subject, versions) (mem_of_lookup found)

/-- A source is refused for a failure: its text is not parsed, or there is no subject for it. -/
def Source.IsRefused (s : Source) (f : Failure) : Prop :=
  s.parse = .error f ∨ ∃ d, s.parse = .ok d ∧ s.subject d = .error f

/-- A failure becomes the result of the source that it occurs at. -/
def Failure.isReported (f : Failure) : Bool := f.isSchemaFailure || f.isValueFailure

theorem Source.isParsed {s : Source} {d : Document} (h : s.parse = .ok d) :
    (SchemaInput.document d).IsParsed := by
  obtain ⟨format, -, read⟩ := bind_eq_ok.mp h
  exact ⟨s.text, format, d, rfl, read⟩

theorem Source.isReported_of_parse {s : Source} {f : Failure} (h : s.parse = .error f) :
    f.isReported = true := by
  obtain ⟨⟨d, made⟩, -⟩ | ⟨e, failed, ⟨error, rfl⟩ | ⟨-, rfl⟩⟩ := s.ends_parse
  · rw [made] at h
    cases h
  · rw [failed] at h
    cases h
    rfl
  · rw [failed] at h
    cases h
    rfl

/-- The name of a parsed schema is a text or absent. -/
theorem isTextOrNull_schemaName {d : Document} (h : (SchemaInput.document d).IsParsed) :
    (schemaName (some d)).isTextOrNull = true := by
  obtain ⟨text, format, other, same, read⟩ := h
  cases same
  unfold schemaName
  dsimp only
  split
  · rename_i avro
    have unlabelled : true = true → format ≠ .jsonSchema := by
      rintro - rfl
      rw [format_of_parse read] at avro
      cases avro
    exact Schema.isTextOrNull_qualifiedName ((hasTextNames_of_parse read unlabelled).name rfl)
  · rfl

theorem Source.isReported_of_subject {s : Source} {d : Document} {f : Failure}
    (parsed : s.parse = .ok d) (h : s.subject d = .error f) : f.isReported = true := by
  have text := isTextOrNull_schemaName (Source.isParsed parsed)
  have base : ∃ word, (if (schemaName (some d)).isTruthy then schemaName (some d)
      else .str ((s.path.map PosixPath.stem).getD "")) = .str word := by
    split
    · rename_i named
      exact Schema.exists_text_of_isTruthy text named
    · exact ⟨_, rfl⟩
  obtain ⟨word, base⟩ := base
  unfold Source.subject at h
  split at h
  · cases h
  · unfold deriveSubject at h
    dsimp only at h
    rw [base] at h
    split at h
    · cases h
      rfl
    · cases h
    · rename_i notText
      exact (notText word rfl).elim

/-- What comes of a source: a result, or a failure that is reported, which it is refused for. -/
theorem checkParsed_outcome (h : HoldsParsed registered) (s : Source) (mode : Mode) :
    (∃ f, s.IsRefused f ∧ f.isReported = true ∧
      (checkParsed s registered mode).value = .error f) ∨
    ∃ r, (∀ f, ¬ s.IsRefused f) ∧ (checkParsed s registered mode).value = .ok r := by
  unfold checkParsed
  cases parsed : s.parse with
  | error f => exact .inl ⟨f, .inl parsed, Source.isReported_of_parse parsed, rfl⟩
  | ok d =>
    dsimp only
    cases named : s.subject d with
    | error f =>
      exact .inl ⟨f, .inr ⟨d, parsed, named⟩, Source.isReported_of_subject parsed named, rfl⟩
    | ok subject =>
      obtain ⟨r, made⟩ := succeeds_checkCompatible (Source.isParsed parsed)
        (isParsed_of_lookup h subject) mode subject
      refine .inr ⟨r, ?_, made⟩
      rintro f (failed | ⟨other, read, failed⟩)
      · rw [parsed] at failed
        cases failed
      · rw [parsed] at read
        cases read
        rw [named] at failed
        cases failed

theorem Source.IsRefused.unique {s : Source} {f g : Failure} (hf : s.IsRefused f)
    (hg : s.IsRefused g) : f = g := by
  obtain hf | ⟨d, parsed, hf⟩ := hf
  · obtain hg | ⟨e, read, -⟩ := hg
    · exact Except.error.inj (hf.symm.trans hg)
    · rw [hf] at read
      cases read
  · obtain hg | ⟨e, read, hg⟩ := hg
    · rw [parsed] at hg
      cases hg
    · rw [parsed] at read
      cases read
      exact Except.error.inj (hf.symm.trans hg)

/-- A result says why a source was refused. -/
structure ReportsRefusal (f : Failure) (r : CheckResult) : Prop where
  verdict : r.verdict = .incompatible
  error : r.error = some f.message
  entries : r.entries = []

/-- Every source has a result, which says why the source was refused if it was. -/
theorem checkSource_outcome (h : HoldsParsed registered) (s : Source) (mode : Mode) :
    ∃ r, (checkSource s registered mode).value = .ok r ∧
      ∀ f, s.IsRefused f → ReportsRefusal f r := by
  unfold checkSource
  rw [Logged.value_bind]
  obtain ⟨f, refused, reported, failed⟩ | ⟨r, accepted, made⟩ := checkParsed_outcome h s mode
  · have caught : (f.isSchemaFailure || f.isValueFailure) = true := reported
    rw [failed]
    dsimp only
    rw [if_pos caught]
    refine ⟨_, rfl, fun g again => ?_⟩
    obtain rfl := refused.unique again
    exact ⟨rfl, rfl, rfl⟩
  · rw [made]
    exact ⟨_, rfl, fun f refused => absurd refused (accepted f)⟩

/-! ### The batch -/

/-- The results of the sources make up the report, in the order of their identifiers. -/
theorem checkAll_outcome (sources : List Source) {own : Source → CheckResult}
    (made : ∀ s ∈ sources, (checkSource s registered mode).value = .ok (own s)) :
    ∃ report, (checkAll sources registered mode).value = .ok report ∧
      IsSortedBy CheckResult.identifier (sources.map own) report.results := by
  unfold checkAll
  rw [Logged.value_bind, Logged.value_collect, mapM_eq_ok_map made]
  exact ⟨_, rfl, isSortedBy_payloads CheckResult.record (fun _ => rfl) (fun _ => rfl) _⟩

/-- A batch of sources that is checked against parsed schemas comes to a report with one result for
each source, ascending by identifier and in the order of the sources where identifiers are equal.
The result of a source is the one that it has in a batch of its own, and a source that is not parsed
or for which there is no subject is incompatible, with the failure as its text and without
entries. -/
theorem checkSources_itemwise {requested registryConfig : Json} (sources : List Source)
    (asked : resolveMode requested registryConfig = .ok mode) (parsed : HoldsParsed registered) :
    ∃ (own : Source → CheckResult) (report : CompatibilityReport),
      (checkSources sources registered requested registryConfig).value = .ok report ∧
      IsSortedBy CheckResult.identifier (sources.map own) report.results ∧
      ∀ s ∈ sources,
        (checkSources [s] registered requested registryConfig).value = .ok ⟨[own s]⟩ ∧
        ∀ f, s.IsRefused f → ReportsRefusal f (own s) := by
  choose own made refusals using fun s => checkSource_outcome parsed s mode
  obtain ⟨report, ran, sorted⟩ := checkAll_outcome sources fun s _ => made s
  unfold checkSources
  rw [asked]
  refine ⟨own, report, ran, sorted, fun s _ => ⟨?_, refusals s⟩⟩
  obtain ⟨alone, ranAlone, same⟩ := checkAll_outcome [s] fun s _ => made s
  obtain ⟨results⟩ := alone
  have only : results = [own s] := List.perm_singleton.mp same.perm
  dsimp only
  rw [ranAlone, only]

/-- The document of a text that is nothing but the name of a type. -/
def intDocument : Document :=
  { format := .avro, root := { kind := .primitive, typeName := some "int" } }

theorem parse_int : parse "\"int\"" .avro = .ok intDocument := by
  have read : jsonOfSchemaText "\"int\"" = .ok (.str "int") :=
    jsonOfSchemaText_eq_ok.mpr (Json.ofText_of_spelled rfl (by cbv))
  exact parse_avro_eq_ok.mpr ⟨_, _, read, by cbv, rfl⟩

/-- One version is registered for the subject of orders. -/
def orderRegistrations : Registrations := [("orders-value", [.bare (.document intDocument)])]

/-- A text that is blank, one without a subject, and an order. -/
def orderSources : List Source :=
  [⟨"", some .avro, some (.named "void.avsc")⟩, ⟨"\"int\"", some .avro, none⟩,
    ⟨"\"int\"", none, some (.named "orders.avsc")⟩]

/-- A text that is blank does not keep the other two sources from being checked. -/
theorem checkSources_itemwise_orders :
    resolveMode .null .null = .ok .backward ∧ HoldsParsed orderRegistrations ∧
      ∃ report, (checkSources orderSources orderRegistrations .null .null).value =
          .ok report ∧
        report.results.length = 3 ∧
        ∃ r ∈ report.results, r.verdict = .incompatible ∧ r.error = some "Schema text is empty" ∧
          r.entries = [] := by
  have asked : resolveMode .null .null = .ok .backward := rfl
  have parsed : HoldsParsed orderRegistrations := by
    intro subject hs v hv
    obtain rfl := List.mem_singleton.mp hs
    obtain rfl := List.mem_singleton.mp hv
    exact ⟨_, .avro, intDocument, rfl, parse_int⟩
  obtain ⟨own, report, ran, sorted, each⟩ := checkSources_itemwise orderSources asked parsed
  refine ⟨asked, parsed, report, ran, sorted.perm.length_eq, ?_⟩
  have blank : Source.IsRefused ⟨"", some .avro, some (.named "void.avsc")⟩
      (.parse { fault := .emptyText }) := .inl rfl
  obtain ⟨-, refusals⟩ := each _ List.mem_cons_self
  obtain ⟨verdict, error, entries⟩ := refusals _ blank
  refine ⟨_, sorted.perm.mem_iff.mpr (List.mem_map_of_mem List.mem_cons_self), verdict, ?_, entries⟩
  rw [error]
  rfl

end SchemaReview
