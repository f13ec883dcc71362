import SchemaReview.Proofs.Compatibility.Signature
import SchemaReview.Proofs.Protobuf.Tree

/-!
# Equal signatures of fields in interface definitions

The type of a field is a scalar, a reference, a map with such values, or a list of one of these. A
reference is a path, so none of its characters ends a word of a signature, and it is not called as a
scalar is. So the text of a signature can be taken apart again, and types with one signature can be
read for each other.
-/
namespace SchemaReview.Protobuf

open Schema

/-- The types of fields and what their signatures describe. -/
inductive Describes : Signature → Schema → Prop
  | scalar {word} (known : word ∈ scalarTypes) :
      Describes (.word word) { kind := .primitive, typeName := some word }
  | reference {name word} (new : name ∉ scalarTypes) (path : IsWord name)
      (shown : presentOr (some name) "unknown" = word) :
      Describes (.word word) { kind := .reference, typeName := some name }
  | array {g items} (inner : Describes g items) :
      Describes (.array g) { kind := .array, items := some items }
  | map {g values} (inner : Describes g values) :
      Describes (.map g) { kind := .map, values := some values }

theorem known_scalar {word : String} (h : word ∈ scalarTypes) :
    IsWord word ∧ word ≠ "fixed" ∧ word ≠ "unknown" ∧ word ≠ "" := by
  revert word
  decide

/-- A reference without a name is shown by a word that is no scalar's. -/
theorem presentOr_cases (name : String) :
    presentOr (some name) "unknown" = name ∨ presentOr (some name) "unknown" = "unknown" := by
  by_cases h : name = ""
  · exact .inr (if_pos h)
  · exact .inl (if_neg h)

theorem presentOr_notMem_scalarTypes {name : String} (h : name ∉ scalarTypes) :
    presentOr (some name) "unknown" ∉ scalarTypes := by
  obtain same | unknown := presentOr_cases name
  · rwa [same]
  · rw [unknown]
    decide

namespace Describes

variable {g : Signature} {s r w : Schema}

theorem isWellFormed (h : Describes g s) : g.IsWellFormed := by
  induction h with
  | scalar known => exact (known_scalar known).1
  | @reference name word new path shown =>
    obtain same | unknown := presentOr_cases name
    · rw [← shown, same]
      exact path
    · rw [← shown, unknown]
      exact (by decide : IsWord "unknown")
  | array inner ih | map inner ih => exact ih

/-- The signature of a field's type is the text of what describes it. -/
theorem typeSignature (h : Describes g s) :
    s.typeSignature true = .ok (.str (String.ofList g.render)) := by
  induction h with
  | scalar known =>
    obtain ⟨-, notFixed, -, nonempty⟩ := known_scalar known
    rw [typeSignature_primitive rfl, primitiveSignature]
    simp [notFixed, nonempty, presentOr, Json.isTruthy, Signature.render]
  | reference new path shown =>
    rw [Schema.typeSignature, shown, Signature.render, String.ofList_toList]
  | array inner ih =>
    rw [typeSignature_array rfl rfl ih]
    simp [Signature.render, ← String.toList_inj]
  | map inner ih =>
    rw [typeSignature_map rfl rfl ih]
    simp [Signature.render, ← String.toList_inj]

theorem namedSignature (h : Describes g s) :
    s.namedSignature true = .ok (.str (String.ofList g.render)) := by
  have unnamed : s.kind.isNamed = false := by cases h <;> rfl
  rw [Schema.namedSignature, unnamed]
  exact h.typeSignature

/-- Types that are described alike can read each other's data. -/
theorem canRead (hr : Describes g r) (hw : Describes g w) : Schema.canRead true r w = true := by
  induction hr generalizing w with
  | scalar known =>
    cases hw with
    | scalar known' =>
      refine canRead_of_primitive rfl rfl ?_
      simp [canReadPrimitive, (known_scalar known).2.1]
    | reference new path shown =>
      exact absurd (shown ▸ known) (presentOr_notMem_scalarTypes new)
  | reference new path shown =>
    cases hw with
    | scalar known => exact absurd (shown ▸ known) (presentOr_notMem_scalarTypes new)
    | reference new' path' shown' =>
      rw [Schema.canRead]
      simp [resolvesByName, resolutionName, shown, shown', equals_str]
  | array inner ih =>
    cases hw with
    | array inner' => exact canRead_of_items rfl rfl rfl rfl (ih inner')
  | map inner ih =>
    cases hw with
    | map inner' => exact canRead_of_values rfl rfl rfl rfl (ih inner')

end Describes

/-! ### What the lines of a message declare -/

theorem forall_of_span? {test : Char → Bool} {s run rest : List Char}
    (h : span? test s = some (run, rest)) : ∀ c ∈ run, test c = true := by
  unfold span? at h
  dsimp only at h
  split at h
  · cases h
  · cases h
    exact fun c hc => List.mem_takeWhile_imp hc

/-- A path has no character that ends a word. -/
theorem isWord_of_isPathChar {name : List Char} (h : ∀ c ∈ name, isPathChar c = true) :
    IsWord (String.ofList name) := by
  have apart : delimiters.all (fun c => !isPathChar c) = true := by cbv
  intro c hc delimiter
  rw [String.toList_ofList] at hc
  have other := List.all_eq_true.mp apart c delimiter
  rw [h c hc] at other
  cases other

theorem exists_describes_namedType {name : List Char} (h : ∀ c ∈ name, isPathChar c = true) :
    ∃ g, Describes g (namedType name) := by
  unfold namedType
  dsimp only
  split
  · rename_i known
    exact ⟨_, .scalar (by simpa using known)⟩
  · rename_i new
    refine ⟨_, .reference (by simpa using new) (isWord_of_isPathChar fun c hc => ?_) rfl⟩
    exact h c ((List.dropWhile_sublist _).subset hc)

/-- The name that a field's type has, or that of the values if it is a map. -/
def TypeText.named (t : TypeText) : List Char := t.mapValue.getD t.text

theorem TypeText.exists_describes {t : TypeText} (h : ∀ c ∈ t.named, isPathChar c = true) :
    ∃ g, Describes g t.schema := by
  unfold TypeText.named at h
  unfold TypeText.schema
  split
  · rename_i value isMap
    rw [isMap] at h
    obtain ⟨g, described⟩ := exists_describes_namedType h
    exact ⟨_, .map described⟩
  · rename_i isPlain
    rw [isPlain] at h
    exact exists_describes_namedType h

theorem isPath_of_mapType? {s rest : List Char} {t : TypeText}
    (h : mapType? s = some (t, rest)) : ∀ c ∈ t.named, isPathChar c = true := by
  obtain ⟨afterMap, -, h⟩ := Option.bind_eq_some_iff.mp h
  obtain ⟨afterOpen, -, h⟩ := Option.bind_eq_some_iff.mp h
  obtain ⟨key, -, h⟩ := Option.bind_eq_some_iff.mp h
  obtain ⟨afterComma, -, h⟩ := Option.bind_eq_some_iff.mp h
  obtain ⟨⟨value, afterValue⟩, spanned, h⟩ := Option.bind_eq_some_iff.mp h
  obtain ⟨afterClose, -, h⟩ := Option.bind_eq_some_iff.mp h
  cases h
  exact forall_of_span? spanned

theorem isPath_of_plainType? {s rest : List Char} {t : TypeText}
    (h : plainType? s = some (t, rest)) : ∀ c ∈ t.named, isPathChar c = true := by
  obtain ⟨⟨name, afterName⟩, spanned, h⟩ := Option.bind_eq_some_iff.mp h
  cases h
  exact forall_of_span? spanned

theorem isPath_of_field? {s : List Char} {line : FieldLine} (h : field? s = some line) :
    ∀ c ∈ line.type.named, isPathChar c = true := by
  obtain ⟨label, text, h⟩ := fieldFromType?_of_field? h
  obtain ⟨⟨type, afterType⟩, typed, h⟩ := Option.bind_eq_some_iff.mp h
  obtain ⟨afterBlank, -, h⟩ := Option.bind_eq_some_iff.mp h
  obtain ⟨⟨name, afterName⟩, -, h⟩ := Option.bind_eq_some_iff.mp h
  obtain ⟨afterEquals, -, h⟩ := Option.bind_eq_some_iff.mp h
  obtain ⟨⟨number, afterNumber⟩, -, h⟩ := Option.bind_eq_some_iff.mp h
  dsimp only at h
  split at h
  · cases h
    obtain isMap | ⟨-, isPlain⟩ := Option.or_eq_some_iff.mp typed
    · exact isPath_of_mapType? isMap
    · exact isPath_of_plainType? isPlain
  · cases h

theorem IsLineField.exists_describes {level : Option String} {f : Field}
    (h : IsLineField level f) : ∃ g, Describes g f.type := by
  obtain ⟨line, h⟩ := h
  unfold MemberLine.field? at h
  split at h
  · cases h
  · obtain ⟨parsed, read, h⟩ := Option.bind_eq_some_iff.mp h
    obtain ⟨g, described⟩ := TypeText.exists_describes (isPath_of_field? read)
    cases h
    dsimp only
    generalize parsed.label.or _ = label
    split
    · exact ⟨_, .array described⟩
    · exact ⟨_, described⟩

/-- Fields whose types have one signature have types that can be read for each other. -/
theorem canRead_of_equalSignatures {level level' : Option String} {old new : Field} {a b : Json}
    (hold : IsLineField level old) (hnew : IsLineField level' new)
    (ha : old.type.namedSignature true = .ok a) (hb : new.type.namedSignature true = .ok b)
    (same : a.equals b = true) : canRead true new.type old.type = true := by
  obtain ⟨g, hg⟩ := hold.exists_describes
  obtain ⟨k, hk⟩ := hnew.exists_describes
  rw [hg.namedSignature] at ha
  rw [hk.namedSignature] at hb
  cases ha
  cases hb
  rw [equals_str, String.ofList_inj] at same
  obtain rfl := Signature.render_injective hg.isWellFormed hk.isWellFormed same
  exact hk.canRead hg

end SchemaReview.Protobuf
