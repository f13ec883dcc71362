import SchemaReview.Proofs.Compatibility.Alike
import SchemaReview.Proofs.Compatibility.Diff
import SchemaReview.Proofs.Compatibility.Leaves
import SchemaReview.Proofs.Compatibility.Preorder
import SchemaReview.Proofs.Compatibility.SignatureText
import SchemaReview.Proofs.Compatibility.Likeness

/-!
# Equal signatures and readability

Two fields whose types have one signature get no entry for their types, on the understanding that
such types can be read for each other. That is so where signatures are spelled out clearly and a
signature tells what kind of type it stands for: a change of kind is looked for at the type of the
field only, and there among containers and enums only.
-/
namespace SchemaReview

namespace Schema

/-- Whether a type leaves its part of a signature readable. Arrays and maps hold something; names
are words, and so are the names of types; the text of a logical type does not contain the bracket
that ends it; and nothing is called by the text that stands for what is absent. -/
structure IsClear (byName : Bool) (s : Schema) : Prop where
  held : s.kind.isCollection = true → s.held?.isSome = true
  word : s.kind = .primitive ∨ s.kind = .reference → ∀ w, s.typeName = some w → IsWord w
  typed : s.kind = .primitive → s.typeName ≠ some "" ∧ s.typeName ≠ some "unknown"
  logical : s.kind = .primitive → s.logicalType.isTruthy = true →
    ')' ∉ s.logicalType.toText.toList
  text : s.comparesName byName = true → s.qualifiedName.isTextOrNull = true
  name : s.comparesName byName = true → IsWord s.qualifiedName.toText
  sized : s.kind = .primitive → s.typeName = some "fixed" → s.qualifiedName ≠ .str "None"

/-- Whether a signature can be taken apart at all of its types. -/
def SpellsClearly (byName : Bool) (s : Schema) : Prop := ∀ t ∈ s.parts, t.IsClear byName

/-- Whether two types of one signature are of one kind, if one is not a reference to the other. -/
def TellsKinds (byName : Bool) (s t : Schema) : Prop :=
  ∀ a ∈ s.parts, ∀ b ∈ t.parts, a.typeSignature byName = b.typeSignature byName →
    a.kind = b.kind ∨ (a.resolvesByName = true ∧ b.resolvesByName = true ∧
      (a.kind = .reference ∨ b.kind = .reference))

section

variable {byName : Bool} {s t : Schema}

theorem SpellsClearly.self (h : s.SpellsClearly byName) : s.IsClear byName :=
  h s s.self_mem_parts

theorem SpellsClearly.component (h : s.SpellsClearly byName) (ht : t ∈ s.components) :
    t.SpellsClearly byName := fun u hu => h u (parts_subset_of_component ht hu)

theorem TellsKinds.symm (h : TellsKinds byName s t) : TellsKinds byName t s := by
  intro a ha b hb same
  obtain kind | ⟨resolves, resolves', reference⟩ := h b hb a ha same.symm
  · exact .inl kind.symm
  · exact .inr ⟨resolves', resolves, reference.symm⟩

theorem TellsKinds.components {u v : Schema} (h : TellsKinds byName s t)
    (hu : u ∈ s.components) (hv : v ∈ t.components) : TellsKinds byName u v :=
  fun a ha b hb => h a (parts_subset_of_component hu ha) b (parts_subset_of_component hv hb)

theorem namedSignature_eq (byName : Bool) (s : Schema) :
    s.namedSignature byName = s.typeSignature byName := by
  unfold namedSignature
  split
  · rename_i named
    simp only [Bool.and_eq_true] at named
    rw [typeSignature_eq]
    obtain ⟨⟨used, kind⟩, present⟩ := named
    cases hk : s.kind <;> simp_all [Kind.isNamed]
  · rfl

/-- What resolves by name, and a file, is signed with the name that it resolves by. -/
theorem typeSignature_resolving (h : s.resolvesByName = true ∨ s.kind = .file) :
    s.typeSignature byName = .ok (s.resolutionName byName) := by
  rw [typeSignature_eq]
  unfold resolutionName
  cases kind : s.kind with
  | reference => rfl
  | primitive | array | map | union =>
    simp [resolvesByName, isNamed, kind, Kind.isNamed] at h
  | record | enum | message | file =>
    simp only [beq_iff_eq, reduceCtorEq, if_false]
    split <;> rfl

/-! ### The signatures of clear types -/

theorem isWord_presentOr {word : Option String} (h : ∀ w, word = some w → IsWord w) :
    IsWord (presentOr word "unknown") ∧ presentOr word "unknown" ≠ "" := by
  have fallback : IsWord "unknown" ∧ "unknown" ≠ "" := by decide
  unfold presentOr
  split
  · rename_i w
    split
    · exact fallback
    · rename_i nonempty
      exact ⟨h w rfl, nonempty⟩
  · exact fallback

/-- Type names that are not the empty text and not called like what is absent are told apart. -/
theorem presentOr_injective {a b : Option String} (ha : a ≠ some "" ∧ a ≠ some "unknown")
    (hb : b ≠ some "" ∧ b ≠ some "unknown") (h : presentOr a "unknown" = presentOr b "unknown") :
    a = b := by
  have itself {c : Option String} (hc : c ≠ some "" ∧ c ≠ some "unknown") :
      presentOr c "unknown" = c.getD "unknown" := by
    cases c with
    | none => rfl
    | some w => exact if_neg fun empty => hc.1 (congrArg some empty)
  rw [itself ha, itself hb] at h
  cases a with
  | none =>
    cases b with
    | none => rfl
    | some w => exact (hb.2 (congrArg some h.symm)).elim
  | some v =>
    cases b with
    | none => exact (ha.2 (congrArg some h)).elim
    | some w => exact congrArg some h

/-- The size of a fixed type as its signature shows it. -/
def sizeText : Option Int → String
  | some n => toString n
  | none => "None"

theorem bracket_notMem_sizeText (size : Option Int) : ']' ∉ (sizeText size).toList := by
  cases size with
  | none => decide
  | some n => exact Signature.bracket_notMem_toString n

theorem sizeText_injective {a b : Option Int} (h : sizeText a = sizeText b) : a = b := by
  have apart (n : Int) : toString n ≠ "None" := by
    intro same
    have digit := of_mem_toString_int (n := n) (c := 'N') (by rw [same]; decide)
    revert digit
    decide
  cases a with
  | none =>
    cases b with
    | none => rfl
    | some n => exact (apart n h.symm).elim
  | some m =>
    cases b with
    | none => exact (apart m h).elim
    | some n => rw [toString_int_injective h]

theorem toList_primitiveSignature_fixed (h : s.typeName = some "fixed") :
    s.primitiveSignature.toList = "fixed".toList ++ ':' ::
      ((s.qualifiedName.toText.toList ++ '[' :: (sizeText s.size).toList) ++ [']']) := by
  rw [primitiveSignature, if_pos h]
  cases s.size <;> simp [sizeText]

/-- The signature of another primitive type is its name, with a logical type in brackets if it has
one. -/
theorem toList_primitiveSignature (h : s.typeName ≠ some "fixed") :
    s.primitiveSignature.toList = (presentOr s.typeName "unknown").toList ++
      if s.logicalType.isTruthy then '(' :: (s.logicalType.toText.toList ++ [')']) else [] := by
  rw [primitiveSignature, if_neg h]
  dsimp only
  split <;> simp

/-- The signature of a primitive type begins with its name. -/
theorem exists_primitiveSignature (s : Schema) :
    ∃ tail, s.primitiveSignature.toList = (presentOr s.typeName "unknown").toList ++ tail ∧
      Signature.EndsWord tail := by
  by_cases fixed : s.typeName = some "fixed"
  · have signed := toList_primitiveSignature_fixed fixed
    rw [show "fixed" = presentOr s.typeName "unknown" by rw [fixed]; rfl] at signed
    exact ⟨_, signed, IsDelimited.endsWord_opening (by decide) _⟩
  · refine ⟨_, toList_primitiveSignature fixed, ?_⟩
    split
    · exact IsDelimited.endsWord_opening (by decide) _
    · trivial

theorem isDelimited_primitiveSignature (h : s.IsClear byName) (kind : s.kind = .primitive) :
    IsDelimited s.primitiveSignature.toList := by
  by_cases fixed : s.typeName = some "fixed"
  · have compares : s.comparesName byName = true := by rw [comparesName, if_pos kind, fixed]; rfl
    rw [toList_primitiveSignature_fixed fixed]
    refine .closed (by decide : IsWord "fixed") (by decide) ?_
    rw [List.mem_append, List.mem_cons, not_or, not_or]
    exact ⟨fun found => h.name compares _ found (by decide), by decide,
      bracket_notMem_sizeText s.size⟩
  · obtain ⟨isWord, nonempty⟩ := isWord_presentOr (h.word (.inl kind))
    rw [toList_primitiveSignature fixed]
    split
    · rename_i present
      exact .closed isWord (by decide) (h.logical kind present)
    · rw [List.append_nil]
      exact .word (by simpa using nonempty) isWord

/-- Whether a text is the signature of a type and shows where it ends. -/
structure IsSignedBy (byName : Bool) (s : Schema) (text : String) : Prop where
  signed : s.typeSignature byName = .ok (.str text)
  delimited : IsDelimited text.toList

/-- Types that have clear signatures have them one by one. -/
theorem exists_memberSignatures_clear {members : List Schema}
    (h : ∀ m ∈ members, ∃ text, IsSignedBy byName m text) :
    ∃ texts : List String, memberSignatures byName members = .ok (texts.map .str) ∧
      List.Forall₂ (IsSignedBy byName) members texts := by
  induction members with
  | nil => exact ⟨[], rfl, .nil⟩
  | cons m rest ih =>
    rw [List.forall_mem_cons] at h
    obtain ⟨text, signed, delimited⟩ := h.1
    obtain ⟨texts, signedRest, each⟩ := ih h.2
    refine ⟨text :: texts, ?_, .cons ⟨signed, delimited⟩ each⟩
    rw [memberSignatures, signed, signedRest]
    rfl

theorem isDelimited_memberSignatures {members : List Schema} {texts : List String}
    (each : List.Forall₂ (IsSignedBy byName) members texts) :
    ∀ u ∈ texts.map String.toList, IsDelimited u := by
  intro u hu
  obtain ⟨text, ht, rfl⟩ := List.mem_map.mp hu
  obtain ⟨m, -, signedBy⟩ := exists_of_forall₂ each.flip ht
  exact signedBy.delimited

theorem typeSignature_held {inner : Schema} {text : String} (held : s.held? = some inner)
    (signed : inner.typeSignature byName = .ok (.str text)) :
    s.typeSignature byName = .ok (.str (s.kind.text ++ "<" ++ text ++ ">")) := by
  rw [typeSignature_eq]
  unfold held? at held
  cases kind : s.kind with
  | array | map =>
    rw [kind] at held
    dsimp only at held ⊢
    rw [held, innerSignature, signed]
    simp [bind, Except.bind, pure, Except.pure, Json.toText_str, Kind.text]
  | _ =>
    rw [kind] at held
    cases held

theorem typeSignature_members {texts : List String} (kind : s.kind = .union)
    (signed : memberSignatures byName s.members = .ok (texts.map .str)) :
    s.typeSignature byName = .ok (.str ("union[" ++ ",".intercalate texts ++ "]")) := by
  rw [typeSignature_eq, kind]
  dsimp only
  rw [signed]
  simp only [bind, Except.bind, pure, Except.pure, firstNonText?_map, List.map_map]
  rw [show Json.toText ∘ Json.str = id from funext Json.toText_str, List.map_id]

theorem isWord_kind (kind : Kind) : IsWord kind.text ∧ kind.text ≠ "" := by
  cases kind <;> decide

/-- What a clear container or enum resolves by is a word: its name, or that of its kind. -/
theorem exists_resolutionName (clear : s.IsClear byName)
    (named : s.isNamed = true ∨ s.kind = .file) :
    ∃ word, s.resolutionName byName = .str word ∧ IsDelimited word.toList := by
  have notReference : s.kind ≠ .reference := by
    intro reference
    simp [isNamed, reference, Kind.isNamed] at named
  have notPrimitive : s.kind ≠ .primitive := by
    intro primitive
    simp [isNamed, primitive, Kind.isNamed] at named
  rw [resolutionName, if_neg (by simpa using notReference)]
  split
  · rename_i used
    rw [Bool.and_eq_true] at used
    have compares : s.comparesName byName = true := by
      simpa [comparesName, notPrimitive, used.1] using named
    obtain ⟨word, name⟩ := exists_text_of_isTruthy (clear.text compares) used.2
    have isWord := clear.name compares
    rw [name, Json.toText_str] at isWord
    rw [name] at used ⊢
    refine ⟨word, rfl, .word ?_ isWord⟩
    simpa [Json.isTruthy] using used.2
  · obtain ⟨isWord, nonempty⟩ := isWord_kind s.kind
    exact ⟨_, rfl, .word (by simpa using nonempty) isWord⟩

/-- A clear type has a signature, and it shows where it ends. -/
theorem exists_isSignedBy {s : Schema} (h : s.SpellsClearly byName) :
    ∃ text, IsSignedBy byName s text := by
  have clear := h.self
  cases kind : s.kind with
  | primitive =>
    refine ⟨s.primitiveSignature, ?_, isDelimited_primitiveSignature clear kind⟩
    rw [typeSignature_eq, kind]
  | reference =>
    obtain ⟨isWord, nonempty⟩ := isWord_presentOr (clear.word (.inr kind))
    refine ⟨presentOr s.typeName "unknown", ?_, .word (by simpa using nonempty) isWord⟩
    rw [typeSignature_eq, kind]
  | array | map =>
    have collection : s.kind.isCollection = true := by rw [kind]; rfl
    obtain ⟨inner, held⟩ := Option.isSome_iff_exists.mp (clear.held collection)
    have := sizeOf_lt_of_held? held
    obtain ⟨text, signed, delimited⟩ :=
      exists_isSignedBy (h.component (mem_components_of_held? held))
    refine ⟨_, typeSignature_held held signed, ?_⟩
    simpa using IsDelimited.holding (isWord_kind s.kind).1 delimited
  | union =>
    have members : ∀ m ∈ s.members, ∃ text, IsSignedBy byName m text := fun m hm => by
      have := sizeOf_lt_of_mem_members hm
      exact exists_isSignedBy (h.component (mem_components_of_member kind hm))
    obtain ⟨texts, signed, each⟩ := exists_memberSignatures_clear members
    refine ⟨_, typeSignature_members kind signed, ?_⟩
    simpa using IsDelimited.joined (by decide : IsWord "union") (isDelimited_memberSignatures each)
  | record | enum | message | file =>
    have named : s.isNamed = true ∨ s.kind = .file := by simp [isNamed, kind, Kind.isNamed]
    obtain ⟨word, name, delimited⟩ := exists_resolutionName clear named
    refine ⟨word, ?_, delimited⟩
    rw [typeSignature_resolving (named.imp_left (by simp [resolvesByName, ·])), name]
termination_by sizeOf s

/-! ### Equal signatures -/

theorem qualifiedName_eq_of_toText (hs : s.qualifiedName.isTextOrNull = true)
    (ht : t.qualifiedName.isTextOrNull = true) (ns : s.qualifiedName ≠ .str "None")
    (nt : t.qualifiedName ≠ .str "None")
    (same : s.qualifiedName.toText = t.qualifiedName.toText) :
    s.qualifiedName = t.qualifiedName := by
  have null : Json.null.toText = "None" := rfl
  cases hx : s.qualifiedName <;> cases hy : t.qualifiedName <;>
    simp_all [Json.isTextOrNull, Json.toText_str]

theorem equals_self_of_isTextOrNull {a : Json} (h : a.isTextOrNull = true) :
    a.equals a = true := by
  cases a with
  | null => rfl
  | str text => exact (equals_str text text).mpr rfl
  | _ => cases h

/-- Clear primitive types of one signature are of one type. -/
theorem typeName_eq_of_signature (hs : s.IsClear byName) (ht : t.IsClear byName)
    (ks : s.kind = .primitive) (kt : t.kind = .primitive)
    (same : s.primitiveSignature = t.primitiveSignature) : s.typeName = t.typeName := by
  obtain ⟨tail, signed, ends⟩ := exists_primitiveSignature s
  obtain ⟨tail', signed', ends'⟩ := exists_primitiveSignature t
  rw [same, signed'] at signed
  obtain ⟨words, -⟩ := Signature.word_unique (isWord_presentOr (hs.word (.inl ks))).1
    (isWord_presentOr (ht.word (.inl kt))).1 ends ends' signed.symm
  exact presentOr_injective (hs.typed ks) (ht.typed kt) (String.toList_inj.mp words)

theorem canReadPrimitive_of_signature (hs : s.IsClear byName) (ht : t.IsClear byName)
    (ks : s.kind = .primitive) (kt : t.kind = .primitive)
    (same : s.primitiveSignature = t.primitiveSignature) : canReadPrimitive s t = true := by
  have types := typeName_eq_of_signature hs ht ks kt same
  by_cases fixed : s.typeName = some "fixed"
  · have fixed' : t.typeName = some "fixed" := types ▸ fixed
    have compares {u : Schema} (ku : u.kind = .primitive) (fixed : u.typeName = some "fixed") :
        u.comparesName byName = true := by rw [comparesName, if_pos ku, fixed]; rfl
    have text := hs.text (compares ks fixed)
    have texts := congrArg String.toList same
    rw [toList_primitiveSignature_fixed fixed, toList_primitiveSignature_fixed fixed'] at texts
    simp only [List.append_assoc, List.cons_append, List.append_cancel_left_eq, List.cons.injEq,
      true_and] at texts
    obtain ⟨names, sizes⟩ := Signature.before_unique
      (Signature.bracket_notMem_of_isWord (hs.name (compares ks fixed)))
      (Signature.bracket_notMem_of_isWord (ht.name (compares kt fixed'))) texts
    rw [List.append_cancel_right_eq, String.toList_inj] at sizes
    have name := qualifiedName_eq_of_toText text (ht.text (compares kt fixed'))
      (hs.sized ks fixed) (ht.sized kt fixed') (String.toList_inj.mp names)
    exact (canReadPrimitive_fixed (.inl fixed)).mpr
      ⟨fixed, fixed', name ▸ equals_self_of_isTextOrNull text, sizeText_injective sizes⟩
  · exact (canReadPrimitive_unfixed fixed (types ▸ fixed)).mpr (.inl types)

/-- The members of clear unions of one signature are signed alike, one by one. -/
theorem exists_sameMember (hs : s.SpellsClearly byName) (ht : t.SpellsClearly byName)
    (ks : s.kind = .union) (kt : t.kind = .union)
    (same : s.typeSignature byName = t.typeSignature byName) {m : Schema} (hm : m ∈ t.members) :
    ∃ n ∈ s.members, n.typeSignature byName = m.typeSignature byName := by
  have signedMembers {u : Schema} (hu : u.SpellsClearly byName) (ku : u.kind = .union) :
      ∃ texts : List String, memberSignatures byName u.members = .ok (texts.map .str) ∧
        List.Forall₂ (IsSignedBy byName) u.members texts :=
    exists_memberSignatures_clear fun m hm =>
      exists_isSignedBy (hu.component (mem_components_of_member ku hm))
  obtain ⟨texts, signed, each⟩ := signedMembers hs ks
  obtain ⟨texts', signed', each'⟩ := signedMembers ht kt
  rw [typeSignature_members ks signed, typeSignature_members kt signed'] at same
  have whole := congrArg String.toList (Json.str.inj (Except.ok.inj same))
  simp only [String.toList_append, List.append_assoc, List.append_cancel_left_eq,
    String.toList_intercalate] at whole
  have delimited := isDelimited_memberSignatures each
  obtain ⟨lists, -⟩ := IsDelimited.intercalate_unique
    (fun u hu {_ _ _} hv ha hb e => (delimited u hu).unique hv ha hb e)
    delimited (isDelimited_memberSignatures each') whole
  obtain rfl : texts = texts' :=
    List.map_injective_iff.mpr (fun _ _ => String.toList_inj.mp) lists
  obtain ⟨text, inTexts, memberSigned, -⟩ := exists_of_forall₂ each' hm
  obtain ⟨n, hn, sameSigned, -⟩ := exists_of_forall₂ each.flip inTexts
  exact ⟨n, hn, sameSigned.trans memberSigned.symm⟩

/-- What clear collections of one signature and kind hold is signed alike. -/
theorem exists_sameHeld (hs : s.SpellsClearly byName) (ht : t.SpellsClearly byName)
    (kind : s.kind = t.kind) (collection : s.kind.isCollection = true)
    (same : s.typeSignature byName = t.typeSignature byName) :
    ∃ i j, s.held? = some i ∧ t.held? = some j ∧
      i.typeSignature byName = j.typeSignature byName := by
  obtain ⟨i, hi⟩ := Option.isSome_iff_exists.mp (hs.self.held collection)
  obtain ⟨j, hj⟩ := Option.isSome_iff_exists.mp (ht.self.held (kind ▸ collection))
  obtain ⟨text, signed, -⟩ := exists_isSignedBy (hs.component (mem_components_of_held? hi))
  obtain ⟨text', signed', -⟩ := exists_isSignedBy (ht.component (mem_components_of_held? hj))
  rw [typeSignature_held hi signed, typeSignature_held hj signed', kind] at same
  have whole := congrArg String.toList (Json.str.inj (Except.ok.inj same))
  simp only [String.toList_append, List.append_assoc, List.append_cancel_left_eq,
    List.append_cancel_right_eq, String.toList_inj] at whole
  exact ⟨i, j, hi, hj, by rw [signed, signed', whole]⟩

/-- Clear types of one signature can be read for each other if the signature tells the kind. -/
theorem canRead_of_signature {s t : Schema} (hs : s.SpellsClearly byName)
    (ht : t.SpellsClearly byName) (kinds : TellsKinds byName s t)
    (same : s.typeSignature byName = t.typeSignature byName) : canRead byName s t = true := by
  have resolving (rs : s.resolvesByName = true ∨ s.kind = .file)
      (rt : t.resolvesByName = true ∨ t.kind = .file) :
      (s.resolutionName byName).equals (t.resolutionName byName) = true := by
    obtain ⟨text, signed, -⟩ := exists_isSignedBy hs
    have signed' := same.symm.trans signed
    rw [typeSignature_resolving rs] at signed
    rw [typeSignature_resolving rt] at signed'
    rw [Except.ok.inj signed, Except.ok.inj signed', equals_str]
  obtain kind | ⟨rs, rt, reference⟩ := kinds s s.self_mem_parts t t.self_mem_parts same
  · cases ks : s.kind with
    | union =>
      have kt : t.kind = .union := kind ▸ ks
      rw [canRead_writtenUnion kt]
      intro m hm
      obtain ⟨n, hn, same⟩ := exists_sameMember hs ht ks kt same hm
      have := sizeOf_lt_of_mem_members hn
      have inS := mem_components_of_member ks hn
      have inT := mem_components_of_member kt hm
      exact canRead_of_member ks hn (canRead_of_signature (hs.component inS) (ht.component inT)
        (kinds.components inS inT) same)
    | array | map =>
      have collection : s.kind.isCollection = true := by rw [ks]; rfl
      obtain ⟨i, j, hi, hj, same⟩ := exists_sameHeld hs ht kind collection same
      have := sizeOf_lt_of_held? hi
      have inS := mem_components_of_held? hi
      have inT := mem_components_of_held? hj
      exact (canRead_collection (by simp [← kind, ks]) collection).mpr ⟨kind.symm, i, j, hi, hj,
        canRead_of_signature (hs.component inS) (ht.component inT) (kinds.components inS inT) same⟩
    | primitive =>
      have kt : t.kind = .primitive := kind ▸ ks
      rw [typeSignature_eq, typeSignature_eq, ks, kt] at same
      exact canRead_of_primitive ks kt (canReadPrimitive_of_signature hs.self ht.self ks kt
        (Json.str.inj (Except.ok.inj same)))
    | file =>
      have kt : t.kind = .file := kind ▸ ks
      exact (canRead_file (by simp [kt]) ks).mpr ⟨kt, resolving (.inr ks) (.inr kt)⟩
    | record | enum | message | reference =>
      have rs : s.resolvesByName = true := by simp [resolvesByName, isNamed, ks, Kind.isNamed]
      have rt : t.resolvesByName = true := by
        simp [resolvesByName, isNamed, ← kind, ks, Kind.isNamed]
      exact (canRead_resolving (by simp [← kind, ks]) rs).mpr
        ⟨rt, .inr (.inr kind), resolving (.inl rs) (.inl rt)⟩
  · have notUnion : t.kind ≠ .union := by
      intro union
      simp [resolvesByName, isNamed, union, Kind.isNamed] at rt
    exact (canRead_resolving notUnion rs).mpr
      ⟨rt, reference.imp_right .inl, resolving (.inl rs) (.inl rt)⟩
termination_by sizeOf s

end

end Schema

namespace Comparison

open Schema

/-- The comparison of two fields gives entries, and if none of them is for the types, replacing one
type by the other breaks nothing. What kind a type is of has to follow from its signature, unless
the types of the fields themselves are a container and an enum, or containers of two kinds. -/
theorem not_isBreakingChange_of_fieldChanges (c : Comparison) (path : Path) (old new : Field)
    (hold : old.type.SpellsClearly c.byName) (hnew : new.type.SpellsClearly c.byName)
    (kinds : kindSwapped old.type new.type = false → TellsKinds c.byName old.type new.type) :
    ∃ entries, c.fieldChanges path old new = .ok entries ∧
      ((∀ e ∈ entries, c.typeChange path old.type new.type ≠ .ok [e]) →
        isBreakingChange c.byName c.mode old.type new.type = false) := by
  obtain ⟨before, signedOld, -⟩ := exists_isSignedBy hold
  obtain ⟨after, signedNew, -⟩ := exists_isSignedBy hnew
  have oldSignature := (namedSignature_eq c.byName old.type).trans signedOld
  have newSignature := (namedSignature_eq c.byName new.type).trans signedNew
  obtain ⟨entry, changed⟩ : ∃ e, c.typeChange path old.type new.type = .ok [e] := by
    unfold typeChange
    rw [oldSignature, newSignature]
    exact ⟨_, rfl⟩
  have emitted : ∃ entries, c.fieldTypeEntries path old.type new.type = .ok entries ∧
      (entry ∈ entries ∨
        (entries = [] ∧ before = after ∧ kindSwapped old.type new.type = false)) := by
    unfold fieldTypeEntries
    split
    · exact ⟨_, changed, .inl (List.mem_singleton_self _)⟩
    · rename_i unswapped
      unfold signaturesDiffer
      rw [oldSignature, newSignature]
      by_cases same : before = after
      · subst same
        refine ⟨[], ?_, .inr ⟨rfl, rfl, by simpa using unswapped⟩⟩
        simp [bind, Except.bind, pure, Except.pure, (equals_str before before).mpr rfl]
      · refine ⟨[entry], ?_, .inl (List.mem_singleton_self _)⟩
        have differs : (Json.str before).equals (.str after) = false :=
          Bool.eq_false_of_not_eq_true fun h => same ((equals_str before after).mp h)
        simp [bind, Except.bind, pure, Except.pure, differs, changed]
  obtain ⟨typeEntries, run, found | ⟨-, same, unswapped⟩⟩ := emitted
  · refine ⟨_, by rw [fieldChanges_eq, run]; rfl, fun none => ?_⟩
    exact absurd changed (none entry (List.mem_append_left _ found))
  · refine ⟨_, by rw [fieldChanges_eq, run]; rfl, fun _ => ?_⟩
    have signatures : old.type.typeSignature c.byName = new.type.typeSignature c.byName := by
      rw [signedOld, signedNew, same]
    have tells := kinds unswapped
    simp [isBreakingChange, canRead_of_signature hold hnew tells signatures,
      canRead_of_signature hnew hold tells.symm signatures.symm]

/-- A field that holds a list of some type, or nothing. -/
def optionalList (inner : Schema) : Field :=
  { name := "items"
    type := { kind := .union
              members := [{ kind := .primitive, typeName := some "null" },
                { kind := .array, items := some inner }] } }

/-- The parts of its type, if what is listed has no others. -/
def optionalListParts (inner : Schema) : List Schema :=
  [(optionalList inner).type, { kind := .primitive, typeName := some "null" },
    { kind := .array, items := some inner }, inner]

theorem spellsClearly_optionalList {inner : Schema}
    (parts : (optionalList inner).type.parts = optionalListParts inner)
    (clear : inner.IsClear true) : (optionalList inner).type.SpellsClearly true := by
  intro t ht
  rw [parts, optionalListParts] at ht
  simp only [List.mem_cons, List.not_mem_nil, or_false] at ht
  obtain rfl | rfl | rfl | rfl := ht
  · constructor <;> simp [optionalList, comparesName, isNamed, Kind.isNamed, Kind.isCollection]
  · constructor <;> simp [comparesName, Kind.isCollection, Json.isTruthy]
    decide
  · constructor <;>
      simp [comparesName, isNamed, Kind.isNamed, Kind.isCollection, held?]
  · exact clear

/-- A type called by a text. -/
def lineRecord : Schema := { kind := .record, name := .str "Line" }

/-- Its name in place of the type. -/
def lineReference : Schema := { kind := .reference, typeName := some "Line" }

theorem not_isBreakingChange_of_fieldChanges_line :
    (optionalList lineRecord).type.SpellsClearly true ∧
    (optionalList lineReference).type.SpellsClearly true ∧
    TellsKinds true (optionalList lineRecord).type (optionalList lineReference).type ∧
    (⟨.full, true⟩ : Comparison).fieldChanges [] (optionalList lineRecord)
      (optionalList lineReference) = .ok [] ∧
    isBreakingChange true .full (optionalList lineRecord).type
      (optionalList lineReference).type = false := by
  have partsOld : (optionalList lineRecord).type.parts = optionalListParts lineRecord := by cbv
  have partsNew : (optionalList lineReference).type.parts = optionalListParts lineReference := by
    cbv
  have clearOld : lineRecord.IsClear true := by
    constructor <;> simp [lineRecord, comparesName, isNamed, Kind.isNamed, Kind.isCollection]
    · decide
    · decide
  have clearNew : lineReference.IsClear true := by
    constructor <;> simp [lineReference, comparesName, isNamed, Kind.isNamed, Kind.isCollection]
    decide
  have hold := spellsClearly_optionalList partsOld clearOld
  have hnew := spellsClearly_optionalList partsNew clearNew
  have kinds : TellsKinds true (optionalList lineRecord).type
      (optionalList lineReference).type := by
    intro a ha b hb same
    rw [partsOld, optionalListParts] at ha
    rw [partsNew, optionalListParts] at hb
    simp only [List.mem_cons, List.not_mem_nil, or_false] at ha hb
    obtain rfl | rfl | rfl | rfl := ha <;> obtain rfl | rfl | rfl | rfl := hb <;>
      first | exact .inl rfl | exact .inr ⟨rfl, rfl, .inr rfl⟩ | (cbv at same; simp at same)
  have unchanged : (⟨.full, true⟩ : Comparison).fieldChanges [] (optionalList lineRecord)
      (optionalList lineReference) = .ok [] := by cbv
  refine ⟨hold, hnew, kinds, unchanged, ?_⟩
  obtain ⟨entries, run, unbroken⟩ := not_isBreakingChange_of_fieldChanges ⟨.full, true⟩ []
    (optionalList lineRecord) (optionalList lineReference) hold hnew fun _ => kinds
  obtain rfl : [] = entries := Except.ok.inj (unchanged.symm.trans run)
  exact unbroken fun e he => (List.not_mem_nil he).elim

/-- An enum that is called like the type. -/
def lineEnum : Schema := { kind := .enum, name := .str "Line", symbols := ["DASHED"] }

/-- A record that becomes an enum of its name within a union is not noticed, and breaks. -/
theorem hiddenSwap_unnoticed :
    ∃ (c : Comparison) (path : Path) (old new : Field),
      (∀ t, t ∈ old.type.parts ∨ t ∈ new.type.parts → t.kind.isCollection = true →
        t.held?.isSome = true) ∧
      c.fieldChanges path old new = .ok [] ∧
      isBreakingChange c.byName c.mode old.type new.type = true := by
  refine ⟨⟨.backward, true⟩, [], optionalList lineRecord, optionalList lineEnum, ?_, by cbv, by cbv⟩
  have partsOld : (optionalList lineRecord).type.parts = optionalListParts lineRecord := by cbv
  have partsNew : (optionalList lineEnum).type.parts = optionalListParts lineEnum := by cbv
  have holds {inner t : Schema} (leaf : inner.kind.isCollection = false)
      (ht : t ∈ optionalListParts inner) (collection : t.kind.isCollection = true) :
      t.held?.isSome = true := by
    simp only [optionalListParts, List.mem_cons, List.not_mem_nil, or_false] at ht
    obtain rfl | rfl | rfl | rfl := ht
    · cases collection
    · cases collection
    · rfl
    · rw [leaf] at collection
      cases collection
  rw [partsOld, partsNew]
  rintro t (ht | ht)
  · exact holds rfl ht
  · exact holds rfl ht

end Comparison
end SchemaReview
