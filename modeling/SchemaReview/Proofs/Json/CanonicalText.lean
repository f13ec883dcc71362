import SchemaReview.Proofs.Json.Equality
import SchemaReview.Proofs.Json.NumberText
import SchemaReview.Proofs.Json.StringText

/-!
# Reading texts with the members in order

A style that writes the members of an object in the order of their keys, with nothing but blanks
after its commas and colons, is otherwise faithful: a text is read back as the value, with all
members in that order. So two values with one text in such a style, as with one canonical text,
differ in the order of members at most.
-/
namespace SchemaReview.Json

/-- Members in the order of their keys. -/
def inKeyOrder (members : List (String × Json)) : List (String × Json) :=
  members.mergeSort fun a b => a.1 ≤ b.1

mutual

/-- A value with the members of all its objects in the order of their keys. -/
def sorted : Json → Json
  | .arr items => .arr (sortedItems items)
  | .obj members => .obj (inKeyOrder (sortedMembers members))
  | value => value

def sortedItems : List Json → List Json
  | [] => []
  | x :: rest => sorted x :: sortedItems rest

def sortedMembers : List (String × Json) → List (String × Json)
  | [] => []
  | (k, x) :: rest => (k, sorted x) :: sortedMembers rest

end

/-- A member with its value in order. -/
def sortedMember (entry : String × Json) : String × Json := (entry.1, entry.2.sorted)

theorem sorted_arr (items : List Json) : (arr items).sorted = arr (items.map sorted) := by
  have each : sortedItems items = items.map sorted := by
    induction items with
    | nil => rfl
    | cons x rest ih => rw [sortedItems, ih, List.map_cons]
  rw [sorted, each]

theorem inKeyOrder_map_sortedMember (members : List (String × Json)) :
    inKeyOrder (members.map sortedMember) = (inKeyOrder members).map sortedMember := by
  refine (List.map_mergeSort ?_).symm
  intro a _ b _
  rfl

theorem sorted_obj (members : List (String × Json)) :
    (obj members).sorted = obj ((inKeyOrder members).map sortedMember) := by
  have each : sortedMembers members = members.map sortedMember := by
    induction members with
    | nil => rfl
    | cons entry rest ih =>
      obtain ⟨key, x⟩ := entry
      rw [sortedMembers, ih, List.map_cons, sortedMember]
  rw [sorted, each, inKeyOrder_map_sortedMember]

/-! ### The texts of arrays and objects -/

/-- A separator that begins with a mark and goes on with blanks. -/
def IsSeparator (mark : Char) (text : String) : Prop :=
  ∃ blanks, text.toList = mark :: blanks ∧ ∀ c ∈ blanks, isSpace c = true

/-- A style that lists members in the order of their keys, and whose separators are read as what
they are. -/
structure Style.IsOrdered (style : Style) : Prop where
  sorted : style.sorted = true
  items : IsSeparator ',' style.itemSeparator
  keys : IsSeparator ':' style.keySeparator

theorem isOrdered_canonical : Style.canonical.IsOrdered where
  sorted := rfl
  items := ⟨[], rfl, by simp⟩
  keys := ⟨[], rfl, by simp⟩

theorem isOrdered_spacedAscii : Style.spacedAscii.IsOrdered where
  sorted := rfl
  items := ⟨[' '], rfl, List.forall_mem_singleton.mpr rfl⟩
  keys := ⟨[' '], rfl, List.forall_mem_singleton.mpr rfl⟩

/-- The characters of a value's text. -/
def chars (style : Style) (v : Json) : List Char := (v.write style).toList

/-- The characters of a member: its key, a colon, its value. -/
def memberChars (style : Style) (entry : String × Json) : List Char :=
  '"' :: (entry.1.toList.flatMap (escapeChar style.asciiOnly) ++
    '"' :: (style.keySeparator.toList ++ entry.2.chars style))

/-- Texts with commas between them. -/
def commaSeparated (style : Style) (texts : List (List Char)) : List Char :=
  style.itemSeparator.toList.intercalate texts

section

variable {style : Style}

theorem chars_str (style : Style) (s : String) :
    (str s).chars style = '"' :: (s.toList.flatMap (escapeChar style.asciiOnly) ++ ['"']) := by
  simp [chars, write, stringText]

theorem chars_arr (style : Style) (items : List Json) :
    (arr items).chars style = '[' :: (commaSeparated style (items.map (chars style)) ++ [']']) := by
  have each : writeItems style items = items.map (write style) := by
    induction items with
    | nil => rfl
    | cons x rest ih => rw [writeItems, ih, List.map_cons]
  unfold chars commaSeparated
  rw [write, each]
  simp [String.toList_intercalate, Function.comp_def]

theorem chars_obj (hs : style.IsOrdered) (members : List (String × Json)) :
    (obj members).chars style =
      '{' :: (commaSeparated style ((inKeyOrder members).map (memberChars style)) ++ ['}']) := by
  have each : writeMembers style members =
      members.map fun entry => (entry.1, entry.2.write style) := by
    induction members with
    | nil => rfl
    | cons entry rest ih =>
      obtain ⟨key, x⟩ := entry
      rw [writeMembers, ih, List.map_cons]
  have ordered : (members.map fun entry => (entry.1, entry.2.write style)).mergeSort
      (fun a b => a.1 ≤ b.1) =
        (inKeyOrder members).map fun entry => (entry.1, entry.2.write style) := by
    refine (List.map_mergeSort ?_).symm
    intro a _ b _
    rfl
  have text : (obj members).write style = "\x7b" ++ style.itemSeparator.intercalate
      ((inKeyOrder members).map fun entry =>
        stringText style.asciiOnly entry.1 ++ style.keySeparator ++ entry.2.write style) ++
          "\x7d" := by
    rw [write, each]
    dsimp only
    rw [if_pos hs.sorted, sortMembers, ordered, List.map_map]
    rfl
  have parts : String.toList ∘ (fun entry : String × Json =>
      stringText style.asciiOnly entry.1 ++ style.keySeparator ++ entry.2.write style) =
        memberChars style := by
    funext entry
    simp [memberChars, chars, stringText]
  unfold chars commaSeparated
  rw [text, String.toList_append, String.toList_append, String.toList_intercalate, List.map_map,
    parts]
  rfl

/-- Members that are in order stay where they are. -/
theorem inKeyOrder_inKeyOrder (members : List (String × Json)) :
    inKeyOrder (inKeyOrder members) = inKeyOrder members := by
  refine List.mergeSort_of_pairwise (List.pairwise_mergeSort ?_ ?_ members)
  · intro a b c hab hbc
    rw [decide_eq_true_iff] at *
    exact String.le_trans hab hbc
  · intro a b
    rw [Bool.or_eq_true, decide_eq_true_iff, decide_eq_true_iff]
    exact String.le_total a.1 b.1

/-- The order of members has no influence on the text. -/
theorem chars_sorted (hs : style.IsOrdered) (v : Json) : v.sorted.chars style = v.chars style := by
  match v with
  | .null | .bool _ | .int _ | .float _ | .str _ => rfl
  | .arr items =>
    have each : ∀ x ∈ items, (chars style ∘ sorted) x = x.chars style := by
      intro x hx
      have : sizeOf x < sizeOf items := List.sizeOf_lt_of_mem hx
      exact chars_sorted hs x
    rw [sorted_arr, chars_arr, chars_arr, List.map_map, List.map_congr_left each]
  | .obj members =>
    have each : ∀ entry ∈ inKeyOrder members, (memberChars style ∘ sortedMember) entry =
        memberChars style entry := by
      rintro ⟨key, x⟩ he
      have listed : (key, x) ∈ members := (List.mergeSort_perm members _).mem_iff.mp he
      have : sizeOf (key, x) < sizeOf members := List.sizeOf_lt_of_mem listed
      have : sizeOf x < sizeOf (key, x) := by
        simp only [Prod.mk.sizeOf_spec]
        omega
      rw [Function.comp, sortedMember, memberChars, memberChars, chars_sorted hs x]
    rw [sorted_obj, chars_obj hs, chars_obj hs, inKeyOrder_map_sortedMember, inKeyOrder_inKeyOrder,
      List.map_map, List.map_congr_left each]
termination_by sizeOf v

end

/-! ### Where a value starts -/

/-- The characters that values start with, digits aside. -/
def leads : List Char := ['"', '{', '[', 'n', 't', 'f', 'N', 'I', '-']

/-- Whether a value can start with a character. -/
def isLead (c : Char) : Bool := leads.contains c || c.isDigit

section

variable {c : Char} {rest : List Char}

theorem scanWord?_eq_none (h : c ∉ ['n', 't', 'f', 'N', 'I', '-']) :
    scanWord? (c :: rest) = none := by
  simp only [List.mem_cons, List.not_mem_nil, or_false, not_or] at h
  obtain ⟨n, t, f, N, I, minus⟩ := h
  simp [scanWord?, wordValues, Ne.symm n, Ne.symm t, Ne.symm f, Ne.symm N, Ne.symm I,
    Ne.symm minus]

theorem scanNumber_eq_error (h : isLead c = false) :
    scanNumber (c :: rest) = failAt .expectingValue (c :: rest) := by
  rw [isLead, Bool.or_eq_false_iff] at h
  obtain ⟨other, digit⟩ := h
  have sign : splitMinus (c :: rest) = (false, c :: rest) := by
    unfold splitMinus
    split
    · rename_i same
      cases same
      exact absurd other (by decide)
    · rfl
  have whole : wholeDigits (c :: rest) = [] := by
    unfold wholeDigits
    split
    · rename_i same
      cases same
      exact absurd digit (by decide)
    · simp [digit]
  simp [scanNumber, sign, whole]

/-- What starts otherwise is no value. -/
theorem isLead_of_scanValue {fuel : Nat} {read : Json × List Char}
    (h : scanValue fuel (c :: rest) = .ok read) : isLead c = true := by
  cases fuel with
  | zero => cases h
  | succ fuel =>
    by_contra other
    rw [Bool.not_eq_true] at other
    rw [scanValue.eq_def] at h
    dsimp only at h
    split at h
    · rename_i same
      cases same
    · rename_i same
      cases same
      exact absurd other (by decide)
    · rename_i same
      cases same
      exact absurd other (by decide)
    · rename_i same
      cases same
      exact absurd other (by decide)
    · have noWord : c ∉ ['n', 't', 'f', 'N', 'I', '-'] := by
        intro word
        simp [isLead, leads] at other
        simp [other] at word
      rw [scanWord?_eq_none noWord, scanNumber_eq_error other] at h
      cases h

/-- A number starts with a digit, after a minus sign at most. -/
theorem lead_of_scanNumber {s : List Char} {read : Json × List Char}
    (h : scanNumber s = .ok read) :
    (∃ c rest, s = c :: rest ∧ c.isDigit = true) ∨
      ∃ c rest, s = '-' :: c :: rest ∧ c.isDigit = true := by
  have lead {body : List Char} (whole : wholeDigits body ≠ []) :
      ∃ c rest, body = c :: rest ∧ c.isDigit = true := by
    cases body with
    | nil => exact (whole rfl).elim
    | cons c rest =>
      refine ⟨c, rest, rfl, ?_⟩
      by_contra digit
      unfold wholeDigits at whole
      split at whole
      · rename_i same
        cases same
        exact digit (by decide)
      · simp [digit] at whole
  unfold scanNumber at h
  dsimp only at h
  split at h
  · cases h
  · rename_i nonempty
    obtain ⟨c, rest, body, digit⟩ := lead (by simpa using nonempty)
    unfold splitMinus at body
    split at body
    · dsimp only at body
      subst body
      exact .inr ⟨c, rest, rfl, digit⟩
    · exact .inl ⟨c, rest, body, digit⟩

/-- A number is read as a number and not as a word. -/
theorem scanValue_of_scanNumber {s : List Char} {read : Json × List Char} (fuel : Nat)
    (h : scanNumber s = .ok read) : scanValue (fuel + 1) s = .ok read := by
  have noWord : scanWord? s = none := by
    have noDigit {c d : Char} (digit : c.isDigit = true) (other : d.isDigit = false) : d ≠ c := by
      rintro rfl
      rw [digit] at other
      cases other
    obtain ⟨c, rest, rfl, digit⟩ | ⟨c, rest, rfl, digit⟩ := lead_of_scanNumber h
    · refine scanWord?_eq_none fun word => ?_
      have letters : ['n', 't', 'f', 'N', 'I', '-'].all (fun d => !d.isDigit) = true := rfl
      have letter := List.all_eq_true.mp letters c word
      exact noDigit digit (Bool.not_eq_true' _ ▸ letter) rfl
    · simp [scanWord?, wordValues, noDigit (d := 'I') digit rfl]
  rw [scanValue.eq_def]
  dsimp only
  split
  · cases h
  · cases h
  · cases h
  · cases h
  · rw [noWord]
    exact h

end

theorem isSpace_of_isLead {c : Char} (h : isLead c = true) : isSpace c = false := by
  by_contra space
  simp only [isSpace, Bool.not_eq_false, Bool.or_eq_true, beq_iff_eq] at space
  obtain ((rfl | rfl) | rfl) | rfl := space
  · exact absurd h (by decide)
  · exact absurd h (by decide)
  · exact absurd h (by decide)
  · exact absurd h (by decide)

theorem skipSpace_cons {c : Char} (h : isSpace c = false) (rest : List Char) :
    skipSpace (c :: rest) = c :: rest := by
  simp [skipSpace, h]

theorem skipSpace_append {blanks : List Char} (h : ∀ c ∈ blanks, isSpace c = true)
    (rest : List Char) : skipSpace (blanks ++ rest) = skipSpace rest := by
  unfold skipSpace
  rw [List.dropWhile_append_of_pos h]

/-! ### Reading what was written -/

/-- Whether the text of a value is read back in order, whatever follows it. -/
def ReadsBack (style : Style) (v : Json) : Prop :=
  ∀ (fuel : Nat) (rest : List Char), (v.chars style).length ≤ fuel → Delimited rest →
    scanValue fuel (v.chars style ++ rest) = .ok (v.sorted, rest)

section

variable {style : Style}

theorem ReadsBack.lead {v : Json} (h : ReadsBack style v) :
    ∃ c rest, v.chars style = c :: rest ∧ isLead c = true := by
  have read := h _ [] (Nat.le_refl _) delimited_nil
  rw [List.append_nil] at read
  cases text : v.chars style with
  | nil =>
    rw [text] at read
    cases read
  | cons c rest =>
    rw [text] at read
    exact ⟨c, rest, rfl, isLead_of_scanValue read⟩

/-- A value that is read back does not begin with blanks. -/
theorem ReadsBack.unspaced {v : Json} (h : ReadsBack style v) (rest : List Char) :
    skipSpace (v.chars style ++ rest) = v.chars style ++ rest := by
  obtain ⟨c, cs, text, lead⟩ := h.lead
  rw [text]
  exact skipSpace_cons (isSpace_of_isLead lead) _

theorem commaSeparated_cons_cons (first second : List Char) (others : List (List Char)) :
    commaSeparated style (first :: second :: others) =
      first ++ (style.itemSeparator.toList ++ commaSeparated style (second :: others)) := by
  simp [commaSeparated, List.intercalate_cons_cons]

theorem exists_commaSeparated_cons (style : Style) (first : List Char) (others : List (List Char)) :
    ∃ rest, commaSeparated style (first :: others) = first ++ rest := by
  cases others with
  | nil => exact ⟨[], by simp [commaSeparated]⟩
  | cons second others => exact ⟨_, commaSeparated_cons_cons first second others⟩

theorem scanItems_readsBack (hs : style.IsOrdered) {items : List Json} (nonempty : items ≠ [])
    (h : ∀ x ∈ items, ReadsBack style x) (acc : List Json) (rest : List Char) {fuel : Nat}
    (enough : (commaSeparated style (items.map (chars style))).length < fuel) :
    scanItems fuel (commaSeparated style (items.map (chars style)) ++ ']' :: rest) acc =
      .ok (.arr (acc.reverse ++ items.map sorted), rest) := by
  induction items generalizing fuel acc with
  | nil => exact (nonempty rfl).elim
  | cons x others ih =>
    rw [List.forall_mem_cons] at h
    obtain ⟨fuel, rfl⟩ := Nat.exists_eq_succ_of_ne_zero (Nat.ne_zero_of_lt enough)
    cases others with
    | nil =>
      simp only [List.map_cons, List.map_nil, commaSeparated, List.intercalate_singleton] at *
      have read := h.1 fuel (']' :: rest) (by omega) (delimited_cons _ (.inr (.inl rfl)))
      rw [scanItems, read]
      simp [skipSpace_cons (c := ']') rfl]
    | cons y others =>
      obtain ⟨blanks, separator, spaces⟩ := hs.items
      rw [List.map_cons, List.map_cons, commaSeparated_cons_cons, separator, List.length_append,
        List.length_append, List.length_cons, ← List.map_cons] at enough
      rw [List.map_cons, List.map_cons, commaSeparated_cons_cons, separator, List.append_assoc,
        List.append_assoc, List.cons_append, ← List.map_cons]
      have read := h.1 fuel
        (',' :: (blanks ++ (commaSeparated style ((y :: others).map (chars style)) ++ ']' :: rest)))
        (by omega) (delimited_cons _ (.inl rfl))
      have unspaced : skipSpace (commaSeparated style ((y :: others).map (chars style)) ++
          ']' :: rest) = commaSeparated style ((y :: others).map (chars style)) ++ ']' :: rest := by
        obtain ⟨more, whole⟩ := exists_commaSeparated_cons style (y.chars style)
          (others.map (chars style))
        rw [List.map_cons, whole, List.append_assoc]
        exact (h.2 y List.mem_cons_self).unspaced _
      have shorter : (commaSeparated style ((y :: others).map (chars style))).length < fuel := by
        omega
      have continued := ih (List.cons_ne_nil _ _) h.2 (x.sorted :: acc) shorter
      rw [scanItems, read]
      dsimp only
      rw [skipSpace_cons rfl]
      split
      · rename_i same
        cases same
      · rename_i same
        cases same
        rw [skipSpace_append spaces, unspaced, continued]
        simp
      · rename_i other
        exact (other _ rfl).elim

theorem setMember_of_notMem {members : List (String × Json)} {key : String} (value : Json)
    (h : key ∉ members.map Prod.fst) : setMember members key value = members ++ [(key, value)] := by
  induction members with
  | nil => rfl
  | cons entry rest ih =>
    obtain ⟨k, other⟩ := entry
    rw [List.map_cons, List.mem_cons, not_or] at h
    rw [setMember, if_neg (Ne.symm h.1), ih h.2, List.cons_append]

/-- A key takes at least as many characters as it has. -/
theorem length_le_escaped (asciiOnly : Bool) (s : List Char) :
    s.length ≤ (s.flatMap (escapeChar asciiOnly)).length := by
  have some (c : Char) : escapeChar asciiOnly c ≠ [] := by
    unfold escapeChar
    repeat' split
    all_goals exact List.cons_ne_nil _ _
  induction s with
  | nil => simp
  | cons c rest ih =>
    have := List.length_pos_iff.mpr (some c)
    rw [List.flatMap_cons, List.length_append, List.length_cons]
    omega

/-- The key of a member is read back. -/
theorem scanString_key (opened : List Char) (asciiOnly : Bool) (key : String) (rest : List Char) :
    scanString opened ((key.toList.flatMap (escapeChar asciiOnly) ++ '"' :: rest).length + 1)
      (key.toList.flatMap (escapeChar asciiOnly) ++ '"' :: rest) [] = .ok (key, rest) := by
  have enough := length_le_escaped asciiOnly key.toList
  rw [scanString_escaped opened rest asciiOnly key.toList [] (by rw [List.length_append]; omega)]
  simp

/-- A member is read back, and what follows it is looked at with the member in its place. -/
theorem scanMembers_member (hs : style.IsOrdered) {entry : String × Json}
    (h : ReadsBack style entry.2) {acc : List (String × Json)} (new : entry.1 ∉ acc.map Prod.fst)
    {rest : List Char} (delimited : Delimited rest) {fuel : Nat}
    (enough : (entry.2.chars style).length ≤ fuel) :
    scanMembers (fuel + 1) (memberChars style entry ++ rest) acc =
      match skipSpace rest with
      | '}' :: rest => .ok (.obj (acc ++ [sortedMember entry]), rest)
      | ',' :: rest => scanMembers fuel (skipSpace rest) (acc ++ [sortedMember entry])
      | rest => failAt .expectingComma rest := by
  obtain ⟨key, value⟩ := entry
  obtain ⟨blanks, separator, spaces⟩ := hs.keys
  have read := h fuel rest enough delimited
  have opened : memberChars style (key, value) ++ rest =
      '"' :: (key.toList.flatMap (escapeChar style.asciiOnly) ++
        '"' :: ':' :: (blanks ++ (value.chars style ++ rest))) := by
    simp [memberChars, separator]
  rw [opened, scanMembers, scanString_key]
  dsimp only
  rw [skipSpace_cons rfl]
  split
  · rename_i same
    cases same
    rw [skipSpace_append spaces, h.unspaced, read]
    dsimp only
    rw [setMember_of_notMem _ new]
    rfl
  · rename_i other
    exact (other _ rfl).elim

theorem scanMembers_readsBack (hs : style.IsOrdered) {members : List (String × Json)}
    (nonempty : members ≠ []) (h : ∀ entry ∈ members, ReadsBack style entry.2)
    {acc : List (String × Json)} (distinct : ((acc ++ members).map Prod.fst).Nodup)
    (rest : List Char) {fuel : Nat}
    (enough : (commaSeparated style (members.map (memberChars style))).length < fuel) :
    scanMembers fuel (commaSeparated style (members.map (memberChars style)) ++ '}' :: rest) acc =
      .ok (.obj (acc ++ members.map sortedMember), rest) := by
  induction members generalizing fuel acc with
  | nil => exact (nonempty rfl).elim
  | cons entry others ih =>
    rw [List.forall_mem_cons] at h
    obtain ⟨fuel, rfl⟩ := Nat.exists_eq_succ_of_ne_zero (Nat.ne_zero_of_lt enough)
    have value : (entry.2.chars style).length < (memberChars style entry).length := by
      simp only [memberChars, List.length_cons, List.length_append]
      omega
    have new : entry.1 ∉ acc.map Prod.fst := by
      rw [List.map_append, List.map_cons, List.nodup_append] at distinct
      exact fun hmem => distinct.2.2 _ hmem _ List.mem_cons_self rfl
    cases others with
    | nil =>
      simp only [List.map_cons, List.map_nil, commaSeparated, List.intercalate_singleton] at *
      have closed : Delimited ('}' :: rest) := delimited_cons _ (.inr (.inr rfl))
      rw [scanMembers_member hs h.1 new closed (by omega)]
      simp [skipSpace_cons (c := '}') rfl]
    | cons next others =>
      obtain ⟨blanks, separator, spaces⟩ := hs.items
      rw [List.map_cons, List.map_cons, commaSeparated_cons_cons, separator, List.length_append,
        List.length_append, List.length_cons, ← List.map_cons] at enough
      rw [List.map_cons, List.map_cons, commaSeparated_cons_cons, separator, List.append_assoc,
        List.append_assoc, List.cons_append, ← List.map_cons]
      have unspaced : skipSpace (commaSeparated style ((next :: others).map (memberChars style)) ++
          '}' :: rest) =
            commaSeparated style ((next :: others).map (memberChars style)) ++ '}' :: rest := by
        obtain ⟨more, whole⟩ := exists_commaSeparated_cons style (memberChars style next)
          (others.map (memberChars style))
        rw [List.map_cons, whole]
        exact skipSpace_cons rfl _
      have shorter : (commaSeparated style ((next :: others).map (memberChars style))).length <
          fuel := by
        omega
      have apart : ((acc ++ [sortedMember entry] ++ next :: others).map Prod.fst).Nodup := by
        simpa [sortedMember] using distinct
      have continued := ih (List.cons_ne_nil _ _) h.2 apart shorter
      rw [scanMembers_member hs h.1 new (delimited_cons _ (.inl rfl)) (by omega),
        skipSpace_cons rfl]
      split
      · rename_i same
        cases same
      · rename_i same
        cases same
        rw [skipSpace_append spaces, unspaced, continued]
        simp
      · rename_i other
        exact (other _ rfl).elim

/-- A word is read as the value that it stands for. -/
theorem scanValue_of_scanWord {s : List Char} {read : Json × List Char} (fuel : Nat)
    (h : scanWord? s = some read) : scanValue (fuel + 1) s = .ok read := by
  rw [scanValue.eq_def]
  dsimp only
  split
  · cases h
  · cases h
  · cases h
  · cases h
  · rw [h]

/-- A value whose text is a word or a number is read back if scanning for these finds it. -/
theorem readsBack_of_scan {v : Json} (text : String) (spelled : v.write style = text)
    (plain : v.sorted = v)
    (h : ∀ rest, Delimited rest → scanWord? (text.toList ++ rest) = some (v, rest) ∨
      scanNumber (text.toList ++ rest) = .ok (v, rest)) : ReadsBack style v := by
  intro fuel rest enough delimited
  rw [chars, spelled] at enough ⊢
  have nonempty : text.toList ≠ [] := by
    intro empty
    have nothing := h [] delimited_nil
    rw [empty] at nothing
    obtain word | number := nothing
    · cases word
    · cases number
  have positive := List.length_pos_iff.mpr nonempty
  obtain ⟨fuel, rfl⟩ := Nat.exists_eq_succ_of_ne_zero (show fuel ≠ 0 by omega)
  rw [plain]
  obtain word | number := h rest delimited
  · exact scanValue_of_scanWord fuel word
  · exact scanValue_of_scanNumber fuel number

theorem readsBack_int (style : Style) (n : Int) : ReadsBack style (.int n) := by
  refine readsBack_of_scan (toString n) (by rw [write]) rfl fun rest delimited => .inr ?_
  exact scanNumber_int n delimited

theorem readsBack_float (style : Style) (x : Binary64) : ReadsBack style (.float x) := by
  have text : (float x).write style = floatText x := by rw [write]
  match x with
  | .nan => exact readsBack_of_scan "NaN" text rfl fun rest _ => .inl rfl
  | .infinity true => exact readsBack_of_scan "-Infinity" text rfl fun rest _ => .inl rfl
  | .infinity false => exact readsBack_of_scan "Infinity" text rfl fun rest _ => .inl rfl
  | .finite negative e f =>
    refine readsBack_of_scan _ text rfl fun rest delimited => .inr ?_
    exact scanNumber_finite negative e f delimited

theorem scanValue_text (fuel : Nat) (rest : List Char) :
    scanValue (fuel + 1) ('"' :: rest) =
      match scanString ('"' :: rest) (rest.length + 1) rest [] with
      | .ok (t, rest) => .ok (.str t, rest)
      | .error e => .error e := rfl

/-- An array with an item is read item by item. -/
theorem scanValue_items (fuel : Nat) {c : Char} (h : isLead c = true) (rest : List Char) :
    scanValue (fuel + 1) ('[' :: c :: rest) = scanItems fuel (c :: rest) [] := by
  have lead : skipSpace (c :: rest) = c :: rest := skipSpace_cons (isSpace_of_isLead h) rest
  simp only [scanValue, lead]
  split
  · rename_i same
    cases same
    exact absurd h (by decide)
  · rfl

/-- An object with a member is read member by member. -/
theorem scanValue_members (fuel : Nat) (rest : List Char) :
    scanValue (fuel + 1) ('{' :: '"' :: rest) = scanMembers fuel ('"' :: rest) [] := rfl

theorem readsBack_str (style : Style) (s : String) : ReadsBack style (.str s) := by
  intro fuel rest enough _
  rw [chars_str] at enough ⊢
  obtain ⟨fuel, rfl⟩ := Nat.exists_eq_succ_of_ne_zero (Nat.ne_zero_of_lt enough)
  rw [List.cons_append, List.append_assoc, List.singleton_append, scanValue_text, scanString_key]
  rfl

theorem readsBack_arr (hs : style.IsOrdered) {items : List Json}
    (h : ∀ x ∈ items, ReadsBack style x) : ReadsBack style (.arr items) := by
  intro fuel rest enough _
  rw [chars_arr] at enough ⊢
  obtain ⟨fuel, rfl⟩ := Nat.exists_eq_succ_of_ne_zero (Nat.ne_zero_of_lt enough)
  rw [sorted_arr]
  cases items with
  | nil => rfl
  | cons x others =>
    rw [List.length_cons, List.length_append, List.length_singleton] at enough
    have read := scanItems_readsBack hs (List.cons_ne_nil x others) h [] rest
      (show (commaSeparated style ((x :: others).map (chars style))).length < fuel by omega)
    rw [List.cons_append, List.append_assoc, List.singleton_append]
    obtain ⟨c, cs, text, lead⟩ := (h x List.mem_cons_self).lead
    obtain ⟨more, whole⟩ := exists_commaSeparated_cons style (x.chars style)
      (others.map (chars style))
    rw [List.map_cons, whole, text] at read ⊢
    simp only [List.cons_append] at read ⊢
    rw [scanValue_items fuel lead, read]
    rfl

theorem readsBack_obj (hs : style.IsOrdered) {members : List (String × Json)}
    (distinct : (members.map Prod.fst).Nodup) (h : ∀ entry ∈ members, ReadsBack style entry.2) :
    ReadsBack style (.obj members) := by
  intro fuel rest enough _
  rw [chars_obj hs] at enough ⊢
  obtain ⟨fuel, rfl⟩ := Nat.exists_eq_succ_of_ne_zero (Nat.ne_zero_of_lt enough)
  rw [sorted_obj]
  have perm : (inKeyOrder members).Perm members := List.mergeSort_perm ..
  generalize inKeyOrder members = ordered at enough perm
  cases ordered with
  | nil => rfl
  | cons entry others =>
    rw [List.length_cons, List.length_append, List.length_singleton] at enough
    have each : ∀ e ∈ entry :: others, ReadsBack style e.2 := fun e he => h e (perm.mem_iff.mp he)
    have apart : (([] ++ entry :: others).map Prod.fst).Nodup := (perm.map _).nodup_iff.mpr distinct
    have read := scanMembers_readsBack hs (List.cons_ne_nil entry others) each apart rest
      (show (commaSeparated style ((entry :: others).map (memberChars style))).length < fuel by
        omega)
    rw [List.cons_append, List.append_assoc, List.singleton_append]
    obtain ⟨more, whole⟩ := exists_commaSeparated_cons style (memberChars style entry)
      (others.map (memberChars style))
    rw [List.map_cons, whole, memberChars] at read ⊢
    simp only [List.cons_append] at read ⊢
    rw [scanValue_members, read]
    rfl

/-- The text of a value is read back as the value with its members in order. -/
theorem readsBack (hs : style.IsOrdered) {v : Json} (h : v.hasDistinctKeys = true) :
    ReadsBack style v := by
  match v with
  | .null => exact readsBack_of_scan "null" rfl rfl fun rest _ => .inl rfl
  | .bool true => exact readsBack_of_scan "true" rfl rfl fun rest _ => .inl rfl
  | .bool false => exact readsBack_of_scan "false" rfl rfl fun rest _ => .inl rfl
  | .int n => exact readsBack_int style n
  | .float x => exact readsBack_float style x
  | .str s => exact readsBack_str style s
  | .arr items =>
    rw [hasDistinctKeys_arr] at h
    refine readsBack_arr hs fun x hx => ?_
    have : sizeOf x < sizeOf items := List.sizeOf_lt_of_mem hx
    exact readsBack hs (h x hx)
  | .obj members =>
    rw [hasDistinctKeys_obj] at h
    refine readsBack_obj hs h.1 fun entry he => ?_
    have : sizeOf entry < sizeOf members := List.sizeOf_lt_of_mem he
    have : sizeOf entry.2 < sizeOf entry := by
      obtain ⟨k, x⟩ := entry
      simp only [Prod.mk.sizeOf_spec]
      omega
    exact readsBack hs (h.2 entry he)
termination_by sizeOf v

theorem ofText_write (hs : style.IsOrdered) {v : Json} (h : v.hasDistinctKeys = true) :
    ofText (v.write style) = .ok v.sorted := by
  obtain ⟨c, rest, text, lead⟩ := (readsBack hs h).lead
  have read := readsBack hs h ((v.chars style).length + 1) [] (Nat.le_succ _) delimited_nil
  rw [List.append_nil, text] at read
  have spelled : (v.write style).toList = c :: rest := text
  unfold ofText ofChars
  rw [spelled]
  dsimp only
  split
  · rename_i same
    cases same
    exact absurd lead (by decide)
  · rw [skipSpace_cons (isSpace_of_isLead lead), read]
    rfl

/-- Values that differ in the order of members at most have one text. -/
theorem write_eq_of_sorted_eq (hs : style.IsOrdered) {v w : Json} (h : v.sorted = w.sorted) :
    v.write style = w.write style := by
  have text : v.chars style = w.chars style := by
    rw [← chars_sorted hs v, h, chars_sorted hs w]
  exact String.toList_inj.mp text

/-- Values with one text differ in the order of members at most. -/
theorem sorted_eq_of_write_eq (hs : style.IsOrdered) {v w : Json} (hv : v.hasDistinctKeys = true)
    (hw : w.hasDistinctKeys = true) (same : v.write style = w.write style) :
    v.sorted = w.sorted := by
  have text : v.chars style = w.chars style := congrArg String.toList same
  have first := readsBack hs hv _ [] (Nat.le_refl _) delimited_nil
  have second := readsBack hs hw _ [] (Nat.le_refl _) delimited_nil
  rw [text, second] at first
  exact (Prod.mk.inj (Except.ok.inj first)).1.symm

end

end SchemaReview.Json
