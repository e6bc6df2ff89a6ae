import Sub2api.Json.NumberText
import Sub2api.Json.StringText

/-! `json.Unmarshal` into `map[string]any` after `json.Marshal` of a map it decoded gives the map
back. What the decoder produces is well formed (finite numbers, maps sorted by key, at most
`maxNestingDepth` arrays and maps deep), and the encoder's text of a well-formed value is read
back as that value, whatever follows it that cannot continue a number. -/

namespace Sub2api.Json

mutual
/-- A value `json.Unmarshal` can produce `depth` arrays and maps deep: its numbers are finite, its
maps sorted by key with one entry per key, and it nests no deeper than the scanner allows. -/
def Value.WellFormed : Nat → GoValue → Prop
  | _, .number f => f.IsFinite
  | depth, .array items => depth < maxNestingDepth ∧ wellFormedItems (depth + 1) items
  | depth, .object members =>
    depth < maxNestingDepth ∧ SortedKeys members ∧ wellFormedMembers (depth + 1) members
  | _, _ => True

def wellFormedItems : Nat → List GoValue → Prop
  | _, [] => True
  | depth, v :: vs => v.WellFormed depth ∧ wellFormedItems depth vs

def wellFormedMembers : Nat → List (String × GoValue) → Prop
  | _, [] => True
  | depth, (_, v) :: ms => v.WellFormed depth ∧ wellFormedMembers depth ms
end

theorem wellFormedItems_append {depth : Nat} {v : GoValue} :
    ∀ {items : List GoValue}, wellFormedItems depth items → v.WellFormed depth →
      wellFormedItems depth (items ++ [v])
  | [], _, wf => ⟨wf, trivial⟩
  | _ :: _, ⟨head, tail⟩, wf => ⟨head, wellFormedItems_append tail wf⟩

theorem wellFormedMembers_insertMember {depth : Nat} {key : String} {v : GoValue}
    (wf : v.WellFormed depth) :
    ∀ {members : List (String × GoValue)}, wellFormedMembers depth members →
      wellFormedMembers depth (insertMember key v members)
  | [], _ => ⟨wf, trivial⟩
  | (k, w) :: rest, ⟨head, tail⟩ => by
    unfold insertMember
    by_cases lt : keyLess key k
    · rw [if_pos lt]; exact ⟨wf, head, tail⟩
    rw [if_neg lt]
    by_cases same : key = k
    · rw [if_pos same]; exact ⟨wf, tail⟩
    · rw [if_neg same]; exact ⟨head, wellFormedMembers_insertMember wf tail⟩

/-! ### What the decoder produces is well formed -/

/-- `ParseFloat` gives only finite float64s; past the largest it reports a range error. -/
theorem parseFloat_finite {d : Decimal} {f : Float64} (parsed : parseFloat d = some f) :
    f.IsFinite := by
  have ofParts_finite : ∀ {neg m e2}, Float64.ofParts neg m e2 = some f → f.IsFinite := by
    intro neg m e2 built
    unfold Float64.ofParts at built
    by_cases large : e2 > 971
    · rw [if_pos large] at built; cases built
    rw [if_neg large] at built
    by_cases subnormal : m < 2 ^ 52
    · rw [if_pos subnormal] at built; cases built; show 0 < 2047; omega
    · rw [if_neg subnormal] at built; cases built
      show (e2 + 1075).toNat % 2048 < 2047
      omega
  unfold parseFloat roundRatio at parsed
  by_cases zero : d.num = 0
  · rw [if_pos zero] at parsed; cases parsed; show 0 < 2047; omega
  rw [if_neg zero] at parsed
  dsimp only at parsed
  split at parsed <;> split at parsed <;> exact ofParts_finite parsed

theorem keyword_ok {Num : Type} {word after rest : List UInt8} {w v : Value Num}
    (parsed : keyword word w after = .ok (v, rest)) : v = w := by
  unfold keyword at parsed
  by_cases spelled : word.isPrefixOf after
  · rw [if_pos spelled] at parsed; cases parsed; rfl
  · rw [if_neg spelled] at parsed; cases parsed

private theorem parse_wellFormed (fuel : Nat) :
    (∀ depth input (v : GoValue) rest, parseValue goNumber fuel depth input = .ok (v, rest) →
      v.WellFormed depth) ∧
    (∀ depth items input (v : GoValue) rest, wellFormedItems depth items →
      parseElements goNumber fuel depth items input = .ok (v, rest) →
      ∃ items', v = .array items' ∧ wellFormedItems depth items') ∧
    (∀ depth members input (v : GoValue) rest, SortedKeys members → wellFormedMembers depth members →
      parseMembers goNumber fuel depth members input = .ok (v, rest) →
      ∃ members', v = .object members' ∧ SortedKeys members' ∧ wellFormedMembers depth members') := by
  induction fuel with
  | zero =>
    refine ⟨fun _ _ _ _ parsed => ?_, fun _ _ _ _ _ _ parsed => ?_, fun _ _ _ _ _ _ _ parsed => ?_⟩ <;>
      cases parsed
  | succ fuel ih =>
    obtain ⟨value, elements, members⟩ := ih
    refine ⟨fun depth input v rest parsed => ?_, fun depth items input v rest wf parsed => ?_,
      fun depth ms input v rest sorted wf parsed => ?_⟩
    · -- a value: the first byte decides
      unfold parseValue at parsed
      generalize skipSpace input = bytes at parsed
      cases bytes with
      | nil => cases parsed
      | cons b rest =>
        dsimp only at parsed
        by_cases object : b = 0x7B
        · rw [if_pos object] at parsed
          by_cases deep : depth < maxNestingDepth
          · rw [if_pos deep] at parsed
            split at parsed
            · cases parsed; exact ⟨deep, List.sorted_nil, trivial⟩
            · obtain ⟨ms, rfl, sorted, wf⟩ := members _ _ _ _ _ List.sorted_nil trivial parsed
              exact ⟨deep, sorted, wf⟩
          · rw [if_neg deep] at parsed; cases parsed
        rw [if_neg object] at parsed
        by_cases array : b = 0x5B
        · rw [if_pos array] at parsed
          by_cases deep : depth < maxNestingDepth
          · rw [if_pos deep] at parsed
            split at parsed
            · cases parsed; exact ⟨deep, trivial⟩
            · obtain ⟨items, rfl, wf⟩ := elements (depth + 1) [] _ _ _ trivial parsed
              exact ⟨deep, wf⟩
          · rw [if_neg deep] at parsed; cases parsed
        rw [if_neg array] at parsed
        by_cases string : b = 0x22
        · rw [if_pos string] at parsed
          cases scanned : scanString (rest.length + 1) rest with
          | error => rw [scanned] at parsed; cases parsed
          | ok => rw [scanned] at parsed; cases parsed; trivial
        rw [if_neg string] at parsed
        by_cases true : b = 0x74
        · rw [if_pos true] at parsed; rw [keyword_ok parsed]; trivial
        rw [if_neg true] at parsed
        by_cases false : b = 0x66
        · rw [if_pos false] at parsed; rw [keyword_ok parsed]; trivial
        rw [if_neg false] at parsed
        by_cases null : b = 0x6E
        · rw [if_pos null] at parsed; rw [keyword_ok parsed]; trivial
        rw [if_neg null] at parsed
        -- a number: `ParseFloat` succeeded
        split at parsed
        · unfold goNumber at parsed
          split at parsed
          · cases parsed; exact parseFloat_finite ‹_›
          · cases parsed
        · cases parsed
    · -- the elements of an array
      unfold parseElements at parsed
      split at parsed
      · cases parsed
      · rename_i w after parsedValue
        have item := wellFormedItems_append wf (value _ _ _ _ parsedValue)
        split at parsed
        · exact elements _ _ _ _ _ item parsed
        · cases parsed; exact ⟨_, rfl, item⟩
        · cases parsed
    · -- the members of an object
      unfold parseMembers at parsed
      split at parsed
      · split at parsed
        · cases parsed
        · split at parsed
          · split at parsed
            · cases parsed
            · rename_i w after parsedValue
              have wfValue := value _ _ _ _ parsedValue
              split at parsed
              · exact members _ _ _ _ _ (sortedKeys_insertMember sorted)
                  (wellFormedMembers_insertMember wfValue wf) parsed
              · cases parsed
                exact ⟨_, rfl, sortedKeys_insertMember sorted, wellFormedMembers_insertMember wfValue wf⟩
              · cases parsed
          · cases parsed
      · cases parsed

/-- What `json.Unmarshal` decodes into a map is a well-formed map. -/
theorem unmarshal_wellFormed {data : List UInt8} {members : List (String × GoValue)}
    (decoded : unmarshal data = .ok (some members)) : (Value.object members).WellFormed 0 := by
  unfold unmarshal at decoded
  cases text : parseText goNumber data with
  | error => rw [text] at decoded; cases decoded
  | ok v =>
    rw [text] at decoded
    unfold parseText at text
    split at text
    · cases text
    · rename_i w rest parsed
      have wf := (parse_wellFormed _).1 _ _ _ _ parsed
      by_cases done : skipSpace rest = []
      · rw [if_pos done] at text
        cases text
        cases v <;> (try cases decoded)
        exact wf
      · rw [if_neg done] at text; cases text

/-! ### The encoder's text reads back -/

section
variable {Num : Type} (r : Decimal → Except DecodeError Num) {fuel depth : Nat}

theorem skipSpace_cons {b : UInt8} (notSpace : isSpace b = false) (rest : List UInt8) :
    skipSpace (b :: rest) = b :: rest := by
  simp [skipSpace, notSpace]

theorem scanInteger_head {b : UInt8} {more : List UInt8} {p : List UInt8 × List UInt8}
    (scanned : scanInteger (b :: more) = some p) : isDigit b = true := by
  unfold scanInteger at scanned
  split at scanned
  · rename_i zero; cases zero; rfl
  · rename_i b' rest _ same; cases same
    by_cases digit : isDigit b
    · exact digit
    · rw [if_neg digit] at scanned; cases scanned
  · cases scanned

/-- A number starts with a minus sign or a digit. -/
theorem scanNumber_head {input : List UInt8} {p : Decimal × List UInt8}
    (scanned : scanNumber input = some p) :
    ∃ b more, input = b :: more ∧ (b = 0x2D ∨ isDigit b = true) := by
  cases input with
  | nil => cases scanned
  | cons b more =>
    refine ⟨b, more, rfl, ?_⟩
    by_cases minus : b = 0x2D
    · exact .inl minus
    right
    cases integer : scanInteger (b :: more) with
    | none => simp [scanNumber, minus, integer] at scanned
    | some => exact scanInteger_head integer

/-- A minus sign or a digit is none of the bytes that start another kind of value. -/
private theorem not_special {b : UInt8} (start : b = 0x2D ∨ isDigit b = true) :
    isSpace b = false ∧ b ≠ 0x7B ∧ b ≠ 0x5B ∧ b ≠ 0x22 ∧ b ≠ 0x74 ∧ b ≠ 0x66 ∧ b ≠ 0x6E := by
  rcases start with rfl | digit
  · decide
  · have range : 48 ≤ b.toNat ∧ b.toNat ≤ 57 := by simpa [isDigit] using digit
    have other : ∀ c : UInt8, c.toNat < 48 ∨ 57 < c.toNat → b ≠ c := fun c outside same => by
      rw [same] at range; omega
    refine ⟨?_, other _ (by decide), other _ (by decide), other _ (by decide), other _ (by decide),
      other _ (by decide), other _ (by decide)⟩
    simp [isSpace, other 0x20 (by decide), other 0x09 (by decide), other 0x0A (by decide),
      other 0x0D (by decide)]

/-- A number's text goes to `scanNumber` and the number reader. -/
theorem parseValue_number {input rest : List UInt8} {d : Decimal}
    (scanned : scanNumber input = some (d, rest)) :
    parseValue r (fuel + 1) depth input = (r d).map fun n => (.number n, rest) := by
  obtain ⟨b, more, rfl, start⟩ := scanNumber_head scanned
  obtain ⟨notSpace, object, array, quote, t, f, n⟩ := not_special start
  unfold parseValue
  rw [skipSpace_cons notSpace]
  dsimp only
  rw [if_neg object, if_neg array, if_neg quote, if_neg t, if_neg f, if_neg n, scanned]

theorem parseValue_string (s : String) (rest : List UInt8) :
    parseValue r (fuel + 1) depth (appendString s ++ rest) = .ok (.string s, rest) := by
  obtain ⟨text, quoted, scanned⟩ := scanString_appendString s rest
  rw [quoted]
  unfold parseValue
  rw [skipSpace_cons (by decide)]
  dsimp only
  rw [if_neg (by decide), if_neg (by decide), if_pos rfl, scanned]
  rfl

theorem parseValue_null (rest : List UInt8) :
    parseValue r (fuel + 1) depth ([0x6E, 0x75, 0x6C, 0x6C] ++ rest) = .ok (.null, rest) := by
  unfold parseValue
  rw [List.cons_append, skipSpace_cons (by decide)]
  dsimp only
  rw [if_neg (by decide), if_neg (by decide), if_neg (by decide), if_neg (by decide),
    if_neg (by decide), if_pos rfl]
  simp [keyword]

theorem parseValue_true (rest : List UInt8) :
    parseValue r (fuel + 1) depth ([0x74, 0x72, 0x75, 0x65] ++ rest) = .ok (.bool true, rest) := by
  unfold parseValue
  rw [List.cons_append, skipSpace_cons (by decide)]
  dsimp only
  rw [if_neg (by decide), if_neg (by decide), if_neg (by decide), if_pos rfl]
  simp [keyword]

theorem parseValue_false (rest : List UInt8) :
    parseValue r (fuel + 1) depth ([0x66, 0x61, 0x6C, 0x73, 0x65] ++ rest) = .ok (.bool false, rest) := by
  unfold parseValue
  rw [List.cons_append, skipSpace_cons (by decide)]
  dsimp only
  rw [if_neg (by decide), if_neg (by decide), if_neg (by decide), if_neg (by decide), if_pos rfl]
  simp [keyword]

theorem parseValue_emptyArray (deep : depth < maxNestingDepth) (rest : List UInt8) :
    parseValue r (fuel + 1) depth ([0x5B, 0x5D] ++ rest) = .ok (.array [], rest) := by
  unfold parseValue
  rw [List.cons_append, skipSpace_cons (by decide)]
  dsimp only
  rw [if_neg (by decide), if_pos rfl, if_pos deep, List.cons_append, List.nil_append,
    skipSpace_cons (by decide)]
  rfl

/-- An array whose text after `[` starts a value goes to `parseElements`. -/
theorem parseValue_array (deep : depth < maxNestingDepth) {b : UInt8} {more : List UInt8}
    (notSpace : isSpace b = false) (notClose : b ≠ 0x5D) :
    parseValue r (fuel + 1) depth (0x5B :: b :: more) = parseElements r fuel (depth + 1) [] (b :: more) := by
  unfold parseValue
  rw [skipSpace_cons (by decide)]
  dsimp only
  rw [if_neg (by decide), if_pos rfl, if_pos deep, skipSpace_cons notSpace]
  split
  · rename_i same; cases same; exact absurd rfl notClose
  · rfl

theorem parseValue_emptyObject (deep : depth < maxNestingDepth) (rest : List UInt8) :
    parseValue r (fuel + 1) depth ([0x7B, 0x7D] ++ rest) = .ok (.object [], rest) := by
  unfold parseValue
  rw [List.cons_append, skipSpace_cons (by decide)]
  dsimp only
  rw [if_pos rfl, if_pos deep, List.cons_append, List.nil_append, skipSpace_cons (by decide)]
  rfl

/-- An object whose text after `{` starts with a key goes to `parseMembers`. -/
theorem parseValue_object (deep : depth < maxNestingDepth) (more : List UInt8) :
    parseValue r (fuel + 1) depth (0x7B :: 0x22 :: more) =
      parseMembers r fuel (depth + 1) [] (0x22 :: more) := by
  unfold parseValue
  rw [skipSpace_cons (by decide)]
  dsimp only
  rw [if_pos rfl, if_pos deep, skipSpace_cons (by decide)]
  rfl

theorem parseElements_comma {input after : List UInt8} {v : Value Num} (acc : List (Value Num))
    (parsed : parseValue r fuel depth input = .ok (v, 0x2C :: after)) :
    parseElements r (fuel + 1) depth acc input = parseElements r fuel depth (acc ++ [v]) after := by
  simp only [parseElements, parsed]
  rfl

theorem parseElements_close {input after : List UInt8} {v : Value Num} (acc : List (Value Num))
    (parsed : parseValue r fuel depth input = .ok (v, 0x5D :: after)) :
    parseElements r (fuel + 1) depth acc input = .ok (.array (acc ++ [v]), after) := by
  simp only [parseElements, parsed]
  rfl

theorem parseMembers_comma (key : String) {text after : List UInt8} {v : Value Num}
    (acc : List (String × Value Num)) (parsed : parseValue r fuel depth text = .ok (v, 0x2C :: after)) :
    parseMembers r (fuel + 1) depth acc (appendString key ++ 0x3A :: text) =
      parseMembers r fuel depth (insertMember key v acc) (skipSpace after) := by
  obtain ⟨rest, quoted, scanned⟩ := scanString_appendString key (0x3A :: text)
  rw [quoted]
  simp only [parseMembers, scanned, skipSpace_cons (show isSpace 0x3A = false by decide), parsed,
    skipSpace_cons (show isSpace 0x2C = false by decide)]

theorem parseMembers_close (key : String) {text after : List UInt8} {v : Value Num}
    (acc : List (String × Value Num)) (parsed : parseValue r fuel depth text = .ok (v, 0x7D :: after)) :
    parseMembers r (fuel + 1) depth acc (appendString key ++ 0x3A :: text) =
      .ok (.object (insertMember key v acc), after) := by
  obtain ⟨rest, quoted, scanned⟩ := scanString_appendString key (0x3A :: text)
  rw [quoted]
  simp only [parseMembers, scanned, skipSpace_cons (show isSpace 0x3A = false by decide), parsed,
    skipSpace_cons (show isSpace 0x7D = false by decide)]

end

/-! ### The encoder's parts -/

theorem encodeItems_cons {v : GoValue} {vs : List GoValue} {parts : List (List UInt8)}
    (encoded : encodeItems (v :: vs) = .ok parts) :
    ∃ part rest, encodeValue v = .ok part ∧ encodeItems vs = .ok rest ∧ parts = part :: rest := by
  cases head : encodeValue v <;> cases tail : encodeItems vs <;> simp [encodeItems, head, tail] at encoded
  exact ⟨_, _, rfl, rfl, encoded.symm⟩

theorem encodeMembers_cons {key : String} {v : GoValue} {ms : List (String × GoValue)}
    {entries : List (String × List UInt8)} (encoded : encodeMembers ((key, v) :: ms) = .ok entries) :
    ∃ part rest, encodeValue v = .ok part ∧ encodeMembers ms = .ok rest ∧ entries = (key, part) :: rest := by
  cases head : encodeValue v <;> cases tail : encodeMembers ms <;> simp [encodeMembers, head, tail] at encoded
  exact ⟨_, _, rfl, rfl, encoded.symm⟩

theorem encodeMembers_keys : ∀ {ms : List (String × GoValue)} {entries : List (String × List UInt8)},
    encodeMembers ms = .ok entries → entries.map Prod.fst = ms.map Prod.fst
  | [], _, encoded => by cases encoded; rfl
  | (_, _) :: _, _, encoded => by
    obtain ⟨_, _, _, tail, rfl⟩ := encodeMembers_cons encoded
    simp [encodeMembers_keys tail]

/-- `json.Marshal` sorts map entries by key; a map kept sorted is written in its own order. -/
theorem sortEntries_of_sorted {ms : List (String × GoValue)} {entries : List (String × List UInt8)}
    (sorted : SortedKeys ms) (encoded : encodeMembers ms = .ok entries) : sortEntries entries = entries := by
  apply List.Sorted.insertionSort_eq
  have keys := encodeMembers_keys encoded
  unfold SortedKeys List.Sorted at sorted
  unfold List.Sorted
  rw [← List.pairwise_map (R := fun a b => keyLess a b = true)] at sorted ⊢
  rwa [keys]

theorem joinCommas_cons (part : List UInt8) {parts : List (List UInt8)} (more : parts ≠ []) :
    joinCommas (part :: parts) = part ++ 0x2C :: joinCommas parts := by
  cases parts with
  | nil => exact absurd rfl more
  | cons => rfl

/-- Every value's text starts with a byte that is not a space and closes nothing. -/
theorem encodeValue_head {v : GoValue} {bytes : List UInt8} (encoded : encodeValue v = .ok bytes) :
    ∃ b more, bytes = b :: more ∧ isSpace b = false ∧ b ≠ 0x5D := by
  cases v with
  | null => cases encoded; exact ⟨_, _, rfl, by decide, by decide⟩
  | bool b => cases b <;> cases encoded <;> exact ⟨_, _, rfl, by decide, by decide⟩
  | number f =>
    obtain ⟨d, scanned, -⟩ := floatBytes_scan encoded
      (show NumberEnd ([] : List UInt8) from fun _ none => by cases none)
    rw [List.append_nil] at scanned
    obtain ⟨b, more, rfl, start⟩ := scanNumber_head scanned
    obtain ⟨notSpace, -⟩ := not_special start
    refine ⟨b, more, rfl, notSpace, ?_⟩
    rcases start with rfl | digit
    · decide
    · rintro rfl; simp [isDigit] at digit
  | string s => cases encoded; exact ⟨_, _, rfl, by decide, by decide⟩
  | array items =>
    cases parts : encodeItems items <;> simp only [encodeValue, parts, Except.map] at encoded <;>
      cases encoded
    exact ⟨_, _, rfl, by decide, by decide⟩
  | object members =>
    cases entries : encodeMembers members <;> simp only [encodeValue, entries, Except.map] at encoded <;>
      cases encoded
    exact ⟨_, _, rfl, by decide, by decide⟩

/-- The byte after a value inside an array or a map, or at the end: none continues a number. -/
theorem numberEnd_cons {b : UInt8} (rest : List UInt8) (separator : b = 0x2C ∨ b = 0x5D ∨ b = 0x7D) :
    NumberEnd (b :: rest) := fun c head => by
  cases head
  rcases separator with rfl | rfl | rfl <;> decide

/-! ### The round trip -/

mutual
/-- The text `json.Marshal` writes for a well-formed value reads back as the value, whatever
follows that cannot continue a number, given fuel for the length of the text. -/
theorem parseValue_encodeValue : ∀ (v : GoValue) {depth fuel : Nat} {bytes rest : List UInt8},
    v.WellFormed depth → encodeValue v = .ok bytes → bytes.length < fuel → NumberEnd rest →
    parseValue goNumber fuel depth (bytes ++ rest) = .ok (v, rest)
  | .null, _, fuel, _, rest, _, encoded, enough, _ => by
    obtain ⟨f, rfl⟩ : ∃ f, fuel = f + 1 := ⟨fuel - 1, by omega⟩
    cases encoded
    exact parseValue_null _ rest
  | .bool true, _, fuel, _, rest, _, encoded, enough, _ => by
    obtain ⟨f, rfl⟩ : ∃ f, fuel = f + 1 := ⟨fuel - 1, by omega⟩
    cases encoded
    exact parseValue_true _ rest
  | .bool false, _, fuel, _, rest, _, encoded, enough, _ => by
    obtain ⟨f, rfl⟩ : ∃ f, fuel = f + 1 := ⟨fuel - 1, by omega⟩
    cases encoded
    exact parseValue_false _ rest
  | .number n, _, fuel, _, rest, _, encoded, enough, ends => by
    obtain ⟨f, rfl⟩ : ∃ f, fuel = f + 1 := ⟨fuel - 1, by omega⟩
    obtain ⟨d, scanned, reads⟩ := floatBytes_scan encoded ends
    rw [parseValue_number _ scanned]
    simp [goNumber, reads, Except.map]
  | .string s, _, fuel, _, rest, _, encoded, enough, _ => by
    obtain ⟨f, rfl⟩ : ∃ f, fuel = f + 1 := ⟨fuel - 1, by omega⟩
    cases encoded
    exact parseValue_string _ s rest
  | .array items, depth, fuel, bytes, rest, wf, encoded, enough, _ => by
    obtain ⟨f, rfl⟩ : ∃ f, fuel = f + 1 := ⟨fuel - 1, by omega⟩
    cases encodedItems : encodeItems items with
    | error => simp [encodeValue, encodedItems, Except.map] at encoded
    | ok parts =>
      simp only [encodeValue, encodedItems, Except.map, Except.ok.injEq] at encoded
      subst encoded
      simp only [List.length_cons, List.length_append, List.length_singleton] at enough
      simp only [List.cons_append, List.append_assoc, List.singleton_append]
      cases items with
      | nil =>
        cases encodedItems
        exact parseValue_emptyArray _ wf.1 rest
      | cons item items =>
        obtain ⟨part, others, first, -, rfl⟩ := encodeItems_cons encodedItems
        obtain ⟨b, more, rfl, notSpace, notClose⟩ := encodeValue_head first
        obtain ⟨tail, start⟩ : ∃ tail, joinCommas ((b :: more) :: others) = b :: tail := by
          cases others with
          | nil => exact ⟨more, rfl⟩
          | cons => exact ⟨_, rfl⟩
        rw [start, List.cons_append, parseValue_array _ wf.1 notSpace notClose, ← List.cons_append, ← start]
        exact parseElements_encodeItems (item :: items) wf.2 encodedItems (List.cons_ne_nil _ _) (by omega)
  | .object members, depth, fuel, bytes, rest, wf, encoded, enough, _ => by
    obtain ⟨f, rfl⟩ : ∃ f, fuel = f + 1 := ⟨fuel - 1, by omega⟩
    cases encodedMembers : encodeMembers members with
    | error => simp [encodeValue, encodedMembers, Except.map] at encoded
    | ok entries =>
      simp only [encodeValue, encodedMembers, Except.map, Except.ok.injEq] at encoded
      subst encoded
      rw [sortEntries_of_sorted wf.2.1 encodedMembers] at enough ⊢
      simp only [List.length_cons, List.length_append, List.length_singleton] at enough
      simp only [List.cons_append, List.append_assoc, List.singleton_append]
      cases members with
      | nil =>
        cases encodedMembers
        exact parseValue_emptyObject _ wf.1 rest
      | cons member members =>
        obtain ⟨key, v⟩ := member
        obtain ⟨part, others, -, -, rfl⟩ := encodeMembers_cons encodedMembers
        obtain ⟨tail, start⟩ : ∃ tail, joinCommas (((key, part) :: others).map
            fun e => appendString e.1 ++ 0x3A :: e.2) = 0x22 :: tail := by
          cases others with
          | nil => exact ⟨_, rfl⟩
          | cons => exact ⟨_, rfl⟩
        rw [start, List.cons_append, parseValue_object _ wf.1, ← List.cons_append, ← start]
        exact parseMembers_encodeMembers ((key, v) :: members) wf.2.1 wf.2.2 encodedMembers
          (List.cons_ne_nil _ _) (by omega)

theorem parseElements_encodeItems : ∀ (items : List GoValue) {depth fuel : Nat}
    {parts : List (List UInt8)} {acc : List GoValue} {rest : List UInt8},
    wellFormedItems depth items → encodeItems items = .ok parts → items ≠ [] →
    (joinCommas parts).length + 1 < fuel →
    parseElements goNumber fuel depth acc (joinCommas parts ++ 0x5D :: rest) =
      .ok (.array (acc ++ items), rest)
  | [], _, _, _, _, _, _, _, nonempty, _ => absurd rfl nonempty
  | [v], depth, fuel, parts, acc, rest, wf, encoded, _, enough => by
    obtain ⟨part, others, first, tail, rfl⟩ := encodeItems_cons encoded
    cases tail
    obtain ⟨f, rfl⟩ : ∃ f, fuel = f + 1 := ⟨fuel - 1, by omega⟩
    rw [show joinCommas [part] = part from rfl] at enough ⊢
    exact parseElements_close _ acc (parseValue_encodeValue v wf.1 first (by omega)
      (numberEnd_cons rest (.inr (.inl rfl))))
  | v :: w :: ws, depth, fuel, parts, acc, rest, wf, encoded, _, enough => by
    obtain ⟨part, others, first, tail, rfl⟩ := encodeItems_cons encoded
    obtain ⟨part', others', -, -, rfl⟩ := encodeItems_cons tail
    obtain ⟨f, rfl⟩ : ∃ f, fuel = f + 1 := ⟨fuel - 1, by omega⟩
    rw [joinCommas_cons _ (List.cons_ne_nil _ _)] at enough ⊢
    simp only [List.length_append, List.length_cons] at enough
    rw [List.append_assoc, List.cons_append,
      parseElements_comma _ acc (parseValue_encodeValue v wf.1 first (by omega)
        (numberEnd_cons _ (.inl rfl))),
      parseElements_encodeItems (w :: ws) wf.2 tail (List.cons_ne_nil _ _) (by omega), List.append_assoc]
    rfl

theorem parseMembers_encodeMembers : ∀ (members : List (String × GoValue)) {depth fuel : Nat}
    {entries : List (String × List UInt8)} {acc : List (String × GoValue)} {rest : List UInt8},
    SortedKeys (acc ++ members) → wellFormedMembers depth members → encodeMembers members = .ok entries →
    members ≠ [] →
    (joinCommas (entries.map fun e => appendString e.1 ++ 0x3A :: e.2)).length + 1 < fuel →
    parseMembers goNumber fuel depth acc
        (joinCommas (entries.map fun e => appendString e.1 ++ 0x3A :: e.2) ++ 0x7D :: rest) =
      .ok (.object (acc ++ members), rest)
  | [], _, _, _, _, _, _, _, _, nonempty, _ => absurd rfl nonempty
  | [(key, v)], depth, fuel, entries, acc, rest, sorted, wf, encoded, _, enough => by
    obtain ⟨part, others, first, tail, rfl⟩ := encodeMembers_cons encoded
    cases tail
    obtain ⟨f, rfl⟩ : ∃ f, fuel = f + 1 := ⟨fuel - 1, by omega⟩
    have below : ∀ m ∈ acc, keyLess m.1 key := fun m member =>
      (List.pairwise_append.mp sorted).2.2 m member (key, v) (List.mem_singleton_self _)
    simp only [List.map_cons, List.map_nil] at enough ⊢
    rw [show joinCommas [appendString key ++ 0x3A :: part] = appendString key ++ 0x3A :: part from rfl]
      at enough ⊢
    simp only [List.length_append, List.length_cons] at enough
    rw [List.append_assoc, List.cons_append, parseMembers_close _ key acc
      (parseValue_encodeValue v wf.1 first (by omega) (numberEnd_cons rest (.inr (.inr rfl)))),
      insertMember_of_lt below]
  | (key, v) :: (key', v') :: ms, depth, fuel, entries, acc, rest, sorted, wf, encoded, _, enough => by
    obtain ⟨part, others, first, tail, rfl⟩ := encodeMembers_cons encoded
    obtain ⟨part', others', -, -, rfl⟩ := encodeMembers_cons tail
    obtain ⟨f, rfl⟩ : ∃ f, fuel = f + 1 := ⟨fuel - 1, by omega⟩
    have below : ∀ m ∈ acc, keyLess m.1 key := fun m member =>
      (List.pairwise_append.mp sorted).2.2 m member (key, v) (List.mem_cons_self _ _)
    have sorted' : SortedKeys ((acc ++ [(key, v)]) ++ (key', v') :: ms) := by simpa using sorted
    rw [List.map_cons, joinCommas_cons _ (by simp)] at enough ⊢
    simp only [List.length_append, List.length_cons] at enough
    obtain ⟨tail', start⟩ : ∃ tail', joinCommas (((key', part') :: others').map
        fun e => appendString e.1 ++ 0x3A :: e.2) = 0x22 :: tail' := by
      cases others' with
      | nil => exact ⟨_, rfl⟩
      | cons => exact ⟨_, rfl⟩
    rw [List.append_assoc, List.append_assoc, List.cons_append, List.cons_append,
      parseMembers_comma _ key acc (parseValue_encodeValue v wf.1 first (by omega)
        (numberEnd_cons _ (.inl rfl))),
      insertMember_of_lt below, start, List.cons_append, skipSpace_cons (by decide),
      ← List.cons_append, ← start,
      parseMembers_encodeMembers ((key', v') :: ms) sorted' wf.2 tail (List.cons_ne_nil _ _) (by omega)]
    simp
end

/-- `json.Unmarshal` of what `json.Marshal` wrote for a well-formed map gives the map back. -/
theorem unmarshal_marshal {members : List (String × GoValue)} (wf : (Value.object members).WellFormed 0)
    {bytes : List UInt8} (encoded : marshal members = .ok bytes) : unmarshal bytes = .ok (some members) := by
  have parsed := parseValue_encodeValue (.object members) wf encoded
    (show bytes.length < 2 * bytes.length + 2 by omega) (show NumberEnd [] from fun _ none => by cases none)
  rw [List.append_nil] at parsed
  simp [unmarshal, parseText, parsed, skipSpace]

/-! ### `json.Marshal` does not fail on what `json.Unmarshal` decoded -/

mutual
theorem encodeValue_ok : ∀ (v : GoValue) {depth : Nat}, v.WellFormed depth → ∃ bytes, encodeValue v = .ok bytes
  | .null, _, _ => ⟨_, rfl⟩
  | .bool true, _, _ => ⟨_, rfl⟩
  | .bool false, _, _ => ⟨_, rfl⟩
  | .number f, _, finite => by
    unfold encodeValue floatBytes
    rw [if_neg (not_not.mpr (show f.IsFinite from finite))]
    dsimp only
    split <;> exact ⟨_, rfl⟩
  | .string _, _, _ => ⟨_, rfl⟩
  | .array items, _, wf => by
    obtain ⟨parts, encoded⟩ := encodeItems_ok items wf.2
    simp [encodeValue, encoded, Except.map]
  | .object members, _, wf => by
    obtain ⟨entries, encoded⟩ := encodeMembers_ok members wf.2.2
    simp [encodeValue, encoded, Except.map]

theorem encodeItems_ok : ∀ (items : List GoValue) {depth : Nat}, wellFormedItems depth items →
    ∃ parts, encodeItems items = .ok parts
  | [], _, _ => ⟨_, rfl⟩
  | v :: vs, _, wf => by
    obtain ⟨part, head⟩ := encodeValue_ok v wf.1
    obtain ⟨parts, tail⟩ := encodeItems_ok vs wf.2
    simp [encodeItems, head, tail]

theorem encodeMembers_ok : ∀ (members : List (String × GoValue)) {depth : Nat},
    wellFormedMembers depth members → ∃ entries, encodeMembers members = .ok entries
  | [], _, _ => ⟨_, rfl⟩
  | (_, v) :: ms, _, wf => by
    obtain ⟨part, head⟩ := encodeValue_ok v wf.1
    obtain ⟨entries, tail⟩ := encodeMembers_ok ms wf.2
    simp [encodeMembers, head, tail]
end

/-- What `Responses` does with a body, decode then encode then decode, is lossless on the map:
every map `json.Unmarshal` returns is marshalled without error, and `json.Unmarshal` reads the
text back as the same map. -/
theorem decoded_map_round_trip {data : List UInt8} {members : List (String × GoValue)}
    (decoded : unmarshal data = .ok (some members)) :
    ∃ bytes, marshal members = .ok bytes ∧ unmarshal bytes = .ok (some members) :=
  have wf := unmarshal_wellFormed decoded
  have ⟨bytes, encoded⟩ := encodeValue_ok _ wf
  ⟨bytes, encoded, unmarshal_marshal wf encoded⟩

/-- A request body with a nested array of objects, escaped quotes, a newline and a `\u` escape,
a `<` that marshalling escapes again, and numbers written as a decimal and with an exponent. -/
def richBody : List UInt8 :=
  encodeString ("\x7b\"model\":\"m\",\"input\":[\x7b\"role\":\"user\",\"content\":" ++
    "\"say \\\"hi\\\"\\n\\u00e9<\"\x7d],\"temperature\":0.7,\"max_output_tokens\":1e3,\"stream\":true\x7d")

set_option maxRecDepth 4000 in
theorem richBody_round_trip :
    ∃ members, unmarshal richBody = .ok (some members) ∧
      ∃ bytes, marshal members = .ok bytes ∧ unmarshal bytes = .ok (some members) :=
  ⟨_, rfl, @decoded_map_round_trip richBody _ rfl⟩

end Sub2api.Json
