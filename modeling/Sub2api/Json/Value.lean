import Sub2api.Json.Float64
import Mathlib.Data.List.Sort

/-! Values of Go's `any` as `encoding/json` decodes JSON into it: `nil`, `bool`, a number,
`string`, `[]any` and `map[string]any`. The number type is a parameter: Go reads numbers as
`float64`, and reading them as exact rationals gives the JSON value the text itself denotes.
A map is kept as its members sorted by key, one per key, so that two maps are equal exactly
when they have the same entries. -/

namespace Sub2api.Json

inductive Value (Num : Type) where
  | null
  | bool (b : Bool)
  | number (n : Num)
  | string (s : String)
  | array (items : List (Value Num))
  | object (members : List (String × Value Num))
  deriving Repr

/-- A value of `any` as Go decodes it. -/
abbrev GoValue := Value Float64

/-- Go's `<` on strings compares bytes; on UTF-8 text that is the order of the code points,
one character at a time. -/
def codePointsLess : List Char → List Char → Bool
  | _, [] => false
  | [], _ :: _ => true
  | a :: as, b :: bs =>
    if a.toNat < b.toNat then true else if a = b then codePointsLess as bs else false

/-- The order Go sorts map keys in. -/
def keyLess (a b : String) : Bool := codePointsLess a.data b.data

variable {Num : Type}

/-- `m[key] = value` on a map kept sorted by key: a new key goes in its place, an old one has its
value replaced. -/
def insertMember (key : String) (value : Value Num) :
    List (String × Value Num) → List (String × Value Num)
  | [] => [(key, value)]
  | (k, v) :: rest =>
    if keyLess key k then (key, value) :: (k, v) :: rest
    else if key = k then (key, value) :: rest
    else (k, v) :: insertMember key value rest

/-- `m[key]` with the comma-ok form: the value stored under `key`, if any. -/
def lookupMember (key : String) : List (String × Value Num) → Option (Value Num)
  | [] => none
  | (k, v) :: rest => if key = k then some v else lookupMember key rest

/-- Keys strictly increasing: the members of one map, each key once. -/
def SortedKeys (members : List (String × Value Num)) : Prop :=
  members.Sorted (fun a b => keyLess a.1 b.1)

mutual
/-- Every map inside the value is kept sorted by key. -/
def Value.Canonical : Value Num → Prop
  | .array items => canonicalItems items
  | .object members => SortedKeys members ∧ canonicalMembers members
  | _ => True

def canonicalItems : List (Value Num) → Prop
  | [] => True
  | v :: vs => v.Canonical ∧ canonicalItems vs

def canonicalMembers : List (String × Value Num) → Prop
  | [] => True
  | (_, v) :: ms => v.Canonical ∧ canonicalMembers ms
end

/-! ### The key order -/

theorem codePointsLess_irrefl : ∀ a : List Char, codePointsLess a a = false
  | [] => rfl
  | c :: cs => by simp [codePointsLess, codePointsLess_irrefl cs]

theorem codePointsLess_trans :
    ∀ {a b c : List Char}, codePointsLess a b → codePointsLess b c → codePointsLess a c
  | _, [], _, ab, _ => by simp [codePointsLess] at ab
  | _, _, [], _, bc => by simp [codePointsLess] at bc
  | [], _ :: _, _ :: _, _, _ => rfl
  | x :: xs, y :: ys, z :: zs, ab, bc => by
    unfold codePointsLess at *
    by_cases xy : x.toNat < y.toNat
    · have : x.toNat < z.toNat := by
        split at bc
        · omega
        · split at bc
          · subst_vars; exact xy
          · simp at bc
      simp [this]
    · rw [if_neg xy] at ab
      split at ab
      · subst_vars
        by_cases yz : y.toNat < z.toNat
        · simp [yz]
        · rw [if_neg yz] at bc
          split at bc
          · subst_vars; simp [codePointsLess_trans ab bc]
          · simp at bc
      · simp at ab

theorem codePointsLess_total :
    ∀ {a b : List Char}, a ≠ b → codePointsLess a b ∨ codePointsLess b a
  | [], [], different => absurd rfl different
  | [], _ :: _, _ => .inl rfl
  | _ :: _, [], _ => .inr rfl
  | x :: xs, y :: ys, different => by
    unfold codePointsLess
    by_cases same : x = y
    · subst same
      have : xs ≠ ys := fun e => different (e ▸ rfl)
      simpa using codePointsLess_total this
    · have : x.toNat ≠ y.toNat := fun e => same (Char.ext (UInt32.eq_of_val_eq (Fin.ext e)))
      rcases Nat.lt_or_gt_of_ne this with lt | gt
      · simp [lt]
      · simp [gt]

theorem keyLess_irrefl (a : String) : keyLess a a = false := codePointsLess_irrefl a.data

theorem keyLess_trans {a b c : String} (ab : keyLess a b) (bc : keyLess b c) : keyLess a c :=
  codePointsLess_trans ab bc

theorem keyLess_total {a b : String} (different : a ≠ b) : keyLess a b ∨ keyLess b a :=
  codePointsLess_total fun same => different (String.ext same)

theorem keyLess_asymm {a b : String} (ab : keyLess a b) : keyLess b a = false := by
  cases ba : keyLess b a
  · rfl
  · have := keyLess_trans ab ba; rw [keyLess_irrefl] at this; contradiction

/-! ### Inserting into a sorted map -/

theorem mem_keys_insertMember {key k : String} {value : Value Num} :
    ∀ {members : List (String × Value Num)},
      k ∈ (insertMember key value members).map Prod.fst → k = key ∨ k ∈ members.map Prod.fst
  | [] => by simp [insertMember]
  | (k', v') :: rest => by
    unfold insertMember
    split
    · simp only [List.map_cons, List.mem_cons]; tauto
    split
    · simp only [List.map_cons, List.mem_cons]; tauto
    · simp only [List.map_cons, List.mem_cons]
      intro member
      rcases member with same | later
      · exact .inr (.inl same)
      · rcases mem_keys_insertMember later with fresh | old
        · exact .inl fresh
        · exact .inr (.inr old)

theorem sortedKeys_insertMember {key : String} {value : Value Num} :
    ∀ {members : List (String × Value Num)}, SortedKeys members →
      SortedKeys (insertMember key value members)
  | [], _ => List.sorted_singleton _
  | (k, v) :: rest, sorted => by
    unfold SortedKeys at *
    have tail := sorted.of_cons
    have heads := List.rel_of_sorted_cons sorted
    unfold insertMember
    split
    · rename_i lt
      refine List.sorted_cons.mpr ⟨?_, sorted⟩
      intro b member
      rcases List.mem_cons.mp member with rfl | later
      · exact lt
      · exact keyLess_trans lt (heads b later)
    split
    · rename_i _ same
      subst same
      exact List.sorted_cons.mpr ⟨heads, tail⟩
    · rename_i notLt notSame
      refine List.sorted_cons.mpr ⟨?_, sortedKeys_insertMember tail⟩
      intro b member
      have member' : b.1 ∈ (insertMember key value rest).map Prod.fst := List.mem_map_of_mem _ member
      rcases mem_keys_insertMember member' with fresh | old
      · rw [fresh]
        rcases keyLess_total (Ne.symm notSame) with lt | gt
        · exact lt
        · simp_all
      · obtain ⟨c, cMember, same⟩ := List.mem_map.mp old
        rw [← same]; exact heads c cMember

theorem canonicalMembers_insertMember {key : String} {value : Value Num}
    (canonical : value.Canonical) :
    ∀ {members : List (String × Value Num)}, canonicalMembers members →
      canonicalMembers (insertMember key value members)
  | [], _ => by simp [insertMember, canonicalMembers, canonical]
  | (k, v) :: rest, all => by
    unfold canonicalMembers at all
    unfold insertMember
    split
    · exact ⟨canonical, all⟩
    split
    · exact ⟨canonical, all.2⟩
    · exact ⟨all.1, canonicalMembers_insertMember canonical all.2⟩

/-- Storing a canonical value keeps a canonical map canonical. -/
theorem Value.Canonical.insertMember {members : List (String × Value Num)} {key : String}
    {value : Value Num} (map : (Value.object members).Canonical) (canonical : value.Canonical) :
    (Value.object (Sub2api.Json.insertMember key value members)).Canonical := by
  unfold Value.Canonical at map ⊢
  exact ⟨sortedKeys_insertMember map.1, canonicalMembers_insertMember canonical map.2⟩

/-- A key greater than every key of the map goes at the end. -/
theorem insertMember_of_lt {key : String} {value : Value Num} :
    ∀ {members : List (String × Value Num)}, (∀ m ∈ members, keyLess m.1 key) →
      insertMember key value members = members ++ [(key, value)]
  | [], _ => rfl
  | (k, v) :: rest, below => by
    have lt : keyLess k key := below (k, v) (List.mem_cons_self _ _)
    unfold insertMember
    have different : key ≠ k := fun same => by rw [same, keyLess_irrefl] at lt; contradiction
    rw [if_neg (by rw [keyLess_asymm lt]; decide), if_neg different,
      insertMember_of_lt fun m member => below m (List.mem_cons_of_mem _ member)]
    rfl

/-- Reading a key after `m[key] = value`: the value stored for that key, the old map's for any
other. -/
theorem lookupMember_insertMember (key k : String) (value : Value Num) :
    ∀ members : List (String × Value Num),
      lookupMember key (insertMember k value members) =
        if key = k then some value else lookupMember key members
  | [] => rfl
  | (k', v') :: rest => by
    unfold insertMember
    by_cases before : keyLess k k' = true
    · rw [if_pos before]; rfl
    rw [if_neg before]
    by_cases same : k = k'
    · subst same
      rw [if_pos rfl]
      by_cases hit : key = k <;> simp [lookupMember, hit]
    · rw [if_neg same]
      by_cases hit : key = k'
      · subst hit; simp [lookupMember, Ne.symm same]
      · simp only [lookupMember, if_neg hit, lookupMember_insertMember key k value rest]

end Sub2api.Json
