import AlertRouting.Json.Reader
import AlertRouting.Proofs.Json.Spelling

/-!
# The texts of a value

A value has one sequence of tokens, and every text that spells them is read as that value. The only
limit is on how deep arrays and objects are nested.
-/
namespace AlertRouting.Json

mutual

def tokens : Json → List Token
  | null => [.null]
  | bool b => [.bool b]
  | number text => [.number text]
  | string s => [.string s]
  | array items => .openArray :: (List.intercalate [.comma] (itemTokens items) ++ [.closeArray])
  | object fields =>
    .openObject :: (List.intercalate [.comma] (fieldTokens fields) ++ [.closeObject])

def itemTokens : List Json → List (List Token)
  | [] => []
  | j :: rest => j.tokens :: itemTokens rest

def fieldTokens : List (String × Json) → List (List Token)
  | [] => []
  | (name, j) :: rest => (.string name :: .colon :: j.tokens) :: fieldTokens rest

end

mutual

def nesting : Json → ℕ
  | array items => itemNesting items + 1
  | object fields => fieldNesting fields + 1
  | _ => 0

def itemNesting : List Json → ℕ
  | [] => 0
  | j :: rest => max j.nesting (itemNesting rest)

def fieldNesting : List (String × Json) → ℕ
  | [] => 0
  | (_, j) :: rest => max j.nesting (fieldNesting rest)

end

def SpelledAs (j : Json) (text : String) : Prop := SpelledTokens j.tokens text.toList

theorem intercalate_comma_cons (ts : List Token) (rest : List (List Token)) :
    List.intercalate [.comma] (ts :: rest) = ts ++ rest.flatMap (.comma :: ·) := by
  induction rest generalizing ts with
  | nil => simp
  | cons us rest ih =>
    rw [List.intercalate_cons_cons, ih, List.flatMap_cons]
    simp

namespace State

/-- The first item of an array is read like any other value. -/
theorem run?_firstItem (j : Json) (frames : List Frame) (ts : List Token) :
    run? ⟨frames, .firstItem⟩ (j.tokens ++ ts) =
      run? ⟨.array [] :: frames, .value⟩ (j.tokens ++ ts) := by
  cases j with
  | null => rfl
  | bool => rfl
  | number => rfl
  | string => rfl
  | array => rfl
  | object => rfl

/-- Of several values the one that is nested deepest decides. -/
private theorem ite_max (n a b : ℕ) (s : Option State) :
    (if n + max a b ≤ maxNesting then s else none) =
      if n + a ≤ maxNesting then if n + b ≤ maxNesting then s else none else none := by
  have hmax : n + max a b ≤ maxNesting ↔ n + a ≤ maxNesting ∧ n + b ≤ maxNesting := by omega
  rw [if_congr hmax rfl rfl, ite_and]

mutual

/-- A value is read from its tokens, unless it is nested too deep. -/
theorem run?_tokens (j : Json) (frames : List Frame) (ts : List Token)
    (h : frames.length ≤ maxNesting) :
    run? ⟨frames, .value⟩ (j.tokens ++ ts) =
      if frames.length + j.nesting ≤ maxNesting then run? (put j frames) ts else none := by
  match j with
  | .null => simp [tokens, nesting, run?, step?, start?, h]
  | .bool b => simp [tokens, nesting, run?, step?, start?, h]
  | .number text => simp [tokens, nesting, run?, step?, start?, h]
  | .string s => simp [tokens, nesting, run?, step?, start?, h]
  | .array items =>
    have hdepth : frames.length + (itemNesting items + 1) = frames.length + 1 + itemNesting items :=
      by omega
    rw [tokens, nesting, List.cons_append, List.append_assoc, run?, hdepth]
    by_cases hopen : frames.length < maxNesting
    · have hstart : step? ⟨frames, .value⟩ .openArray = some ⟨frames, .firstItem⟩ := if_pos hopen
      rw [hstart]
      exact run?_items items frames ts hopen
    · have hstart : step? ⟨frames, .value⟩ .openArray = none := if_neg hopen
      rw [hstart, if_neg (by omega), Option.bind_none]
  | .object fields =>
    have hdepth :
        frames.length + (fieldNesting fields + 1) = frames.length + 1 + fieldNesting fields := by
      omega
    rw [tokens, nesting, List.cons_append, List.append_assoc, run?, hdepth]
    by_cases hopen : frames.length < maxNesting
    · have hstart : step? ⟨frames, .value⟩ .openObject = some ⟨frames, .firstName⟩ := if_pos hopen
      rw [hstart]
      exact run?_fields fields frames ts hopen
    · have hstart : step? ⟨frames, .value⟩ .openObject = none := if_neg hopen
      rw [hstart, if_neg (by omega), Option.bind_none]

theorem run?_items (items : List Json) (frames : List Frame) (ts : List Token)
    (h : frames.length < maxNesting) :
    run? ⟨frames, .firstItem⟩ (List.intercalate [.comma] (itemTokens items) ++ .closeArray :: ts) =
      if frames.length + 1 + itemNesting items ≤ maxNesting then
        run? (put (.array items) frames) ts else none := by
  match items with
  | [] => simp [itemTokens, itemNesting, run?, step?, Nat.succ_le_of_lt h]
  | j :: more =>
    rw [itemTokens, intercalate_comma_cons, List.append_assoc, run?_firstItem,
      run?_tokens j (.array [] :: frames) _ h, put, run?_laterItems more [j] frames ts h,
      itemNesting, ite_max]
    rfl

/-- What was read of the array is kept in reverse until it is closed. -/
theorem run?_laterItems (more items : List Json) (frames : List Frame) (ts : List Token)
    (h : frames.length < maxNesting) :
    run? ⟨frames, .afterItem items⟩ ((itemTokens more).flatMap (.comma :: ·) ++ .closeArray :: ts) =
      if frames.length + 1 + itemNesting more ≤ maxNesting then
        run? (put (.array (items.reverse ++ more)) frames) ts else none := by
  match more with
  | [] => simp [itemTokens, itemNesting, run?, step?, Nat.succ_le_of_lt h]
  | j :: more =>
    have hcomma : step? ⟨frames, .afterItem items⟩ .comma = some ⟨.array items :: frames, .value⟩ :=
      rfl
    rw [itemTokens, List.flatMap_cons, List.append_assoc, List.cons_append, run?, hcomma,
      Option.bind_some, run?_tokens j (.array items :: frames) _ h, put,
      run?_laterItems more (j :: items) frames ts h, itemNesting, ite_max, List.reverse_cons,
      List.append_assoc]
    rfl

theorem run?_fields (fields : List (String × Json)) (frames : List Frame) (ts : List Token)
    (h : frames.length < maxNesting) :
    run? ⟨frames, .firstName⟩
        (List.intercalate [.comma] (fieldTokens fields) ++ .closeObject :: ts) =
      if frames.length + 1 + fieldNesting fields ≤ maxNesting then
        run? (put (.object fields) frames) ts else none := by
  match fields with
  | [] => simp [fieldTokens, fieldNesting, run?, step?, Nat.succ_le_of_lt h]
  | (name, j) :: more =>
    have hname (us : List Token) : run? ⟨frames, .firstName⟩ (.string name :: .colon :: us) =
        run? ⟨.object [] name :: frames, .value⟩ us := rfl
    rw [fieldTokens, intercalate_comma_cons, List.append_assoc, List.cons_append, List.cons_append,
      hname, run?_tokens j (.object [] name :: frames) _ h, put,
      run?_laterFields more [(name, j)] frames ts h, fieldNesting, ite_max]
    rfl

theorem run?_laterFields (more fields : List (String × Json)) (frames : List Frame)
    (ts : List Token) (h : frames.length < maxNesting) :
    run? ⟨frames, .afterField fields⟩
        ((fieldTokens more).flatMap (.comma :: ·) ++ .closeObject :: ts) =
      if frames.length + 1 + fieldNesting more ≤ maxNesting then
        run? (put (.object (fields.reverse ++ more)) frames) ts else none := by
  match more with
  | [] => simp [fieldTokens, fieldNesting, run?, step?, Nat.succ_le_of_lt h]
  | (name, j) :: more =>
    have hname (us : List Token) :
        run? ⟨frames, .afterField fields⟩ (.comma :: .string name :: .colon :: us) =
          run? ⟨.object fields name :: frames, .value⟩ us := rfl
    rw [fieldTokens, List.flatMap_cons, List.append_assoc, List.cons_append, List.cons_append,
      List.cons_append, hname, run?_tokens j (.object fields name :: frames) _ h, put,
      run?_laterFields more ((name, j) :: fields) frames ts h, fieldNesting, ite_max,
      List.reverse_cons, List.append_assoc]
    rfl

end

end State

/-! ## Texts -/

/-- May the second token stand next to the first without white space? -/
def Adjoins (t u : Token) : Prop := t.isBare → u.isBare = false

theorem adjoins_left {t : Token} (h : t.isBare = false) (u : Token) : Adjoins t u := by
  simp [Adjoins, h]

theorem adjoins_right (t : Token) {u : Token} (h : u.isBare = false) : Adjoins t u := fun _ => h

theorem isChain_append_cons {ts us : List Token} {u : Token} (hu : u.isBare = false)
    (hts : ts.IsChain Adjoins) (hus : us.IsChain Adjoins) : (ts ++ u :: us).IsChain Adjoins := by
  have hcons : (u :: us).IsChain Adjoins :=
    List.isChain_cons.mpr ⟨fun v _ => adjoins_left hu v, hus⟩
  refine List.isChain_append.mpr ⟨hts, hcons, fun t _ v hv => ?_⟩
  cases hv
  exact adjoins_right t hu

theorem isChain_intercalate {parts : List (List Token)} (h : ∀ ts ∈ parts, ts.IsChain Adjoins) :
    (List.intercalate [.comma] parts).IsChain Adjoins := by
  induction parts with
  | nil => exact .nil
  | cons ts rest ih =>
    obtain ⟨hts, hrest⟩ := List.forall_mem_cons.mp h
    cases rest with
    | nil => simpa using hts
    | cons us rest =>
      rw [List.intercalate_cons_cons, List.append_assoc]
      exact isChain_append_cons rfl hts (ih hrest)

mutual

theorem isChain_tokens (j : Json) : j.tokens.IsChain Adjoins := by
  match j with
  | .null => exact .singleton _
  | .bool b => exact .singleton _
  | .number text => exact .singleton _
  | .string s => exact .singleton _
  | .array items =>
    have hitems := isChain_intercalate (isChain_itemTokens items)
    exact isChain_append_cons rfl .nil (isChain_append_cons rfl hitems .nil)
  | .object fields =>
    have hfields := isChain_intercalate (isChain_fieldTokens fields)
    exact isChain_append_cons rfl .nil (isChain_append_cons rfl hfields .nil)

theorem isChain_itemTokens (items : List Json) : ∀ ts ∈ itemTokens items, ts.IsChain Adjoins := by
  match items with
  | [] => simp [itemTokens]
  | j :: rest => exact List.forall_mem_cons.mpr ⟨isChain_tokens j, isChain_itemTokens rest⟩

theorem isChain_fieldTokens (fields : List (String × Json)) :
    ∀ ts ∈ fieldTokens fields, ts.IsChain Adjoins := by
  match fields with
  | [] => simp [fieldTokens]
  | (name, j) :: rest =>
    have hname : [Token.string name].IsChain Adjoins := .singleton _
    have hj : (.string name :: .colon :: j.tokens).IsChain Adjoins :=
      isChain_append_cons rfl hname (isChain_tokens j)
    exact List.forall_mem_cons.mpr ⟨hj, isChain_fieldTokens rest⟩

end

/-- Every text of a value is read as the value, unless it is nested too deep. -/
theorem parse?_of_spelled {j : Json} {text : String} (h : j.SpelledAs text) :
    parse? text = if j.nesting ≤ maxNesting then some j else none := by
  have htokens : tokens? text.toList = some j.tokens := tokens?_of_spelled h (isChain_tokens j)
  have hrun := State.run?_tokens j [] [] (Nat.zero_le _)
  rw [List.append_nil, List.length_nil, Nat.zero_add] at hrun
  simp only [parse?, htokens, Option.bind_eq_bind, Option.bind_some, hrun]
  split
  · rfl
  · rfl

end AlertRouting.Json
