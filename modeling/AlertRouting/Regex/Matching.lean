import AlertRouting.Regex.Expr

/-!
# Matching

A match of an expression in a text is a pair of positions. `Expr.Matches` says which pairs match;
`Expr.ends` computes, for a set of positions at which a match may start, the positions at which one
may end. Sets of positions are the bits of a number, so one step moves all of them at once.
-/
namespace AlertRouting.Regex

def charBefore (text : Array Char) (i : Nat) : Option Char :=
  if i = 0 then none else text[i - 1]?

def Chain (r : Nat → Nat → Prop) : Nat → Nat → Nat → Prop
  | 0, i, j => i = j
  | n + 1, i, j => ∃ k, r i k ∧ Chain r n k j

def Expr.Matches (text : Array Char) : Expr → Nat → Nat → Prop
  | empty, i, j => i = j ∧ i ≤ text.size
  | chars s _, i, j => j = i + 1 ∧ text[i]?.any s.contains = true
  | look l, i, j => i = j ∧ i ≤ text.size ∧ l.holds (charBefore text i) text[i]? = true
  | group _ e, i, j => e.Matches text i j
  | cat a b, i, j => ∃ k, a.Matches text i k ∧ b.Matches text k j
  | alt a b, i, j => a.Matches text i j ∨ b.Matches text i j
  | repeated e least most, i, j =>
    ∃ n, least ≤ n ∧ (∀ m, most = some m → n ≤ m) ∧ i ≤ text.size ∧ Chain (e.Matches text) n i j

def bits (p : Nat → Bool) : Nat → Nat
  | 0 => 0
  | n + 1 => if p n then bits p n ||| 1 <<< n else bits p n

/-- An expression on one text: every set and assertion is replaced by the positions where it holds. -/
inductive Sweep
  | pass (at_ : Nat)
  | take (at_ : Nat)
  | seq (a b : Sweep)
  | either (a b : Sweep)
  /-- `least` rounds, then up to `more`. -/
  | rounds (s : Sweep) (least more : Nat)

/-- `n` rounds; the search ends early when a round changes nothing. -/
def power (f : Nat → Nat) : Nat → Nat → Nat
  | 0, s => s
  | n + 1, s => let t := f s; if t = s then s else power f n t

/-- What up to `n` rounds from the frontier add to the positions seen. Only positions that are new in
a round are followed in the next. -/
def spread (f : Nat → Nat) : Nat → Nat → Nat → Nat
  | 0, seen, _ => seen
  | n + 1, seen, frontier =>
    let all := seen ||| f frontier
    if all = seen then seen else spread f n all (all ^^^ seen)

def Sweep.ends : Sweep → Nat → Nat
  | pass at_, s => s &&& at_
  | take at_, s => (s &&& at_) <<< 1
  | seq a b, s => b.ends (a.ends s)
  | either a b, s => a.ends s ||| b.ends s
  | rounds t least more, s =>
    let s := power t.ends least s
    spread t.ends more s s

def positions (text : Array Char) : Nat := bits (fun _ => true) (text.size + 1)

def positionsIn (text : Array Char) (s : CharSet) : Nat :=
  bits (fun i => text[i]?.any s.contains) text.size

/-- The sets of characters in an expression, each once, after those that are known. -/
def Expr.sets (known : List CharSet) : Expr → List CharSet
  | empty | look _ => known
  | chars s _ => if known.contains s then known else s :: known
  | group _ e | repeated e _ _ => e.sets known
  | cat a b | alt a b => b.sets (a.sets known)

def index (text : Array Char) (sets : List CharSet) : List (CharSet × Nat) :=
  sets.map fun s => (s, positionsIn text s)

theorem lookup_index {text : Array Char} {sets : List CharSet} {s : CharSet} {n : Nat}
    (h : (index text sets).lookup s = some n) : n = positionsIn text s := by
  induction sets with
  | nil => simp [index] at h
  | cons t rest ih =>
    rw [index, List.map_cons, List.lookup_cons] at h
    split at h
    · next heq => rw [← Option.some.inj h, eq_of_beq heq]
    · exact ih h

/-- The positions of the characters in a set, as far as possible from an index of the text. -/
def find (text : Array Char) (known : List (CharSet × Nat)) (s : CharSet) : Nat :=
  (known.lookup s).getD (positionsIn text s)

theorem find_index (text : Array Char) (sets : List CharSet) (s : CharSet) :
    find text (index text sets) s = positionsIn text s := by
  unfold find
  cases h : (index text sets).lookup s with
  | none => rfl
  | some n => exact lookup_index h

/-- The expression on a text. Unbounded repetition needs no more rounds than there are positions. -/
def Expr.on (text : Array Char) (known : List (CharSet × Nat)) : Expr → Sweep
  | empty => .pass (positions text)
  | chars s _ => .take (find text known s)
  | look l => .pass (bits (fun i => l.holds (charBefore text i) text[i]?) (text.size + 1))
  | group _ e => e.on text known
  | cat a b => .seq (a.on text known) (b.on text known)
  | alt a b => .either (a.on text known) (b.on text known)
  | repeated e least most =>
    match most with
    | none => .rounds (e.on text known) least (text.size + 1)
    | some m => if least ≤ m then .rounds (e.on text known) least (m - least) else .pass 0

/-- Is there a match anywhere in the text? -/
def Expr.isMatch (e : Expr) (text : String) : Bool :=
  let text := text.toList.toArray
  (e.on text (index text (e.sets []))).ends (positions text) != 0

end AlertRouting.Regex
