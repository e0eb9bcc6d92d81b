import AlertRouting.Proofs.Regex.EscapeLocality
import AlertRouting.Proofs.Regex.NameLocality

/-!
# Bracketed classes do not look past a closing parenthesis

A class that is closed is read in the same way whatever comes after it. A part of one is local as
long as something is left, since a class has to be closed.
-/
namespace AlertRouting.Regex

open LocalIf

variable (f : Flags)

/-- A reader of a part of a class, which leaves at least the closing bracket. -/
abbrev LocalInside {β : Type} (g : List Char → Option (β × List Char)) : Prop :=
  LocalIf (fun _ rest => rest ≠ []) g

theorem local_leadingHyphens (u : Items) :
    Local fun cs => some (BracketState.leadingHyphens f u cs) :=
  (span f _).map fun hyphens => hyphens.foldl (fun u _ => u.add [(0x2d, 0x2d)] 0) u

def openFrom? (frames : List BracketFrame) (u : Items) (cs : List Char) :
    Option (BracketState × List Char) :=
  match cs with
  | [] => none
  | ']' :: rest =>
    if u.count = 0 then
      match f.skip rest with
      | [] => none
      | rest => some (⟨frames, u.add [(0x5d, 0x5d)] 0⟩, rest)
    else some (⟨frames, u⟩, cs)
  | cs => some (⟨frames, u⟩, cs)

theorem localInside_openFrom? (frames : List BracketFrame) (u : Items) :
    LocalInside (openFrom? f frames u) := by
  have hplain : LocalInside fun cs =>
      if cs = [] then none else some ((⟨frames, u⟩ : BracketState), cs) := nonempty _
  by_cases hu : u.count = 0
  · apply head (c := ']') (by decide) (fun _ => rfl) _ _ hplain
    · intro cs h
      unfold openFrom?
      split
      · rfl
      · exact absurd rfl (h _)
      · next hne _ => rw [if_neg hne]
    · have hclosing : LocalInside fun cs => if cs = [] then none
          else some ((⟨frames, u.add [(0x5d, 0x5d)] 0⟩ : BracketState), cs) := nonempty _
      apply of_eq _ (after (skip f) hclosing)
      intro cs
      simp only [openFrom?, hu, if_true]
      split
      · next h => rw [if_pos h]
      · next hne => rw [if_neg hne]
  · apply of_eq _ hplain
    intro cs
    unfold openFrom?
    split
    · rfl
    · rw [if_neg hu, if_neg (by simp)]
    · next hne _ => rw [if_neg hne]

def openSigned? (s : BracketState) (negated : Bool) (cs : List Char) :
    Option (BracketState × List Char) :=
  let (u, cs) := BracketState.leadingHyphens f Items.none cs
  openFrom? f (.opened s.items negated :: s.frames) u cs

theorem localInside_openSigned? (s : BracketState) (negated : Bool) :
    LocalInside (openSigned? f s negated) :=
  bind (k := fun p => openFrom? f (.opened s.items negated :: s.frames) p.1 p.2)
    (local_leadingHyphens f Items.none) fun u => localInside_openFrom? f _ u

theorem localInside_open? (s : BracketState) : LocalInside (s.open? f) := by
  have hsign : LocalInside fun cs =>
      if cs.head? = some '^' then openSigned? f s true (f.skip cs.tail)
      else openSigned? f s false cs := by
    apply head (c := '^') (by decide) (fun _ => rfl)
    · intro cs h
      rw [if_neg]
      intro hcs
      obtain ⟨r, hr⟩ := List.head?_eq_some_iff.mp hcs
      exact h r hr
    · exact after (skip f) (localInside_openSigned? f s true)
    · exact localInside_openSigned? f s false
  apply of_eq _ (after (skip f) hsign)
  intro cs
  unfold BracketState.open?
  by_cases h : (f.skip cs).head? = some '^'
  · simp only [h, if_true]
    rfl
  · simp only [h, if_false]
    rfl

theorem localIf_readItem? (c : Char) :
    LocalIf (Primitive.LeavesAll f) fun cs => readItem? f (c :: cs) := by
  by_cases hc : c = '\\'
  · subst hc
    apply of_cons rfl
    exact localIf_readEscape? f
  · apply of_eq _ (give (Primitive.literal c false))
    intro cs
    rw [readItem?]
    exact hc

/-- What an item of a class stands for by itself. An assertion is no item. -/
def single? : Primitive → Option (List (ℕ × ℕ))
  | .literal c byte => (f.classLiteral? c byte).map fun n => [(n, n)]
  | .set s => some s.ranges
  | _ => none

/-- What two items with a hyphen between them stand for. -/
def between? : Primitive → Primitive → Option (List (ℕ × ℕ))
  | .literal a aByte, .literal b bByte => do
    let lo ← f.classLiteral? a aByte
    let hi ← f.classLiteral? b bByte
    if lo ≤ hi then some [(lo, hi)] else none
  | _, _ => none

def rangeFrom? (first : Primitive) (rest : List Char) : Option (List (ℕ × ℕ) × List Char) :=
  match rest with
  | [] => none
  | '-' :: more =>
    if peekPast f more = some ']' ∨ peekPast f more = some '-' then
      (single? f first).map fun r => (r, rest)
    else
      (readItem? f (f.skip more)).bind fun p => (between? f first p.1).map fun r => (r, p.2)
  | _ => (single? f first).map fun r => (r, rest)

theorem single?_map (first : Primitive) (rest : List Char) :
    ((single? f first).map fun r => (r, rest)) = match first with
      | .literal c byte => (f.classLiteral? c byte).map fun n => ([(n, n)], rest)
      | .set s => some (s.ranges, rest)
      | _ => none := by
  cases first <;> simp [single?, Option.map_map, Function.comp_def]

theorem between?_map (first last : Primitive) (rest : List Char) :
    ((between? f first last).map fun r => (r, rest)) = match first, last with
      | .literal a aByte, .literal b bByte => do
        let lo ← f.classLiteral? a aByte
        let hi ← f.classLiteral? b bByte
        if lo ≤ hi then some ([(lo, hi)], rest) else none
      | _, _ => none := by
  cases first <;> cases last <;> simp only [between?, Option.map_none]
  simp only [Option.bind_eq_bind, Option.map_bind, Function.comp_def]
  apply Option.bind_congr
  intro lo _
  apply Option.bind_congr
  intro hi _
  split_ifs <;> rfl

theorem readRange?_eq (cs : List Char) :
    readRange? f cs = (readItem? f cs).bind fun p => rangeFrom? f p.1 (f.skip p.2) := by
  unfold readRange?
  apply Option.bind_congr
  rintro ⟨first, rest⟩ -
  dsimp only
  generalize f.skip rest = cs
  split
  · rfl
  · rw [rangeFrom?]
    split_ifs
    · exact (single?_map f first _).symm
    · apply Option.bind_congr
      rintro ⟨last, rest⟩ -
      exact (between?_map f first last rest).symm
  · next hnil hhyphen =>
    rw [rangeFrom?]
    · exact (single?_map f first _).symm
    · exact hnil
    · exact hhyphen

theorem rangeFrom?_look (l : Look) (cs : List Char) : rangeFrom? f (.look l) cs = none := by
  unfold rangeFrom?
  split
  · rfl
  · split_ifs
    · rfl
    · exact Option.bind_eq_none_iff.mpr fun _ _ => rfl
  · rfl

theorem between?_look (first : Primitive) (l : Look) : between? f first (.look l) = none := by
  cases first <;> rfl

theorem localInside_rangeFrom? (first : Primitive) : LocalInside (rangeFrom? f first) := by
  have hsingle : LocalInside fun cs =>
      if cs = [] then none else (single? f first).map fun r => (r, cs) := by
    apply of_eq _ (optionBind (single? f first) fun r => nonempty r)
    intro cs
    split_ifs with hcs
    · simp
    · rw [Option.map_eq_bind]
      rfl
  have hrange : LocalInside fun cs =>
      (readItem? f cs).bind fun p => (between? f first p.1).map fun r => (r, p.2) := by
    apply of_cons rfl
    intro c
    apply bindIf (localIf_readItem? f c)
    · exact fun last => optionMap (between? f first last) (fun r => r) (give ())
    · rintro (_ | _ | _ | l) mid b rest x h -
      · nofun
      · nofun
      · nofun
      · rw [between?_look] at h
        cases h
  have hpeek : Unending fun cs => ¬ (peekPast f cs = some ']' ∨ peekPast f cs = some '-') := by
    intro cs t ht
    apply not_congr
    exact or_congr (unending_peekPast f (by decide) (by decide) (by decide) cs ht)
      (unending_peekPast f (by decide) (by decide) (by decide) cs ht)
  apply headIf (c := '-') (by decide) hpeek _ _ (after (skip f) hrange) hsingle
  · intro cs hcs
    exact if_neg hcs
  · intro cs h
    unfold rangeFrom?
    split
    · rfl
    · rw [if_pos (not_not.mp (h _ rfl))]
      rfl
    · next hne _ => rw [if_neg hne]

theorem localInside_readRange? (c : Char) : LocalInside fun cs => readRange? f (c :: cs) := by
  apply of_eq fun cs => readRange?_eq f (c :: cs)
  apply bindIf (localIf_readItem? f c)
  · exact fun first => after (skip f) (localInside_rangeFrom? f first)
  · rintro (_ | _ | _ | l) mid b rest x h -
    · nofun
    · nofun
    · nofun
    · rw [rangeFrom?_look] at h
      cases h

def BracketStep.parts : BracketStep → (BracketState ⊕ Operand) × List Char
  | .more s rest => (.inl s, rest)
  | .done c rest => (.inr c, rest)

def LeavesBracket (r : BracketState ⊕ Operand) (rest : List Char) : Prop := r.isLeft → rest ≠ []

theorem localIf_close? (s : BracketState) :
    LocalIf LeavesBracket fun cs => (s.close? f cs).map BracketStep.parts := by
  unfold BracketState.close?
  split
  · next body outer negated frames _ =>
    simp only [Option.map_map]
    cases frames with
    | nil =>
      exact optionMap (f.close? negated body.set)
        (fun set => Sum.inr (Operand.mk set (body.depth + 1))) (give ())
    | cons frame frames =>
      exact optionMap (f.close? negated body.set) (fun set => Sum.inl (BracketState.mk
        (frame :: frames) (outer.add set.ranges (body.depth + 1)))) (give ())
  · exact fail

/-- A step that stays inside the class. -/
theorem localIf_more {α : Type} {g : List Char → Option (α × List Char)} (hg : LocalInside g)
    (h : α → BracketState) : LocalIf LeavesBracket fun cs =>
      ((g cs).map fun p => BracketStep.more (h p.1) p.2).map BracketStep.parts := by
  simp only [Option.map_map]
  exact mapIf hg (fun a => Sum.inl (h a)) fun hrest => hrest rfl

theorem localIf_openOrNamed (s : BracketState) : LocalIf LeavesBracket fun cs =>
    (stepBracket? f s ('[' :: cs)).map BracketStep.parts := by
  have hopen := localIf_more (localInside_open? f s) id
  apply of_eq _ (attempt (readNamed?_suffix f) (readNamed?_append f)
    (j := fun p => p.1.map fun set =>
      (BracketStep.more { s with items := s.items.add set.ranges 0 } p.2).parts) _ hopen)
  · intro cs
    rw [stepBracket?]
    rcases readNamed? f cs with _ | ⟨_ | set, rest⟩ <;> rfl
  · intro set
    exact optionMap set (fun set : CharSet =>
      Sum.inl { s with items := s.items.add set.ranges 0 }) (give ())

theorem localIf_item (s : BracketState) (c : Char) : LocalIf LeavesBracket fun cs =>
    ((readRange? f (c :: cs)).map fun p =>
      BracketStep.more { s with items := s.items.add p.1 0 } p.2).map BracketStep.parts :=
  localIf_more (localInside_readRange? f c) fun ranges => { s with items := s.items.add ranges 0 }

/-- An operator is written as one character twice; once, the character stands for itself. -/
theorem localIf_operate (s : BracketState) {c : Char} (hc : c ≠ ')') (op : SetOperator)
    (htwice : ∀ cs, stepBracket? f s (c :: c :: cs) = some (.more (s.operate f op) cs))
    (honce : ∀ cs, (∀ r, cs ≠ c :: r) → stepBracket? f s (c :: cs) =
      (readRange? f (c :: cs)).map fun p => .more { s with items := s.items.add p.1 0 } p.2) :
    LocalIf LeavesBracket fun cs => (stepBracket? f s (c :: cs)).map BracketStep.parts := by
  apply head hc _ _ (give (Sum.inl (s.operate f op))) (localIf_item f s c)
  · intro cs
    rw [htwice]
    rfl
  · intro cs h
    rw [honce cs h]

theorem localIf_stepBracket? (s : BracketState) (c : Char) :
    LocalIf LeavesBracket fun cs => (stepBracket? f s (c :: cs)).map BracketStep.parts := by
  by_cases hopen : c = '['
  · subst hopen
    exact localIf_openOrNamed f s
  by_cases hclose : c = ']'
  · subst hclose
    exact localIf_close? f s
  by_cases hand : c = '&'
  · subst hand
    apply localIf_operate f s (by decide) .intersection (fun _ => rfl)
    intro cs h
    simp [stepBracket?, h]
  by_cases hminus : c = '-'
  · subst hminus
    apply localIf_operate f s (by decide) .difference (fun _ => rfl)
    intro cs h
    simp [stepBracket?, h]
  by_cases htilde : c = '~'
  · subst htilde
    apply localIf_operate f s (by decide) .symmetricDifference (fun _ => rfl)
    intro cs h
    simp [stepBracket?, h]
  apply of_eq _ (localIf_item f s c)
  intro cs
  simp [stepBracket?, hopen, hclose, hand, hminus, htilde]

theorem length_of_stepBracket? {s : BracketState} {cs rest : List Char}
    {r : BracketState ⊕ Operand}
    (h : (stepBracket? f s cs).map BracketStep.parts = some (r, rest)) :
    rest.length < cs.length := by
  cases cs with
  | nil => cases h
  | cons c cs =>
    have := ((localIf_stepBracket? f s c).suffix h).length_le
    rw [List.length_cons]
    omega

def runFrom? (n : ℕ) (p : (BracketState ⊕ Operand) × List Char) : Option (Operand × List Char) :=
  match p.1 with
  | .inl s => runBracket? f n s p.2
  | .inr c => some (c, p.2)

theorem runBracket?_succ (n : ℕ) (s : BracketState) (cs : List Char) :
    runBracket? f (n + 1) s cs =
      ((stepBracket? f s (f.skip cs)).map BracketStep.parts).bind (runFrom? f n) := by
  rw [runBracket?]
  rcases stepBracket? f s (f.skip cs) with _ | ⟨s, rest⟩ | ⟨c, rest⟩ <;> rfl

theorem length_of_runBracket? {n : ℕ} {s : BracketState} {cs rest : List Char} {c : Operand}
    (h : runBracket? f n s cs = some (c, rest)) : rest.length < cs.length := by
  induction n generalizing s cs with
  | zero => cases h
  | succ n ih =>
    rw [runBracket?_succ] at h
    obtain ⟨⟨r, mid⟩, hstep, hrun⟩ := Option.bind_eq_some_iff.mp h
    have hmid := length_of_stepBracket? f hstep
    have hskip := f.length_skip_le cs
    have hrest : rest.length ≤ mid.length := by
      cases r with
      | inl s => exact (ih hrun).le
      | inr c =>
        obtain ⟨-, rfl⟩ := Prod.mk.inj (Option.some.inj hrun)
        exact le_rfl
    omega

theorem local_runBracket? (n : ℕ) (s : BracketState) : Local (runBracket? f n s) := by
  induction n generalizing s with
  | zero => exact fail
  | succ n ih =>
    apply of_eq (runBracket?_succ f n s)
    apply after (skip f)
      (g := fun cs => ((stepBracket? f s cs).map BracketStep.parts).bind (runFrom? f n))
    apply of_cons rfl
    intro c
    apply bindIf (localIf_stepBracket? f s c)
    · rintro (s | c)
      · exact ih s
      · exact give c
    · rintro (s | c) mid b rest x h - hleft rfl
      · have hlength := length_of_runBracket? f h
        simp only [List.nil_append, List.length_append, List.length_cons] at hlength
        omega
      · cases hleft

/-- Every step takes a character, so a number of steps beyond that of the characters is enough. -/
theorem runBracket?_of_length_lt {n m : ℕ} {s : BracketState} {cs : List Char}
    {r : Operand × List Char} (h : runBracket? f n s cs = some r) (hm : cs.length < m) :
    runBracket? f m s cs = some r := by
  induction n generalizing m s cs with
  | zero => cases h
  | succ n ih =>
    obtain ⟨m, rfl⟩ := Nat.exists_eq_add_one_of_ne_zero (Nat.ne_zero_of_lt hm)
    rw [runBracket?_succ] at h ⊢
    obtain ⟨⟨r, mid⟩, hstep, hrun⟩ := Option.bind_eq_some_iff.mp h
    rw [hstep, Option.bind_some]
    cases r with
    | inl s =>
      have hmid := length_of_stepBracket? f hstep
      have hskip := f.length_skip_le cs
      have hm' : mid.length < m := by omega
      exact ih hrun hm'
    | inr c => exact hrun

theorem local_runAll? (s : BracketState) :
    Local fun cs => runBracket? f (cs.length + 1) s cs where
  suffix := (local_runBracket? f _ s).suffix
  change := by
    intro cs a rest x t h _ ht
    have := (local_runBracket? f _ s).change cs h trivial ht
    exact runBracket?_of_length_lt f this (Nat.lt_succ_self _)

theorem local_readBracket? : Local (readBracket? f) := by
  have hrun : ∀ s : BracketState, Local fun cs =>
      (runBracket? f (cs.length + 1) s cs).map fun p => (Expr.chars p.1.set p.1.depth, p.2) :=
    fun s => (local_runAll? f s).map fun c => Expr.chars c.set c.depth
  apply of_eq _ (bindIf (localInside_open? f ⟨[], Items.none⟩) hrun _
    (k := fun p => (runBracket? f (p.2.length + 1) p.1 p.2).map fun p =>
      (Expr.chars p.1.set p.1.depth, p.2)))
  · intro cs
    unfold readBracket?
    simp only [Option.map_eq_bind]
    rfl
  · rintro s mid b rest x h - rfl
    obtain ⟨⟨c, r⟩, hc, hr⟩ := Option.map_eq_some_iff.mp h
    obtain ⟨-, rfl⟩ := Prod.mk.inj hr
    have hlength := length_of_runBracket? f hc
    simp only [List.nil_append, List.length_append, List.length_cons] at hlength
    omega

end AlertRouting.Regex
