import AlertRouting.Proofs.Regex.BracketLocality
import AlertRouting.Regex.Reader

/-!
# Steps do not look past a closing parenthesis

A step is local, except that a word boundary must not be followed by a brace after which nothing
comes.
-/
namespace AlertRouting.Regex

open LocalIf

def namedGroup? (s : State) (name : List Char) : List Char → Option (State × List Char)
  | [] => none
  | _ :: rest =>
    if isGroupName name && !s.names.contains (String.ofList name) then
      some (s.openGroup true s.flags (String.ofList name :: s.names), rest)
    else none

theorem local_openNamed? (s : State) : Local (openNamed? s) := by
  apply bind (k := fun p => namedGroup? s p.1 p.2) (dropWhile (p := (· != '>')))
  intro name
  apply of_cons rfl
  intro c
  unfold namedGroup?
  by_cases h : (isGroupName name && !s.names.contains (String.ofList name)) = true
  · simp only [h, if_true]
    exact give _
  · simp only [h]
    exact fail

/-- The end of the letters of flags: a change of flags, or a group under them. -/
def flagsEnd? (s : State) (letters : List Char) : List Char → Option (State × List Char)
  | [] => none
  | last :: more =>
    (s.flags.change? letters).bind fun flags =>
      if last = ':' then some (s.openGroup false flags s.names, more)
      else if letters = [] then none
      else some ({ s.addPart .empty with flags := flags }, more)

theorem local_flagsEnd?_cons (s : State) (letters : List Char) (c : Char) :
    Local fun cs => flagsEnd? s letters (c :: cs) := by
  apply optionBind (s.flags.change? letters)
  intro flags
  exact branch (fun _ => give _) fun _ => branch (fun _ => fail) fun _ => give _

/-- May the character stand among the letters of flags? -/
def isFlagText (c : Char) : Bool := c != ':' && c != ')'

/-- Flags, of which the first letters are known. -/
def flagsFrom? (s : State) (first cs : List Char) : Option (State × List Char) :=
  flagsEnd? s (first ++ cs.takeWhile isFlagText) (cs.dropWhile isFlagText)

theorem local_flagsFrom? (s : State) (first : List Char) : Local (flagsFrom? s first) := by
  apply bind (dropWhile (p := isFlagText)) (k := fun p => flagsEnd? s (first ++ p.1) p.2)
  exact fun letters => of_cons rfl (local_flagsEnd?_cons s (first ++ letters))

theorem local_flagsFrom?_cons (s : State) (c : Char) :
    Local fun cs => flagsFrom? s [] (c :: cs) := by
  by_cases hc : isFlagText c = true
  · apply of_eq _ (local_flagsFrom? s [c])
    intro cs
    unfold flagsFrom?
    rw [List.takeWhile_cons_of_pos hc, List.dropWhile_cons_of_pos hc]
    rfl
  · apply of_eq _ (local_flagsEnd?_cons s [] c)
    intro cs
    unfold flagsFrom?
    rw [List.takeWhile_cons_of_neg hc, List.dropWhile_cons_of_neg hc, List.append_nil]

/-- What comes after an angle: a name, but neither mark of a text to look behind for. -/
def angleGroup? (s : State) (cs : List Char) : Option (State × List Char) :=
  match cs with
  | '=' :: _ => none
  | cs => notBehind? s cs
where
  notBehind? (s : State) (cs : List Char) : Option (State × List Char) :=
    match cs with
    | '!' :: _ => none
    | cs => openNamed? s cs

theorem local_angleGroup? (s : State) : Local (angleGroup? s) := by
  apply head (c := '=') (by decide) (fun _ => rfl) _ fail (k := angleGroup?.notBehind? s)
  · apply head (c := '!') (by decide) (fun _ => rfl) _ fail (local_openNamed? s)
    intro cs h
    unfold angleGroup?.notBehind?
    split
    · exact absurd rfl (h _)
    · rfl
  · intro cs h
    unfold angleGroup?
    split
    · exact absurd rfl (h _)
    · rfl

/-- What comes after a parenthesis and a question mark. -/
def markedGroup? (s : State) (cs : List Char) : Option (State × List Char) :=
  match cs with
  | 'P' :: '<' :: rest => openNamed? s rest
  | '<' :: rest => angleGroup? s rest
  | rest => flagsFrom? s [] rest

theorem local_markedGroup? (s : State) : Local (markedGroup? s) := by
  apply of_cons rfl
  intro c
  by_cases hP : c = 'P'
  · subst hP
    apply head (c := '<') (by decide) (fun _ => rfl) _ (local_openNamed? s)
      (local_flagsFrom?_cons s 'P')
    intro cs h
    simp [markedGroup?, h]
  by_cases hangle : c = '<'
  · subst hangle
    exact local_angleGroup? s
  · apply of_eq _ (local_flagsFrom?_cons s c)
    intro cs
    simp [markedGroup?, hP, hangle]

/-- What comes after a parenthesis, without what is skipped. -/
def groupFrom? (s : State) (cs : List Char) : Option (State × List Char) :=
  match cs with
  | '?' :: rest => markedGroup? s rest
  | cs => some (s.openGroup true s.flags s.names, cs)

theorem readGroup?_eq (s : State) (cs : List Char) :
    readGroup? s cs = groupFrom? s (s.flags.skip cs) := by
  unfold readGroup?
  generalize s.flags.skip cs = cs
  split
  · rfl
  · rfl
  · rfl
  · next rest hequal hnot =>
    simp [groupFrom?, markedGroup?, angleGroup?, angleGroup?.notBehind?]
  · next rest hname hequal hnot hangle =>
    simp only [groupFrom?]
    rw [markedGroup?]
    · rfl
    · intro r hr
      exact hname r (by rw [hr])
    · intro r hr
      exact hangle r (by rw [hr])
  · next hname hequal hnot hangle hmark =>
    rw [groupFrom?]
    exact hmark

theorem local_readGroup? (s : State) : Local (readGroup? s) := by
  apply of_eq (readGroup?_eq s)
  apply after (skip s.flags)
  apply head (c := '?') (by decide) (fun _ => rfl) _ (local_markedGroup? s)
    (give (s.openGroup true s.flags s.names))
  intro cs h
  unfold groupFrom?
  split
  · exact absurd rfl (h _)
  · rfl

theorem local_dropLazy : Local fun cs => some ((), dropLazy cs) := by
  apply head (c := '?') (by decide) (fun _ => rfl) _ (give ()) (give ())
  intro cs h
  unfold dropLazy
  split
  · exact absurd rfl (h _)
  · rfl

variable (f : Flags)

theorem local_dropBlanks : Local fun cs => some ((), cs.dropWhile Text.isBlank) :=
  dropWhile.map fun _ => ()

def decimalValue (digits : List Char) : ℕ := digits.foldl (fun n c => 10 * n + (c.toNat - 48)) 0

def decimal? (p : List Char × List Char) : Option (ℕ × List Char) :=
  if p.1 = [] ∨ decimalValue p.1 ≥ Nat.pow 2 32 then none
  else some (decimalValue p.1, f.skip (p.2.dropWhile Text.isBlank))

theorem local_readDecimal? : Local (readDecimal? f) := by
  apply after local_dropBlanks (g := fun cs => (some (f.span Char.isDigit cs)).bind (decimal? f))
  apply bind (span f Char.isDigit)
  intro digits
  apply branch (p := digits = [] ∨ decimalValue digits ≥ Nat.pow 2 32) (fun _ => fail)
  intro _
  exact after local_dropBlanks (after (skip f) (give (decimalValue digits)))

theorem readDecimal?_nil : readDecimal? f [] = none := by
  simp [readDecimal?, Flags.span]

def mostFrom? (cs : List Char) : Option (Option ℕ × List Char) :=
  match cs with
  | '\x7d' :: rest => some (none, '\x7d' :: rest)
  | rest => (readDecimal? f rest).map fun p => (some p.1, p.2)

theorem local_mostFrom? : Local (mostFrom? f) := by
  have hclose : Unending fun cs => cs.head? = some '\x7d' := Unending.head (by decide)
  apply of_eq _ (branchOn hclose (give none) ((local_readDecimal? f).map some))
  intro cs
  split_ifs with h
  · obtain ⟨r, rfl⟩ := List.head?_eq_some_iff.mp h
    rfl
  · rw [mostFrom?]
    intro r hr
    exact h (by rw [hr, List.head?_cons])

def readMost? (least : ℕ) (cs : List Char) : Option (Option ℕ × List Char) :=
  match cs with
  | ',' :: rest => mostFrom? f (f.skip rest)
  | rest => some (some least, rest)

theorem local_readMost? (least : ℕ) : Local (readMost? f least) := by
  apply head (c := ',') (by decide) (fun _ => rfl) _ (after (skip f) (local_mostFrom? f))
    (give (some least))
  intro cs h
  unfold readMost?
  split
  · exact absurd rfl (h _)
  · rfl

def countedEnd? (s : State) (least : ℕ) (most : Option ℕ) (cs : List Char) :
    Option (State × List Char) :=
  match cs with
  | '\x7d' :: rest =>
    if most.any (· < least) then none
    else (s.repeat? least most).map fun t => (t, dropLazy (s.flags.skip rest))
  | _ => none

theorem local_countedEnd? (s : State) (least : ℕ) (most : Option ℕ) :
    Local (countedEnd? s least most) := by
  apply head (c := '\x7d') (k := fun _ => none) (by decide) (fun _ => rfl) _ _ fail
  · intro cs h
    unfold countedEnd?
    split
    · exact absurd rfl (h _)
    · rfl
  · apply branch (fun _ => fail)
    intro _
    exact optionMap (s.repeat? least most) (fun t => t) (after (skip s.flags) local_dropLazy)

theorem readCounted?_eq (s : State) (cs : List Char) : readCounted? s cs =
    (readDecimal? s.flags (s.flags.skip cs)).bind fun p =>
      (readMost? s.flags p.1 p.2).bind fun q => countedEnd? s p.1 q.1 q.2 := by
  unfold readCounted?
  apply Option.bind_congr
  rintro ⟨least, rest⟩ -
  dsimp only
  split
  · next rest =>
    rw [readMost?]
    generalize s.flags.skip rest = cs
    split
    · rfl
    · next hne =>
      rw [mostFrom?]
      · rfl
      · exact hne
  · next hne =>
    rw [readMost?]
    · rfl
    · exact hne

theorem local_readCounted? (s : State) : Local (readCounted? s) := by
  apply of_eq (readCounted?_eq s)
  apply after (skip s.flags) (g := fun cs => (readDecimal? s.flags cs).bind fun p =>
    (readMost? s.flags p.1 p.2).bind fun q => countedEnd? s p.1 q.1 q.2)
  apply bind (local_readDecimal? s.flags)
  intro least
  dsimp only
  apply bind (local_readMost? s.flags least)
  exact fun most => local_countedEnd? s least most

theorem skip_ne_nil_of_readCounted? {s : State} {more : List Char} {r : State × List Char}
    (h : readCounted? s more = some r) : s.flags.skip more ≠ [] := by
  intro hskip
  rw [readCounted?_eq, hskip, readDecimal?_nil, Option.bind_none] at h
  cases h

theorem localIf_addPrimitive (s : State) (c : Char) :
    LocalIf (fun t rest => t.flags.BraceGoesOn rest) fun cs =>
      (readPrimitive? s.flags c cs).bind fun p =>
        (p.1.expr? s.flags).bind fun e => some (s.addPart e, p.2) := by
  apply bindIf (localIf_readPrimitive? s.flags c)
  · intro p
    exact optionBind (p.expr? s.flags) fun e => give (s.addPart e)
  · intro p mid t rest x h hrest
    obtain ⟨e, -, he⟩ := Option.bind_eq_some_iff.mp h
    simp only [Option.some.injEq, Prod.mk.injEq, List.append_cancel_right_eq] at he
    obtain ⟨rfl, rfl⟩ := he
    exact fun _ _ => hrest

theorem local_repeat? (s : State) (least : ℕ) (most : Option ℕ) : Local fun cs =>
    (s.repeat? least most).map fun t => (t, dropLazy cs) :=
  optionMap _ (fun t => t) local_dropLazy

theorem localIf_step? (s : State) (c : Char) :
    LocalIf (fun t rest => t.flags.BraceGoesOn rest) (step? s c) := by
  unfold step?
  split
  · exact (local_readGroup? s).always
  · exact optionMap s.closeGroup? (fun t => t) (give ())
  · exact give s.nextBranch
  · exact (local_readBracket? s.flags).map s.addPart
  · exact (local_repeat? s 0 (some 1)).always
  · exact (local_repeat? s 0 none).always
  · exact (local_repeat? s 1 none).always
  · exact (local_readCounted? s).always
  · exact localIf_addPrimitive s c

end AlertRouting.Regex
