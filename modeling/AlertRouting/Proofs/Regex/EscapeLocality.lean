import AlertRouting.Proofs.Regex.Locality

/-!
# Escapes do not look past a closing parenthesis

All escapes are local but a word boundary. That one looks at a brace, which may belong to it, and at
what comes after the brace.
-/
namespace AlertRouting.Regex

open LocalIf

variable (f : Flags)

theorem local_takeExactly? (n : ℕ) : Local (f.takeExactly? n) := by
  induction n with
  | zero => exact give []
  | succ n ih =>
    apply of_cons rfl
    intro c
    exact (after (skip f) ih).map (c :: ·)

/-- Text up to a closing brace. -/
theorem local_braced {β : Type} {k : List Char → List Char → Option (β × List Char)}
    (hk : ∀ text, Local (k text)) : Local fun cs =>
      match f.span (· != '\x7d') (f.skip cs) with
      | (text, _ :: rest) => k text rest
      | (_, []) => none := by
  apply after (skip f) (g := fun cs => (some (f.span (· != '\x7d') cs)).bind fun s => match s with
    | (text, _ :: rest) => k text rest
    | (_, []) => none)
  apply bind (span f _)
  exact fun text => of_cons rfl fun _ => hk text

def hexFrom? (width : ℕ) (cs : List Char) : Option (Primitive × List Char) :=
  match cs with
  | '\x7b' :: rest =>
    match f.span (· != '\x7d') (f.skip rest) with
    | (digits, _ :: rest) => (hexChar? digits).map fun c => (.literal c false, f.skip rest)
    | (_, []) => none
  | cs => do
    let (digits, rest) ← f.takeExactly? width cs
    let c ← hexChar? digits
    some (.literal c (width = 2), rest)

theorem local_readHex? (width : ℕ) : Local (readHex? f width) := by
  apply after (skip f) (g := hexFrom? f width)
  apply head (c := '\x7b') (by decide) (fun _ => rfl)
  · intro cs h
    unfold hexFrom?
    split
    · exact absurd rfl (h _)
    · rfl
  · exact local_braced f fun digits => optionMap _ _ (skip f)
  · apply bind (local_takeExactly? f width)
    exact fun digits => optionBind _ fun c => give _

def propertyFrom? (negated : Bool) (cs : List Char) : Option (Primitive × List Char) :=
  match cs with
  | [] => none
  | '\x7b' :: rest =>
    match f.span (· != '\x7d') (f.skip rest) with
    | (text, _ :: rest) => (f.property? negated (propertyQuery text)).map fun s => (.set s, rest)
    | (_, []) => none
  | c :: rest =>
    if c = '\\' then none
    else (f.property? negated (.name (String.singleton c))).map fun s => (.set s, f.skip rest)

theorem local_readProperty? (negated : Bool) : Local (readProperty? f negated) := by
  apply after (skip f) (g := propertyFrom? f negated)
  apply of_cons rfl
  intro c
  by_cases hc : c = '\x7b'
  · subst hc
    exact local_braced f fun text => optionMap _ _ (give ())
  · have h : ∀ rest, propertyFrom? f negated (c :: rest) =
        if c = '\\' then none
        else (f.property? negated (.name (String.singleton c))).map fun s =>
          (.set s, f.skip rest) := by
      intro rest
      rw [propertyFrom?]
      exact fun h => hc h
    apply of_eq h
    exact branch (fun _ => fail) fun _ => optionMap _ _ (skip f)

/-- An opening brace, if one is left, is followed by something that counts. -/
def Flags.BraceGoesOn (f : Flags) (rest : List Char) : Prop :=
  ∀ more, rest = '\x7b' :: more → f.skip more ≠ []

/-- The side of a word boundary that a name asks for, if a closing brace comes after it. -/
def boundarySide? : List Char × List Char → Option (Primitive × List Char)
  | (name, '\x7d' :: rest) =>
    (readBoundary?.kind? (String.ofList name)).map fun k => (.look (.word k f.unicode), rest)
  | _ => none

theorem local_boundarySide? : Local fun cs => boundarySide? f (f.span isBoundaryChar cs) := by
  apply bind (span f isBoundaryChar) (k := boundarySide? f)
  intro name
  apply head (c := '\x7d') (k := fun _ => none) (by decide) (fun _ => rfl)
  · intro cs h
    unfold boundarySide?
    split
    · next heq => exact absurd (Prod.mk.inj heq).2 (h _)
    · rfl
  · exact optionMap _ _ (give ())
  · exact fail

theorem readBoundary?_of_ne {cs : List Char} (h : cs.head? ≠ some '\x7b') :
    readBoundary? f cs = some (.look (.word .boundary f.unicode), cs) := by
  unfold readBoundary?
  split
  · exact absurd rfl h
  · rfl

theorem readBoundary?_brace {rest more : List Char} {c : Char} (h : f.skip rest = c :: more) :
    readBoundary? f ('\x7b' :: rest) =
      if isBoundaryChar c then boundarySide? f (f.span isBoundaryChar (c :: more))
      else some (.look (.word .boundary f.unicode), '\x7b' :: rest) := by
  unfold readBoundary?
  simp only [h]
  cases isBoundaryChar c <;> rfl

theorem localIf_readBoundary? : LocalIf (fun _ => f.BraceGoesOn) (readBoundary? f) where
  suffix := by
    intro cs a rest h
    by_cases hcs : cs.head? = some '\x7b'
    · obtain ⟨cs, rfl⟩ := List.head?_eq_some_iff.mp hcs
      cases hskip : f.skip cs with
      | nil => simp [readBoundary?, hskip] at h
      | cons c more =>
        rw [readBoundary?_brace f hskip] at h
        split_ifs at h
        · have hmore : c :: more <:+ cs := hskip ▸ f.skip_suffix cs
          exact (((local_boundarySide? f).suffix h).trans hmore).trans (List.suffix_cons _ cs)
        · cases h
          exact List.suffix_rfl
    · rw [readBoundary?_of_ne f hcs] at h
      cases h
      exact List.suffix_rfl
  change := by
    intro cs a rest x t h hok ht
    have hbrace : ('\x7b' : Char) ≠ ')' := by decide
    by_cases hcs : cs.head? = some '\x7b'
    · obtain ⟨cs, rfl⟩ := List.head?_eq_some_iff.mp hcs
      rw [List.cons_append] at h ⊢
      cases hskip : f.skip (cs ++ ')' :: x) with
      | nil => simp [readBoundary?, hskip] at h
      | cons c more =>
        rw [readBoundary?_brace f hskip] at h
        split_ifs at h with hc
        · -- The name comes before the parenthesis, which is no character of one.
          have hmore := (local_boundarySide? f).suffix h
          obtain ⟨mid, hmid, -⟩ := exists_append_of_suffix hmore
          obtain _ | ⟨d, mid⟩ := mid
          · obtain ⟨rfl, -⟩ := List.cons.inj hmid
            exact absurd hc (by decide)
          · obtain ⟨rfl, rfl⟩ := List.cons.inj hmid
            have hskip' : f.skip (cs ++ t) = c :: mid ++ t := f.skip_change cs hskip ht
            rw [readBoundary?_brace f hskip', if_pos hc]
            exact (local_boundarySide? f).change (c :: mid) h trivial ht
        · simp only [Option.some.injEq, Prod.mk.injEq, ← List.cons_append,
            List.append_cancel_right_eq] at h
          obtain ⟨rfl, rfl⟩ := h
          obtain ⟨d, mid, hmid⟩ := List.exists_cons_of_ne_nil (hok cs rfl)
          have hskips := f.skip_append_of_ne_nil (hok cs rfl)
          have hd : d = c := by
            rw [hskips, hmid] at hskip
            exact (List.cons.inj hskip).1
          have hskip' : f.skip (cs ++ t) = c :: (mid ++ t) := by
            rw [hskips, hmid, hd, List.cons_append]
          rw [readBoundary?_brace f hskip', if_neg hc, List.cons_append]
    · have hp := Unending.head hbrace
      rw [readBoundary?_of_ne f fun hx => hcs ((hp cs (.close x)).mp hx)] at h
      rw [readBoundary?_of_ne f fun hx => hcs ((hp cs ht).mp hx)]
      simp only [Option.some.injEq, Prod.mk.injEq, List.append_cancel_right_eq] at h
      rw [h.1, h.2]

/-- What is left of the reading of an escape or a single character. -/
def Primitive.LeavesAll (f : Flags) (p : Primitive) (rest : List Char) : Prop :=
  ∀ l, p = .look l → f.BraceGoesOn rest

theorem readBoundary?_eq_look {cs rest : List Char} {p : Primitive}
    (h : readBoundary? f cs = some (p, rest)) : ∃ l, p = .look l := by
  by_cases hcs : cs.head? = some '\x7b'
  · obtain ⟨cs, rfl⟩ := List.head?_eq_some_iff.mp hcs
    cases hskip : f.skip cs with
    | nil => simp [readBoundary?, hskip] at h
    | cons c more =>
      rw [readBoundary?_brace f hskip] at h
      split_ifs at h
      · unfold boundarySide? at h
        split at h
        · obtain ⟨k, -, hk⟩ := Option.map_eq_some_iff.mp h
          exact ⟨_, (Prod.mk.inj hk).1.symm⟩
        · cases h
      · exact ⟨_, (Prod.mk.inj (Option.some.inj h)).1.symm⟩
  · rw [readBoundary?_of_ne f hcs] at h
    exact ⟨_, (Prod.mk.inj (Option.some.inj h)).1.symm⟩

theorem localIf_readEscape? (c : Char) :
    LocalIf (Primitive.LeavesAll f) fun cs => readEscape? f (c :: cs) := by
  apply branch
  · exact fun _ => give _
  · intro hc
    split
    · exact (local_readHex? f 2).always
    · exact (local_readHex? f 4).always
    · exact (local_readHex? f 8).always
    · exact (local_readProperty? f false).always
    · exact (local_readProperty? f true).always
    · apply (localIf_readBoundary? f).weaken
      intro cs p x rest h hp
      obtain ⟨l, hl⟩ := readBoundary?_eq_look f h
      exact hp l hl
    · split
      · exact optionMap _ _ (give ())
      · exact optionMap _ _ (give ())
      · exact optionMap _ _ (give ())

theorem localIf_readPrimitive? (c : Char) :
    LocalIf (Primitive.LeavesAll f) (readPrimitive? f c) := by
  unfold readPrimitive?
  split
  · apply of_cons rfl
    exact localIf_readEscape? f
  · exact give _
  · exact give _
  · exact give _
  · exact give _

end AlertRouting.Regex
