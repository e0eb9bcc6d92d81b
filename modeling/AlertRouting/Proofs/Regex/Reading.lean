import AlertRouting.Proofs.Regex.Nesting

/-!
# What is read as the whole of a group

A text is a whole if the reader gets from its start to its end without closing a group that it did
not open, whether the pattern ends there or a parenthesis comes next. A whole is well-formed by
itself and between the parentheses of a group.
-/
namespace AlertRouting.Regex

variable {s t : State} {cs rest : List Char}

theorem Steps.exists_run? (h : Steps s cs t rest) {n : ℕ} (hn : cs.length < n) :
    ∃ m, rest.length < m ∧ run? n s cs = run? m t rest := by
  induction h generalizing n with
  | refl s cs => exact ⟨n, hn, rfl⟩
  | @step s t u c cs rest mid more hskip hstep _ ih =>
    obtain ⟨n, rfl⟩ := Nat.exists_eq_add_one_of_ne_zero (Nat.ne_zero_of_lt hn)
    have hmid := ((localIf_step? s c).suffix hstep).length_le
    have hcs := s.flags.length_skip_le cs
    rw [hskip, List.length_cons] at hcs
    obtain ⟨m, hm, hrun⟩ := ih (n := n) (by omega)
    refine ⟨m, hm, ?_⟩
    rw [run?, hskip]
    dsimp only
    rw [hstep, Option.bind_some]
    exact hrun

theorem exists_steps_of_run? {n : ℕ} (h : run? n s cs = some t) :
    ∃ rest, Steps s cs t rest ∧ t.flags.skip rest = [] := by
  induction n generalizing s cs with
  | zero => cases h
  | succ n ih =>
    rw [run?] at h
    split at h
    · next hskip =>
      cases h
      exact ⟨cs, .refl _ cs, hskip⟩
    · next c more hskip =>
      obtain ⟨⟨u, mid⟩, hstep, hrun⟩ := Option.bind_eq_some_iff.mp h
      obtain ⟨rest, hsteps, hrest⟩ := ih hrun
      exact ⟨rest, .step hskip hstep hsteps, hrest⟩

/-- A pattern is well-formed if the reader gets to its end with no group open. -/
theorem read?_eq_some_iff {pattern : List Char} {e : Expr} :
    read? pattern = some e ↔ ∃ s rest, Steps .initial pattern s rest ∧
      s.flags.skip rest = [] ∧ s.frames = [] ∧ s.body = e := by
  constructor
  · intro h
    obtain ⟨s, hrun, hs⟩ := Option.bind_eq_some_iff.mp h
    obtain ⟨rest, hsteps, hrest⟩ := exists_steps_of_run? hrun
    split_ifs at hs with hframes
    exact ⟨s, rest, hsteps, hrest, List.isEmpty_iff.mp hframes, Option.some.inj hs⟩
  · rintro ⟨s, rest, hsteps, hrest, hframes, rfl⟩
    obtain ⟨m, hm, hrun⟩ := hsteps.exists_run? (Nat.lt_succ_self _)
    obtain ⟨m, rfl⟩ := Nat.exists_eq_add_one_of_ne_zero (Nat.ne_zero_of_lt hm)
    unfold read?
    rw [hrun, run?, hrest]
    simp [hframes]

/-- A parenthesis that closes no group makes a pattern malformed. -/
theorem Steps.read?_eq_none {pattern x : List Char} (h : Steps .initial pattern s rest)
    (hframes : s.frames = []) (hskip : s.flags.skip rest = ')' :: x) :
    read? pattern = none := by
  obtain ⟨m, hm, hrun⟩ := h.exists_run? (Nat.lt_succ_self _)
  obtain ⟨m, rfl⟩ := Nat.exists_eq_add_one_of_ne_zero (Nat.ne_zero_of_lt hm)
  unfold read?
  rw [hrun, run?, hskip]
  simp [step?, State.closeGroup?, hframes]

/-- There is one run to the end of a pattern, so every run goes on to it. -/
theorem Steps.rest_of_end {u : State} {mid : List Char} (h : Steps s cs t mid)
    (h' : Steps s cs u rest) (hend : u.flags.skip rest = []) : Steps t mid u rest := by
  induction h with
  | refl => exact h'
  | step hskip hstep _ ih =>
    cases h' with
    | refl =>
      rw [hend] at hskip
      cases hskip
    | step hskip' hstep' hsteps =>
      obtain ⟨rfl, rfl⟩ := List.cons.inj (hskip.symm.trans hskip')
      obtain ⟨rfl, rfl⟩ := Prod.mk.inj (Option.some.inj (hstep.symm.trans hstep'))
      exact ih hsteps

/-- The reader goes over the text as over the whole of a group, and comes to the state. -/
structure Whole (text : List Char) (s : State) : Prop where
  frames : s.frames = []
  ends : ∃ rest, ∀ y, IsEnd y →
    Steps .initial (text ++ y) s (rest ++ y) ∧ s.flags.skip (rest ++ y) = y

theorem Whole.of_steps {text x : List Char}
    (h : Steps .initial (text ++ ')' :: x) s (rest ++ ')' :: x)) (hframes : s.frames = [])
    (hskip : s.flags.skip (rest ++ ')' :: x) = ')' :: x) : Whole text s where
  frames := hframes
  ends := by
    refine ⟨rest, fun y hy => ⟨h.change hskip hy, ?_⟩⟩
    have hskip' : s.flags.skip (rest ++ y) = [] ++ y := s.flags.skip_change rest hskip hy
    exact hskip'

theorem Whole.read?_eq {text : List Char} (h : Whole text s) : read? text = some s.body := by
  obtain ⟨rest, hrest⟩ := h.ends
  obtain ⟨hsteps, hskip⟩ := hrest [] .nil
  rw [List.append_nil] at hsteps hskip
  exact read?_eq_some_iff.mpr ⟨s, rest, by simpa using hsteps, hskip, h.frames, rfl⟩

theorem Whole.read?_eq_none {text x : List Char} (h : Whole text s) :
    read? (text ++ ')' :: x) = none := by
  obtain ⟨rest, hrest⟩ := h.ends
  obtain ⟨hsteps, hskip⟩ := hrest _ (.close x)
  exact hsteps.read?_eq_none h.frames hskip

/-- What is around a group at the start of a pattern, after some parts. -/
def around (parts : List Expr) : Frame := ⟨[], parts, .initial, false⟩

def closed (parts : List Expr) (s : State) : State :=
  ⟨[], [], .group false s.body :: parts, .initial, s.names⟩

theorem closeGroup?_around (parts : List Expr) (hframes : s.frames = []) :
    (s.inside [around parts]).closeGroup? = some (closed parts s) := by
  simp only [State.closeGroup?, State.inside, hframes]
  rfl

/-- A group that is closed holds a whole, up to the parenthesis that closes it. -/
theorem Steps.exists_whole {parts : List Expr} {u : State}
    (h : Steps (State.initial.inside [around parts]) cs u rest) (hu : u.frames = []) :
    ∃ text x s, cs = text ++ ')' :: x ∧ Whole text s ∧ Steps (closed parts s) x u rest := by
  rcases h.stays_or_leaves with ⟨t, rfl, -⟩ | ⟨t, mid, x, v, ht, hframes, hskip, hv, hsteps⟩
  · simp [State.inside] at hu
  · rw [closeGroup?_around parts hframes] at hv
    cases hv
    have hx : ')' :: x <:+ mid := hskip ▸ t.flags.skip_suffix mid
    obtain ⟨mid, rfl⟩ := hx
    obtain ⟨text, rfl, -⟩ := exists_append_of_suffix ht.suffix
    exact ⟨text, x, t, rfl, .of_steps ht hframes hskip, hsteps⟩

theorem Whole.steps_group {text : List Char} (h : Whole text s) (parts : List Expr)
    (x : List Char) :
    Steps (State.initial.inside [around parts]) (text ++ ')' :: x) (closed parts s) x := by
  obtain ⟨rest, hrest⟩ := h.ends
  obtain ⟨hsteps, hskip⟩ := hrest _ (.close x)
  have hclose : step? (s.inside [around parts]) ')' x = some (closed parts s, x) := by
    simp only [step?]
    rw [closeGroup?_around parts h.frames]
    rfl
  exact (hsteps.inside _).trans (.step hskip hclose (.refl _ x))

/-- The text between the parentheses of a group that captures nothing. -/
def grouped (text : List Char) : List Char := '(' :: '?' :: ':' :: (text ++ [')'])

/-- A character of a text with one more is the last, or stands in the text. -/
theorem eq_or_eq_append_cons {text q x : List Char} {a b : Char} (h : text ++ [a] = q ++ b :: x) :
    (text = q ∧ a = b ∧ x = []) ∨ ∃ r, text = q ++ b :: r ∧ x = r ++ [a] := by
  rcases List.eq_nil_or_concat x with rfl | ⟨r, c, rfl⟩
  · obtain ⟨htext, hab⟩ := List.append_inj' h rfl
    exact .inl ⟨htext, (List.cons.inj hab).1, rfl⟩
  · rw [List.concat_eq_append, ← List.cons_append, ← List.append_assoc] at h
    obtain ⟨htext, hac⟩ := List.append_inj' h rfl
    exact .inr ⟨r, htext, by rw [List.concat_eq_append, hac]⟩

theorem steps_group (text : List Char) :
    Steps .initial ('(' :: '?' :: ':' :: text) (State.initial.inside [around []]) text :=
  .step rfl rfl (.refl _ text)

/-- A text is a whole if it is well-formed both by itself and as a group. -/
theorem exists_whole_iff {text : List Char} :
    (∃ s, Whole text s) ↔ (read? text).isSome ∧ (read? (grouped text)).isSome := by
  constructor
  · rintro ⟨s, h⟩
    have hsteps := (steps_group (text ++ [')'])).trans (h.steps_group [] [])
    have hread : read? (grouped text) = some (closed [] s).body :=
      read?_eq_some_iff.mpr ⟨_, [], hsteps, rfl, rfl, rfl⟩
    rw [h.read?_eq, hread]
    exact ⟨rfl, rfl⟩
  · rintro ⟨hself, hgroup⟩
    obtain ⟨e, he⟩ := Option.isSome_iff_exists.mp hgroup
    obtain ⟨u, rest, hsteps, hend, hframes, -⟩ := read?_eq_some_iff.mp he
    have hinside := (steps_group (text ++ [')'])).rest_of_end hsteps hend
    obtain ⟨q, x, s, htext, hwhole, -⟩ := hinside.exists_whole hframes
    rcases eq_or_eq_append_cons htext with ⟨rfl, -⟩ | ⟨r, rfl, -⟩
    · exact ⟨s, hwhole⟩
    · rw [hwhole.read?_eq_none] at hself
      cases hself

/-- Does a parenthesis of the text close a group that is opened before the text? What precedes the
parenthesis is then well-formed both by itself and as a group. -/
def ClosesEarly (text : List Char) : Prop :=
  ∃ q r, text = q ++ ')' :: r ∧ (read? q).isSome ∧ (read? (grouped q)).isSome

theorem closesEarly_iff {text : List Char} :
    ClosesEarly text ↔ ∃ q r s, text = q ++ ')' :: r ∧ Whole q s := by
  unfold ClosesEarly
  simp only [← exists_whole_iff, ← exists_and_left]

theorem ClosesEarly.read?_eq_none {text : List Char} (h : ClosesEarly text) :
    read? text = none := by
  obtain ⟨q, r, s, rfl, hq⟩ := closesEarly_iff.mp h
  exact hq.read?_eq_none

def anchoredText (text : List Char) : List Char :=
  '^' :: '(' :: '?' :: ':' :: (text ++ [')', '$'])

theorem steps_anchored (text : List Char) : Steps .initial ('^' :: '(' :: '?' :: ':' :: text)
    (State.initial.inside [around [.look .textStart]]) text :=
  .step rfl rfl (.step rfl rfl (.refl _ text))

theorem steps_dollar (parts : List Expr) (s : State) :
    Steps (closed parts s) ['$'] ((closed parts s).addPart (.look .textEnd)) [] :=
  .step rfl rfl (.refl _ [])

def anchoredExpr (e : Expr) : Expr :=
  .cat (.cat (.look .textStart) (.group false e)) (.look .textEnd)

/-- If a text between anchors is well-formed, either it is well-formed by itself or a parenthesis
in it closes the group of the anchors. -/
theorem read?_anchoredText {text : List Char} {e : Expr}
    (h : read? (anchoredText text) = some e) :
    ClosesEarly text ∨ ∃ e', read? text = some e' ∧ e = anchoredExpr e' := by
  obtain ⟨u, rest, hsteps, hend, hframes, hbody⟩ := read?_eq_some_iff.mp h
  have hinside := (steps_anchored _).rest_of_end hsteps hend
  obtain ⟨q, x, s, htext, hwhole, hafter⟩ := hinside.exists_whole hframes
  have htext' : (text ++ [')']) ++ ['$'] = q ++ ')' :: x := by
    rw [List.append_assoc]
    exact htext
  rcases eq_or_eq_append_cons htext' with ⟨-, hne, -⟩ | ⟨x, hclose, rfl⟩
  · cases hne
  rcases eq_or_eq_append_cons hclose with ⟨rfl, -, rfl⟩ | ⟨r, rfl, -⟩
  · right
    have hlast := (steps_dollar _ s).rest_of_end hafter hend
    cases hlast with
    | refl => exact ⟨s.body, hwhole.read?_eq, hbody.symm⟩
    | step hskip => cases hskip
  · exact .inl (closesEarly_iff.mpr ⟨q, r, s, rfl, hwhole⟩)

end AlertRouting.Regex
