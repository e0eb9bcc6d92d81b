import AlertRouting.Proofs.Regex.StepLocality

/-!
# Groups inside groups

What is read inside a group does not depend on the groups around it, until the group is closed. So
a run inside a group is one of its own up to the parenthesis that closes the group, and then one of
the groups around it.
-/
namespace AlertRouting.Regex

namespace State

variable (s : State) (outer : List Frame)

def inside : State := { s with frames := s.frames ++ outer }

@[simp]
theorem inside_flags : (s.inside outer).flags = s.flags := rfl

@[simp]
theorem inside_names : (s.inside outer).names = s.names := rfl

theorem repeat?_inside (least : ℕ) (most : Option ℕ) :
    (s.inside outer).repeat? least most = (s.repeat? least most).map fun t => t.inside outer := by
  unfold repeat? inside
  dsimp only
  split
  · rfl
  · rfl
  · rfl

theorem closeGroup?_inside (h : s.frames ≠ []) :
    (s.inside outer).closeGroup? = s.closeGroup?.map fun t => t.inside outer := by
  obtain ⟨frame, frames, hframes⟩ := List.exists_cons_of_ne_nil h
  simp only [closeGroup?, inside, hframes]
  rfl

end State

variable (s : State) (outer : List Frame)

theorem openNamed?_inside (cs : List Char) : openNamed? (s.inside outer) cs =
    (openNamed? s cs).map fun p => (p.1.inside outer, p.2) := by
  unfold openNamed?
  dsimp only [State.inside_flags, State.inside_names]
  by_cases h : (isGroupName (cs.takeWhile (· != '>')) &&
      !s.names.contains (String.ofList (cs.takeWhile (· != '>')))) = true
  · simp only [h, if_true]
    split <;> rfl
  · simp only [h]
    split <;> rfl

theorem flagsEnd?_inside (letters cs : List Char) : flagsEnd? (s.inside outer) letters cs =
    (flagsEnd? s letters cs).map fun p => (p.1.inside outer, p.2) := by
  cases cs with
  | nil => rfl
  | cons last more =>
    unfold flagsEnd?
    dsimp only [State.inside_flags, State.inside_names]
    rw [Option.map_bind]
    apply Option.bind_congr
    intro flags _
    simp only [Function.comp_apply]
    split_ifs
    · rfl
    · rfl
    · rfl

theorem angleGroup?_inside (cs : List Char) : angleGroup? (s.inside outer) cs =
    (angleGroup? s cs).map fun p => (p.1.inside outer, p.2) := by
  unfold angleGroup?
  split
  · rfl
  · unfold angleGroup?.notBehind?
    split
    · rfl
    · exact openNamed?_inside s outer _

theorem markedGroup?_inside (cs : List Char) : markedGroup? (s.inside outer) cs =
    (markedGroup? s cs).map fun p => (p.1.inside outer, p.2) := by
  unfold markedGroup?
  split
  · exact openNamed?_inside s outer _
  · exact angleGroup?_inside s outer _
  · exact flagsEnd?_inside s outer _ _

theorem readGroup?_inside (cs : List Char) : readGroup? (s.inside outer) cs =
    (readGroup? s cs).map fun p => (p.1.inside outer, p.2) := by
  rw [readGroup?_eq, readGroup?_eq, State.inside_flags]
  unfold groupFrom?
  split
  · exact markedGroup?_inside s outer _
  · rfl

theorem readCounted?_inside (cs : List Char) : readCounted? (s.inside outer) cs =
    (readCounted? s cs).map fun p => (p.1.inside outer, p.2) := by
  rw [readCounted?_eq, readCounted?_eq, State.inside_flags, Option.map_bind]
  apply Option.bind_congr
  rintro ⟨least, rest⟩ -
  rw [Function.comp_apply, Option.map_bind]
  apply Option.bind_congr
  rintro ⟨most, rest⟩ -
  rw [Function.comp_apply]
  unfold countedEnd?
  split
  · rw [State.inside_flags, State.repeat?_inside]
    split_ifs
    · rfl
    · rw [Option.map_map, Option.map_map]
      rfl
  · rfl

/-- A step stays inside the groups around, unless it is one that closes the group. -/
theorem step?_inside {c : Char} (h : c = ')' → s.frames ≠ []) (rest : List Char) :
    step? (s.inside outer) c rest = (step? s c rest).map fun p => (p.1.inside outer, p.2) := by
  unfold step?
  split
  · exact readGroup?_inside s outer rest
  · rw [State.closeGroup?_inside s outer (h rfl), Option.map_map, Option.map_map]
    rfl
  · rfl
  · rw [State.inside_flags, Option.map_map]
    rfl
  · rw [State.repeat?_inside, Option.map_map, Option.map_map]
    rfl
  · rw [State.repeat?_inside, Option.map_map, Option.map_map]
    rfl
  · rw [State.repeat?_inside, Option.map_map, Option.map_map]
    rfl
  · exact readCounted?_inside s outer rest
  · simp only [State.inside_flags, Option.bind_eq_bind, Option.map_bind, Function.comp_def]
    rfl

inductive Steps : State → List Char → State → List Char → Prop
  | refl (s : State) (cs : List Char) : Steps s cs s cs
  | step {s t u : State} {c : Char} {cs rest mid more : List Char}
      (hskip : s.flags.skip cs = c :: rest) (hstep : step? s c rest = some (t, mid))
      (hsteps : Steps t mid u more) : Steps s cs u more

theorem Steps.suffix {s t : State} {cs rest : List Char} (h : Steps s cs t rest) : rest <:+ cs := by
  induction h with
  | refl s cs => exact List.suffix_rfl
  | step hskip hstep _ ih =>
    have hrest := (localIf_step? _ _).suffix hstep
    have hcons := hskip ▸ Flags.skip_suffix _ _
    exact ((ih.trans hrest).trans (List.suffix_cons _ _)).trans hcons

theorem Steps.trans {s t u : State} {cs mid rest : List Char} (h : Steps s cs t mid)
    (h' : Steps t mid u rest) : Steps s cs u rest := by
  induction h with
  | refl => exact h'
  | step hskip hstep _ ih => exact .step hskip hstep (ih h')

theorem Flags.skip_brace (f : Flags) (cs : List Char) : f.skip ('\x7b' :: cs) = '\x7b' :: cs := by
  unfold skip
  split_ifs
  · rw [dropBlank]
    rfl
  · rfl

/-- A brace that the reader takes for a repetition has more before the parenthesis. -/
theorem Steps.braceGoesOn {s t : State} {cs rest x : List Char}
    (h : Steps s (cs ++ ')' :: x) t (rest ++ ')' :: x))
    (hend : t.flags.skip (rest ++ ')' :: x) = ')' :: x) : s.flags.BraceGoesOn cs := by
  rintro more rfl
  generalize hcs : '\x7b' :: more ++ ')' :: x = cs' at h
  generalize hrest : rest ++ ')' :: x = rest' at h
  cases h with
  | refl =>
    rw [hrest, ← hcs, List.cons_append, Flags.skip_brace] at hend
    cases hend
  | step hskip hstep hsteps =>
    subst hrest
    rw [← hcs, List.cons_append, Flags.skip_brace] at hskip
    obtain ⟨rfl, rfl⟩ := List.cons.inj hskip
    obtain ⟨mid, rfl, -⟩ := exists_append_of_suffix hsteps.suffix
    have hcounted := (local_readCounted? s).change more hstep trivial .nil
    rw [List.append_nil] at hcounted
    exact skip_ne_nil_of_readCounted? hcounted

/-- A run that ends before a closing parenthesis ends in the same way before any other, and at the
end of the pattern. -/
theorem Steps.change {s t : State} {cs rest x : List Char}
    (h : Steps s (cs ++ ')' :: x) t (rest ++ ')' :: x))
    (hend : t.flags.skip (rest ++ ')' :: x) = ')' :: x) {y : List Char} (hy : IsEnd y) :
    Steps s (cs ++ y) t (rest ++ y) := by
  generalize hcs : cs ++ ')' :: x = cs' at h
  generalize hrest : rest ++ ')' :: x = rest' at h
  induction h generalizing cs with
  | refl s cs' =>
    obtain rfl : cs = rest := List.append_cancel_right (hcs.trans hrest.symm)
    exact .refl s _
  | @step s t u c cs' more mid rest' hskip hstep hsteps ih =>
    subst hrest hcs
    obtain ⟨mid, rfl, -⟩ := exists_append_of_suffix hsteps.suffix
    obtain ⟨more, rfl, -⟩ := exists_append_of_suffix ((localIf_step? s c).suffix hstep)
    have hstep' := (localIf_step? s c).change more hstep (hsteps.braceGoesOn hend) hy
    have hskip' : s.flags.skip (cs ++ y) = c :: more ++ y := s.flags.skip_change cs hskip hy
    exact .step hskip' hstep' (ih hend rfl rfl)

/-- A run of a group is one inside other groups. -/
theorem Steps.inside {s t : State} {cs rest : List Char} (h : Steps s cs t rest)
    (outer : List Frame) : Steps (s.inside outer) cs (t.inside outer) rest := by
  induction h with
  | refl s cs => exact .refl _ cs
  | @step s t u c cs rest mid more hskip hstep _ ih =>
    have hframes : c = ')' → s.frames ≠ [] := by
      rintro rfl hframes
      simp [step?, State.closeGroup?, hframes] at hstep
    have hskip' : (s.inside outer).flags.skip cs = c :: rest := hskip
    have hstep' : step? (s.inside outer) c rest = some (t.inside outer, mid) := by
      rw [step?_inside s outer hframes, hstep]
      rfl
    exact .step hskip' hstep' ih

/-- A run inside groups stays there, or there is a parenthesis that closes the innermost of them, up
to which it is a run of its own. -/
theorem Steps.stays_or_leaves {s u : State} {outer : List Frame} {cs rest : List Char}
    (h : Steps (s.inside outer) cs u rest) :
    (∃ t, u = t.inside outer ∧ Steps s cs t rest) ∨
      ∃ t mid x v, Steps s cs t mid ∧ t.frames = [] ∧ t.flags.skip mid = ')' :: x ∧
        (t.inside outer).closeGroup? = some v ∧ Steps v x u rest := by
  generalize hs : s.inside outer = s' at h
  induction h generalizing s with
  | refl s' cs =>
    subst hs
    exact .inl ⟨s, rfl, .refl s cs⟩
  | @step s' t u c cs rest mid more hskip hstep hsteps ih =>
    subst hs
    by_cases hclose : c = ')' ∧ s.frames = []
    · obtain ⟨rfl, hframes⟩ := hclose
      obtain ⟨v, hv, hvt⟩ := Option.map_eq_some_iff.mp hstep
      obtain ⟨rfl, rfl⟩ := Prod.mk.inj hvt
      exact .inr ⟨s, cs, rest, v, .refl s cs, hframes, hskip, hv, hsteps⟩
    · have hframes : c = ')' → s.frames ≠ [] := fun hc hf => hclose ⟨hc, hf⟩
      rw [step?_inside s outer hframes] at hstep
      obtain ⟨⟨t', mid'⟩, hstep', ht⟩ := Option.map_eq_some_iff.mp hstep
      obtain ⟨rfl, rfl⟩ := Prod.mk.inj ht
      rcases ih rfl with ⟨w, rfl, hw⟩ | ⟨w, more', x, v, hw, hrest⟩
      · exact .inl ⟨w, rfl, .step hskip hstep' hw⟩
      · exact .inr ⟨w, more', x, v, .step hskip hstep' hw, hrest⟩

end AlertRouting.Regex
