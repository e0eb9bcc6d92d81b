import AlertRouting.CommandLine.Arguments
import AlertRouting.Proofs.CommandLine.LabelArgument
import AlertRouting.Proofs.NameMap.History
import AlertRouting.Proofs.Text.Utf8

/-!
# The order of label arguments

The labels of an alert are a map, so what is reported for it does not depend on the order in which
they are given, as long as no name is given twice. This is followed through the reading of the
arguments: those that give no labels are divided and taken in the same way, whatever the labels are.
-/
namespace AlertRouting.CommandLine

open NameMap (Reordered)

/-- Two answers to arguments are alike if they are the same, or ask for commands on the same file that
respond in the same way. -/
inductive Alike [Regex.SizeLimit] : Except Refusal Request → Except Refusal Request → Prop
  | same (answer : Except Refusal Request) : Alike answer answer
  | run {c c' : Command} (hpath : c'.path = c.path)
      (hrespond : ∀ content, c'.respond content = c.respond content) :
      Alike (.ok (.run c)) (.ok (.run c'))

def Item.label? : Item → Option (String × String)
  | .label text _ => (readLabel text).toOption
  | _ => none

def Item.labels (items : List Item) : List (String × String) := items.filterMap Item.label?

/-- Items that are the same but for labels that can be read, which may be other labels and joined to
their flags or not, and but for an operand that is one too many. -/
inductive SameButLabels : List Item → List Item → Prop
  | nil : SameButLabels [] []
  | cons {items items' : List Item} (item : Item) (h : SameButLabels items items') :
      SameButLabels (item :: items) (item :: items')
  | label {items items' : List Item} {text text' : String} {l l' : String × String}
      (joined joined' : Bool) (hread : readLabel text = .ok l) (hread' : readLabel text' = .ok l')
      (h : SameButLabels items items') :
      SameButLabels (.label text joined :: items) (.label text' joined' :: items')
  | operands (first second second' : String) (items items' : List Item) :
      SameButLabels (.operand first :: .operand second :: items)
        (.operand first :: .operand second' :: items')

def matchItems (args : List String) : List Item := Item.ofArguments Verb.resolve.flags args

def labelArguments (labels : List (String × String)) : List String :=
  labels.flatMap fun l => ["-l", l.1 ++ "=" ++ l.2]

def labelItems (labels : List (String × String)) : List Item :=
  labels.map fun l => .label (l.1 ++ "=" ++ l.2) false

variable {labels labels' : List (String × String)} {traced : Bool} {path : String} {verbosity : ℕ}
  {items items' : List Item}

theorem labelArguments_cons (l : String × String) (labels : List (String × String)) :
    labelArguments (l :: labels) = "-l" :: (l.1 ++ "=" ++ l.2) :: labelArguments labels :=
  rfl

theorem respond_of_reordered [Regex.SizeLimit] (h : Reordered labels labels')
    (content : Except ReadFault String) :
    (Command.mk (.resolve labels' traced) path verbosity).respond content =
      (Command.mk (.resolve labels traced) path verbosity).respond content := by
  have hreport (routes : Routes) : (Action.resolve labels' traced).report routes =
      (Action.resolve labels traced).report routes := by
    unfold Action.report
    cases traced <;> simp only [h.ofList_eq]
  simp only [Command.respond, Command.run, hreport]

/-! ## The labels of items -/

theorem readLabel_of_isLabelName {l : String × String} (h : isLabelName l.1) :
    readLabel (l.1 ++ "=" ++ l.2) = .ok l :=
  readLabel_eq_ok_iff.mpr ⟨rfl, LabelName.mem_words_iff.mpr h⟩

theorem labels_cons_of_ok {text : String} {label : String × String} {joined : Bool}
    (h : readLabel text = .ok label) :
    Item.labels (.label text joined :: items) = label :: Item.labels items := by
  simp [Item.labels, Item.label?, h, Except.toOption]

theorem labels_append (items items' : List Item) :
    Item.labels (items ++ items') = Item.labels items ++ Item.labels items' :=
  List.filterMap_append

theorem labels_labelItems (h : ∀ l ∈ labels, isLabelName l.1) :
    Item.labels (labelItems labels) = labels := by
  induction labels with
  | nil => rfl
  | cons l labels ih =>
    obtain ⟨hl, hnames⟩ := List.forall_mem_cons.mp h
    exact (labels_cons_of_ok (readLabel_of_isLabelName hl)).trans (by rw [← labelItems, ih hnames])

theorem labels_operands (texts : List String) : Item.labels (texts.map .operand) = [] := by
  simp [Item.labels, Item.label?, List.filterMap_map]

namespace SameButLabels

theorem refl (items : List Item) : SameButLabels items items := by
  induction items with
  | nil => exact .nil
  | cons item items ih => exact .cons item ih

theorem append_left (h : SameButLabels items items') (front : List Item) :
    SameButLabels (front ++ items) (front ++ items') := by
  induction front with
  | nil => exact h
  | cons item front ih => exact .cons item ih

theorem isStuck_eq (h : SameButLabels items items') (t : Taken) (labels : List (String × String)) :
    Taken.isStuck { t with labels := labels } items' = t.isStuck items := by
  cases h with
  | cons item h => cases item <;> rfl
  | _ => rfl

end SameButLabels

theorem sameButLabels_labelItems (h : labels.length = labels'.length)
    (hnames : ∀ l ∈ labels, isLabelName l.1) (hnames' : ∀ l ∈ labels', isLabelName l.1)
    (items : List Item) :
    SameButLabels (labelItems labels ++ items) (labelItems labels' ++ items) := by
  induction labels generalizing labels' with
  | nil =>
    rw [List.eq_nil_of_length_eq_zero h.symm]
    exact .refl _
  | cons l labels ih =>
    match labels', h with
    | l' :: labels', h =>
      obtain ⟨hl, hnames⟩ := List.forall_mem_cons.mp hnames
      obtain ⟨hl', hnames'⟩ := List.forall_mem_cons.mp hnames'
      exact .label false false (readLabel_of_isLabelName hl) (readLabel_of_isLabelName hl')
        (ih (Nat.succ.inj h) hnames hnames')

/-! ## Taking items -/

namespace Taken

variable {verb : Verb} {t : Taken}

theorem finish_of_isStuck (h : t.isStuck items) : finish verb t items = .error .usage := by
  cases items with
  | nil => cases h
  | cons item items =>
    cases item with
    | unknown => rfl
    | operand text =>
      have hpath : t.path.isSome = true := h
      simp [finish, hpath]
    | _ => cases h

/-- A label that can be read is taken, whatever stands behind it. -/
theorem finish_label {text : String} {label : String × String} {joined : Bool}
    (h : readLabel text = .ok label) : finish verb t (.label text joined :: items) =
      finish verb { t with labels := t.labels ++ [label] } items := by
  rw [finish, h]
  split_ifs with hstuck
  · have hitems : ({ t with labels := t.labels ++ [label] } : Taken).isStuck items :=
      (Bool.and_eq_true_iff.mp hstuck).2
    rw [finish_of_isStuck hitems]
  · rfl

/-- Two operands are one too many. -/
theorem finish_operands (first second : String) (items : List Item) :
    finish verb t (.operand first :: .operand second :: items) = .error .usage := by
  rw [finish]
  split_ifs
  · rfl
  · simp [finish]

theorem finish_nil [Regex.SizeLimit] (h : Reordered t.labels labels') :
    Alike (finish verb t []) (finish verb { t with labels := labels' } []) := by
  obtain ⟨verbosity, path, labels, traced⟩ := t
  cases path with
  | none => exact .same _
  | some path =>
    cases verb with
    | resolve => exact .run rfl fun content => respond_of_reordered h content
    | check => exact .same _
    | outline => exact .same _

/-- The answer is alike if the labels that have been taken, together with those that are still to
come, are the same in another order. -/
theorem finish_of_sameButLabels [Regex.SizeLimit] (hitems : SameButLabels items items')
    (h : Reordered (t.labels ++ Item.labels items) (labels' ++ Item.labels items')) :
    Alike (finish verb t items) (finish verb { t with labels := labels' } items') := by
  induction hitems generalizing t labels' with
  | nil => exact finish_nil (by simpa only [Item.labels, List.filterMap_nil, List.append_nil] using h)
  | label joined joined' hread hread' hitems ih =>
    rw [labels_cons_of_ok hread, labels_cons_of_ok hread'] at h
    rw [finish_label hread, finish_label hread']
    exact ih (by simpa only [List.append_assoc, List.singleton_append] using h)
  | operands first second second' items items' =>
    rw [finish_operands, finish_operands]
    exact .same _
  | cons item hitems ih =>
    cases item with
    | flag f =>
      cases f with
      | verbose => exact ih h
      | trace =>
        simp only [finish]
        split_ifs
        · exact .same _
        · exact ih h
      | _ => exact .same _
    | label text joined =>
      cases hread : readLabel text with
      | ok label =>
        rw [labels_cons_of_ok hread, labels_cons_of_ok hread] at h
        rw [finish_label hread, finish_label hread]
        exact ih (by simpa only [List.append_assoc, List.singleton_append] using h)
      | error fault =>
        simp only [finish, hread, hitems.isStuck_eq]
        exact .same _
    | operand text =>
      simp only [finish]
      split_ifs
      · exact .same _
      · exact ih h
    | _ => exact .same _

end Taken

/-! ## Dividing arguments -/

namespace Item

theorem not_isFlags_of_isLabelName {name : String} (h : isLabelName name) (value : String) :
    isFlags (name ++ "=" ++ value) = false := by
  obtain ⟨c, rest, hc, hname⟩ := exists_of_isLabelName h
  have hlist : (name ++ "=" ++ value).toList = c :: (rest ++ '=' :: value.toList) := by
    simp [hname]
  have hne : c ≠ '-' := by
    rintro rfl
    cases hc
  rw [isFlags, hlist]
  split
  · next heq => exact absurd (List.cons.inj heq).1 hne
  · rfl

end Item

/-- The flag for a label takes the next argument as its value, unless this has the form of flags. -/
theorem matchItems_label (text : String) (behind : List String) :
    matchItems ("-l" :: text :: behind) =
      if Item.isFlags text then [.missingValue] else .label text false :: matchItems behind := by
  have hflag : Item.ofArgument Verb.resolve.flags "-l" = ([], true) := by decide
  rw [matchItems, Item.ofArguments, if_neg (by decide), hflag]
  rfl

theorem matchItems_labelArguments (behind : List String) (hnames : ∀ l ∈ labels, isLabelName l.1) :
    matchItems (labelArguments labels ++ behind) = labelItems labels ++ matchItems behind := by
  induction labels with
  | nil => rfl
  | cons l labels ih =>
    obtain ⟨hl, hnames⟩ := List.forall_mem_cons.mp hnames
    rw [labelArguments_cons, List.cons_append, List.cons_append, matchItems_label,
      Item.not_isFlags_of_isLabelName hl, ih hnames]
    rfl

/-- What is made of arguments that stand in front of the flag for a label: the flag is taken as such,
or as an operand behind two dashes, or stands where a value should be. -/
inductive InFront (front : List String) : List Item → Prop
  | goesOn {items : List Item} (h : ∀ behind, matchItems (front ++ "-l" :: behind) =
      items ++ matchItems ("-l" :: behind)) : InFront front items
  | operands {items : List Item} (h : ∀ behind, matchItems (front ++ "-l" :: behind) =
      items ++ ("-l" :: behind).map .operand) : InFront front items
  | noValue {items : List Item} (h : ∀ behind, matchItems (front ++ "-l" :: behind) = items) :
      InFront front items

theorem InFront.prepend {front more : List String} (h : InFront front items) (first : List Item)
    (hmore : ∀ behind, matchItems (more ++ "-l" :: behind) =
      first ++ matchItems (front ++ "-l" :: behind)) :
    InFront more (first ++ items) := by
  cases h with
  | goesOn h => exact .goesOn fun behind => by rw [hmore, h, List.append_assoc]
  | operands h => exact .operands fun behind => by rw [hmore, h, List.append_assoc]
  | noValue h => exact .noValue fun behind => by rw [hmore, h]

theorem exists_inFront (front : List String) : ∃ items, InFront front items := by
  fun_induction Item.ofArguments Verb.resolve.flags front with
  | case1 => exact ⟨[], .goesOn fun behind => rfl⟩
  | case2 rest =>
    exact ⟨rest.map .operand, .operands fun behind => by simp [matchItems, Item.ofArguments]⟩
  | case3 a ha read hread =>
    have hflags : Item.isFlags "-l" := by decide
    exact ⟨read.1 ++ [.missingValue], .noValue fun behind => by
      simp [matchItems, Item.ofArguments, ha, read, hread, hflags]⟩
  | case4 a ha read hread value rest hvalue =>
    exact ⟨read.1 ++ [.missingValue], .noValue fun behind => by
      simp [matchItems, Item.ofArguments, ha, read, hread, hvalue]⟩
  | case5 a ha read hread value rest hvalue ih =>
    obtain ⟨items, h⟩ := ih
    exact ⟨_, h.prepend (read.1 ++ [.label value false]) fun behind => by
      simp [matchItems, Item.ofArguments, ha, read, hread, hvalue]⟩
  | case6 a rest ha read hread ih =>
    obtain ⟨items, h⟩ := ih
    exact ⟨_, h.prepend read.1 fun behind => by
      simp [matchItems, Item.ofArguments, ha, read, hread]⟩

/-! ## The order of labels -/

/-- The answer to a match is alike if the labels are given in another order. -/
theorem alike_of_sameButLabels [Regex.SizeLimit] {args args' : List String}
    (hitems : SameButLabels (matchItems args) (matchItems args'))
    (h : Reordered (Item.labels (matchItems args)) (Item.labels (matchItems args')))
    (verbosity : ℕ) :
    Alike (Request.ofArguments verbosity ("match" :: args))
      (Request.ofArguments verbosity ("match" :: args')) := by
  have hanswer (args : List String) : Request.ofArguments verbosity ("match" :: args) =
      Taken.finish .resolve ⟨verbosity, none, [], false⟩ (matchItems args) := rfl
  rw [hanswer, hanswer]
  exact Taken.finish_of_sameButLabels hitems h

/-- The answer to arguments with labels in one order is alike to that with the labels in another. -/
theorem alike_of_reordered [Regex.SizeLimit] (h : Reordered labels labels')
    (hnames : ∀ l ∈ labels, isLabelName l.1) (verbosity : ℕ) (front behind : List String) :
    Alike (Request.ofArguments verbosity ("match" :: (front ++ (labelArguments labels ++ behind))))
      (Request.ofArguments verbosity ("match" :: (front ++ (labelArguments labels' ++ behind)))) := by
  have hnames' : ∀ l ∈ labels', isLabelName l.1 := fun l hl => hnames l (h.perm.mem_iff.mpr hl)
  have htail := matchItems_labelArguments behind hnames
  have htail' := matchItems_labelArguments behind hnames'
  have hsame := sameButLabels_labelItems h.perm.length_eq hnames hnames' (matchItems behind)
  obtain ⟨items, hfront⟩ := exists_inFront front
  match labels, labels', h.perm.length_eq with
  | [], [], _ => exact .same _
  | l :: labels, l' :: labels', _ =>
    rw [labelArguments_cons, List.cons_append, List.cons_append] at htail htail' ⊢
    rw [labelArguments_cons, List.cons_append, List.cons_append]
    cases hfront with
    | goesOn hfront =>
      refine alike_of_sameButLabels ?_ ?_ verbosity
      · rw [hfront, hfront, htail, htail']
        exact hsame.append_left items
      · simp only [hfront, htail, htail', labels_append, labels_labelItems hnames,
          labels_labelItems hnames']
        exact (h.append_right _).append_left _
    | operands hfront =>
      refine alike_of_sameButLabels ?_ ?_ verbosity
      · rw [hfront, hfront]
        exact (SameButLabels.operands ..).append_left items
      · rw [hfront, hfront, labels_append, labels_append, labels_operands, labels_operands]
        exact .refl _
    | noValue hfront =>
      refine alike_of_sameButLabels ?_ ?_ verbosity
      · rw [hfront, hfront]
        exact .refl _
      · rw [hfront, hfront]
        exact .refl _

end AlertRouting.CommandLine

namespace AlertRouting

open CommandLine NameMap

/-- However labels have been written, they come in the order of the bytes of their names, each with
the text that was written last for its name, and there are as many as names that were written. To
insert a label gives back what was there under its name, and changes nothing under other names. Labels
are given by what is found under each name, and so is their text. So pairs with different names may be
collected in any order, and given in any order to a command that matches an alert: as arguments in
each other's places, or one after another between any other arguments. -/
theorem Labels.hold_what_is_written [Regex.SizeLimit] :
    (∀ ops : List (Operation String),
      ((after ops).names.map Text.bytes).Pairwise (· < ·) ∧
      (∀ name value, (name, value) ∈ (after ops).entries ↔ (after ops).get? name = some value) ∧
      (∀ name, (after ops).get? name =
        (((written ops).filter (·.1 = name)).getLast?).map (·.2)) ∧
      (after ops).size = ((written ops).map (·.1)).toFinset.card ∧
      ∀ name value, ((Operation.insert name value).apply (after ops)).1 = (after ops).get? name ∧
        ∀ other, (after (ops ++ [.insert name value])).get? other =
          if other = name then some value else (after ops).get? other) ∧
    (∀ l l' : Labels, (l = l' ↔ ∀ name, l.get? name = l'.get? name) ∧
      ((∀ name, l.get? name = l'.get? name) → l.text = l'.text)) ∧
    (∀ pairs pairs' : List (String × String),
      Reordered pairs pairs' ∨ (pairs.Perm pairs' ∧ (pairs.map (·.1)).Nodup) →
        (NameMap.ofList pairs : Labels) = NameMap.ofList pairs') ∧
    (∀ labels labels' traced path verbosity content, Reordered labels labels' →
      (Command.mk (.resolve labels' traced) path verbosity).respond content =
        (Command.mk (.resolve labels traced) path verbosity).respond content) ∧
    (∀ args args', SameButLabels (matchItems args) (matchItems args') →
      Reordered (Item.labels (matchItems args)) (Item.labels (matchItems args')) →
      ∀ verbosity, Alike (Request.ofArguments verbosity ("match" :: args))
        (Request.ofArguments verbosity ("match" :: args'))) ∧
    ∀ labels labels', Reordered labels labels' → (∀ l ∈ labels, isLabelName l.1) →
      ∀ verbosity front behind, Alike
        (Request.ofArguments verbosity ("match" :: (front ++ (labelArguments labels ++ behind))))
        (Request.ofArguments verbosity
          ("match" :: (front ++ (labelArguments labels' ++ behind)))) := by
  refine ⟨fun ops => ⟨?_, ?_, ?_, ?_, fun name value => ⟨?_, fun other => ?_⟩⟩,
    fun l l' => ⟨eq_iff_get?_eq, fun h => ?_⟩, ?_, ?_, ?_, ?_⟩
  · exact List.pairwise_map.mpr ((after ops).pairwise_names.imp Text.bytes_lt)
  · exact fun name value => get?_eq_some_iff.symm
  · exact fun name => by rw [after_eq, get?_ofList]
  · rw [after_eq, size_ofList_eq_card]
  · rw [Operation.apply, exchange_eq]
  · have hafter : after (ops ++ [.insert name value]) = (after ops).insert name value := by
      simp [after, Operation.apply, exchange_eq]
    rw [hafter, get?_insert]
  · rw [eq_iff_get?_eq.mpr h]
  · rintro pairs pairs' (h | ⟨h, hnames⟩)
    · exact h.ofList_eq
    · exact (Reordered.of_perm h hnames).ofList_eq
  · exact fun _ _ _ _ _ content h => respond_of_reordered h content
  · exact fun _ _ hitems h verbosity => alike_of_sameButLabels hitems h verbosity
  · exact fun _ _ h hnames verbosity front behind => alike_of_reordered h hnames verbosity front behind

attribute [local instance] Regex.SizeLimit.unlimited

def zoneLabels : List (String × String) := [("zone", "eu"), ("app", "web"), ("zone", "us")]

def appFirst : List (String × String) := [("app", "web"), ("zone", "eu"), ("zone", "us")]

/-- The labels in this order are the same, without the last one also in the reverse order, and the
answer to them is alike, also if other arguments stand between them. -/
theorem Labels.hold_what_is_written_zone :
    Reordered zoneLabels appFirst ∧
    (NameMap.ofList zoneLabels : Labels) = NameMap.ofList appFirst ∧
    (zoneLabels.take 2).Perm (appFirst.take 2) ∧ ((zoneLabels.take 2).map (·.1)).Nodup ∧
    (NameMap.ofList (zoneLabels.take 2) : Labels) = NameMap.ofList (appFirst.take 2) ∧
    (Command.mk (.resolve appFirst false) "routes.json" 0).respond (.ok "[]") =
      (Command.mk (.resolve zoneLabels false) "routes.json" 0).respond (.ok "[]") ∧
    Alike (Request.ofArguments 0 ["match", "-l", "zone=eu", "routes.json", "--label=app=web"])
      (Request.ofArguments 0 ["match", "-lapp=web", "routes.json", "-l", "zone=eu"]) ∧
    (∀ l ∈ zoneLabels, isLabelName l.1) ∧
    Alike
      (Request.ofArguments 0
        ("match" :: (["routes.json"] ++ (labelArguments zoneLabels ++ ["--trace"]))))
      (Request.ofArguments 0
        ("match" :: (["routes.json"] ++ (labelArguments appFirst ++ ["--trace"])))) := by
  have hreordered : Reordered zoneLabels appFirst := .swap [("zone", "us")] (by decide)
  have hperm : (zoneLabels.take 2).Perm (appFirst.take 2) := .swap _ _ []
  have hnodup : ((zoneLabels.take 2).map (·.1)).Nodup := by decide
  have hnames : ∀ l ∈ zoneLabels, isLabelName l.1 := by decide
  have hzone : readLabel "zone=eu" = .ok ("zone", "eu") := by decide
  have happ : readLabel "app=web" = .ok ("app", "web") := by decide
  have hitems : matchItems ["-l", "zone=eu", "routes.json", "--label=app=web"] =
      [.label "zone=eu" false, .operand "routes.json", .label "app=web" true] := by decide +kernel
  have hitems' : matchItems ["-lapp=web", "routes.json", "-l", "zone=eu"] =
      [.label "app=web" true, .operand "routes.json", .label "zone=eu" false] := by decide +kernel
  have hsame : SameButLabels (matchItems ["-l", "zone=eu", "routes.json", "--label=app=web"])
      (matchItems ["-lapp=web", "routes.json", "-l", "zone=eu"]) := by
    rw [hitems, hitems']
    exact .label _ _ hzone happ (.cons _ (.label _ _ happ hzone .nil))
  have hswap : Reordered
      (Item.labels (matchItems ["-l", "zone=eu", "routes.json", "--label=app=web"]))
      (Item.labels (matchItems ["-lapp=web", "routes.json", "-l", "zone=eu"])) := by
    rw [hitems, hitems']
    exact .swap [] (by decide)
  obtain ⟨-, -, hcollect, hrespond, hslots, halike⟩ := hold_what_is_written
  exact ⟨hreordered, hcollect _ _ (.inl hreordered), hperm, hnodup,
    hcollect _ _ (.inr ⟨hperm, hnodup⟩), hrespond _ _ _ _ _ _ hreordered,
    hslots _ _ hsame hswap 0, hnames,
    halike _ _ hreordered hnames 0 ["routes.json"] ["--trace"]⟩

end AlertRouting
