import AlertRouting.Policy
import AlertRouting.Proofs.Duration.Amounts
import AlertRouting.Proofs.NameMap.Names
import Mathlib.Data.Set.Basic

/-!
# The texts of policies

The text of a policy shows four of its parts. They can be told from it whatever characters there are
in the target and in the grouping.
-/
namespace AlertRouting

theorem NameSet.entries_eq (s : NameSet) : s.entries = s.names.map fun n => (n, ()) := by
  rw [NameMap.names, List.map_map]
  exact (List.map_id s.entries).symm

/-- A set of names is given by its names. -/
theorem NameSet.ext_names {s t : NameSet} (h : s.names = t.names) : s = t :=
  NameMap.ext_entries (by rw [s.entries_eq, t.entries_eq, h])

/-- A set of names is given by which names are in it, since they come in order. -/
theorem NameSet.ext_mem {s t : NameSet} (h : ∀ n, n ∈ s.names ↔ n ∈ t.names) : s = t := by
  have hnames : s.names.Perm t.names :=
    (List.perm_ext_iff_of_nodup s.nodup_names t.nodup_names).mpr h
  have hentries : s.entries.Perm t.entries := by
    rw [s.entries_eq, t.entries_eq]
    exact hnames.map _
  exact NameMap.ext_perm hentries

theorem NameSet.eq_of_text_append {s t : NameSet} {x y : List Char}
    (h : s.text.toList ++ x = t.text.toList ++ y) : s = t ∧ x = y := by
  obtain ⟨hnames, hx⟩ := Text.selfDelimiting_quote.eq_of_braces_append
    (fun _ _ => Set.mem_univ _) (fun _ _ => Set.mem_univ _) h
  exact ⟨NameSet.ext_names hnames, hx⟩

theorem Duration.notMem_text {c : Char} (hc : c.isAlphanum = false) (hblank : c ≠ ' ')
    (d : Duration) : c ∉ d.text.toList := by
  intro h
  rcases isAlphanum_or_blank_of_mem_text h with hmem | hmem
  · rw [hmem] at hc
    cases hc
  · exact hblank hmem

structure Policy.Shown where
  target : String
  groupBy : NameSet
  groupWait : Duration
  groupInterval : Duration

namespace Policy

def shown (p : Policy) : Shown := ⟨p.target, p.groupBy, p.groupWait, p.groupInterval⟩

theorem toList_text_append (p : Policy) (x : List Char) : p.text.toList ++ x =
    "<RouteOptions target:".toList ++ ((Text.quote p.target).toList ++ (" group_by:".toList ++
      (p.groupBy.text.toList ++ (" timers:\"".toList ++ (p.groupWait.text.toList ++ '"' ::
        ("|\"".toList ++ (p.groupInterval.text.toList ++ '"' :: '>' :: x))))))) := by
  have hbetween : "\"|\"".toList = '"' :: "|\"".toList := rfl
  have hend : "\">".toList = ['"', '>'] := rfl
  unfold text
  simp only [String.toList_append, List.append_assoc, hbetween, hend, List.cons_append,
    List.nil_append]

/-- The parts that are shown can be told from the text, whatever stands behind it. -/
theorem shown_eq_of_text_append {p q : Policy} {x y : List Char}
    (h : p.text.toList ++ x = q.text.toList ++ y) : p.shown = q.shown ∧ x = y := by
  have hquote (d : Duration) : '"' ∉ d.text.toList := d.notMem_text (by decide) (by decide)
  rw [toList_text_append, toList_text_append] at h
  obtain ⟨htarget, h⟩ := Text.eq_of_quote_append (List.append_cancel_left h)
  obtain ⟨hgroup, h⟩ := NameSet.eq_of_text_append (List.append_cancel_left h)
  obtain ⟨hwait, h⟩ := Text.eq_of_append_cons (hquote _) (hquote _) (List.append_cancel_left h)
  obtain ⟨hinterval, h⟩ :=
    Text.eq_of_append_cons (hquote _) (hquote _) (List.append_cancel_left h)
  rw [String.toList_inj] at hwait hinterval
  refine ⟨?_, (List.cons.inj h).2⟩
  rw [shown, shown, htarget, hgroup, Duration.text_injective hwait,
    Duration.text_injective hinterval]

theorem text_eq_of_shown {p q : Policy} (h : p.shown = q.shown) : p.text = q.text := by
  simp only [shown, Shown.mk.injEq] at h
  obtain ⟨htarget, hgroup, hwait, hinterval⟩ := h
  unfold text
  rw [htarget, hgroup, hwait, hinterval]

theorem text_eq_iff_shown {p q : Policy} : p.text = q.text ↔ p.shown = q.shown := by
  constructor
  · intro h
    have happend : p.text.toList ++ [] = q.text.toList ++ [] := by rw [h]
    exact (shown_eq_of_text_append happend).1
  · exact text_eq_of_shown

/-- Policies show the same if and only if they are the same in their parts that are shown, where it
matters which names are in the grouping. -/
theorem shown_eq_iff {p q : Policy} : p.shown = q.shown ↔ p.target = q.target ∧
    (∀ n, n ∈ p.groupBy.names ↔ n ∈ q.groupBy.names) ∧ p.groupWait = q.groupWait ∧
      p.groupInterval = q.groupInterval := by
  have hgroup : p.groupBy = q.groupBy ↔ ∀ n, n ∈ p.groupBy.names ↔ n ∈ q.groupBy.names :=
    ⟨fun h n => h ▸ Iff.rfl, NameSet.ext_mem⟩
  rw [shown, shown, Shown.mk.injEq, hgroup]

/-- The text of a policy shows its target, the names in its grouping, and how long it waits before
the first notification of a group and before the next, whatever these are. It shows nothing else: the
other two parts may be changed without changing the text. -/
theorem text_shows_four_parts (p q : Policy) :
    (p.text = q.text ↔ p.target = q.target ∧
      (∀ n, n ∈ p.groupBy.names ↔ n ∈ q.groupBy.names) ∧ p.groupWait = q.groupWait ∧
        p.groupInterval = q.groupInterval) ∧
    ∀ (sendResolved : Bool) (repeatInterval : Duration),
      ({ p with sendResolved, repeatInterval } : Policy).text = p.text := by
  constructor
  · rw [text_eq_iff_shown, shown_eq_iff]
  · intro sendResolved repeatInterval
    have hshown : ({ p with sendResolved, repeatInterval } : Policy).shown = p.shown := rfl
    exact text_eq_of_shown hshown

/-- A target may look like the end of its own text and a grouping. -/
example : ({ fallback with target := "a\" group_by:\x7b\"b" } : Policy).text ≠
    ({ fallback with target := "a", groupBy := .ofNames ["b"] } : Policy).text := by decide +kernel

theorem newline_notMem_text (p : Policy) : '\n' ∉ p.text.toList := by
  have hgroup : '\n' ∉ p.groupBy.text.toList :=
    Text.notMem_braces (List.forall_mem_map.mpr fun n _ => Text.newline_notMem_quote n) (by decide)
  have htimer (d : Duration) : '\n' ∉ d.text.toList := d.notMem_text (by decide) (by decide)
  unfold text
  simp only [String.toList_append, List.mem_append, not_or]
  exact ⟨⟨⟨⟨⟨⟨⟨⟨by decide, Text.newline_notMem_quote _⟩, by decide⟩, hgroup⟩, by decide⟩, htimer _⟩,
    by decide⟩, htimer _⟩, by decide⟩

end Policy

end AlertRouting
