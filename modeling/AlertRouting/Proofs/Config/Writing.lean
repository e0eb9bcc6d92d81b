import AlertRouting.Config.OfJson
import AlertRouting.Proofs.NameMap.Names

/-!
# Writing configurations in JSON

There are many ways to write the same configuration. A configuration and every route is an object of
its fields in any order, or an array of them in a fixed order. A field that has its default may be
left out; in an array only those at the end can be.
-/
namespace AlertRouting

namespace Json

/-- Are these the fields of a record, each at most once? `writes` tells what may stand for the field
of a name, and whether it may be left out. -/
structure WritesFields (names : List String) (writes : String → Option Json → Prop)
    (fields : List (String × Json)) : Prop where
  nodup : (fields.map (·.1)).Nodup
  known : ∀ f ∈ fields, f.1 ∈ names
  written : ∀ f ∈ fields, writes f.1 (some f.2)
  omitted : ∀ name ∈ names, name ∉ fields.map (·.1) → writes name none

inductive WritesRecord (names : List String) (writes : String → Option Json → Prop) : Json → Prop
  | object {fields : List (String × Json)} (h : WritesFields names writes fields) :
      WritesRecord names writes (.object fields)
  | array {items : List Json} (hlength : items.length ≤ names.length)
      (h : WritesFields names writes (names.zip items)) : WritesRecord names writes (.array items)

def WritesDuration : Option Duration → Json → Prop
  | none, j => j = null
  | some d, j => ∃ text, Duration.ofText? text = some d ∧ j = string text

def WritesLabels (l : Labels) (j : Json) : Prop :=
  ∃ pairs : List (String × String), pairs.Perm l.entries ∧
    j = object (pairs.map fun p => (p.1, string p.2))

end Json

/-- May this be written for the field of a route, or nothing if the field has its default?
`writesRoutes` tells it for the routes inside. -/
def Settings.Writes (s : Settings) (writesRoutes : Option Json → Prop) (name : String)
    (v : Option Json) : Prop :=
  match name with
  | "send_to" => v.elim (s.sendTo = none) (· = s.sendTo.elim .null .string)
  | "group_by" => v.elim (s.groupBy = []) (· = .array (s.groupBy.map .string))
  | "group_wait" => v.elim (s.groupWait = none) (Json.WritesDuration s.groupWait)
  | "group_interval" => v.elim (s.groupInterval = none) (Json.WritesDuration s.groupInterval)
  | "repeat_interval" => v.elim (s.repeatInterval = none) (Json.WritesDuration s.repeatInterval)
  | "send_resolved" => v.elim (s.sendResolved = none) (· = s.sendResolved.elim .null .bool)
  | "match" => v.elim (s.exact = ∅) (Json.WritesLabels s.exact)
  | "match_re" => v.elim (s.patterns = ∅) (Json.WritesLabels s.patterns)
  | "continue" => v.elim (s.continues = false) (· = .bool s.continues)
  | "routes" => writesRoutes v
  | _ => False

/-- Are these the routes of a level, each written in some way? -/
def Config.Writes : Config → List Json → Prop
  | .nil, items => items = []
  | .node s inner rest, items => ∃ j more, items = j :: more ∧
      Json.WritesRecord Settings.fieldNames
        (s.Writes fun v =>
          v.elim (inner = .nil) fun j => ∃ items, j = .array items ∧ Config.Writes inner items) j ∧
      Config.Writes rest more

/-- May this be written for a field of routes, or nothing if there are none? -/
def Config.WritesRoutes (c : Config) (v : Option Json) : Prop :=
  v.elim (c = .nil) fun j => ∃ items, j = .array items ∧ c.Writes items

/-- May the configuration be written like this? Its routes are its only field. -/
def Config.WritesDocument (c : Config) (j : Json) : Prop :=
  Json.WritesRecord ["routes"] (fun _ => c.WritesRoutes) j

/-! ## Values -/

namespace Json

theorem optional?_string (s : Option String) : (s.elim null string).optional? string? = some s := by
  cases s with
  | none => rfl
  | some s => rfl

theorem optional?_bool (b : Option Bool) : (b.elim null bool).optional? bool? = some b := by
  cases b with
  | none => rfl
  | some b => rfl

theorem optional?_duration {d : Option Duration} {j : Json} (h : WritesDuration d j) :
    j.optional? duration? = some d := by
  cases d with
  | none => rw [show j = null from h, optional?]
  | some d =>
    obtain ⟨text, htext, rfl⟩ := h
    simp [optional?, duration?, string?, htext]

theorem strings?_array (texts : List String) : (array (texts.map string)).strings? = some texts := by
  induction texts with
  | nil => rfl
  | cons t texts ih =>
    simp only [strings?] at ih
    simp [strings?, List.mapM_cons, string?, ih]

theorem labels?_of_writes {l : Labels} {j : Json} (h : WritesLabels l j) : j.labels? = some l := by
  obtain ⟨pairs, hpairs, rfl⟩ := h
  have hfields : (pairs.map fun p => (p.1, string p.2)).mapM stringField? = some pairs := by
    clear hpairs
    induction pairs with
    | nil => rfl
    | cons p pairs ih => simp [List.mapM_cons, stringField?, string?, ih]
  rw [labels?, hfields, Option.map_some, NameMap.ofList_of_perm hpairs]

end Json

/-! ## Fields -/

namespace Settings

def restrict (s : Settings) (names : List String) : Settings where
  sendTo := if "send_to" ∈ names then s.sendTo else none
  groupBy := if "group_by" ∈ names then s.groupBy else []
  groupWait := if "group_wait" ∈ names then s.groupWait else none
  groupInterval := if "group_interval" ∈ names then s.groupInterval else none
  repeatInterval := if "repeat_interval" ∈ names then s.repeatInterval else none
  sendResolved := if "send_resolved" ∈ names then s.sendResolved else none
  exact := if "match" ∈ names then s.exact else ∅
  patterns := if "match_re" ∈ names then s.patterns else ∅
  continues := if "continue" ∈ names then s.continues else false

theorem restrict_routes (s : Settings) (names : List String) :
    s.restrict ("routes" :: names) = s.restrict names := by
  simp [restrict]

/-- One more field of the settings is there after it is read. -/
theorem setJson?_of_writes {s : Settings} {writesRoutes : Option Json → Prop} {name : String}
    {j : Json} (h : s.Writes writesRoutes name (some j)) (hname : name ≠ "routes")
    (names : List String) :
    (s.restrict names).setJson? name j = some (s.restrict (name :: names)) := by
  unfold Writes at h
  -- One case for each name, in their order; the last is that of an unknown name.
  split at h
  · simp only [Option.elim_some] at h
    simp [setJson?, h, Json.optional?_string, restrict]
  · simp only [Option.elim_some] at h
    simp [setJson?, h, Json.strings?_array, restrict]
  · simp [setJson?, Json.optional?_duration h, restrict]
  · simp [setJson?, Json.optional?_duration h, restrict]
  · simp [setJson?, Json.optional?_duration h, restrict]
  · simp only [Option.elim_some] at h
    simp [setJson?, h, Json.optional?_bool, restrict]
  · simp [setJson?, Json.labels?_of_writes h, restrict]
  · simp [setJson?, Json.labels?_of_writes h, restrict]
  · simp only [Option.elim_some] at h
    simp [setJson?, h, Json.bool?, restrict]
  · exact absurd rfl hname
  · exact h.elim

/-- Nothing is missing of settings if the other fields have their defaults. -/
theorem restrict_eq {s : Settings} {writesRoutes : Option Json → Prop} {names : List String}
    (h : ∀ name ∈ fieldNames, name ∉ names → s.Writes writesRoutes name none) :
    s.restrict names = s := by
  simp only [fieldNames, List.forall_mem_cons, Writes, Option.elim_none] at h
  obtain ⟨h₁, h₂, h₃, h₄, h₅, h₆, h₇, h₈, h₉, -⟩ := h
  have hfield {α : Type} {name : String} {value default : α} (h : name ∉ names → value = default) :
      (if name ∈ names then value else default) = value := by
    split
    · rfl
    · next hname => exact (h hname).symm
  simp only [restrict, hfield h₁, hfield h₂, hfield h₃, hfield h₄, hfield h₅, hfield h₆, hfield h₇,
    hfield h₈, hfield h₉]

end Settings

/-! ## Records -/

namespace Config

def recordOfJson? (names : List String) : Json → Option (Settings × Config)
  | .object fields => if areFields names (fields.map (·.1)) then fieldsOfJson? fields else none
  | .array items => itemsOfJson? names items
  | _ => none

theorem routeOfJson?_eq (j : Json) : routeOfJson? j = recordOfJson? Settings.fieldNames j := by
  cases j <;> simp [routeOfJson?, recordOfJson?]

/-- A configuration is read like a route that has no other field than its routes. -/
theorem ofJsonValue?_eq (j : Json) : ofJsonValue? j = (recordOfJson? ["routes"] j).map (·.2) := by
  cases j with
  | null => rfl
  | bool b => rfl
  | number text => rfl
  | string s => rfl
  | array items =>
    match items with
    | [] => rfl
    | [v] =>
      cases hv : routesOfJson? v with
      | none => simp [ofJsonValue?, recordOfJson?, itemsOfJson?, hv]
      | some c => simp [ofJsonValue?, recordOfJson?, itemsOfJson?, hv]
    | v :: w :: rest => simp [ofJsonValue?, recordOfJson?, itemsOfJson?]
  | object fields =>
    match fields with
    | [] => simp [ofJsonValue?, recordOfJson?, areFields, fieldsOfJson?]
    | [(name, v)] =>
      by_cases hname : name = "routes"
      · subst hname
        cases hv : routesOfJson? v with
        | none => simp [ofJsonValue?, recordOfJson?, areFields, fieldsOfJson?, hv]
        | some c => simp [ofJsonValue?, recordOfJson?, areFields, fieldsOfJson?, hv]
      · simp [ofJsonValue?, recordOfJson?, areFields, hname]
    | f :: g :: rest =>
      have hnot : ¬ areFields ["routes"] ((f :: g :: rest).map (·.1)) := by
        simp only [areFields, List.map_cons, Bool.and_eq_true, decide_eq_true_eq, List.nodup_cons,
          List.all_cons, List.contains_cons, List.contains_nil, Bool.or_false, beq_iff_eq]
        rintro ⟨⟨hne, -⟩, hf, hg, -⟩
        exact hne (hf.trans hg.symm ▸ List.mem_cons_self)
      rw [recordOfJson?, if_neg hnot]
      simp [ofJsonValue?]

/-- The items of an array are read like the fields of an object with the names of their places. -/
theorem itemsOfJson?_eq (names : List String) (items : List Json) :
    itemsOfJson? names items =
      if items.length ≤ names.length then fieldsOfJson? (names.zip items) else none := by
  induction names generalizing items with
  | nil =>
    cases items with
    | nil => simp [itemsOfJson?, fieldsOfJson?]
    | cons v items => simp [itemsOfJson?]
  | cons name names ih =>
    cases items with
    | nil => simp [itemsOfJson?, fieldsOfJson?]
    | cons v items =>
      rw [itemsOfJson?, ih]
      by_cases hlength : items.length ≤ names.length
      · simp [hlength, fieldsOfJson?]
      · simp [hlength]

/-- Fields that write settings give these settings, as far as they go, in whatever order they are. -/
theorem fieldsOfJson?_of_writes {s : Settings} {inner : Config}
    {writesRoutes : Option Json → Prop}
    (hroutes : ∀ j, writesRoutes (some j) → routesOfJson? j = some inner)
    {fields : List (String × Json)} (h : ∀ f ∈ fields, s.Writes writesRoutes f.1 (some f.2)) :
    fieldsOfJson? fields =
      some (s.restrict (fields.map (·.1)), if "routes" ∈ fields.map (·.1) then inner else .nil) := by
  -- The reader starts with the last field, so the fields behind are those that are read already.
  induction fields with
  | nil => simp [fieldsOfJson?, Settings.restrict, Settings.empty]
  | cons f fields ih =>
    obtain ⟨name, v⟩ := f
    obtain ⟨hv, hfields⟩ := List.forall_mem_cons.mp h
    rw [fieldsOfJson?, ih hfields, List.map_cons]
    by_cases hname : name = "routes"
    · subst hname
      have hinner := hroutes v hv
      simp [hinner, Settings.restrict_routes]
    · have hset : (s.restrict (fields.map (·.1))).setJson? name v = _ :=
        Settings.setJson?_of_writes hv hname _
      have hmem : "routes" ∈ name :: fields.map (·.1) ↔ "routes" ∈ fields.map (·.1) :=
        List.mem_cons.trans (or_iff_right (Ne.symm hname))
      simp only [hmem]
      simp [hname, hset]

/-- A record is read from everything that writes it, as long as the fields that it cannot have are
those of the defaults. -/
theorem recordOfJson?_of_writes {names : List String} {writes : String → Option Json → Prop}
    {s : Settings} {inner : Config} {writesRoutes : Option Json → Prop}
    (hinside : "routes" ∈ names)
    (hwrites : ∀ name ∈ names, ∀ v, writes name v → s.Writes writesRoutes name v)
    (hother : ∀ name ∈ Settings.fieldNames, name ∉ names → s.Writes writesRoutes name none)
    (hroutes : ∀ j, writesRoutes (some j) → routesOfJson? j = some inner)
    (hnone : writesRoutes none → inner = .nil) {j : Json} (h : Json.WritesRecord names writes j) :
    recordOfJson? names j = some (s, inner) := by
  have hfields {fields : List (String × Json)} (h : Json.WritesFields names writes fields) :
      fieldsOfJson? fields = some (s, inner) := by
    have hwritten : ∀ f ∈ fields, s.Writes writesRoutes f.1 (some f.2) := fun f hf =>
      hwrites f.1 (h.known f hf) _ (h.written f hf)
    have hdefault : ∀ name ∈ Settings.fieldNames, name ∉ fields.map (·.1) →
        s.Writes writesRoutes name none := by
      intro name hname habsent
      by_cases hknown : name ∈ names
      · exact hwrites name hknown _ (h.omitted name hknown habsent)
      · exact hother name hname hknown
    rw [fieldsOfJson?_of_writes hroutes hwritten, Settings.restrict_eq hdefault]
    split
    · rfl
    · next habsent =>
      have hleft := hwrites _ hinside _ (h.omitted _ hinside habsent)
      rw [hnone hleft]
  cases h with
  | @object fields h =>
    have hare : areFields names (fields.map (·.1)) := by
      simp only [areFields, Bool.and_eq_true, decide_eq_true_eq, List.all_map, List.all_eq_true]
      exact ⟨h.nodup, fun f hf => List.contains_iff_mem.mpr (h.known f hf)⟩
    rw [recordOfJson?, if_pos hare, hfields h]
  | array hlength h => rw [recordOfJson?, itemsOfJson?_eq, if_pos hlength, hfields h]

/-! ## Configurations -/

theorem routesOfJson?_of_writes {c : Config}
    (hlevel : ∀ items, c.Writes items → levelOfJson? items = some c) (j : Json)
    (h : c.WritesRoutes (some j)) : routesOfJson? j = some c := by
  obtain ⟨items, rfl, hitems⟩ := h
  exact hlevel items hitems

theorem levelOfJson?_of_writes {c : Config} {items : List Json} (h : c.Writes items) :
    levelOfJson? items = some c := by
  induction c generalizing items with
  | nil =>
    subst h
    rfl
  | node s inner rest ihinner ihrest =>
    obtain ⟨j, more, rfl, hj, hmore⟩ := h
    have hroute : routeOfJson? j = some (s, inner) := by
      have hroutes := routesOfJson?_of_writes fun _ h => ihinner h
      rw [routeOfJson?_eq]
      exact recordOfJson?_of_writes (by decide) (fun _ _ _ h => h)
        (fun _ hname habsent => absurd hname habsent) hroutes id hj
    simp [levelOfJson?, hroute, ihrest hmore]

/-- A configuration is read from every document that writes it. -/
theorem ofJsonValue?_of_writes {c : Config} {j : Json} (h : c.WritesDocument j) :
    ofJsonValue? j = some c := by
  have hother : ∀ name ∈ Settings.fieldNames, name ∉ ["routes"] →
      Settings.empty.Writes c.WritesRoutes name none := by
    simp [Settings.fieldNames, Settings.Writes, Settings.empty]
  have hrecord : recordOfJson? ["routes"] j = some (Settings.empty, c) :=
    recordOfJson?_of_writes (by decide) (by simp [Settings.Writes]) hother
      (routesOfJson?_of_writes fun _ => levelOfJson?_of_writes) id h
  rw [ofJsonValue?_eq, hrecord]
  rfl

end Config

end AlertRouting
