import AlertRouting.Config.Reading
import AlertRouting.Proofs.Config.Writing
import AlertRouting.Proofs.Json.Nesting

/-!
# Spoiled documents

A configuration is read from every text that writes it. One thing too many, at whatever depth, makes
a document unreadable: a field that there is not, a field that is there already, or an item behind
those that have a field.
-/
namespace AlertRouting

/-- Does the second value have one thing too many for a record with fields of these names, itself or
in one of the routes inside it? -/
inductive Json.Spoils : List String → Json → Json → Prop
  | field {names : List String} {name : String} {v : Json} {before after : List (String × Json)}
      (h : name ∉ names ∨ name ∈ (before ++ after).map (·.1)) :
      Spoils names (.object (before ++ after)) (.object (before ++ (name, v) :: after))
  | item {names : List String} {items more : List Json} (h : items.Sublist more)
      (hlength : names.length < more.length) : Spoils names (.array items) (.array more)
  | insideObject {names : List String} {j j' : Json} {before after : List (String × Json)}
      {front back : List Json} (h : Spoils Settings.fieldNames j j') :
      Spoils names (.object (before ++ ("routes", .array (front ++ j :: back)) :: after))
        (.object (before ++ ("routes", .array (front ++ j' :: back)) :: after))
  | insideArray {names : List String} {j j' : Json} {before after front back : List Json}
      (hname : names[before.length]? = some "routes") (h : Spoils Settings.fieldNames j j') :
      Spoils names (.array (before ++ .array (front ++ j :: back) :: after))
        (.array (before ++ .array (front ++ j' :: back) :: after))

namespace Config

theorem levelOfJson?_eq_none {items : List Json} {j : Json} (hj : j ∈ items)
    (h : routeOfJson? j = none) : levelOfJson? items = none := by
  induction items with
  | nil => exact absurd hj List.not_mem_nil
  | cons k items ih =>
    rcases List.mem_cons.mp hj with rfl | hj
    · simp [levelOfJson?, h]
    · simp [levelOfJson?, ih hj]

theorem fieldsOfJson?_eq_none {fields : List (String × Json)} {v : Json}
    (hv : ("routes", v) ∈ fields) (h : routesOfJson? v = none) : fieldsOfJson? fields = none := by
  induction fields with
  | nil => exact absurd hv List.not_mem_nil
  | cons f fields ih =>
    obtain ⟨name, w⟩ := f
    rcases List.mem_cons.mp hv with heq | hv
    · cases heq
      simp [fieldsOfJson?, h]
    · simp [fieldsOfJson?, ih hv]

theorem not_areFields {names : List String} {name : String} {v : Json}
    {before after : List (String × Json)}
    (h : name ∉ names ∨ name ∈ (before ++ after).map (·.1)) :
    ¬ areFields names ((before ++ (name, v) :: after).map (·.1)) := by
  intro hare
  simp only [areFields, Bool.and_eq_true, decide_eq_true_eq, List.all_eq_true] at hare
  obtain ⟨hnodup, hknown⟩ := hare
  have hperm : ((before ++ (name, v) :: after).map (·.1)).Perm
      (name :: (before ++ after).map (·.1)) := List.perm_middle.map _
  rcases h with hname | hname
  · have hmem := hknown name (hperm.mem_iff.mpr List.mem_cons_self)
    exact hname (List.contains_iff_mem.mp hmem)
  · exact (List.nodup_cons.mp (hperm.nodup_iff.mp hnodup)).1 hname

/-- What has one thing too many is no record. -/
theorem recordOfJson?_of_spoils {names : List String} {j j' : Json} (h : j.Spoils names j') :
    recordOfJson? names j' = none := by
  induction h with
  | field h => rw [recordOfJson?, if_neg (not_areFields h)]
  | item _ hlength => rw [recordOfJson?, itemsOfJson?_eq, if_neg (Nat.not_le.mpr hlength)]
  | @insideObject names j j' before after front back _ ih =>
    have hlevel : routesOfJson? (.array (front ++ j' :: back)) = none :=
      levelOfJson?_eq_none (by simp) ((routeOfJson?_eq j').trans ih)
    have hfields : fieldsOfJson? (before ++ ("routes", .array (front ++ j' :: back)) :: after) = none :=
      fieldsOfJson?_eq_none (by simp) hlevel
    rw [recordOfJson?, hfields, ite_self]
  | @insideArray names j j' before after front back hname _ ih =>
    have hlevel : routesOfJson? (.array (front ++ j' :: back)) = none :=
      levelOfJson?_eq_none (by simp) ((routeOfJson?_eq j').trans ih)
    have hmem : ("routes", Json.array (front ++ j' :: back)) ∈
        names.zip (before ++ .array (front ++ j' :: back) :: after) := by
      refine List.mem_of_getElem? (i := before.length) ?_
      rw [List.getElem?_zip_eq_some]
      exact ⟨hname, by simp⟩
    rw [recordOfJson?, itemsOfJson?_eq, fieldsOfJson?_eq_none hmem hlevel, ite_self]

/-- A configuration is read from every text of every document that writes it, with up to 127 nested
brackets. A text of the same document with one thing too many is not read at all. -/
theorem read_json_of_writes {c : Config} {j : Json} (h : c.WritesDocument j) :
    (∀ text, j.SpelledAs text → j.nesting ≤ 127 → Config.read .json text = .ok c) ∧
      ∀ spoiled text, j.Spoils ["routes"] spoiled → spoiled.SpelledAs text →
        Config.read .json text = .error .unreadable := by
  constructor
  · intro text htext hnesting
    have hshallow : j.nesting ≤ Json.maxNesting := hnesting
    have hread : ofJson? text = some c := by
      rw [ofJson?, Json.parse?_of_spelled htext, if_pos hshallow, Option.bind_some,
        ofJsonValue?_of_writes h]
    simp [Config.read, hread]
  · intro spoiled text hspoiled htext
    have hvalue : ofJsonValue? spoiled = none := by
      rw [ofJsonValue?_eq, recordOfJson?_of_spoils hspoiled, Option.map_none]
    have hread : ofJson? text = none := by
      rw [ofJson?, Json.parse?_of_spelled htext]
      split
      · exact hvalue
      · rfl
    simp [Config.read, hread]

theorem read_json_of_writes_unknownField :
    Config.read .json "[[\x7b\"continue\":true\x7d]]" =
        .ok (.node { Settings.empty with continues := true } .nil .nil) ∧
      Config.read .json "[[\x7b\"continue\":true,\"to\":null\x7d]]" = .error .unreadable := by
  have hroute : Json.WritesFields Settings.fieldNames
      ({ Settings.empty with continues := true }.Writes (Config.WritesRoutes .nil))
      [("continue", .bool true)] :=
    ⟨by decide, by decide, by simp [Settings.Writes],
      by simp [Settings.fieldNames, Settings.Writes, Settings.empty, Config.WritesRoutes]⟩
  have hroutes : Config.WritesRoutes (.node { Settings.empty with continues := true } .nil .nil)
      (some (.array [.object [("continue", .bool true)]])) :=
    ⟨_, rfl, _, [], rfl, .object hroute, rfl⟩
  have hwrites : Config.WritesDocument (.node { Settings.empty with continues := true } .nil .nil)
      (.array [.array [.object [("continue", .bool true)]]]) :=
    .array (by decide) ⟨by decide, by simp, by simpa using hroutes, by simp⟩
  have hspoils : Json.Spoils ["routes"] (.array [.array [.object [("continue", .bool true)]]])
      (.array [.array [.object [("continue", .bool true), ("to", .null)]]]) := by
    have hfield : Json.Spoils Settings.fieldNames (.object ([("continue", .bool true)] ++ []))
        (.object ([("continue", .bool true)] ++ [("to", .null)])) := .field (.inl (by decide))
    have hinside : Json.Spoils ["routes"] (.array ([] ++ .array ([] ++ _ :: []) :: []))
        (.array ([] ++ .array ([] ++ _ :: []) :: [])) := .insideArray rfl hfield
    exact hinside
  have hcontinue : Json.SpelledToken (.string "continue") "\"continue\"".toList :=
    Json.spelledToken_string (by decide)
  have hto : Json.SpelledToken (.string "to") "\"to\"".toList :=
    Json.spelledToken_string (by decide)
  obtain ⟨hread, hrefused⟩ := read_json_of_writes hwrites
  refine ⟨hread _ ?_ (by decide), hrefused _ _ hspoils ?_⟩
  · have hparts : ∀ p ∈ ([(.openArray, ['[']), (.openArray, ['[']), (.openObject, ['\x7b']),
        (.string "continue", "\"continue\"".toList), (.colon, [':']), (.bool true, "true".toList),
        (.closeObject, ['\x7d']), (.closeArray, [']']), (.closeArray, [']'])] :
          List (Json.Token × List Char)), Json.SpelledToken p.1 p.2 := by
      simp only [List.forall_mem_cons]
      exact ⟨.punctuation rfl, .punctuation rfl, .punctuation rfl, hcontinue, .punctuation rfl,
        .word rfl, .punctuation rfl, .punctuation rfl, .punctuation rfl, by simp⟩
    exact Json.spelledTokens_flatMap hparts
  · have hparts : ∀ p ∈ ([(.openArray, ['[']), (.openArray, ['[']), (.openObject, ['\x7b']),
        (.string "continue", "\"continue\"".toList), (.colon, [':']), (.bool true, "true".toList),
        (.comma, [',']), (.string "to", "\"to\"".toList), (.colon, [':']), (.null, "null".toList),
        (.closeObject, ['\x7d']), (.closeArray, [']']), (.closeArray, [']'])] :
          List (Json.Token × List Char)), Json.SpelledToken p.1 p.2 := by
      simp only [List.forall_mem_cons]
      exact ⟨.punctuation rfl, .punctuation rfl, .punctuation rfl, hcontinue, .punctuation rfl,
        .word rfl, .punctuation rfl, hto, .punctuation rfl, .word rfl, .punctuation rfl,
        .punctuation rfl, .punctuation rfl, by simp⟩
    exact Json.spelledTokens_flatMap hparts

end Config

end AlertRouting
