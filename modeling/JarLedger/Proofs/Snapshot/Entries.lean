import JarLedger.Proofs.SortedMap
import JarLedger.Snapshot.JarList

/-!
# The entries of a jar list

What a jar list holds, said of its entries: an entry carries at most one hash, and of the entries
that carry a hash the first one describes it (`JarList.get?_ofItems_eq_some_iff`).  So a list that
goes on after another adds to it what is new (`JarList.ofItems_append`).
-/

namespace JarLedger

/-- What stands at a place of a value. -/
def Json.at? : Path → Json → Option Json
  | [], value => some value
  | .key name :: rest, .object members => (members.lookup name).bind (at? rest)
  | .index position :: rest, .array items => items[position]?.bind (at? rest)
  | _, _ => none

namespace JarList

/-- An entry tells a hash under a name: as a text that is not empty, among its attributes. -/
def Tells (entry : Json) (name hash : String) : Prop :=
  entry.at? [.key "attributes", .key name] = some (.string hash) ∧ hash ≠ ""

/-- The hash that an entry carries: itself if it is a text, else the one that it tells under the
most preferred name. -/
inductive Carries : Json → String → Prop
  | text {hash : String} (full : hash ≠ "") : Carries (.string hash) hash
  | checksum {entry : Json} {hash name : String} {preferred others : List String}
      (names : checksumNames = preferred ++ name :: others) (tells : Tells entry name hash)
      (silent : ∀ better ∈ preferred, ∀ other, ¬Tells entry better other) : Carries entry hash

/-- The text of a member, if it is one. -/
def textAt? (entry : Json) (name : String) : Option String :=
  (entry.at? [.key name]).bind Json.string?

/-- What an entry says about its jar. -/
def labelOf (entry : Json) : JarLabel where
  name := textAt? entry "name"
  version := textAt? entry "version"

/-- The first entry that carries a hash describes it. -/
def IsFirstLabel (items : List Json) (hash : String) (label : JarLabel) : Prop :=
  ∃ before entry after, items = before ++ entry :: after ∧ Carries entry hash ∧
    (∀ other ∈ before, ¬Carries other hash) ∧ labelOf entry = label

theorem nonEmpty?_eq_some_iff (value : Json) (text : String) :
    nonEmpty? value = some text ↔ value = .string text ∧ text ≠ "" := by
  cases value <;> simp [nonEmpty?, Json.string?, Option.filter_eq_some_iff]

theorem tells_object_iff (members : List (String × Json)) (name hash : String) :
    Tells (.object members) name hash ↔
      ∃ attributes, (members.lookup "attributes").bind Json.members? = some attributes ∧
        (attributes.lookup name).bind nonEmpty? = some hash := by
  simp only [Tells, Json.at?, Option.bind_eq_some_iff, nonEmpty?_eq_some_iff]
  constructor
  · rintro ⟨⟨value, found, told⟩, full⟩
    cases value with
    | object attributes =>
        obtain ⟨text, inside, same⟩ := Option.bind_eq_some_iff.mp told
        exact ⟨attributes, ⟨_, found, rfl⟩, text, inside, Option.some.inj same, full⟩
    | _ => exact absurd told nofun
  · rintro ⟨attributes, ⟨value, found, isObject⟩, text, inside, rfl, full⟩
    cases value with
    | object members =>
        obtain rfl := Option.some.inj isObject
        exact ⟨⟨_, found, Option.bind_eq_some_iff.mpr ⟨_, inside, rfl⟩⟩, full⟩
    | _ => exact absurd isObject nofun

theorem carries_object_iff (members : List (String × Json)) (hash : String) :
    Carries (.object members) hash ↔
      ∃ attributes, (members.lookup "attributes").bind Json.members? = some attributes ∧
        checksum? attributes = some hash := by
  constructor
  · rintro (_ | ⟨names, tells, silent⟩)
    obtain ⟨attributes, described, told⟩ := (tells_object_iff _ _ _).mp tells
    refine ⟨attributes, described, List.findSome?_eq_some_iff.mpr
      ⟨_, _, _, names, told, fun better member => Option.eq_none_iff_forall_ne_some.mpr ?_⟩⟩
    intro other found
    exact silent better member other ((tells_object_iff _ _ _).mpr ⟨attributes, described, found⟩)
  · rintro ⟨attributes, described, found⟩
    obtain ⟨preferred, name, others, names, told, silent⟩ := List.findSome?_eq_some_iff.mp found
    refine .checksum names ((tells_object_iff _ _ _).mpr ⟨attributes, described, told⟩) ?_
    intro better member other tells
    obtain ⟨again, sameDescribed, toldBetter⟩ := (tells_object_iff _ _ _).mp tells
    obtain rfl := Option.some.inj (described.symm.trans sameDescribed)
    exact absurd (toldBetter.symm.trans (silent better member)) nofun

/-- An entry is read as the hash that it carries and what it says about its jar. -/
theorem entry?_eq_some_iff (entry : Json) (jar : Jar) :
    entry? entry = some jar ↔ Carries entry jar.hash ∧ labelOf entry = jar.label := by
  obtain ⟨hash, label⟩ := jar
  cases entry with
  | string text =>
      have carries : Carries (.string text) hash ↔ text = hash ∧ text ≠ "" := by
        constructor
        · rintro (full | ⟨_, tells, _⟩)
          · exact ⟨rfl, full⟩
          · exact nomatch tells.1
        · rintro ⟨rfl, full⟩
          exact .text full
      rw [carries, entry?]
      by_cases full : text = "" <;> simp [full, labelOf, textAt?, Json.at?]
  | object members =>
      have text (name : String) :
          textAt? (.object members) name = (members.lookup name).bind Json.string? := by
        cases found : members.lookup name <;> simp [textAt?, Json.at?, found]
      simp only [carries_object_iff, entry?, labelOf, text, Option.bind_eq_bind,
        Option.bind_eq_some_iff, Option.pure_def, Option.some.injEq, Jar.mk.injEq]
      constructor
      · rintro ⟨attributes, described, _, found, rfl, same⟩
        exact ⟨⟨attributes, described, found⟩, same⟩
      · rintro ⟨⟨attributes, described, found⟩, same⟩
        exact ⟨attributes, described, hash, found, rfl, same⟩
  | _ =>
      refine iff_of_false nofun fun ⟨carries, _⟩ => ?_
      rcases carries with _ | ⟨_, tells, _⟩
      exact nomatch tells.1

/-- What an entry says about a hash. -/
def labelFor? (hash : String) (entry : Json) : Option JarLabel := do
  let jar ← entry? entry
  if jar.hash = hash then some jar.label else none

theorem labelFor?_eq_some_iff (hash : String) (entry : Json) (label : JarLabel) :
    labelFor? hash entry = some label ↔ Carries entry hash ∧ labelOf entry = label := by
  rw [← entry?_eq_some_iff entry ⟨hash, label⟩, labelFor?]
  cases entry? entry with
  | none => simp
  | some jar =>
      obtain ⟨found, description⟩ := jar
      by_cases same : found = hash <;> simp [same]

theorem labelFor?_eq_none_iff (hash : String) (entry : Json) :
    labelFor? hash entry = none ↔ ¬Carries entry hash := by
  rw [Option.eq_none_iff_forall_ne_some]
  simp only [ne_eq, labelFor?_eq_some_iff]
  exact ⟨fun none carries => none _ ⟨carries, rfl⟩, fun absent _ found => absent found.1⟩

theorem get?_ofItems (items : List Json) (hash : String) :
    (ofItems items).get? hash = items.findSome? (labelFor? hash) := by
  rw [ofItems, JarSet.ofList, SortedMap.get?_ofListFirst]
  induction items with
  | nil => rfl
  | cons item rest ih =>
      rw [List.findSome?_cons, ← ih, labelFor?, List.filterMap_cons]
      cases entry? item with
      | none => rfl
      | some jar =>
          rw [List.map_cons, List.lookup_cons]
          by_cases same : jar.hash = hash
          · simp [same]
          · simp [same, beq_eq_false_iff_ne.mpr (Ne.symm same)]

/-- Of the entries that carry a hash the first one describes it. -/
theorem get?_ofItems_eq_some_iff (items : List Json) (hash : String) (label : JarLabel) :
    (ofItems items).get? hash = some label ↔ IsFirstLabel items hash label := by
  simp only [get?_ofItems, List.findSome?_eq_some_iff, labelFor?_eq_some_iff, labelFor?_eq_none_iff,
    IsFirstLabel]
  refine exists_congr fun before => exists_congr fun entry => exists_congr fun after => ?_
  exact and_congr_right fun _ => ⟨fun ⟨⟨carries, same⟩, silent⟩ => ⟨carries, silent, same⟩,
    fun ⟨carries, silent, same⟩ => ⟨⟨carries, same⟩, silent⟩⟩

theorem contains_ofItems (items : List Json) (hash : String) :
    (ofItems items).contains hash = true ↔ ∃ entry ∈ items, Carries entry hash := by
  rw [← not_iff_not, Bool.not_eq_true, SortedMap.contains_eq_false_iff, get?_ofItems,
    List.findSome?_eq_none_iff]
  simp only [labelFor?_eq_none_iff, not_exists, not_and]

/-- A list that goes on after another adds to it what is new. -/
theorem ofItems_append (front back : List Json) :
    ofItems (front ++ back) = (ofItems front).union (ofItems back) := by
  refine SortedMap.ext_get? fun hash => ?_
  rw [SortedMap.get?_union, get?_ofItems, get?_ofItems, get?_ofItems, List.findSome?_append]

end JarList
end JarLedger
