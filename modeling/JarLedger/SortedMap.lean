/-!
# Sorted maps

A finite map from strings, kept as the list of its entries in strictly ascending order of their
keys.  Strings are ordered by code point, which is also the order of their UTF-8 bytes.  The order
makes the list a normal form: two maps that answer every look-up alike are equal
(`SortedMap.ext_get?`), so a map can be reasoned about through `get?` alone.
-/

namespace JarLedger

/-- A finite map from strings to values. -/
structure SortedMap (value : Type) where
  /-- The entries, each key once. -/
  entries : List (String × value)
  /-- Keys ascend strictly. -/
  ascending : entries.Pairwise fun left right => left.1 < right.1

namespace SortedMap

variable {value other : Type}

/-- The map without entries. -/
def empty : SortedMap value := ⟨[], List.Pairwise.nil⟩

instance : EmptyCollection (SortedMap value) := ⟨empty⟩
instance : Inhabited (SortedMap value) := ⟨empty⟩

/-- Value stored under a key. -/
def get? (map : SortedMap value) (key : String) : Option value := map.entries.lookup key

/-- Whether a key is stored. -/
def contains (map : SortedMap value) (key : String) : Bool := (map.get? key).isSome

/-- Keys in ascending order. -/
def keys (map : SortedMap value) : List String := map.entries.map Prod.fst

/-- Values in the order of their keys. -/
def values (map : SortedMap value) : List value := map.entries.map Prod.snd

/-- Number of entries. -/
def size (map : SortedMap value) : Nat := map.entries.length

/-- Whether there is no entry. -/
def isEmpty (map : SortedMap value) : Bool := map.entries.isEmpty

/-- Put a value computed from the present one at the key's place in an ordered entry list. -/
def placeEntry (key : String) (update : Option value → value) :
    List (String × value) → List (String × value)
  | [] => [(key, update none)]
  | (present, stored) :: rest =>
      if key < present then (key, update none) :: (present, stored) :: rest
      else if key = present then (present, update (some stored)) :: rest
      else (present, stored) :: placeEntry key update rest

theorem fst_mem_placeEntry {key : String} {update : Option value → value}
    {entries : List (String × value)} {entry : String × value}
    (member : entry ∈ placeEntry key update entries) :
    entry.1 = key ∨ ∃ stored, (entry.1, stored) ∈ entries := by
  induction entries with
  | nil => simp only [placeEntry, List.mem_singleton] at member; simp [member]
  | cons head rest ih =>
      obtain ⟨present, stored⟩ := head
      simp only [placeEntry] at member
      split at member
      · rcases List.mem_cons.mp member with rfl | member
        · exact .inl rfl
        · exact .inr ⟨entry.2, member⟩
      · split at member
        · rename_i equal
          rcases List.mem_cons.mp member with rfl | member
          · exact .inl equal.symm
          · exact .inr ⟨entry.2, List.mem_cons_of_mem _ member⟩
        · rcases List.mem_cons.mp member with rfl | member
          · exact .inr ⟨stored, List.mem_cons_self⟩
          · rcases ih member with equal | ⟨found, inside⟩
            · exact .inl equal
            · exact .inr ⟨found, List.mem_cons_of_mem _ inside⟩

theorem placeEntry_ascending (key : String) (update : Option value → value)
    {entries : List (String × value)}
    (ascending : entries.Pairwise fun left right => left.1 < right.1) :
    (placeEntry key update entries).Pairwise fun left right => left.1 < right.1 := by
  induction entries with
  | nil => simp [placeEntry]
  | cons head rest ih =>
      obtain ⟨present, stored⟩ := head
      rw [List.pairwise_cons] at ascending
      simp only [placeEntry]
      split
      · rename_i below
        refine List.pairwise_cons.mpr ⟨fun entry member => ?_, List.pairwise_cons.mpr ascending⟩
        rcases List.mem_cons.mp member with rfl | member
        · exact below
        · exact String.lt_trans below (ascending.1 entry member)
      · split
        · exact List.pairwise_cons.mpr ⟨ascending.1, ascending.2⟩
        · rename_i notBelow notEqual
          refine List.pairwise_cons.mpr ⟨fun entry member => ?_, ih ascending.2⟩
          rcases fst_mem_placeEntry member with equal | ⟨found, inside⟩
          · rw [equal]
            rcases Decidable.em (present < key) with less | notLess
            · exact less
            · exact absurd
                (String.le_antisymm (String.not_lt.mp notLess) (String.not_lt.mp notBelow)) notEqual
          · exact ascending.1 (entry.1, found) inside

/-- Replace the value under a key by one computed from it, adding the key if it is new. -/
def place (map : SortedMap value) (key : String) (update : Option value → value) :
    SortedMap value :=
  ⟨placeEntry key update map.entries, placeEntry_ascending key update map.ascending⟩

/-- Store a value, replacing any present one. -/
def insert (map : SortedMap value) (key : String) (added : value) : SortedMap value :=
  map.place key fun _ => added

/-- Store a value unless the key is present. -/
def insertIfNew (map : SortedMap value) (key : String) (added : value) : SortedMap value :=
  map.place key fun present => present.getD added

/-- Remove a key. -/
def erase (map : SortedMap value) (key : String) : SortedMap value :=
  ⟨map.entries.filter (·.1 ≠ key), map.ascending.filter _⟩

/-- Keep the entries that pass a test. -/
def filter (map : SortedMap value) (test : String → value → Bool) : SortedMap value :=
  ⟨map.entries.filter fun entry => test entry.1 entry.2, map.ascending.filter _⟩

/-- Apply a function to every value. -/
def map (source : SortedMap value) (convert : value → other) : SortedMap other :=
  ⟨source.entries.map fun entry => (entry.1, convert entry.2),
    List.pairwise_map.mpr source.ascending⟩

/-- Collect entries; of equal keys the last one stays. -/
def ofListLast (entries : List (String × value)) : SortedMap value :=
  entries.foldl (fun map entry => map.insert entry.1 entry.2) empty

/-- Collect entries; of equal keys the first one stays. -/
def ofListFirst (entries : List (String × value)) : SortedMap value :=
  entries.foldr (fun entry map => map.insert entry.1 entry.2) empty

/-- All entries of both maps; the left one wins where both have a key. -/
def union (left right : SortedMap value) : SortedMap value :=
  right.entries.foldl (fun map entry => map.insertIfNew entry.1 entry.2) left

theorem lookup_eq_none {entries : List (String × value)} {key : String}
    (above : ∀ entry ∈ entries, key < entry.1) : entries.lookup key = none := by
  induction entries with
  | nil => rfl
  | cons head rest ih =>
      obtain ⟨present, stored⟩ := head
      have less : key < present := above (present, stored) List.mem_cons_self
      have different : (key == present) = false := by
        rw [beq_eq_false_iff_ne]
        rintro rfl
        exact String.lt_irrefl _ less
      rw [List.lookup_cons, different]
      exact ih fun entry member => above entry (List.mem_cons_of_mem _ member)

theorem lookup_placeEntry (key : String) (update : Option value → value)
    {entries : List (String × value)}
    (ascending : entries.Pairwise fun left right => left.1 < right.1) (sought : String) :
    (placeEntry key update entries).lookup sought =
      if sought = key then some (update (entries.lookup key)) else entries.lookup sought := by
  induction entries with
  | nil =>
      by_cases equal : sought = key
      · subst equal; simp [placeEntry]
      · simp [placeEntry, List.lookup_cons, beq_eq_false_iff_ne.mpr equal, equal]
  | cons head rest ih =>
      obtain ⟨present, stored⟩ := head
      rw [List.pairwise_cons] at ascending
      simp only [placeEntry]
      split
      · rename_i below
        have absent : ((present, stored) :: rest).lookup key = none :=
          lookup_eq_none fun entry member => by
            rcases List.mem_cons.mp member with rfl | member
            · exact below
            · exact String.lt_trans below (ascending.1 entry member)
        by_cases equal : sought = key
        · subst equal; simp [absent]
        · simp [List.lookup_cons, beq_eq_false_iff_ne.mpr equal, equal]
      · split
        · rename_i equalKey
          subst equalKey
          by_cases equal : sought = key
          · subst equal; simp
          · simp [List.lookup_cons, beq_eq_false_iff_ne.mpr equal, equal]
        · rename_i notEqual
          rw [List.lookup_cons, ih ascending.2, List.lookup_cons]
          by_cases equal : sought = key
          · subst equal
            simp [beq_eq_false_iff_ne.mpr notEqual]
          · simp [equal, List.lookup_cons]

@[simp]
theorem get?_empty (key : String) : (empty : SortedMap value).get? key = none := rfl

/-- Placing changes one key only. -/
theorem get?_place (map : SortedMap value) (key : String) (update : Option value → value)
    (sought : String) :
    (map.place key update).get? sought =
      if sought = key then some (update (map.get? key)) else map.get? sought :=
  lookup_placeEntry key update map.ascending sought

theorem get?_insert (map : SortedMap value) (key : String) (added : value) (sought : String) :
    (map.insert key added).get? sought = if sought = key then some added else map.get? sought :=
  get?_place map key _ sought

theorem get?_insertIfNew (map : SortedMap value) (key : String) (added : value)
    (sought : String) :
    (map.insertIfNew key added).get? sought =
      if sought = key then some ((map.get? key).getD added) else map.get? sought :=
  get?_place map key _ sought

/-- A look-up finds exactly the stored entries. -/
theorem get?_eq_some_iff (map : SortedMap value) (key : String) (stored : value) :
    map.get? key = some stored ↔ (key, stored) ∈ map.entries := by
  obtain ⟨entries, ascending⟩ := map
  simp only [get?]
  induction entries with
  | nil => simp
  | cons head rest ih =>
      obtain ⟨present, found⟩ := head
      rw [List.pairwise_cons] at ascending
      by_cases equal : key = present
      · subst equal
        have absent : (key, stored) ∉ rest := fun member =>
          String.lt_irrefl _ (ascending.1 (key, stored) member)
        simp [absent, eq_comm]
      · simp [List.lookup_cons, beq_eq_false_iff_ne.mpr equal, equal, ih ascending.2]

/-- Maps that answer every look-up alike are equal. -/
theorem ext_get? {left right : SortedMap value}
    (same : ∀ key, left.get? key = right.get? key) : left = right := by
  have member (entry : String × value) : entry ∈ left.entries ↔ entry ∈ right.entries := by
    rw [← get?_eq_some_iff, ← get?_eq_some_iff, same]
  obtain ⟨leftEntries, leftAscending⟩ := left
  obtain ⟨rightEntries, rightAscending⟩ := right
  congr 1
  simp only at member
  clear same
  induction leftEntries generalizing rightEntries with
  | nil =>
      cases rightEntries with
      | nil => rfl
      | cons head rest => exact absurd ((member head).mpr List.mem_cons_self) (by simp)
  | cons leftHead leftRest ih =>
      cases rightEntries with
      | nil => exact absurd ((member leftHead).mp List.mem_cons_self) (by simp)
      | cons rightHead rightRest =>
          rw [List.pairwise_cons] at leftAscending rightAscending
          have heads : leftHead = rightHead := by
            rcases List.mem_cons.mp ((member leftHead).mp List.mem_cons_self) with equal | inRight
            · exact equal
            · rcases List.mem_cons.mp ((member rightHead).mpr List.mem_cons_self) with
                equal | inLeft
              · exact equal.symm
              · exact absurd (String.lt_trans (rightAscending.1 _ inRight)
                  (leftAscending.1 _ inLeft)) (String.lt_irrefl _)
          subst heads
          congr 1
          refine ih leftAscending.2 rightRest rightAscending.2 fun entry => ?_
          have same := member entry
          simp only [List.mem_cons] at same
          constructor
          · intro inLeft
            rcases same.mp (.inr inLeft) with rfl | inRight
            · exact absurd (leftAscending.1 _ inLeft) (String.lt_irrefl _)
            · exact inRight
          · intro inRight
            rcases same.mpr (.inr inRight) with rfl | inLeft
            · exact absurd (rightAscending.1 _ inRight) (String.lt_irrefl _)
            · exact inLeft

theorem get?_erase (map : SortedMap value) (key sought : String) :
    (map.erase key).get? sought = if sought = key then none else map.get? sought := by
  apply Option.ext
  intro stored
  rw [get?_eq_some_iff]
  by_cases equal : sought = key
  · simp [erase, equal]
  · simp [erase, equal, get?_eq_some_iff]

end SortedMap

/-- A set of strings in ascending order. -/
abbrev StringSet : Type := SortedMap Unit

namespace StringSet

/-- Add a string. -/
def insert (set : StringSet) (member : String) : StringSet := SortedMap.insert set member ()

/-- Collect strings. -/
def ofList (members : List String) : StringSet :=
  members.foldr (fun member set => set.insert member) SortedMap.empty

/-- The strings in ascending order. -/
def toList (set : StringSet) : List String := SortedMap.keys set

end StringSet

end JarLedger
