import JarLedger.Jar
import Mathlib.Data.List.Induction
import Mathlib.Data.List.Nodup
import Mathlib.Data.List.Perm.Basic

/-!
# Look-ups in derived maps

Unions, mapped maps and key lists are described by what a look-up finds in them, which by
`SortedMap.ext_get?` is all there is to know about a map.
-/

namespace JarLedger
namespace SortedMap

variable {value other : Type}

theorem contains_iff (map : SortedMap value) (key : String) :
    map.contains key = true ↔ ∃ stored, map.get? key = some stored := by
  rw [contains, Option.isSome_iff_exists]

theorem contains_eq_false_iff (map : SortedMap value) (key : String) :
    map.contains key = false ↔ map.get? key = none := by
  simp [contains]

section Lists

variable {key : Type} [BEq key] [LawfulBEq key] {entries : List (key × value)} {sought : key}
  {stored : value}

theorem mem_of_lookup (found : entries.lookup sought = some stored) :
    (sought, stored) ∈ entries := by
  obtain ⟨before, after, split, _⟩ := List.lookup_eq_some_iff.mp found
  simp [split]

/-- Where keys are distinct, a look-up in a list finds every entry. -/
theorem lookup_eq_some_iff_of_nodup (distinct : (entries.map Prod.fst).Nodup) :
    entries.lookup sought = some stored ↔ (sought, stored) ∈ entries := by
  refine ⟨mem_of_lookup, fun member => ?_⟩
  obtain ⟨before, after, split⟩ := List.append_of_mem member
  refine List.lookup_eq_some_iff.mpr ⟨before, after, split, fun other earlier => ?_⟩
  rw [split, List.map_append, List.nodup_append] at distinct
  have apart := distinct.2.2 other.1 (List.mem_map_of_mem earlier) sought (by simp)
  exact bne_iff_ne.mpr apart.symm

end Lists

theorem lookup_map_snd (convert : value → other) (entries : List (String × value))
    (key : String) :
    (entries.map fun entry => (entry.1, convert entry.2)).lookup key =
      (entries.lookup key).map convert := by
  induction entries with
  | nil => rfl
  | cons head rest ih =>
      obtain ⟨present, stored⟩ := head
      by_cases equal : key = present
      · subst equal
        simp
      · simp [List.lookup_cons, beq_eq_false_iff_ne.mpr equal, ih]

@[simp]
theorem get?_map (map : SortedMap value) (convert : value → other) (key : String) :
    (map.map convert).get? key = (map.get? key).map convert :=
  lookup_map_snd convert map.entries key

private theorem get?_foldl_insertIfNew (entries : List (String × value)) (map : SortedMap value)
    (key : String) :
    (entries.foldl (fun map entry => map.insertIfNew entry.1 entry.2) map).get? key =
      (map.get? key).or (entries.lookup key) := by
  induction entries generalizing map with
  | nil => simp
  | cons head rest ih =>
      obtain ⟨present, stored⟩ := head
      rw [List.foldl_cons, ih, get?_insertIfNew]
      by_cases equal : key = present
      · subst equal
        cases map.get? key <;> simp
      · simp [List.lookup_cons, beq_eq_false_iff_ne.mpr equal, equal]

/-- The left map is asked first. -/
@[simp]
theorem get?_union (left right : SortedMap value) (key : String) :
    (left.union right).get? key = (left.get? key).or (right.get? key) :=
  get?_foldl_insertIfNew right.entries left key

theorem contains_union (left right : SortedMap value) (key : String) :
    (left.union right).contains key = (left.contains key || right.contains key) := by
  simp [contains]

/-- A union with known keys is the left map. -/
theorem union_of_known {left right : SortedMap value}
    (known : ∀ key, right.contains key = true → left.contains key = true) :
    left.union right = left := by
  refine ext_get? fun key => ?_
  rw [get?_union]
  cases found : left.get? key with
  | some stored => rfl
  | none =>
      rw [Option.none_or, ← contains_eq_false_iff]
      rw [← contains_eq_false_iff] at found
      cases present : right.contains key with
      | false => rfl
      | true => exact absurd (known key present) (by simp [found])

private theorem get?_foldl_insert {entries : List (String × value)}
    (distinct : (entries.map Prod.fst).Nodup) (map : SortedMap value) (key : String)
    (stored : value) :
    (entries.foldl (fun map entry => map.insert entry.1 entry.2) map).get? key = some stored ↔
      (key, stored) ∈ entries ∨ key ∉ entries.map Prod.fst ∧ map.get? key = some stored := by
  induction entries generalizing map with
  | nil => simp
  | cons head rest ih =>
      obtain ⟨present, found⟩ := head
      rw [List.map_cons, List.nodup_cons] at distinct
      rw [List.foldl_cons, ih distinct.2, get?_insert, List.mem_cons, List.map_cons,
        List.mem_cons, not_or]
      by_cases equal : key = present
      · subst equal
        have absent : (key, stored) ∉ rest := fun inside =>
          distinct.1 (List.mem_map.mpr ⟨_, inside, rfl⟩)
        simp [absent, distinct.1, eq_comm]
      · simp [equal]

/-- A map made of entries with distinct keys holds exactly those. -/
theorem get?_ofListLast_eq_some_iff {entries : List (String × value)}
    (distinct : (entries.map Prod.fst).Nodup) {key : String} {stored : value} :
    (ofListLast entries).get? key = some stored ↔ (key, stored) ∈ entries := by
  rw [ofListLast, get?_foldl_insert distinct]
  simp

theorem get?_ofListFirst (entries : List (String × value)) (key : String) :
    (ofListFirst entries).get? key = entries.lookup key := by
  induction entries with
  | nil => rfl
  | cons entry rest ih =>
      rw [ofListFirst, List.foldr_cons, get?_insert, List.lookup_cons, ← ofListFirst, ih]
      by_cases equal : key = entry.1
      · rw [if_pos equal, beq_iff_eq.mpr equal]
      · rw [if_neg equal, beq_eq_false_iff_ne.mpr equal]

/-- The last item of a kind after one more item is that item, or the last one before it. -/
theorem exists_last_append_singleton {item : Type} {chosen passed : item → Prop}
    (items : List item) (final : item) :
    (∃ earlier last later, items ++ [final] = earlier ++ last :: later ∧ chosen last ∧
        ∀ other ∈ later, passed other) ↔
      chosen final ∨ passed final ∧
        ∃ earlier last later, items = earlier ++ last :: later ∧ chosen last ∧
          ∀ other ∈ later, passed other := by
  constructor
  · rintro ⟨earlier, last, later, split, right, rest⟩
    rcases List.eq_nil_or_concat later with rfl | ⟨front, other, rfl⟩
    · obtain rfl : final = last := List.singleton_inj.mp (List.append_inj' split rfl).2
      exact .inl right
    · rw [List.concat_eq_append] at split rest
      rw [← List.cons_append, ← List.append_assoc] at split
      obtain ⟨rfl, same⟩ := List.append_inj' split rfl
      obtain rfl := List.singleton_inj.mp same
      exact .inr ⟨rest final (by simp), earlier, last, front, rfl, right,
        fun other member => rest other (List.mem_append_left _ member)⟩
  · rintro (right | ⟨pass, earlier, last, later, rfl, right, rest⟩)
    · exact ⟨items, final, [], rfl, right, nofun⟩
    · refine ⟨earlier, last, later ++ [final], by simp, right, fun other member => ?_⟩
      rcases List.mem_append.mp member with old | new
      · exact rest other old
      · rwa [List.mem_singleton.mp new]

theorem ofListLast_append (entries : List (String × value)) (final : String × value) :
    ofListLast (entries ++ [final]) = (ofListLast entries).insert final.1 final.2 := by
  rw [ofListLast, List.foldl_append]
  rfl

/-- Of the items of a list with equal keys the last one stays. -/
theorem get?_ofListLast_map_eq_some_iff {item : Type} (items : List item)
    (entry : item → String × value) (key : String) (stored : value) :
    (ofListLast (items.map entry)).get? key = some stored ↔
      ∃ earlier last later, items = earlier ++ last :: later ∧ entry last = (key, stored) ∧
        ∀ other ∈ later, (entry other).1 ≠ key := by
  induction items using List.reverseRecOn with
  | nil => simp [ofListLast]
  | append_singleton items final ih =>
      rw [List.map_append, List.map_singleton, ofListLast_append, get?_insert,
        exists_last_append_singleton, ← ih, Prod.ext_iff]
      by_cases equal : key = (entry final).1
      · simp [← equal]
      · simp [equal, Ne.symm equal]

theorem contains_ofListLast (entries : List (String × value)) (key : String) :
    (ofListLast entries).contains key = true ↔ ∃ stored, (key, stored) ∈ entries := by
  induction entries using List.reverseRecOn with
  | nil => exact iff_of_false Bool.false_ne_true (by simp)
  | append_singleton entries final ih =>
      rw [ofListLast_append, contains, get?_insert]
      by_cases equal : key = final.1
      · rw [if_pos equal]
        exact iff_of_true rfl ⟨final.2, by simp [equal]⟩
      · rw [if_neg equal]
        refine ih.trans (exists_congr fun stored => ?_)
        rw [List.mem_append, List.mem_singleton, or_iff_left]
        rintro rfl
        exact equal rfl

theorem erase_of_absent {map : SortedMap value} {key : String} (absent : map.get? key = none) :
    map.erase key = map := by
  refine ext_get? fun sought => ?_
  rw [get?_erase]
  by_cases equal : sought = key
  · rw [if_pos equal, equal, absent]
  · rw [if_neg equal]

theorem nodup_keys (map : SortedMap value) : map.keys.Nodup := by
  refine List.pairwise_map.mpr (map.ascending.imp ?_)
  intro left right less equal
  rw [equal] at less
  exact String.lt_irrefl _ less

theorem mem_keys (map : SortedMap value) (key : String) :
    key ∈ map.keys ↔ map.contains key = true := by
  rw [contains_iff, keys, List.mem_map]
  constructor
  · rintro ⟨⟨_, stored⟩, member, rfl⟩
    exact ⟨stored, (map.get?_eq_some_iff _ _).mpr member⟩
  · rintro ⟨stored, found⟩
    exact ⟨(key, stored), (map.get?_eq_some_iff _ _).mp found, rfl⟩

theorem nodup_entries (map : SortedMap value) : map.entries.Nodup :=
  List.Nodup.of_map Prod.fst map.nodup_keys

/-- A union has as many keys more than the left map as the right one has new ones. -/
theorem size_union (left right : SortedMap value) :
    (left.union right).size =
      left.size + (right.keys.filter fun key => !left.contains key).length := by
  have same : (left.union right).keys.Perm
      (left.keys ++ right.keys.filter fun key => !left.contains key) := by
    refine (List.perm_ext_iff_of_nodup (nodup_keys _) ?_).mpr fun key => ?_
    · refine List.nodup_append.mpr ⟨left.nodup_keys, right.nodup_keys.filter _, ?_⟩
      rintro key old _ new rfl
      rw [mem_keys] at old
      simp [old] at new
    · rw [List.mem_append, List.mem_filter, mem_keys, mem_keys, mem_keys, contains_union]
      cases left.contains key <;> simp
  have lengths := same.length_eq
  rwa [List.length_append, keys, List.length_map, keys, List.length_map] at lengths

theorem keys_map (source : SortedMap value) (convert : value → other) :
    (source.map convert).keys = source.keys := by
  rw [keys, keys, map, List.map_map]
  rfl

/-- Maps with the same keys have the same size. -/
theorem size_eq_of_contains {left : SortedMap value} {right : SortedMap other}
    (same : ∀ key, left.contains key = right.contains key) : left.size = right.size := by
  have keys : left.keys.Perm right.keys := by
    refine (List.perm_ext_iff_of_nodup left.nodup_keys right.nodup_keys).mpr fun key => ?_
    rw [mem_keys, mem_keys, same]
  have lengths := keys.length_eq
  rwa [SortedMap.keys, List.length_map, SortedMap.keys, List.length_map] at lengths

end SortedMap

namespace StringSet

/-- Sets with the same members are equal. -/
theorem ext_contains {left right : StringSet}
    (same : ∀ member, left.contains member = right.contains member) : left = right := by
  refine SortedMap.ext_get? fun member => ?_
  have equal := same member
  rw [SortedMap.contains, SortedMap.contains] at equal
  cases here : left.get? member <;> cases there : right.get? member <;> simp_all

theorem contains_insert (set : StringSet) (added member : String) :
    (set.insert added).contains member = true ↔ member = added ∨ set.contains member = true := by
  rw [insert, SortedMap.contains, SortedMap.get?_insert]
  split <;> simp_all [SortedMap.contains]

theorem contains_ofList (members : List String) (member : String) :
    (ofList members).contains member = true ↔ member ∈ members := by
  induction members with
  | nil => simp [ofList, SortedMap.contains]
  | cons head rest ih =>
      rw [ofList, List.foldr_cons, contains_insert, List.mem_cons]
      exact or_congr_right ih

/-- The members of a set in any order make the set again. -/
theorem ofList_of_perm {set : StringSet} {members : List String}
    (same : members.Perm (SortedMap.keys set)) : ofList members = set :=
  ext_contains fun member => by
    rw [Bool.eq_iff_iff, contains_ofList, same.mem_iff, SortedMap.mem_keys]

end StringSet

namespace JarSet

theorem contains_hashes (jars : JarSet) (hash : String) :
    jars.hashes.contains hash = jars.contains hash := by
  simp [hashes, SortedMap.contains]

end JarSet
end JarLedger
