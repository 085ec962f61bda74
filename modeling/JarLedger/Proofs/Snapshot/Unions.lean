import JarLedger.Proofs.Snapshot.Entries

/-!
# Jar lists as unions

A jar list, in either spelling, comes to the set of the hashes that its entries carry, each
described by the first entry that carries it (`JarList.Collects`).  A set is determined by that, and
a list made of two lists one after the other comes to the union of their sets, in which the first
one's descriptions stay (`JarList.read_collects`).
-/

namespace JarLedger
namespace JarList

/-- The spellings of a list of entries: nothing and `null` are the empty list, and an object may
wrap a list under `jars`. -/
inductive Lists : Option Json → List Json → Prop
  | absent : Lists none []
  | null : Lists (some .null) []
  | bare (entries : List Json) : Lists (some (.array entries)) entries
  | wrapped {members : List (String × Json)} {entries : List Json}
      (inside : members.lookup "jars" = some (.array entries)) :
      Lists (some (.object members)) entries
  | unfilled {members : List (String × Json)} (empty : Json.present? members "jars" = none) :
      Lists (some (.object members)) []

/-- A set of jars has the hashes that entries carry, in ascending order and each once, as the first
entry that carries a hash describes it. -/
structure Collects (entries : List Json) (jars : JarSet) : Prop where
  ascending : jars.keys.Pairwise (· < ·)
  carried : ∀ hash, hash ∈ jars.keys ↔ ∃ entry ∈ entries, Carries entry hash
  described : ∀ hash label, jars.get? hash = some label ↔ IsFirstLabel entries hash label

/-- Only a list has entries, and those are all that is read of it. -/
theorem items_ok_iff (path : Path) (value : Option Json) (entries : List Json) :
    items path value = .ok entries ↔ Lists value entries := by
  constructor
  · intro read
    rw [items.eq_def] at read
    split at read
    · cases read
      exact .absent
    · cases read
      exact .null
    · cases read
      exact .bare _
    · split at read
      · rename_i missing
        cases read
        exact .unfilled (by simp [Json.present?, missing])
      · rename_i null
        cases read
        exact .unfilled (by simp [Json.present?, null, Json.isNull])
      · rename_i inside
        cases read
        exact .wrapped inside
      · cases read
    · cases read
  · intro lists
    cases lists with
    | absent | null | bare => rfl
    | wrapped inside => rw [items, inside]
    | unfilled empty =>
        rw [items]
        cases found : (List.lookup "jars" _ : Option Json) with
        | none => rfl
        | some value => cases value <;> simp_all [Json.present?, Json.isNull]

theorem read_ok_iff (path : Path) (value : Option Json) (jars : JarSet) :
    read path value = .ok jars ↔ ∃ entries, Lists value entries ∧ ofItems entries = jars := by
  simp only [← items_ok_iff path value, read]
  cases items path value <;> simp [Except.map]

theorem collects_ofItems (entries : List Json) : Collects entries (ofItems entries) where
  ascending := List.pairwise_map.mpr (ofItems entries).ascending
  carried hash := by rw [SortedMap.mem_keys, contains_ofItems]
  described := get?_ofItems_eq_some_iff entries

/-- What is said of a set by its entries determines it. -/
theorem Collects.eq_ofItems {entries : List Json} {jars : JarSet}
    (collects : Collects entries jars) : ofItems entries = jars :=
  SortedMap.ext_get? fun hash => Option.ext fun label => by
    rw [collects.described, get?_ofItems_eq_some_iff]

/-- The order of preference among checksums: an entry that is no text carries the first that it
tells. -/
theorem carries_iff (entry : Json) (hash : String) :
    Carries entry hash ↔
      entry = .string hash ∧ hash ≠ "" ∨ Tells entry "sha256Checksum" hash ∨
        (∀ other, ¬Tells entry "sha256Checksum" other) ∧ (Tells entry "sha512Checksum" hash ∨
          (∀ other, ¬Tells entry "sha512Checksum" other) ∧ Tells entry "sha1Checksum" hash) := by
  constructor
  · rintro (full | ⟨names, tells, silent⟩)
    · exact .inl ⟨rfl, full⟩
    · rename_i preferred others
      rcases preferred with _ | ⟨first, _ | ⟨second, _ | ⟨third, _ | _⟩⟩⟩ <;>
        simp only [checksumNames, List.nil_append, List.cons_append, List.cons.injEq,
          List.nil_eq, reduceCtorEq, and_false] at names
      · obtain ⟨rfl, -⟩ := names
        exact .inr (.inl tells)
      · obtain ⟨rfl, rfl, -⟩ := names
        exact .inr (.inr ⟨silent _ (by simp), .inl tells⟩)
      · obtain ⟨rfl, rfl, rfl, -⟩ := names
        exact .inr (.inr ⟨silent _ (by simp), .inr ⟨silent _ (by simp), tells⟩⟩)
  · rintro (⟨rfl, full⟩ | tells | ⟨no256, tells | ⟨no512, tells⟩⟩)
    · exact .text full
    · exact .checksum (List.nil_append checksumNames).symm tells nofun
    · have names : checksumNames = ["sha256Checksum"] ++ ["sha512Checksum", "sha1Checksum"] := rfl
      exact .checksum names tells (by simpa using no256)
    · have names : checksumNames = ["sha256Checksum", "sha512Checksum"] ++ ["sha1Checksum"] := rfl
      exact .checksum names tells (by simpa using ⟨no256, no512⟩)

/-- A list is accepted exactly if it is one in either spelling, and comes to what its entries
collect.  Two lists one after the other come to the union of what each of them comes to, in which
the descriptions of the first stay.  An entry carries itself if it is a text, and else the first
checksum in the order of preference; an empty one counts as none. -/
theorem read_collects (path : Path) :
    (∀ value jars, read path value = .ok jars ↔
      ∃ entries, Lists value entries ∧ Collects entries jars) ∧
    (∀ left right whole front back, Lists left front → Lists right back →
      Lists whole (front ++ back) → ∃ jars others, read path left = .ok jars ∧
        read path right = .ok others ∧ read path whole = .ok (jars.union others) ∧
        ∀ hash, (jars.union others).get? hash = (jars.get? hash).or (others.get? hash)) ∧
    ∀ entry hash, Carries entry hash ↔
      entry = .string hash ∧ hash ≠ "" ∨ Tells entry "sha256Checksum" hash ∨
        (∀ other, ¬Tells entry "sha256Checksum" other) ∧ (Tells entry "sha512Checksum" hash ∨
          (∀ other, ¬Tells entry "sha512Checksum" other) ∧ Tells entry "sha1Checksum" hash) := by
  refine ⟨fun value jars => ?_, fun left right whole front back first second joined => ?_,
    carries_iff⟩
  · rw [read_ok_iff]
    refine exists_congr fun entries => and_congr_right fun _ => ⟨?_, Collects.eq_ofItems⟩
    rintro rfl
    exact collects_ofItems entries
  · have comes {value : Option Json} {entries : List Json} (lists : Lists value entries) :
        read path value = .ok (ofItems entries) :=
      (read_ok_iff path value _).mpr ⟨entries, lists, rfl⟩
    refine ⟨ofItems front, ofItems back, comes first, comes second, ?_, ?_⟩
    · rw [← ofItems_append]
      exact comes joined
    · exact SortedMap.get?_union _ _

/-- A list that wraps its entries, one of them without a hash, comes after one that names the same
jars. -/
theorem read_collects_overlapping :
    let first : Json := .array [.string "a",
      .object [("attributes", .object [("sha1Checksum", .string "b")]), ("name", .string "n")]]
    let again : Json := .object [("name", .string "m"), ("attributes",
      .object [("sha1Checksum", .string "b"), ("sha256Checksum", .string "a")])]
    let second : Json := .object [("jars", .array [again, .int 7, .string "c"])]
    ∃ jars others, read [] (some first) = .ok jars ∧ read [] (some second) = .ok others ∧
      JarSet.toList (jars.union others) = [⟨"a", {}⟩, ⟨"b", { name := "n" }⟩, ⟨"c", {}⟩] := by
  intro first again second
  obtain ⟨-, union, -⟩ := read_collects []
  obtain ⟨jars, others, left, right, -⟩ :=
    union (some first) (some second) (some (.array _)) _ _ (.bare _) (.wrapped rfl) (.bare _)
  refine ⟨jars, others, left, right, ?_⟩
  cases left
  cases right
  decide +kernel

end JarList
end JarLedger
