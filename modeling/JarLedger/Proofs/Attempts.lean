import Mathlib.Data.List.Basic
import Mathlib.Logic.Basic

/-!
# Attempts that may fail

An attempt gives a result or fails with a cause.  What comes of attempts in sequence, of what is
made of a result, and of an attempt for each item of a list is said by what comes of the parts.
-/

namespace JarLedger

variable {failure first second : Type}

theorem bind_eq_ok_iff {attempt : Except failure first} {next : first → Except failure second}
    {result : second} :
    (attempt >>= next) = .ok result ↔
      ∃ middle, attempt = .ok middle ∧ next middle = .ok result := by
  cases attempt with
  | error cause => exact iff_of_false nofun nofun
  | ok middle =>
      exact ⟨fun succeeds => ⟨middle, rfl, succeeds⟩, fun ⟨_, rfl, succeeds⟩ => succeeds⟩

theorem bind_eq_ok {attempt : Except failure first} {next : first → Except failure second}
    {middle : first} {result : second} (found : attempt = .ok middle)
    (succeeds : next middle = .ok result) : (attempt >>= next) = .ok result :=
  bind_eq_ok_iff.mpr ⟨middle, found, succeeds⟩

theorem exists_ok_bind {attempt : Except failure first} {next : first → Except failure second} :
    (∃ result, (attempt >>= next) = .ok result) ↔
      ∃ middle, attempt = .ok middle ∧ ∃ result, next middle = .ok result := by
  simp only [bind_eq_ok_iff]
  exact exists_comm.trans (exists_congr fun middle => exists_and_left)

theorem map_eq_ok_iff {attempt : Except failure first} {convert : first → second}
    {result : second} :
    convert <$> attempt = .ok result ↔
      ∃ middle, attempt = .ok middle ∧ convert middle = result := by
  cases attempt <;> simp

theorem exists_ok_map {attempt : Except failure first} {convert : first → second} :
    (∃ result, convert <$> attempt = .ok result) ↔ ∃ middle, attempt = .ok middle := by
  simp only [map_eq_ok_iff]
  exact ⟨fun ⟨_, middle, found, _⟩ => ⟨middle, found⟩,
    fun ⟨middle, found⟩ => ⟨_, middle, found, rfl⟩⟩

theorem exists_ok_pure (value : first) :
    (∃ result, (pure value : Except failure first) = .ok result) ↔ True :=
  iff_true_intro ⟨value, rfl⟩

theorem toOption_eq_some_iff {attempt : Except failure first} {result : first} :
    attempt.toOption = some result ↔ attempt = .ok result := by
  cases attempt <;> simp [Except.toOption]

theorem exists_ok_mapM {attempt : first → Except failure second} {items : List first} :
    (∃ results, items.mapM attempt = .ok results) ↔
      ∀ item ∈ items, ∃ result, attempt item = .ok result := by
  induction items with
  | nil => exact iff_of_true ⟨[], rfl⟩ nofun
  | cons item rest ih =>
      simp only [List.mapM_cons, exists_ok_bind, exists_ok_pure, and_true, ih,
        exists_and_right, List.forall_mem_cons]

/-- Attempts in sequence are refused by the first one that is. -/
theorem bind_eq_error_iff {attempt : Except failure first} {next : first → Except failure second}
    {cause : failure} :
    (attempt >>= next) = .error cause ↔
      attempt = .error cause ∨ ∃ middle, attempt = .ok middle ∧ next middle = .error cause := by
  cases attempt <;> simp [bind, Except.bind]

/-- Where an attempt for each item fails, it does so for one of them. -/
theorem exists_of_mapM_error {attempt : first → Except failure second} {items : List first}
    {cause : failure} (failed : items.mapM attempt = .error cause) :
    ∃ item ∈ items, attempt item = .error cause := by
  induction items with
  | nil => cases failed
  | cons item rest ih =>
      rw [List.mapM_cons] at failed
      rcases bind_eq_error_iff.mp failed with here | ⟨_, -, later⟩
      · exact ⟨item, List.mem_cons_self, here⟩
      · rcases bind_eq_error_iff.mp later with there | ⟨_, _, done⟩
        · obtain ⟨other, member, failed⟩ := ih there
          exact ⟨other, List.mem_cons_of_mem _ member, failed⟩
        · cases done

/-! ## Attempts that agree -/

section Agreement

variable {α β γ δ : Type}

theorem map_bind_same {first : Except failure α} {next later : α → Except failure β}
    {outcome : β → δ} (rest : ∀ value, outcome <$> later value = outcome <$> next value) :
    outcome <$> (first >>= later) = outcome <$> (first >>= next) := by
  cases first with
  | error cause => rfl
  | ok value => exact rest value

/-- What is made of two attempts that agree on what counts is the same if what follows agrees on
what counts then. -/
theorem map_bind_congr {first other : Except failure α} {next later : α → Except failure β}
    {essence : α → γ} {outcome : β → δ} (same : essence <$> other = essence <$> first)
    (rest : ∀ value result, essence result = essence value →
      outcome <$> later result = outcome <$> next value) :
    outcome <$> (other >>= later) = outcome <$> (first >>= next) := by
  cases first with
  | error cause =>
      cases other with
      | error fault =>
          obtain rfl : fault = cause := Except.error.inj same
          rfl
      | ok result => cases same
  | ok value =>
      cases other with
      | error fault => cases same
      | ok result => exact rest value result (Except.ok.inj same)

end Agreement

end JarLedger
