import JarLedger.Sql.Write

/-!
# What work asks a server

`Asks` bounds the statements that work on a connection asks the server, whatever the server answers.
It goes through sequences and loops, so that the statements of a piece of work can be read off its
parts.
-/

namespace JarLedger

theorem Connection.snd_expect {σ α : Type} (found : Option α) (connection : Connection σ) :
    ((Connection.expect found : SqlWork σ α) connection).2 = connection := by
  cases found <;> rfl

namespace SqlWork

variable {σ α β : Type}

/-- Work in sequence. -/
theorem bind_eq (work : SqlWork σ α) (next : α → SqlWork σ β) (connection : Connection σ) :
    (work >>= next) connection =
      match work connection with
      | (.ok value, after) => next value after
      | (.error cause, after) => (.error cause, after) := by
  simp only [bind, ExceptT.bind, ExceptT.mk, StateT.bind]
  rcases work connection with ⟨_ | _, after⟩ <;> rfl

/-- Work asks the server nothing but statements of a kind. -/
def Asks (kind : Statement → Prop) (work : SqlWork σ α) : Prop :=
  ∀ connection, ∃ posed, (work connection).2.asked = posed ++ connection.asked ∧
    ∀ statement ∈ posed, kind statement

namespace Asks

variable {kind : Statement → Prop}

theorem none {work : SqlWork σ α} (idle : ∀ connection, (work connection).2 = connection) :
    Asks kind work :=
  fun connection => ⟨[], by rw [idle]; rfl, nofun⟩

theorem pure (value : α) : Asks kind (pure value : SqlWork σ α) := none fun _ => rfl

theorem throw (cause : PersistenceError) : Asks kind (throw cause : SqlWork σ α) :=
  none fun _ => rfl

theorem expect (found : Option α) : Asks kind (Connection.expect found : SqlWork σ α) :=
  none (Connection.snd_expect found)

theorem bind {work : SqlWork σ α} {next : α → SqlWork σ β} (first : Asks kind work)
    (later : ∀ value, Asks kind (next value)) : Asks kind (work >>= next) := by
  intro connection
  rw [bind_eq]
  obtain ⟨early, asked, allowed⟩ := first connection
  rcases came : work connection with ⟨cause | value, after⟩ <;> rw [came] at asked
  · exact ⟨early, asked, allowed⟩
  · obtain ⟨late, askedLater, allowedLater⟩ := later value after
    refine ⟨late ++ early, ?_, ?_⟩
    · rw [List.append_assoc, ← asked]
      exact askedLater
    · intro statement member
      rcases List.mem_append.mp member with inLate | inEarly
      · exact allowedLater statement inLate
      · exact allowed statement inEarly

theorem discard {work : SqlWork σ α} (first : Asks kind work) :
    Asks kind (Functor.discard work) :=
  bind first fun _ => pure _

theorem mapM {work : α → SqlWork σ β} {items : List α}
    (each : ∀ item ∈ items, Asks kind (work item)) : Asks kind (items.mapM work) := by
  induction items with
  | nil => exact pure []
  | cons item rest ih =>
      rw [List.mapM_cons]
      exact bind (each item List.mem_cons_self) fun _ =>
        bind (ih fun other member => each other (List.mem_cons_of_mem _ member)) fun _ => pure _

theorem forM {work : α → SqlWork σ PUnit} {items : List α}
    (each : ∀ item ∈ items, Asks kind (work item)) : Asks kind (items.forM work) := by
  induction items with
  | nil => exact pure _
  | cons item rest ih =>
      exact bind (each item List.mem_cons_self) fun _ =>
        ih fun other member => each other (List.mem_cons_of_mem _ member)

end Asks

/-- Work succeeds only if something holds. -/
def Needs (demand : Prop) (work : SqlWork σ α) : Prop :=
  ∀ connection value after, work connection = (.ok value, after) → demand

namespace Needs

variable {demand : Prop}

/-- Work in sequence succeeds only if both parts do. -/
theorem of_bind {work : SqlWork σ α} {next : α → SqlWork σ β}
    {connection after : Connection σ} {result : β}
    (succeeded : (work >>= next) connection = (.ok result, after)) :
    ∃ value between, work connection = (.ok value, between) ∧
      next value between = (.ok result, after) := by
  rw [bind_eq] at succeeded
  rcases came : work connection with ⟨cause | value, between⟩ <;> rw [came] at succeeded
  · cases succeeded
  · exact ⟨value, between, rfl, succeeded⟩

theorem bind_left {work : SqlWork σ α} {next : α → SqlWork σ β} (first : Needs demand work) :
    Needs demand (work >>= next) := by
  intro connection result after succeeded
  obtain ⟨value, between, came, _⟩ := of_bind succeeded
  exact first connection value between came

theorem bind_right {work : SqlWork σ α} {next : α → SqlWork σ β}
    (later : ∀ value, Needs demand (next value)) : Needs demand (work >>= next) := by
  intro connection result after succeeded
  obtain ⟨value, between, _, went⟩ := of_bind succeeded
  exact later value between result after went

theorem forM {work : α → SqlWork σ PUnit} {items : List α} {item : α} (member : item ∈ items)
    (one : Needs demand (work item)) : Needs demand (items.forM work) := by
  induction items with
  | nil => cases member
  | cons head rest ih =>
      rcases List.mem_cons.mp member with rfl | later
      · exact bind_left one
      · exact bind_right fun _ => ih later

end Needs

/-- Work succeeds, with a value of a kind, unless it is stopped by a statement with too many
values. -/
def Manages (kind : α → Prop) (work : SqlWork σ α) : Prop :=
  ∀ connection, (∃ value after, work connection = (.ok value, after) ∧ kind value) ∨
    ∃ cause after, work connection = (.error cause, after) ∧
      ∃ statement ∈ after.asked, bindLimit < statement.parameters.length

namespace Manages

variable {kind : α → Prop} {other : β → Prop}

theorem pure {value : α} (right : kind value) : Manages kind (pure value : SqlWork σ α) :=
  fun connection => .inl ⟨value, connection, rfl, right⟩

theorem bind {work : SqlWork σ α} {next : α → SqlWork σ β} (first : Manages kind work)
    (later : ∀ value, kind value → Manages other (next value)) :
    Manages other (work >>= next) := by
  intro connection
  rw [bind_eq]
  rcases first connection with ⟨value, after, came, right⟩ | ⟨cause, after, came, excess⟩
  · rw [came]
    exact later value right after
  · rw [came]
    exact .inr ⟨cause, after, rfl, excess⟩

theorem discard {work : SqlWork σ α} (first : Manages kind work) :
    Manages (fun _ => True) (Functor.discard work) :=
  bind first fun _ _ => pure trivial

theorem mapM {work : α → SqlWork σ β} {value : α → β} {items : List α}
    (each : ∀ item ∈ items, Manages (fun found => found = value item) (work item)) :
    Manages (fun found => found = items.map value) (items.mapM work) := by
  induction items with
  | nil => exact pure rfl
  | cons item rest ih =>
      rw [List.mapM_cons]
      refine bind (each item List.mem_cons_self) fun first equal => ?_
      refine bind (ih fun other member => each other (List.mem_cons_of_mem _ member)) ?_
      intro later same
      exact pure (by rw [equal, same]; rfl)

theorem forM {work : α → SqlWork σ PUnit} {items : List α}
    (each : ∀ item ∈ items, Manages (fun _ => True) (work item)) :
    Manages (fun _ => True) (items.forM work) := by
  induction items with
  | nil => exact pure trivial
  | cons item rest ih =>
      exact bind (each item List.mem_cons_self) fun _ _ =>
        ih fun other member => each other (List.mem_cons_of_mem _ member)

end Manages

end SqlWork

namespace Connection

open SqlWork

variable {σ : Type} (peer : Peer σ) (statement : Statement)

theorem asked_ask (connection : Connection σ) :
    (connection.ask peer statement).2.asked = statement :: connection.asked := by
  unfold ask
  dsimp only
  split <;> rfl

theorem asked_query (connection : Connection σ) :
    (query peer statement connection).2.asked = statement :: connection.asked := by
  rw [← asked_ask peer statement connection, query]
  rcases connection.ask peer statement with ⟨_ | _, _⟩ <;> rfl

theorem asks_query {kind : Statement → Prop} (right : kind statement) :
    Asks kind (query peer statement) := fun connection =>
  ⟨[statement], asked_query peer statement connection, by simpa using right⟩

/-- A statement succeeds only if it has few enough values. -/
theorem needs_query :
    Needs (statement.parameters.length ≤ bindLimit) (query peer statement) := by
  intro connection value after succeeded
  rcases Nat.lt_or_ge bindLimit statement.parameters.length with excess | few
  · simp only [query, ask, excess, if_true] at succeeded
    cases succeeded
  · exact few

end Connection

end JarLedger
