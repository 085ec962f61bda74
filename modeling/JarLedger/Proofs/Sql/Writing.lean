import JarLedger.Proofs.Sql.BindLimit
import JarLedger.Proofs.Sql.Dialogue
import JarLedger.Proofs.Sql.Graph

/-!
# What work writes

With a server that accepts everything and gives numbers where they are asked for, a log of what was
sent and answered tells which rows were written and which numbers they have.  `SqlWork.Writes` says
what a piece of work adds to such a log; it goes through sequences and loops, so that what an
instance leaves behind is put together from what its parts do.
-/

namespace JarLedger

/-! ## What a log tells -/

/-- The rows of an insert, by columns. -/
def Insert.records (rows : Insert) : List Row :=
  rows.rows.map fun row => ⟨rows.table, rows.columns.zip row⟩

namespace SqlExchange

/-- The rows that were sent. -/
def rows : SqlExchange → List Row
  | ⟨.insert rows, _⟩ => rows.records
  | ⟨.plain _ _, _⟩ => []

/-- The number that was given to a row, with the table of the row. -/
def number? : SqlExchange → Option (String × Int)
  | ⟨.insert rows, .ok reply⟩ =>
      if rows.clause = Sql.returningId then
        (Connection.firstNumber? reply).map (Prod.mk rows.table)
      else none
  | _ => none

/-- The numbers that were given to jars, with the hashes of those. -/
def jarNumbers : SqlExchange → List (String × Int)
  | ⟨.insert rows, .ok reply⟩ =>
      if rows.clause = Sql.upsertClause then reply.rows.filterMap Sql.jarRow? else []
  | _ => []

/-- An insert has rows. -/
def IsFull : SqlExchange → Prop
  | ⟨.insert rows, _⟩ => rows.rows ≠ []
  | ⟨.plain _ _, _⟩ => True

end SqlExchange

/-- A log tells which rows were sent, and which numbers were given to rows and to jars; no insert in
it is without rows. -/
structure Tells (rows : List Row) (numbers jars : List (String × Int)) (log : List SqlExchange) :
    Prop where
  rows : log.flatMap SqlExchange.rows = rows
  numbers : log.filterMap SqlExchange.number? = numbers
  jars : log.flatMap SqlExchange.jarNumbers = jars
  full : ∀ exchange ∈ log, exchange.IsFull

theorem Tells.snoc {rows : List Row} {numbers jars : List (String × Int)} {log : List SqlExchange}
    (tells : Tells rows numbers jars log) {exchange : SqlExchange} (full : exchange.IsFull) :
    Tells (rows ++ exchange.rows) (numbers ++ exchange.number?.toList)
      (jars ++ exchange.jarNumbers) (log ++ [exchange]) where
  rows := by simp [tells.rows]
  numbers := by
    rw [List.filterMap_append, tells.numbers]
    cases found : exchange.number? <;> simp [found]
  jars := by simp [tells.jars]
  full := List.forall_mem_append.mpr ⟨tells.full, List.forall_mem_singleton.mpr full⟩

/-! ## Peers that number what they are given -/

/-- The answer for a jar. -/
def jarAnswer (entry : String × Int) : List SqlValue := [.int entry.2, .text entry.1]

/-- A peer accepts everything, and gives a number where one is asked for; jars it answers for in any
order. -/
structure Peer.Honours {σ : Type} (peer : Peer σ) : Prop where
  accepts : ∀ statement state, ∃ reply, (peer statement state).1 = .ok reply
  numbers : ∀ rows state reply, rows.clause = Sql.returningId →
    (peer (.insert rows) state).1 = .ok reply → ∃ number : Int, reply.rows = [[.int number]]
  jars : ∀ jars state reply, (peer (.insert (Sql.jarInsert jars)) state).1 = .ok reply →
    ∃ numbered : List (String × Int), reply.rows = numbered.map jarAnswer ∧
      (numbered.map Prod.fst).Perm (jars.map Jar.hash)

namespace SqlWork

variable {σ α β : Type}

/-- With a log of a kind, work succeeds with a value and a log that go together, unless it is
stopped by a statement with too many values. -/
def Writes (before : List SqlExchange → Prop) (work : SqlWork (σ × List SqlExchange) α)
    (after : α → List SqlExchange → Prop) : Prop :=
  ∀ connection, before connection.peer.2 →
    (∃ value, (work connection).1 = .ok value ∧ after value (work connection).2.peer.2) ∨
      (work connection).1 = .error .database ∧
        ∃ statement ∈ (work connection).2.asked, ¬statement.IsSendable

namespace Writes

variable {before : List SqlExchange → Prop}

theorem pure {after : α → List SqlExchange → Prop} {value : α}
    (right : ∀ log, before log → after value log) :
    Writes before (pure value : SqlWork (σ × List SqlExchange) α) after :=
  fun _ holds => .inl ⟨value, rfl, right _ holds⟩

theorem bind {work : SqlWork (σ × List SqlExchange) α} {next : α → SqlWork (σ × List SqlExchange) β}
    {middle : α → List SqlExchange → Prop} {after : β → List SqlExchange → Prop}
    (first : Writes before work middle)
    (later : ∀ value, Writes (middle value) (next value) after) :
    Writes before (work >>= next) after := by
  intro connection holds
  have came := first connection holds
  rw [bind_eq]
  generalize work connection = done at came ⊢
  obtain ⟨cause | value, between⟩ := done
  · rcases came with ⟨_, succeeded, _⟩ | ⟨failed, excess⟩
    · cases succeeded
    · exact .inr ⟨congrArg Except.error (Except.error.inj failed), excess⟩
  · rcases came with ⟨_, succeeded, right⟩ | ⟨failed, _⟩
    · cases succeeded
      exact later value between right
    · cases failed

theorem weaken {work : SqlWork (σ × List SqlExchange) α}
    {after weaker : α → List SqlExchange → Prop}
    (writes : Writes before work after)
    (weakens : ∀ value log, after value log → weaker value log) :
    Writes before work weaker := by
  intro connection holds
  rcases writes connection holds with ⟨value, succeeded, right⟩ | stopped
  · exact .inl ⟨value, succeeded, weakens _ _ right⟩
  · exact .inr stopped

theorem discard {work : SqlWork (σ × List SqlExchange) α} {after : List SqlExchange → Prop}
    (writes : Writes before work fun _ => after) :
    Writes before (Functor.discard work) fun _ => after :=
  writes.bind fun _ => pure fun _ => id

theorem intro {ι : Type} {kind : ι → List SqlExchange → Prop}
    {work : SqlWork (σ × List SqlExchange) α} {after : α → List SqlExchange → Prop}
    (each : ∀ index, Writes (kind index) work after) :
    Writes (fun log => ∃ index, kind index log) work after :=
  fun connection ⟨index, holds⟩ => each index connection holds

theorem assuming {fact : Prop} {work : SqlWork (σ × List SqlExchange) α}
    {after : α → List SqlExchange → Prop} (writes : fact → Writes before work after) :
    Writes (fun log => fact ∧ before log) work after :=
  fun connection ⟨known, holds⟩ => writes known connection holds

/-- What holds of the items and values so far goes on through a loop. -/
theorem mapM {work : α → SqlWork (σ × List SqlExchange) β} {items : List α}
    {invariant : List α → List β → List SqlExchange → Prop}
    (each : ∀ past found item, item ∈ items → Writes (invariant past found) (work item)
      fun value => invariant (past ++ [item]) (found ++ [value]))
    (past : List α) (found : List β) :
    Writes (invariant past found) (items.mapM work) fun values =>
      invariant (past ++ items) (found ++ values) := by
  induction items generalizing past found with
  | nil => exact pure fun log holds => by simpa using holds
  | cons item rest ih =>
      rw [List.mapM_cons]
      refine (each past found item List.mem_cons_self).bind fun value => ?_
      have later := ih (fun past found other member =>
        each past found other (List.mem_cons_of_mem _ member)) (past ++ [item]) (found ++ [value])
      refine later.bind fun values => pure fun log holds => ?_
      simpa using holds

theorem forM {work : α → SqlWork (σ × List SqlExchange) PUnit} {items : List α}
    {invariant : List α → List SqlExchange → Prop}
    (each : ∀ past item, item ∈ items →
      Writes (invariant past) (work item) fun _ => invariant (past ++ [item]))
    (past : List α) :
    Writes (invariant past) (items.forM work) fun _ => invariant (past ++ items) := by
  induction items generalizing past with
  | nil => exact pure fun log holds => by simpa using holds
  | cons item rest ih =>
      refine (each past item List.mem_cons_self).bind fun _ => ?_
      have later := ih (fun past other member =>
        each past other (List.mem_cons_of_mem _ member)) (past ++ [item])
      exact later.weaken fun _ log holds => by simpa using holds

end Writes
end SqlWork

namespace Sql

open SqlWork JarLedger.Graph

theorem ne_nil_of_mem_chunks {α : Type} {size : Nat} {items chunk : List α}
    (member : chunk ∈ chunks size items) : chunk ≠ [] := by
  fun_induction chunks size items with
  | case1 => cases member
  | case2 item rest ih =>
      rcases List.mem_cons.mp member with rfl | later
      · exact List.cons_ne_nil _ _
      · exact ih later

/-- The numbers of the jars of a set are known. -/
def Knows (ids : JarIds) (number : String → Int) (jars : JarSet) : Prop :=
  ∀ hash, jars.contains hash = true → ids[hash]? = some (number hash)

theorem keys_eq_map_hash (jars : JarSet) : jars.toList.map Jar.hash = jars.keys := by
  rw [JarSet.toList, List.map_map]
  rfl

theorem mapM_jarRow? (numbered : List (String × Int)) :
    (numbered.map jarAnswer).mapM jarRow? = some numbered := by
  induction numbered with
  | nil => rfl
  | cons entry rest ih =>
      rw [List.map_cons, List.mapM_cons, ih]
      rfl

theorem filterMap_jarRow? (numbered : List (String × Int)) :
    (numbered.map jarAnswer).filterMap jarRow? = numbered := by
  rw [List.filterMap_map]
  exact List.filterMap_some

/-- Numbers of all jars of a set, in any order, make them known. -/
theorem exists_knows {jars : JarSet} {numbered : List (String × Int)}
    (order : (numbered.map Prod.fst).Perm jars.keys) :
    ∃ number, Knows ((∅ : JarIds).insertMany numbered) number jars ∧
      numbered.Perm (jars.keys.map fun hash => (hash, number hash)) := by
  let ids := (∅ : JarIds).insertMany numbered
  let number (hash : String) : Int := (ids[hash]?).getD 0
  have distinct : numbered.Pairwise fun first second => (first.1 == second.1) = false := by
    have nodup := order.nodup_iff.mpr jars.nodup_keys
    rw [List.Nodup, List.pairwise_map] at nodup
    exact nodup.imp fun differs => beq_eq_false_iff_ne.mpr differs
  have found (entry : String × Int) (member : entry ∈ numbered) :
      ids[entry.1]? = some entry.2 :=
    Std.HashMap.getElem?_insertMany_list_of_mem BEq.rfl distinct member
  refine ⟨number, fun hash present => ?_, ?_⟩
  · have listed := order.mem_iff.mpr ((SortedMap.mem_keys jars hash).mpr present)
    obtain ⟨entry, member, rfl⟩ := List.mem_map.mp listed
    simp only [number]
    rw [found entry member, Option.getD_some]
  · have same : (numbered.map Prod.fst).map (fun hash => (hash, number hash)) = numbered := by
      rw [List.map_map]
      refine (List.map_congr_left fun entry member => ?_).trans (List.map_id numbered)
      exact Prod.ext rfl (by simp [number, found entry member])
    rw [← same]
    exact order.map _

theorem idsOf_of_knows {ids : JarIds} {number : String → Int} {jars : JarSet}
    (knows : Knows ids number jars) : idsOf ids jars = .ok (jars.keys.map number) := by
  have each : ∀ hash ∈ jars.keys, ids[hash]? = some (number hash) := fun hash member =>
    knows hash ((SortedMap.mem_keys jars hash).mp member)
  rw [idsOf]
  generalize jars.keys = hashes at each
  induction hashes with
  | nil => rfl
  | cons hash rest ih =>
      rw [List.forall_mem_cons] at each
      rw [List.mapM_cons, ih each.2, each.1]
      rfl

/-! ## Inserts -/

section Inserts

variable {σ : Type} {peer : Peer σ} (honours : peer.Honours) {sent : List Row}
  {numbers jars : List (String × Int)}
include honours

/-- A statement is not sent, or it is accepted and put on the log. -/
theorem ask_recorded (statement : Statement) (connection : Connection (σ × List SqlExchange)) :
    (¬statement.IsSendable ∧ (connection.ask peer.recorded statement).1 = .error .tooLong) ∨
      ∃ reply, (peer statement connection.peer.1).1 = .ok reply ∧
        (connection.ask peer.recorded statement).1 = .ok reply ∧
        (connection.ask peer.recorded statement).2.peer.2 =
          connection.peer.2 ++ [⟨statement, .ok reply⟩] := by
  unfold Connection.ask
  by_cases excess : bindLimit < statement.parameters.length
  · simp only [if_pos excess]
    exact .inl ⟨Nat.not_le.mpr excess, trivial⟩
  · obtain ⟨reply, accepted⟩ := honours.accepts statement connection.peer.1
    simp only [if_neg excess, Peer.recorded]
    exact .inr ⟨reply, accepted, accepted, by rw [accepted]⟩

theorem writes_insert {rows : Insert} (full : rows.rows ≠ []) :
    Writes (Tells sent numbers jars) (insert peer.recorded rows) fun reply log =>
      (∃ state, (peer (.insert rows) state).1 = .ok reply) ∧
        Tells (sent ++ rows.records)
          (numbers ++ (SqlExchange.mk (.insert rows) (.ok reply)).number?.toList)
          (jars ++ (SqlExchange.mk (.insert rows) (.ok reply)).jarNumbers) log := by
  intro connection holds
  have asked := Connection.asked_ask peer.recorded (.insert rows) connection
  have came := ask_recorded honours (.insert rows) connection
  rw [insert, Connection.query]
  generalize connection.ask peer.recorded (.insert rows) = done at asked came ⊢
  obtain ⟨failure | reply, after⟩ := done
  · rcases came with ⟨excess, _⟩ | ⟨_, _, accepted, _⟩
    · exact .inr ⟨rfl, .insert rows, asked ▸ List.mem_cons_self, excess⟩
    · cases accepted
  · rcases came with ⟨_, refused⟩ | ⟨_, gave, accepted, log⟩
    · cases refused
    · cases accepted
      have isFull : (SqlExchange.mk (.insert rows) (.ok reply)).IsFull := full
      refine .inl ⟨reply, rfl, ⟨_, gave⟩, ?_⟩
      simp only at log
      rw [log]
      exact holds.snoc isFull

/-- An insert that asks for no answer. -/
theorem writes_insert_rows {rows : Insert} (full : rows.rows ≠ [])
    (noNumber : rows.clause ≠ returningId) (noJars : rows.clause ≠ upsertClause) :
    Writes (Tells sent numbers jars) (insert peer.recorded rows) fun _ =>
      Tells (sent ++ rows.records) numbers jars :=
  (writes_insert honours full).weaken fun reply log ⟨_, tells⟩ => by
    simpa [SqlExchange.number?, SqlExchange.jarNumbers, noNumber, noJars] using tells

theorem writes_insert_silent {rows : Insert} (full : rows.rows ≠ []) (silent : rows.clause = "") :
    Writes (Tells sent numbers jars) (insert peer.recorded rows) fun _ =>
      Tells (sent ++ rows.records) numbers jars := by
  have noNumber : "" ≠ returningId := by decide
  have noJars : "" ≠ upsertClause := by decide
  exact writes_insert_rows honours full (silent ▸ noNumber) (silent ▸ noJars)

/-- Things go into one insert, unless there are none. -/
theorem writes_insert_all {α : Type} {items : List α} {rows : Insert} {record : α → Row}
    (records : rows.records = items.map record) (silent : rows.clause = "") :
    Writes (Tells sent numbers jars)
      (if items.isEmpty then pure () else discard (insert peer.recorded rows)) fun _ =>
        Tells (sent ++ items.map record) numbers jars := by
  split
  · rename_i empty
    rw [List.isEmpty_iff.mp empty, List.map_nil, List.append_nil]
    exact .pure fun _ => id
  · rename_i some
    have full : rows.rows ≠ [] := by
      rintro none
      rw [Insert.records, none, List.map_nil, eq_comm, List.map_eq_nil_iff] at records
      exact some (List.isEmpty_iff.mpr records)
    rw [← records]
    exact .discard (writes_insert_silent honours full silent)

/-- An insert that asks for the number of its row. -/
theorem writes_insertForId {rows : Insert} (full : rows.rows ≠ [])
    (asks : rows.clause = returningId) :
    Writes (Tells sent numbers jars) (insertForId peer.recorded rows) fun id =>
      Tells (sent ++ rows.records) (numbers ++ [(rows.table, id)]) jars := by
  refine (writes_insert honours full).bind fun reply => .assuming fun came => ?_
  obtain ⟨state, gave⟩ := came
  obtain ⟨number, answered⟩ := honours.numbers rows state reply asks gave
  have found : Connection.firstNumber? reply = some number := by
    rw [Connection.firstNumber?, answered]
    rfl
  rw [found]
  refine .pure fun log tells => ?_
  have noJars : returningId ≠ upsertClause := by decide
  simpa [SqlExchange.number?, SqlExchange.jarNumbers, asks, found, noJars] using tells

/-- A server that accepts everything does not tell that a key is taken. -/
theorem insertMachine_eq (kind : InstanceKind) (machine : Jvm)
    (connection : Connection (σ × List SqlExchange)) :
    insertMachine peer.recorded kind machine connection =
      insertForId peer.recorded (machineInsert kind machine) connection := by
  have came := ask_recorded honours (.insert (machineInsert kind machine)) connection
  rw [insertForId, bind_eq, insertMachine, insert, Connection.query]
  generalize connection.ask peer.recorded _ = done at came ⊢
  obtain ⟨failure | reply, after⟩ := done
  · rcases came with ⟨_, tooLong⟩ | ⟨_, _, accepted, _⟩
    · cases tooLong
      rfl
    · cases accepted
  · rfl

theorem writes_insertMachine (kind : InstanceKind) (machine : Jvm) :
    Writes (Tells [] [] []) (insertMachine peer.recorded kind machine) fun id =>
      Tells [machineRow kind machine] [("runtime_instance", id)] [] := by
  intro connection holds
  rw [insertMachine_eq honours]
  exact writes_insertForId honours (List.cons_ne_nil _ _) rfl connection holds

/-- Jars are answered for in any order. -/
theorem writes_upsertChunk {chunk : List Jar} (full : chunk ≠ []) :
    Writes (Tells sent numbers jars) (upsertChunk peer.recorded chunk) fun numbered log =>
      (numbered.map Prod.fst).Perm (chunk.map Jar.hash) ∧
        Tells (sent ++ chunk.map jarRow) numbers (jars ++ numbered) log := by
  have notEmpty : (jarInsert chunk).rows ≠ [] := by simpa [jarInsert] using full
  refine (writes_insert honours notEmpty).bind fun reply => .assuming fun came => ?_
  obtain ⟨state, gave⟩ := came
  obtain ⟨numbered, answered, order⟩ := honours.jars chunk state reply gave
  rw [answered, mapM_jarRow?]
  refine .pure fun log tells => ⟨order, ?_⟩
  have asks : (jarInsert chunk).clause = upsertClause := rfl
  have apart : upsertClause ≠ returningId := by decide
  have noNumber : (SqlExchange.mk (.insert (jarInsert chunk)) (.ok reply)).number? = none := by
    rw [SqlExchange.number?, asks, if_neg apart]
  have given : (SqlExchange.mk (.insert (jarInsert chunk)) (.ok reply)).jarNumbers = numbered := by
    rw [SqlExchange.jarNumbers, if_pos asks, answered, filterMap_jarRow?]
  have rows : (jarInsert chunk).records = chunk.map jarRow := List.map_map ..
  rwa [noNumber, given, rows, Option.toList_none, List.append_nil] at tells

theorem writes_upsertJars (all : JarSet) :
    Writes (Tells sent numbers jars) (upsertJars peer.recorded all) fun ids log =>
      ∃ number, Knows ids number all ∧ ∃ given,
        given.Perm (all.keys.map fun hash => (hash, number hash)) ∧
          Tells (sent ++ all.toList.map jarRow) numbers (jars ++ given) log := by
  let invariant (past : List (List Jar)) (found : List (List (String × Int)))
      (log : List SqlExchange) : Prop :=
    (found.flatten.map Prod.fst).Perm (past.flatten.map Jar.hash) ∧
      Tells (sent ++ past.flatten.map jarRow) numbers (jars ++ found.flatten) log
  have each (past : List (List Jar)) (found : List (List (String × Int))) (chunk : List Jar)
      (member : chunk ∈ chunks (bindLimit / 3) all.toList) :
      Writes (invariant past found) (upsertChunk peer.recorded chunk) fun numbered =>
        invariant (past ++ [chunk]) (found ++ [numbered]) := by
    have notEmpty := ne_nil_of_mem_chunks member
    refine .assuming fun order => (writes_upsertChunk honours notEmpty).weaken ?_
    rintro numbered log ⟨added, tells⟩
    refine ⟨by simpa using order.append added, ?_⟩
    simpa using tells
  have start : Tells sent numbers jars = invariant [] [] := by
    funext log
    simp [invariant]
  rw [start]
  refine (Writes.mapM each [] []).bind fun numbered => .assuming fun order =>
    .pure fun log tells => ?_
  rw [List.nil_append, List.nil_append, flatten_chunks] at order tells
  rw [keys_eq_map_hash] at order
  obtain ⟨number, knows, given⟩ := exists_knows order
  exact ⟨number, knows, _, given, tells⟩

theorem writes_link (table ownerColumn : String) (owner : Int) (found : List Int) :
    Writes (Tells sent numbers jars) (link peer.recorded table ownerColumn owner found) fun _ =>
      Tells (sent ++ found.map (linkRow table ownerColumn owner)) numbers jars := by
  let invariant (past : List (List Int)) (_ : List Reply) : List SqlExchange → Prop :=
    Tells (sent ++ past.flatten.map (linkRow table ownerColumn owner)) numbers jars
  have each (past : List (List Int)) (replies : List Reply) (chunk : List Int)
      (member : chunk ∈ chunks (bindLimit / 2) found) :
      Writes (invariant past replies)
        (insert peer.recorded (linkInsert table ownerColumn owner chunk))
        fun reply => invariant (past ++ [chunk]) (replies ++ [reply]) := by
    have full : (linkInsert table ownerColumn owner chunk).rows ≠ [] := by
      simpa [linkInsert] using ne_nil_of_mem_chunks member
    have rows : (linkInsert table ownerColumn owner chunk).records =
        chunk.map (linkRow table ownerColumn owner) := List.map_map ..
    have noNumber : keepClause ≠ returningId := by decide
    have noJars : keepClause ≠ upsertClause := by decide
    refine (writes_insert_rows honours full noNumber noJars).weaken fun _ log tells => ?_
    simpa [invariant, rows] using tells
  have start : Tells sent numbers jars = invariant [] [] := by simp [invariant]
  rw [start]
  refine (Writes.mapM each [] []).bind fun replies => .pure fun log tells => ?_
  simpa only [invariant, List.nil_append, flatten_chunks] using tells

theorem writes_linkSet (table ownerColumn : String) (owner : Int) {ids : JarIds}
    {number : String → Int} {owned : JarSet} (knows : Knows ids number owned) :
    Writes (Tells sent numbers jars)
      (linkSet peer.recorded table ownerColumn owner ids owned) fun _ =>
        Tells (sent ++ links table ownerColumn owner number owned) numbers jars := by
  rw [linkSet, idsOf_of_knows knows, links]
  exact (writes_link honours table ownerColumn owner _).weaken fun _ log tells => by
    simpa [Function.comp_def] using tells

end Inserts

end Sql
end JarLedger
