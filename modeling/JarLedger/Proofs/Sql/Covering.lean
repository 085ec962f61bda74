import JarLedger.Proofs.Attempts
import JarLedger.Proofs.Sql.GraphCopy
import Mathlib.Algebra.GroupWithZero.Nat

/-!
# Jars written in pieces

A set of jars that is added to an instance is cut into pieces, first as rows of jars and then, under
the numbers that these were given, as links.  Whatever the peer answers, its log is of one of three
forms (`Sql.Added`): the upserts break off, or all are told and the number of some jar is missing,
or links follow as far as they are accepted.  So a peer that answers for every jar is sent the whole
set in order and then all its links, and without the number of some jar no link is sent
(`Sql.addJars_covers`).
-/

namespace JarLedger

open Sql

/-! ## Statements sent one after the other -/

namespace SqlExchange

/-- What the answer tells, if it is of the form that was asked for. -/
def told? {α : Type} (read : Reply → Option α) (exchange : SqlExchange) : Option α :=
  exchange.answer.toOption.bind read

/-- How many rows the statement touched. -/
def affected (exchange : SqlExchange) : Nat :=
  match exchange.answer with
  | .ok reply => reply.affected
  | .error _ => 0

theorem affected_eq (exchange : SqlExchange) :
    exchange.affected = ((exchange.told? some).map Reply.affected).getD 0 := by
  obtain ⟨statement, _ | reply⟩ := exchange <;> rfl

end SqlExchange

/-- Statements are sent in order, up to the first whose answer is not of the form that was asked
for. -/
inductive SentWhile {α : Type} (statements : List Statement) (read : Reply → Option α) :
    List SqlExchange → Except PersistenceError (List α) → Prop
  | all {exchanges : List SqlExchange} {values : List α}
      (posed : exchanges.map SqlExchange.statement = statements)
      (told : exchanges.map (SqlExchange.told? read) = values.map some) :
      SentWhile statements read exchanges (.ok values)
  | stopped {exchanges : List SqlExchange}
      (posed : exchanges.map SqlExchange.statement <+: statements)
      (untold : ∃ exchange ∈ exchanges, exchange.told? read = none) :
      SentWhile statements read exchanges (.error .database)

theorem SentWhile.of_nil {α : Type} {read : Reply → Option α} {exchanges : List SqlExchange}
    {result : Except PersistenceError (List α)} (sent : SentWhile [] read exchanges result) :
    exchanges = [] ∧ result = .ok [] := by
  cases sent with
  | all posed told =>
      obtain rfl := List.map_eq_nil_iff.mp posed
      exact ⟨rfl, congrArg Except.ok (List.map_eq_nil_iff.mp told.symm)⟩
  | stopped posed untold =>
      obtain rfl := List.map_eq_nil_iff.mp (List.prefix_nil.mp posed)
      obtain ⟨_, member, -⟩ := untold
      cases member

namespace SqlWork

variable {σ α β : Type}

/-- Work sends one statement, and succeeds with what the answer tells. -/
def Poses (statement : Statement) (read : Reply → Option β)
    (work : SqlWork (σ × List SqlExchange) β) : Prop :=
  ∀ connection, ∃ exchange : SqlExchange, exchange.statement = statement ∧
    (work connection).2.peer.2 = connection.peer.2 ++ [exchange] ∧
    (work connection).1 = (exchange.told? read).elim (.error .database) .ok

theorem poses_query (peer : Peer σ) {statement : Statement} (sendable : statement.IsSendable) :
    Poses statement some (Connection.query peer.recorded statement) := by
  intro connection
  refine ⟨⟨statement, (peer statement connection.peer.1).1⟩, rfl, ?_⟩
  rw [Connection.query, Connection.ask, if_neg (Nat.not_lt.mpr sendable), Peer.recorded]
  rcases peer statement connection.peer.1 with ⟨_ | reply, after⟩ <;> exact ⟨rfl, rfl⟩

theorem Poses.expect {statement : Statement} {work : SqlWork (σ × List SqlExchange) Reply}
    (poses : Poses statement some work) (read : Reply → Option β) :
    Poses statement read (work >>= fun reply => Connection.expect (read reply)) := by
  intro connection
  obtain ⟨⟨_, answer⟩, same, log, result⟩ := poses connection
  refine ⟨⟨_, answer⟩, same, ?_⟩
  rw [bind_eq]
  generalize work connection = asked at log result ⊢
  obtain ⟨_, after⟩ := asked
  cases answer with
  | error failure =>
      cases result
      exact ⟨log, rfl⟩
  | ok reply =>
      cases result
      rw [Connection.snd_expect]
      refine ⟨log, ?_⟩
      change (Connection.expect (read reply) after).1 = (read reply).elim _ _
      cases read reply <;> rfl

/-- Statements posed one after the other. -/
theorem sentWhile_mapM {work : α → SqlWork (σ × List SqlExchange) β} {statement : α → Statement}
    {read : Reply → Option β} {items : List α}
    (each : ∀ item ∈ items, Poses (statement item) read (work item))
    (connection : Connection (σ × List SqlExchange)) :
    ∃ exchanges, (items.mapM work connection).2.peer.2 = connection.peer.2 ++ exchanges ∧
      SentWhile (items.map statement) read exchanges (items.mapM work connection).1 := by
  induction items generalizing connection with
  | nil => exact ⟨[], (List.append_nil _).symm, .all rfl rfl⟩
  | cons item rest ih =>
      obtain ⟨exchange, posed, log, result⟩ := each item List.mem_cons_self connection
      rw [List.mapM_cons, bind_eq]
      generalize work item connection = asked at log result ⊢
      obtain ⟨_, between⟩ := asked
      cases told : exchange.told? read with
      | none =>
          rw [told] at result
          cases result
          refine ⟨[exchange], log, .stopped ?_ ⟨exchange, List.mem_cons_self, told⟩⟩
          simp [posed]
      | some value =>
          rw [told] at result
          cases result
          obtain ⟨exchanges, later, sent⟩ :=
            ih (fun other member => each other (List.mem_cons_of_mem _ member)) between
          simp only [bind_eq]
          generalize rest.mapM work between = asked at later sent ⊢
          obtain ⟨_, after⟩ := asked
          have grown : after.peer.2 = connection.peer.2 ++ exchange :: exchanges := by
            rw [later, log, List.append_assoc, List.singleton_append]
          cases sent with
          | all posedLater toldLater =>
              exact ⟨_, grown, .all (by simp [posed, posedLater]) (by simp [told, toldLater])⟩
          | stopped posedLater untold =>
              obtain ⟨last, member, silent⟩ := untold
              refine ⟨_, grown, .stopped ?_ ⟨last, List.mem_cons_of_mem _ member, silent⟩⟩
              rw [List.map_cons, List.map_cons, posed]
              exact (List.prefix_cons_inj _).mpr posedLater

end SqlWork

namespace Sql

open SqlWork

/-! ## Adding jars -/

/-- The upserts of a set of jars. -/
def upsertsOf (jars : JarSet) : List Statement :=
  (chunks (bindLimit / 3) jars.toList).map fun piece => .insert (jarInsert piece)

/-- The inserts of the links of an instance to jars with numbers. -/
def linksOf (owner : Int) (numbers : List Int) : List Statement :=
  (chunks (bindLimit / 2) numbers).map fun piece =>
    .insert (linkInsert "instance_jar_hash" "instance_id" owner piece)

/-- The numbers that an answer to an upsert tells. -/
def numbersIn (reply : Reply) : Option (List (String × Int)) := reply.rows.mapM jarRow?

/-- What is said and what it comes to when jars are added. -/
inductive Added (owner : Int) (jars : JarSet) :
    List SqlExchange → Except PersistenceError Nat → Prop
  /-- The upserts break off. -/
  | unwritten {upserts : List SqlExchange}
      (sent : SentWhile (upsertsOf jars) numbersIn upserts (.error .database)) :
      Added owner jars upserts (.error .database)
  /-- The number of some jar is missing. -/
  | unnumbered {upserts : List SqlExchange} {numbered : List (List (String × Int))}
      {cause : PersistenceError}
      (sent : SentWhile (upsertsOf jars) numbersIn upserts (.ok numbered))
      (missing : idsOf ((∅ : JarIds).insertMany numbered.flatten) jars = .error cause) :
      Added owner jars upserts (.error cause)
  /-- Links follow. -/
  | linked {upserts links : List SqlExchange} {numbered : List (List (String × Int))}
      {numbers : List Int} {replies : Except PersistenceError (List Reply)}
      (sent : SentWhile (upsertsOf jars) numbersIn upserts (.ok numbered))
      (known : idsOf ((∅ : JarIds).insertMany numbered.flatten) jars = .ok numbers)
      (sentLinks : SentWhile (linksOf owner numbers) some links replies) :
      Added owner jars (upserts ++ links)
        (replies.map fun replies => (replies.map Reply.affected).foldr (· + ·) 0)

section Outcome

variable {σ : Type} (peer : Peer σ) (jars : JarSet)

theorem poses_upsertChunk {piece : List Jar}
    (member : piece ∈ chunks (bindLimit / 3) jars.toList) :
    Poses (.insert (jarInsert piece)) numbersIn (upsertChunk peer.recorded piece) := by
  have sendable : (Statement.insert (jarInsert piece)).IsSendable := by
    rw [Statement.IsSendable, parameters_jarInsert]
    exact mul_length_chunk_le (by decide) (by decide) member
  exact (poses_query peer sendable).expect numbersIn

theorem poses_link (owner : Int) {numbers piece : List Int}
    (member : piece ∈ chunks (bindLimit / 2) numbers) :
    let rows := linkInsert "instance_jar_hash" "instance_id" owner piece
    Poses (.insert rows) some (insert peer.recorded rows) := by
  refine poses_query peer ?_
  rw [Statement.IsSendable, parameters_linkInsert]
  exact mul_length_chunk_le (by decide) (by decide) member

theorem added_addJars (owner : Int) (connection : Connection σ) :
    let logged := addJars peer.recorded owner jars connection.recording
    Added owner jars logged.2.peer.2 logged.1 := by
  obtain ⟨upserts, log, sent⟩ := sentWhile_mapM (fun _ member => poses_upsertChunk peer jars member)
    connection.recording
  dsimp only
  rw [addJars, bind_eq, upsertJars, bind_eq]
  generalize (chunks (bindLimit / 3) jars.toList).mapM (upsertChunk peer.recorded)
    connection.recording = asked at log sent ⊢
  obtain ⟨result, between⟩ := asked
  change between.peer.2 = upserts at log
  cases sent with
  | stopped posed untold =>
      change Added owner jars between.peer.2 _
      rw [log]
      exact .unwritten (.stopped posed untold)
  | @all numbered posed told =>
      let ids : JarIds := (∅ : JarIds).insertMany numbered.flatten
      change Added owner jars (linkSet peer.recorded _ _ owner ids jars between).2.peer.2
        (linkSet peer.recorded _ _ owner ids jars between).1
      rw [linkSet]
      cases known : idsOf ids jars with
      | error cause =>
          change Added owner jars between.peer.2 _
          rw [log]
          exact .unnumbered (.all posed told) known
      | ok numbers =>
          obtain ⟨links, logLinks, sentLinks⟩ :=
            sentWhile_mapM (fun _ member => poses_link peer owner member) between
          simp only [link, bind_eq]
          generalize (chunks (bindLimit / 2) numbers).mapM (fun piece => insert peer.recorded
            (linkInsert "instance_jar_hash" "instance_id" owner piece)) between = asked
            at logLinks sentLinks ⊢
          obtain ⟨replies, after⟩ := asked
          have whole : after.peer.2 = upserts ++ links := by
            rw [logLinks, log]
          have linked := Added.linked (.all posed told) known sentLinks
          rw [← whole] at linked
          cases replies <;> exact linked

end Outcome

/-! ## Statements that carry a list -/

/-- Inserts carry a list piece by piece, none of them empty or longer than a limit. -/
def Carries {α : Type} (insert : List α → Insert) (limit : Nat) (items : List α)
    (statements : List Statement) : Prop :=
  ∃ pieces : List (List α), statements = pieces.map (fun piece => .insert (insert piece)) ∧
    pieces.flatten = items ∧ ∀ piece ∈ pieces, 1 ≤ piece.length ∧ piece.length ≤ limit

theorem carries_chunks {α : Type} (insert : List α → Insert) {limit : Nat} (positive : 0 < limit)
    (items : List α) :
    Carries insert limit items
      ((chunks limit items).map fun piece => .insert (insert piece)) :=
  ⟨chunks limit items, rfl, flatten_chunks limit items, fun _ member =>
    ⟨List.length_pos_iff.mpr (ne_nil_of_mem_chunks member),
      length_le_of_mem_chunks positive member⟩⟩

/-! ## Answers to upserts -/

/-- The upserts on a log are answered with rows of jars, whichever. -/
def AnswersLegibly (log : List SqlExchange) : Prop :=
  ∀ jars answer, ⟨.insert (jarInsert jars), answer⟩ ∈ log → ∃ reply numbered,
    answer = .ok reply ∧ reply.rows = List.map jarAnswer numbered

/-- Each upsert on a log is answered with one row for each of its jars, in any order. -/
def AnswersEach (log : List SqlExchange) : Prop :=
  ∀ jars answer, ⟨.insert (jarInsert jars), answer⟩ ∈ log → ∃ reply numbered,
    answer = .ok reply ∧ reply.rows = List.map jarAnswer numbered ∧
      (numbered.map Prod.fst).Perm (jars.map Jar.hash)

theorem AnswersEach.legibly {log : List SqlExchange} (answers : AnswersEach log) :
    AnswersLegibly log := by
  intro jars answer member
  obtain ⟨reply, numbered, accepted, rows, -⟩ := answers jars answer member
  exact ⟨reply, numbered, accepted, rows⟩

section Answers

variable {jars : JarSet} {upserts : List SqlExchange}

theorem numbersIn_jarAnswer {reply : Reply} {numbered : List (String × Int)}
    (rows : reply.rows = numbered.map jarAnswer) : numbersIn reply = some numbered := by
  rw [numbersIn, rows, mapM_jarRow?]

theorem jarNumbers_jarAnswer {piece : List Jar} {reply : Reply} {numbered : List (String × Int)}
    (rows : reply.rows = numbered.map jarAnswer) :
    (SqlExchange.mk (.insert (jarInsert piece)) (.ok reply)).jarNumbers = numbered := by
  have asks : (jarInsert piece).clause = upsertClause := rfl
  rw [SqlExchange.jarNumbers, if_pos asks, rows, filterMap_jarRow?]

theorem exists_piece_of_mem (posed : upserts.map SqlExchange.statement <+: upsertsOf jars)
    {exchange : SqlExchange} (member : exchange ∈ upserts) :
    ∃ piece, exchange.statement = .insert (jarInsert piece) := by
  obtain ⟨piece, -, same⟩ := List.mem_map.mp (posed.subset (List.mem_map_of_mem member))
  exact ⟨piece, same.symm⟩

/-- Upserts that are answered legibly do not break off. -/
theorem AnswersLegibly.not_stopped (answers : AnswersLegibly upserts)
    {cause : PersistenceError} :
    ¬SentWhile (upsertsOf jars) numbersIn upserts (.error cause) := by
  rintro (_ | ⟨posed, ⟨statement, answer⟩, member, untold⟩)
  obtain ⟨piece, rfl⟩ := exists_piece_of_mem posed member
  obtain ⟨reply, numbered, rfl, rows⟩ := answers piece answer member
  cases untold.symm.trans (numbersIn_jarAnswer rows)

/-- What the upserts tell is what they were answered. -/
theorem AnswersLegibly.flatten_eq (answers : AnswersLegibly upserts)
    {numbered : List (List (String × Int))}
    (sent : SentWhile (upsertsOf jars) numbersIn upserts (.ok numbered)) :
    numbered.flatten = upserts.flatMap SqlExchange.jarNumbers := by
  cases sent with
  | all posed told =>
      have each : upserts.map SqlExchange.jarNumbers = numbered := by
        have gives : upserts.map (some ∘ SqlExchange.jarNumbers) =
            upserts.map (SqlExchange.told? numbersIn) := by
          refine List.map_congr_left fun ⟨statement, answer⟩ member => ?_
          obtain ⟨piece, rfl⟩ := exists_piece_of_mem ⟨[], (List.append_nil _).trans posed⟩ member
          obtain ⟨reply, numbered, rfl, rows⟩ := answers piece answer member
          rw [Function.comp_apply, jarNumbers_jarAnswer rows]
          exact (numbersIn_jarAnswer rows).symm
        rw [told, ← List.map_map] at gives
        exact List.map_inj_right (fun _ _ => Option.some.inj) |>.mp gives
      rw [List.flatMap, each]

/-- What is answered for the pieces together has one number for each jar. -/
theorem AnswersEach.perm (answers : AnswersEach upserts) {pieces : List (List Jar)}
    (posed : upserts.map SqlExchange.statement =
      pieces.map fun piece => .insert (jarInsert piece)) :
    ((upserts.flatMap SqlExchange.jarNumbers).map Prod.fst).Perm
      (pieces.flatten.map Jar.hash) := by
  induction pieces generalizing upserts with
  | nil =>
      rw [List.map_nil, List.map_eq_nil_iff] at posed
      rw [posed]
      exact .nil
  | cons piece rest ih =>
      obtain ⟨⟨statement, answer⟩, later, rfl, rfl, posedLater⟩ := List.map_eq_cons_iff.mp posed
      obtain ⟨reply, numbered, rfl, rows, order⟩ := answers piece answer List.mem_cons_self
      have back := ih (fun jars answer member =>
        answers jars answer (List.mem_cons_of_mem _ member)) posedLater
      rw [List.flatMap_cons, jarNumbers_jarAnswer rows, List.map_append, List.flatten_cons,
        List.map_append]
      exact order.append back

end Answers

/-! ## Numbers of jars -/

theorem mem_insertMany_iff (numbered : List (String × Int)) (hash : String) :
    hash ∈ (∅ : JarIds).insertMany numbered ↔ hash ∈ numbered.map Prod.fst := by
  rw [Std.HashMap.mem_insertMany_list]
  simp

theorem exists_missing_of_idsOf {ids : JarIds} {jars : JarSet} {cause : PersistenceError}
    (failed : idsOf ids jars = .error cause) :
    ∃ hash ∈ jars.keys, hash ∉ ids ∧
      cause = .inconsistent ("jar hash " ++ hash ++ " was not upserted") := by
  obtain ⟨hash, member, missing⟩ := exists_of_mapM_error failed
  cases found : ids[hash]? with
  | none =>
      rw [found] at missing
      refine ⟨hash, member, fun known => ?_, (Except.error.inj missing).symm⟩
      cases found.symm.trans (Std.HashMap.getElem?_eq_some_getElem known)
  | some number =>
      rw [found] at missing
      cases missing

theorem mem_of_idsOf {ids : JarIds} {jars : JarSet} {numbers : List Int}
    (found : idsOf ids jars = .ok numbers) : ∀ hash ∈ jars.keys, hash ∈ ids := by
  intro hash member
  obtain ⟨number, known⟩ := exists_ok_mapM.mp ⟨numbers, found⟩ hash member
  rw [Std.HashMap.mem_iff_isSome_getElem?]
  cases present : ids[hash]? with
  | none =>
      rw [present] at known
      cases known
  | some number => rfl

/-! ## The whole set -/

/-- Each jar of a set is answered for.  The upserts carry the set, the links tie the owner to the
numbers that were given, as far as they are accepted, and if all are the result is how many rows
they touched. -/
structure Covers (owner : Int) (jars : JarSet) (number : String → Int)
    (upserts links : List SqlExchange) (result : Except PersistenceError Nat) : Prop where
  written : Carries jarInsert 21845 jars.toList (upserts.map SqlExchange.statement)
  numbered : (upserts.flatMap SqlExchange.jarNumbers).Perm
    (jars.keys.map fun hash => (hash, number hash))
  linked : ∃ planned, Carries (linkInsert "instance_jar_hash" "instance_id" owner) 32767
      (jars.keys.map number) planned ∧
    links.map SqlExchange.statement <+: planned ∧
    ((∀ exchange ∈ links, exchange.succeeded = true) →
      links.map SqlExchange.statement = planned)
  sum : (∀ exchange ∈ links, exchange.succeeded = true) →
    result = .ok (links.map SqlExchange.affected).sum
  consistent : ∀ cause, result = .error cause → cause = .database

section Whole

variable {owner : Int} {jars : JarSet} {log : List SqlExchange}
  {result : Except PersistenceError Nat}

theorem sum_affected {links : List SqlExchange} {replies : List Reply}
    (told : links.map (SqlExchange.told? some) = replies.map some) :
    (links.map SqlExchange.affected).sum = (replies.map Reply.affected).sum := by
  have each := congrArg (List.map fun told => (told.map Reply.affected).getD 0) told
  rw [List.map_map, List.map_map] at each
  rw [List.map_congr_left fun exchange _ => exchange.affected_eq]
  exact congrArg List.sum each

theorem Added.covers (added : Added owner jars log result) (answers : AnswersEach log) :
    ∃ number upserts links, log = upserts ++ links ∧
      Covers owner jars number upserts links result := by
  -- Numbers are known once the upserts are told, which they are.
  have given {upserts : List SqlExchange} {numbered : List (List (String × Int))}
      (answers : AnswersEach upserts)
      (sent : SentWhile (upsertsOf jars) numbersIn upserts (.ok numbered)) :
      ∃ number, Knows ((∅ : JarIds).insertMany numbered.flatten) number jars ∧
        (upserts.flatMap SqlExchange.jarNumbers).Perm
          (jars.keys.map fun hash => (hash, number hash)) := by
    rw [answers.legibly.flatten_eq sent]
    cases sent with
    | all posed told =>
        refine exists_knows ?_
        rw [← keys_eq_map_hash, ← flatten_chunks (bindLimit / 3) jars.toList]
        exact answers.perm posed
  cases added with
  | unwritten sent => exact absurd sent answers.legibly.not_stopped
  | unnumbered sent missing =>
      obtain ⟨number, knows, -⟩ := given answers sent
      cases missing.symm.trans (idsOf_of_knows knows)
  | @linked upserts links numbered numbers replies sent known sentLinks =>
      obtain ⟨number, knows, order⟩ := given
        (fun jars answer member => answers jars answer (List.mem_append_left _ member)) sent
      obtain rfl : numbers = jars.keys.map number :=
        Except.ok.inj (known.symm.trans (idsOf_of_knows knows))
      have written : Carries jarInsert 21845 jars.toList (upserts.map SqlExchange.statement) := by
        cases sent with
        | all posed told => exact posed ▸ carries_chunks _ (by decide) _
      have planned : Carries (linkInsert "instance_jar_hash" "instance_id" owner) 32767
          (jars.keys.map number) (linksOf owner (jars.keys.map number)) :=
        carries_chunks _ (by decide) _
      refine ⟨number, upserts, links, rfl, ?_⟩
      cases sentLinks with
      | @all replies posed told =>
          exact {
            written
            numbered := order
            linked := ⟨_, planned, ⟨[], (List.append_nil _).trans posed⟩, fun _ => posed⟩
            sum := fun _ => congrArg Except.ok (sum_affected told).symm
            consistent := nofun }
      | stopped posed untold =>
          obtain ⟨exchange, member, silent⟩ := untold
          have refused : ¬∀ exchange ∈ links, exchange.succeeded = true := by
            intro all
            have succeeded := all exchange member
            obtain ⟨statement, _ | reply⟩ := exchange
            · cases succeeded
            · cases silent
          exact {
            written
            numbered := order
            linked := ⟨_, planned, posed, fun all => absurd all refused⟩
            sum := fun all => absurd all refused
            consistent := fun cause same => (Except.error.inj same).symm }

/-- Without the number of some jar no link is sent. -/
theorem Added.missing (added : Added owner jars log result) (answers : AnswersLegibly log)
    (leftOut : ∃ hash ∈ jars.keys, hash ∉ (log.flatMap SqlExchange.jarNumbers).map Prod.fst) :
    Carries jarInsert 21845 jars.toList (log.map SqlExchange.statement) ∧
      ∃ hash ∈ jars.keys, hash ∉ (log.flatMap SqlExchange.jarNumbers).map Prod.fst ∧
        result = .error (.inconsistent ("jar hash " ++ hash ++ " was not upserted")) := by
  cases added with
  | unwritten sent => exact absurd sent answers.not_stopped
  | @unnumbered _ numbered cause sent missing =>
      obtain ⟨hash, member, unknown, rfl⟩ := exists_missing_of_idsOf missing
      have told := answers.flatten_eq sent
      cases sent with
      | all posed _ =>
          refine ⟨posed ▸ carries_chunks _ (by decide) _, hash, member, ?_, rfl⟩
          rwa [← told, ← mem_insertMany_iff]
  | @linked upserts links numbered numbers replies sent known sentLinks =>
      obtain ⟨hash, member, absent⟩ := leftOut
      have legible : AnswersLegibly upserts := fun jars answer member =>
        answers jars answer (List.mem_append_left _ member)
      have isTold := (mem_insertMany_iff _ _).mp (mem_of_idsOf known hash member)
      rw [legible.flatten_eq sent] at isTold
      refine absurd ?_ absent
      rw [List.flatMap_append, List.map_append]
      exact List.mem_append_left _ isTold

/-- For no jars nothing is sent. -/
theorem Added.of_empty (added : Added owner jars log result) (empty : jars.toList = []) :
    log = [] ∧ result = .ok 0 := by
  have noKeys : jars.keys = [] := by rw [← keys_eq_map_hash, empty, List.map_nil]
  have noUpserts : upsertsOf jars = [] := by rw [upsertsOf, empty, chunks, List.map_nil]
  have noIds (ids : JarIds) : idsOf ids jars = .ok [] := by
    rw [idsOf, noKeys]
    rfl
  cases added with
  | unwritten sent =>
      rw [noUpserts] at sent
      cases sent.of_nil.2
  | unnumbered sent missing => cases missing.symm.trans (noIds _)
  | linked sent known sentLinks =>
      rw [noUpserts] at sent
      obtain rfl := Except.ok.inj (known.symm.trans (noIds _))
      rw [linksOf, chunks, List.map_nil] at sentLinks
      rw [sent.of_nil.1, sentLinks.of_nil.1, sentLinks.of_nil.2]
      exact ⟨rfl, rfl⟩

end Whole

/-- Adding jars sends the statements of its log.  Where each upsert is answered with one row for
each of its jars, in any order, the log has the whole set in ascending order of the hashes, and then
all links to the numbers that were given, unless one is refused; the result is how many rows the
links touched.  Nothing is sent for an empty set.  Where the upserts tell no number of some jar, no
link is sent and the failure names such a jar. -/
theorem addJars_covers {σ : Type} (peer : Peer σ) (owner : Int) (jars : JarSet)
    (connection : Connection σ) :
    let added := addJars peer owner jars connection
    let log := (addJars peer.recorded owner jars connection.recording).2.peer.2
    added.2.sent = (log.map SqlExchange.statement).reverse ++ connection.sent ∧
      (jars.toList.map Jar.hash).Pairwise (· < ·) ∧
      (jars.toList = [] → log = [] ∧ added.1 = .ok 0) ∧
      (AnswersEach log → ∃ number upserts links, log = upserts ++ links ∧
        Covers owner jars number upserts links added.1) ∧
      (AnswersLegibly log →
        (∃ hash ∈ jars.keys, hash ∉ (log.flatMap SqlExchange.jarNumbers).map Prod.fst) →
          Carries jarInsert 21845 jars.toList (log.map SqlExchange.statement) ∧
          ∃ hash ∈ jars.keys, hash ∉ (log.flatMap SqlExchange.jarNumbers).map Prod.fst ∧
            added.1 = .error (.inconsistent ("jar hash " ++ hash ++ " was not upserted"))) := by
  obtain ⟨_, recorded⟩ := (@staysInside_addJars "" owner jars).exists_dialogue
  obtain ⟨same, -, sent⟩ := recorded σ peer connection
  have added := added_addJars peer jars owner connection
  dsimp only at same sent added ⊢
  rw [← same]
  refine ⟨sent, ?_, added.of_empty, added.covers, added.missing⟩
  rw [keys_eq_map_hash]
  exact List.pairwise_map.mpr jars.ascending

/-! ## Peers that answer -/

section Answering

variable {σ : Type} {peer : Peer σ} {owner : Int} {jars : JarSet} {connection : Connection σ}

theorem exists_state_of_mem_log {exchange : SqlExchange}
    (member : exchange ∈ (addJars peer.recorded owner jars connection.recording).2.peer.2) :
    ∃ state, (peer exchange.statement state).1 = exchange.answer := by
  obtain ⟨_, recorded⟩ := (@staysInside_addJars "" owner jars).exists_dialogue
  obtain ⟨-, log, -⟩ := recorded σ peer connection
  exact Dialogue.exists_state_of_mem (log ▸ member)

theorem answersEach_of_honours (honours : peer.Honours) :
    AnswersEach (addJars peer.recorded owner jars connection.recording).2.peer.2 := by
  intro jars answer member
  obtain ⟨state, gave⟩ := exists_state_of_mem_log member
  obtain ⟨reply, accepted⟩ := honours.accepts (.insert (jarInsert jars)) state
  obtain ⟨numbered, rows, order⟩ := honours.jars jars state reply accepted
  exact ⟨reply, numbered, gave.symm.trans accepted, rows, order⟩

end Answering

/-- A peer that accepts everything and tells nothing. -/
def mute : Peer Unit := fun _ state => (.ok {}, state)

/-- Two jars. -/
def twoJars : JarSet := JarSet.ofList [{ hash := "b" }, { hash := "a" }]

/-- One jar. -/
def oneJar : JarSet := JarSet.ofList [{ hash := "a" }]

theorem covers_twoJars :
    let log := (addJars counting.recorded 7 twoJars (Connection.mk 0 [] [] true).recording).2.peer.2
    let silence := (addJars mute.recorded 7 oneJar (Connection.mk () [] [] true).recording).2.peer.2
    (AnswersEach log ∧ ∃ number upserts links, log = upserts ++ links ∧
      Covers 7 twoJars number upserts links (addJars counting 7 twoJars ⟨0, [], [], true⟩).1) ∧
    AnswersLegibly silence ∧
      (∃ hash ∈ oneJar.keys, hash ∉ (silence.flatMap SqlExchange.jarNumbers).map Prod.fst) ∧
      (addJars mute 7 oneJar ⟨(), [], [], true⟩).1 =
        .error (.inconsistent "jar hash a was not upserted") := by
  intro log silence
  have answers : AnswersEach log := answersEach_of_honours counting_honours
  obtain ⟨-, -, -, covers, -⟩ := addJars_covers counting 7 twoJars ⟨0, [], [], true⟩
  obtain ⟨-, -, -, -, missing⟩ := addJars_covers mute 7 oneJar ⟨(), [], [], true⟩
  have quiet (exchange : SqlExchange) (member : exchange ∈ silence) :
      exchange.answer = .ok {} := by
    obtain ⟨_, gave⟩ := exists_state_of_mem_log member
    exact gave.symm
  have legible : AnswersLegibly silence := fun jars answer member =>
    ⟨{}, [], quiet _ member, rfl⟩
  have leftOut : ∃ hash ∈ oneJar.keys,
      hash ∉ (silence.flatMap SqlExchange.jarNumbers).map Prod.fst := by
    have untold : silence.flatMap SqlExchange.jarNumbers = [] := by
      refine List.flatMap_eq_nil_iff.mpr fun ⟨statement, answer⟩ member => ?_
      obtain rfl : answer = .ok {} := quiet _ member
      cases statement <;> simp [SqlExchange.jarNumbers]
    rw [untold]
    exact ⟨"a", List.mem_singleton_self _, List.not_mem_nil⟩
  refine ⟨⟨answers, covers answers⟩, legible, leftOut, ?_⟩
  obtain ⟨-, hash, member, -, failed⟩ := missing legible leftOut
  obtain rfl : hash = "a" := List.mem_singleton.mp member
  exact failed

end Sql

end JarLedger
