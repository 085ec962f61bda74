import JarLedger.Proofs.Reconciliation.Run
import JarLedger.Proofs.Sql.Dialogue
import JarLedger.Sql.Store

/-!
# A transaction stops at the first refusal

To reconcile a message with a server is one dialogue: a transaction is opened, statements are sent,
and the transaction is committed or rolled back.  After the first statement in between that the
server refuses nothing is sent but the roll-back, and the failure that comes out tells which
statement it was (`reconcile_stopsAt`).
-/

namespace JarLedger

namespace Statement

/-- Whether a statement writes the row of an instance. -/
def writesInstance : Statement → Bool
  | .insert rows => rows.table = "runtime_instance"
  | .plain _ _ => false

/-- A statement that opens or ends a transaction. -/
def IsControl : Statement → Prop
  | .insert _ => False
  | .plain words _ => words ∈ ["BEGIN", "COMMIT", "ROLLBACK"]

end Statement

namespace Sql

/-- What a refused statement is reported as: only the row of the instance tells that the linking
hash is taken. -/
def blame (linkingHash : String) (statement : Statement) (failure : SqlFailure) :
    PersistenceError :=
  if statement.writesInstance && failure.isUniqueViolation then .uniqueViolation linkingHash
  else .database

/-- Work that stays inside a transaction and stops at the first refusal. -/
abbrev StaysInside {α : Type} (linkingHash : String)
    (work : (σ : Type) → Peer σ → SqlWork σ α) : Prop :=
  Conducted (fun statement => ¬statement.IsControl) (blame linkingHash) work

/-! ## Writing -/

section Writing

variable {linkingHash : String}

theorem staysInside_insert {rows : Insert} (table : String) (named : rows.table = table)
    (other : table ≠ "runtime_instance") :
    StaysInside linkingHash fun _ peer => insert peer rows :=
  .query id fun failure => by simp [blame, Statement.writesInstance, named, other]

theorem staysInside_insertForId {rows : Insert} (table : String) (named : rows.table = table)
    (other : table ≠ "runtime_instance") :
    StaysInside linkingHash fun _ peer => insertForId peer rows :=
  .bind (staysInside_insert table named other) fun _ => .expect _

/-- The row of the instance is the one that tells a taken linking hash. -/
theorem staysInside_insertMachine (kind : InstanceKind) (machine : Jvm) :
    StaysInside machine.linkingHash fun _ peer => insertMachine peer kind machine := by
  let statement : Statement := .insert (machineInsert kind machine)
  let answered : Except SqlFailure Reply → Except PersistenceError Int
    | .ok reply => ((Connection.firstNumber? reply).map .ok).getD (.error .database)
    | .error failure => .error (blame machine.linkingHash statement failure)
  refine ⟨.ask statement fun answer => .done (answered answer),
    .ask id (fun _ => rfl) fun _ => .done _, fun σ peer connection => ?_⟩
  simp only [insertMachine, Dialogue.hold]
  rcases connection.ask peer statement with ⟨failure | reply, after⟩
  · rfl
  · simp only [answered]
    cases Connection.firstNumber? reply <;> rfl

theorem staysInside_upsertJars (jars : JarSet) :
    StaysInside linkingHash fun _ peer => upsertJars peer jars := by
  refine .bind (.mapM fun chunk _ => ?_) fun _ => .pure _
  exact .bind (staysInside_insert "jar_hash" rfl (by decide)) fun _ => .expect _

theorem staysInside_linkSet {table : String} (other : table ≠ "runtime_instance")
    (ownerColumn : String) (owner : Int) (ids : JarIds) (jars : JarSet) :
    StaysInside linkingHash fun _ peer => linkSet peer table ownerColumn owner ids jars := by
  simp only [linkSet]
  split
  · exact .bind (.mapM fun chunk _ => staysInside_insert table rfl other) fun _ => .pure _
  · exact .throw _

theorem staysInside_writeDeployment (ids : JarIds) (configurationId : Int)
    (deployment : Deployment) :
    StaysInside linkingHash fun _ peer =>
      writeDeployment peer ids configurationId deployment :=
  .bind (staysInside_insertForId "app_server_deployment" rfl (by decide)) fun _ =>
    .discard (staysInside_linkSet (by decide) _ _ _ _)

theorem staysInside_writeExtension (configurationId : Int) (extension : Extension) :
    StaysInside linkingHash fun _ peer => writeExtension peer configurationId extension := by
  refine .bind (staysInside_insertForId "app_server_extension" rfl (by decide)) fun id => ?_
  split
  · exact .pure _
  · exact .discard (staysInside_insert "app_server_extension_subsystem" rfl (by decide))

theorem staysInside_writeConfiguration (ids : JarIds) (instanceId : Int)
    (configuration : Configuration) :
    StaysInside linkingHash fun _ peer =>
      writeConfiguration peer ids instanceId configuration := by
  refine .bind (staysInside_insertForId "app_server_configuration" rfl (by decide)) fun id => ?_
  refine .bind (.forM fun deployment _ => staysInside_writeDeployment ids id deployment) fun _ => ?_
  refine .bind (.forM fun extension _ => staysInside_writeExtension id extension) fun _ => ?_
  split
  · exact .pure _
  · exact .discard (staysInside_insert "app_server_configuration_subsystem" rfl (by decide))

theorem staysInside_writeServer (ids : JarIds) (instanceId : Int) (server : AppServer) :
    StaysInside linkingHash fun _ peer => writeServer peer ids instanceId server := by
  refine .bind (.discard (staysInside_insert "app_server_instance" rfl (by decide))) fun _ => ?_
  refine .bind (.discard (staysInside_linkSet (by decide) _ _ _ _)) fun _ => ?_
  split
  · exact .pure _
  · exact staysInside_writeConfiguration ids instanceId _

theorem staysInside_writeInstance (new : Instance) :
    StaysInside new.linkingHash fun _ peer => writeInstance peer new := by
  refine .bind (staysInside_insertMachine _ _) fun id => ?_
  refine .bind (staysInside_upsertJars _) fun ids => ?_
  refine .bind (.discard (staysInside_linkSet (by decide) _ _ _ _)) fun _ => ?_
  cases new with
  | jvm machine => exact .pure id
  | appServer server => exact .bind (staysInside_writeServer ids id server) fun _ => .pure id

theorem staysInside_addJars (instanceId : Int) (jars : JarSet) :
    StaysInside linkingHash fun _ peer => addJars peer instanceId jars :=
  .bind (staysInside_upsertJars jars) fun _ => staysInside_linkSet (by decide) _ _ _ _

theorem staysInside_lookup (name : String) :
    StaysInside linkingHash fun _ peer => lookup peer name := by
  have inside : ¬(Statement.plain lookupText [.text name]).IsControl := by
    change lookupText ∉ ["BEGIN", "COMMIT", "ROLLBACK"]
    decide
  refine .bind (.bind (.query inside fun _ => rfl) fun _ => .expect _) fun rows => ?_
  split
  · exact .pure _
  · exact .throw _

end Writing

/-! ## Applying a message -/

/-- What is reported of the work on a message. -/
def reported (result : Except PersistenceError (Except IngestError Reconciled)) :
    Except IngestError Reconciled :=
  match result with
  | .ok result => result
  | .error cause => .error (.persistence cause)

/-- The work on a message in an open transaction. -/
def applyWork (message : Message) (σ : Type) (peer : Peer σ) :
    SqlWork σ (Except IngestError Reconciled) :=
  match message with
  | .newInstance new => do return .ok (.inserted (← writeInstance peer new))
  | .update delta => do
      match ← lookup peer delta.linkingHash with
      | [] => return .error (.integrity (.unknownLinkingHash delta.linkingHash))
      | [row] => return .ok (.merged row.id (← addJars peer row.id delta.jars))
      | rows => return .error (.integrity (.notUnique delta.linkingHash rows.length))

theorem apply_eq {σ : Type} (peer : Peer σ) (message : Message) (connection : Connection σ) :
    Reconciliation.apply (store peer) message connection =
      (reported (applyWork message σ peer connection).1,
        (applyWork message σ peer connection).2) := by
  cases message with
  | newInstance new =>
      simp only [Reconciliation.apply, applyWork, store, SqlWork.request]
      rw [SqlWork.bind_eq]
      rcases writeInstance peer new connection with ⟨_ | _, after⟩ <;> rfl
  | update delta =>
      simp only [Reconciliation.apply, applyWork, store, SqlWork.request]
      rw [SqlWork.bind_eq]
      rcases lookup peer delta.linkingHash connection with
        ⟨_ | _ | ⟨row, _ | ⟨second, rest⟩⟩, after⟩
      · rfl
      · rfl
      · simp only
        rw [SqlWork.bind_eq]
        rcases addJars peer row.id delta.jars after with ⟨_ | _, last⟩ <;> rfl
      · rfl

theorem staysInside_applyWork (message : Message) :
    StaysInside message.linkingHash (applyWork message) := by
  cases message with
  | newInstance new => exact .bind (staysInside_writeInstance new) fun _ => .pure _
  | update delta =>
      refine .bind (staysInside_lookup _) fun rows => ?_
      split
      · exact .pure _
      · exact .bind (staysInside_addJars _ _) fun _ => .pure _
      · exact .pure _

/-! ## Transactions -/

/-- The end of a transaction.  What cannot be committed is given up, and so is what cannot be rolled
back. -/
def ending : Except IngestError Reconciled → Dialogue (Except IngestError Reconciled)
  | .ok outcome => .ask .commit fun
      | .ok _ => .done (.ok outcome)
      | .error _ => .ask .rollback fun _ => .done (.error (.persistence .database))
  | .error failure => .ask .rollback fun
      | .ok _ => .done (.error failure)
      | .error _ => .ask .rollback fun _ => .done (.error failure)

/-- A transaction around some work. -/
def transaction (work : Dialogue (Except IngestError Reconciled)) :
    Dialogue (Except IngestError Reconciled) :=
  .ask .begin fun
    | .ok _ => work.bind ending
    | .error _ => .done (.error (.persistence .database))

theorem settle_eq_hold {σ : Type} (peer : Peer σ) (result : Except IngestError Reconciled)
    (connection : Connection σ) :
    Reconciliation.settle (store peer) result connection =
      (((ending result).hold peer connection).1,
        { ((ending result).hold peer connection).2 with isOpen := false }) := by
  cases result with
  | ok outcome =>
      simp only [Reconciliation.settle, store, Connection.close, ending, Dialogue.hold]
      rcases connection.ask peer .commit with ⟨_ | _, after⟩ <;> rfl
  | error failure =>
      simp only [Reconciliation.settle, store, Connection.close, ending, Dialogue.hold]
      rcases connection.ask peer .rollback with ⟨_ | _, after⟩ <;> rfl

theorem isOpen_ask {σ : Type} (peer : Peer σ) (statement : Statement)
    (connection : Connection σ) :
    (connection.ask peer statement).2.isOpen = connection.isOpen := by
  unfold Connection.ask
  dsimp only
  split <;> rfl

/-- Without a transaction in the way, one is opened. -/
theorem begin_eq {σ : Type} (peer : Peer σ) {connection : Connection σ}
    (idle : connection.isOpen = false) :
    (store peer).begin connection =
      match connection.ask peer .begin with
      | (.ok _, after) => (.ok (), { after with isOpen := true })
      | (.error _, after) => (.error .database, { after with isOpen := false }) := by
  have still := isOpen_ask peer .begin connection
  rw [idle] at still
  simp only [store, Connection.begin]
  rcases asked : connection.ask peer .begin with ⟨_ | _, after⟩ <;> rw [asked] at still
  · exact congrArg (Prod.mk _) (by rw [← still])
  · exact congrArg (Prod.mk _) (by rw [if_neg (still ▸ Bool.false_ne_true)])

/-- To reconcile a message is a transaction around a dialogue that stops at the first refusal. -/
theorem exists_transaction (message : Message) :
    ∃ work : Dialogue (Except IngestError Reconciled),
      work.Stops (fun statement => ¬statement.IsControl) (fun statement failure =>
        .error (.persistence (blame message.linkingHash statement failure))) ∧
      ∀ (σ : Type) (peer : Peer σ) (connection : Connection σ), connection.isOpen = false →
        reconcile (store peer) message connection =
          (((transaction work).hold peer connection).1,
            { ((transaction work).hold peer connection).2 with isOpen := false }) := by
  obtain ⟨inner, stops, same⟩ := staysInside_applyWork message
  refine ⟨_, stops.map reported, fun σ peer connection idle => ?_⟩
  rw [reconcile_eq, begin_eq peer idle, transaction, Dialogue.hold]
  rcases connection.ask peer .begin with ⟨_ | reply, after⟩
  · rfl
  · simp only [Dialogue.hold_bind]
    rw [apply_eq, same, Dialogue.hold_setOpen, settle_eq_hold, Dialogue.hold_setOpen]
    rfl

/-! ## The first refusal -/

section Exchanges

variable {σ : Type} (peer : Peer σ) (message : Message)

/-- The statements that are sent to reconcile a message, with the answers to them. -/
def exchanges (connection : Connection σ) : List SqlExchange :=
  (reconcile (store peer.recorded) message connection.recording).2.peer.2

theorem exists_exchanges :
    ∃ work : Dialogue (Except IngestError Reconciled),
      work.Stops (fun statement => ¬statement.IsControl) (fun statement failure =>
        .error (.persistence (blame message.linkingHash statement failure))) ∧
      ∀ (σ : Type) (peer : Peer σ) (connection : Connection σ), connection.isOpen = false →
        let held := (transaction work).heldWith peer connection.peer
        let reconciled := reconcile (store peer) message connection
        let statements := held.transcript.map SqlExchange.statement
        exchanges peer message connection = held.transcript ∧ reconciled.1 = held.result ∧
          reconciled.2.sent = statements.reverse ++ connection.sent := by
  obtain ⟨work, stops, same⟩ := exists_transaction message
  refine ⟨work, stops, fun σ peer connection idle => ?_⟩
  obtain ⟨result, -, sent, -⟩ := (transaction work).hold_eq peer connection
  have kept := ((transaction work).hold_eq peer.recorded connection.recording).2.1
  simp only [same σ peer connection idle]
  refine ⟨?_, result, sent⟩
  rw [exchanges, same _ peer.recorded connection.recording idle, kept, Connection.recording,
    Dialogue.heldWith_recorded]
  exact List.nil_append _

/-- A transaction was rolled back; where that was refused it was tried once more. -/
inductive RolledBack : List SqlExchange → Prop
  | once (reply : Reply) : RolledBack [⟨.rollback, .ok reply⟩]
  | again (refusal : SqlFailure) (answer : Except SqlFailure Reply) :
      RolledBack [⟨.rollback, .error refusal⟩, ⟨.rollback, answer⟩]

theorem rolledBack_ending (failure : IngestError) (state : σ) :
    RolledBack ((ending (.error failure)).heldWith peer state).transcript ∧
      ((ending (.error failure)).heldWith peer state).result = .error failure := by
  have few : ¬bindLimit < Statement.rollback.parameters.length := by decide
  rw [ending, Dialogue.heldWith_ask_of_sendable few]
  rcases peer .rollback state with ⟨refusal | reply, after⟩
  · simp only [Dialogue.heldWith_ask_of_sendable few]
    exact ⟨.again refusal _, rfl⟩
  · exact ⟨.once reply, rfl⟩

theorem isControl_commit : Statement.commit.IsControl := by
  simp [Statement.commit, Statement.IsControl]

theorem isControl_rollback : Statement.rollback.IsControl := by
  simp [Statement.rollback, Statement.IsControl]

theorem RolledBack.eq_rollback {transcript : List SqlExchange}
    (rolledBack : RolledBack transcript) :
    ∀ exchange ∈ transcript, exchange.statement = .rollback := by
  cases rolledBack <;> simp

theorem isControl_ending (result : Except IngestError Reconciled) (state : σ) :
    ∀ exchange ∈ ((ending result).heldWith peer state).transcript,
      exchange.statement.IsControl := by
  cases result with
  | ok outcome =>
      have few : ¬bindLimit < Statement.commit.parameters.length := by decide
      have fewer : ¬bindLimit < Statement.rollback.parameters.length := by decide
      rw [ending, Dialogue.heldWith_ask_of_sendable few]
      rcases peer .commit state with ⟨refusal | reply, after⟩
      · simp [Dialogue.heldWith, if_neg fewer, isControl_commit, isControl_rollback]
      · simp [Dialogue.heldWith, isControl_commit]
  | error failure =>
      intro exchange member
      rw [(rolledBack_ending peer failure state).1.eq_rollback exchange member]
      exact isControl_rollback

/-- Where a list is cut at the first exchange that did not succeed is determined. -/
theorem cut_unique {front other rest later : List SqlExchange} {last first : SqlExchange}
    (same : front ++ last :: rest = other ++ first :: later)
    (succeeded : ∀ exchange ∈ front, exchange.succeeded = true)
    (alsoSucceeded : ∀ exchange ∈ other, exchange.succeeded = true)
    (failed : last.succeeded = false) (alsoFailed : first.succeeded = false) :
    front = other ∧ last = first ∧ rest = later := by
  have cut := congrArg (List.takeWhile SqlExchange.succeeded) same
  rw [List.takeWhile_append_of_pos succeeded, List.takeWhile_append_of_pos alsoSucceeded,
    List.takeWhile_cons_of_neg (by simp [failed]), List.append_nil,
    List.takeWhile_cons_of_neg (by simp [alsoFailed]), List.append_nil] at cut
  subst cut
  obtain ⟨rfl, rfl⟩ := List.cons.inj (List.append_cancel_left same)
  exact ⟨rfl, rfl, rfl⟩

/-- A transaction is refused at once, or goes on to the work and to an end that fits it. -/
theorem heldWith_transaction (work : Dialogue (Except IngestError Reconciled)) (state : σ) :
    (∃ refusal, ((transaction work).heldWith peer state).transcript =
        [⟨.begin, .error refusal⟩]) ∨
      ∃ reply begun,
        let inner := work.heldWith peer begun
        let last := (ending inner.result).heldWith peer inner.state
        (transaction work).heldWith peer state =
          { last with
            transcript := ⟨.begin, .ok reply⟩ :: (inner.transcript ++ last.transcript) } := by
  have few : ¬bindLimit < Statement.begin.parameters.length := by decide
  rw [transaction, Dialogue.heldWith_ask_of_sendable few]
  rcases peer .begin state with ⟨refusal | reply, begun⟩
  · exact .inl ⟨refusal, rfl⟩
  · exact .inr ⟨reply, begun, by simp only [Dialogue.heldWith_bind]⟩

/-- When a statement between the opening and the end of a transaction is the first that is refused,
the transaction is rolled back. -/
theorem transaction_stopsAt {work : Dialogue (Except IngestError Reconciled)}
    {cause : Statement → SqlFailure → IngestError}
    (stops : work.Stops (fun statement => ¬statement.IsControl) fun statement failure =>
      .error (cause statement failure))
    {state : σ} {front rest : List SqlExchange} {statement : Statement} {failure : SqlFailure}
    (came : ((transaction work).heldWith peer state).transcript =
      front ++ ⟨statement, .error failure⟩ :: rest)
    (succeeded : ∀ exchange ∈ front, exchange.succeeded = true) (inside : ¬statement.IsControl) :
    ((transaction work).heldWith peer state).result = .error (cause statement failure) ∧
      (∃ reply inner, front = ⟨.begin, .ok reply⟩ :: inner ∧
        ∀ exchange ∈ inner, ¬exchange.statement.IsControl) ∧
      RolledBack rest := by
  have member : ⟨statement, .error failure⟩ ∈ ((transaction work).heldWith peer state).transcript :=
    came ▸ List.mem_append_right front List.mem_cons_self
  rcases heldWith_transaction peer work state with ⟨refusal, refused⟩ | ⟨reply, begun, held⟩
  · rw [refused, List.mem_singleton, SqlExchange.mk.injEq] at member
    rw [member.1] at inside
    exact absurd (by simp [Statement.begin, Statement.IsControl]) inside
  · have kinds := stops.kind_of_mem peer begun
    have breaksOff := stops.breaksOff peer begun
    rw [held] at came member ⊢
    generalize work.heldWith peer begun = inner at *
    obtain ⟨transcript, result, after⟩ := inner
    cases breaksOff with
    | never allSucceeded =>
        -- The work was not refused anything, so the refused statement would be one of the end.
        rcases List.mem_cons.mp member with first | later
        · rw [SqlExchange.mk.injEq] at first
          exact absurd first.2 nofun
        · rcases List.mem_append.mp later with early | late
          · exact absurd (allSucceeded _ early) nofun
          · exact absurd (isControl_ending peer _ _ _ late) inside
    | last before refused refusal allSucceeded =>
        obtain ⟨rolledBack, sameResult⟩ := rolledBack_ending peer (cause refused refusal) after
        have cut : (⟨.begin, .ok reply⟩ :: before) ++ ⟨refused, .error refusal⟩ ::
            ((ending (.error (cause refused refusal))).heldWith peer after).transcript =
              front ++ ⟨statement, .error failure⟩ :: rest := by
          rw [← came]
          simp
        obtain ⟨rfl, sameLast, rfl⟩ := cut_unique cut
          (List.forall_mem_cons.mpr ⟨rfl, allSucceeded⟩) succeeded rfl rfl
        obtain ⟨rfl, sameAnswer⟩ := SqlExchange.mk.inj sameLast
        obtain rfl := Except.error.inj sameAnswer
        refine ⟨sameResult, ⟨reply, _, rfl, fun exchange among => ?_⟩, rolledBack⟩
        exact kinds exchange (List.mem_append_left _ among)

/-- When a statement inside the transaction is the first that the server refuses, the transaction is
rolled back and never committed, and the failure tells the statement.  What came before it, and the
statement itself, is what any server is sent that gives the same answers before; and there is one
that gives the same answers before and accepts it. -/
theorem reconcile_stopsAt (connection : Connection σ) (idle : connection.isOpen = false)
    {front rest : List SqlExchange} {statement : Statement} {failure : SqlFailure}
    (exchanged : exchanges peer message connection = front ++ ⟨statement, .error failure⟩ :: rest)
    (succeeded : ∀ exchange ∈ front, exchange.succeeded = true)
    (inside : ¬statement.IsControl) :
    let reconciled := reconcile (store peer) message connection
    reconciled.1 = .error (.persistence (blame message.linkingHash statement failure)) ∧
      reconciled.2.sent =
        ((exchanges peer message connection).map SqlExchange.statement).reverse ++ connection.sent ∧
      (∃ reply work, front = ⟨.begin, .ok reply⟩ :: work ∧
        ∀ exchange ∈ work, ¬exchange.statement.IsControl) ∧
      RolledBack rest ∧
      (∀ exchange ∈ exchanges peer message connection, exchange.statement ≠ .commit) ∧
      (∀ (τ : Type) (other : Peer τ) (fresh : Connection τ), fresh.isOpen = false →
        ((exchanges other message fresh).map SqlExchange.answer).take front.length =
          front.map SqlExchange.answer →
        ((exchanges other message fresh).map SqlExchange.statement).take (front.length + 1) =
          front.map SqlExchange.statement ++ [statement]) ∧
      ∀ reply, ∃ later, exchanges Dialogue.prepared message
        { peer := front.map SqlExchange.answer ++ [.ok reply] } =
          front ++ ⟨statement, .ok reply⟩ :: later := by
  obtain ⟨work, stops, held⟩ := exists_exchanges message
  obtain ⟨same, result, sent⟩ := held σ peer connection idle
  have came := same.symm.trans exchanged
  obtain ⟨blamed, ⟨reply, inner, opened, ordinary⟩, rolledBack⟩ :=
    transaction_stopsAt peer stops came succeeded inside
  refine ⟨result.trans blamed, same ▸ sent, ⟨reply, inner, opened, ordinary⟩, rolledBack, ?_, ?_,
    ?_⟩
  · rw [exchanged, opened]
    intro exchange member isCommit
    have control : exchange.statement.IsControl := isCommit ▸ isControl_commit
    rcases List.mem_append.mp member with early | late
    · rcases List.mem_cons.mp early with rfl | among
      · simp [Statement.begin, Statement.commit] at isCommit
      · exact ordinary exchange among control
    · rcases List.mem_cons.mp late with rfl | after
      · exact inside control
      · rw [rolledBack.eq_rollback exchange after] at isCommit
        simp [Statement.rollback, Statement.commit] at isCommit
  · intro τ other fresh otherIdle alike
    have sameOther := (held τ other fresh otherIdle).1
    have statements := (transaction work).statements_eq_of_answers_eq peer other connection.peer
      fresh.peer front.length (by rw [← sameOther, alike, came]; simp)
    rw [sameOther, statements, came, List.map_append, List.map_cons, List.append_cons]
    exact List.take_left' (by simp)
  · intro reply
    obtain ⟨later, accepted⟩ := Dialogue.exists_transcript_prepared came (.ok reply)
    exact ⟨later, (held _ Dialogue.prepared _ rfl).1.trans accepted⟩

/-- A machine without jars. -/
def bareMachine : Jvm where
  linkingHash := "h"
  accountId := none
  orgId := "o"
  created := ⟨0, 0⟩
  hostname := "app"
  launchTime := 7
  vendor := none
  versionString := none
  version := none
  heapMin := none
  heapMax := none
  processors := none
  javaHome := none
  javaClassPath := none
  pid := none
  details := .null
  jars := JarSet.empty

/-- A peer that accepts as many statements as its state says, and then refuses everything. -/
def patient (refusal : SqlFailure) : Peer Nat := fun _ left =>
  match left with
  | 0 => (.error refusal, 0)
  | left + 1 => (.ok {}, left)

theorem exchanges_patient (refusal : SqlFailure) :
    exchanges (patient refusal) (.newInstance (.jvm bareMachine)) { peer := 1 } =
      [⟨.begin, .ok {}⟩, ⟨.insert (machineInsert .jvm bareMachine), .error refusal⟩,
        ⟨.rollback, .error refusal⟩, ⟨.rollback, .error refusal⟩] := by
  rw [exchanges, reconcile_eq]
  rfl

theorem stopsAt_takenHash :
    let message := Message.newInstance (.jvm bareMachine)
    let taken := SqlFailure.refused "23505"
    (reconcile (store (patient taken)) message { peer := 1 }).1 =
        .error (.persistence (.uniqueViolation "h")) ∧
      RolledBack [⟨.rollback, .error taken⟩, ⟨.rollback, .error taken⟩] ∧
      ∀ reply, ∃ later, exchanges Dialogue.prepared message { peer := [.ok {}, .ok reply] } =
        [⟨.begin, .ok {}⟩, ⟨.insert (machineInsert .jvm bareMachine), .ok reply⟩] ++ later := by
  let front : List SqlExchange := [⟨.begin, .ok {}⟩]
  have succeeded : ∀ exchange ∈ front, exchange.succeeded = true :=
    List.forall_mem_singleton.mpr rfl
  obtain ⟨blamed, -, -, rolledBack, -, -, accepted⟩ :=
    reconcile_stopsAt (patient (.refused "23505")) (.newInstance (.jvm bareMachine)) { peer := 1 }
      rfl (exchanges_patient (.refused "23505")) succeeded id
  exact ⟨blamed, rolledBack, accepted⟩

/-- A server that refuses the roll-back too is asked for it twice. -/
theorem rollback_repeated :
    ¬ ∀ (σ : Type) (peer : Peer σ) (message : Message) (connection : Connection σ)
      (front rest : List SqlExchange) (statement : Statement) (failure : SqlFailure),
      connection.isOpen = false →
      exchanges peer message connection = front ++ ⟨statement, .error failure⟩ :: rest →
      (∀ exchange ∈ front, exchange.succeeded = true) → ¬statement.IsControl →
      rest.map SqlExchange.statement = [.rollback] := by
  intro once
  have same := once Nat (patient (.refused "57014")) (.newInstance (.jvm bareMachine)) { peer := 1 }
    [⟨.begin, .ok {}⟩] _ _ _ rfl (exchanges_patient _) (List.forall_mem_singleton.mpr rfl) id
  simp at same

end Exchanges

end Sql
end JarLedger
