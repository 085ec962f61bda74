import JarLedger.Proofs.Sql.Asking
import Mathlib.Tactic.Choose

/-!
# Dialogues with a server

What work on a connection says next depends on what it was answered, and on nothing else.  A
dialogue is that dependence by itself: it asks a statement and goes on with the answer.  The same
dialogue can be held with any peer, and as long as two peers answer alike, they are sent the same
statements (`Dialogue.statements_eq_of_answers_eq`).
-/

namespace JarLedger

/-- A statement that was sent, and the answer to it. -/
structure SqlExchange where
  statement : Statement
  answer : Except SqlFailure Reply

/-- Whether the server did what the statement says. -/
def SqlExchange.succeeded (exchange : SqlExchange) : Bool := exchange.answer.isOk

/-- A peer that keeps a log of what it was sent and what it answered. -/
def Peer.recorded {σ : Type} (peer : Peer σ) : Peer (σ × List SqlExchange) :=
  fun statement (state, log) =>
    let (answer, after) := peer statement state
    (answer, after, log ++ [⟨statement, answer⟩])

/-- A connection to the same peer on which nothing was asked yet, with an empty log. -/
def Connection.recording {σ : Type} (connection : Connection σ) :
    Connection (σ × List SqlExchange) where
  peer := (connection.peer, [])
  isOpen := connection.isOpen

theorem Connection.ask_setOpen {σ : Type} (peer : Peer σ) (statement : Statement)
    (connection : Connection σ) (isOpen : Bool) :
    { connection with isOpen }.ask peer statement =
      ((connection.ask peer statement).1,
        { (connection.ask peer statement).2 with isOpen }) := by
  unfold ask
  dsimp only
  split <;> rfl

/-- What is said to a server, by what it answers. -/
inductive Dialogue (α : Type) where
  | done (result : α)
  | ask (statement : Statement) (next : Except SqlFailure Reply → Dialogue α)

/-- What a dialogue with a peer came to. -/
structure Held (σ α : Type) where
  transcript : List SqlExchange
  result : α
  /-- The peer afterwards. -/
  state : σ

namespace Dialogue

variable {σ τ α β : Type}

/-- Go on with a result. -/
def bind (next : α → Dialogue β) : Dialogue α → Dialogue β
  | .done result => next result
  | .ask statement later => .ask statement fun answer => (later answer).bind next

/-- Hold a dialogue on a connection. -/
def hold (peer : Peer σ) : Dialogue α → Connection σ → α × Connection σ
  | .done result, connection => (result, connection)
  | .ask statement next, connection =>
      let (answer, after) := connection.ask peer statement
      (next answer).hold peer after

/-- Hold a dialogue with a peer.  A statement with too many values is not sent. -/
def heldWith (peer : Peer σ) : Dialogue α → σ → Held σ α
  | .done result, state => ⟨[], result, state⟩
  | .ask statement next, state =>
      if bindLimit < statement.parameters.length then (next (.error .tooLong)).heldWith peer state
      else
        let (answer, after) := peer statement state
        let later := (next answer).heldWith peer after
        { later with transcript := ⟨statement, answer⟩ :: later.transcript }

/-! ## Dialogues in sequence -/

theorem hold_bind (peer : Peer σ) (next : α → Dialogue β) (dialogue : Dialogue α)
    (connection : Connection σ) :
    (dialogue.bind next).hold peer connection =
      (next (dialogue.hold peer connection).1).hold peer (dialogue.hold peer connection).2 := by
  induction dialogue generalizing connection with
  | done result => rfl
  | ask statement later ih => exact ih _ _

theorem heldWith_bind (peer : Peer σ) (next : α → Dialogue β) (dialogue : Dialogue α)
    (state : σ) :
    (dialogue.bind next).heldWith peer state =
      let first := dialogue.heldWith peer state
      let second := (next first.result).heldWith peer first.state
      { second with transcript := first.transcript ++ second.transcript } := by
  induction dialogue generalizing state with
  | done result => rfl
  | ask statement later ih =>
      simp only [bind, heldWith]
      split
      · exact ih _ _
      · simp only [ih, List.cons_append]

/-! ## Dialogues on a connection -/

theorem heldWith_ask_of_sendable {peer : Peer σ} {statement : Statement}
    (few : ¬bindLimit < statement.parameters.length)
    (next : Except SqlFailure Reply → Dialogue α) (state : σ) :
    (ask statement next).heldWith peer state =
      let later := (next (peer statement state).1).heldWith peer (peer statement state).2
      { later with transcript := ⟨statement, (peer statement state).1⟩ :: later.transcript } := by
  rw [heldWith, if_neg few]

/-- A connection lets a dialogue come to what it comes to with the peer, and keeps the statements
that are sent. -/
theorem hold_eq (peer : Peer σ) (dialogue : Dialogue α) (connection : Connection σ) :
    let held := dialogue.heldWith peer connection.peer
    let after := dialogue.hold peer connection
    after.1 = held.result ∧ after.2.peer = held.state ∧
      after.2.sent = (held.transcript.map SqlExchange.statement).reverse ++ connection.sent ∧
      after.2.isOpen = connection.isOpen := by
  induction dialogue generalizing connection with
  | done result => exact ⟨rfl, rfl, rfl, rfl⟩
  | ask statement next ih =>
      rw [hold, heldWith, Connection.ask]
      split
      · exact ih _ _
      · obtain ⟨result, state, sent, isOpen⟩ := ih (peer statement connection.peer).1
          { connection with
            peer := (peer statement connection.peer).2
            asked := statement :: connection.asked
            sent := statement :: connection.sent }
        refine ⟨result, state, sent.trans ?_, isOpen⟩
        simp

/-- Whether a transaction is open makes no difference to a dialogue. -/
theorem hold_setOpen (peer : Peer σ) (dialogue : Dialogue α) (connection : Connection σ)
    (isOpen : Bool) :
    dialogue.hold peer { connection with isOpen } =
      ((dialogue.hold peer connection).1,
        { (dialogue.hold peer connection).2 with isOpen }) := by
  induction dialogue generalizing connection with
  | done result => rfl
  | ask statement next ih =>
      rw [hold, hold, Connection.ask_setOpen]
      exact ih _ _

/-- Keeping a log makes no difference but the log, which is the transcript. -/
theorem heldWith_recorded (peer : Peer σ) (dialogue : Dialogue α) (state : σ)
    (log : List SqlExchange) :
    dialogue.heldWith peer.recorded (state, log) =
      let held := dialogue.heldWith peer state
      ⟨held.transcript, held.result, held.state, log ++ held.transcript⟩ := by
  induction dialogue generalizing state log with
  | done result => simp [heldWith]
  | ask statement next ih =>
      rw [heldWith, heldWith]
      split
      · exact ih _ _ _
      · simp [Peer.recorded, ih]

/-- What is on a transcript was answered by the peer. -/
theorem exists_state_of_mem {peer : Peer σ} {dialogue : Dialogue α} {state : σ}
    {exchange : SqlExchange} (member : exchange ∈ (dialogue.heldWith peer state).transcript) :
    ∃ state, (peer exchange.statement state).1 = exchange.answer := by
  induction dialogue generalizing state with
  | done result => cases member
  | ask statement next ih =>
      rw [heldWith] at member
      split at member
      · exact ih _ member
      · rcases List.mem_cons.mp member with rfl | later
        · exact ⟨state, rfl⟩
        · exact ih _ later

/-! ## What a dialogue depends on -/

/-- As long as two peers answer alike, they are sent the same statements, and the next one is the
same too. -/
theorem statements_eq_of_answers_eq (peer : Peer σ) (other : Peer τ) (dialogue : Dialogue α)
    (state : σ) (otherState : τ) (count : Nat)
    (alike : ((dialogue.heldWith other otherState).transcript.map SqlExchange.answer).take count =
      ((dialogue.heldWith peer state).transcript.map SqlExchange.answer).take count) :
    ((dialogue.heldWith other otherState).transcript.map SqlExchange.statement).take (count + 1) =
      ((dialogue.heldWith peer state).transcript.map SqlExchange.statement).take (count + 1) := by
  induction dialogue generalizing state otherState count with
  | done result => rfl
  | ask statement next ih =>
      simp only [heldWith] at alike ⊢
      split
      · rename_i excess
        rw [if_pos excess, if_pos excess] at alike
        exact ih _ _ _ _ alike
      · rename_i few
        rw [if_neg few, if_neg few] at alike
        cases count with
        | zero => rfl
        | succ count =>
            simp only [List.map_cons, List.take_succ_cons, List.cons.injEq] at alike
            obtain ⟨same, later⟩ := alike
            rw [same] at later ⊢
            exact congrArg (statement :: ·) (ih _ _ _ _ later)

/-- A peer that gives prepared answers, and accepts everything when it has none left. -/
def prepared : Peer (List (Except SqlFailure Reply)) := fun _ answers =>
  (answers.headD (.ok {}), answers.tail)

/-- A dialogue comes as far as it came, if it is answered as it was, and may be answered otherwise
there. -/
theorem exists_transcript_prepared {peer : Peer σ} {dialogue : Dialogue α} {state : σ}
    {front rest : List SqlExchange} {last : SqlExchange}
    (came : (dialogue.heldWith peer state).transcript = front ++ last :: rest)
    (answer : Except SqlFailure Reply) :
    ∃ later, (dialogue.heldWith prepared (front.map SqlExchange.answer ++ [answer])).transcript =
      front ++ ⟨last.statement, answer⟩ :: later := by
  induction dialogue generalizing state front with
  | done result => simp [heldWith] at came
  | ask statement next ih =>
      rw [heldWith] at came ⊢
      split
      · rename_i excess
        rw [if_pos excess] at came
        exact ih _ came
      · rename_i few
        rw [if_neg few] at came
        cases front with
        | nil =>
            obtain ⟨rfl, -⟩ := List.cons.inj came
            exact ⟨_, rfl⟩
        | cons first front =>
            obtain ⟨rfl, inside⟩ := List.cons.inj came
            obtain ⟨later, same⟩ := ih _ inside
            exact ⟨later, congrArg (List.cons _) same⟩

/-! ## Dialogues that stop -/

/-- A dialogue asks statements of a kind, and ends at the first that is refused. -/
inductive Stops (kind : Statement → Prop) (blame : Statement → SqlFailure → α) :
    Dialogue α → Prop
  | done (result : α) : Stops kind blame (.done result)
  | ask {statement : Statement} {next : Except SqlFailure Reply → Dialogue α}
      (right : kind statement)
      (ends : ∀ failure, next (.error failure) = .done (blame statement failure))
      (later : ∀ reply, Stops kind blame (next (.ok reply))) :
      Stops kind blame (.ask statement next)

/-- Up to the first statement that is refused everything succeeds, and nothing comes after it. -/
inductive BreaksOff (blame : Statement → SqlFailure → α) : List SqlExchange → α → Prop
  | never {transcript : List SqlExchange} {result : α}
      (succeeded : ∀ exchange ∈ transcript, exchange.succeeded = true) :
      BreaksOff blame transcript result
  | last (front : List SqlExchange) (statement : Statement) (failure : SqlFailure)
      (succeeded : ∀ exchange ∈ front, exchange.succeeded = true) :
      BreaksOff blame (front ++ [⟨statement, .error failure⟩]) (blame statement failure)

theorem BreaksOff.cons {blame : Statement → SqlFailure → α} {transcript : List SqlExchange}
    {result : α} (breaksOff : BreaksOff blame transcript result) (statement : Statement)
    (reply : Reply) : BreaksOff blame (⟨statement, .ok reply⟩ :: transcript) result := by
  cases breaksOff with
  | never succeeded => exact .never (List.forall_mem_cons.mpr ⟨rfl, succeeded⟩)
  | last front statement failure succeeded =>
      exact .last (_ :: front) statement failure (List.forall_mem_cons.mpr ⟨rfl, succeeded⟩)

namespace Stops

variable {kind : Statement → Prop} {blame : Statement → SqlFailure → α} {dialogue : Dialogue α}

theorem kind_of_mem (stops : Stops kind blame dialogue) (peer : Peer σ) (state : σ) :
    ∀ exchange ∈ (dialogue.heldWith peer state).transcript, kind exchange.statement := by
  induction stops generalizing state with
  | done result => exact nofun
  | ask right ends later ih =>
      rw [heldWith]
      split
      · rw [ends]
        exact nofun
      · rcases peer _ state with ⟨failure | reply, after⟩
        · simp only [ends, heldWith]
          simpa using right
        · exact List.forall_mem_cons.mpr ⟨right, ih reply after⟩

theorem breaksOff (stops : Stops kind blame dialogue) (peer : Peer σ) (state : σ) :
    BreaksOff blame (dialogue.heldWith peer state).transcript
      (dialogue.heldWith peer state).result := by
  induction stops generalizing state with
  | done result => exact .never nofun
  | ask right ends later ih =>
      rw [heldWith]
      split
      · rw [ends]
        exact .never nofun
      · rcases peer _ state with ⟨failure | reply, after⟩
        · simp only [ends, heldWith]
          exact .last [] _ failure nofun
        · exact (ih reply after).cons _ reply

/-- Dialogues that stop, one after the other; the second is only begun if the first succeeds. -/
theorem bind {cause : Statement → SqlFailure → PersistenceError}
    {first : Dialogue (Except PersistenceError α)}
    {next : α → Dialogue (Except PersistenceError β)}
    (stops : first.Stops kind fun statement failure => .error (cause statement failure))
    (stopsNext : ∀ value,
      (next value).Stops kind fun statement failure => .error (cause statement failure)) :
    (first.bind fun
      | .ok value => next value
      | .error cause => .done (.error cause)).Stops kind
        fun statement failure => .error (cause statement failure) := by
  induction stops with
  | done result =>
      cases result with
      | ok value => exact stopsNext value
      | error cause => exact .done _
  | ask right ends later ih =>
      refine .ask right (fun failure => ?_) ih
      simp only [ends, Dialogue.bind]

/-- What is made of the result does not matter. -/
theorem map (stops : Stops kind blame dialogue) (convert : α → β) :
    (dialogue.bind fun result => .done (convert result)).Stops kind
      fun statement failure => convert (blame statement failure) := by
  induction stops with
  | done result => exact .done _
  | ask right ends later ih =>
      refine .ask right (fun failure => ?_) ih
      simp only [ends, Dialogue.bind]

end Stops

end Dialogue

/-! ## Work that is a dialogue -/

/-- Work is one dialogue, whatever the peer; the dialogue asks statements of a kind, and stops. -/
def Conducted {α : Type} (kind : Statement → Prop)
    (blame : Statement → SqlFailure → PersistenceError)
    (work : (σ : Type) → Peer σ → SqlWork σ α) : Prop :=
  ∃ dialogue : Dialogue (Except PersistenceError α),
    dialogue.Stops kind (fun statement failure => .error (blame statement failure)) ∧
      ∀ σ peer connection, work σ peer connection = dialogue.hold peer connection

namespace Conducted

variable {α β : Type} {kind : Statement → Prop}
  {blame : Statement → SqlFailure → PersistenceError}

theorem pure (value : α) : Conducted kind blame fun _ _ => (pure value : SqlWork _ α) :=
  ⟨.done (.ok value), .done _, fun _ _ _ => rfl⟩

theorem throw (cause : PersistenceError) :
    Conducted kind blame fun _ _ => (throw cause : SqlWork _ α) :=
  ⟨.done (.error cause), .done _, fun _ _ _ => rfl⟩

theorem expect (found : Option α) : Conducted kind blame fun _ _ => Connection.expect found := by
  cases found with
  | none => exact throw _
  | some value => exact pure value

theorem query {statement : Statement} (right : kind statement)
    (ordinary : ∀ failure, blame statement failure = .database) :
    Conducted kind blame fun _ peer => Connection.query peer statement := by
  refine ⟨.ask statement fun
    | .ok reply => .done (.ok reply)
    | .error _ => .done (.error .database), ?_, ?_⟩
  · exact .ask right (fun failure => by rw [ordinary]) fun reply => .done _
  · intro σ peer connection
    simp only [Connection.query, Dialogue.hold]
    rcases connection.ask peer statement with ⟨_ | _, after⟩ <;> rfl

theorem bind {work : (σ : Type) → Peer σ → SqlWork σ α}
    {next : α → (σ : Type) → Peer σ → SqlWork σ β} (first : Conducted kind blame work)
    (later : ∀ value, Conducted kind blame (next value)) :
    Conducted kind blame fun σ peer => work σ peer >>= fun value => next value σ peer := by
  obtain ⟨dialogue, stops, same⟩ := first
  choose dialogues stopsNext sameNext using later
  refine ⟨_, stops.bind stopsNext, fun σ peer connection => ?_⟩
  refine (SqlWork.bind_eq _ _ _).trans ?_
  rw [same, Dialogue.hold_bind]
  rcases dialogue.hold peer connection with ⟨_ | value, after⟩
  · rfl
  · exact sameNext value σ peer after

theorem discard {work : (σ : Type) → Peer σ → SqlWork σ α} (first : Conducted kind blame work) :
    Conducted kind blame fun σ peer => Functor.discard (work σ peer) :=
  first.bind fun _ => pure _

theorem mapM {work : α → (σ : Type) → Peer σ → SqlWork σ β} {items : List α}
    (each : ∀ item ∈ items, Conducted kind blame (work item)) :
    Conducted kind blame fun σ peer => items.mapM fun item => work item σ peer := by
  induction items with
  | nil => exact pure []
  | cons item rest ih =>
      simp only [List.mapM_cons]
      exact bind (each item List.mem_cons_self) fun _ =>
        bind (ih fun other member => each other (List.mem_cons_of_mem _ member)) fun _ => pure _

theorem forM {work : α → (σ : Type) → Peer σ → SqlWork σ PUnit} {items : List α}
    (each : ∀ item ∈ items, Conducted kind blame (work item)) :
    Conducted kind blame fun σ peer => items.forM fun item => work item σ peer := by
  induction items with
  | nil => exact pure _
  | cons item rest ih =>
      exact bind (each item List.mem_cons_self) fun _ =>
        ih fun other member => each other (List.mem_cons_of_mem _ member)

/-- Keeping a log makes no difference to the work, and the log is what was said in one dialogue,
whatever the peer. -/
theorem exists_dialogue {work : (σ : Type) → Peer σ → SqlWork σ α}
    (conducted : Conducted kind blame work) :
    ∃ dialogue : Dialogue (Except PersistenceError α),
      ∀ (σ : Type) (peer : Peer σ) (connection : Connection σ),
        let done := work σ peer connection
        let logged := work (σ × List SqlExchange) peer.recorded connection.recording
        logged.1 = done.1 ∧
          logged.2.peer.2 = (dialogue.heldWith peer connection.peer).transcript ∧
          done.2.sent =
            (logged.2.peer.2.map SqlExchange.statement).reverse ++ connection.sent := by
  obtain ⟨dialogue, -, same⟩ := conducted
  refine ⟨dialogue, fun σ peer connection => ?_⟩
  simp only [same]
  obtain ⟨result, -, sent, -⟩ := dialogue.hold_eq peer connection
  obtain ⟨loggedResult, log, -⟩ := dialogue.hold_eq peer.recorded connection.recording
  rw [loggedResult, log, result, sent, Connection.recording, Dialogue.heldWith_recorded]
  exact ⟨rfl, rfl, rfl⟩

end Conducted
end JarLedger
