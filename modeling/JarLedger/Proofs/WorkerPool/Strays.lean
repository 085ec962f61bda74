import JarLedger.Proofs.WorkerPool.Mirror
import JarLedger.Store.Memory
import Mathlib.Data.List.TakeWhile

/-!
# Lines that are no announcements

A *stray* is a line that no announcement can be read from.  It counts as one announcement that
failed, and the other lines are worked on as if it were not there (`WorkerPool.Spared`).  That goes
for the lines up to the first that is not text; where one is not text, it and all after it are lost
(`WorkerPool.spared_iff_isText`).
-/

namespace JarLedger

/-- What became of an announcement that could not be read. -/
def Handled.refused (channel : Channel) (cause : ParseError) : Handled :=
  match channel with
  | .announce => .blob (.error (.failed (.parse cause)))
  | .archive => .archive (.error (.failed (.parse cause)))

namespace WorkerPool

variable {σ : Type}

/-- Whether no announcement can be read from a line. -/
def isStray (line : String) : Bool := !(Envelope.read line).isOk

/-- What is counted of a line that no announcement can be read from. -/
def strayCounts : List Count := [.received, .failedAnnouncement, .error .parse]

theorem allCounts_refused (channel : Channel) (cause : ParseError) :
    (Handled.refused channel cause).allCounts = strayCounts := by
  cases channel <;> rfl

/-- A stray is refused on either channel, and the workspace stays as it is. -/
theorem exists_refusal {line : String} (stray : isStray line = true) :
    ∃ cause, Envelope.read line = .error cause ∧
      ∀ (τ : Type) (pipeline : Pipeline τ) (channel : Channel) (space : Workspace τ),
        handle pipeline channel line space = (.refused channel cause, space) := by
  cases read : Envelope.read line with
  | ok announcement =>
      rw [isStray, read] at stray
      cases stray
  | error cause =>
      refine ⟨cause, rfl, fun τ pipeline channel space => ?_⟩
      have noBlob : pipeline.requestedBlob line = .error cause := by
        rw [Pipeline.requestedBlob, read]
        rfl
      have noArchive : pipeline.requestedArchive line = .error cause := by
        rw [Pipeline.requestedArchive, read]
        rfl
      cases channel with
      | announce => simp [handle, Pipeline.processAnnouncement, noBlob, Handled.refused]
      | archive => simp [handle, Pipeline.processArchiveAnnouncement, noArchive, Handled.refused]

theorem handle_snd_of_isStray (pipeline : Pipeline σ) (channel : Channel) (line : String)
    (space : Workspace σ) (stray : isStray line = true) :
    (handle pipeline channel line space).2 = space := by
  obtain ⟨cause, -, refused⟩ := exists_refusal stray
  rw [refused]

/-! ## Lines as bytes -/

/-- Whether the bytes of a line are a text. -/
def isText (line : List UInt8) : Bool := (Utf8.decode? line).isSome

/-- The lines that are not blank. -/
def filled (lines : List (List UInt8)) : List (List UInt8) :=
  lines.filter fun line => !(Utf8.decode? line).any Text.isAllBlank

/-- The texts of the lines that are not blank, without those that are not text. -/
def texts (lines : List (List UInt8)) : List String := (filled lines).filterMap Utf8.decode?

/-- The texts of the lines that announcements can be read from. -/
def sound (lines : List (List UInt8)) : List String :=
  (texts lines).filter fun line => !isStray line

/-- The lines, blank ones aside, that no announcement can be read from, be they text or not. -/
def strays (lines : List (List UInt8)) : List (List UInt8) :=
  (filled lines).filter fun line => (Utf8.decode? line).all isStray

/-- A pool before the first line of an input. -/
def ofInput (input : List UInt8) (permits : Nat) (space : Workspace σ) : WorkerPool σ :=
  ofLines (Text.readLines input).lines permits space

/-- In a pool on an input, after some events, each of some lines was worked on once, and the bad
ones among them have cost only themselves. -/
structure Spared (pipeline : Pipeline σ) (channel : Channel) (permits : Nat) (input : List UInt8)
    (space : Workspace σ) (events : List PoolEvent) (lines : List (List UInt8)) : Prop where
  /-- Every line that is not blank was dealt with, once. -/
  once : ((ofInput input permits space).perform pipeline channel events).handled.length =
    (filled lines).length
  /-- Every text was worked on as often as it stands on a line. -/
  each : (((ofInput input permits space).worked pipeline channel events).map Prod.fst).Perm
    (texts lines)
  /-- What was made of it is among what the pool has handled. -/
  recorded : (((ofInput input permits space).worked pipeline channel events).map Prod.snd).Sublist
    ((ofInput input permits space).perform pipeline channel events).handled.reverse
  /-- A stray was refused for what is wrong with it. -/
  refused : ∀ work ∈ (ofInput input permits space).worked pipeline channel events,
    isStray work.1 = true →
      ∃ cause, Envelope.read work.1 = .error cause ∧ work.2 = .refused channel cause
  /-- A pool that is only given the sound lines can come to the same end, with the same made of
  them; the tallies differ by one failed announcement for each bad line. -/
  unfelt : ∃ others,
    let pool := (ofInput input permits space).perform pipeline channel events
    let rest := (ofLines (sound lines) permits space).perform pipeline channel others
    rest.isOver = true ∧ rest.space = pool.space ∧
      (ofLines (sound lines) permits space).worked pipeline channel others =
        ((ofInput input permits space).worked pipeline channel events).filter
          (fun work => !isStray work.1) ∧
      ∀ count, pool.tally.get count =
        rest.tally.get count + (strays lines).length * strayCounts.count count

section

variable {lines : List (List UInt8)} {read : List String}

/-- A test of texts filters lines that are text as it filters the texts. -/
theorem map_filter_decode (decoded : lines.map Utf8.decode? = read.map some)
    (test : Option String → Bool) :
    (lines.filter fun line => test (Utf8.decode? line)).map Utf8.decode? =
      (read.filter fun line => test (some line)).map some := by
  have commutes := List.filter_map (f := Utf8.decode?) (p := test) (l := lines)
  rw [decoded, List.filter_map] at commutes
  exact commutes.symm

theorem map_filled (decoded : lines.map Utf8.decode? = read.map some) :
    (filled lines).map Utf8.decode? =
      (read.filter fun line => !Text.isAllBlank line).map some :=
  map_filter_decode decoded fun line => !line.any Text.isAllBlank

theorem texts_eq (decoded : lines.map Utf8.decode? = read.map some) :
    texts lines = read.filter fun line => !Text.isAllBlank line := by
  have whole := List.filterMap_map (f := Utf8.decode?) (g := id) (l := filled lines)
  rw [map_filled decoded, List.filterMap_map] at whole
  exact whole.symm.trans List.filterMap_some

theorem length_filled (decoded : lines.map Utf8.decode? = read.map some) :
    (filled lines).length = (read.filter fun line => !Text.isAllBlank line).length := by
  have lengths := congrArg List.length (map_filled decoded)
  rwa [List.length_map, List.length_map] at lengths

/-- Where all lines are text, the bad ones are the strays among the texts. -/
theorem length_strays (decoded : lines.map Utf8.decode? = read.map some) :
    (strays lines).length = (texts lines).countP isStray := by
  have lengths := congrArg List.length
    (map_filter_decode (map_filled decoded) fun line => line.all isStray)
  rw [List.length_map, List.length_map] at lengths
  rw [texts_eq decoded, List.countP_eq_length_filter]
  exact lengths

end

/-! ## Pools on lines of text -/

section

variable {pipeline : Pipeline σ} {channel : Channel}

/-- What was made of a line is what a worker makes of it in some workspace. -/
theorem exists_handle_of_worked (pool : WorkerPool σ) (events : List PoolEvent) :
    ∀ work ∈ pool.worked pipeline channel events,
      ∃ space, work.2 = (handle pipeline channel work.1 space).1 := by
  induction events generalizing pool with
  | nil => exact nofun
  | cons event rest ih =>
      intro work member
      rcases List.mem_append.mp member with first | later
      · cases event with
        | finish number =>
            obtain ⟨line, -, rfl⟩ := Option.map_eq_some_iff.mp (Option.mem_toList.mp first)
            exact ⟨pool.space, rfl⟩
        | _ => cases first
      · exact ih _ work later

theorem refused_of_worked (pipeline : Pipeline σ) (channel : Channel) (pool : WorkerPool σ)
    (events : List PoolEvent) :
    ∀ work ∈ pool.worked pipeline channel events, isStray work.1 = true →
      ∃ cause, Envelope.read work.1 = .error cause ∧ work.2 = .refused channel cause := by
  intro work member stray
  obtain ⟨space, made⟩ := exists_handle_of_worked pool events work member
  obtain ⟨cause, unread, refused⟩ := exists_refusal stray
  exact ⟨cause, unread, made.trans (congrArg Prod.fst (refused σ pipeline channel space))⟩

/-- The counts of what was made of some lines are those of the sound lines, with a failed
announcement for each stray. -/
theorem count_worked {work : List (String × Handled)}
    (refused : ∀ one ∈ work, isStray one.1 = true →
      ∃ cause, Envelope.read one.1 = .error cause ∧ one.2 = .refused channel cause)
    (count : Count) :
    ((work.map Prod.snd).flatMap Handled.allCounts).count count =
      (((work.filter fun one => !isStray one.1).map Prod.snd).flatMap Handled.allCounts).count
        count + (work.map Prod.fst).countP isStray * strayCounts.count count := by
  induction work with
  | nil => simp
  | cons one rest ih =>
      obtain ⟨here, there⟩ := List.forall_mem_cons.mp refused
      rw [List.map_cons, List.flatMap_cons, List.count_append, ih there, List.map_cons,
        List.countP_cons]
      cases stray : isStray one.1 with
      | true =>
          obtain ⟨cause, -, made⟩ := here stray
          rw [List.filter_cons_of_neg (by simp [stray]), made, allCounts_refused, if_pos rfl,
            Nat.add_mul, Nat.one_mul]
          omega
      | false =>
          rw [List.filter_cons_of_pos (by simp [stray]), List.map_cons, List.flatMap_cons,
            List.count_append, if_neg Bool.false_ne_true, Nat.add_zero, Nat.add_assoc]

/-- The tally of a pool that is over counts what was made of its lines. -/
theorem get_tally_of_isOver {lines : List String} {permits : Nat} {space : Workspace σ}
    {events : List PoolEvent}
    (finished : ((ofLines lines permits space).perform pipeline channel events).isOver = true)
    (count : Count) :
    ((ofLines lines permits space).perform pipeline channel events).tally.get count =
      ((((ofLines lines permits space).worked pipeline channel events).map
        Prod.snd).flatMap Handled.allCounts).count count := by
  have kept : ((ofLines lines permits space).perform pipeline channel events).Kept channel _ :=
    (kept_ofLines channel lines permits space).perform events
  have counts := kept.counts count
  simp only [isOver, Bool.and_eq_true, List.isEmpty_iff] at finished
  rw [finished.2, List.flatMap_nil, List.count_nil, Nat.add_zero, handled_perform] at counts
  rw [counts]
  refine (List.Perm.flatMap_right _ ?_).count_eq count
  rw [ofLines, List.append_nil]
  exact List.reverse_perm _

/-- Nothing is left in a pool that is over. -/
theorem left_of_isOver {pool : WorkerPool σ} (finished : pool.isOver = true) : pool.left = [] := by
  simp only [isOver, Bool.and_eq_true, List.isEmpty_iff] at finished
  obtain ⟨⟨waiting, running⟩, -⟩ := finished
  rw [left, waiting, running]
  rfl

/-- Where all lines that are read are text, the bad ones cost only themselves. -/
theorem spared_of_decoded {input : List UInt8} {lines : List (List UInt8)}
    (decoded : lines.map Utf8.decode? = (Text.readLines input).lines.map some) {permits : Nat}
    {space : Workspace σ} {events : List PoolEvent}
    (finished : ((ofInput input permits space).perform pipeline channel events).isOver = true) :
    Spared pipeline channel permits input space events lines := by
  have kept : (ofInput input permits space).Kept channel _ :=
    kept_ofLines channel (Text.readLines input).lines permits space
  have each : (((ofInput input permits space).worked pipeline channel events).map Prod.fst).Perm
      (texts lines) := by
    have perm := perm_left_perform pipeline channel kept events
    rw [left_of_isOver finished, List.append_nil] at perm
    rw [texts_eq decoded]
    exact perm
  have refused := refused_of_worked pipeline channel (ofInput input permits space) events
  have only : ofLines ((Text.readLines input).lines.filter fun line => !isStray line) permits
      space = ofLines (sound lines) permits space := by
    rw [ofLines, ofLines, sound, texts_eq decoded, List.filter_filter, List.filter_filter,
      List.filter_filter]
    simp only [Bool.and_comm, Bool.and_self_left]
  have aside : Beside isStray _ (ofInput input permits space) _ :=
    beside_ofLines isStray (Text.readLines input).lines permits space
  obtain ⟨others, beside, same⟩ :=
    aside.perform kept (handle_snd_of_isStray pipeline channel) events
  rw [only] at beside same
  have restFinished := beside.isOver finished
  refine ⟨?_, each, ?_, refused, others, restFinished, beside.space, same, fun count => ?_⟩
  · rw [length_filled decoded]
    exact ((kept.perform events).balanced finished).1
  · rw [handled_perform, List.reverse_append, List.reverse_reverse]
    exact List.sublist_append_right _ _
  · rw [get_tally_of_isOver restFinished, same, length_strays decoded, ← each.countP_eq]
    exact (get_tally_of_isOver finished count).trans (count_worked refused count)

end

/-! ## Lines that are not text -/

/-- The lines that are read are those before the first that is not text. -/
theorem decoded_takeWhile (lines : List (List UInt8)) :
    (lines.takeWhile isText).map Utf8.decode? = (Text.readableLines lines).map some := by
  induction lines with
  | nil => rfl
  | cons line rest ih =>
      rw [Text.readableLines, List.takeWhile_cons, isText]
      cases decoded : Utf8.decode? line with
      | none => rfl
      | some text => simp [ih, decoded]

/-- If as many lines are dealt with as are not blank, all lines are text. -/
theorem isText_of_length {lines : List (List UInt8)}
    (dealt : ((Text.readableLines lines).filter fun line => !Text.isAllBlank line).length =
      (filled lines).length) : ∀ line ∈ lines, isText line = true := by
  induction lines with
  | nil => exact nofun
  | cons line rest ih =>
      rw [Text.readableLines] at dealt
      cases decoded : Utf8.decode? line with
      | none => simp [filled, decoded] at dealt
      | some text =>
          refine List.forall_mem_cons.mpr ⟨by rw [isText, decoded]; rfl, ih ?_⟩
          cases blank : Text.isAllBlank text <;> simpa [filled, decoded, blank] using dealt

/-- Where a line is not text, some line is lost. -/
theorem not_spared_of_not_isText (pipeline : Pipeline σ) (channel : Channel) {permits : Nat}
    (permitted : 0 < permits) (space : Workspace σ) {input line : List UInt8}
    (present : line ∈ Text.lineBytes input) (damaged : isText line = false) :
    ¬ ∀ events, ((ofInput input permits space).perform pipeline channel events).isOver = true →
      Spared pipeline channel permits input space events (Text.lineBytes input) := by
  intro spared
  have finished := isOver_run pipeline channel permitted input space
  have dealt := (((kept_ofLines channel _ permits space).perform _).balanced finished).1
  have once := (spared _ finished).once
  have text := isText_of_length (dealt.symm.trans once) line present
  rw [damaged] at text
  cases text

/-- A run tells whether all lines are text. -/
theorem isWhole_run (pipeline : Pipeline σ) (channel : Channel) (permits : Nat)
    (input : List UInt8) (space : Workspace σ) :
    (run pipeline channel permits input space).isWhole = true ↔
      ∀ line ∈ Text.lineBytes input, isText line = true := by
  have lengths := congrArg List.length (decoded_takeWhile (Text.lineBytes input))
  rw [List.length_map, List.length_map] at lengths
  rw [← List.takeWhile_eq_self_iff, run, Text.readLines, decide_eq_true_iff, ← lengths]
  exact ⟨(List.takeWhile_prefix isText).eq_of_length, congrArg List.length⟩

/-- Whatever workers do at once, when a pool is over the bad lines among those before the first that
is not text have cost only themselves.  This is so of all lines of an input if and only if all of
them are text, which a run finds out. -/
theorem spared_iff_isText (pipeline : Pipeline σ) (channel : Channel) {permits : Nat}
    (permitted : 0 < permits) (input : List UInt8) (space : Workspace σ) :
    (∀ events, ((ofInput input permits space).perform pipeline channel events).isOver = true →
      Spared pipeline channel permits input space events
        ((Text.lineBytes input).takeWhile isText)) ∧
    ((∀ events, ((ofInput input permits space).perform pipeline channel events).isOver = true →
        Spared pipeline channel permits input space events (Text.lineBytes input)) ↔
      ∀ line ∈ Text.lineBytes input, isText line = true) ∧
    ((run pipeline channel permits input space).isWhole = true ↔
      ∀ line ∈ Text.lineBytes input, isText line = true) := by
  have before := decoded_takeWhile (Text.lineBytes input)
  refine ⟨fun events finished => spared_of_decoded before finished,
    ⟨fun spared line present => ?_, fun text events finished => ?_⟩,
    isWhole_run pipeline channel permits input space⟩
  · cases damaged : isText line with
    | true => rfl
    | false =>
        exact absurd spared
          (not_spared_of_not_isText pipeline channel permitted space present damaged)
  · rw [List.takeWhile_eq_self_iff.mpr text] at before
    exact spared_of_decoded before finished

/-- Two bad lines around a blank one; two workers may be at them at once. -/
theorem spared_badLines :
    let pipeline : Pipeline MemoryStore := .ofSettings {}
      ⟨fun _ => .error .crashed, fun _ => .error .crashed⟩ (fun _ => 0) MemoryStore.store
    let space : Workspace MemoryStore := { store := {}, filter := .acceptAll }
    let input : List UInt8 := [120, 10, 32, 10, 121, 10]
    0 < 2 ∧ ∀ events, ((ofInput input 2 space).perform pipeline .announce events).isOver = true →
      Spared pipeline .announce 2 input space events (Text.lineBytes input) := by
  intro pipeline space input
  have permitted : 0 < 2 := by decide
  have lines : Text.lineBytes input = [[120], [32], [121]] := by
    simp [input, Text.lineBytes, Text.splitLine, Text.stripEnd]
  refine ⟨permitted, (spared_iff_isText pipeline .announce permitted input space).2.1.mpr ?_⟩
  rw [lines]
  decide

/-- A byte that is not text on the first line loses the announcement on the second. -/
theorem not_spared_brokenByte :
    let pipeline : Pipeline MemoryStore := .ofSettings {}
      ⟨fun _ => .error .crashed, fun _ => .error .crashed⟩ (fun _ => 0) MemoryStore.store
    let space : Workspace MemoryStore := { store := {}, filter := .acceptAll }
    let input : List UInt8 := 0xFF :: 10 ::
      Utf8.encode "\x7b\"org_id\":\"o\",\"timestamp\":\"2023-04-01T01:00:00Z\"\x7d"
    ¬ ∀ events, ((ofInput input 1 space).perform pipeline .announce events).isOver = true →
      Spared pipeline .announce 1 input space events (Text.lineBytes input) := by
  intro pipeline space input
  have present : [0xFF] ∈ Text.lineBytes input := by
    rw [Text.lineBytes]
    simp [input, Text.splitLine, Text.stripEnd]
  exact not_spared_of_not_isText pipeline .announce Nat.one_pos space present (by decide)

end WorkerPool
end JarLedger
