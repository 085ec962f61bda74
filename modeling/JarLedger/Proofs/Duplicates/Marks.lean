import JarLedger.Proofs.SortedMap
import JarLedger.RecentPayloads
import Mathlib.Data.Set.Card

/-!
# What the marks of applied documents mean

Every mark sweeps the older ones by its own clock, so an answer may depend on marks of other
documents and of the other flow.  `Stands` says from the history alone, under any clock, when the
last mark of a document is still there; `suppresses_iff_stands` ties the filter to it.  A clock that
never goes back makes the sweeping invisible.
-/

namespace JarLedger
namespace RecentPayloads

/-- A use of the filter. -/
inductive Use where
  /-- Ask whether a document is to be worked on. -/
  | ask (payload : String) (now : Int) (source : Source)
  /-- Remember a document that was applied. -/
  | mark (payload : String) (now : Int) (source : Source)

namespace Use

/-- The document that a use is about. -/
def payload : Use → String
  | ask payload _ _ => payload
  | mark payload _ _ => payload

/-- What the clock shows at a use. -/
def time : Use → Int
  | ask _ now _ => now
  | mark _ now _ => now

/-- The filter after a use; to ask leaves it as it is. -/
def apply (recent : RecentPayloads) : Use → RecentPayloads
  | ask _ _ _ => recent
  | mark payload now source => recent.markApplied payload now source

end Use

/-- Nothing remembered. -/
def fresh (singleBlobWindow archiveWindow : Int) : RecentPayloads :=
  { singleBlobWindow, archiveWindow }

/-- The filter after uses, the earliest first. -/
def after (recent : RecentPayloads) (uses : List Use) : RecentPayloads :=
  uses.foldl Use.apply recent

/-- The last mark of a document in a flow was made at a time. -/
def LastMarked (uses : List Use) (source : Source) (payload : String) (time : Int) : Prop :=
  ∃ earlier later, uses = earlier ++ .mark payload time source :: later ∧
    ∀ now, .mark payload now source ∉ later

/-- The last mark of a document in a flow that is checked was made at a time, and no mark after it,
of any document in a flow that is checked, came a whole window later. -/
def Stands (windows : Source → Int) (uses : List Use) (source : Source) (payload : String)
    (time : Int) : Prop :=
  ∃ earlier later, uses = earlier ++ .mark payload time source :: later ∧
    (∀ now, .mark payload now source ∉ later) ∧ 0 < windows source ∧
    ∀ other now flow, .mark other now flow ∈ later → 0 < windows flow →
      now - time < windows source

/-! ## Marks one by one -/

variable {windows : Source → Int} {uses : List Use} {source : Source} {payload : String}
  {time : Int}

theorem not_stands_nil : ¬ Stands windows [] source payload time := by
  rintro ⟨earlier, later, split, -⟩
  exact absurd split.symm (by simp)

theorem Stands.checked (stands : Stands windows uses source payload time) :
    0 < windows source := by
  obtain ⟨_, _, _, _, checked, _⟩ := stands
  exact checked

/-- A mark stands after one more use if it is that use, or stood before and is neither replaced nor
swept by it. -/
theorem stands_append (last : Use) :
    Stands windows (uses ++ [last]) source payload time ↔
      last = .mark payload time source ∧ 0 < windows source ∨
      Stands windows uses source payload time ∧ (∀ now, last ≠ .mark payload now source) ∧
        ∀ other now flow, last = .mark other now flow → 0 < windows flow →
          now - time < windows source := by
  have as_last (uses : List Use) : Stands windows uses source payload time ↔
      ∃ earlier mark later, uses = earlier ++ mark :: later ∧
        (mark = .mark payload time source ∧ 0 < windows source) ∧
        ∀ use ∈ later, (∀ now, use ≠ .mark payload now source) ∧
          ∀ other now flow, use = .mark other now flow → 0 < windows flow →
            now - time < windows source := by
    constructor
    · rintro ⟨earlier, later, rfl, unmarked, checked, near⟩
      refine ⟨earlier, _, later, rfl, ⟨rfl, checked⟩, fun use member => ⟨?_, ?_⟩⟩
      · rintro now rfl
        exact unmarked now member
      · rintro other now flow rfl
        exact near other now flow member
    · rintro ⟨earlier, _, later, rfl, ⟨rfl, checked⟩, rest⟩
      exact ⟨earlier, later, rfl, fun now member => (rest _ member).1 now rfl, checked,
        fun other now flow member => (rest _ member).2 other now flow rfl⟩
  rw [as_last, as_last, SortedMap.exists_last_append_singleton]
  exact or_congr_right and_comm

theorem stands_append_mark (other : String) (now : Int) (flow : Source) :
    Stands windows (uses ++ [.mark other now flow]) source payload time ↔
      (payload = other ∧ time = now ∧ source = flow) ∧ 0 < windows source ∨
      Stands windows uses source payload time ∧ ¬(payload = other ∧ source = flow) ∧
        (0 < windows flow → now - time < windows source) := by
  rw [stands_append]
  simp only [Use.mark.injEq, ne_eq]
  constructor
  · rintro (⟨⟨rfl, rfl, rfl⟩, checked⟩ | ⟨stands, replaced, swept⟩)
    · exact .inl ⟨⟨rfl, rfl, rfl⟩, checked⟩
    · refine .inr ⟨stands, ?_, swept other now flow ⟨rfl, rfl, rfl⟩⟩
      rintro ⟨rfl, rfl⟩
      exact replaced now ⟨rfl, rfl, rfl⟩
  · rintro (⟨⟨rfl, rfl, rfl⟩, checked⟩ | ⟨stands, replaced, swept⟩)
    · exact .inl ⟨⟨rfl, rfl, rfl⟩, checked⟩
    · refine .inr ⟨stands, ?_, ?_⟩
      · rintro _ ⟨rfl, -, rfl⟩
        exact replaced ⟨rfl, rfl⟩
      · rintro _ _ _ ⟨rfl, rfl, rfl⟩
        exact swept

theorem after_append (recent : RecentPayloads) (uses : List Use) (last : Use) :
    recent.after (uses ++ [last]) = last.apply (recent.after uses) := by
  rw [after, List.foldl_append]
  rfl

theorem window_markApplied (recent : RecentPayloads) (payload : String) (now : Int)
    (source : Source) : (recent.markApplied payload now source).window = recent.window := by
  rw [markApplied]
  split
  · rfl
  · funext flow
    cases flow <;> rfl

theorem window_after (recent : RecentPayloads) (uses : List Use) :
    (recent.after uses).window = recent.window := by
  induction uses using List.reverseRecOn with
  | nil => rfl
  | append_singleton uses last ih =>
      rw [after_append]
      cases last with
      | ask payload now source => exact ih
      | mark payload now source => exact (window_markApplied _ _ _ _).trans ih

theorem markApplied_of_unchecked {recent : RecentPayloads} (unchecked : recent.window source ≤ 0)
    (payload : String) (now : Int) : recent.markApplied payload now source = recent := by
  rw [markApplied, if_pos unchecked]

theorem mem_markApplied {recent : RecentPayloads} (checked : 0 < recent.window source)
    {now : Int} {mark : (Source × Fingerprint) × Int} :
    mark ∈ (recent.markApplied payload now source).applied ↔
      mark = ((source, fingerprint payload), now) ∨
      mark ∈ recent.applied ∧ now - mark.2 < recent.window mark.1.1 ∧
        mark.1 ≠ (source, fingerprint payload) := by
  rw [markApplied, if_neg (Int.not_le.mpr checked)]
  simp [prune, and_comm]

/-- What holds of all marks holds of them after one more for which it holds. -/
theorem forall_mem_markApplied {recent : RecentPayloads} {P : Source × Fingerprint → Prop}
    (old : ∀ mark ∈ recent.applied, P mark.1) (new : P (source, fingerprint payload)) (now : Int) :
    ∀ mark ∈ (recent.markApplied payload now source).applied, P mark.1 := by
  intro mark member
  rcases lt_or_ge 0 (recent.window source) with checked | unchecked
  · rcases (mem_markApplied checked).mp member with rfl | ⟨before, -⟩
    · exact new
    · exact old mark before
  · rw [markApplied_of_unchecked unchecked] at member
    exact old mark member

/-- No document is remembered twice in a flow. -/
theorem nodup_applied_after (singleBlobWindow archiveWindow : Int) (uses : List Use) :
    ((((fresh singleBlobWindow archiveWindow).after uses).applied).map Prod.fst).Nodup := by
  induction uses using List.reverseRecOn with
  | nil => exact List.nodup_nil
  | append_singleton uses last ih =>
      rw [after_append]
      cases last with
      | ask payload now source => exact ih
      | mark payload now source =>
          rw [Use.apply, markApplied]
          split
          · exact ih
          · refine List.nodup_cons.mpr ⟨?_, ?_⟩
            · simp
            · exact ih.sublist ((List.filter_sublist.trans List.filter_sublist).map _)

/-! ## Marks after a history -/

/-- Where fingerprints tell the documents apart, those remembered are those whose marks stand. -/
theorem mem_applied_after_iff (singleBlobWindow archiveWindow : Int) {texts : Set String}
    (apart : Set.InjOn fingerprint texts) {uses : List Use}
    (known : ∀ use ∈ uses, use.payload ∈ texts) (source : Source) {payload : String}
    (inside : payload ∈ texts) (time : Int) :
    ((source, fingerprint payload), time) ∈
        ((fresh singleBlobWindow archiveWindow).after uses).applied ↔
      Stands (fresh singleBlobWindow archiveWindow).window uses source payload time := by
  induction uses using List.reverseRecOn with
  | nil => exact iff_of_false List.not_mem_nil not_stands_nil
  | append_singleton uses last ih =>
      have earlier := ih fun use member => known use (List.mem_append_left _ member)
      rw [after_append]
      cases last with
      | ask other now flow => simp [Use.apply, stands_append, earlier]
      | mark other now flow =>
          have same : fingerprint payload = fingerprint other ↔ payload = other :=
            apart.eq_iff inside (known (.mark other now flow) (by simp))
          rw [stands_append_mark, Use.apply]
          rcases lt_or_ge 0 ((fresh singleBlobWindow archiveWindow).window flow) with
            checked | unchecked
          · rw [mem_markApplied (by rw [window_after]; exact checked), window_after, earlier]
            simp only [Prod.mk.injEq, same, ne_eq, checked, true_imp_iff]
            constructor
            · rintro (⟨⟨rfl, rfl⟩, rfl⟩ | ⟨stands, near, different⟩)
              · exact .inl ⟨⟨rfl, rfl, rfl⟩, checked⟩
              · exact .inr ⟨stands, fun equal => different equal.symm, near⟩
            · rintro (⟨⟨rfl, rfl, rfl⟩, -⟩ | ⟨stands, different, near⟩)
              · exact .inl ⟨⟨rfl, rfl⟩, rfl⟩
              · exact .inr ⟨stands, near, fun equal => different equal.symm⟩
          · -- A mark in a flow that is not checked is not made, and sweeps nothing.
            rw [markApplied_of_unchecked (by rw [window_after]; exact unchecked), earlier]
            constructor
            · intro stands
              refine .inr ⟨stands, ?_, fun checked => absurd checked (not_lt.mpr unchecked)⟩
              rintro ⟨-, rfl⟩
              exact absurd stands.checked (not_lt.mpr unchecked)
            · rintro (⟨⟨-, -, rfl⟩, checked⟩ | ⟨stands, -, -⟩)
              · exact absurd checked (not_lt.mpr unchecked)
              · exact stands

/-- Nothing is remembered that was not marked. -/
theorem exists_of_mem_applied_after (singleBlobWindow archiveWindow : Int) {uses : List Use}
    {mark : (Source × Fingerprint) × Int}
    (member : mark ∈ ((fresh singleBlobWindow archiveWindow).after uses).applied) :
    ∃ use ∈ uses, mark.1.2 = fingerprint use.payload := by
  induction uses using List.reverseRecOn with
  | nil => exact absurd member List.not_mem_nil
  | append_singleton uses last ih =>
      rw [after_append] at member
      have before (old : mark ∈ ((fresh singleBlobWindow archiveWindow).after uses).applied) :
          ∃ use ∈ uses ++ [last], mark.1.2 = fingerprint use.payload := by
        obtain ⟨use, inside, same⟩ := ih old
        exact ⟨use, List.mem_append_left _ inside, same⟩
      cases last with
      | ask other now flow => exact before member
      | mark other now flow =>
          rw [Use.apply] at member
          rcases lt_or_ge 0 (((fresh singleBlobWindow archiveWindow).after uses).window flow) with
            checked | unchecked
          · rcases (mem_markApplied checked).mp member with rfl | ⟨old, -⟩
            · exact ⟨.mark other now flow, by simp, rfl⟩
            · exact before old
          · rw [markApplied_of_unchecked unchecked] at member
            exact before member

/-! ## Answers -/

theorem shouldProcess_eq_false_iff {recent : RecentPayloads}
    (distinct : (recent.applied.map Prod.fst).Nodup) (payload : String) (now : Int)
    (source : Source) :
    recent.shouldProcess payload now source = false ↔
      0 < recent.window source ∧
        ∃ time, ((source, fingerprint payload), time) ∈ recent.applied ∧
          now - time < recent.window source := by
  rw [shouldProcess]
  split
  · rename_i unchecked
    simp [not_lt.mpr unchecked]
  · rename_i checked
    simp only [← SortedMap.lookup_eq_some_iff_of_nodup distinct, not_le.mp checked, true_and]
    cases recent.applied.lookup (source, fingerprint payload) with
    | none => simp
    | some time => simp

/-- Only a document that is remembered is suppressed. -/
theorem exists_mark_of_suppressed {recent : RecentPayloads} {payload : String} {now : Int}
    {source : Source} (suppressed : recent.shouldProcess payload now source = false) :
    ∃ time, ((source, fingerprint payload), time) ∈ recent.applied := by
  rw [shouldProcess] at suppressed
  split at suppressed
  · cases suppressed
  · cases found : recent.applied.lookup (source, fingerprint payload) with
    | none => simp [found] at suppressed
    | some time => exact ⟨time, SortedMap.mem_of_lookup found⟩

section History

variable {singleBlobWindow archiveWindow : Int} {uses : List Use} {payload : String}

/-- A document is suppressed while its last mark stands and is less than a window old. -/
theorem shouldProcess_after_iff {texts : Set String} (apart : Set.InjOn fingerprint texts)
    (known : ∀ use ∈ uses, use.payload ∈ texts) (inside : payload ∈ texts) (now : Int)
    (source : Source) :
    ((fresh singleBlobWindow archiveWindow).after uses).shouldProcess payload now source = false ↔
      ∃ time, Stands (fresh singleBlobWindow archiveWindow).window uses source payload time ∧
        now - time < (fresh singleBlobWindow archiveWindow).window source := by
  rw [shouldProcess_eq_false_iff (nodup_applied_after _ _ _), window_after]
  simp only [mem_applied_after_iff _ _ apart known source inside]
  constructor
  · exact fun suppressed => suppressed.2
  · rintro ⟨time, stands, near⟩
    exact ⟨stands.checked, time, stands, near⟩

theorem Stands.mem_payloads {windows : Source → Int} {source : Source} {time : Int}
    (stands : Stands windows uses source payload time) :
    payload ∈ {text | ∃ use ∈ uses, use.payload = text} := by
  obtain ⟨earlier, later, rfl, -⟩ := stands
  exact ⟨.mark payload time source, by simp, rfl⟩

/-- As many documents are remembered as have marks that stand. -/
theorem encard_stands (apart : Set.InjOn fingerprint {text | ∃ use ∈ uses, use.payload = text}) :
    Set.encard {marked : Source × String | ∃ time,
        Stands (fresh singleBlobWindow archiveWindow).window uses marked.1 marked.2 time} =
      ((fresh singleBlobWindow archiveWindow).after uses).size := by
  let keys := ((fresh singleBlobWindow archiveWindow).after uses).applied.map Prod.fst
  let key (marked : Source × String) : Source × Fingerprint := (marked.1, fingerprint marked.2)
  have known : ∀ use ∈ uses, use.payload ∈ {text | ∃ use ∈ uses, use.payload = text} :=
    fun use member => ⟨use, member, rfl⟩
  have injective : Set.InjOn key {marked | ∃ time,
      Stands (fresh singleBlobWindow archiveWindow).window uses marked.1 marked.2 time} := by
    rintro ⟨source, payload⟩ ⟨time, stands⟩ ⟨flow, other⟩ ⟨instant, also⟩ equal
    obtain ⟨rfl, same⟩ := Prod.mk.inj equal
    exact congrArg _ (apart stands.mem_payloads also.mem_payloads same)
  have image : key '' {marked | ∃ time,
      Stands (fresh singleBlobWindow archiveWindow).window uses marked.1 marked.2 time} =
        keys.toFinset := by
    ext ⟨source, digest⟩
    rw [List.coe_toFinset, Set.mem_image, Set.mem_ofPred_eq, List.mem_map]
    constructor
    · rintro ⟨⟨flow, payload⟩, ⟨time, stands⟩, equal⟩
      exact ⟨_, (mem_applied_after_iff _ _ apart known flow stands.mem_payloads time).mpr stands,
        equal⟩
    · rintro ⟨⟨_, time⟩, member, rfl⟩
      obtain ⟨use, inside, same⟩ := exists_of_mem_applied_after _ _ member
      obtain rfl : digest = fingerprint use.payload := same
      exact ⟨(source, use.payload), ⟨time, (mem_applied_after_iff _ _ apart known source
        (known use inside) time).mp member⟩, rfl⟩
  rw [← injective.encard_image, image, Set.encard_coe_eq_coe_finsetCard,
    List.toFinset_card_of_nodup (nodup_applied_after _ _ _), List.length_map]
  rfl

/-- While the clock does not go back, no mark is swept that could still suppress. -/
theorem stands_iff_lastMarked {windows : Source → Int} {now : Int} {source : Source} {time : Int}
    (ordered : (uses.map Use.time ++ [now]).Pairwise (· ≤ ·))
    (near : now - time < windows source) :
    Stands windows uses source payload time ↔ LastMarked uses source payload time := by
  constructor
  · rintro ⟨earlier, later, split, unmarked, -, -⟩
    exact ⟨earlier, later, split, unmarked⟩
  · rintro ⟨earlier, later, rfl, unmarked⟩
    obtain ⟨-, -, below⟩ := List.pairwise_append.mp ordered
    have past (use : Use) (member : use ∈ earlier ++ .mark payload time source :: later) :
        use.time ≤ now := below _ (List.mem_map_of_mem member) now (List.mem_singleton.mpr rfl)
    have marked : time ≤ now := past (.mark payload time source) (by simp)
    refine ⟨earlier, later, rfl, unmarked, by omega, fun other instant flow member _ => ?_⟩
    have passed : instant ≤ now := past (.mark other instant flow) (by simp [member])
    omega

end History

/-- Under any clock, a document is suppressed exactly if the last mark of it in its flow still
stands and is less than a window old, and as many documents are remembered as have marks that stand.
While the clock does not go back, the age of the last mark alone decides. -/
theorem suppresses_iff_stands (singleBlobWindow archiveWindow : Int) (uses : List Use)
    (payload : String) (now : Int) (source : Source)
    (apart : Set.InjOn fingerprint
      {text | text = payload ∨ ∃ use ∈ uses, use.payload = text}) :
    let windows := (fresh singleBlobWindow archiveWindow).window
    let recent := (fresh singleBlobWindow archiveWindow).after uses
    (recent.shouldProcess payload now source = false ↔
        ∃ time, Stands windows uses source payload time ∧ now - time < windows source) ∧
      Set.encard {marked : Source × String |
        ∃ time, Stands windows uses marked.1 marked.2 time} = recent.size ∧
      ((uses.map Use.time ++ [now]).Pairwise (· ≤ ·) →
        (recent.shouldProcess payload now source = false ↔
          ∃ time, LastMarked uses source payload time ∧ now - time < windows source)) := by
  intro windows recent
  have answer : recent.shouldProcess payload now source = false ↔
      ∃ time, Stands windows uses source payload time ∧ now - time < windows source :=
    shouldProcess_after_iff apart (fun use member => .inr ⟨use, member, rfl⟩) (.inl rfl) now source
  refine ⟨answer, encard_stands (apart.mono fun _ => .inr), fun ordered => answer.trans ?_⟩
  constructor
  · rintro ⟨time, stands, near⟩
    exact ⟨time, (stands_iff_lastMarked ordered near).mp stands, near⟩
  · rintro ⟨time, marked, near⟩
    exact ⟨time, (stands_iff_lastMarked ordered near).mpr marked, near⟩

/-- Marks by two clocks, of which one is fast. -/
def unsteadyUses : List Use :=
  [.mark "[1]" 100 .singleBlob, .mark "[2]" 390 .archive, .mark "[2]" 20 .singleBlob]

/-- The fast clock sweeps nothing of the first flow before `400`, and by a clock that is behind the
mark is still young.  Before the slow clock is read, the age of the mark decides. -/
theorem suppresses_while_clocks_differ :
    Set.InjOn fingerprint {text | text = "[1]" ∨ ∃ use ∈ unsteadyUses, use.payload = text} ∧
      ((fresh 300 60).after unsteadyUses).shouldProcess "[1]" 399 .singleBlob = false ∧
      ((unsteadyUses.take 2).map Use.time ++ [390]).Pairwise (· ≤ ·) ∧
      ((fresh 300 60).after (unsteadyUses.take 2)).shouldProcess "[1]" 390 .singleBlob =
        false := by
  have digests : fingerprint "[1]" ≠ fingerprint "[2]" := by decide +kernel
  have apart : Set.InjOn fingerprint
      {text | text = "[1]" ∨ ∃ use ∈ unsteadyUses, use.payload = text} := by
    refine (Set.injOn_pair.mpr fun same => absurd same digests).mono fun text member => ?_
    simp only [unsteadyUses, List.mem_cons, List.not_mem_nil, or_false, exists_eq_or_imp,
      exists_eq_left, Use.payload, Set.mem_ofPred_eq] at member
    grind
  have early : Set.InjOn fingerprint
      {text | text = "[1]" ∨ ∃ use ∈ unsteadyUses.take 2, use.payload = text} := by
    refine apart.mono ?_
    rintro text (rfl | ⟨use, member, rfl⟩)
    · exact .inl rfl
    · exact .inr ⟨use, List.mem_of_mem_take member, rfl⟩
  have ordered : ((unsteadyUses.take 2).map Use.time ++ [390]).Pairwise (· ≤ ·) := by decide
  refine ⟨apart, (suppresses_iff_stands 300 60 unsteadyUses "[1]" 399 .singleBlob apart).1.mpr ?_,
    ordered, ((suppresses_iff_stands 300 60 _ "[1]" 390 .singleBlob early).2.2 ordered).mpr ?_⟩
  · refine ⟨100, ⟨[], [.mark "[2]" 390 .archive, .mark "[2]" 20 .singleBlob], rfl, ?_, ?_, ?_⟩, ?_⟩
    · simp
    · decide
    · intro other now flow member _
      simp only [List.mem_cons, Use.mark.injEq, List.not_mem_nil, or_false] at member
      rcases member with ⟨-, rfl, -⟩ | ⟨-, rfl, -⟩ <;> decide
    · decide
  · exact ⟨100, ⟨[], [.mark "[2]" 390 .archive], rfl, by simp⟩, by decide⟩

end RecentPayloads
end JarLedger
