import JarLedger.Proofs.Archive.Headers
import JarLedger.Proofs.Archive.Walk
import JarLedger.Proofs.Packing.Archive

/-!
# Bodies that are all there

`Tar.contents` keeps of an archive what its headers declare, beside the bytes that are there; what
a reader gets to see follows from it (`Tar.entries_contents`).  At most the last body is cut, by the
end of the data.  A walk hands out every document that is all there, and of a cut body nothing,
unless the data ends without a fault: then the part that is there comes as if it were all, before
the failure (`Extraction.documents_contents`).
-/

namespace JarLedger
namespace Tar

/-- An entry as its header declares it, with the bytes that are there. -/
structure Declared where
  described : Described
  header : Header
  /-- How many bytes are stored for it. -/
  stored : Nat
  stretches : List Stretch
  /-- The bytes of the archive from its data on. -/
  data : List UInt8
  sized : described.size? header = some stored
  laidOut : ∃ after, stretches? header stored after = some (stretches, data)

namespace Declared

variable (entry : Declared)

def path : List UInt8 := entry.described.path entry.header

/-- What can be put together of its body. -/
def body : List UInt8 := fill entry.stretches entry.data

/-- Length that its header declares. -/
def length? : Option Nat := entry.described.size? entry.header >>= entry.header.fileLength?

/-- Whether the data ends inside its body. -/
def IsCut : Prop := entry.data.length < entry.stored

/-- A body lacks what is stored and not there. -/
theorem length?_eq :
    entry.length? = some (entry.body.length + (entry.stored - entry.data.length)) := by
  obtain ⟨after, read⟩ := entry.laidOut
  obtain ⟨stores, declared⟩ := lengths_of_stretches? read
  have filled := length_fill entry.stretches entry.data
  rw [stores] at filled
  rw [length?, entry.sized, body, filled]
  exact declared

/-- The body has the declared length exactly if the data does not end inside it. -/
theorem length?_eq_length_body_iff : entry.length? = some entry.body.length ↔ ¬ entry.IsCut := by
  rw [length?_eq, Option.some.injEq, IsCut]
  omega

end Declared

/-- What the headers of an archive declare, and which bodies are there. -/
inductive Contents where
  /-- The archive ends. -/
  | done
  /-- The archive cannot be read on. -/
  | failed
  /-- The data ends inside the body of an entry. -/
  | cut (entry : Declared) (short : entry.IsCut)
  /-- An entry of which all bytes are there, and what follows. -/
  | entry (entry : Declared) (full : ¬ entry.IsCut) (rest : Contents)

namespace Contents

/-- The entries of which all bytes are there. -/
def complete : Contents → List Declared
  | .done | .failed | .cut _ _ => []
  | .entry first _ rest => first :: rest.complete

/-- The entry in whose body the data ends. -/
def cut? : Contents → Option Declared
  | .done | .failed => none
  | .cut last _ => some last
  | .entry _ _ rest => rest.cut?

/-- Whether the archive ends as it should. -/
def isDone : Contents → Bool
  | .done => true
  | .failed | .cut _ _ => false
  | .entry _ _ rest => rest.isDone

/-- What a reader gets to see.  Of a body that is cut it is what is there, if the data ends without
a fault. -/
def entries (ending : Ending) : Contents → Entries
  | .done => .done
  | .failed => .failed
  | .cut last _ => .entry last.path (if ending = .whole then some last.body else none) .failed
  | .entry first _ rest => .entry first.path (some first.body) (rest.entries ending)

theorem not_isCut_of_mem {contents : Contents} {declared : Declared}
    (member : declared ∈ contents.complete) : ¬ declared.IsCut := by
  induction contents with
  | done | failed | cut => cases member
  | entry first full rest ih =>
      rcases List.mem_cons.mp member with rfl | member
      · exact full
      · exact ih member

/-- After a body that is cut the archive cannot end as it should. -/
theorem isCut_of_cut? {contents : Contents} {last : Declared} (cut : contents.cut? = some last) :
    last.IsCut ∧ contents.isDone = false := by
  induction contents with
  | done | failed => cases cut
  | cut last short =>
      cases cut
      exact ⟨short, rfl⟩
  | entry first full rest ih => exact ih cut

end Contents

/-- The contents where no header follows: what describes a next entry needs one. -/
def Contents.nothingMore (described : Described) : Contents :=
  if described.any then .failed else .done

theorem Contents.entries_nothingMore (ending : Ending) (described : Described) :
    (nothingMore described).entries ending = if described.any then .failed else .done := by
  unfold nothingMore
  split <;> rfl

/-- The contents from a header on; `position` is how many bytes come before it. -/
def contentsFrom (ending : Ending) (described : Described) (position : Nat) (bytes : List UInt8) :
    Contents :=
  if bytes.isEmpty then if ending = .whole then .nothingMore described else .failed
  else if _block : blockSize ≤ bytes.length then
    let header : Header := ⟨bytes.take blockSize⟩
    let after := bytes.drop blockSize
    if header.isZero then .nothingMore described
    else if !header.isSound then .failed
    else
      match sized : described.size? header with
      | none => .failed
      | some stored =>
          let skipped := roundedUp stored
          if wordLimit ≤ stored + (blockSize - 1) ∨
              wordLimit ≤ position + blockSize + skipped then
            .failed
          else if header.describes then
            if after.length < skipped then .failed
            else
              match described.extend? header.kind (after.take stored) with
              | none => .failed
              | some described =>
                  contentsFrom ending described (position + blockSize + skipped)
                    (bytes.drop (blockSize + skipped))
          else
            match read : stretches? header stored after with
            | none => .failed
            | some (stretches, data) =>
                let entry : Declared :=
                  { described, header, stored, stretches, data, sized, laidOut := ⟨after, read⟩ }
                let used := bytes.length - data.length
                if short : data.length < stored then .cut entry short
                else
                  .entry entry short <|
                    if data.length < skipped then .failed
                    else contentsFrom ending {} (position + used + skipped)
                      (bytes.drop (used + skipped))
  else .failed
termination_by bytes.length
decreasing_by
  · simp only [List.length_drop, blockSize] at *; omega
  · have shorter : data.length ≤ (bytes.drop blockSize).length := length_stretches? read
    simp only [List.length_drop, blockSize] at *
    omega

/-- The contents of an archive. -/
def contents (archive : Unpacked) : Contents := contentsFrom archive.ending {} 0 archive.bytes

/-- Where the data ends inside the body after a header, its entry is the last. -/
theorem contentsFrom_of_heading {ending : Ending} {described : Described} {position stored : Nat}
    {bytes data : List UInt8} {header : Header} {stretches : List Stretch}
    (heading : Heading described position bytes header stored stretches data)
    (short : data.length < stored) :
    contentsFrom ending described position bytes =
      .cut ⟨described, header, stored, stretches, data, heading.sized, _, heading.laidOut⟩
        short := by
  obtain ⟨enough, rfl, filled, sound, sized, near, plain, laidOut⟩ := heading
  rw [contentsFrom]
  simp only [isEmpty_of_block enough, enough, filled, sound, plain, Bool.not_true,
    Bool.false_eq_true, if_false, dif_pos]
  split
  · next unsized => cases unsized.symm.trans sized
  · next sized' =>
    cases sized'.symm.trans sized
    rw [if_neg near]
    split
    · next refused => cases refused.symm.trans laidOut
    · next found =>
      cases found.symm.trans laidOut
      exact dif_pos short

theorem entries_contentsFrom (ending : Ending) (described : Described) (position : Nat)
    (bytes : List UInt8) :
    (contentsFrom ending described position bytes).entries ending =
      entriesFrom ending described position bytes := by
  -- Of the cases, 9 is an entry that describes the next one, 10 one whose stretches are not known,
  -- 11 one that is cut and 12 one that is all there.
  fun_induction contentsFrom ending described position bytes with
  | case9 described position bytes filled block header after content sound stored sized skipped
      near describes enough next extended ih =>
      rw [entriesFrom, ih]
      simp_all +zetaDelta only [Bool.false_eq_true, if_false, if_true, dif_pos]
  | case10 described position bytes filled block header after content sound stored sized skipped
      near plain unread =>
      rw [entriesFrom]
      simp_all +zetaDelta only [Contents.entries, Bool.false_eq_true, if_false, dif_pos]
      split
      · rfl
      · next read => cases read.symm.trans unread
  | case11 described position bytes _ enough header _ filled sound stored sized _ near plain
      stretches data laidOut entry short =>
      have heading : Heading described position bytes header stored stretches data :=
        ⟨enough, rfl, filled, by simpa using sound, sized, near, plain, laidOut⟩
      have cut : data.length < roundedUp stored := Nat.lt_of_lt_of_le short (le_roundedUp stored)
      rw [entriesFrom_of_heading heading, if_pos cut]
      change Entries.entry _ _ _ = _
      by_cases whole : ending = .whole
      · rw [if_pos whole, if_neg fun unread => unread.2 whole]
        rfl
      · rw [if_neg whole, if_pos ⟨short, whole⟩]
        rfl
  | case12 described position bytes _ enough header _ filled sound stored sized skipped near plain
      stretches data laidOut entry used full ih =>
      have heading : Heading described position bytes header stored stretches data :=
        ⟨enough, rfl, filled, by simpa using sound, sized, near, plain, laidOut⟩
      rw [entriesFrom_of_heading heading,
        if_neg fun unread : data.length < stored ∧ _ => full unread.1, ← ih]
      change Entries.entry _ _ _ = _
      rw [apply_ite (Contents.entries ending)]
      rfl
  | case13 described position bytes filled part =>
      rw [entriesFrom, if_neg filled, dif_neg part]
      rfl
  | _ =>
      rw [entriesFrom]
      simp_all +zetaDelta [Contents.entries_nothingMore, Contents.entries]

/-- What a reader gets to see of an archive is what follows from its contents. -/
theorem entries_contents (archive : Unpacked) :
    entries archive = (contents archive).entries archive.ending :=
  (entries_contentsFrom _ _ _ _).symm

/-- Of a packed file that is cut, so much is there as the data has. -/
theorem contents_cutFile (file : File) (part : List UInt8) (ending : Ending)
    (short : part.length < file.body.length) (near : file.pack.length < wordLimit) :
    ∃ (last : Declared) (cut : last.IsCut),
      contents ⟨file.header.bytes ++ part, ending⟩ = .cut last cut ∧ last.path = file.path ∧
      last.length? = some file.body.length ∧ last.body = part := by
  have heading := file.heading 0 part (by rwa [Nat.zero_add])
  have cut : contents ⟨file.header.bytes ++ part, ending⟩ = _ :=
    contentsFrom_of_heading heading short
  refine ⟨_, _, cut, file.name_header, ?_, ?_⟩
  · rw [Declared.length?, heading.sized]
    exact if_neg (by rw [file.kind_header]; decide)
  · change fill _ _ = _
    rw [fill, List.take_of_length_le (Nat.le_of_lt short), fill, List.append_nil]

namespace Contents

variable (ending : Ending) (contents : Contents)

theorem full_entries :
    (contents.entries ending).full =
      (contents.complete ++ if ending = .whole then contents.cut?.toList else []).map
        fun entry => (entry.path, entry.body) := by
  induction contents with
  | done | failed => cases ending <;> rfl
  | cut last short => cases ending <;> rfl
  | entry first full rest ih => exact congrArg ((first.path, first.body) :: ·) ih

theorem isWhole_entries : (contents.entries ending).isWhole = contents.isDone := by
  induction contents with
  | done | failed => rfl
  | cut last short => cases ending <;> rfl
  | entry first full rest ih => exact ih

end Contents

end Tar

namespace Extraction

open Tar (Declared Contents)

/-- The text that the entries of some contents are documents of, as far as they are there. -/
def textsOf (directory : String) (entries : List Declared) : List String :=
  documentsOf directory (entries.map fun entry => (entry.path, entry.body))

theorem textsOf_append (directory : String) (entries others : List Declared) :
    textsOf directory (entries ++ others) =
      textsOf directory entries ++ textsOf directory others := by
  rw [textsOf, List.map_append, documentsOf, List.filterMap_append]
  rfl

theorem textsOf_eq_nil_iff {directory : String} {entries : List Declared} :
    textsOf directory entries = [] ↔
      ∀ entry ∈ entries, isWanted directory entry.path → entry.body = [] := by
  simp only [textsOf, documentsOf, List.filterMap_eq_nil_iff, List.forall_mem_map, documentOf?]
  refine forall₂_congr fun entry _ => ?_
  cases isWanted directory entry.path <;> cases entry.body <;> simp

/-- A walk hands out the documents that are all there, in order.  Where the data ends inside a body,
the failure comes instead of it, unless the data ends without a fault and the body is that of a
document: then what is there of it comes before the failure. -/
theorem documents_contents (source : ByteSource) (directory : String) :
    let unpacked := Gzip.unpack source
    let contents := Tar.contents unpacked
    let torn := if unpacked.ending = .whole then contents.cut?.toList else []
    let failure : List Item := if contents.isDone then [] else [.error .archive]
    let items := ((Archive.ofSource source).documents directory).1
    (∀ entry ∈ contents.complete, entry.length? = some entry.body.length) ∧
    (∀ last ∈ contents.cut?, contents.isDone = false ∧
      ∃ length, last.length? = some length ∧ last.body.length < length) ∧
    items = (textsOf directory contents.complete ++ textsOf directory torn).map .ok ++ failure ∧
    (items = (textsOf directory contents.complete).map .ok ++ failure ↔
      ∀ last ∈ torn, isWanted directory last.path → last.body = []) := by
  intro unpacked contents torn failure items
  have handed : items =
      (textsOf directory contents.complete ++ textsOf directory torn).map .ok ++ failure := by
    have same : (Archive.ofSource source).entries = contents.entries unpacked.ending :=
      Tar.entries_contents unpacked
    have walked : items = _ := documents_ofSource source directory
    rw [walked, same, Contents.isWhole_entries, Contents.full_entries, ← textsOf_append]
    rfl
  refine ⟨fun entry member => ?_, fun last cut => ?_, handed, ?_⟩
  · exact entry.length?_eq_length_body_iff.mpr (Contents.not_isCut_of_mem member)
  · obtain ⟨short, broken⟩ := Contents.isCut_of_cut? cut
    exact ⟨broken, _, last.length?_eq, Nat.lt_add_of_pos_right (Nat.sub_pos_of_lt short)⟩
  · rw [handed, List.map_append, List.append_assoc, List.append_right_inj,
      List.append_left_eq_self, List.map_eq_nil_iff, textsOf_eq_nil_iff]

/-- The first byte of a machine is handed out as its document. -/
theorem documents_cutMachine :
    let source := packed [] (machineFile.header.bytes ++ machineFile.body.take 1)
    let contents := Tar.contents (Gzip.unpack source)
    contents.complete = [] ∧
    (∃ last ∈ contents.cut?, last.path = machineFile.path ∧
      last.length? = some machineFile.body.length ∧ last.body.length = 1) ∧
    ((Archive.ofSource source).documents "/data/var/tmp/insights-runtimes/uploads/").1 =
      [.ok "\x7b", .error .archive] := by
  intro source contents
  have unpacked : Gzip.unpack source =
      ⟨machineFile.header.bytes ++ machineFile.body.take 1, .whole⟩ :=
    Gzip.unpack_pack _ (by decide +kernel)
  obtain ⟨last, cut, found, path, length, body⟩ := Tar.contents_cutFile machineFile
    (machineFile.body.take 1) .whole (by decide +kernel) (by decide +kernel)
  have same : contents = .cut last cut := by rw [← found, ← unpacked]
  have one : last.body.length = 1 := by
    rw [body]
    decide +kernel
  refine ⟨by rw [same]; rfl, ⟨last, by rw [same]; rfl, path, length, one⟩, ?_⟩
  rw [documents_ofSource, entries_ofSource, Tar.entries_contents, unpacked, found]
  change (documentsOf _ [(last.path, last.body)]).map Except.ok ++ [Except.error _] = _
  rw [path, body]
  decide +kernel

end Extraction
end JarLedger
