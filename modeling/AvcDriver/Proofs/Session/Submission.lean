import AvcDriver.Proofs.Header.Carried
import AvcDriver.Proofs.Session.Order
import AvcDriver.Proofs.Session.Sound

/-!
# What a submission is made of

Buffers of all kinds are handed over in any order. Of the picture parameters the last ones count,
of the slice parameters the first ones, and all of the slice data, in the order in which they were
handed over. They are read when the submission is made: what counts is what the buffers hold then.

* `recordsOf`, `contentsOf`: the records and the slices, read off the list of buffers.
* `Work.ofBuffers_eq`: what is kept of the buffers that are handed over.
* `Work.stream_ofBuffers`: the stream of a submission, unit by unit.
* `Decoder.submit_decodes`: the stream is what the engine is given first.
-/

namespace AvcDriver.Session

variable {items : List (BufferRef × BufferKind)} {buffers : List Buffer} {store : BufferStore}
  {profile : Header.Profile} {options : Header.Options} {picture : Record.Picture}
  {slice : Record.Slice}

/-! ## Buffers by kind -/

/-- What the buffers of a kind hold, in order. -/
def contentsOf (kind : BufferKind) (buffers : List Buffer) : List Bytes :=
  (buffers.filter (·.kind = kind)).map Buffer.bytes

/-- The records that describe a submission of these buffers, or the first thing that is wrong with
them. -/
def recordsOf (buffers : List Buffer) : Except DecodeError (Record.Picture × Record.Slice) := do
  let pictureBytes ←
    (contentsOf .pictureParameter buffers).getLast?.elim (.error .missingPictureParameters) .ok
  let sliceBytes ←
    (contentsOf .sliceParameter buffers).head?.elim (.error .missingSliceParameters) .ok
  let picture ← (Record.Picture.parse pictureBytes).mapError .malformedParameters
  let slice ← (Record.Slice.parse sliceBytes).mapError .malformedParameters
  pure (picture, slice)

/-- One buffer of either kind is where the records are. -/
theorem recordsOf_singletons {pictureBytes sliceBytes : Bytes}
    (hpicture : contentsOf .pictureParameter buffers = [pictureBytes])
    (hslice : contentsOf .sliceParameter buffers = [sliceBytes])
    (hparse : Record.Picture.parse pictureBytes = .ok picture)
    (hparse' : Record.Slice.parse sliceBytes = .ok slice) :
    recordsOf buffers = .ok (picture, slice) := by
  rw [recordsOf, hpicture, hslice, List.getLast?_singleton, List.head?_singleton,
    Option.elim_some, ok_bind, Option.elim_some, ok_bind, hparse, mapError_ok, ok_bind, hparse']
  rfl

/-- The units in front of the slices: both parameter sets of an intra picture, and none of another
one. -/
def SetsOf (profile : Header.Profile) (options : Header.Options) (picture : Record.Picture)
    (slice : Record.Slice) (sets : List Bytes) : Prop :=
  if slice.sliceType.isIntra then
    ∃ sequenceSet pictureSet, sets = [0x67 :: sequenceSet, 0x68 :: pictureSet] ∧
      Header.headerBytes profile picture options = .ok (Nal.Stream.join sets)
  else sets = []

/-- The buffers that were handed over are these ones of a store. -/
def StoredAs (store : BufferStore) (items : List (BufferRef × BufferKind))
    (buffers : List Buffer) : Prop :=
  List.Forall₂ (fun item buffer => store[item.1.index]? = some buffer ∧ buffer.kind = item.2) items
    buffers

namespace Work

/-- The buffers of a kind. -/
def ofKind (kind : BufferKind) (items : List (BufferRef × BufferKind)) : List BufferRef :=
  (items.filter (·.2 = kind)).map (·.1)

theorem ofKind_concat (kind : BufferKind) (items : List (BufferRef × BufferKind))
    (item : BufferRef × BufferKind) :
    ofKind kind (items ++ [item]) =
      ofKind kind items ++ if item.2 = kind then [item.1] else [] := by
  rw [ofKind, List.filter_append, List.map_append, List.filter_singleton]
  by_cases hkind : item.2 = kind
  · rw [if_pos hkind, decide_eq_true hkind]
    rfl
  · rw [if_neg hkind, decide_eq_false hkind]
    rfl

/-- **What is kept of the buffers that are handed over.** -/
theorem ofBuffers_eq (items : List (BufferRef × BufferKind)) :
    ofBuffers items = {
      pictureParameters := (ofKind .pictureParameter items).getLast?
      iqMatrix := (ofKind .iqMatrix items).getLast?
      sliceParameters := ofKind .sliceParameter items
      sliceData := ofKind .sliceData items } := by
  induction items using List.reverseRecOn with
  | nil => rfl
  | append_singleton items item ih =>
    have hadd : ofBuffers (items ++ [item]) = (ofBuffers items).add item.1 item.2 := by
      rw [ofBuffers, List.foldl_append]
      rfl
    obtain ⟨ref, kind⟩ := item
    rw [hadd, ih]
    simp only [ofKind_concat]
    cases kind <;> simp [add]

/-- What the buffers of a kind hold is read off either list. -/
theorem contentsOf_eq (h : StoredAs store items buffers) (kind : BufferKind) :
    contentsOf kind buffers = (ofKind kind items).map (contents store) := by
  induction h with
  | nil => rfl
  | @cons item buffer items buffers hstored hrest ih =>
    obtain ⟨hbuffer, hkind⟩ := hstored
    have hcontents : contents store item.1 = buffer.bytes := by
      rw [contents, hbuffer]
      rfl
    rw [contentsOf] at ih ⊢
    rw [ofKind] at ih ⊢
    rw [List.filter_cons, List.filter_cons, hkind]
    split
    · rw [List.map_cons, List.map_cons, List.map_cons, ih, hcontents]
    · exact ih

theorem index_lt_of_storedAs (h : StoredAs store items buffers) :
    ∀ item ∈ items, item.1.index < store.size := by
  induction h with
  | nil => rintro _ ⟨⟩
  | cons hstored _ ih =>
    exact List.forall_mem_cons.2 ⟨(Array.getElem?_eq_some_iff.1 hstored.1).1, ih⟩

/-- The buffers that were handed over are there. -/
theorem index_lt_of_mem_refs (h : StoredAs store items buffers) :
    ∀ ref ∈ (ofBuffers items).refs, ref.index < store.size := by
  intro ref hmem
  rcases mem_refs_foldl hmem with hempty | ⟨item, hitem, rfl⟩
  · cases hempty
  · exact index_lt_of_storedAs h item hitem

/-! ## Records and streams -/

/-- The records of a submission are those that are read off the list. -/
theorem records_ofBuffers (h : StoredAs store items buffers) :
    (ofBuffers items).records store = (recordsOf buffers).mapError .rejected := by
  have hrefs := index_lt_of_mem_refs h
  have hpicture : (ofBuffers items).pictureParameters =
      (ofKind .pictureParameter items).getLast? := by rw [ofBuffers_eq]
  have hslices : (ofBuffers items).sliceParameters = ofKind .sliceParameter items := by
    rw [ofBuffers_eq]
  rw [recordsOf, contentsOf_eq h, contentsOf_eq h, List.getLast?_map, List.head?_map]
  rcases hlast : (ofKind .pictureParameter items).getLast? with _ | pictureRef
  · rw [records, hpicture, hlast]
    rfl
  rcases hfirst : ofKind .sliceParameter items with _ | ⟨sliceRef, rest⟩
  · rw [records, hpicture, hlast, hslices, hfirst]
    rfl
  rw [records_eq hrefs pictureRef (hpicture.trans hlast) sliceRef (hslices.trans hfirst)]
  simp only [Option.map_some, List.head?_cons, Option.elim_some, ok_bind]
  rcases Record.Picture.parse (contents store pictureRef) with error | picture
  · rfl
  rcases Record.Slice.parse (contents store sliceRef) with error | slice
  · rfl
  · rfl

/-- The parameter sets of a picture are two units. -/
theorem setBytes_eq_join (profile : Header.Profile) (options : Header.Options)
    (hpicture : picture.sequence.picOrderCntType ≠ 1) {elements : List Nal.Element}
    (helements : Header.sequenceElements profile picture options = .ok elements) :
    ∃ sequenceSet pictureSet,
      Header.headerBytes profile picture options =
        .ok (Nal.Stream.join [0x67 :: sequenceSet, 0x68 :: pictureSet]) ∧
      setBytes elements picture = Nal.Stream.join [0x67 :: sequenceSet, 0x68 :: pictureSet] := by
  obtain ⟨elements', helements', hspelled⟩ := Header.sequenceSet_spelled profile hpicture options
  cases helements.symm.trans helements'
  obtain ⟨w, hw, hkeeps⟩ := Header.keeps_parameterSets (Nal.Writer.keeps_empty true) helements
    hspelled.writable
  have hbytes : Header.headerBytes profile picture options = .ok (setBytes elements picture) := by
    rw [Header.headerBytes, ← bind_assoc, hw, ok_bind, hkeeps.holds.bytes_eq, setBytes,
      List.nil_append]
  obtain ⟨sequenceSet, pictureSet, -, hunits, -⟩ :=
    Header.headerBytes_units profile hpicture options
  exact ⟨sequenceSet, pictureSet, hunits, Except.ok.inj (hbytes.symm.trans hunits)⟩

theorem sliceBytes_eq_join (slices : List BufferRef) :
    sliceBytes store slices = Nal.Stream.join (slices.map (contents store)) := by
  rw [sliceBytes, Nal.Stream.join, List.flatMap_map]

/-- **The stream of a submission, unit by unit**: parameter sets, then the slices as they are. -/
theorem stream_ofBuffers (h : StoredAs store items buffers) (profile : Header.Profile)
    (options : Header.Options) :
    match recordsOf buffers with
    | .error error => (ofBuffers items).stream store profile options = .error (.rejected error)
    | .ok (picture, slice) =>
      (slice.sliceType.isIntra = true → picture.sequence.picOrderCntType ≠ 1) →
        ∃ sets, SetsOf profile options picture slice sets ∧
          (ofBuffers items).stream store profile options =
            .ok (Nal.Stream.join (sets ++ contentsOf .sliceData buffers)) := by
  have hrecords := records_ofBuffers h
  rcases hrecord : recordsOf buffers with error | ⟨picture, slice⟩
  · rw [hrecord] at hrecords
    rw [stream, hrecords]
    rfl
  intro hwritable
  rw [hrecord] at hrecords
  have hslices : ∀ ref ∈ (ofBuffers items).sliceData, ref.index < store.size :=
    fun ref hmem => index_lt_of_mem_refs h ref (List.mem_append_right _ hmem)
  have hdata : sliceBytes store (ofBuffers items).sliceData =
      Nal.Stream.join (contentsOf .sliceData buffers) := by
    rw [sliceBytes_eq_join, contentsOf_eq h, ofBuffers_eq]
  rw [stream_of_records hrecords]
  by_cases hintra : slice.sliceType.isIntra = true
  · obtain ⟨elements, helements, hwrite⟩ :=
      write_eq_of_intra profile options hslices hintra (hwritable hintra)
    obtain ⟨sequenceSet, pictureSet, hheader, hsets⟩ :=
      setBytes_eq_join profile options (hwritable hintra) helements
    refine ⟨[0x67 :: sequenceSet, 0x68 :: pictureSet], ?_, ?_⟩
    · rw [SetsOf, if_pos hintra]
      exact ⟨sequenceSet, pictureSet, rfl, hheader⟩
    · rw [hwrite, hsets, hdata, mapError_ok, Nal.Stream.join, Nal.Stream.join, Nal.Stream.join,
        List.flatMap_append]
  · refine ⟨[], ?_, ?_⟩
    · rw [SetsOf, if_neg hintra]
    · rw [write_eq_of_predicted hslices (Bool.eq_false_iff.2 hintra), hdata, mapError_ok,
        List.nil_append]

end Work

/-! ## The first call -/

section FirstCall

variable {ε α : Type}

/-- Where every cause is an excuse, it does not matter what was said before. -/
theorem Does.rebase {memories : Nat} {f : Flight} {before : List Engine.Call} {m : RunM ε α}
    {Q : Except DecodeError α → List Engine.Call → Prop} (h : Does (.unruly memories) f before m Q)
    (before' : List Engine.Call) : Does (.unruly memories) f before' m Q := by
  intro p hp
  obtain ⟨calls, hadv, hp', hend⟩ := h p hp
  refine ⟨calls, hadv, hp', hend.imp_right ?_⟩
  rintro ⟨cause, hcause, -⟩
  exact ⟨cause, hcause, .outside trivial⟩

variable [Engine ε]

/-- The stream is what the engine is given first, if it is called at all. -/
theorem drive_decodes (f : Flight) (stream : Bytes) (tag : UInt32) {patience : Nat}
    (hpatience : 0 < patience) (p : Progress ε) :
    ∃ answer calls, ((drive f stream tag patience).run p).2.events =
      p.events ++ ((.decode { stream, tag } answer :: calls).map
        (Engine.Event.mk f.engineIndex)).toArray := by
  obtain ⟨rounds, rfl⟩ : ∃ rounds, patience = rounds + 1 :=
    ⟨patience - 1, (Nat.succ_pred_eq_of_pos hpatience).symm⟩
  let s : Surroundings ε := .unruly p.memories.size
  have hfit : s.Fit f := Surroundings.fit_unruly _ f
  rcases hcall : (Engine.decode { stream, tag } : Engine.Act ε Engine.Output) p.engine
    with ⟨answer, engine⟩
  let respondTo : RunM ε (List ReadyPicture) := do
    let output ← Action.ofFaulting answer
    let reached ← Action.ofFaulting (checkedWord 64 (0 + output.consumed))
    respond f (rounds + 1)
      (driveFrom f stream tag (rounds + 1) rounds (min reached stream.length)) [] output.status
  -- what is done about the answer is told by further calls
  have hrespond : Does s f [] respondTo fun _ _ => True := by
    refine Does.ofFaulting_bind ?_ fun cause _ => .outside trivial
    intro output _
    refine Does.ofFaulting_bind ?_ fun cause _ => .outside trivial
    intro reached hreached
    obtain ⟨-, rfl⟩ := checkedWord_eq_ok.1 hreached
    refine (@respond_does _ _ s f hfit (rounds + 1) 0 stream tag output [] _ ?_ []).mono
      fun _ _ _ => trivial
    intro more ready _
    have hgoOn := driveFrom_does hfit stream tag (rounds + 1) rounds
      [.decode { stream, tag } (.ok output)] ready
    rw [show Engine.passed [.decode { stream, tag } (.ok output)] = 0 + output.consumed from
      Nat.add_comm _ _] at hgoOn
    exact hgoOn.rebase _
  let noted : Progress ε := { p with
    engine
    events := p.events.push ⟨f.engineIndex, .decode { stream, tag } answer⟩ }
  obtain ⟨calls, hadv, -, -⟩ := hrespond noted ⟨trivial, rfl⟩
  have hdecode : (callEngine (Engine.decode { stream, tag }) : RunM ε _).run p =
      (.ok answer, { p with engine }) := by
    change (Except.ok ((Engine.decode { stream, tag } : Engine.Act ε Engine.Output) p.engine).1,
      ({ p with engine := (Engine.decode { stream, tag } p.engine).2 } : Progress ε)) = _
    rw [hcall]
  have hrun : (drive f stream tag (rounds + 1)).run p = respondTo.run noted := by
    rw [drive, driveFrom_succ]
    exact Action.run_bind_ok hdecode
  refine ⟨answer, calls, ?_⟩
  rw [hrun, hadv.events]
  simp [noted]

/-- A file that can be written to holds what it held before and then the stream. Nothing is written
where there is no such file. -/
theorem Dump.append_cases (dump : Dump) (stream : Bytes) :
    (∀ before, dump = .file before →
      (dump.append stream).contents? = some (before.getD #[] ++ stream)) ∧
    ((∀ before, dump ≠ .file before) → dump.append stream = dump) := by
  cases dump with
  | off => exact ⟨by rintro _ ⟨⟩, fun _ => rfl⟩
  | unwritable => exact ⟨by rintro _ ⟨⟩, fun _ => rfl⟩
  | file contents =>
    refine ⟨?_, fun hnone => absurd rfl (hnone contents)⟩
    rintro before ⟨⟩
    rfl

/-- **A submission gives the engine its stream first, and appends it to the dump.** -/
theorem Decoder.submit_decodes (d : Decoder ε) {patience : Nat} (hpatience : 0 < patience)
    (owned : SurfaceRef → Bool) (shared : Shared) (target : SurfaceRef) (work : Work)
    (stream : Bytes) :
    (d.submit patience owned shared target work stream).2.2.dump = shared.dump.append stream ∧
      ∃ answer calls, (d.submit patience owned shared target work stream).2.2.events =
        shared.events ++ ((.decode { stream, tag := d.tag } answer :: calls).map
          (Engine.Event.mk d.engineIndex)).toArray :=
  ⟨rfl, drive_decodes (d.flight target owned shared.surfaces) stream d.tag hpatience
    { engine := d.engine, memories := shared.memories, events := shared.events }⟩

end FirstCall

end AvcDriver.Session
