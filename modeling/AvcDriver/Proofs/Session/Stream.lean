import AvcDriver.Proofs.Action
import AvcDriver.Proofs.Header.ReadBack
import AvcDriver.Session.Stream

/-!
# The stream of a submission, byte by byte

Whatever the buffers of a submission hold, its stream is made or rejected; the one thing that
stops it is an intra picture of order count type 1, for which no parameter set can be
written. The stream consists of the parameter sets, if the picture is intra, and the slices as
they are.

* `Work.write_eq_of_predicted`, `Work.write_eq_of_intra`: the bytes of the stream.
* `Work.stream_settles`: every submission but such a picture is made or rejected.
* `Work.stream_faults`: such a picture stops.
-/

namespace AvcDriver.Session.Work

open Header (parameterSetRefIdc setUnit)
open Nal (Writer pack startCode)

variable {work : Work} {buffers : BufferStore} {profile : Header.Profile}
  {options : Header.Options} {picture : Record.Picture} {slice : Record.Slice}

/-! ## Buffers -/

/-- The buffers that a submission uses. -/
def refs (work : Work) : List BufferRef :=
  work.pictureParameters.toList ++ work.iqMatrix.toList ++ work.sliceParameters ++ work.sliceData

/-- What a buffer holds. -/
def contents (buffers : BufferStore) (ref : BufferRef) : Bytes :=
  (buffers[ref.index]?).elim [] Buffer.bytes

theorem contents_eq {ref : BufferRef} (memory : Memory)
    (h : (buffers[ref.index]?).map Buffer.memory = some memory) :
    contents buffers ref = memory.toBytes := by
  obtain ⟨buffer, hbuffer, rfl⟩ := Option.map_eq_some_iff.1 h
  rw [contents, hbuffer]
  rfl

theorem bytesOf_eq {ref : BufferRef} (h : ref.index < buffers.size) :
    bytesOf buffers ref = .ok (contents buffers ref) := by
  rw [bytesOf, contents, Array.getElem?_eq_getElem h]
  rfl

/-- The records are those of the last picture parameters and the first slice parameters. -/
theorem records_eq (h : ∀ ref ∈ work.refs, ref.index < buffers.size)
    (pictureRef : BufferRef) (hpicture : work.pictureParameters = some pictureRef)
    (sliceRef : BufferRef) {rest : List BufferRef}
    (hslices : work.sliceParameters = sliceRef :: rest) :
    work.records buffers =
      (do
        let picture ← Record.Picture.parse (contents buffers pictureRef)
        let slice ← Record.Slice.parse (contents buffers sliceRef)
        pure (picture, slice)).mapError fun error => .rejected (.malformedParameters error) := by
  have hpictureRef : pictureRef.index < buffers.size := by
    apply h
    simp [refs, hpicture]
  have hsliceRef : sliceRef.index < buffers.size := by
    apply h
    simp [refs, hslices]
  simp only [records, hpicture, hslices, bytesOf_eq hpictureRef, bytesOf_eq hsliceRef,
    mapError_ok, ok_bind]
  rcases Record.Picture.parse (contents buffers pictureRef) with _ | picture
  · rfl
  · rcases Record.Slice.parse (contents buffers sliceRef) with _ | slice <;> rfl

/-- Records are read from buffers that are there, or what is missing or malformed is told. -/
theorem records_never_fault (h : ∀ ref ∈ work.refs, ref.index < buffers.size) (cause : Fault) :
    work.records buffers ≠ .error (.faulted cause) := by
  rcases hpicture : work.pictureParameters with _ | pictureRef
  · rw [records, hpicture]
    rintro ⟨⟩
  rcases hslices : work.sliceParameters with _ | ⟨sliceRef, rest⟩
  · rw [records, hpicture, hslices]
    rintro ⟨⟩
  rw [records_eq h _ hpicture _ hslices]
  exact rejected_ne_faulted _ _ cause

/-! ## What is written -/

/-- Slices, each behind a start code. -/
def sliceBytes (buffers : BufferStore) (slices : List BufferRef) : Bytes :=
  slices.flatMap fun slice => startCode ++ contents buffers slice

/-- The parameter sets of a picture, each behind a start code. `elements` are those of its
sequence. -/
def setBytes (elements : List Nal.Element) (picture : Record.Picture) : Bytes :=
  startCode ++ setUnit true .sps elements ++ startCode ++
    setUnit true .pps (Header.pictureElements picture)

/-- Slices are appended as they are. -/
theorem appends_slices (slices : List BufferRef)
    (h : ∀ ref ∈ slices, ref.index < buffers.size) :
    Writer.Appends (writeSlices buffers · slices)
      (Nal.Reader.ofBytes (sliceBytes buffers slices)) := by
  induction slices with
  | nil => exact Writer.Appends.nil
  | cons slice rest ih =>
    -- a start code, the slice, and what the rest appends
    have hrest := ih fun ref hmem => h ref (List.mem_cons_of_mem _ hmem)
    have hone := ((Writer.appends_bytes startCode).bind
      (Writer.appends_bytes (contents buffers slice))).bind hrest
    rw [← Nal.Reader.ofBytes_append, ← Nal.Reader.ofBytes_append] at hone
    intro escaping unitOpen base bits w hw
    obtain ⟨w', hw', hholds⟩ := hone escaping unitOpen base bits w hw
    refine ⟨w', ?_, hholds⟩
    rw [← hw']
    simp only [writeSlices, bytesOf_eq (h slice List.mem_cons_self), ok_bind, bind_assoc]

/-- Slices behind what is settled, flushed. -/
theorem writeSlices_settled {settled : Bytes} {w : Writer}
    (hw : w.Keeps true { settled := settled }) {slices : List BufferRef}
    (h : ∀ ref ∈ slices, ref.index < buffers.size) :
    (do let w ← writeSlices buffers w slices; let w ← w.flush; w.bytes : Except Fault Bytes) =
      .ok (settled ++ sliceBytes buffers slices) := by
  obtain ⟨w₁, hw₁, h₁⟩ := appends_slices slices h _ _ _ _ _ hw.holds
  obtain ⟨w₂, hw₂, h₂⟩ := h₁.flush_closed
  have hpack : pack (Nal.Reader.ofBytes (sliceBytes buffers slices)) =
      sliceBytes buffers slices := by
    have hbytes := Nal.pack_ofBytes_append (sliceBytes buffers slices) []
    rwa [List.append_nil, show pack [] = [] from rfl, List.append_nil] at hbytes
  rw [show writeSlices buffers w slices = _ from hw₁, ok_bind, hw₂, ok_bind, h₂.bytes_eq,
    List.nil_append, hpack, List.toArray_appendList]

/-- **A predicted picture's stream** is its slices. -/
theorem write_eq_of_predicted (h : ∀ ref ∈ work.sliceData, ref.index < buffers.size)
    (hslice : slice.sliceType.isIntra = false) :
    work.write buffers profile options picture slice = .ok (sliceBytes buffers work.sliceData) := by
  rw [write, if_neg (by rw [hslice]; decide)]
  exact writeSlices_settled (Writer.keeps_empty true) h

/-- **An intra picture's stream** is its parameter sets and its slices. -/
theorem write_eq_of_intra (profile : Header.Profile) (options : Header.Options)
    (h : ∀ ref ∈ work.sliceData, ref.index < buffers.size)
    (hslice : slice.sliceType.isIntra = true) (hpicture : picture.sequence.picOrderCntType ≠ 1) :
    ∃ elements, Header.sequenceElements profile picture options = .ok elements ∧
      work.write buffers profile options picture slice =
        .ok (setBytes elements picture ++ sliceBytes buffers work.sliceData) := by
  obtain ⟨elements, helements, hspelled⟩ := Header.sequenceSet_spelled profile hpicture options
  obtain ⟨w, hw, hkeeps⟩ :=
    Header.keeps_parameterSets (Writer.keeps_empty true) helements hspelled.writable
  refine ⟨elements, helements, ?_⟩
  rw [write, if_pos hslice, writeParameterSets, hw, ok_bind]
  exact writeSlices_settled hkeeps h

/-- The sets of an intra picture of order count type 1 cannot be written. -/
theorem write_faults (hslice : slice.sliceType.isIntra = true)
    (hpicture : picture.sequence.picOrderCntType = 1) :
    work.write buffers profile options picture slice = .error .pictureOrderType := by
  rw [write, if_pos hslice, writeParameterSets,
    Header.writeSequenceSet_faults hpicture profile options]
  rfl

/-! ## Streams -/

/-- An intra picture whose parameter sets cannot be written. -/
def Unwritable (work : Work) (buffers : BufferStore) : Prop :=
  ∃ picture slice, work.records buffers = .ok (picture, slice) ∧
    slice.sliceType.isIntra = true ∧ picture.sequence.picOrderCntType = 1

theorem stream_of_records (h : work.records buffers = .ok (picture, slice)) :
    work.stream buffers profile options =
      (work.write buffers profile options picture slice).mapError .faulted := by
  rw [stream, h]
  rfl

/-- **A picture whose sets cannot be written stops** its submission. -/
theorem stream_faults (h : work.Unwritable buffers) :
    work.stream buffers profile options = .error (.faulted .pictureOrderType) := by
  obtain ⟨picture, slice, hrecords, hslice, hpicture⟩ := h
  rw [stream_of_records hrecords, write_faults hslice hpicture]
  rfl

/-- **All others are made or rejected**, whatever the buffers hold. -/
theorem stream_settles (h : ∀ ref ∈ work.refs, ref.index < buffers.size)
    (hwritable : ¬ work.Unwritable buffers) (cause : Fault) :
    work.stream buffers profile options ≠ .error (.faulted cause) := by
  rcases hrecords : work.records buffers with (error | cause') | ⟨picture, slice⟩
  · rw [stream, hrecords]
    rintro ⟨⟩
  · exact absurd hrecords (records_never_fault h cause')
  · have hslices : ∀ ref ∈ work.sliceData, ref.index < buffers.size :=
      fun ref hmem => h ref (List.mem_append_right _ hmem)
    rw [stream_of_records hrecords]
    by_cases hslice : slice.sliceType.isIntra = true
    · have hpicture : picture.sequence.picOrderCntType ≠ 1 :=
        fun htype => hwritable ⟨picture, slice, hrecords, hslice, htype⟩
      obtain ⟨elements, -, hwrite⟩ :=
        write_eq_of_intra profile options hslices hslice hpicture
      rw [hwrite]
      rintro ⟨⟩
    · rw [write_eq_of_predicted hslices (Bool.eq_false_iff.2 hslice)]
      rintro ⟨⟩

end AvcDriver.Session.Work
