import AvcDriver.Proofs.Driver.Gray
import AvcDriver.Proofs.Header.Length
import AvcDriver.Proofs.Record.Picture
import AvcDriver.Proofs.Record.Slice
import AvcDriver.Tool.Run

/-!
# Frames of a run

A run decodes its frames one after the other into one surface. For each of them it makes three
buffers, which get the first three handles again, and destroys them when the picture has ended. So
between two frames the driver is as it was, but for the picture on the surface and the stream that
has been written.

* `request_run`: a request that is answered.
* `createBuffers_run`, `destroyBuffers_run`: the buffers of a picture, from none to none.
* `Job.Ready`, `Job.Ready.stream_eq`: what is submitted for a frame.
* `Shaded`, `shaded_flat`: a surface that is all of one shade, as a flat picture leaves it.
* `Job.dumpAfter`: what has been written after some frames.
* `Between`: the driver between two frames.
* `decodePicture_run`, `decodeFrames_run`: one frame, and all of them.
-/

namespace AvcDriver.Tool

open AvcDriver.Action (run_bind_ok run_get_bind)
open Engine (Gray)
open Engine.Gray (Fits)
open Memory (Place)
open Session (Dump Work StoredAs contentsOf recordsOf)

variable {p : Progress} {α : Type}

/-! ## Requests of a run -/

/-- A request that is answered changes the driver only. -/
theorem request_run {r : DriverM Gray α} {a : α} {d : Driver Gray}
    (h : r.run p.driver = (.ok a, d)) : (request r).run p = (.ok a, { p with driver := d }) := by
  rw [request, run_get_bind, h]
  rfl

/-! ## Buffers of a picture -/

/-- A buffer of the context. -/
def ownBuffer (id : Nat) (kind : BufferKind) (bytes : Bytes) : Buffer where
  id
  context := some 0
  kind
  memory := .ofBlock (.ofBytes bytes)

theorem bytes_ownBuffer (id : Nat) (kind : BufferKind) (bytes : Bytes) :
    (ownBuffer id kind bytes).bytes = bytes := Memory.toBytes_ofBytes bytes

/-- The buffers of a picture of one slice. -/
def pictureBuffers (record description slice : Bytes) : List Buffer := [
  ownBuffer 0 .pictureParameter record, ownBuffer 1 .sliceParameter description,
  ownBuffer 2 .sliceData slice]

/-- What the handles of these buffers name. -/
def pictureItems (first : Nat) : List (BufferRef × BufferKind) := [
  (⟨first⟩, .pictureParameter), (⟨first + 1⟩, .sliceParameter), (⟨first + 2⟩, .sliceData)]

/-- A driver with the buffers of one picture and no others. -/
def withPicture (d : Driver Gray) (record description slice : Bytes) : Driver Gray :=
  let first := d.bufferStore.size
  { d with
    buffers := { live := [(2, ⟨first + 2⟩), (1, ⟨first + 1⟩), (0, ⟨first⟩)], next := 3 }
    bufferStore := d.bufferStore ++ (pictureBuffers record description slice).toArray }

/-- The buffers of a picture get the first handles. -/
theorem createBuffers_run {c : Context Gray} (hcontext : p.driver.contexts.find? 0 = some c)
    (hbuffers : p.driver.buffers = .empty) {record description slice : Bytes}
    (hrecord : record.length < UInt64.size) (hdescription : description.length < UInt64.size)
    (hslice : slice.length < UInt64.size) :
    ∃ p₁ p₂, (createBuffer 0 .pictureParameter record).run p = (.ok 0, p₁) ∧
      (createBuffer 0 .sliceParameter description).run p₁ = (.ok 1, p₂) ∧
      (createBuffer 0 .sliceData slice).run p₂ =
        (.ok 2, { p with driver := withPicture p.driver record description slice }) := by
  let d₁ := p.driver.withBuffer 0 { reserved := [0], next := 1 }
    (ownBuffer 0 .pictureParameter record)
  let d₂ := d₁.withBuffer 1 { d₁.buffers with reserved := [1], next := 2 }
    (ownBuffer 1 .sliceParameter description)
  have hfirst : d₁.bufferStore.size = p.driver.bufferStore.size + 1 := Array.size_push _
  have hsecond : d₂.bufferStore.size = p.driver.bufferStore.size + 2 :=
    (Array.size_push _).trans (congrArg (· + 1) hfirst)
  have hlast : d₂.withBuffer 2 { d₂.buffers with reserved := [2], next := 3 }
      (ownBuffer 2 .sliceData slice) = withPicture p.driver record description slice := by
    rw [withPicture, ← hsecond, ← hfirst]
    rfl
  refine ⟨{ p with driver := d₁ }, { p with driver := d₂ }, request_run ?_, request_run ?_, ?_⟩
  · exact Driver.createBuffer_run hcontext (by rw [hbuffers]; rfl) .pictureParameter hrecord
  · exact Driver.createBuffer_run (d := d₁) hcontext rfl .sliceParameter hdescription
  · rw [← hlast]
    exact request_run (Driver.createBuffer_run (d := d₂) hcontext rfl .sliceData hslice)

section WithPicture

variable (d : Driver Gray) (record description slice : Bytes)

/-- The buffers of a picture are behind all others. -/
theorem getElem?_withPicture (i : Nat) :
    (withPicture d record description slice).bufferStore[d.bufferStore.size + i]? =
      (pictureBuffers record description slice)[i]? := by
  rw [withPicture, Array.getElem?_append_right (Nat.le_add_right _ _), Nat.add_sub_cancel_left,
    List.getElem?_toArray]

theorem storedAs_withPicture : StoredAs (withPicture d record description slice).bufferStore
    (pictureItems d.bufferStore.size) (pictureBuffers record description slice) := by
  have hfound := getElem?_withPicture d record description slice
  exact .cons ⟨hfound 0, rfl⟩ (.cons ⟨hfound 1, rfl⟩ (.cons ⟨hfound 2, rfl⟩ .nil))

theorem named_withPicture : [0, 1, 2].mapM (withPicture d record description slice).named =
    .ok (pictureItems d.bufferStore.size) :=
  Driver.named_of_storedAs (storedAs_withPicture d record description slice) rfl

/-- The buffers of a picture are destroyed one after the other. -/
theorem destroyBuffers_run {d' : Driver Gray}
    (hstore : d'.bufferStore = (withPicture d record description slice).bufferStore) :
    ([0, 1, 2].forM fun buffer => request (Driver.destroyBuffer buffer)).run { p with
        driver := { d' with buffers := (withPicture d record description slice).buffers } } =
      (.ok (), { p with driver := { d' with buffers := .empty } }) := by
  let first := d.bufferStore.size
  have howned (buffers : Handle.Table BufferRef) {i : Nat} (hlt : i < 3) :
      ({ d' with buffers } : Driver Gray).isOwned ⟨first + i⟩ = true := by
    rw [Driver.isOwned]
    change (d'.bufferStore[first + i]?).any _ = true
    rw [hstore, getElem?_withPicture]
    obtain rfl | rfl | rfl : i = 0 ∨ i = 1 ∨ i = 2 := by omega
    · rfl
    · rfl
    · rfl
  let two : Handle.Table BufferRef := { live := [(2, ⟨first + 2⟩), (1, ⟨first + 1⟩)], next := 0 }
  let one : Handle.Table BufferRef := { live := [(2, ⟨first + 2⟩)], next := 0 }
  have hzeroth : (Driver.destroyBuffer 0).run { d' with
      buffers := (withPicture d record description slice).buffers } =
        (.ok (), { d' with buffers := two }) :=
    Driver.destroyBuffer_run_owned rfl (howned _ (show 0 < 3 by decide))
  have hfirst : (Driver.destroyBuffer 1).run { d' with buffers := two } =
      (.ok (), { d' with buffers := one }) :=
    Driver.destroyBuffer_run_owned rfl (howned _ (show 1 < 3 by decide))
  have hsecond : (Driver.destroyBuffer 2).run { d' with buffers := one } =
      (.ok (), { d' with buffers := .empty }) :=
    Driver.destroyBuffer_run_owned rfl (howned _ (show 2 < 3 by decide))
  refine (run_bind_ok (request_run hzeroth)).trans ?_
  refine (run_bind_ok (request_run hfirst)).trans ?_
  exact run_bind_ok (request_run hsecond)

end WithPicture

/-! ## Streams -/

/-- What is written for a frame. -/
def Job.streamOf (job : Job) (sets : List Bytes) (frame : Nat) : Bytes :=
  Nal.Stream.join ((if frame = 0 then sets else []) ++ [job.sliceOf frame])

/-- What is written for the first frames. -/
def Job.streamBefore (job : Job) (sets : List Bytes) (frames : Nat) : Bytes :=
  if frames = 0 then [] else Nal.Stream.join (sets ++ (List.range frames).map job.sliceOf)

theorem Job.streamBefore_succ (job : Job) (sets : List Bytes) (frames : Nat) :
    job.streamBefore sets (frames + 1) =
      job.streamBefore sets frames ++ job.streamOf sets frames := by
  rw [streamBefore, if_neg (Nat.succ_ne_zero frames), List.range_succ, List.map_append,
    List.map_singleton, streamBefore, streamOf]
  split
  · next hzero =>
    rw [hzero]
    rfl
  · rw [List.nil_append, ← List.append_assoc, Nal.Stream.join_append]

/-- Where the streams of the first frames have been appended to. -/
def Job.dumpAfter (job : Job) (sets : List Bytes) (dump : Dump) (frames : Nat) : Dump :=
  ((List.range frames).map (job.streamOf sets)).foldl Dump.append dump

theorem Job.dumpAfter_succ (job : Job) (sets : List Bytes) (dump : Dump) (frames : Nat) :
    job.dumpAfter sets dump (frames + 1) =
      (job.dumpAfter sets dump frames).append (job.streamOf sets frames) := by
  rw [dumpAfter, List.range_succ, List.map_append, List.foldl_append]
  rfl

theorem Job.dumpAfter_off (job : Job) (sets : List Bytes) (frames : Nat) :
    job.dumpAfter sets .off frames = .off := by
  induction frames with
  | zero => rfl
  | succ frames ih =>
    rw [dumpAfter_succ, ih]
    rfl

/-- A file that was empty holds what was written, and nothing else. -/
theorem Job.dumpAfter_empty (job : Job) (sets : List Bytes) (frames : Nat) :
    job.dumpAfter sets (.file (some #[])) frames =
      .file (some (job.streamBefore sets frames).toArray) := by
  induction frames with
  | zero => rfl
  | succ frames ih =>
    rw [dumpAfter_succ, ih, streamBefore_succ]
    simp [Dump.append]

/-- What the records, the parameter sets and the slice of a job have to be like for its frames to be
decoded. -/
structure Job.Ready (job : Job) (coded : Header.Profile) (sets : List Bytes) : Prop where
  fits : Fits job.arguments.width job.arguments.height
  inRange : job.record.InRange
  orderCount : job.record.sequence.picOrderCntType ≠ 1
  sets : Header.headerBytes coded job.record
    { width := job.arguments.width, height := job.arguments.height } = .ok (Nal.Stream.join sets)
  slice : ∀ bytes ∈ job.slice, bytes.length ≤ Memory.maxSize

section Ready

variable {job : Job} {coded : Header.Profile} {sets : List Bytes}

theorem recordsOf_pictureBuffers {record : Record.Picture} (h : record.InRange)
    (description : Record.Slice) (slice : Bytes) :
    recordsOf (pictureBuffers record.encode description.encode slice) =
      .ok (record, description) := by
  have hpicture : contentsOf .pictureParameter
      (pictureBuffers record.encode description.encode slice) = [record.encode] :=
    congrArg ([·]) (bytes_ownBuffer 0 .pictureParameter _)
  have hslice : contentsOf .sliceParameter
      (pictureBuffers record.encode description.encode slice) = [description.encode] :=
    congrArg ([·]) (bytes_ownBuffer 1 .sliceParameter _)
  have hparse := Record.Picture.parse_encode_append record []
  have hparse' := Record.Slice.parse_encode_append description []
  rw [List.append_nil] at hparse hparse'
  rw [Record.Picture.cut_eq_self_iff.2 h] at hparse
  exact Session.recordsOf_singletons hpicture hslice hparse hparse'

theorem Job.Ready.length_sliceOf_le (h : job.Ready coded sets) (frame : Nat) :
    (job.sliceOf frame).length ≤ Memory.maxSize := by
  rw [sliceOf]
  rcases hslice : job.slice with _ | bytes
  · exact (by decide : 7 ≤ Memory.maxSize)
  · exact h.slice bytes hslice

/-- What is submitted for a frame. -/
theorem Job.Ready.stream_eq (h : job.Ready coded sets) (frame first : Nat) {dataSize : UInt32}
    {store : BufferStore} (hstored : StoredAs store (pictureItems first) (pictureBuffers
      job.record.encode (Record.Slice.wholePicture (sliceTypeOf frame) dataSize).encode
        (job.sliceOf frame))) :
    (Work.ofBuffers (pictureItems first)).stream store coded
        { width := job.arguments.width, height := job.arguments.height } =
      .ok (job.streamOf sets frame) := by
  have hrecords := recordsOf_pictureBuffers h.inRange
    (Record.Slice.wholePicture (sliceTypeOf frame) dataSize) (job.sliceOf frame)
  have hslice : contentsOf .sliceData (pictureBuffers job.record.encode
      (Record.Slice.wholePicture (sliceTypeOf frame) dataSize).encode (job.sliceOf frame)) =
        [job.sliceOf frame] := congrArg ([·]) (bytes_ownBuffer 2 .sliceData _)
  generalize pictureBuffers _ _ _ = buffers at hstored hrecords hslice
  have hstream := Work.stream_ofBuffers hstored coded
    { width := job.arguments.width, height := job.arguments.height }
  rw [hrecords] at hstream
  obtain ⟨written, hwritten, hstream⟩ := hstream fun _ => h.orderCount
  -- the sets that were written are those of the job, as both are the bytes of one header
  have hsets : Nal.Stream.join written = Nal.Stream.join (if frame = 0 then sets else []) := by
    by_cases hzero : frame = 0
    · have hintra : (Record.Slice.wholePicture (sliceTypeOf frame) dataSize).sliceType.isIntra =
          true := by
        rw [sliceTypeOf, if_pos hzero]
        rfl
      rw [Session.SetsOf, if_pos hintra] at hwritten
      obtain ⟨-, -, -, hheader⟩ := hwritten
      rw [if_pos hzero]
      exact Except.ok.inj (hheader.symm.trans h.sets)
    · have hpredicted : ¬ (Record.Slice.wholePicture (sliceTypeOf frame)
          dataSize).sliceType.isIntra = true := by
        rw [sliceTypeOf, if_neg hzero]
        exact Bool.false_ne_true
      rw [Session.SetsOf, if_neg hpredicted] at hwritten
      rw [hwritten, if_neg hzero]
  rw [hstream, hslice, streamOf, Nal.Stream.join_append, Nal.Stream.join_append, hsets]

theorem Job.streamOf_ne_nil (job : Job) (sets : List Bytes) (frame : Nat) :
    job.streamOf sets frame ≠ [] := by
  rw [streamOf, Nal.Stream.join_append]
  exact List.append_ne_nil_of_right_ne_nil _ (List.cons_ne_nil _ _)

theorem Job.Ready.length_streamOf_lt (h : job.Ready coded sets) (frame : Nat) :
    (job.streamOf sets frame).length < 2 ^ 64 := by
  have hslice := h.length_sliceOf_le frame
  have hheader := Header.length_headerBytes_le h.orderCount h.sets
  have hsets : (Nal.Stream.join (if frame = 0 then sets else [])).length ≤ 1024 := by
    split
    · exact hheader
    · exact Nat.zero_le _
  have hmax : Memory.maxSize = 2 ^ 63 - 1 := rfl
  rw [streamOf, Nal.Stream.join_append, List.length_append, Nal.Stream.length_join_cons]
  rw [show (Nal.Stream.join []).length = 0 from rfl]
  omega

end Ready

/-! ## Frames -/

/-- The luma of a surface after some frames: it is black until there is one. -/
def shadeAfter (frames : Nat) : UInt8 := if frames = 0 then 0 else Gray.level

theorem shadeAfter_succ (frames : Nat) : shadeAfter (frames + 1) = Gray.level :=
  if_neg (Nat.succ_ne_zero frames)

/-- Two planes hold a picture whose luma is all of one shade. -/
def Shaded (luma chroma : Place) (store : MemoryStore) (width height : Nat) (shade : UInt8) :
    Prop :=
  ∃ picture, Surface.Shows luma chroma store picture width height ∧
    ∀ y < height, ∀ x < width, picture.luma.byte (y * picture.lumaStride + x) = shade

/-- Memory of zeros is black. -/
theorem shaded_zero {luma chroma : Place} {store : MemoryStore}
    (hluma : ∀ address, store.byte luma.memory address = 0)
    (hchroma : ∀ address, store.byte chroma.memory address = 0) (width height : Nat) :
    Shaded luma chroma store width height 0 := by
  let black : Engine.Picture := {
    tag := 0
    width := 0
    height := 0
    luma := .zeros 0
    lumaStride := 0
    chroma := .zeros 0
    chromaStride := 0 }
  refine ⟨black, ⟨fun y _ x _ => ?_, fun y _ x _ => ?_⟩, fun y _ x _ => Memory.byte_zeros _ _⟩
  · exact (hluma _).trans (Memory.byte_zeros _ _).symm
  · exact (hchroma _).trans (Memory.byte_zeros _ _).symm

/-- A surface for the pictures of a size. -/
structure Receives (s : Surface) (width height : UInt32) (luma chroma : Place) : Prop where
  width : s.width = width
  height : s.height = height
  fourcc : s.fourcc = fourccNv12
  opens : s.Opens
  roomy : s.Roomy luma chroma

/-- The driver of a job some of whose frames have been decoded. It has one configuration, one
surface and one context, and no buffers. -/
structure Between (job : Job) (coded : Header.Profile) (sets : List Bytes) (dump : Dump)
    (s : Surface) (luma chroma : Place) (frames : Nat) (d : Driver Gray) : Prop where
  patience : d.settings.patience = UInt32.size
  configs : ∃ config, d.configs.find? 0 = some config
  surfaces : d.surfaces.find? 0 = some ⟨0⟩
  surfaceStore : d.surfaceStore = #[s]
  buffers : d.buffers = .empty
  images : d.images = .empty
  context : ∃ c session, d.contexts.find? 0 = some c ∧ c.session = .decoder session ∧
    session.Awaits job.arguments.width job.arguments.height coded
  placed : s.Placed d.memories.size
  housed : s.Housed d.memories
  shaded : Shaded luma chroma d.memories job.arguments.width.toNat job.arguments.height.toNat
    (shadeAfter frames)
  dump : d.dump = job.dumpAfter sets dump frames

section Frames

variable {job : Job} {coded : Header.Profile} {sets : List Bytes} {dump : Dump} {s : Surface}
  {luma chroma : Place} {frame : Nat}

/-- A flat picture is gray all over. -/
theorem byte_flat {width height : UInt32} (tag : UInt32) {x y : Nat} (hx : x < width.toNat)
    (hy : y < height.toNat) : (Engine.Gray.flat width height tag).luma.byte
      (y * (Engine.Gray.flat width height tag).lumaStride + x) = Gray.level := by
  refine Memory.byte_filled Gray.level ?_
  calc y * roundUpEven width.toNat + x < y * roundUpEven width.toNat + roundUpEven width.toNat :=
        Nat.add_lt_add_left (Nat.lt_of_lt_of_le hx (le_roundUpEven _)) _
    _ = (y + 1) * roundUpEven width.toNat := (Nat.succ_mul _ _).symm
    _ ≤ height.toNat * roundUpEven width.toNat := Nat.mul_le_mul_right _ hy
    _ = roundUpEven width.toNat * height.toNat := Nat.mul_comm _ _

/-- A flat picture leaves a surface of its size gray. -/
theorem shaded_flat {width height : UInt32} (hreceives : Receives s width height luma chroma)
    {store : MemoryStore} (hplaced : s.Placed store.size) (hhoused : s.Housed store)
    (tag : UInt32) :
    let store' := Session.copyInto (some s) store (Engine.Gray.flat width height tag)
    s.Placed store'.size ∧ s.Housed store' ∧
      Shaded luma chroma store' width.toNat height.toNat Gray.level := by
  intro store'
  let picture := Engine.Gray.flat width height tag
  obtain ⟨written, hwrite⟩ := Surface.write_ok hreceives.opens hplaced picture
  obtain rfl : written = store' := by simp only [store', picture, Session.copyInto, hwrite]
  have hwidth : width.toNat = min width.toNat s.width.toNat := by
    rw [hreceives.width, Nat.min_self]
  have hheight : height.toNat = min height.toNat s.height.toNat := by
    rw [hreceives.height, Nat.min_self]
  have hluma : (picture.luma.whole picture.lumaStride).Reaches width.toNat height.toNat :=
    Memory.Window.reaches_of_size (Memory.size_filled _ _) (le_roundUpEven _)
  have hchroma : (picture.chroma.whole picture.chromaStride).Reaches (roundUpEven width.toNat)
      (halfUp height.toNat) :=
    Memory.Window.reaches_of_size (Memory.size_filled _ _) (Nat.le_refl _)
  exact ⟨(Surface.size_write hwrite).symm ▸ hplaced, hhoused.mono (Surface.sameSizes_write hwrite),
    picture, Surface.write_shows hreceives.roomy hhoused hreceives.fourcc hwidth hheight hluma
      hchroma hwrite, fun y hy x hx => byte_flat tag hx hy⟩

/-- Telling what is ready leaves the driver. -/
theorem tellReady_run (frame : Nat) (ready : List Session.ReadyPicture) :
    ∀ p : Progress, ∃ p', (ready.forM fun picture => tell (.pictureReady frame picture)).run p =
      (.ok (), p') ∧ p'.driver = p.driver := by
  induction ready with
  | nil => exact fun p => ⟨p, rfl, rfl⟩
  | cons picture rest ih =>
    intro p
    obtain ⟨p', hrest, hdriver⟩ := ih { p with log := p.log.push (.pictureReady frame picture) }
    exact ⟨p', hrest, hdriver⟩

/-- **One frame**: its stream is written, its picture comes out gray, and its buffers are gone. -/
theorem decodePicture_run (hready : job.Ready coded sets)
    (hreceives : Receives s job.arguments.width job.arguments.height luma chroma)
    (h : Between job coded sets dump s luma chroma frame p.driver) :
    ∃ ready p', (decodePicture 0 0 job.record (sliceTypeOf frame) (job.sliceOf frame)).run p =
        (.ok ready, p') ∧
      Between job coded sets dump s luma chroma (frame + 1) p'.driver := by
  let description := Record.Slice.wholePicture (sliceTypeOf frame)
    (UInt32.ofNat (job.sliceOf frame).length)
  obtain ⟨c, session, hfind, hsession, hawaits⟩ := h.context
  have hrecordLength : job.record.encode.length < UInt64.size := by
    rw [Record.Picture.length_encode]
    decide
  have hdescriptionLength : description.encode.length < UInt64.size := by
    rw [Record.Slice.length_encode]
    decide
  have hsliceLength : (job.sliceOf frame).length < UInt64.size :=
    Nat.lt_of_le_of_lt (hready.length_sliceOf_le frame) (by decide)
  obtain ⟨p₁, p₂, hrecord, hdescription, hslice⟩ :=
    createBuffers_run hfind h.buffers hrecordLength hdescriptionLength hsliceLength
  let made := withPicture p.driver job.record.encode description.encode (job.sliceOf frame)
  have hsurface : made.surfaceStore[0]? = some s := by
    change p.driver.surfaceStore[0]? = some s
    rw [h.surfaceStore]
    rfl
  have hplaced : ∀ s ∈ made.surfaceStore, s.Placed made.memories.size := by
    change ∀ s ∈ p.driver.surfaceStore, s.Placed p.driver.memories.size
    rw [h.surfaceStore]
    simpa using h.placed
  have hpatience : 3 ≤ made.settings.patience := by
    change 3 ≤ p.driver.settings.patience
    rw [h.patience]
    decide
  obtain ⟨begun, rendered, contexts, events, session', hbegin, hrender, hend, hfind', hawaits'⟩ :=
    Driver.turn_gray (d := made) hready.fits hfind hsession hawaits hpatience h.surfaces hsurface
      hplaced (named_withPicture p.driver _ _ _)
      (hready.stream_eq frame _ (storedAs_withPicture p.driver _ _ _))
      (job.streamOf_ne_nil sets frame) (hready.length_streamOf_lt frame)
  let ended : Driver Gray := { made with
    contexts
    memories := Session.copyInto (some s) made.memories
      (Engine.Gray.flat job.arguments.width job.arguments.height session.tag)
    dump := made.dump.append (job.streamOf sets frame)
    events }
  have hdestroy := destroyBuffers_run (p := p) p.driver job.record.encode description.encode
    (job.sliceOf frame) (show ended.bufferStore = made.bufferStore from rfl)
  let picture : Session.ReadyPicture := {
    tag := session.tag
    surface := some s.id
    width := job.arguments.width
    height := job.arguments.height }
  have hcatch (handle : Failure Error → RunM (List Session.ReadyPicture)) :
      (tryCatch (request (Driver.endPicture 0)) handle).run { p with driver := rendered } =
        (.ok [picture], { p with driver := ended }) := by
    rw [Action.run_tryCatch, request_run hend]
  refine ⟨[picture], { p with driver := { ended with buffers := .empty } }, ?_, ?_⟩
  · rw [decodePicture, run_bind_ok hrecord, run_bind_ok hdescription, run_bind_ok hslice,
      run_bind_ok (request_run hbegin), run_bind_ok (request_run hrender)]
    exact (run_bind_ok (hcatch _)).trans (run_bind_ok hdestroy)
  · obtain ⟨hplaced', hhoused', hshaded'⟩ :=
      shaded_flat hreceives h.placed h.housed session.tag
    exact { h with
      buffers := rfl
      context := ⟨_, session', hfind', rfl, hawaits'⟩
      placed := hplaced'
      housed := hhoused'
      shaded := by
        rw [shadeAfter_succ]
        exact hshaded'
      dump := by
        rw [job.dumpAfter_succ, ← h.dump]
        rfl }

/-- **All frames**, by induction on how many are left. -/
theorem decodeFrames_run (hready : job.Ready coded sets)
    (hreceives : Receives s job.arguments.width job.arguments.height luma chroma) (count : Nat) :
    ∀ {frame : Nat} {p : Progress}, Between job coded sets dump s luma chroma frame p.driver →
      ∃ p', (decodeFrames job 0 0 frame count).run p = (.ok (), p') ∧
        Between job coded sets dump s luma chroma (frame + count) p'.driver := by
  induction count with
  | zero => exact fun {_ p} h => ⟨p, rfl, h⟩
  | succ count ih =>
    intro frame p h
    obtain ⟨ready, decoded, hdecode, hdecoded⟩ := decodePicture_run hready hreceives h
    obtain ⟨told, htell, hdriver⟩ := tellReady_run frame ready decoded
    obtain ⟨p', hrest, hend⟩ := @ih (frame + 1) told (hdriver ▸ hdecoded)
    refine ⟨p', ?_, ?_⟩
    · rw [decodeFrames, run_bind_ok hdecode, run_bind_ok htell, hrest]
    · rwa [Nat.add_right_comm, Nat.add_assoc frame] at hend

end Frames

end AvcDriver.Tool
