import AvcDriver.Proofs.Header.Cropping
import AvcDriver.Proofs.Tool.Files
import AvcDriver.Proofs.Tool.Frames

/-!
# Runs of the tool

A run makes a configuration, a surface in a memory file of its own and a context, decodes its
frames, downloads the surface, and destroys what it has made. For sizes that surfaces can have none
of this fails, so what comes of a run is known from its arguments and its slice.

* `IsSide`: the sides of such sizes, with the bounds that follow for all words.
* `createTarget_run`, `setUp_run`: what a run makes before its frames.
* `download_shaded`, `downloadTarget_run`: the image that it downloads after them.
* `tidyUp_run`: how it destroys what it has made.
* `execute_eq`: all of a job.
* `run_writes_frames`: what a run writes, and what it downloads.
-/

namespace AvcDriver.Tool

open AvcDriver.Action (run_bind_ok)
open Engine (Gray)
open Engine.Gray (Fits)
open Memory (Place)
open Session (Dump)

variable {p : Progress} {job : Job} {coded : Header.Profile} {sets : List Bytes} {dump : Dump}

/-! ## Sizes -/

/-- The number of pixels of a side is one that surfaces can have. -/
def IsSide (pixels : UInt32) : Prop := 1 ≤ pixels ∧ pixels ≤ maxSurfaceSide

instance (pixels : UInt32) : Decidable (IsSide pixels) := inferInstanceAs (Decidable (_ ∧ _))

namespace IsSide

variable {pixels : UInt32} (h : IsSide pixels)
include h

theorem toNat : 1 ≤ pixels.toNat ∧ pixels.toNat ≤ 4096 := h

theorem ne_zero : pixels ≠ 0 := by
  rintro rfl
  exact absurd h.1 (by decide)

theorem roundUpEven_le : roundUpEven pixels.toNat ≤ 4096 := by
  have hle := h.toNat.2
  rw [roundUpEven]
  omega

theorem halfUp_le : halfUp pixels.toNat ≤ 2048 := by
  have hle := h.toNat.2
  rw [halfUp]
  omega

theorem roundUpMacroblock_le : Gray.roundUpMacroblock pixels.toNat ≤ 4096 := by
  have hle := h.toNat.2
  rw [Gray.roundUpMacroblock]
  omega

/-- The macroblocks of a side cover it. -/
theorem macroblocksMinusOne_eq (side : Side) :
    ∃ blocks : UInt16, macroblocksMinusOne side pixels = .ok blocks ∧
      pixels.toNat ≤ (blocks.toNat + 1) * 16 := by
  obtain ⟨hpos, hle⟩ := h.toNat
  have hblocks : max ((pixels.toNat + 15) / 16) 1 - 1 < UInt16.size := by
    change _ < 65536
    omega
  refine ⟨UInt16.ofNat (max ((pixels.toNat + 15) / 16) 1 - 1), if_pos hblocks, ?_⟩
  rw [UInt16.toNat_ofNat_of_lt' hblocks]
  omega

end IsSide

section Sizes

variable {width height : UInt32} (hwidth : IsSide width) (hheight : IsSide height)
include hwidth hheight

theorem fits_of_isSide : Fits width height where
  wide := hwidth.toNat.1
  high := hheight.toNat.1
  samples := by
    have hle := Nat.mul_le_mul hwidth.roundUpMacroblock_le hheight.roundUpMacroblock_le
    omega

theorem nv12Size_lt : Surface.nv12Size width height < 2 ^ 32 := by
  have hluma := Nat.mul_le_mul hwidth.roundUpEven_le hheight.toNat.2
  have hchroma := Nat.mul_le_mul hwidth.roundUpEven_le hheight.halfUp_le
  rw [Surface.nv12Size]
  omega

theorem dataSize_lt : (Image.Layout.packed width.toNat height.toNat).dataSize < 2 ^ 32 := by
  have hluma := Nat.mul_le_mul hwidth.toNat.2 hheight.toNat.2
  have hchroma := Nat.mul_le_mul hheight.halfUp_le hwidth.roundUpEven_le
  rw [Image.Layout.packed]
  dsimp only
  omega

/-- An image of the size has a layout. -/
theorem ofFormat_eq : Image.Layout.ofFormat .nv12 width height =
    .ok (Image.Layout.packed width.toNat height.toNat) := by
  have hluma := Nat.mul_le_mul hwidth.toNat.2 hheight.toNat.2
  have hwide := hwidth.toNat.2
  have hmaxSide {pixels : UInt32} (h : IsSide pixels) : pixels ≤ Image.Layout.maxSide :=
    UInt32.le_trans h.2 (by decide)
  have hfits : Image.Layout.Fits width.toNat height.toNat := by
    change width.toNat * height.toNat * 3 / 2 + width.toNat < 2 ^ 32 - 1
    omega
  have hadmitted : Image.Layout.Admitted .nv12 width height :=
    ⟨rfl, ⟨UInt32.pos_iff_ne_zero.2 hwidth.ne_zero, UInt32.pos_iff_ne_zero.2 hheight.ne_zero⟩,
      ⟨hmaxSide hwidth, hmaxSide hheight⟩, hfits⟩
  rw [Image.Layout.ofFormat_of_admitted hadmitted]
  exact if_pos (dataSize_lt hwidth hheight)

/-- The record of a size is written whole, and its frames show the size rounded up to even. -/
theorem pictureParameters_eq : ∃ record, pictureParameters width height = .ok record ∧
    record.InRange ∧ record.sequence.picOrderCntType ≠ 1 ∧
    ∀ profile, let set := Header.SequenceSet.ofRecord profile record { width, height }
      set.croppedWidth = roundUpEven width.toNat ∧
        set.croppedHeight = roundUpEven height.toNat := by
  obtain ⟨across, hacross, hwide⟩ := hwidth.macroblocksMinusOne_eq .width
  obtain ⟨down, hdown, hhigh⟩ := hheight.macroblocksMinusOne_eq .height
  have hrange : (4 : UInt8) < 16 ∧ (1 : UInt8) < 4 ∧ (0 : UInt8) < 4 := by decide
  have hhigh' : height.toNat ≤ (down.toNat + 1) * 1 * 16 := by rwa [Nat.mul_one]
  refine ⟨_, bind_eq_ok.2 ⟨across, hacross, bind_eq_ok.2 ⟨down, hdown, rfl⟩⟩,
    ⟨hrange.2.1, hrange.1, hrange.2.2, hrange.1, hrange.2.2⟩,
    show (0 : UInt8) ≠ 1 by decide, fun profile => ?_⟩
  exact Header.cropped_of_progressive profile rfl rfl (Nat.ne_of_gt hwidth.toNat.1)
    (Nat.ne_of_gt hheight.toNat.1) hwide hhigh'

end Sizes

/-! ## Preparing -/

/-- Files that a run can do with: the slice is read, if one is named, and the output file is made.
What is read fits memory. -/
structure Files.Serve (files : Files) (arguments : Arguments) (slice : Option Bytes) : Prop where
  read : arguments.slice.map files.read = slice.map .ok
  slice_ne_nil : slice ≠ some []
  length_slice_le : ∀ bytes ∈ slice, bytes.length ≤ Memory.maxSize
  create : ∀ path ∈ arguments.out, ∃ readAfter, files.create path = .ok readAfter

section Preparing

variable {arguments : Arguments} {files : Files} {slice : Option Bytes}

theorem sliceFrom_ok (path : String) {bytes : Bytes} (h : bytes ≠ []) :
    sliceFrom path (.ok bytes) = .ok bytes := by
  cases bytes with
  | nil => exact absurd rfl h
  | cons => rfl

/-- A run whose files serve comes to its job, if its output file can be made. -/
theorem run_eq_execute (hfiles : files.Serve arguments slice) {record : Record.Picture}
    (hrecord : pictureParameters arguments.width arguments.height = .ok record)
    (hdump : arguments.createOut files = .ok dump) :
    arguments.run files = Job.execute { arguments, record, slice } dump := by
  have hprepare : Job.prepare arguments files = .ok { arguments, record, slice } := by
    have hread := hfiles.read
    rw [Job.prepare, hrecord, ok_bind]
    rcases hpath : arguments.slice with _ | path
    · rw [hpath, Option.map_none, eq_comm, Option.map_eq_none_iff] at hread
      rw [hread]
      rfl
    · rw [hpath, Option.map_some, eq_comm, Option.map_eq_some_iff] at hread
      obtain ⟨bytes, rfl, hread⟩ := hread
      have hne : bytes ≠ [] := fun hnil => hfiles.slice_ne_nil (congrArg some hnil)
      dsimp only
      rw [← hread, sliceFrom_ok path hne]
      rfl
  rw [Arguments.run, hprepare]
  dsimp only
  rw [hdump]

/-- Files that serve make the output file. -/
theorem createOut_ok (hfiles : files.Serve arguments slice) :
    ∃ dump, arguments.createOut files = .ok dump := by
  rw [Arguments.createOut]
  rcases hout : arguments.out with _ | path
  · exact ⟨.off, rfl⟩
  · obtain ⟨readAfter, hcreate⟩ := hfiles.create path hout
    dsimp only
    rw [hcreate]
    exact ⟨_, rfl⟩

/-- A run starts from an empty output file, if one is named. -/
theorem createOut_eq (hfiles : files.Serve arguments slice) (hempty : files.Truncate) :
    arguments.createOut files =
      .ok (if arguments.out.isSome then .file (some #[]) else .off) := by
  rw [Arguments.createOut]
  rcases hout : arguments.out with _ | path
  · rfl
  · obtain ⟨readAfter, hcreate⟩ := hfiles.create path hout
    dsimp only
    rw [hcreate, mapError_ok, ok_bind, hempty path readAfter hcreate]
    rfl

end Preparing

/-! ## Setting up -/

/-- A profile that has a name is decoded. -/
theorem makeConfig_of_named {name : String} {profile : Config.Profile}
    (h : profileNamed? name = some profile) (id : Nat) :
    ∃ config coded, Config.make id profile .vld
        [⟨Config.formatAttribute, Config.formatYuv420⟩] = .ok config ∧
      config.profile = profile ∧ config.entrypoint = .vld ∧ profile.coded? = some coded := by
  unfold profileNamed? at h
  split at h <;> cases h <;> exact ⟨_, _, rfl, rfl, rfl, rfl⟩

/-- The descriptor of a target asks for a file as large as it says. -/
theorem targetDescriptor_eq {width height : UInt32} (hpitch : roundUpEven width.toNat < 2 ^ 32)
    (hsize : Surface.nv12Size width height < 2 ^ 32) :
    targetDescriptor width height = .ok (Surface.Descriptor.packed
      (.newFile (UInt32.ofNat (Surface.nv12Size width height)).toNat) width height) := by
  rw [targetDescriptor, Surface.Descriptor.nv12_of_words (.newFile 0) hpitch hsize]
  rfl

/-- **The target** is a black surface in a memory file of its own. -/
theorem createTarget_run {width height : UInt32} (hwidth : IsSide width) (hheight : IsSide height)
    (hmapper : p.driver.mapper = Memory.Mapper.shared) (hsurfaces : p.driver.surfaces = .empty) :
    ∃ s luma chroma memories, (createTarget width height).run p = (.ok 0, { p with
        driver := { p.driver.withSurface 0 { reserved := [0], next := 1 } s memories with
          imports := p.driver.imports + 1 } }) ∧
      Receives s width height luma chroma ∧ s.Placed memories.size ∧ s.Housed memories ∧
      Shaded luma chroma memories width.toNat height.toNat 0 := by
  have hsize := nv12Size_lt hwidth hheight
  have hreserve : p.driver.surfaces.reserve = .ok (0, { reserved := [0], next := 1 }) := by
    rw [hsurfaces]
    rfl
  obtain ⟨s, luma, chroma, hcreate, -, hw, hh, hfourcc, hopens, hroomy, hplaced, hhoused, hluma,
    hchroma⟩ := Driver.createSurfaces_file hmapper hreserve ⟨hwidth.ne_zero, hwidth.2⟩
      ⟨hheight.ne_zero, hheight.2⟩ hsize
  let size := (UInt32.ofNat (Surface.nv12Size width height)).toNat
  let memories : MemoryStore := p.driver.memories.push (.zeros size)
  -- the file of the surface is new, so all of it is zero
  have hzero (address : Nat) : memories.byte ⟨p.driver.memories.size⟩ address = 0 := by
    have hfile : memories.find? ⟨p.driver.memories.size⟩ = some (.zeros size) :=
      Array.getElem?_push_size
    rw [MemoryStore.byte_of_find? hfile]
    exact Memory.byte_zeros _ _
  refine ⟨s, luma, chroma, memories, ?_, ⟨hw, hh, hfourcc, hopens, hroomy⟩, hplaced, hhoused,
    shaded_zero (hluma ▸ hzero) (hchroma ▸ hzero) _ _⟩
  have hpitch := Nat.lt_of_le_of_lt hwidth.roundUpEven_le (show 4096 < 2 ^ 32 by decide)
  rw [createTarget, targetDescriptor_eq hpitch hsize]
  exact run_bind_ok (request_run hcreate)

/-- Nothing has been decoded by a run that has made its objects. -/
theorem setUp_run (hready : job.Ready coded sets)
    (hwidth : IsSide job.arguments.width) (hheight : IsSide job.arguments.height)
    {config : Config} (hmake : Config.make 0 job.arguments.profile .vld
      [⟨Config.formatAttribute, Config.formatYuv420⟩] = .ok config)
    (hprofile : config.profile = job.arguments.profile) (hentrypoint : config.entrypoint = .vld)
    (hcoded : job.arguments.profile.coded? = some coded) (dump : Dump) :
    ∃ p₁ p₂ p₃ s luma chroma,
      (request (Driver.createConfig job.arguments.profile .vld
        [⟨Config.formatAttribute, Config.formatYuv420⟩])).run
          { driver := driverOf dump } = (.ok 0, p₁) ∧
      (createTarget job.arguments.width job.arguments.height).run p₁ = (.ok 0, p₂) ∧
      (request (Driver.createContext 0 job.arguments.width job.arguments.height 0 [0])).run p₂ =
        (.ok 0, p₃) ∧
      Receives s job.arguments.width job.arguments.height luma chroma ∧
      Between job coded sets dump s luma chroma 0 p₃.driver := by
  let d₀ : Driver Gray := driverOf dump
  let d₁ : Driver Gray := { d₀ with configs := { live := [(0, config)], next := 1 } }
  have hreserve : d₀.configs.reserve = .ok (0, { reserved := [0], next := 1 }) := rfl
  obtain ⟨s, luma, chroma, memories, htarget, hreceives, hplaced, hhoused, hblack⟩ :=
    createTarget_run (p := { driver := d₁ }) hwidth hheight rfl rfl
  let d₂ : Driver Gray := { d₁.withSurface 0 { reserved := [0], next := 1 } s memories with
    imports := d₁.imports + 1 }
  obtain ⟨session, events, hstart, hawaits⟩ := Session.start_gray hready.fits hcoded
    (show 128 ≠ 0 by decide) (show 128 ≤ Session.Recent.maxCapacity by decide) {} 0
  rw [← hprofile, ← hentrypoint] at hstart
  let c : Context Gray := {
    id := 0
    config
    width := job.arguments.width
    height := job.arguments.height
    flag := 0
    targets := [0]
    session := .decoder session }
  have hfind : d₂.configs.find? 0 = some config := rfl
  have hknown : ∀ handle ∈ [0], ∃ target, d₂.surfaces.find? handle = some target :=
    List.forall_mem_singleton.2 ⟨⟨0⟩, rfl⟩
  have hcreate : (d₂.contexts.create fun id => { c with id }) =
      .ok (0, { live := [(0, c)], next := 1 }) := rfl
  have hcontext := Driver.createContext_run (d := d₂) hfind hknown hstart hcreate
  refine ⟨{ driver := d₁ }, { driver := d₂ }, _, s, luma, chroma,
    request_run (p := { driver := d₀ }) (Driver.createConfig_run hreserve hmake), htarget,
    request_run (p := { driver := d₂ }) hcontext, hreceives, ?_⟩
  constructor
  case patience => rfl
  case configs => exact ⟨config, rfl⟩
  case surfaces => rfl
  case surfaceStore => rfl
  case buffers => rfl
  case images => rfl
  case context => exact ⟨c, session, rfl, rfl, hawaits⟩
  case placed => exact hplaced
  case housed => exact hhoused
  case shaded => exact hblack
  case dump => rfl

/-! ## Downloading -/

section Downloading

variable {s : Surface} {luma chroma : Place} {frames : Nat} {width height : UInt32}

/-- Luma bytes are found by row and column. -/
theorem byte_of_displays {width height : Nat} {picture : Engine.Picture} {before after : Memory}
    (h : (Image.Layout.packed width height).Displays picture width height before after)
    (hsize : before.size = (Image.Layout.packed width height).dataSize) {shade : UInt8}
    (hshade : ∀ y < height, ∀ x < width,
      picture.luma.byte (y * picture.lumaStride + x) = shade) {address : Nat}
    (hlt : address < width * height) : after.byte address = shade := by
  have hpos : 0 < width := Nat.pos_of_ne_zero fun hzero => by
    rw [hzero, Nat.zero_mul] at hlt
    exact Nat.not_lt_zero _ hlt
  have hrow : address / width < height := Nat.div_lt_of_lt_mul hlt
  have hcolumn : address % width < width := Nat.mod_lt _ hpos
  have haddress : (Image.Layout.packed width height).luma.address (address / width)
      (address % width) = address := by
    change 0 + (address / width * width + address % width) = address
    rw [Nat.zero_add, Nat.div_add_mod']
  obtain ⟨hinside, hbyte⟩ := h.luma _ hrow _ hcolumn
  rw [← haddress, hbyte ((h.size.trans hsize).symm ▸ hinside)]
  exact hshade _ hrow _ hcolumn

/-- The image of a size, and where its buffer is. -/
def imageOf (width height : UInt32) (place : Nat) : Image where
  id := 0
  format := .nv12
  width
  height
  layout := .packed width.toNat height.toNat
  bufferHandle := 0
  buffer := ⟨place⟩

/-- The buffer of an image. -/
def imageBuffer (memory : Memory) : Buffer where
  id := 0
  context := none
  kind := .image
  memory

/-- A driver with the image of a size and its buffer, and no others. -/
def withImage (d : Driver Gray) (width height : UInt32) (memory : Memory) : Driver Gray :=
  let place := d.bufferStore.size
  { d with
    buffers := { live := [(0, ⟨place⟩)], next := 1 }
    bufferStore := d.bufferStore.push (imageBuffer memory)
    images := { live := [(0, imageOf width height place)], next := 1 } }

theorem getElem?_withImage (d : Driver Gray) (width height : UInt32) (memory : Memory) :
    (withImage d width height memory).bufferStore[d.bufferStore.size]? =
      some (imageBuffer memory) := Array.getElem?_push_size

/-- The memory of an image that has been written to. -/
theorem modify_withImage (d : Driver Gray) (width height : UInt32) (before after : Memory) :
    { withImage d width height before with
      bufferStore := (withImage d width height before).bufferStore.modify d.bufferStore.size
        fun buffer => { buffer with memory := after } } = withImage d width height after := by
  have hstore : (d.bufferStore.push (imageBuffer before)).modify d.bufferStore.size
      (fun buffer => { buffer with memory := after }) = d.bufferStore.push (imageBuffer after) := by
    refine Array.ext_getElem? fun i => ?_
    rw [Array.getElem?_modify, Array.getElem?_push, Array.getElem?_push]
    split
    · next h =>
      rw [if_pos h.symm, if_pos h.symm]
      rfl
    · next h => rw [if_neg (Ne.symm h), if_neg (Ne.symm h)]
  exact congrArg
    (fun bufferStore => { withImage d width height before with bufferStore }) hstore

section Sides

variable (hwidth : IsSide width) (hheight : IsSide height)
include hwidth hheight

theorem createImage_run (hbuffers : p.driver.buffers = .empty)
    (himages : p.driver.images = .empty) :
    (request (Driver.createImage .nv12 width height)).run p =
      (.ok (imageOf width height p.driver.bufferStore.size), { p with
        driver := withImage p.driver width height
          (.zeros (Image.Layout.packed width.toNat height.toNat).dataSize) }) := by
  have hsize : (Image.Layout.packed width.toNat height.toNat).dataSize ≤ Memory.maxSize :=
    Nat.le_trans (Nat.le_of_lt (dataSize_lt hwidth hheight)) (by decide)
  have hbuffers' : p.driver.buffers.reserve = .ok (0, { reserved := [0], next := 1 }) := by
    rw [hbuffers]
    rfl
  have himages' : p.driver.images.reserve = .ok (0, { reserved := [0], next := 1 }) := by
    rw [himages]
    rfl
  exact request_run
    (Driver.createImage_run hbuffers' himages' (ofFormat_eq hwidth hheight) hsize)

/-- **What is downloaded from a surface of one shade** is all of it. -/
theorem download_shaded (hreceives : Receives s width height luma chroma) {store : MemoryStore}
    (hplaced : s.Placed store.size) (hhoused : s.Housed store) {shade : UInt8}
    (hshaded : Shaded luma chroma store width.toNat height.toNat shade) :
    let layout := Image.Layout.packed width.toNat height.toNat
    ∃ result, s.download store width height layout (.zeros layout.dataSize) = (.ok true, result) ∧
      width.toNat * height.toNat ≤ result.size ∧
      ∀ address < width.toNat * height.toNat, result.byte address = shade := by
  intro layout
  have hdata : layout.dataSize < 2 ^ 32 := dataSize_lt hwidth hheight
  have harea : width.toNat * height.toNat ≤ layout.dataSize := Nat.le_add_right _ _
  have hlumaArea : layout.luma.stride * height.toNat < 2 ^ 64 :=
    Nat.lt_of_le_of_lt harea (Nat.lt_trans hdata (by decide))
  have hchromaArea : layout.chroma.stride * halfUp height.toNat < 2 ^ 64 := by
    have hle := Nat.mul_le_mul hwidth.roundUpEven_le hheight.halfUp_le
    change roundUpEven _ * _ < 2 ^ 64
    omega
  have hoffset : layout.luma.offset ≤ (Memory.zeros layout.dataSize).size := Nat.zero_le _
  obtain ⟨result, hdownload⟩ :=
    Surface.download_ok hreceives.opens hplaced hoffset harea hlumaArea hchromaArea
  obtain ⟨picture, hshows, hshade⟩ := hshaded
  have hdisplays := Surface.download_displays hreceives.roomy hhoused hshows (Nat.le_refl _)
    (Nat.le_refl _) (UInt32.le_of_eq hreceives.width.symm) (UInt32.le_of_eq hreceives.height.symm)
    (i := imageOf width height 0) (ofFormat_eq hwidth hheight) (UInt32.le_refl _)
    (UInt32.le_refl _) hdownload
  exact ⟨result, hdownload, Nat.le_trans harea (Nat.le_of_eq hdisplays.size.symm),
    fun address hlt => byte_of_displays hdisplays rfl hshade hlt⟩

end Sides

/-- What a surface holds gets into the image of its size. -/
theorem getImage_run (hreceives : Receives s width height luma chroma)
    (htarget : p.driver.surfaces.find? 0 = some ⟨0⟩) (hstore : p.driver.surfaceStore = #[s])
    {before after : Memory}
    (hdownload : s.download p.driver.memories width height
      (.packed width.toNat height.toNat) before = (.ok true, after)) :
    (request (Driver.getImage 0 0 0 width height 0)).run
        { p with driver := withImage p.driver width height before } =
      (.ok (), { p with driver := withImage p.driver width height after }) := by
  let d := withImage p.driver width height before
  have hsurface : d.surfaceStore[0]? = some s := by
    change p.driver.surfaceStore[0]? = some s
    rw [hstore]
    rfl
  have hmapped : s.isMapped = true := by
    obtain ⟨mapping, hmapping, -⟩ := hreceives.opens
    rw [Surface.isMapped, hmapping, Option.isSome_some]
  have harea : Driver.checkArea s (imageOf width height p.driver.bufferStore.size) 0 0 width
      height = .ok () := by
    simp [Driver.checkArea, hreceives.width, hreceives.height, hreceives.fourcc, imageOf,
      Image.Format.nv12]
  rw [← modify_withImage p.driver width height before after]
  exact request_run (p := { p with driver := d }) <| Driver.getImage_run (d := d) htarget hsurface
    hmapped rfl harea (getElem?_withImage p.driver width height before) hdownload

/-- The first bytes of a memory that are all the same. -/
theorem toBytes_firstBytes {count : Nat} {memory : Memory} (hsize : count ≤ memory.size)
    {shade : UInt8} (hbytes : ∀ address < count, memory.byte address = shade) :
    ∃ luma, firstBytes count memory = .ok luma ∧
      Block.toBytes luma = List.replicate count shade := by
  refine ⟨memory.slice 0 count, if_neg (Nat.not_lt.2 hsize), ?_⟩
  have hlength : (Block.toBytes (memory.slice 0 count)).length = count := by
    rw [Block.toBytes, Array.length_toList, ByteArray.size_data, Memory.size_slice]
  refine List.ext_getElem (hlength.trans List.length_replicate.symm) fun i hlt _ => ?_
  rw [hlength] at hlt
  have hslice := Memory.getD_slice memory 0 count i hlt
  rw [Nat.zero_add, hbytes i hlt, Array.getD_eq_getD_getElem?, ← Array.getElem?_toList] at hslice
  change (Block.toBytes (memory.slice 0 count))[i]?.getD 0 = shade at hslice
  rw [List.getElem?_eq_getElem (hlength.symm ▸ hlt), Option.getD_some] at hslice
  rw [hslice, List.getElem_replicate]

/-- **The surface is downloaded**, and its luma plane is told. -/
theorem downloadTarget_run (hwidth : IsSide job.arguments.width)
    (hheight : IsSide job.arguments.height)
    (hreceives : Receives s job.arguments.width job.arguments.height luma chroma)
    (h : Between job coded sets dump s luma chroma frames p.driver) :
    ∃ result told,
      (downloadTarget 0 job.arguments.width job.arguments.height).run p = (.ok 0, {
        driver := withImage p.driver job.arguments.width job.arguments.height result
        log := p.log.push (.downloaded told) }) ∧
      Block.toBytes told = List.replicate
        (job.arguments.width.toNat * job.arguments.height.toNat) (shadeAfter frames) := by
  obtain ⟨result, hdownload, hsize, hbytes⟩ :=
    download_shaded hwidth hheight hreceives h.placed h.housed h.shaded
  let count := job.arguments.width.toNat * job.arguments.height.toNat
  let blank := withImage p.driver job.arguments.width job.arguments.height
    (.zeros (Image.Layout.packed job.arguments.width.toNat job.arguments.height.toNat).dataSize)
  let d := withImage p.driver job.arguments.width job.arguments.height result
  have hsync : (Driver.syncSurface 0).run blank = (.ok (), blank) :=
    run_bind_ok (Driver.surface_run (d := blank) h.surfaces)
  have hcount : (Action.ofFaulting (checkedWord 32 count) : RunM Nat).run { p with driver := d } =
      (.ok count, { p with driver := d }) := by
    have hlt : count < 2 ^ 32 := Nat.lt_of_le_of_lt (Nat.le_add_right _ _)
      (dataSize_lt hwidth hheight)
    rw [checkedWord_eq_ok.2 ⟨hlt, rfl⟩]
    rfl
  have hmap : (Driver.mapBuffer 0 fun memory => (firstBytes count memory, memory)).run d =
      (.ok (firstBytes count result), d) :=
    Driver.mapBuffer_run (d := d) rfl (getElem?_withImage p.driver _ _ result) _
  obtain ⟨told, htold, hshade⟩ := toBytes_firstBytes hsize hbytes
  refine ⟨result, told, ?_, hshade⟩
  refine (run_bind_ok (createImage_run hwidth hheight h.buffers h.images)).trans ?_
  refine (run_bind_ok (request_run (p := { p with driver := blank }) hsync)).trans ?_
  refine (run_bind_ok (getImage_run hreceives h.surfaces h.surfaceStore hdownload)).trans ?_
  refine (run_bind_ok hcount).trans ?_
  refine (run_bind_ok (request_run (p := { p with driver := d }) hmap)).trans ?_
  rw [htold]
  rfl

end Downloading

/-! ## Whole runs -/

/-- What was made is destroyed, and neither the output file nor the log changes. -/
theorem tidyUp_run {image : Image} (himage : p.driver.images.find? 0 = some image)
    {c : Context Gray} (hcontext : p.driver.contexts.find? 0 = some c) {target : SurfaceRef}
    (hsurface : p.driver.surfaces.find? 0 = some target) {config : Config}
    (hconfig : p.driver.configs.find? 0 = some config) :
    ∃ p', (tidyUp 0 0 0 0).run p = (.ok (), p') ∧ p'.driver.dump = p.driver.dump ∧
      p'.log = p.log := by
  obtain ⟨images, -, hdestroyImage⟩ := Driver.destroyImage_run himage
  let d₁ : Driver Gray := { p.driver with images, buffers := p.driver.buffersWithout image }
  obtain ⟨contexts, hdestroyContext⟩ := Driver.destroyContext_run (d := d₁) hcontext
  let d₂ : Driver Gray := { d₁ with contexts }
  have hdestroySurfaces := Driver.destroySurfaces_run (d := d₂)
    (List.forall_mem_singleton.2 ⟨target, hsurface⟩)
  let d₃ : Driver Gray := { d₂ with surfaces := Driver.withoutAll d₂.surfaces [0] }
  obtain ⟨configs, hdestroyConfig⟩ := Driver.destroyConfig_run (d := d₃) hconfig
  refine ⟨{ p with driver := { d₃ with configs } }, ?_, rfl, rfl⟩
  rw [tidyUp, run_bind_ok (request_run hdestroyImage),
    run_bind_ok (request_run (p := { p with driver := d₁ }) hdestroyContext),
    run_bind_ok (request_run (p := { p with driver := d₂ }) hdestroySurfaces),
    request_run (p := { p with driver := d₃ }) hdestroyConfig]

/-- **A job that is ready is done.** Its streams are appended to the dump it starts from, and the
last that it tells is the luma plane of what it downloaded. -/
theorem execute_eq (hready : job.Ready coded sets) (hwidth : IsSide job.arguments.width)
    (hheight : IsSide job.arguments.height) {name : String}
    (hname : profileNamed? name = some job.arguments.profile)
    (hcoded : job.arguments.profile.coded? = some coded) (dump : Dump) :
    let frames := job.arguments.frames.toNat
    (job.execute dump).result = .ok () ∧
      (job.execute dump).stream = (job.dumpAfter sets dump frames).contents? ∧
      ∃ log luma, (job.execute dump).log = log ++ [.downloaded luma] ∧
        Block.toBytes luma = List.replicate
          (job.arguments.width.toNat * job.arguments.height.toNat) (shadeAfter frames) := by
  intro frames
  obtain ⟨config, coded', hmake, hprofile, hentrypoint, hcoded'⟩ := makeConfig_of_named hname 0
  obtain ⟨p₁, p₂, p₃, s, luma, chroma, hconfig, htarget, hcontext, hreceives, hstart⟩ :=
    setUp_run hready hwidth hheight hmake hprofile hentrypoint hcoded dump
  obtain ⟨p₄, hdecode, hdone⟩ := decodeFrames_run hready hreceives frames hstart
  rw [Nat.zero_add] at hdone
  obtain ⟨result, told, hdownload, hshade⟩ := downloadTarget_run hwidth hheight hreceives hdone
  let d := withImage p₄.driver job.arguments.width job.arguments.height result
  let log := p₄.log.push (.downloaded told)
  obtain ⟨config', hfindConfig⟩ := hdone.configs
  obtain ⟨c, session, hfindContext, -, -⟩ := hdone.context
  have himage : d.images.find? 0 = some (imageOf job.arguments.width job.arguments.height
    p₄.driver.bufferStore.size) := rfl
  obtain ⟨p₅, htidy, hdump, hlog⟩ :=
    tidyUp_run (p := { driver := d, log }) himage hfindContext hdone.surfaces hfindConfig
  have hrun : (decodeJob job).run { driver := driverOf dump } = (.ok (), p₅) := by
    rw [decodeJob, run_bind_ok hconfig, run_bind_ok htarget, run_bind_ok hcontext,
      run_bind_ok hdecode, run_bind_ok hdownload, htidy]
  rw [Job.execute, hrun]
  refine ⟨rfl, ?_, p₄.log.toList, told, ?_, hshade⟩
  · exact congrArg Dump.contents? (hdump.trans hdone.dump)
  · dsimp only
    rw [hlog, Array.toList_push]

/-- **A run from its arguments to its output.** For every size that a surface can have, every
profile with a name, any number of frames, and a slice file that is not empty or none, a run
succeeds if its files serve and a file that is made is empty. Its output file, if one is named,
then holds nothing if there were no frames, and else both parameter sets for the record of the
size, cropped to the size, and behind them the slices of all frames in order, each unit behind a
start code: the bytes of the slice file, or the slices that are made up. A decoder shows of such a
frame the size with both sides rounded up to even ones. The run ends with the download of its
surface: the luma plane of the image is gray all over, and black if there were no frames. -/
theorem run_writes_frames {arguments : Arguments} {files : Files} {slice : Option Bytes}
    {name : String} (hname : profileNamed? name = some arguments.profile)
    (hwidth : 1 ≤ arguments.width ∧ arguments.width ≤ 4096)
    (hheight : 1 ≤ arguments.height ∧ arguments.height ≤ 4096)
    (hfiles : files.Serve arguments slice) (hempty : files.Truncate) :
    ∃ record coded sequenceSet pictureSet set log luma,
      pictureParameters arguments.width arguments.height = .ok record ∧
      arguments.profile.coded? = some coded ∧
      Header.headerBytes coded record { width := arguments.width, height := arguments.height } =
        .ok (Nal.Stream.join [0x67 :: sequenceSet, 0x68 :: pictureSet]) ∧
      let frames := arguments.frames.toNat
      (arguments.run files).result = .ok () ∧
      ((arguments.run files).stream = arguments.out.map fun _ => List.toArray <|
        if frames = 0 then []
        else Nal.Stream.join ([0x67 :: sequenceSet, 0x68 :: pictureSet] ++
          (List.range frames).map fun frame =>
            slice.getD (syntheticSlice (if frame = 0 then .i else .p)))) ∧
      Header.readPayload Header.SequenceSet.read sequenceSet = .ok (set, []) ∧
      set.croppedWidth = roundUpEven arguments.width.toNat ∧
      set.croppedHeight = roundUpEven arguments.height.toNat ∧
      (arguments.run files).log = log ++ [.downloaded luma] ∧
      Block.toBytes luma = List.replicate (arguments.width.toNat * arguments.height.toNat)
        (if frames = 0 then 0 else 0x80) := by
  have hwide : IsSide arguments.width := hwidth
  have hhigh : IsSide arguments.height := hheight
  obtain ⟨record, hrecord, hrange, horder, hshown⟩ := pictureParameters_eq hwide hhigh
  obtain ⟨-, coded, -, -, -, hcoded⟩ := makeConfig_of_named hname 0
  obtain ⟨sequenceSet, pictureSet, -, hheader, hread, -⟩ := Header.headerBytes_units coded horder
    { width := arguments.width, height := arguments.height }
  let job : Job := { arguments, record, slice }
  let sets : List Bytes := [0x67 :: sequenceSet, 0x68 :: pictureSet]
  have hready : job.Ready coded sets :=
    ⟨fits_of_isSide hwide hhigh, hrange, horder, hheader, hfiles.length_slice_le⟩
  obtain ⟨hresult, hstream, log, luma, hlog, hluma⟩ := execute_eq hready hwide hhigh hname hcoded
    (if arguments.out.isSome then .file (some #[]) else .off)
  obtain ⟨hshownWidth, hshownHeight⟩ := hshown coded
  rw [run_eq_execute hfiles hrecord (createOut_eq hfiles hempty)]
  refine ⟨record, coded, sequenceSet, pictureSet, _, log, luma, hrecord, hcoded, hheader, hresult,
    ?_, hread, hshownWidth, hshownHeight, hlog, hluma⟩
  rw [hstream]
  rcases arguments.out with _ | path
  · exact congrArg Dump.contents? (job.dumpAfter_off sets _)
  · exact congrArg Dump.contents? (job.dumpAfter_empty sets _)

/-- A tree with a slice file, and with an output file that is not empty. -/
def twoFiles : FileTree where
  entries := [(["in"], .file [0x65, 0xb8]), (["out"], .file [1, 2, 3])]

theorem start_in : twoFiles.start "in" = .ok ([], ["in"]) := by
  -- splitting a string is not structural, so it is unfolded character by character
  have hnames : "in".splitOn "/" = ["in"] := by
    rw [String.splitOn, if_neg (by decide)]
    iterate 2 rw [String.splitOnAux, if_neg (by decide), if_neg (by decide)]
    rw [String.splitOnAux, if_pos (by decide)]
    decide
  rw [FileTree.start, hnames, if_neg (by decide), if_neg (by decide), if_neg (by decide +kernel)]
  rfl

theorem start_out : twoFiles.start "out" = .ok ([], ["out"]) := by
  have hnames : "out".splitOn "/" = ["out"] := by
    rw [String.splitOn, if_neg (by decide)]
    iterate 3 rw [String.splitOnAux, if_neg (by decide), if_neg (by decide)]
    rw [String.splitOnAux, if_pos (by decide)]
    decide
  rw [FileTree.start, hnames, if_neg (by decide), if_neg (by decide), if_neg (by decide +kernel)]
  rfl

theorem create_out :
    twoFiles.create "out" = .ok { entries := (["out"], .file []) :: twoFiles.entries } := by
  have hfile : "out".endsWith "/" = false := by decide +kernel
  rw [FileTree.create, start_out, ok_bind]
  simp only [hfile]
  rfl

/-- Two frames of a slice file, in pictures that are odd both ways. What the output file held is
gone. -/
theorem run_writes_frames_odd :
    let arguments : Arguments :=
      { profile := .h264High, width := 5, height := 3, slice := "in", out := "out", frames := 2 }
    let files := twoFiles.files
    profileNamed? "high" = some arguments.profile ∧ files.read "out" = .ok [1, 2, 3] ∧
      files.Serve arguments (some [0x65, 0xb8]) ∧ files.Truncate ∧
      (arguments.run files).result = .ok () ∧
      ∃ sequenceSet pictureSet set log luma,
        (arguments.run files).stream = some (Nal.Stream.join
          [0x67 :: sequenceSet, 0x68 :: pictureSet, [0x65, 0xb8], [0x65, 0xb8]]).toArray ∧
        Header.readPayload Header.SequenceSet.read sequenceSet = .ok (set, []) ∧
        set.croppedWidth = 6 ∧ set.croppedHeight = 4 ∧
        (arguments.run files).log = log ++ [.downloaded luma] ∧
        Block.toBytes luma = List.replicate 15 0x80 := by
  intro arguments files
  have hname : profileNamed? "high" = some arguments.profile := rfl
  have hread : twoFiles.read "in" = .ok [0x65, 0xb8] := by
    rw [FileTree.read, start_in]
    rfl
  have hold : twoFiles.read "out" = .ok [1, 2, 3] := by
    rw [FileTree.read, start_out]
    rfl
  have hfiles : files.Serve arguments (some [0x65, 0xb8]) := by
    refine ⟨congrArg some hread, by simp, ?_, ?_⟩
    · rintro _ ⟨⟩
      decide
    · rintro _ ⟨⟩
      exact ⟨_, congrArg (Except.map FileTree.read) create_out⟩
  obtain ⟨_, _, sequenceSet, pictureSet, set, log, luma, -, -, -, hresult, hstream, hset, hwidth,
    hheight, hlog, hluma⟩ :=
      run_writes_frames hname (by decide) (by decide) hfiles twoFiles.truncate_files
  exact ⟨hname, hold, hfiles, twoFiles.truncate_files, hresult, sequenceSet, pictureSet, set, log,
    luma, hstream, hset, hwidth.trans (by decide), hheight.trans (by decide), hlog, hluma⟩

end AvcDriver.Tool
