import AvcDriver.Proofs.Driver.Step
import AvcDriver.Proofs.Session.Run
import AvcDriver.Proofs.Surface.Pixels

/-!
# Pixels from an engine to an image

What an engine decodes into a surface a client reads out of an image. In every driver with a
mapper that maps what is there, the planes of surfaces lie inside their memories, and images are
laid out as their formats say. So a picture that was written into a surface is copied from it
pixel by pixel.

* `Charted`: surfaces and images are where they are said to be.
* `Charted.step`: every step keeps it so.
* `getImage_displays_picture`: a picture survives the trip from its engine to an image.
-/

namespace AvcDriver

open Engine (Factory Picture)
open Memory (Place)
open MemoryStore (SameSizes)

variable {ε : Type}

/-! ## Memory during a run -/

namespace Session

/-- Copying a picture keeps the sizes of all memories. -/
theorem sameSizes_copyInto (surface? : Option Surface) (memories : MemoryStore)
    (picture : Picture) : SameSizes memories (copyInto surface? memories picture) := by
  rcases surface? with _ | surface
  · exact .refl memories
  · rcases hwrite : surface.write memories picture with _ | ⟨mapped, memories'⟩
    · simp only [copyInto, hwrite]
      exact .refl memories
    · simp only [copyInto, hwrite]
      exact Surface.sameSizes_write hwrite

theorem sameSizes_copyAll (surface? : UInt32 → Option Surface) (pictures : List Picture) :
    ∀ memories, SameSizes memories (copyAll surface? memories pictures) := by
  induction pictures with
  | nil => exact SameSizes.refl
  | cons picture rest ih => exact fun memories => (sameSizes_copyInto _ _ _).trans (ih _)

/-- So does a run, which changes memory by copying pictures only. -/
theorem Decoder.sameSizes_run [Engine ε] (d : Decoder ε) (patience : Nat) (buffers : BufferStore)
    (owned : SurfaceRef → Bool) (shared : Shared) :
    SameSizes shared.memories (d.run patience buffers owned shared).2.2.memories := by
  rcases d.run_cases patience buffers owned shared with
    ⟨cause, -, hstops⟩ | ⟨target, work, error, -, -, hdrops⟩ |
      ⟨target, work, stream, -, -, hsubmits⟩
  · rw [hstops]
    exact .refl _
  · rw [hdrops]
    exact .refl _
  · rw [hsubmits]
    rcases hsubmit : d.submit patience owned shared target work stream with ⟨result, d', shared'⟩
    obtain ⟨calls, -, hmemories, -⟩ :=
      submit_does (Surroundings.fit_unruly shared.memories.size _) trivial rfl hsubmit
    rw [hmemories]
    exact sameSizes_copyAll _ _ _

end Session

theorem Context.sameSizes_endPicture [Engine ε] {c c' : Context ε} {patience : Nat}
    {buffers : BufferStore} {owned : SurfaceRef → Bool} {shared shared' : Session.Shared}
    {result : Except (Failure DriverError) (List Session.ReadyPicture)}
    (h : c.endPicture patience buffers owned shared = (result, c', shared')) :
    SameSizes shared.memories shared'.memories := by
  rw [endPicture] at h
  split at h
  · cases h
    exact .refl _
  · rcases hsession : c.session with _ | d
    · rw [hsession] at h
      cases h
      exact .refl _
    · rw [hsession] at h
      cases h
      exact d.sameSizes_run patience buffers owned shared

namespace Driver

/-! ## Drivers whose surfaces and images are in place -/

/-- The planes of surfaces lie inside their memories, also of those that are still to be made, and
images are laid out as their formats say. -/
structure Charted (d : Driver ε) : Prop where
  mapper : d.mapper.Faithful
  surfaces : ∀ s ∈ d.surfaceStore, s.Housed d.memories
  images : ∀ i ∈ d.images.objects, Image.Layout.ofFormat i.format i.width i.height = .ok i.layout

theorem charted_make {settings : Settings} {mapper : Memory.Mapper} {factory : Factory ε}
    (hmapper : mapper.Faithful) : (make settings mapper factory).Charted where
  mapper := hmapper
  surfaces s hmem := absurd hmem (Array.not_mem_empty s)
  images := by rintro _ ⟨⟩

/-- Memories may be added, and written to. -/
theorem Charted.withMemories {d : Driver ε} (h : d.Charted) {memories : MemoryStore}
    (hsizes : SameSizes d.memories memories) : Charted { d with memories } :=
  { h with surfaces := fun s hmem => (h.surfaces s hmem).mono hsizes }

theorem Charted.step [Engine ε] {d d' : Driver ε} (h : Step d d') (hd : d.Charted) :
    d'.Charted := by
  cases h with
  | ask => exact { hd with }
  | openFiles attributes =>
    exact hd.withMemories
      (.of_kept (Memory.Adds.mapM Surface.Attribute.adds_opened attributes d.memories))
  | addConfig => exact { hd with }
  | removeConfig => exact { hd with }
  | addSurface _ hmake =>
    refine { hd with surfaces := ?_ }
    have hkept := SameSizes.of_kept (Surface.kept_of_make hd.mapper.preserves hmake)
    intro s hmem
    rcases Array.mem_push.1 hmem with hold | rfl
    · exact (hd.surfaces s hold).mono hkept
    · exact Surface.housed_of_make hd.mapper hmake
  | removeSurface => exact { hd with }
  | addContext => exact { hd with }
  | removeContext => exact { hd with }
  | beginPicture => exact { hd with }
  | renderPicture => exact { hd with }
  | endPicture _ hend => exact { hd.withMemories (Context.sameSizes_endPicture hend) with }
  | addBuffer => exact { hd with }
  | removeBuffer => exact { hd with }
  | setMemory => exact { hd with }
  | addImage hlayout _ _ hreserve =>
    refine { hd with images := ?_ }
    rw [Handle.Table.objects_reserve_commit hreserve]
    exact List.forall_mem_cons.2 ⟨hlayout, hd.images⟩
  | strandBuffer => exact { hd with }
  | removeImage hremove =>
    exact { hd with
      images := fun i hmem => hd.images i (Handle.Table.objects_removeIf hremove hmem) }

/-- In drivers with a faithful mapper, surfaces and images are in place after every history. -/
theorem charted_serveAll [Engine ε] {settings : Settings} {mapper : Memory.Mapper}
    {factory : Factory ε} (hmapper : mapper.Faithful) (requests : List Request) :
    ((make settings mapper factory).serveAll requests).Charted :=
  invariant_of_step Charted.step (charted_make hmapper) (steps_serveAll requests _)

/-! ## Images of surfaces -/

theorem checkArea_eq_ok {s : Surface} {i : Image} {x y width height : UInt32}
    (h : checkArea s i x y width height = .ok ()) :
    width ≤ s.width ∧ height ≤ s.height ∧ width ≤ i.width ∧ height ≤ i.height ∧
      s.fourcc = fourccNv12 := by
  rw [checkArea] at h
  split at h
  · cases h
  split at h
  · cases h
  next hsurface =>
    split at h
    · cases h
    next himage =>
      split at h
      · cases h
      next hfourcc =>
        rw [not_or, UInt32.not_lt, UInt32.not_lt] at hsurface himage
        exact ⟨hsurface.1, hsurface.2, himage.1, himage.2, Classical.not_not.1 hfourcc⟩

/-- What is known when a surface with memory was copied into an image. -/
theorem getImage_eq_ok {d d' : Driver ε} {surfaceHandle imageHandle : Nat}
    {x y width height : UInt32} {target : SurfaceRef} {s : Surface} {i : Image}
    (htarget : d.surfaces.find? surfaceHandle = some target)
    (hsurface : d.surfaceStore[target.index]? = some s) (hmapped : s.isMapped = true)
    (himage : d.images.find? imageHandle = some i)
    (h : (getImage surfaceHandle x y width height imageHandle).run d = (.ok (), d')) :
    checkArea s i x y width height = .ok () ∧
      ∃ before mapped after, d.bufferStore[i.buffer.index]? = some before ∧
        s.download d.memories width height i.layout before.memory = (.ok mapped, after) ∧
        d' = { d with
          bufferStore := d.bufferStore.modify i.buffer.index fun buffer =>
            { buffer with memory := after } } := by
  have hends : Action.Ends (getImage surfaceHandle x y width height imageHandle) d
      fun result d' => result = .ok () → checkArea s i x y width height = .ok () ∧
        ∃ before mapped after, d.bufferStore[i.buffer.index]? = some before ∧
          s.download d.memories width height i.layout before.memory = (.ok mapped, after) ∧
          d' = { d with
            bufferStore := d.bufferStore.modify i.buffer.index fun buffer =>
              { buffer with memory := after } } := by
    refine Action.Ends.surface_bind (fun target' htarget' => ?_) (by rintro - ⟨⟩)
    obtain rfl : target = target' := Option.some.inj (htarget.symm.trans htarget')
    refine Action.Ends.surfaceAt_bind (fun s' hsurface' => ?_) (by rintro - ⟨⟩)
    obtain rfl : s = s' := Option.some.inj (hsurface.symm.trans hsurface')
    refine Action.Ends.image_bind (fun i' himage' => ?_) (by rintro - ⟨⟩)
    obtain rfl : i = i' := Option.some.inj (himage.symm.trans himage')
    rw [if_pos hmapped]
    refine Action.Ends.ofExcept_bind (fun _ harea => ?_) (by rintro _ - ⟨⟩)
    refine Action.Ends.get_bind (Action.Ends.bufferAt_bind (fun before hbefore => ?_)
      (by rintro - ⟨⟩))
    refine Action.Ends.modify_bind (Action.Ends.settle_bind (fun mapped hdownload => ?_)
      (by rintro _ - ⟨⟩))
    rintro -
    exact ⟨harea, before, mapped, _, hbefore, Prod.ext (mapError_eq_ok.1 hdownload) rfl, rfl⟩
  exact (Action.ends_of_run h).1 hends rfl

/-- **A picture survives the trip from its engine to an image.** A surface whose planes are apart
and hold whole rows takes a picture, as much of it as there is room for; NV12 descriptors make such
surfaces, of any size. Then an image gets the pixels of the picture, each plane with its own
stride, and nothing else changes: no other byte of the image, and no byte of any surface. -/
theorem getImage_displays_picture [Engine ε] :
    (∀ (source : Memory.Source) (width height : UInt32) (descriptor : Surface.Descriptor),
      width ≠ 0 → height ≠ 0 → Surface.Descriptor.nv12 source width height = .ok descriptor →
      ∀ (earlier id : Nat) (store : MemoryStore), ∃ s store' luma chroma,
        Surface.make Memory.Mapper.heap earlier id Config.formatYuv420 width height
          descriptor.attributes store = .ok (s, store') ∧
        s.fourcc = fourccNv12 ∧ s.Roomy luma chroma) ∧
    ∀ {settings : Settings} {mapper : Memory.Mapper} {factory : Factory ε} {history : List Request}
      {d d' : Driver ε} {surfaceHandle imageHandle : Nat} {target : SurfaceRef} {s : Surface}
      {luma chroma : Place} {i : Image} {picture : Picture} {columns rows : Nat}
      {memories : MemoryStore} {width height : UInt32},
      mapper.Faithful → (make settings mapper factory).serveAll history = d →
      d.surfaces.find? surfaceHandle = some target → d.surfaceStore[target.index]? = some s →
      s.Roomy luma chroma → d.images.find? imageHandle = some i →
      columns = min picture.width.toNat s.width.toNat →
      rows = min picture.height.toNat s.height.toNat →
      (picture.luma.whole picture.lumaStride).Reaches columns rows →
      (picture.chroma.whole picture.chromaStride).Reaches (roundUpEven columns) (halfUp rows) →
      s.write d.memories picture = .ok (true, memories) →
      width.toNat ≤ columns → height.toNat ≤ rows →
      (getImage surfaceHandle 0 0 width height imageHandle).run { d with memories } = (.ok (), d') →
      ∃ before after, d.bufferStore[i.buffer.index]? = some before ∧
        d' = { d with
          memories
          bufferStore := d.bufferStore.modify i.buffer.index fun buffer =>
            { buffer with memory := after } } ∧
        i.layout.Displays picture width.toNat height.toNat before.memory after := by
  constructor
  · intro source width height descriptor hwidth hheight hdescriptor earlier id store
    exact Surface.make_nv12 hwidth hheight hdescriptor earlier id store
  · intro settings mapper factory history d d' surfaceHandle imageHandle target s luma chroma i
      picture columns rows memories width height hmapper hserved htarget hsurface hroomy himage
      hcolumns hrows hluma hchroma hwrite hwidth hheight hrun
    have hd : d.Charted := hserved ▸ charted_serveAll hmapper history
    have hhoused : s.Housed d.memories := hd.surfaces s (Array.mem_of_getElem? hsurface)
    have hlayout := hd.images i (Handle.Table.mem_objects_of_find? himage)
    have hmapped : s.isMapped = true := by
      obtain ⟨mapping, hmapping, -⟩ := hroomy.planes
      rw [Surface.isMapped, hmapping, Option.isSome_some]
    obtain ⟨harea, before, mapped, after, hbefore, hdownload, rfl⟩ :=
      getImage_eq_ok (d := { d with memories }) htarget hsurface hmapped himage hrun
    obtain ⟨hwide, hhigh, hwide', hhigh', hfourcc⟩ := checkArea_eq_ok harea
    have hshows := Surface.write_shows hroomy hhoused hfourcc hcolumns hrows hluma hchroma hwrite
    have hhoused' := hhoused.mono (Surface.sameSizes_write hwrite)
    exact ⟨before, after, hbefore, rfl, Surface.download_displays hroomy hhoused' hshows hwidth
      hheight hwide hhigh hlayout hwide' hhigh' hdownload⟩

/-- A picture of three by two pixels, with padding behind its rows. -/
def paddedPicture : Picture where
  tag := 0
  width := 3
  height := 2
  luma := .ofBlock (.ofBytes [11, 12, 13, 0, 0, 21, 22, 23, 0, 0])
  lumaStride := 5
  chroma := .ofBlock (.ofBytes [31, 32, 33, 34, 0, 0])
  chromaStride := 6

/-- A client that imports a surface of four by three pixels, and makes an image of three by two. -/
def importing : List Request := [
  .createSurfaces Config.formatYuv420 4 3 1 (Surface.Descriptor.attributes {
    fourcc := fourccNv12
    width := 4
    height := 3
    objects := [{ source := .descriptor 3, size := 20, modifier := 0 }]
    layers := [{
      format := fourccNv12
      planes := [
        { object := 0, offset := 0, pitch := 4 }, { object := 0, offset := 12, pitch := 4 }] }] }),
  .createImage .nv12 3 2]

/-- A driver after that. -/
def importedDriver : Driver Engine.Script :=
  (make {} Memory.Mapper.heap fun _ _ => .ok { entries := [] }).serveAll importing

/-- Its memories with the picture in them. -/
def paddedMemories : MemoryStore :=
  ((importedDriver.surfaceStore[0]?).bind fun s =>
    (s.write importedDriver.memories paddedPicture).toOption).elim #[] (·.2)

/-- The driver with the picture in its surface. -/
def paddedDriver : Driver Engine.Script := { importedDriver with memories := paddedMemories }

theorem roomy_imported {s : Surface} (hs : importedDriver.surfaceStore[0]? = some s) :
    s.width = 4 ∧ s.height = 3 ∧ ∃ luma chroma, s.Roomy luma chroma := by
  have hsize : (importedDriver.surfaceStore[0]?).map (fun s => (s.width, s.height)) =
      some (4, 3) := by rfl
  have hmapping : (importedDriver.surfaceStore[0]?).map (·.mapping) = some (some {
      regions := #[{ memory := ⟨0⟩, size := 20 }]
      planes := [
        { object := 0, offset := 0, stride := 4, rows := 3 },
        { object := 0, offset := 12, stride := 4, rows := 2 }] }) := by rfl
  rw [hs, Option.map_some, Option.some.injEq] at hsize hmapping
  obtain ⟨hwidth, hheight⟩ := Prod.mk.inj hsize
  refine ⟨hwidth, hheight, _, _, ⟨_, hmapping, rfl, rfl⟩, ?_, ?_, ?_⟩
  · exact fun _ => .inl (Nat.le_refl 12)
  · rw [hwidth]
    exact Nat.le_refl 4
  · rw [hwidth]
    exact Nat.le_refl 4

theorem write_imported {s : Surface} (hs : importedDriver.surfaceStore[0]? = some s) :
    s.write importedDriver.memories paddedPicture = .ok (true, paddedMemories) := by
  have hwritten : (importedDriver.surfaceStore[0]?).map (fun s =>
      (s.write importedDriver.memories paddedPicture).toOption.map (·.1)) = some (some true) := by
    rfl
  rw [hs, Option.map_some] at hwritten
  rw [paddedMemories, hs, Option.bind_some]
  rcases hwrite : s.write importedDriver.memories paddedPicture with _ | ⟨mapped, memories⟩
  · rw [hwrite] at hwritten
    cases hwritten
  · rw [hwrite] at hwritten
    cases hwritten
    rfl

/-- The picture is smaller than the surface, and its padding stays behind. -/
theorem getImage_displays_picture_padded :
    ∃ after, ((getImage 0 0 0 3 2 0).run paddedDriver).1 = .ok () ∧
      (((getImage 0 0 0 3 2 0).run paddedDriver).2.bufferStore[0]?).map (·.memory) = some after ∧
      after.byte 5 = 23 ∧ after.byte 9 = 34 := by
  rcases hs : importedDriver.surfaceStore[0]? with _ | s
  · cases hs
  rcases hi : importedDriver.images.find? 0 with _ | i
  · cases hi
  have hok : ((getImage 0 0 0 3 2 0).run paddedDriver).1.isOk = true := by decide +kernel
  rcases hrun : (getImage 0 0 0 3 2 0).run paddedDriver with ⟨_ | ⟨⟩, d'⟩
  · rw [hrun] at hok
    cases hok
  obtain ⟨hwidth, hheight, luma, chroma, hroomy⟩ := roomy_imported hs
  have hserved : (make {} Memory.Mapper.heap fun _ _ => .ok { entries := [] }).serveAll importing =
    importedDriver := rfl
  have hfind : importedDriver.surfaces.find? 0 = some ⟨0⟩ := by rfl
  have hluma : (paddedPicture.luma.whole 5).Reaches 3 2 := by
    refine ⟨by decide, ?_⟩
    decide +kernel
  have hchroma : (paddedPicture.chroma.whole 6).Reaches 4 1 := by
    refine ⟨by decide, ?_⟩
    decide +kernel
  obtain ⟨before, after, hbefore, rfl, hdisplays⟩ :=
    getImage_displays_picture.2 Memory.Mapper.faithful_heap hserved hfind
      hs hroomy hi (by rw [hwidth]; rfl) (by rw [hheight]; rfl) hluma hchroma (write_imported hs)
      (show (3 : UInt32).toNat ≤ 3 by decide) (show (2 : UInt32).toNat ≤ 2 by decide) hrun
  have himage : (importedDriver.images.find? 0).map (fun i => (i.buffer, i.layout)) =
      some (⟨0⟩, { luma := ⟨3, 0⟩, chroma := ⟨4, 6⟩, dataSize := 10 }) := by rfl
  rw [hi, Option.map_some, Option.some.injEq] at himage
  obtain ⟨hbuffer, hlayout⟩ := Prod.mk.inj himage
  rw [hlayout] at hdisplays
  rw [hbuffer] at hbefore
  change importedDriver.bufferStore[0]? = some before at hbefore
  have hsize : (importedDriver.bufferStore[0]?).map (·.memory.size) = some 10 := by rfl
  rw [hbefore, Option.map_some, Option.some.injEq, ← hdisplays.size] at hsize
  refine ⟨after, rfl, ?_, ?_, ?_⟩
  · rw [hbuffer]
    change ((importedDriver.bufferStore.modify 0 _)[0]?).map _ = _
    rw [Array.getElem?_modify, if_pos rfl, hbefore]
    rfl
  · refine ((hdisplays.luma 1 (by decide) 2 (by decide)).2 ?_).trans ?_
    · rw [hsize]
      decide
    · decide +kernel
  · refine ((hdisplays.chroma 0 (by decide) 3 (by decide)).2 ?_).trans ?_
    · rw [hsize]
      decide
    · decide +kernel

end Driver

end AvcDriver
