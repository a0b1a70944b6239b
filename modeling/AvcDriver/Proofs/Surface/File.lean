import AvcDriver.Proofs.Memory.Mapper
import AvcDriver.Proofs.Surface.Pixels
import AvcDriver.Proofs.Surface.Write

/-!
# Surfaces in memory files

A client may make a memory file and have a surface mapped into it. If the file is as large as the
descriptor says, the mapping is made, and nothing refuses an access to it: pictures are written
into the surface and copied out of it without fail.

* `Surface.Opens`: a surface that no access is refused to.
* `write_ok`, `download_ok`: such a surface is written and read.
* `Descriptor.packed`: the descriptor of an NV12 picture.
* `shared_file`: a file that is mapped.
* `make_nv12_file`: the surface that it makes.
-/

namespace AvcDriver

open Engine (Picture)
open Memory (Mapping Place)

/-! ## Reading planes -/

/-- A plane that lies in memory is copied to where it is asked for. -/
theorem Memory.Mapping.downloadPlane_ok {m : Mapping} {store : MemoryStore} {index : Nat}
    (h : m.Backed store.size index) {target : Memory} {offset stride rows : Nat}
    (hoffset : offset ≤ target.size) (harea : stride * rows < 2 ^ 64) (width : Nat) :
    ∃ result, m.downloadPlane store index target offset stride width rows = .ok result := by
  obtain ⟨place, hplace, hlt⟩ := h
  have hcontents : place.contents store = .ok store[place.memory.index] := by
    rw [Place.contents, MemoryStore.find?, Array.getElem?_eq_getElem hlt]
  let goal : Window := { start := offset, size := target.size - offset, stride }
  have harea : goal.stride * rows < 2 ^ 64 := harea
  obtain ⟨result, hcopy⟩ :=
    copyPlane_ok store[place.memory.index] place.window target width harea
  refine ⟨result, ?_⟩
  rw [downloadPlane, hplace, ok_bind, hcontents, ok_bind]
  dsimp only
  rw [if_neg (Nat.not_lt.2 hoffset)]
  exact hcopy

namespace Surface

variable {s : Surface} {store : MemoryStore}

/-- A surface with memory that no access is refused to. -/
def Opens (s : Surface) : Prop :=
  ∃ mapping, s.mapping = some mapping ∧ mapping.beginAccess = .ok ()

/-- Any picture is written into it. -/
theorem write_ok (hopens : s.Opens) (hplaced : s.Placed store.size) (picture : Picture) :
    ∃ store', s.write store picture = .ok (true, store') := by
  obtain ⟨mapping, hmapping, hbegin⟩ := hopens
  obtain ⟨hluma, hchroma⟩ := hplaced mapping hmapping
  obtain ⟨store', hwrite⟩ := writeMapping_ok (s := s) hluma hchroma picture
  refine ⟨store', ?_⟩
  simp only [write, hmapping, hbegin, hwrite]
  rfl

/-- It is copied into any memory that an image may be laid out in. -/
theorem download_ok (hopens : s.Opens) (hplaced : s.Placed store.size)
    {layout : Image.Layout} {target : Memory} {width height : UInt32}
    (hluma : layout.luma.offset ≤ target.size) (hchroma : layout.chroma.offset ≤ target.size)
    (hlumaArea : layout.luma.stride * height.toNat < 2 ^ 64)
    (hchromaArea : layout.chroma.stride * halfUp height.toNat < 2 ^ 64) :
    ∃ result, s.download store width height layout target = (.ok true, result) := by
  obtain ⟨mapping, hmapping, hbegin⟩ := hopens
  obtain ⟨hbacked, hbacked'⟩ := hplaced mapping hmapping
  obtain ⟨between, hfirst⟩ :=
    Mapping.downloadPlane_ok hbacked hluma hlumaArea width.toNat
  have hsize : between.size = target.size := by
    obtain ⟨_, hplace, -⟩ := hbacked
    obtain ⟨_, -, -, hcopy⟩ := Mapping.downloadPlane_eq_ok hfirst hplace
    exact Memory.size_copyPlane hcopy
  obtain ⟨result, hsecond⟩ := Mapping.downloadPlane_ok hbacked' (hsize ▸ hchroma) hchromaArea
    (roundUpEven width.toNat)
  refine ⟨result, ?_⟩
  simp only [download, hmapping, hbegin, hfirst, hsecond]

/-! ## Descriptors -/

/-- The bytes of an NV12 picture. -/
def nv12Size (width height : UInt32) : Nat :=
  roundUpEven width.toNat * height.toNat + roundUpEven width.toNat * halfUp height.toNat

/-- The descriptor of an NV12 picture whose size has a word. -/
def Descriptor.packed (source : Memory.Source) (width height : UInt32) : Descriptor :=
  let planeAt (offset : Nat) : DescribedPlane :=
    { object := 0, offset := UInt32.ofNat offset, pitch := UInt32.ofNat (roundUpEven width.toNat) }
  { fourcc := fourccNv12
    width
    height
    objects := [{ source, size := UInt32.ofNat (nv12Size width height), modifier := 0 }]
    layers := [{
      format := fourccNv12
      planes := [planeAt 0, planeAt (roundUpEven width.toNat * height.toNat)] }] }

theorem Descriptor.nv12_of_words (source : Memory.Source) {width height : UInt32}
    (hpitch : roundUpEven width.toNat < 2 ^ 32) (hsize : nv12Size width height < 2 ^ 32) :
    Descriptor.nv12 source width height = .ok (packed source width height) := by
  rw [nv12Size] at hsize
  refine bind_eq_ok.2 ⟨_, checkedWord_eq_ok.2 ⟨hpitch, rfl⟩, ?_⟩
  refine bind_eq_ok.2 ⟨_, checkedWord_eq_ok.2 ⟨by omega, rfl⟩, ?_⟩
  refine bind_eq_ok.2 ⟨_, checkedWord_eq_ok.2 ⟨by omega, rfl⟩, ?_⟩
  exact bind_eq_ok.2 ⟨_, checkedWord_eq_ok.2 ⟨hsize, rfl⟩, rfl⟩

theorem Descriptor.nv12_of_size_lt (source : Memory.Source) {width height : UInt32}
    (hheight : height ≠ 0) (hsize : nv12Size width height < 2 ^ 32) :
    Descriptor.nv12 source width height = .ok (packed source width height) := by
  have hpos : 0 < height.toNat := UInt32.pos_iff_ne_zero.2 hheight
  have hpitch := Nat.le_mul_of_pos_right (roundUpEven width.toNat) hpos
  refine nv12_of_words source ?_ hsize
  rw [nv12Size] at hsize
  omega

/-- A descriptor of a picture whose size has no word overflows. -/
theorem Descriptor.nv12_overflows (source : Memory.Source) {width height : UInt32}
    (hsize : 2 ^ 32 ≤ nv12Size width height) :
    Descriptor.nv12 source width height = .error .overflow := by
  have hlarge : checkedWord 32 (nv12Size width height) = .error .overflow :=
    checkedWord_eq_error (Nat.not_lt.2 hsize)
  refine checkedWord_bind_overflows (checkedWord_bind_overflows (checkedWord_bind_overflows ?_))
  rw [← nv12Size, hlarge]
  rfl

/-! ## Surfaces of descriptors -/

/-- Planes inside a region reach no further than it does. -/
theorem reachOf_eq_of_endsIn {region : Memory.Region} {planes : List Memory.Plane}
    (h : ∀ plane ∈ planes, plane.EndsIn region) (object : Nat) :
    Memory.Mapper.reachOf object region.size planes = .ok region.size := by
  induction planes with
  | nil => rfl
  | cons plane rest ih =>
    obtain ⟨hends, hrest⟩ := List.forall_mem_cons.1 h
    rw [Memory.Mapper.reachOf]
    split
    · rw [Memory.Plane.stop_eq_ok.2 ⟨hends.word, rfl⟩, ok_bind, Nat.max_eq_left hends.inside]
      exact ih hrest
    · exact ih hrest

theorem mapSource_file {memory : MemoryRef} {file : Memory}
    (hfile : store.find? memory = some file) {needed : Nat}
    (h : Memory.Mapper.checkMappable file.size needed = .ok ()) :
    Memory.Mapper.mapSource (.file memory) needed store =
      .ok ({ memory, size := needed }, store) := by
  have hopened : (Memory.Source.opened (.file memory)).run store = (.file memory, store) := rfl
  simp only [Memory.Mapper.mapSource, hopened, hfile, h, ok_bind]
  rfl

/-- **A file is mapped** whole, if it is not empty and no plane reaches behind it. -/
theorem shared_file {memory : MemoryRef} {file : Memory} (hfile : store.find? memory = some file)
    {size : UInt32} (hpos : 0 < size.toNat) (hsize : size.toNat = file.size)
    {planes : List Memory.Plane} {mapping : Mapping}
    (hmake : Mapping.make #[{ memory, size := size.toNat }] planes = .ok mapping) (earlier : Nat) :
    Memory.Mapper.shared earlier ⟨[{ source := .file memory, size }], planes⟩ store =
      .ok (mapping, store) := by
  let region : Memory.Region := { memory, size := size.toNat }
  have hends : ∀ plane ∈ planes, plane.EndsIn region := by
    intro plane hmem
    obtain ⟨found, hfound, hends⟩ := (Mapping.make_eq_ok.1 hmake).1 plane hmem
    have hmem : found ∈ #[region] := Array.mem_of_getElem? hfound
    obtain rfl : found = region := by simpa using hmem
    exact hends
  have hreach : Memory.Mapper.reachOf 0 size.toNat planes = .ok size.toNat :=
    reachOf_eq_of_endsIn hends 0
  have hmappable : Memory.Mapper.checkMappable file.size size.toNat = .ok () := by
    have hroom : size.toNat < Memory.Mapper.addressSpace :=
      Nat.lt_trans size.toNat_lt (by decide)
    rw [← hsize, Memory.Mapper.checkMappable, if_neg (Nat.lt_irrefl _), if_neg (Nat.ne_of_gt hpos),
      if_neg (Nat.not_le.2 hroom)]
  have hobjects : Memory.Mapper.mapObjects planes 0 store [{ source := .file memory, size }] =
      .ok ([region], store) := by
    rw [Memory.Mapper.mapObjects, hreach, mapError_ok, ok_bind, mapSource_file hfile hmappable]
    rfl
  exact bind_eq_ok.2 ⟨_, hobjects, bind_eq_ok.2 ⟨_, hmake, rfl⟩⟩

/-- What made a surface with attributes is the mapper. -/
theorem asksMapper_of_make {mapper : Memory.Mapper} {earlier id : Nat}
    {format width height : UInt32} {attributes : List Attribute} {made : Surface × MemoryStore}
    (hsome : attributes.isEmpty = false)
    (h : make mapper earlier id format width height attributes store = .ok made) :
    asksMapper format width height attributes = true := by
  rw [make, hsome] at h
  obtain ⟨request, hrequest, -⟩ := bind_eq_ok.1 h
  rw [asksMapper, hsome, mapError_eq_ok.1 hrequest]
  rfl

/-- **An NV12 descriptor of a memory file** that is as large as it says makes a surface in it, which
has room for its pictures and opens. -/
theorem make_nv12_file {width height : UInt32} (hwidth : width ≠ 0) (hheight : height ≠ 0)
    {memory : MemoryRef} {d : Descriptor} (h : Descriptor.nv12 (.file memory) width height = .ok d)
    {file : Memory} (hfile : store.find? memory = some file)
    (hsize : ∀ o ∈ d.objects, o.size.toNat = file.size) (earlier id : Nat) :
    ∃ s luma chroma,
      make Memory.Mapper.shared earlier id Config.formatYuv420 width height d.attributes store =
        .ok (s, store) ∧
      s.id = id ∧ s.width = width ∧ s.height = height ∧ s.fourcc = fourccNv12 ∧ s.Opens ∧
      s.Roomy luma chroma ∧ luma.memory = memory ∧ chroma.memory = memory := by
  obtain ⟨pitch, size, hpitch, hfull, offset, hoffset, rfl⟩ := Descriptor.nv12_eq_ok h
  have hrequest := importRequest_nv12 (.file memory) pitch size offset hwidth hheight
  have hfileSize : size.toNat = file.size := hsize _ (List.mem_singleton_self _)
  let region : Memory.Region := { memory, size := size.toNat }
  obtain ⟨hmake, luma, chroma, hluma, hchroma, hroomy⟩ :=
    nv12Mapping_roomy hpitch hfull hoffset (show region.size = size.toNat from rfl)
  have hpos : 0 < size.toNat := by
    have hwide : 0 < width.toNat := UInt32.pos_iff_ne_zero.2 hwidth
    have hhigh : 0 < height.toNat := UInt32.pos_iff_ne_zero.2 hheight
    rw [hfull, hpitch]
    exact Nat.add_pos_left
      (Nat.mul_pos (Nat.lt_of_lt_of_le hwide (le_roundUpEven _)) hhigh) _
  have hmapping := shared_file hfile hpos hfileSize hmake earlier
  exact ⟨_, luma, chroma, bind_eq_ok.2 ⟨_, mapError_eq_ok.2 hrequest, bind_eq_ok.2
    ⟨_, mapError_eq_ok.2 hmapping, rfl⟩⟩, rfl, rfl, rfl, rfl, ⟨_, rfl, rfl⟩, hroomy _ rfl rfl,
    hluma, hchroma⟩

end Surface

end AvcDriver
