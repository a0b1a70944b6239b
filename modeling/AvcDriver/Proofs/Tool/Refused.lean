import AvcDriver.Proofs.Tool.Run

/-!
# Runs that are refused

A size passes several checks before it reaches the driver's: the record has to have room for its
macroblocks, and the words of a descriptor for its picture. A run is refused where a file cannot be
used, or a size has no record or is none that surfaces can have. Between the two, the descriptor of
a picture that takes 4 GiB or more overflows, which stops the run.

* `parse_named`: the profile that arguments are read with has a name.
* `pictureParameters_isOk_iff`: which sizes have a record.
* `run_cases`: a run comes to its job, or is refused before.
* `createTarget_overflows`, `createTarget_refused`: targets of sizes that surfaces cannot have.
* `run_answered_unless_overflow`: what comes of a run, for all arguments.
* `large_size_overflows`: a size that is not told to be too large.
-/

namespace AvcDriver.Tool

open AvcDriver.Action (run_bind_ok run_bind_error run_get_bind)
open Engine (Gray)

variable {p : Progress} {width height : UInt32}

/-! ## Profiles -/

/-- Arguments whose profile has a name. -/
def Arguments.Named (a : Arguments) : Prop := ∃ name, profileNamed? name = some a.profile

/-- An option sets a profile that has a name, or none. -/
theorem Arguments.Named.set {a : Arguments} (h : a.Named) {option : String}
    {set : Arguments → String → Arguments} (hset : Arguments.setter? option = some set)
    (value : String) : (set a value).Named := by
  unfold Arguments.setter? at hset
  split at hset <;> cases hset
  case h_1 =>
    rcases hnamed : profileNamed? value with _ | profile
    · simpa [Named, hnamed] using h
    · exact ⟨value, by simp [hnamed]⟩
  all_goals exact h

/-- Options keep that the profile has a name. -/
theorem Arguments.Named.parseFrom {a parsed : Arguments} {options : List String} (h : a.Named)
    (hparsed : Arguments.parseFrom a options = .run parsed) : parsed.Named := by
  fun_induction Arguments.parseFrom a options with
  | case1 a =>
    cases hparsed
    exact h
  | case2 => cases hparsed
  | case3 a option rest hhelp hverbose ih => exact ih h hparsed
  | case4 a option hhelp hverbose set value rest hset ih => exact ih (h.set hset value) hparsed
  | case5 a option hhelp hverbose rest hrest ih => exact ih h hparsed

/-- **The profile of arguments** that were read has a name. -/
theorem parse_named {options : List String} {parsed : Arguments}
    (h : Arguments.parse options = .run parsed) : parsed.Named :=
  Arguments.Named.parseFrom ⟨"main", rfl⟩ h

/-! ## Records -/

/-- A record has room for 65536 macroblocks a side. -/
theorem macroblocksMinusOne_cases (side : Side) (pixels : UInt32) :
    (∃ blocks, macroblocksMinusOne side pixels = .ok blocks) ∧ pixels.toNat ≤ 2 ^ 20 ∨
      macroblocksMinusOne side pixels = .error (.tooLarge side pixels) ∧
        ¬ pixels.toNat ≤ 2 ^ 20 := by
  have hblocks : max ((pixels.toNat + 15) / 16) 1 - 1 < UInt16.size ↔ pixels.toNat ≤ 2 ^ 20 := by
    change _ < 65536 ↔ _
    omega
  rw [macroblocksMinusOne]
  split
  · next hroom => exact .inl ⟨⟨_, rfl⟩, hblocks.1 hroom⟩
  · next hlarge => exact .inr ⟨rfl, mt hblocks.2 hlarge⟩

theorem pictureParameters_isOk_iff : (∃ record, pictureParameters width height = .ok record) ↔
    width.toNat ≤ 2 ^ 20 ∧ height.toNat ≤ 2 ^ 20 := by
  rw [pictureParameters]
  rcases macroblocksMinusOne_cases .width width with ⟨⟨across, hacross⟩, hwide⟩ | ⟨hacross, hwide⟩
  · rcases macroblocksMinusOne_cases .height height with ⟨⟨down, hdown⟩, hhigh⟩ | ⟨hdown, hhigh⟩
    · rw [hacross, ok_bind, hdown]
      exact iff_of_true ⟨_, rfl⟩ ⟨hwide, hhigh⟩
    · rw [hacross, ok_bind, hdown]
      exact iff_of_false (by rintro ⟨_, ⟨⟩⟩) fun h => hhigh h.2
  · rw [hacross]
    exact iff_of_false (by rintro ⟨_, ⟨⟩⟩) fun h => hwide h.1

/-! ## Preparing -/

section Preparing

variable {arguments : Arguments} {files : Files}
  (hfits : ∀ path bytes, files.read path = .ok bytes → bytes.length ≤ Memory.maxSize)
include hfits

/-- A job that was prepared has a slice that its files served. -/
theorem serve_of_prepare {job : Job} (hjob : Job.prepare arguments files = .ok job)
    {dump : Session.Dump} (hcreate : arguments.createOut files = .ok dump) :
    pictureParameters arguments.width arguments.height = .ok job.record ∧
      files.Serve arguments job.slice := by
  have hout : ∀ path ∈ arguments.out, ∃ readAfter, files.create path = .ok readAfter := by
    intro path hpath
    rw [Arguments.createOut, Option.mem_def.1 hpath] at hcreate
    obtain ⟨readAfter, hcreate, -⟩ := bind_eq_ok.1 hcreate
    exact ⟨readAfter, mapError_eq_ok.1 hcreate⟩
  obtain ⟨record, hrecord, hjob⟩ := bind_eq_ok.1 hjob
  split at hjob
  · next hnone =>
    cases hjob
    refine ⟨hrecord, by rw [hnone]; rfl, by rintro ⟨⟩, by rintro _ ⟨⟩, hout⟩
  · next path hpath =>
    obtain ⟨slice, hslice, hjob⟩ := bind_eq_ok.1 hjob
    cases hjob
    unfold sliceFrom at hslice
    split at hslice
    · cases hslice
    · cases hslice
    · next bytes hne hread =>
      cases hslice
      refine ⟨hrecord, by rw [hpath, Option.map_some, hread]; rfl, ?_, ?_, hout⟩
      · rintro ⟨⟩
        exact hne rfl
      · rintro _ ⟨⟩
        exact hfits path _ hread

/-- A run comes to its job, or is refused before anything is decoded. -/
theorem run_cases : (∃ record slice,
      pictureParameters arguments.width arguments.height = .ok record ∧
        files.Serve arguments slice) ∨
    ∃ error, arguments.run files = .refused error := by
  rcases hprepare : Job.prepare arguments files with error | job
  · exact .inr ⟨error, by rw [Arguments.run, hprepare]⟩
  · rcases hcreate : arguments.createOut files with error | dump
    · refine .inr ⟨error, ?_⟩
      rw [Arguments.run, hprepare]
      dsimp only
      rw [hcreate]
    · exact .inl ⟨job.record, job.slice, serve_of_prepare hfits hprepare hcreate⟩

end Preparing

/-! ## Targets -/

/-- A request that fails changes the driver only. -/
theorem request_run_error {α : Type} {r : DriverM Gray α} {failure : Failure DriverError}
    {d : Driver Gray} (h : r.run p.driver = (.error failure, d)) :
    (request r).run p = (.error (failure.map .driver), { p with driver := d }) := by
  rw [request, run_get_bind, h]
  rfl

/-- A target without a word for its size overflows, before anyone asks whether it is too large. -/
theorem createTarget_overflows (hsize : 2 ^ 32 ≤ Surface.nv12Size width height) :
    (createTarget width height).run p = (.error (.faulted .overflow), p) := by
  rw [createTarget, targetDescriptor, Surface.Descriptor.nv12_overflows (.newFile 0) hsize]
  rfl

/-- What is wrong with a size that surfaces cannot have. -/
def sizeError (width height : UInt32) : DriverError :=
  .invalidParameter <|
    if width ≤ maxSurfaceSide ∧ height ≤ maxSurfaceSide then .emptySurface
    else .surfaceTooLarge width height

/-- A descriptor does not make up for a size of zero. -/
theorem make_empty (mapper : Memory.Mapper) (earlier id : Nat) (format : UInt32)
    (hzero : width = 0 ∨ height = 0) (described : Surface.Descriptor) (store : MemoryStore) :
    Surface.make mapper earlier id format width height described.attributes store =
      .error (.rejected (.invalidParameter .emptySurface)) := by
  have hsize : Surface.checkSize described width height = .error .emptySurface := by
    rw [Surface.checkSize, if_pos hzero]
    rfl
  have hrequest : Surface.importRequest format width height described.attributes =
      .error (.invalidParameter .emptySurface) := by
    change ((Surface.checkSize described width height).mapError DriverError.invalidParameter >>=
      _) = _
    rw [hsize]
    rfl
  rw [Surface.make, hrequest]
  rfl

/-- A surface is refused if it cannot be made. -/
theorem createSurface_refused {d : Driver Gray} (hsurfaces : d.surfaces = .empty)
    {format : UInt32} {attributes : List Surface.Attribute} {error : DriverError}
    (hmake : ∀ id, Surface.make d.mapper d.imports id format width height attributes d.memories =
      .error (.rejected error)) :
    ∃ d', (Driver.createSurface format width height attributes).run d =
      (.error (.rejected error), d') := by
  have hreserve : d.surfaces.reserve = .ok (0, { reserved := [0], next := 1 }) := by
    rw [hsurfaces]
    rfl
  rw [Driver.createSurface, run_get_bind, hreserve]
  simp only [Action.ofFaulting, pure_bind, hmake]
  split
  · exact ⟨_, rfl⟩
  · exact ⟨_, rfl⟩

/-- A driver without surfaces rejects such sizes. -/
theorem createSurfaces_refused {d : Driver Gray} (hsurfaces : d.surfaces = .empty)
    (hnot : ¬ (IsSide width ∧ IsSide height)) (size : Nat) :
    ∃ d', (Driver.createSurfaces Config.formatYuv420 width height 1
      (Surface.Descriptor.packed (.newFile size) width height).attributes).run d =
        (.error (.rejected (sizeError width height)), d') := by
  have hformat : Driver.isSurfaceFormat Config.formatYuv420 = true := rfl
  rw [Driver.createSurfaces, run_bind_ok (Driver.demand_run hformat _), sizeError]
  split
  · next hle =>
    have hzero : width = 0 ∨ height = 0 := by
      by_contra hsides
      obtain ⟨hwidth, hheight⟩ := not_or.1 hsides
      exact hnot ⟨⟨UInt32.pos_iff_ne_zero.2 hwidth, hle.1⟩,
        UInt32.pos_iff_ne_zero.2 hheight, hle.2⟩
    let memories : MemoryStore := d.memories.push (.zeros size)
    let opened := Surface.Descriptor.packed (.file ⟨d.memories.size⟩) width height
    have hopen : (Driver.openFiles
        (Surface.Descriptor.packed (.newFile size) width height).attributes).run d =
      (.ok opened.attributes, { d with memories }) := rfl
    have hlist : (Action.ofFaulting (Memory.checkSize (Driver.handleListSize 1)) :
      DriverM Gray Unit).run d = (.ok (), d) := rfl
    obtain ⟨d', hrefused⟩ := createSurface_refused (d := { d with memories }) hsurfaces
      fun id => make_empty _ _ id Config.formatYuv420 hzero opened memories
    refine ⟨d', ?_⟩
    rw [run_bind_ok (Driver.demand_run (decide_eq_true hle) _), run_bind_ok hlist,
      run_bind_ok hopen, Driver.createEach_run_refused hrefused]
  · next hlarge =>
    exact ⟨_, run_bind_error (Driver.demand_run_of_false (decide_eq_false hlarge) _)⟩

/-- Other targets of such sizes are rejected. -/
theorem createTarget_refused (hpitch : roundUpEven width.toNat < 2 ^ 32)
    (hsize : Surface.nv12Size width height < 2 ^ 32) (hnot : ¬ (IsSide width ∧ IsSide height))
    (hsurfaces : p.driver.surfaces = .empty) :
    ∃ p', (createTarget width height).run p =
      (.error (.rejected (.driver (sizeError width height))), p') := by
  obtain ⟨d, hcreate⟩ := createSurfaces_refused hsurfaces hnot
    (UInt32.ofNat (Surface.nv12Size width height)).toNat
  refine ⟨{ p with driver := d }, ?_⟩
  rw [createTarget, targetDescriptor_eq hpitch hsize]
  exact (run_bind_ok rfl).trans (run_bind_error (request_run_error hcreate))

/-! ## Runs -/

/-- A run whose target cannot be made ends there. -/
theorem execute_of_createTarget {job : Job} {config : Config}
    (hmake : Config.make 0 job.arguments.profile .vld
      [⟨Config.formatAttribute, Config.formatYuv420⟩] = .ok config)
    {failure : Failure Error}
    (htarget : ∀ p : Progress, p.driver.surfaces = .empty →
      ∃ p', (createTarget job.arguments.width job.arguments.height).run p =
        (.error failure, p')) (dump : Session.Dump) :
    (job.execute dump).result = .error failure := by
  let d : Driver Gray := driverOf dump
  have hreserve : d.configs.reserve = .ok (0, { reserved := [0], next := 1 }) := rfl
  have hconfig := request_run (p := { driver := d }) (Driver.createConfig_run hreserve hmake)
  obtain ⟨p', htarget⟩ := htarget
    { driver := { d with configs := { live := [(0, config)], next := 1 } } } rfl
  have hrun : (decodeJob job).run { driver := d } = (.error failure, p') := by
    rw [decodeJob]
    exact (run_bind_ok hconfig).trans (run_bind_error htarget)
  rw [Job.execute, hrun]

section Runs

variable {arguments : Arguments} {files : Files} {slice : Option Bytes}

/-- A run succeeds for a size that surfaces can have, if its files serve. -/
theorem run_ok (hnamed : arguments.Named) (hwidth : IsSide arguments.width)
    (hheight : IsSide arguments.height) (hfiles : files.Serve arguments slice) :
    (arguments.run files).result = .ok () := by
  obtain ⟨name, hname⟩ := hnamed
  obtain ⟨record, hrecord, hrange, horder, -⟩ := pictureParameters_eq hwidth hheight
  obtain ⟨-, coded, -, -, -, hcoded⟩ := makeConfig_of_named hname 0
  obtain ⟨sequenceSet, pictureSet, -, hheader, -⟩ := Header.headerBytes_units coded horder
    { width := arguments.width, height := arguments.height }
  have hready : Job.Ready { arguments, record, slice } coded
      [0x67 :: sequenceSet, 0x68 :: pictureSet] :=
    ⟨fits_of_isSide hwidth hheight, hrange, horder, hheader, hfiles.length_slice_le⟩
  obtain ⟨dump, hdump⟩ := createOut_ok hfiles
  rw [run_eq_execute hfiles hrecord hdump]
  exact (execute_eq hready hwidth hheight hname hcoded dump).1

/-- The files of a run serve, and its size has a record. -/
def Files.Reach (files : Files) (arguments : Arguments) : Prop :=
  arguments.width.toNat ≤ 2 ^ 20 ∧ arguments.height.toNat ≤ 2 ^ 20 ∧
    ∃ slice, files.Serve arguments slice

/-- What comes of a run that reaches its target. -/
theorem result_of_reach (hnamed : arguments.Named) (hreach : files.Reach arguments) :
    (arguments.run files).result =
      if 2 ^ 32 ≤ Surface.nv12Size arguments.width arguments.height then
        .error (.faulted .overflow)
      else if IsSide arguments.width ∧ IsSide arguments.height then .ok ()
      else .error (.rejected (.driver (sizeError arguments.width arguments.height))) := by
  obtain ⟨hwide, hhigh, slice, hfiles⟩ := hreach
  obtain ⟨record, hrecord⟩ := pictureParameters_isOk_iff.2 ⟨hwide, hhigh⟩
  obtain ⟨name, hname⟩ := hnamed
  obtain ⟨config, -, hmake, -⟩ := makeConfig_of_named hname 0
  obtain ⟨dump, hdump⟩ := createOut_ok hfiles
  rw [run_eq_execute hfiles hrecord hdump]
  split
  · next hsize =>
    exact execute_of_createTarget hmake (fun p _ => ⟨p, createTarget_overflows hsize⟩) dump
  · next hsize =>
    split
    · next hsides =>
      rw [← run_eq_execute hfiles hrecord hdump]
      exact run_ok ⟨name, hname⟩ hsides.1 hsides.2 hfiles
    · next hsides =>
      have hpitch : roundUpEven arguments.width.toNat < 2 ^ 32 := by
        rw [roundUpEven]
        omega
      refine execute_of_createTarget hmake (fun p hsurfaces => ?_) dump
      exact createTarget_refused hpitch (Nat.not_le.1 hsize) hsides hsurfaces

end Runs

/-- **What comes of a run**, for every size, every number of frames, every profile that arguments
are read with, and all files. A run that does not reach its target is refused. One that does stops
with an overflow if a picture of its size takes 4 GiB or more. It succeeds for the sizes that
surfaces can have, and of all others it is told that they are empty or too large. -/
theorem run_answered_unless_overflow {options : List String} {parsed arguments : Arguments}
    (hparsed : Arguments.parse options = .run parsed)
    (hprofile : arguments.profile = parsed.profile) {files : Files}
    (hfits : ∀ path bytes, files.read path = .ok bytes → bytes.length ≤ Memory.maxSize) :
    (¬ files.Reach arguments →
      ∃ error, (arguments.run files).result = .error (.rejected error)) ∧
    (files.Reach arguments → (arguments.run files).result =
      if 2 ^ 32 ≤ Surface.nv12Size arguments.width arguments.height then
        .error (.faulted .overflow)
      else if IsSide arguments.width ∧ IsSide arguments.height then .ok ()
      else .error (.rejected (.driver (sizeError arguments.width arguments.height)))) := by
  have hnamed : arguments.Named := by
    obtain ⟨name, hname⟩ := parse_named hparsed
    exact ⟨name, hname.trans (congrArg some hprofile.symm)⟩
  refine ⟨fun hnot => ?_, result_of_reach hnamed⟩
  obtain ⟨error, hrefused⟩ : ∃ error, arguments.run files = .refused error := by
    refine (run_cases hfits).resolve_left fun ⟨record, slice, hrecord, hfiles⟩ => hnot ?_
    obtain ⟨hwide, hhigh⟩ := pictureParameters_isOk_iff.1 ⟨record, hrecord⟩
    exact ⟨hwide, hhigh, slice, hfiles⟩
  exact ⟨error, congrArg Outcome.result hrefused⟩

/-- A size that surfaces cannot have is rejected with its numbers. -/
theorem run_answered_unless_overflow_wide :
    let options := ["--width", "5000", "--profile", "high"]
    let arguments : Arguments := { profile := .h264High, width := 5000, out := some "out.264" }
    let files : Files := { read := fun _ => .error .noSuchFile }
    Arguments.parse options = .run { profile := .h264High, width := 5000 } ∧
      (arguments.run files).result =
        .error (.rejected (.driver (.invalidParameter (.surfaceTooLarge 5000 1080)))) := by
  intro options arguments files
  have hparsed : Arguments.parse options = .run { profile := .h264High, width := 5000 } := by
    decide
  have hreach : files.Reach arguments := by
    refine ⟨by decide, by decide, none, rfl, by decide, by rintro _ ⟨⟩, fun _ _ => ⟨_, rfl⟩⟩
  obtain ⟨-, hresult⟩ :=
    @run_answered_unless_overflow options _ arguments hparsed rfl files (by rintro _ _ ⟨⟩)
  exact ⟨hparsed, (hresult hreach).trans (by decide)⟩

/-- A size that is far beyond those of surfaces, which no check gets to see. -/
theorem large_size_overflows :
    let arguments : Arguments := { width := 65536, height := 65536 }
    let files : Files := { read := fun _ => .error .noSuchFile }
    Arguments.parse ["--width", "65536", "--height", "65536"] = .run arguments ∧
      maxSurfaceSide < arguments.width ∧ maxSurfaceSide < arguments.height ∧
      (arguments.run files).result = .error (.faulted .overflow) := by
  refine ⟨by decide, by decide, by decide, ?_⟩
  exact result_of_reach ⟨"main", rfl⟩
    ⟨by decide, by decide, none, rfl, by decide, by rintro _ ⟨⟩, by rintro _ ⟨⟩⟩

end AvcDriver.Tool
