import AvcDriver.Engine.Script
import AvcDriver.Proofs.Driver.Step

/-!
# Images and their buffers

An image has a buffer of its own, under a handle of its own, and both kinds of handles are
issued again when they are free. A client may send any requests in any order; the images
that are live and the buffers that no context owns still go together, one for one. The
argument is about which buffer is meant, not about which handle it has: a reference that
was given out once is never given out again.

* `Custody`: images and buffers go together, kept by every step.
* `image_buffers_paired`: what that says about every driver and its next request.
-/

namespace AvcDriver

theorem Buffer.make_eq_ok {id size : Nat} {context : Option Nat} {kind : BufferKind}
    {data : Option Block} {buffer : Buffer} (h : make id context kind size data = .ok buffer) :
    buffer.id = id ∧ buffer.context = context := by
  rcases data with _ | block
  · obtain ⟨memory, -, hbuffer⟩ := bind_eq_ok.1 h
    cases hbuffer
    exact ⟨rfl, rfl⟩
  · rw [make] at h
    split at h
    · cases h
      exact ⟨rfl, rfl⟩
    · cases h

namespace Driver

open AvcDriver.Action (Ends)
open Engine (Factory)

variable {ε : Type} {d : Driver ε}

/-- Images and buffers go together. -/
structure Custody (d : Driver ε) : Prop extends d.AtRest where
  /-- a live buffer is there and knows its handle, so no two handles lead to one buffer -/
  stored : ∀ handle target, d.buffers.find? handle = some target →
    ∃ buffer, d.bufferStore[target.index]? = some buffer ∧ buffer.id = handle
  /-- the buffer of an image is live, and no context owns it -/
  held : ∀ handle image, d.images.find? handle = some image →
    d.buffers.find? image.bufferHandle = some image.buffer ∧ d.isOwned image.buffer = false
  /-- a buffer that no context owns is the buffer of an image -/
  adopted : ∀ handle target, d.buffers.find? handle = some target → d.isOwned target = false →
    ∃ imageHandle image, d.images.find? imageHandle = some image ∧ image.bufferHandle = handle
  /-- no two images have one buffer -/
  apart : ∀ handle handle' image image', d.images.find? handle = some image →
    d.images.find? handle' = some image' → image.bufferHandle = image'.bufferHandle →
      handle = handle'

theorem custody_make (settings : Settings) (mapper : Memory.Mapper) (factory : Factory ε) :
    (make settings mapper factory).Custody where
  toAtRest := atRest_make settings mapper factory
  stored := by rintro _ _ ⟨⟩
  held := by rintro _ _ ⟨⟩
  adopted := by rintro _ _ ⟨⟩
  apart := by rintro _ _ _ _ ⟨⟩

/-! ## What changes do to buffers -/

theorem isOwned_setMemory (target other : BufferRef) (memory : Memory) :
    isOwned { d with
      bufferStore := d.bufferStore.modify target.index fun buffer =>
        { buffer with memory } } other = d.isOwned other := by
  rw [isOwned, Array.getElem?_modify, isOwned]
  split
  · rw [Option.any_map]
  · rfl

section WithBuffer

variable {handle : Nat} {buffers : Handle.Table BufferRef}

theorem find?_withBuffer (hreserve : d.buffers.reserve = .ok (handle, buffers)) (buffer : Buffer)
    (other : Nat) : (d.withBuffer handle buffers buffer).buffers.find? other =
      if other = handle then some ⟨d.bufferStore.size⟩ else d.buffers.find? other :=
  Handle.Table.find?_reserve_commit hreserve other _

theorem isOwned_withBuffer_old {buffer : Buffer} {target : BufferRef}
    (h : target.index < d.bufferStore.size) :
    (d.withBuffer handle buffers buffer).isOwned target = d.isOwned target := by
  rw [isOwned, withBuffer, Array.getElem?_push_lt h, isOwned, Array.getElem?_eq_getElem h]

theorem isOwned_withBuffer_new (handle : Nat) (buffers : Handle.Table BufferRef)
    (buffer : Buffer) :
    (d.withBuffer handle buffers buffer).isOwned ⟨d.bufferStore.size⟩ = buffer.context.isSome := by
  rw [isOwned, withBuffer, Array.getElem?_push_size, Option.any_some]

end WithBuffer

namespace Custody

theorem lt_size (hd : d.Custody) {handle : Nat} {target : BufferRef}
    (h : d.buffers.find? handle = some target) : target.index < d.bufferStore.size := by
  obtain ⟨buffer, hbuffer, -⟩ := hd.stored handle target h
  exact (Array.getElem?_eq_some_iff.1 hbuffer).1

/-- No two handles lead to one buffer. -/
theorem handle_unique (hd : d.Custody) {handle handle' : Nat} {target : BufferRef}
    (h : d.buffers.find? handle = some target) (h' : d.buffers.find? handle' = some target) :
    handle = handle' := by
  obtain ⟨buffer, hbuffer, rfl⟩ := hd.stored handle target h
  obtain ⟨buffer', hbuffer', rfl⟩ := hd.stored handle' target h'
  rw [Option.some.inj (hbuffer.symm.trans hbuffer')]

/-- There are no more images than buffers, as each image has a buffer of its own. -/
theorem size_images_le (hd : d.Custody) : d.images.size ≤ d.buffers.size := by
  let bufferHandle (handle : Nat) : Nat := (d.images.find? handle).elim 0 (·.bufferHandle)
  have hfind : ∀ handle ∈ d.images.handles, ∃ image, d.images.find? handle = some image ∧
      bufferHandle handle = image.bufferHandle := by
    intro handle hmem
    obtain ⟨image, himage⟩ := Handle.Table.mem_handles_iff.1 hmem
    exact ⟨image, himage, by simp only [bufferHandle, himage, Option.elim_some]⟩
  have hnodup : (d.images.handles.map bufferHandle).Nodup := by
    refine List.Nodup.map_on ?_ hd.images.nodup
    intro handle hmem handle' hmem' heq
    obtain ⟨image, himage, hbuffer⟩ := hfind handle hmem
    obtain ⟨image', himage', hbuffer'⟩ := hfind handle' hmem'
    exact hd.apart _ _ _ _ himage himage' (hbuffer.symm.trans (heq.trans hbuffer'))
  have hsub : d.images.handles.map bufferHandle ⊆ d.buffers.handles := by
    intro other hmem
    obtain ⟨handle, hhandle, rfl⟩ := List.mem_map.1 hmem
    obtain ⟨image, himage, hbuffer⟩ := hfind handle hhandle
    exact Handle.Table.mem_handles_iff.2 ⟨_, hbuffer ▸ (hd.held handle image himage).1⟩
  have hle := List.Nodup.length_le_of_subset hnodup hsub
  rwa [List.length_map, Handle.Table.handles, Handle.Table.handles, List.length_map,
    List.length_map] at hle

/-- If there is a handle for the buffer of an image, there is one for the image. -/
theorem reserve_image (hd : d.Custody) {handle : Nat} {buffers : Handle.Table BufferRef}
    (h : d.buffers.reserve = .ok (handle, buffers)) :
    ∃ images, d.images.reserve = .ok (d.images.next, images) := by
  refine hd.images.allocated.reserve_eq_ok ?_
  have hroom := hd.buffers.allocated.length_lt_max h
  have hle := hd.size_images_le
  rw [Handle.Table.length_taken, hd.buffers.reserved, List.length_nil] at hroom
  rw [Handle.Table.length_taken, hd.images.reserved, List.length_nil]
  exact Nat.lt_of_le_of_lt hle hroom

/-- The buffer that goes with an image is found under its handle. -/
theorem removeIf_eq_buffersWithout (hd : d.Custody) {handle : Nat} {image : Image}
    (h : d.images.find? handle = some image) :
    d.buffers.removeIf image.bufferHandle (· = image.buffer) =
      some (image.buffer, d.buffersWithout image) := by
  obtain ⟨buffers, hremove⟩ : ∃ buffers,
      d.buffers.removeIf image.bufferHandle (· = image.buffer) = some (image.buffer, buffers) :=
    ⟨_, Handle.Table.removeIf_eq_some.2 ⟨(hd.held handle image h).1, decide_eq_true rfl, rfl⟩⟩
  rw [buffersWithout, hremove]

/-! ## Steps -/

section WithBuffer

variable {handle : Nat} {buffers : Handle.Table BufferRef} {buffer : Buffer}

/-- What was found is found under the same handle. -/
theorem find?_withBuffer_old (hd : d.Custody)
    (hreserve : d.buffers.reserve = .ok (handle, buffers)) {other : Nat} {target : BufferRef}
    (h : d.buffers.find? other = some target) :
    (d.withBuffer handle buffers buffer).buffers.find? other = some target := by
  rw [find?_withBuffer hreserve, if_neg, h]
  rintro rfl
  rw [hd.buffers.allocated.find?_reserve hreserve] at h
  cases h

/-- What is found is the new buffer, or was found before. -/
theorem find?_withBuffer_cases (hreserve : d.buffers.reserve = .ok (handle, buffers))
    (buffer : Buffer) {other : Nat} {target : BufferRef}
    (h : (d.withBuffer handle buffers buffer).buffers.find? other = some target) :
    (other = handle ∧ target = ⟨d.bufferStore.size⟩) ∨ d.buffers.find? other = some target := by
  rw [find?_withBuffer hreserve] at h
  split at h
  · next heq => exact .inl ⟨heq, (Option.some.inj h).symm⟩
  · exact .inr h

theorem stored_withBuffer (hd : d.Custody) (hreserve : d.buffers.reserve = .ok (handle, buffers))
    (hid : buffer.id = handle) {other : Nat} {target : BufferRef}
    (h : (d.withBuffer handle buffers buffer).buffers.find? other = some target) :
    ∃ found, (d.withBuffer handle buffers buffer).bufferStore[target.index]? = some found ∧
      found.id = other := by
  rcases find?_withBuffer_cases hreserve buffer h with ⟨rfl, rfl⟩ | hold
  · exact ⟨buffer, Array.getElem?_push_size, hid⟩
  · obtain ⟨found, hfound, hother⟩ := hd.stored other target hold
    exact ⟨found, (Array.getElem?_push_lt (hd.lt_size hold)).trans
      ((Array.getElem?_eq_getElem (hd.lt_size hold)).symm.trans hfound), hother⟩

/-- An image has the buffer that it had. -/
theorem held_withBuffer (hd : d.Custody) (hreserve : d.buffers.reserve = .ok (handle, buffers))
    {imageHandle : Nat} {image : Image} (h : d.images.find? imageHandle = some image) :
    (d.withBuffer handle buffers buffer).buffers.find? image.bufferHandle = some image.buffer ∧
      (d.withBuffer handle buffers buffer).isOwned image.buffer = false := by
  obtain ⟨hfind, howned⟩ := hd.held imageHandle image h
  exact ⟨hd.find?_withBuffer_old hreserve hfind,
    (isOwned_withBuffer_old (hd.lt_size hfind)).trans howned⟩

/-- A context gets a buffer. -/
theorem addBuffer (hd : d.Custody) (hrest : (d.withBuffer handle buffers buffer).AtRest)
    (hreserve : d.buffers.reserve = .ok (handle, buffers)) (hid : buffer.id = handle)
    (howned : buffer.context.isSome = true) : (d.withBuffer handle buffers buffer).Custody where
  toAtRest := hrest
  stored := fun _ _ h => hd.stored_withBuffer hreserve hid h
  held := fun _ _ h => hd.held_withBuffer hreserve h
  adopted := by
    intro other target hfind hfree
    rcases find?_withBuffer_cases hreserve buffer hfind with ⟨rfl, rfl⟩ | hold
    · rw [isOwned_withBuffer_new, howned] at hfree
      cases hfree
    · rw [isOwned_withBuffer_old (hd.lt_size hold)] at hfree
      exact hd.adopted other target hold hfree
  apart := hd.apart

/-- An image is made together with its buffer. -/
theorem addImage (hd : d.Custody) {imageHandle : Nat} {images : Handle.Table Image} {image : Image}
    (hrest : AtRest { d.withBuffer handle buffers buffer with
      images := images.commit imageHandle image })
    (hreserve : d.buffers.reserve = .ok (handle, buffers)) (hid : buffer.id = handle)
    (hfree : buffer.context = none) (himages : d.images.reserve = .ok (imageHandle, images))
    (hhandle : image.bufferHandle = handle) (hbuffer : image.buffer = ⟨d.bufferStore.size⟩) :
    Custody { d.withBuffer handle buffers buffer with
      images := images.commit imageHandle image } := by
  have hfind := Handle.Table.find?_reserve_commit himages
  -- no image has the new handle yet: it was free
  have hnew : ∀ other old, d.images.find? other = some old → old.bufferHandle ≠ handle := by
    rintro other old hold rfl
    have hlive := (hd.held other old hold).1
    rw [hd.buffers.allocated.find?_reserve hreserve] at hlive
    cases hlive
  refine ⟨hrest, fun _ _ h => hd.stored_withBuffer hreserve hid h, ?_, ?_, ?_⟩
  · intro other found h
    rw [hfind] at h
    split at h
    · cases h
      refine ⟨?_, ?_⟩
      · rw [hhandle, find?_withBuffer hreserve, if_pos rfl, hbuffer]
      · rw [hbuffer]
        exact (isOwned_withBuffer_new handle buffers buffer).trans (by rw [hfree]; rfl)
    · exact hd.held_withBuffer hreserve h
  · intro other target h howned
    rcases find?_withBuffer_cases hreserve buffer h with ⟨rfl, rfl⟩ | hold
    · refine ⟨imageHandle, image, ?_, hhandle⟩
      rw [hfind, if_pos rfl]
    · have hfree' : (d.withBuffer handle buffers buffer).isOwned target = false := howned
      rw [isOwned_withBuffer_old (hd.lt_size hold)] at hfree'
      obtain ⟨oldHandle, old, himage, rfl⟩ := hd.adopted other target hold hfree'
      refine ⟨oldHandle, old, ?_, rfl⟩
      rw [hfind, if_neg, himage]
      rintro rfl
      rw [hd.images.allocated.find?_reserve himages] at himage
      cases himage
  · intro other other' found found' h h' heq
    rw [hfind] at h h'
    split at h <;> split at h'
    · next hother hother' => rw [hother, hother']
    · cases h
      exact absurd (heq.symm.trans hhandle) (hnew _ _ h')
    · cases h'
      exact absurd (heq.trans hhandle) (hnew _ _ h)
    · exact hd.apart _ _ _ _ h h' heq

end WithBuffer

/-- A context loses a buffer. -/
theorem removeBuffer (hd : d.Custody) {handle : Nat} {target : BufferRef}
    {buffers : Handle.Table BufferRef}
    (hremove : d.buffers.removeIf handle d.isOwned = some (target, buffers)) :
    Custody { d with buffers } := by
  have hfind := Handle.Table.find?_removeIf hd.buffers.nodup hremove
  obtain ⟨htarget, howned, -⟩ := Handle.Table.removeIf_eq_some.1 hremove
  have hold : ∀ {other found}, buffers.find? other = some found →
      d.buffers.find? other = some found := by
    intro other found h
    rw [hfind] at h
    split at h
    · cases h
    · exact h
  refine ⟨{ hd.toAtRest with buffers := hd.buffers.removeIf hremove },
    fun _ _ h => hd.stored _ _ (hold h), ?_, fun _ _ h => hd.adopted _ _ (hold h), hd.apart⟩
  intro imageHandle image himage
  obtain ⟨hlive, hfree⟩ := hd.held imageHandle image himage
  refine ⟨?_, hfree⟩
  rw [hfind, if_neg, hlive]
  -- the buffer that goes has an owner, and that of an image has none
  rintro rfl
  rw [htarget] at hlive
  cases hlive
  rw [hfree] at howned
  cases howned

/-- An image goes together with its buffer. -/
theorem removeImage (hd : d.Custody) {handle : Nat} {image : Image} {images : Handle.Table Image}
    (hrest : AtRest { d with images, buffers := d.buffersWithout image })
    (hremove : d.images.remove handle = some (image, images)) :
    Custody { d with images, buffers := d.buffersWithout image } := by
  obtain ⟨himage, -, -⟩ := Handle.Table.removeIf_eq_some.1 hremove
  have hbuffer := hd.removeIf_eq_buffersWithout himage
  have hfind := Handle.Table.find?_removeIf hd.images.nodup hremove
  have hfindBuffer := Handle.Table.find?_removeIf hd.buffers.nodup hbuffer
  have hold : ∀ {other found}, images.find? other = some found →
      other ≠ handle ∧ d.images.find? other = some found := by
    intro other found h
    rw [hfind] at h
    split at h
    · cases h
    · next hne => exact ⟨hne, h⟩
  have holdBuffer : ∀ {other found}, (d.buffersWithout image).find? other = some found →
      other ≠ image.bufferHandle ∧ d.buffers.find? other = some found := by
    intro other found h
    rw [hfindBuffer] at h
    split at h
    · cases h
    · next hne => exact ⟨hne, h⟩
  refine ⟨hrest, fun _ _ h => hd.stored _ _ (holdBuffer h).2, ?_, ?_, ?_⟩
  · intro other found h
    obtain ⟨hne, h⟩ := hold h
    obtain ⟨hlive, hfree⟩ := hd.held other found h
    refine ⟨?_, hfree⟩
    rw [hfindBuffer, if_neg, hlive]
    exact fun heq => hne (hd.apart _ _ _ _ h himage heq)
  · intro other target h hfree
    obtain ⟨hne, h⟩ := holdBuffer h
    obtain ⟨imageHandle, found, hfound, rfl⟩ := hd.adopted other target h hfree
    refine ⟨imageHandle, found, ?_, rfl⟩
    rw [hfind, if_neg, hfound]
    rintro rfl
    rw [himage] at hfound
    cases hfound
    exact hne rfl
  · intro other other' found found' h h' heq
    exact hd.apart _ _ _ _ (hold h).2 (hold h').2 heq

/-- **Every step keeps images and buffers together.** -/
theorem step [Engine ε] {d' : Driver ε} (h : Step d d') (hd : d.Custody) : d'.Custody := by
  have hrest := hd.toAtRest.step h
  cases h with
  | addBuffer _ hreserve hmake =>
    obtain ⟨hid, hcontext⟩ := Buffer.make_eq_ok hmake
    exact hd.addBuffer hrest hreserve hid (by rw [hcontext]; rfl)
  | removeBuffer hremove => exact hd.removeBuffer hremove
  | setMemory _ memory =>
    refine { hd with toAtRest := hrest, stored := ?_, held := ?_, adopted := ?_ }
    · intro handle found h
      obtain ⟨buffer, hbuffer, hid⟩ := hd.stored handle found h
      rw [Array.getElem?_modify, hbuffer]
      split
      · exact ⟨_, rfl, hid⟩
      · exact ⟨_, rfl, hid⟩
    · intro handle image h
      rw [isOwned_setMemory]
      exact hd.held handle image h
    · intro handle found h hfree
      rw [isOwned_setMemory] at hfree
      exact hd.adopted handle found h hfree
  | addImage _ hbuffer hmake hreserve =>
    obtain ⟨hid, hcontext⟩ := Buffer.make_eq_ok hmake
    exact hd.addImage hrest hbuffer hid hcontext hreserve rfl rfl
  | strandBuffer _ hbuffer _ hreserve =>
    obtain ⟨images, himages⟩ := hd.reserve_image hbuffer
    rw [hreserve] at himages
    cases himages
  | removeImage hremove => exact hd.removeImage hrest hremove
  | _ => exact { hd with toAtRest := hrest }

end Custody

/-- After every history images and buffers go together. -/
theorem custody_serveAll [Engine ε] (settings : Settings) (mapper : Memory.Mapper)
    (factory : Factory ε) (history : List Request) :
    ((make settings mapper factory).serveAll history).Custody :=
  invariant_of_step Custody.step (custody_make settings mapper factory) (steps_serveAll history _)

/-! ## Destroying buffers and images -/

/-- The buffer of an image is not destroyed on its own. -/
theorem Custody.destroyBuffer_run (hd : d.Custody) {handle : Nat} {image : Image}
    (h : d.images.find? handle = some image) : (destroyBuffer image.bufferHandle).run d =
      (.error (.rejected (.invalidBuffer image.bufferHandle)), d) := by
  obtain ⟨hlive, hfree⟩ := hd.held handle image h
  have hnone : d.buffers.removeIf image.bufferHandle d.isOwned = none := by
    rw [Handle.Table.removeIf, hlive]
    dsimp only
    rw [if_neg (by rw [hfree]; exact Bool.false_ne_true)]
  rw [destroyBuffer, Action.run_get_bind, hnone]
  rfl

/-- Destroying a buffer leaves the images and their buffers. -/
theorem Custody.destroyBuffer_ends (hd : d.Custody) (bufferHandle : Nat) :
    Ends (destroyBuffer bufferHandle) d fun _ d' => d'.images = d.images ∧ d'.Custody := by
  refine Ends.get_bind (Ends.require_bind ?_ fun _ => ⟨rfl, hd⟩)
  rintro ⟨target, buffers⟩ hremove
  exact ⟨rfl, hd.removeBuffer hremove⟩

/-- An image takes its own buffer along. -/
theorem destroyImage_run {handle : Nat} {image : Image}
    (h : d.images.find? handle = some image) :
    ∃ images, d.images.remove handle = some (image, images) ∧ (destroyImage handle).run d =
      (.ok (), { d with images, buffers := d.buffersWithout image }) := by
  obtain ⟨images, hremove⟩ : ∃ images, d.images.remove handle = some (image, images) :=
    ⟨_, Handle.Table.removeIf_eq_some.2 ⟨h, rfl, rfl⟩⟩
  refine ⟨images, hremove, ?_⟩
  rw [destroyImage, Action.run_get_bind, hremove]
  rfl

theorem isOwned_eq_false {target : BufferRef} {buffer : Buffer}
    (hbuffer : d.bufferStore[target.index]? = some buffer) :
    d.isOwned target = false ↔ buffer.context = none := by
  rw [isOwned, hbuffer, Option.any_some, Option.isSome_eq_false_iff, Option.isNone_iff_eq_none]

/-- **Images and buffers without an owner are paired** after every history, however its requests
ended. An image's buffer is live under the image's own buffer handle and no other, is there, and
has no owner; a live buffer without an owner is the buffer of exactly one image. So destroying
buffers never takes an image's buffer, and destroying an image takes its own buffer and no
other. -/
theorem image_buffers_paired [Engine ε] {settings : Settings} {mapper : Memory.Mapper}
    {factory : Factory ε} {history : List Request}
    (hserved : (make settings mapper factory).serveAll history = d) :
    (∀ handle image, d.images.find? handle = some image →
      (∀ bufferHandle, d.buffers.find? bufferHandle = some image.buffer ↔
        bufferHandle = image.bufferHandle) ∧
      ∃ buffer, d.bufferStore[image.buffer.index]? = some buffer ∧ buffer.context = none) ∧
    (∀ bufferHandle target, d.buffers.find? bufferHandle = some target →
      ∃ buffer, d.bufferStore[target.index]? = some buffer ∧
        (buffer.context = none →
          ∃! handle, ∃ image, d.images.find? handle = some image ∧ image.buffer = target)) ∧
    (∀ handle image, d.images.find? handle = some image →
      (destroyBuffer image.bufferHandle).run d =
        (.error (.rejected (.invalidBuffer image.bufferHandle)), d) ∧
      ∀ bufferHandle, (d.serve (.destroyBuffer bufferHandle)).images = d.images ∧
        (d.serve (.destroyBuffer bufferHandle)).buffers.find? image.bufferHandle =
          some image.buffer) ∧
    ∀ handle image, d.images.find? handle = some image →
      ∃ d', (destroyImage handle).run d = (.ok (), d') ∧ d'.bufferStore = d.bufferStore ∧
        (∀ other, d'.images.find? other =
          if other = handle then none else d.images.find? other) ∧
        ∀ other, d'.buffers.find? other =
          if other = image.bufferHandle then none else d.buffers.find? other := by
  have hd : d.Custody := hserved ▸ custody_serveAll settings mapper factory history
  refine ⟨?_, ?_, ?_, ?_⟩
  · intro handle image himage
    obtain ⟨hlive, hfree⟩ := hd.held handle image himage
    obtain ⟨buffer, hbuffer, -⟩ := hd.stored _ _ hlive
    refine ⟨fun bufferHandle => ⟨fun h => hd.handle_unique h hlive, ?_⟩, buffer, hbuffer, ?_⟩
    · rintro rfl
      exact hlive
    · exact (isOwned_eq_false hbuffer).1 hfree
  · intro bufferHandle target hlive
    obtain ⟨buffer, hbuffer, -⟩ := hd.stored _ _ hlive
    refine ⟨buffer, hbuffer, fun hfree => ?_⟩
    obtain ⟨handle, image, himage, rfl⟩ :=
      hd.adopted _ _ hlive ((isOwned_eq_false hbuffer).2 hfree)
    have hown := (hd.held handle image himage).1
    refine ⟨handle, ⟨image, himage, Option.some.inj (hown.symm.trans hlive)⟩, ?_⟩
    rintro other ⟨found, hfound, rfl⟩
    exact hd.apart _ _ _ _ hfound himage (hd.handle_unique (hd.held other found hfound).1 hlive)
  · intro handle image himage
    refine ⟨hd.destroyBuffer_run himage, fun bufferHandle => ?_⟩
    obtain ⟨himages, hd'⟩ := hd.destroyBuffer_ends bufferHandle
    exact ⟨himages, (hd'.held handle image (himages ▸ himage)).1⟩
  · intro handle image himage
    obtain ⟨images, hremove, hrun⟩ := destroyImage_run himage
    exact ⟨_, hrun, rfl, Handle.Table.find?_removeIf hd.images.nodup hremove,
      Handle.Table.find?_removeIf hd.buffers.nodup (hd.removeIf_eq_buffersWithout himage)⟩

/-- A client destroys a buffer of its context, and an image gets a buffer under the free handle. -/
def reissuing : List Request := [
  .createConfig .h264Main .vld [],
  .createContext 0 16 16 0 [],
  .createBuffer 0 .sliceData 2 1 none,
  .createImage .nv12 4 2,
  .destroyBuffer 0,
  .createImage .nv12 2 2]

/-- The buffer under the handle that was issued again goes with its image, and only then. -/
theorem image_buffers_paired_reissued :
    let d := (make {} Memory.Mapper.heap fun _ _ => .ok ({ entries := [] } : Engine.Script)).serveAll
      reissuing
    (destroyBuffer 0).run d = (.error (.rejected (.invalidBuffer 0)), d) ∧
      ∃ d', (destroyImage 1).run d = (.ok (), d') ∧ d'.buffers.find? 0 = none ∧
        d'.buffers.find? 1 = some ⟨1⟩ := by
  intro d
  have hserved : (make {} Memory.Mapper.heap fun _ _ =>
    .ok ({ entries := [] } : Engine.Script)).serveAll reissuing = d := rfl
  obtain ⟨image, himage, hhandle⟩ : ∃ image, d.images.find? 1 = some image ∧
      image.bufferHandle = 0 := ⟨_, rfl, rfl⟩
  obtain ⟨-, -, hbuffer, hdestroy⟩ := image_buffers_paired hserved
  obtain ⟨d', hrun, -, -, hbuffers⟩ := hdestroy 1 image himage
  rw [hhandle] at hbuffers
  refine ⟨hhandle ▸ (hbuffer 1 image himage).1, d', hrun, hbuffers 0, ?_⟩
  exact (hbuffers 1).trans rfl

end Driver

end AvcDriver
