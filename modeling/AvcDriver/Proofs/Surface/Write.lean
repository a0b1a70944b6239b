import AvcDriver.Proofs.Memory.Place
import AvcDriver.Surface.Basic

/-!
# Writing pictures into surfaces

A picture may have any size, strides and planes. Writing it into a surface whose planes
lie in memories of the store never stops: rows and columns beyond the surface are left
out, and the area of a plane fits its word since the plane's end does.

* `Surface.Placed`: the planes of a surface lie in memory.
* `Surface.write_never_faults`: a picture is written into such a surface, or refused.
* `Surface.size_write`: the store has as many memories as before.
-/

namespace AvcDriver

namespace Surface

variable {s : Surface} {store store' : MemoryStore}

/-- The planes of a surface, if it has any, lie in the first `count` memories. -/
def Placed (s : Surface) (count : Nat) : Prop :=
  ∀ mapping ∈ s.mapping, mapping.Backed count 0 ∧ mapping.Backed count 1

/-- Memories that are added later do not move a surface. -/
theorem Placed.mono {count count' : Nat} (h : s.Placed count) (hle : count ≤ count') :
    s.Placed count' := by
  intro mapping hmem
  obtain ⟨h₀, h₁⟩ := h mapping hmem
  exact ⟨h₀.mono hle, h₁.mono hle⟩

/-- Writing makes no memory and drops none. -/
theorem size_write {picture : Engine.Picture} {mapped : Bool}
    (h : s.write store picture = .ok (mapped, store')) : store'.size = store.size := by
  rw [write] at h
  split at h
  · cases h
    rfl
  · obtain ⟨-, -, hrest⟩ := bind_eq_ok.1 h
    obtain ⟨both, hboth, hstore⟩ := bind_eq_ok.1 hrest
    cases hstore
    obtain ⟨luma, hluma, hchroma⟩ := bind_eq_ok.1 (mapError_eq_ok.1 hboth)
    exact (Memory.Mapping.size_writePlane hchroma).trans (Memory.Mapping.size_writePlane hluma)

theorem writeMapping_ok {mapping : Memory.Mapping} (h₀ : mapping.Backed store.size 0)
    (h₁ : mapping.Backed store.size 1) (picture : Engine.Picture) :
    ∃ store', s.writeMapping mapping store picture = .ok store' := by
  obtain ⟨luma, hluma⟩ := Memory.Mapping.writePlane_ok h₀ picture.luma picture.lumaStride
    (min picture.width.toNat s.width.toNat * s.sampleSize)
    (min picture.height.toNat s.height.toNat)
  -- both planes may lie in one memory; the second one is written into the store after the first
  rw [← Memory.Mapping.size_writePlane hluma] at h₁
  obtain ⟨both, hboth⟩ := Memory.Mapping.writePlane_ok h₁ picture.chroma
    picture.chromaStride (roundUpEven (min picture.width.toNat s.width.toNat) * s.sampleSize)
    (halfUp (min picture.height.toNat s.height.toNat))
  refine ⟨both, ?_⟩
  rw [writeMapping, hluma, ok_bind]
  exact hboth

/-- **A picture is written, or its surface refuses the access**; nothing stops it. -/
theorem write_never_faults (h : s.Placed store.size) (picture : Engine.Picture)
    (cause : Fault) : s.write store picture ≠ .error (.faulted cause) := by
  rw [write]
  rcases hmapping : s.mapping with _ | mapping
  · rintro ⟨⟩
  · obtain ⟨h₀, h₁⟩ := h mapping hmapping
    obtain ⟨store', hstore⟩ := writeMapping_ok (s := s) h₀ h₁ picture
    rcases hbegin : mapping.beginAccess with _ | _
    · simp only [hbegin]
      rintro ⟨⟩
    · simp only [hbegin, hstore]
      rintro ⟨⟩

end Surface

end AvcDriver
