import HotReload.Digest.Content

/-!
# Framing

What is hashed tells where each chunk ends, so chunks whose lengths fit the eight bytes in front of
them can be told apart by it (`Digest.eq_of_frame_eq`).
-/

namespace HotReload.Digest

/-- Numbers that are written with so many bytes are told apart by them. -/
theorem eq_of_bytes_eq {count m n : Nat} (hm : m < Nat.pow 256 count) (hn : n < Nat.pow 256 count)
    (h : ∀ i < count, m / Nat.pow 256 i % 256 = n / Nat.pow 256 i % 256) : m = n := by
  induction count generalizing m n with
  | zero =>
    have hpow : Nat.pow 256 0 = 1 := rfl
    omega
  | succ count ih =>
    have hpow : ∀ i, Nat.pow 256 (i + 1) = 256 * Nat.pow 256 i := fun i => Nat.pow_succ'
    have hlow : m % 256 = n % 256 := by
      have hzero := h 0 (Nat.succ_pos count)
      rwa [show Nat.pow 256 0 = 1 from rfl, Nat.div_one, Nat.div_one] at hzero
    have hhigh : m / 256 = n / 256 := by
      rw [hpow] at hm hn
      refine ih (Nat.div_lt_of_lt_mul hm) (Nat.div_lt_of_lt_mul hn) fun i hi => ?_
      rw [Nat.div_div_eq_div_mul, Nat.div_div_eq_div_mul, ← hpow]
      exact h (i + 1) (Nat.succ_lt_succ hi)
    omega

@[simp]
theorem length_lengthBytes (n : Nat) : (lengthBytes n).length = 8 := by
  rw [lengthBytes, List.length_map, List.length_range]

theorem eq_of_lengthBytes_eq {m n : Nat} (hm : m < UInt64.size) (hn : n < UInt64.size)
    (h : lengthBytes m = lengthBytes n) : m = n := by
  have hbytes : ∀ i < 8, m / Nat.pow 256 i % 256 = n / Nat.pow 256 i % 256 := by
    intro i hi
    have hbyte := List.map_inj_left.mp h i (List.mem_range.mpr hi)
    exact congrArg UInt8.toNat hbyte
  exact eq_of_bytes_eq (show m < Nat.pow 256 8 from hm) hn hbytes

@[simp]
theorem frame_cons (chunk : ByteArray) (chunks : List ByteArray) :
    frame (chunk :: chunks) =
      lengthBytes chunk.size ++ (chunk.data.toList ++ frame chunks) := by
  rw [frame, List.flatMap_cons, List.append_assoc]
  rfl

theorem frame_cons_ne_nil (chunk : ByteArray) (chunks : List ByteArray) :
    frame (chunk :: chunks) ≠ [] := by
  intro h
  have hlength := congrArg List.length h
  rw [frame_cons, List.length_append, length_lengthBytes, List.length_nil] at hlength
  omega

/-- Two sequences of chunks that are shorter than 2 to the 64 bytes are hashed as the same bytes only
if they are the same. -/
theorem eq_of_frame_eq {chunks chunks' : List ByteArray}
    (hsize : ∀ chunk ∈ chunks, chunk.size < UInt64.size)
    (hsize' : ∀ chunk ∈ chunks', chunk.size < UInt64.size) (h : frame chunks = frame chunks') :
    chunks = chunks' := by
  induction chunks generalizing chunks' with
  | nil =>
    cases chunks' with
    | nil => rfl
    | cons chunk' chunks' => exact absurd h.symm (frame_cons_ne_nil chunk' chunks')
  | cons chunk chunks ih =>
    cases chunks' with
    | nil => exact absurd h (frame_cons_ne_nil chunk chunks)
    | cons chunk' chunks' =>
      rw [List.forall_mem_cons] at hsize hsize'
      rw [frame_cons, frame_cons] at h
      obtain ⟨hlengths, h⟩ := List.append_inj h (by simp)
      have hsizes : chunk.size = chunk'.size := eq_of_lengthBytes_eq hsize.1 hsize'.1 hlengths
      obtain ⟨hdata, hrest⟩ := List.append_inj h hsizes
      have hchunk : chunk = chunk' := ByteArray.ext (Array.toList_inj.mp hdata)
      rw [hchunk, ih hsize.2 hsize'.2 hrest]

end HotReload.Digest
