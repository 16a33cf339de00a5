import HotReload.Digest.Sha256

/-!
# Content hashes

A content hash covers a sequence of chunks. `frame` writes each chunk after its length, so where one
chunk ends and the next begins is part of what is hashed.
-/

namespace HotReload.Digest

/-- The eight bytes of a number below 2 to the 64, lowest first. -/
def lengthBytes (n : Nat) : List UInt8 :=
  (List.range 8).map fun i => .ofNat (n / Nat.pow 256 i)

/-- The chunks one after the other, each preceded by its length. -/
def frame (chunks : List ByteArray) : List UInt8 :=
  chunks.flatMap fun chunk => lengthBytes chunk.size ++ chunk.data.toList

/-- Two lower-case hexadecimal digits for each byte. -/
def hex (bytes : List UInt8) : String :=
  .ofList (bytes.flatMap fun b => [Nat.digitChar (b.toNat / 16), Nat.digitChar (b.toNat % 16)])

/-- The hash of a sequence of chunks, in hexadecimal. -/
def ofChunks (chunks : List ByteArray) : String :=
  hex (Sha256.hash ⟨(frame chunks).toArray⟩)

/-- The first twelve digits of a hash, for display. -/
def short (hash : String) : String :=
  .ofList (hash.toList.take 12)

end HotReload.Digest
