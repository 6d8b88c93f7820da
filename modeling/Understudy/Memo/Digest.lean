/-!
# Digests of texts

A 32-bit digest of a text, computed byte by byte over its encoding. The store keys its buckets by
digests of names.
-/

namespace Understudy

/-- The digest of a text: each byte is mixed in and the result multiplied by a prime. -/
def digest (text : String) : UInt32 :=
  text.toUTF8.toList.foldl (fun hash byte => (hash ^^^ byte.toUInt32) * 16777619) 2166136261

end Understudy
