import Understudy.Memo.Consult
import Understudy.Wire.Basic

/-!
# Settings

The sizes of the caches, how long routes are scanned, and whether the names of methods are spelled
as titles. What is not set keeps its default. Sizes of zero are refused where settings come from a
file, and count as one elsewhere.

## Main definitions

* `Settings`, `Settings.ofJson`, `Settings.toJson`: the settings and their wire form
* `Settings.defect?`: the first size that is zero
-/

namespace Understudy

/-- The settings of an engine. -/
structure Settings where
  /-- The number of digests that are remembered. -/
  digestCapacity : Nat := 10000
  /-- The number of patterns that are remembered. -/
  patternCapacity : Nat := 1000
  /-- The number of stubs from which a route is scanned in chunks. -/
  chunkThreshold : Nat := 100
  /-- The number of stubs in a chunk. -/
  chunkSize : Nat := 50
  /-- Whether the names of methods are spelled as titles before a search. -/
  titleMethods : Bool := false
deriving DecidableEq, Inhabited

namespace Settings

/-- The fields of settings, in order of position. -/
def fieldOrder : List String :=
  ["string_cache_size", "regex_cache_size", "parallel_threshold", "chunk_size", "method_title"]

/-- Reads a size of 64 bits. -/
def size (json : Json) : Reading Nat := do
  return (← Wire.required (json.intBetween? 0 (UInt64.size - 1))).toNat

/-- Sets a field. -/
def setField (key : String) (value : Json) (settings : Settings) : Reading Settings :=
  match key with
  | "string_cache_size" => do return { settings with digestCapacity := ← size value }
  | "regex_cache_size" => do return { settings with patternCapacity := ← size value }
  | "parallel_threshold" => do return { settings with chunkThreshold := ← size value }
  | "chunk_size" => do return { settings with chunkSize := ← size value }
  | "method_title" => do return { settings with titleMethods := ← Wire.flag value }
  | _ => return settings

/-- Reads settings. -/
def ofJson (json : Json) : Reading Settings :=
  Wire.record fieldOrder setField {} json

/-- The settings as a value. -/
def toJson (settings : Settings) : Json :=
  Json.object [
    ("string_cache_size", .nat settings.digestCapacity),
    ("regex_cache_size", .nat settings.patternCapacity),
    ("parallel_threshold", .nat settings.chunkThreshold),
    ("chunk_size", .nat settings.chunkSize),
    ("method_title", .bool settings.titleMethods)]

/-- The sizes that must not be zero. -/
inductive Defect where
  | digestCapacity
  | patternCapacity
  | chunkThreshold
  | chunkSize
deriving DecidableEq

/-- The message for a size that is zero. -/
def Defect.message : Defect → String
  | .digestCapacity => "string_cache_size must be greater than 0"
  | .patternCapacity => "regex_cache_size must be greater than 0"
  | .chunkThreshold =>
    "parallel_threshold must be greater than 0. " ++
      "Use a value larger than any route to keep scoring sequential"
  | .chunkSize => "chunk_size must be greater than 0"

/-- The first size that is zero. -/
def defect? (settings : Settings) : Option Defect :=
  if settings.digestCapacity = 0 then some .digestCapacity
  else if settings.patternCapacity = 0 then some .patternCapacity
  else if settings.chunkThreshold = 0 then some .chunkThreshold
  else if settings.chunkSize = 0 then some .chunkSize
  else none

/-- The empty caches of an engine. -/
def caches (settings : Settings) : Caches :=
  Caches.ofCapacities settings.patternCapacity settings.digestCapacity

end Settings

end Understudy
