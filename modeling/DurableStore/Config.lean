/-!
The options that a database is opened with, and which combinations are refused.

`Config.problem?` names the first option that does not fit.
-/

namespace DurableStore

/-- How large objects are compressed. -/
inductive Compression where
  | lzf
  | deflate
  deriving DecidableEq, Inhabited, Repr

/-- The tag stored with a compressed object. -/
def Compression.tag : Compression → String
  | .lzf => "LZF"
  | .deflate => "DEFLATE"

/-- The options of a database; what is not given is as for production use. -/
structure Config where
  /-- Nothing but scratch files is written. -/
  readOnly : Bool := false
  /-- Results of cacheable statements are reused. -/
  reuseResults : Bool := true
  /-- The write check that fails, counted from opening; zero for none. -/
  powerOffCountdown : Nat := 0
  /-- Compression of large binary objects. -/
  blobCompression : Option Compression := none
  /-- Compression of large character objects, if it is not that of binary ones. -/
  clobCompression : Option Compression := none
  /-- How many results are kept for reuse. -/
  reuseCapacity : Nat := 1024
  /-- Objects up to this many bytes are stored inline. -/
  inlineLimit : Nat := 128
  /-- The longest payload of a block. -/
  blockLimit : Nat := 16777216
  /-- Every block is forced to disk before its append returns. -/
  syncWrites : Bool := true
  deriving DecidableEq, Inhabited, Repr

namespace Config

/-- Options for tests: small limits, and nothing is forced to disk. -/
def testing : Config :=
  { reuseCapacity := 64, blockLimit := 1048576, syncWrites := false }

/-- The longest payload that the length field of a block can announce. -/
def largestBlockLimit : Nat := 4294967295

/-- What is wrong with the options, if anything is. -/
def problem? (config : Config) : Option String :=
  if config.reuseCapacity = 0 then
    some "result_cache_capacity must be > 0"
  else if config.blockLimit = 0 ∨ config.blockLimit > largestBlockLimit then
    some "max_block_size must be in [1, 4GB)"
  else if config.inlineLimit > config.blockLimit then
    some "max_length_inplace_lob must not exceed max_block_size"
  else
    none

/-- Compression of new binary objects. -/
def compressionOfBlobs (config : Config) : Option Compression :=
  config.blobCompression

/-- Compression of new character objects: their own, or else that of binary objects. -/
def compressionOfClobs (config : Config) : Option Compression :=
  config.clobCompression <|> config.blobCompression

theorem problem?_eq_none_iff (config : Config) :
    config.problem? = none ↔
      0 < config.reuseCapacity ∧ 0 < config.blockLimit ∧
        config.blockLimit ≤ largestBlockLimit ∧ config.inlineLimit ≤ config.blockLimit := by
  simp only [problem?]
  repeat' split
  all_goals simp
  all_goals omega

end Config

end DurableStore
