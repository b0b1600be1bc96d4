/-!
# Unsupported flags

The flags of older command lines that are read like any other and then refused.
-/

namespace ProtocInvocation

/-- A flag that is understood and refused. -/
inductive UnsupportedFlag where
  | encode
  | decode
  | decodeRaw
  | descriptorSetIn
  deriving DecidableEq, Repr

/-- The long name of the flag. -/
def UnsupportedFlag.name : UnsupportedFlag → String
  | .encode => "encode"
  | .decode => "decode"
  | .decodeRaw => "decode_raw"
  | .descriptorSetIn => "descriptor_set_in"

end ProtocInvocation
