/-!
Why bytes cannot be written or read.
-/

namespace ColumnChecks

inductive WireError where
  | unexpectedEnd (needed remaining : Nat)
  | invalidUtf8
  | textTooLong (bytes : Nat)
  | tooManyConstraints (count : Nat)
  | unsupportedVersion (token : UInt32)
  deriving DecidableEq

def WireError.message : WireError → String
  | .unexpectedEnd needed remaining =>
    s!"unexpected end of input: needed {needed} bytes, {remaining} remaining"
  | .invalidUtf8 => "invalid UTF-8 in string field"
  | .textTooLong bytes =>
    s!"string of {bytes} bytes exceeds the maximum encodable length of 65535"
  | .tooManyConstraints count =>
    s!"serialization error: too many constraints in one list: {count}"
  | .unsupportedVersion token => s!"unsupported metadata version: {token}"

end ColumnChecks
