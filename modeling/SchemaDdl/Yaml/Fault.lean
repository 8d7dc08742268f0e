import SchemaDdl.Loader

/-!
# Causes of unreadable documents

A text is malformed when it is not a YAML 1.1 document of known tags, and this is reported without a
word on where.  The other causes, for which loading breaks off, are scalars that do not stand for a
value of their type, and escapes that do not stand for a character.
-/

namespace SchemaDdl

namespace Yaml

inductive Fault
  | malformed
  | invalidScalar
  | characterRange (code : Nat)
  | surrogate
  | unknownTruthValue
  | unreadableTimestamp
  | timestampNotScalar
  | emptyNumber
  deriving DecidableEq

/-- What a loader gives for a fault. -/
def Fault.loadFault : Fault → LoadFault
  | .malformed => .malformed "<yaml error>"
  | .invalidScalar => .brokenOff "invalid scalar"
  | .characterRange code =>
      .brokenOff (if code < 0x80000000 then "no such character" else "character code too great")
  | .surrogate => .brokenOff "surrogate"
  | .unknownTruthValue => .brokenOff "unknown truth value"
  | .unreadableTimestamp => .brokenOff "unreadable timestamp"
  | .timestampNotScalar => .brokenOff "timestamp not a scalar"
  | .emptyNumber => .brokenOff "empty number"

end Yaml

end SchemaDdl
