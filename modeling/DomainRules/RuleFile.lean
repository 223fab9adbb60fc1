import DomainRules.RuleText.Parse

/-! Rule files. A file is read whole, or line by line so that a line is decoded only when it is reached. -/

namespace DomainRules.RuleFile

inductive Access
  | whole
  | byLine
  deriving DecidableEq

/-- The lines of a file with their terminators, each still to be decoded. -/
def byteLines (bytes : List UInt8) : List (List UInt8) := RuleText.cutAfter 0x0A bytes

def source (bytes : List UInt8) : Access → RuleText.Source
  | .whole => .bytes bytes
  | .byLine => .byteLines (byteLines bytes)

/-- The decoded lines, terminators included. -/
def decodedLines (bytes : List UInt8) : Except Fault (List String) :=
  (byteLines bytes).mapM RuleText.decode

def load [Regex.Host] (bytes : List UInt8) (access : Access) (useHint : Bool) (options : Options) :
    Except Fault RuleSet :=
  RuleText.build (source bytes access) useHint options

end DomainRules.RuleFile
