import MonitoringUpkeep.Kind
import MonitoringUpkeep.Value.Agreement
import MonitoringUpkeep.Value.Text

/-!
# Failures

What can go wrong, by cause: an answer of the cluster API, a fault of the transport, a value that
does not have the shape its reader relies on, a refused setting, or the outcome of a wait. The
wording of each stands in `Failure.message`; what comes from outside the program brings its own.
-/

namespace MonitoringUpkeep

/-- How a value fails to have the shape that its reader relies on. -/
inductive Misfit where
  /-- it lacks an operation that all values of the expected kind have -/
  | noMember (type member : String)
  /-- it holds no parts that could be looked up -/
  | noParts (type : String)
  /-- a name is looked up in an array, which has positions only -/
  | nameIntoArray
  /-- a name is looked up in a text, which has positions only -/
  | nameIntoText
  /-- its parts cannot be written -/
  | noWriting (type : String)
  /-- it is no sequence -/
  | notIterable (type : String)
  /-- it is nothing that could contain something -/
  | noMembership (type : String)
  /-- only a text can be part of this text -/
  | notPartOfText (type : String)
  /-- it cannot be a part of a key -/
  | notAKey (type : String)
  /-- an item of a sequence of pairs is no sequence -/
  | notAPair (position : Nat)
  /-- it is nothing that a number could be compared with -/
  | noOrder (type : String)
  /-- two values that have no sum -/
  | noSum (left right : String)
  /-- a place below an empty path -/
  | emptyPath
  /-- arguments that do not go with what takes them -/
  | arguments (complaint : String)

/-- The three kinds of complaint about a shape. -/
inductive Misfit.Category where
  | attribute
  | type
  | index
deriving DecidableEq

namespace Misfit

def category : Misfit → Category
  | .noMember .. => .attribute
  | .emptyPath => .index
  | _ => .type

def message : Misfit → String
  | .noMember type member => s!"'{type}' object has no attribute '{member}'"
  | .noParts type => s!"'{type}' object is not subscriptable"
  | .nameIntoArray => "list indices must be integers or slices, not str"
  | .nameIntoText => "string indices must be integers, not 'str'"
  | .noWriting type => s!"'{type}' object does not support item assignment"
  | .notIterable type => s!"'{type}' object is not iterable"
  | .noMembership type => s!"argument of type '{type}' is not iterable"
  | .notPartOfText type => s!"'in <string>' requires string as left operand, not {type}"
  | .notAKey type => s!"unhashable type: '{type}'"
  | .notAPair position =>
    s!"cannot convert dictionary update sequence element #{position} to a sequence"
  | .noOrder type => s!"'<' not supported between instances of '{type}' and 'int'"
  | .noSum left right => s!"unsupported operand type(s) for +=: '{left}' and '{right}'"
  | .emptyPath => "tuple index out of range"
  | .arguments complaint => complaint

end Misfit

/-- Faults that come from outside the program, with a message of their own. -/
inductive Fault where
  | protocol
  | transport
  | retriesExhausted
  | runtime
  | badValue
  | connectionReset
  | timeout
  | system
  | clientConfiguration
deriving DecidableEq

/-- What a number is used for that has a range of its own. -/
inductive Range where
  /-- as a number of the 64-bit binary format -/
  | binary
  /-- as an integer -/
  | integer
  /-- as the code of a character -/
  | character
  /-- as the width of a text -/
  | width
  /-- as the precision of a text -/
  | precision
  /-- as a number of digits -/
  | digits
  /-- as a number of seconds since a fixed moment -/
  | moment
  /-- as a year -/
  | year
deriving DecidableEq

def Range.message : Range → String
  | .binary => "int too large to convert to float"
  | .integer => "cannot convert float infinity to integer"
  | .character => "%c arg not in range(0x110000)"
  | .width => "Python int too large to convert to C ssize_t"
  | .precision => "Python int too large to convert to C int"
  | .digits => "precision too large"
  | .moment => "timestamp out of range for platform time_t"
  | .year => "signed integer is greater than maximum"

/-- What went wrong. -/
inductive Failure where
  /-- the cluster API answered with an error, which its client words -/
  | api (status reason body : Value) (text : String)
  /-- a fault from outside the program, worded there -/
  | fault (kind : Fault) (text : Value)
  /-- an object lacks a field -/
  | missingKey (key : Value)
  /-- there is no object of a kind under a namespace and a name -/
  | missingObject (kind : Kind) (space name : Value)
  /-- a value has the wrong shape -/
  | misfit (m : Misfit)
  /-- an item of a sequence of pairs has another length than two -/
  | notTwo (position length : Nat)
  /-- a number is beyond the range of what it is used for -/
  | overflow (use : Range)
  /-- a text that is longer than any that is written -/
  | tooLong
  /-- a text with characters that no byte stands for: the first of them, its position, and how many
      follow each other there -/
  | notBytes (first : Char) (position count : Nat)
  /-- a kind that the program does not know -/
  | unknownKind (kind : Value)
  /-- the namespace of the program is blank -/
  | blankNamespace
  /-- a variable that is no integer -/
  | notAnInteger (name : String)
  /-- a variable below its smallest value -/
  | belowMinimum (name : String) (minimum value : Int)
  /-- a variable above its largest value -/
  | aboveMaximum (name : String) (maximum value : Int)
  /-- a gate that would have no time to change -/
  | timeoutNotPositive
  /-- a gate that would be polled at a negative interval -/
  | intervalNegative
  /-- the gate needs more workers than the cluster has -/
  | singleWorker
  /-- the cluster refused to change the gate -/
  | gateRejected (reason : Value)
  /-- a condition was not observed in time; `last` is the latest failure to evaluate it -/
  | waitTimeout (condition seconds : Value) (last : Option Failure)
  /-- the program was stopped while waiting -/
  | waitCancelled (condition : Value)

namespace Failure

/-- A complaint about the shape of a value, by the name of its kind. -/
def noMember (v : Value) (member : String) : Failure := .misfit (.noMember v.typeName member)

/-- The API's answer for an object that does not exist. -/
def notFound : Failure := .api (.int 404) "Not Found" .null "(404)\nReason: Not Found\n"

/-- The API's answer for an object that exists already. -/
def alreadyExists : Failure :=
  .api (.int 409) "AlreadyExists" .null "(409)\nReason: AlreadyExists\n"

/-- Whether the API answered that the object does not exist. -/
def isNotFound : Failure → Bool
  | .api status .. => decide (status ≈ .int 404)
  | _ => false

def isApi : Failure → Bool
  | .api .. => true
  | _ => false

/-- Failures after which the same request may succeed later: answers of the API and faults of the
    transport. -/
def isRetryable : Failure → Bool
  | .api .. | .fault .protocol _ | .fault .transport _ | .fault .retriesExhausted _ => true
  | _ => false

/-- Whether a status is one of the given codes; only a value that can be part of a key can be looked
    up among them. -/
def statusAmong (status : Value) (codes : List Int) : Except Failure Bool :=
  match status with
  | .arr _ | .obj _ => .error (.misfit (.notAKey status.typeName))
  | _ => .ok (codes.any fun code => decide (status ≈ .int code))

def gateName : String := "EnableManagedTenantQuota"

def message : Failure → String
  | .api _ _ _ text => text
  | .fault _ text => text.display
  | .missingKey key => key.literal
  | .missingObject kind space name =>
    s!"(<ResourceKind.{kind.constant}: '{kind.name}'>, {space.literal}, {name.literal})"
  | .misfit m => m.message
  | .notTwo position length =>
    s!"dictionary update sequence element #{position} has length {length}; 2 is required"
  | .overflow use => use.message
  | .tooLong => ""
  | .notBytes first position count =>
    let place :=
      if count = 1 then s!"character '{Text.escape first}' in position {position}"
      else s!"characters in position {position}-{position + count - 1}"
    s!"'latin-1' codec can't encode {place}: ordinal not in range(256)"
  | .unknownKind kind => s!"{kind.literal} is not a valid ResourceKind"
  | .blankNamespace => "OPERATOR_NAMESPACE must be a non-empty string"
  | .notAnInteger name => s!"{name} must be an integer"
  | .belowMinimum name minimum value => s!"{name} must be >= {minimum}, got: {value}"
  | .aboveMaximum name maximum value => s!"{name} must be <= {maximum}, got: {value}"
  | .timeoutNotPositive => "timeout_seconds must be > 0"
  | .intervalNegative => "interval_seconds must be >= 0"
  | .singleWorker => s!"the {gateName} feature gate is not supported on a single worker cluster"
  | .gateRejected reason => s!"the {gateName} feature gate change was rejected: {reason.display}"
  | .waitTimeout condition seconds last =>
    let timedOut := s!"timed out after {seconds.general}s waiting for {condition.display}"
    match last with
    | none => timedOut
    | some failure => s!"{timedOut} (last error: {failure.message})"
  | .waitCancelled condition => s!"cancelled while waiting for {condition.display}"

/-- The full name of a kind of failure, as it stands in front of its message in a log. -/
def title : Failure → String
  | .api .. => "kubernetes.client.exceptions.ApiException"
  | .fault .retriesExhausted _ => "urllib3.exceptions.MaxRetryError"
  | .fault .protocol _ => "urllib3.exceptions.ProtocolError"
  | .fault .transport _ => "urllib3.exceptions.HTTPError"
  | .fault .clientConfiguration _ => "kubernetes.config.config_exception.ConfigException"
  | .fault .runtime _ => "RuntimeError"
  | .fault .connectionReset _ => "ConnectionResetError"
  | .fault .timeout _ => "TimeoutError"
  | .fault .system _ => "OSError"
  | .missingKey _ | .missingObject .. => "KeyError"
  | .misfit m =>
    match m.category with
    | .attribute => "AttributeError"
    | .type => "TypeError"
    | .index => "IndexError"
  | .overflow _ => "OverflowError"
  | .tooLong => "MemoryError"
  | .notBytes .. => "UnicodeEncodeError"
  | .blankNamespace => "monitoring.src.config.ConfigError"
  | .singleWorker | .gateRejected _ => "monitoring.src.feature_gate.FeatureGateRejectedError"
  | .waitTimeout .. => "monitoring.src.feature_gate.WaitTimeoutError"
  | .waitCancelled _ => "monitoring.src.feature_gate.WaitCancelledError"
  | .fault .badValue _ | .notTwo .. | .unknownKind _ | .notAnInteger _ | .belowMinimum ..
  | .aboveMaximum .. | .timeoutNotPositive | .intervalNegative => "ValueError"

/-- The text of a failure without the places that it came through: its full name, and its message if
    there is one. -/
def summary (f : Failure) : String :=
  if f.message.isEmpty then f.title else f.title ++ ": " ++ f.message

end Failure

def Kind.ofValue (v : Value) : Except Failure Kind :=
  match v with
  | .str s =>
    match Kind.ofName? s with
    | some k => .ok k
    | none => .error (.unknownKind v)
  | _ => .error (.unknownKind v)

end MonitoringUpkeep
