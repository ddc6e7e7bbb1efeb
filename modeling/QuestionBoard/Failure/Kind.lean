/-!
The kinds of failure and how they are related. A `FaultKind` is what a system outside the board may
raise; the classes of faults that the board treats alike are predicates on it. A `FailureKind` is
any failure, the board's own kinds included.
-/

namespace QuestionBoard

/-- The classes of faults that the board treats alike, of which a fault may belong to several. -/
structure FaultClasses where
  cacheServer : Bool := false
  system : Bool := false
  timeout : Bool := false
  httpClient : Bool := false
  database : Bool := false
  value : Bool := false
  deriving DecidableEq, Repr

/-- The kinds of fault that other systems raise. -/
inductive FaultKind
  | cacheServer
  | cacheServerConnection
  | cacheServerTimeout
  | cacheServerResponse
  | system
  | connectionRefused
  | timeout
  | fileExists
  | fileNotFound
  | isDirectory
  | notDirectory
  | permissionDenied
  | httpClient
  | httpConnection
  | httpPayload
  | httpTimeout
  | database
  | databasePoolTimeout
  | databaseRequest
  | databaseIntegrity
  | databaseOperational
  | databaseUrl
  | databasePlugin
  | databaseFile
  | databaseStatement
  | migration
  | value
  | unicodeEncode
  | type
  | key
  | attribute
  | overflow
  | runtime
  /-- A kind of a name of its own, which belongs to some of the classes. -/
  | other (name : String) (classes : FaultClasses)
  deriving DecidableEq, Repr

namespace FaultKind

def isCacheServer : FaultKind → Bool
  | .cacheServer | .cacheServerConnection | .cacheServerTimeout | .cacheServerResponse => true
  | .other _ classes => classes.cacheServer
  | _ => false

def isSystem : FaultKind → Bool
  | .system | .connectionRefused | .timeout | .fileExists | .fileNotFound | .isDirectory
  | .notDirectory | .permissionDenied | .httpTimeout => true
  | .other _ classes => classes.system
  | _ => false

/-- Whether a fault is a timeout of the system; a timeout of the HTTP client is one too. -/
def isTimeout : FaultKind → Bool
  | .timeout | .httpTimeout => true
  | .other _ classes => classes.timeout
  | _ => false

def isHttpClient : FaultKind → Bool
  | .httpClient | .httpConnection | .httpPayload | .httpTimeout => true
  | .other _ classes => classes.httpClient
  | _ => false

def isDatabase : FaultKind → Bool
  | .database | .databasePoolTimeout | .databaseRequest | .databaseIntegrity | .databaseOperational
  | .databaseUrl | .databasePlugin | .databaseFile | .databaseStatement => true
  | .other _ classes => classes.database
  | _ => false

/-- Whether a fault is a value that something else cannot work with. -/
def isValue : FaultKind → Bool
  | .value | .unicodeEncode => true
  | .other _ classes => classes.value
  | _ => false

def name : FaultKind → String
  | .cacheServer => "RedisError"
  | .cacheServerConnection => "ConnectionError"
  | .cacheServerTimeout => "TimeoutError"
  | .cacheServerResponse => "ResponseError"
  | .system => "OSError"
  | .connectionRefused => "ConnectionRefusedError"
  | .timeout => "TimeoutError"
  | .fileExists => "FileExistsError"
  | .fileNotFound => "FileNotFoundError"
  | .isDirectory => "IsADirectoryError"
  | .notDirectory => "NotADirectoryError"
  | .permissionDenied => "PermissionError"
  | .httpClient => "ClientError"
  | .httpConnection => "ClientConnectionError"
  | .httpPayload => "ClientPayloadError"
  | .httpTimeout => "ServerTimeoutError"
  | .database => "SQLAlchemyError"
  | .databasePoolTimeout => "TimeoutError"
  | .databaseRequest => "InvalidRequestError"
  | .databaseIntegrity => "IntegrityError"
  | .databaseOperational => "OperationalError"
  | .databaseUrl => "ArgumentError"
  | .databasePlugin => "NoSuchModuleError"
  | .databaseFile => "DatabaseError"
  | .databaseStatement => "ProgrammingError"
  | .migration => "CommandError"
  | .value => "ValueError"
  | .unicodeEncode => "UnicodeEncodeError"
  | .type => "TypeError"
  | .key => "KeyError"
  | .attribute => "AttributeError"
  | .overflow => "OverflowError"
  | .runtime => "RuntimeError"
  | .other name _ => name

end FaultKind

/-- The kinds of failure: the board's own, rejected fields, and the faults of other systems. -/
inductive FailureKind
  | base
  | core
  | parse
  | notFound
  | missingParameters
  | internal
  | configuration
  | validation
  | fault (kind : FaultKind)
  deriving DecidableEq, Repr

namespace FailureKind

def name : FailureKind → String
  | .base => "BaseError"
  | .core => "CoreError"
  | .parse => "ParseError"
  | .notFound => "NotFoundError"
  | .missingParameters => "MissingParametersError"
  | .internal => "InternalError"
  | .configuration => "ConfigurationError"
  | .validation => "ValidationError"
  | .fault kind => kind.name

def own : List FailureKind :=
  [.base, .core, .parse, .notFound, .missingParameters, .internal, .configuration]

/-- The kind that a kind of the board's own is a special case of. -/
def parent? : FailureKind → Option FailureKind
  | .core | .configuration => some .base
  | .parse | .notFound | .missingParameters | .internal => some .core
  | _ => none

/-- The names of a kind of the board's own and of all that it is a special case of, nearest first;
the last three are common to every failure. -/
def ancestry (kind : FailureKind) : List String :=
  let parents := match kind.parent? with
    | none => []
    | some parent => parent :: parent.parent?.toList
  (kind :: parents).map name ++ ["Exception", "BaseException", "object"]

end FailureKind

end QuestionBoard
