/-!
# Log records

What the library reports beside its results: a level, the part of the library that speaks, and the
text.
-/

namespace ObjectStore

set_option autoImplicit false

inductive LogLevel where
  | debug
  | warning
  deriving DecidableEq, Repr

inductive LogSource where
  | upload
  | classification
  deriving DecidableEq, Repr

structure LogRecord where
  level : LogLevel
  source : LogSource
  text : String
  deriving DecidableEq, Repr

end ObjectStore
