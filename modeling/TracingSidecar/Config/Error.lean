/-!
# Configuration errors
-/

namespace TracingSidecar

inductive ConfigError where
  | unknownPlatform (name : String)
  | invalidBindAddress
  | unreadableCertificate (path : String)
  deriving DecidableEq, Repr

/-- The text shown for an error. -/
def ConfigError.message : ConfigError → String
  | .unknownPlatform name => "Invalid configuration: unknown platform '" ++ name ++ "'"
  | .invalidBindAddress => "WEBHOOK_BIND_ADDRESS is not a valid socket address"
  | .unreadableCertificate path => "loading webhook certificate from " ++ path

end TracingSidecar
