import TracingSidecar.Text.Ascii
import TracingSidecar.Text.Cut

/-!
# Command-line arguments of the agent

An argument is found by the flag it begins with, up to and including the equals sign; the first one
found counts.  A port stands after the last colon of a value and lies between 1 and 65535; where
none can be read, the default holds.
-/

namespace TracingSidecar.Agent

/-! ### Flags -/

def collectorFlag : String := "--reporter.grpc.host-port="
def tlsEnabledFlag : String := "--reporter.grpc.tls.enabled="
def tlsCaFlag : String := "--reporter.grpc.tls.ca="
def tagsFlag : String := "--agent.tags="
def zipkinCompactFlag : String := "--processor.zipkin-compact.server-host-port="
def configRestFlag : String := "--http-server.host-port="
def jaegerCompactFlag : String := "--processor.jaeger-compact.server-host-port="
def jaegerBinaryFlag : String := "--processor.jaeger-binary.server-host-port="
def adminHttpFlag : String := "--admin.http.host-port="

/-- The older flag for the admin port, which carries the bare number. -/
def adminPortFlag : String := "--admin-http-port="

/-! ### Default ports -/

def zipkinCompactPort : Int32 := 5775
def configRestPort : Int32 := 5778
def jaegerCompactPort : Int32 := 6831
def jaegerBinaryPort : Int32 := 6832
def adminHttpPort : Int32 := 14271

/-! ### Values -/

/-- The value of the first argument that begins with a flag. -/
def findArgument? (flag : String) (args : List String) : Option String :=
  args.findSome? (Text.stripPrefix? flag)

/-- A port number, with an optional sign. -/
def portNumber? (text : String) : Option Int32 :=
  match Text.integer? text.toList with
  | some n => if 1 ≤ n ∧ n ≤ 65535 then some (Int32.ofInt n) else none
  | none => none

/-- The port of the first argument with a flag whose value is `host:port` or `:port`. -/
def port (flag : String) (args : List String) (fallback : Int32) : Int32 :=
  (((findArgument? flag args).bind (Text.splitLast? ':')).bind fun (_, text) =>
    portNumber? text).getD fallback

/-- The admin port.  The older flag counts only while the current one is not there at all. -/
def adminPort (args : List String) (fallback : Int32) : Int32 :=
  if (findArgument? adminHttpFlag args).isSome then port adminHttpFlag args fallback
  else ((findArgument? adminPortFlag args).bind portNumber?).getD fallback

end TracingSidecar.Agent
