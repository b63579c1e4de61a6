import TracingSidecar.Text.Ascii

/-!
# Names within limits

Generated names have to fit into label values and host names: at most 63 characters that end in an
ASCII letter or digit.
-/

namespace TracingSidecar.Naming

/-- The greatest length of a label value. -/
def maxLabelLength : Nat := 63

/-- A text without the characters at its end that are no ASCII letters or digits. -/
def trimEnd (text : List Char) : List Char :=
  (text.reverse.dropWhile fun c => !c.isAlphanum).reverse

/-- At most `max` characters of a text, up to the last one that may stand at the end of a name. -/
def truncate (max : Nat) (text : String) : String :=
  String.ofList (trimEnd (text.toList.take max))

/-- A text cut to the length of a label value. -/
def labelValue (text : String) : String := truncate maxLabelLength text

/-- The name of the collector service of an instance that agents report to. -/
def headlessCollector (instanceName : String) : String :=
  Text.lower (labelValue (instanceName ++ "-collector-headless"))

/-- The name of the configuration map with the trust bundle of the cluster. -/
def trustedCa (instanceName : String) : String := instanceName ++ "-trusted-ca"

/-- The name of the configuration map with the certificate authority of cluster services. -/
def serviceCa (instanceName : String) : String := instanceName ++ "-service-ca"

end TracingSidecar.Naming
