import TracingSidecar.SortedMap
import TracingSidecar.Agent.Arguments

/-!
# Agent tags

The tags that the agent attaches to every span are one text `key=value,key=value`.  Reading drops
every entry without an equals sign or without a key, so a malformed text degrades to fewer tags;
of two entries with one key the later counts.  Writing lists the tags in ascending key order.
-/

namespace TracingSidecar.Agent

structure Tags where
  values : SortedMap String := ∅
  deriving DecidableEq, Inhabited

namespace Tags

def empty : Tags := {}

def size (t : Tags) : Nat := t.values.size

def isEmpty (t : Tags) : Bool := t.values.isEmpty

def insert (t : Tags) (key value : String) : Tags := ⟨t.values.insert key value⟩

def get? (t : Tags) (key : String) : Option String := t.values.get? key

/-- The tags of both; a key of both has the value of the second. -/
def merge (t other : Tags) : Tags := ⟨t.values.insertMany other.values.entries⟩

/-- One entry of a tag text. -/
def entry? (text : String) : Option (String × String) :=
  (Text.splitFirst? '=' text).filter fun (key, _) => key ≠ ""

/-- The tags that a text lists. -/
def decode (text : String) : Tags := ⟨SortedMap.ofList ((Text.split ',' text).filterMap entry?)⟩

/-- The text of one tag. -/
def entryText (entry : String × String) : String := entry.1 ++ "=" ++ entry.2

/-- The text that lists the tags. -/
def encode (t : Tags) : String := ",".intercalate (t.values.entries.map entryText)

/-- The tags of the first tag argument. -/
def ofArgs (args : List String) : Tags := ((findArgument? tagsFlag args).map decode).getD empty

/-- The complete tag argument. -/
def toArgument (t : Tags) : String := tagsFlag ++ t.encode

end Tags

end TracingSidecar.Agent
