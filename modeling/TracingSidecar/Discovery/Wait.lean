import TracingSidecar.Api.Target
import TracingSidecar.Discovery.Catalogue

/-!
# Waiting for the resource definition

At start-up the operator polls the catalogue until the definition of tracing instances is served.
After the first unsuccessful poll it waits 10 seconds, after each further one twice as long as
before, and never longer than 60 seconds.  A catalogue that cannot be read counts as one without the
definition.  A version is read at an address that ends in its name, and what is read is the version
that is served under the path of that address.
-/

namespace TracingSidecar.Discovery

def instanceGroup : String := "jaegertracing.io"
def instanceKind : String := "Jaeger"
def instanceVersion : String := "v1"

/-- What the cluster answers to a poll. -/
inductive Poll where
  | unreadable
  | groups (served : List ServedGroup)
  deriving DecidableEq, Repr

/-- The catalogue of groups. -/
def groupsPath : String := "/apis"

/-- The address of the catalogue of one version of the group of instances. -/
def versionAddress (version : String) : String := "/apis/" ++ instanceGroup ++ "/" ++ version

/-- The version of the group of instances that is served under a path, the first of several. -/
def servedAt? (served : List ServedGroup) (path : String) : Option ServedVersion :=
  ((served.filter (·.name = instanceGroup)).flatMap (·.versions)).find? fun v =>
    !v.name.toList.contains '/' && versionAddress v.name = path

/-- The paths that are asked for to read listed versions, up to the first one that cannot be read,
and whether all could be read. -/
def readVersions (served : List ServedGroup) : List ServedVersion → List String × Bool
  | [] => ([], true)
  | version :: rest =>
      match Target.parse? (versionAddress version.name) with
      | none => ([], false)
      | some target =>
          if (servedAt? served target.path).isSome then
            let (paths, complete) := readVersions served rest
            (target.path :: paths, complete)
          else ([target.path], false)

/-- What a poll does: the paths that it asks for, and the entries of the group of instances unless
one of them cannot be read. -/
structure Reading where
  paths : List String
  entries : Option (List ServedGroup)
  deriving DecidableEq, Repr

/-- Read the entries of the group of instances.  An entry without versions cannot be read. -/
def readEntries (served : List ServedGroup) : List ServedGroup → Reading
  | [] => ⟨[], some []⟩
  | group :: rest =>
      if group.name = instanceGroup then
        if group.versions.isEmpty then ⟨[], none⟩
        else
          let (paths, complete) := readVersions served group.versions
          if complete then
            let more := readEntries served rest
            ⟨paths ++ more.paths, more.entries.map (group :: ·)⟩
          else ⟨paths, none⟩
      else readEntries served rest

/-- What is read as the version that an entry recommends. -/
def recommendedVersion? (served : List ServedGroup) (entry : ServedGroup) :
    Option ServedVersion := do
  let name ← entry.recommended?
  let target ← Target.parse? (versionAddress name)
  servedAt? served target.path

/-- What a poll asks for: the groups, then every version of the group of instances. -/
def Poll.requests : Poll → List String
  | .unreadable => [groupsPath]
  | .groups served => groupsPath :: (readEntries served served).paths

/-- Whether a version is the one of the definition and has its kind. -/
def hasDefinition (version : ServedVersion) : Bool :=
  version.name = instanceVersion && version.kinds.contains instanceKind

/-- Whether a poll finds the definition: in what is read as the version that the group of instances
recommends.  Of several entries for the group the last counts. -/
def Poll.finds : Poll → Bool
  | .unreadable => false
  | .groups served =>
      match (readEntries served served).entries with
      | none => false
      | some entries =>
          (entries.getLast?.bind (recommendedVersion? served)).any hasDefinition

/-- How long to wait after an unsuccessful poll, counted from zero. -/
def pause : Nat → Nat
  | 0 => 10
  | i + 1 => min (2 * pause i) 60

/-- How a wait ended. -/
inductive Outcome where
  | available (waited : Nat) (requests : List String)
  | timedOut (requests : List String)
  deriving DecidableEq, Repr

/-- Put the requests of earlier polls in front. -/
def Outcome.after (earlier : List String) : Outcome → Outcome
  | .available waited requests => .available waited (earlier ++ requests)
  | .timedOut requests => .timedOut (earlier ++ requests)

theorem pause_pos (i : Nat) : 0 < pause i := by
  induction i with
  | zero => decide
  | succ i ih => unfold pause; omega

/-- Poll for the `i`-th time at a second, and go on until the definition is found or the limit is
reached. -/
def waitFrom (polls : Nat → Poll) (limit i now : Nat) : Outcome :=
  if _h : now < limit then
    let poll := polls i
    if poll.finds then .available now poll.requests
    else (waitFrom polls limit (i + 1) (now + pause i)).after poll.requests
  else .timedOut []
termination_by limit - now
decreasing_by
  have := pause_pos i
  omega

/-- Wait for the definition, for less than a number of seconds. -/
def wait (polls : Nat → Poll) (limit : Nat) : Outcome := waitFrom polls limit 0 0

end TracingSidecar.Discovery
