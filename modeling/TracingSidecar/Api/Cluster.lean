import TracingSidecar.Api.Request

/-!
# A cluster in memory

A `Cluster` holds documents in the order in which they were stored, each in its collection.  It
looks at the names and namespaces in their metadata, and at nothing else.  What a request is about
is told by the `Route` of its path.  Reading changes nothing; a request with a body replaces the
first document of its collection, namespace and name, and nothing else.
-/

namespace TracingSidecar

/-- A stored object. -/
structure Document where
  collection : Collection
  content : Json
  deriving DecidableEq

namespace Document

/-- A text in the metadata. -/
def metadataText? (key : String) (d : Document) : Option String :=
  match (d.content.member? "metadata").bind (·.member? key) with
  | some (.str text) => some text
  | _ => none

def name? (d : Document) : Option String := d.metadataText? "name"

def namespace? (d : Document) : Option String := d.metadataText? "namespace"

/-- Whether a document is stored in a collection under a namespace and name, or under none. -/
def isStoredAs (collection : Collection) (namespaceName name : Option String) (d : Document) :
    Bool :=
  d.collection = collection && d.namespace? = namespaceName && d.name? = name

end Document

/-- What a path leads to. -/
inductive Route where
  /-- The documents of a collection, in one namespace or in all. -/
  | listed (collection : Collection) (namespaceName : Option String)
  | namespaceObject (name : String)
  | object (collection : Collection) (namespaceName name : String)
  deriving DecidableEq, Repr

namespace Route

/-- What the steps of a path behind that of a group lead to. -/
def within (group : ApiGroup) : List String → Option Route
  | [plural] =>
      match Collection.ofPlural? plural with
      | some collection =>
          if collection.group = group then some (.listed collection none) else none
      | none => none
  | [parent, name] =>
      if parent = "namespaces" && group = .core then some (.namespaceObject name) else none
  | [parent, namespaceName, plural] =>
      if parent = "namespaces" then
        (Collection.ofPlural? plural).map (.listed · (some namespaceName))
      else none
  | [parent, namespaceName, plural, name] =>
      if parent = "namespaces" && group = .apps then
        (Collection.ofPlural? plural).map (.object · namespaceName name)
      else none
  | _ => none

/-- What a path leads to. -/
def ofPath? (path : String) : Option Route :=
  ApiGroup.all.findSome? fun group =>
    ((Text.split '/' group.path).isPrefixOf? (Text.split '/' path)).bind (within group)

end Route

structure Cluster where
  documents : List Document := []
  deriving DecidableEq, Inhabited

/-- Put an item in the place of the first one that fits, if there is one. -/
def replaceFirst? {α : Type} (fits : α → Bool) (item : α) : List α → Option (List α)
  | [] => none
  | head :: rest =>
      if fits head then some (item :: rest) else (replaceFirst? fits item rest).map (head :: ·)

namespace Cluster

/-- The documents of a collection, in one namespace or in all. -/
def list (c : Cluster) (collection : Collection) (namespaceName : Option String) : List Json :=
  (c.documents.filter fun d =>
    d.collection = collection && namespaceName.all fun name => d.namespace? = some name).map
      (·.content)

/-- The first document of a collection with a name. -/
def find? (c : Cluster) (collection : Collection) (name : String) : Option Json :=
  (c.documents.find? fun d => d.collection = collection && d.name? = some name).map (·.content)

/-- Put a document in the place of the first one that is stored under a namespace and name. -/
def replace? (c : Cluster) (namespaceName name : Option String) (d : Document) : Option Cluster :=
  (replaceFirst? (·.isStoredAs d.collection namespaceName name) d c.documents).map fun documents =>
    { documents }

/-- Put a document in the place of the first one of the same namespace and name, or behind all
others. -/
def store (c : Cluster) (d : Document) : Cluster :=
  (c.replace? d.namespace? d.name? d).getD { documents := c.documents ++ [d] }

/-- Remove what is stored in a collection under a namespace and name. -/
def remove (c : Cluster) (collection : Collection) (namespaceName name : Option String) : Cluster :=
  { documents := c.documents.filter fun d => !d.isStoredAs collection namespaceName name }

/-- The reply to a request that is sent to a path, and the cluster after it. -/
def reply (c : Cluster) (path : String) (body : Option Json) : Except ApiError Reply × Cluster :=
  match Route.ofPath? path, body with
  | some (.listed collection namespaceName), none =>
      (.ok (.list (c.list collection namespaceName)), c)
  | some (.namespaceObject name), none =>
      match c.find? .namespaces name with
      | some content => (.ok (.document content), c)
      | none => (.error .notFound, c)
  | some (.object collection namespaceName name), some content =>
      match c.replace? (some namespaceName) (some name) ⟨collection, content⟩ with
      | some c => (.ok (.document content), c)
      | none => (.error .notFound, c)
  | _, _ => (.error .notFound, c)

end Cluster

end TracingSidecar
