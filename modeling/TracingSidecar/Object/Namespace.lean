import TracingSidecar.Object.Metadata

/-!
# Namespaces

Of a namespace only its metadata is read; its `spec` and `status` are left out.
-/

namespace TracingSidecar

/-- A namespace of the cluster. -/
structure Namespace where
  metadata : ObjectMeta := {}
  deriving DecidableEq, Inhabited

namespace Namespace

def codec : Codec Namespace :=
  .record
    (.cons "apiVersion" (.constant "v1") <|
      .cons "kind" (.constant "Namespace") <|
      .cons "metadata" (.orZero ObjectMeta.codec {}) .nil)
    (by decide)
    (fun ((), (), metadata, ()) => { metadata })
    (fun n => ((), (), n.metadata, ()))
    (fun _ => rfl)

def anyName (n : Namespace) : String := n.metadata.anyName

end Namespace

end TracingSidecar
