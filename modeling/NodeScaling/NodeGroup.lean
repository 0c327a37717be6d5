import NodeScaling.Bridge

/-!
Node groups. A static group has bounds and members that never change. A bridged group takes its
size and its life from the definition at the capacity service, and all else from the group
underneath; a forwarding group passes every call on.
-/
namespace NodeScaling

structure StaticGroup where
  id : String
  minSize : Nat
  maxSize : Nat
  members : List Node := []
  template : NodeTemplate := { name := "template-node-for-" ++ id }
  deriving DecidableEq

namespace StaticGroup

def contains (g : StaticGroup) (providerId : String) : Bool :=
  g.members.any fun n => n.providerId == providerId

def description (g : StaticGroup) : String :=
  g.id ++ " (min: " ++ toString g.minSize ++ ", max: " ++ toString g.maxSize ++ ", nodes: " ++
    toString g.members.length ++ ")"

def unsupported (g : StaticGroup) (operation : String) : CloudError :=
  .notImplemented (operation ++ " on static node group " ++ g.id)

end StaticGroup

inductive NodeGroup where
  | fixed (group : StaticGroup)
  | bridged (underlying : NodeGroup) (bridge : Bridge)
  | forwarding (underlying : NodeGroup)

def inCloudTerms {α : Type} (t : Exchange (Except BridgeError α)) :
    Exchange (Except CloudError α) :=
  t.mapValue fun result => result.mapError BridgeError.toCloud

namespace NodeGroup

def id : NodeGroup → String
  | fixed g => g.id
  | bridged underlying _ => underlying.id
  | forwarding underlying => underlying.id

def minSize : NodeGroup → Nat
  | fixed g => g.minSize
  | bridged underlying _ => underlying.minSize
  | forwarding underlying => underlying.minSize

def maxSize : NodeGroup → Nat
  | fixed g => g.maxSize
  | bridged underlying _ => underlying.maxSize
  | forwarding underlying => underlying.maxSize

def description : NodeGroup → String
  | fixed g => g.description
  | bridged underlying _ => underlying.description
  | forwarding underlying => underlying.description

def autoprovisioned : NodeGroup → Bool
  | fixed _ => false
  | bridged _ _ => false
  | forwarding underlying => underlying.autoprovisioned

def nodes : NodeGroup → List String
  | fixed g => g.members.map Node.providerId
  | bridged underlying _ => underlying.nodes
  | forwarding underlying => underlying.nodes

def template : NodeGroup → NodeTemplate
  | fixed g => g.template
  | bridged underlying _ => underlying.template
  | forwarding underlying => underlying.template

def targetSize : NodeGroup → Exchange (Except CloudError Nat)
  | fixed g => .done (.ok g.members.length)
  | bridged _ bridge =>
    inCloudTerms (bridge.targetNodes.mapValue fun result => result.map UInt32.toNat)
  | forwarding underlying => underlying.targetSize

def increaseSize (delta : Int64) : NodeGroup → Exchange (Except CloudError Unit)
  | fixed g => .done (.error (g.unsupported "increase_size"))
  | bridged _ bridge => inCloudTerms (bridge.increaseBy delta)
  | forwarding underlying => underlying.increaseSize delta

/-- Lowers the target of a group without removing any node. A bridged group shrinks by the removal
of nodes only, so there this does nothing. -/
def decreaseTargetSize (delta : Int64) : NodeGroup → Exchange (Except CloudError Unit)
  | fixed g => .done (.error (g.unsupported "decrease_target_size"))
  | bridged _ _ => .done (.ok ())
  | forwarding underlying => underlying.decreaseTargetSize delta

def deleteNodes (nodes : List Node) : NodeGroup → Exchange (Except CloudError Unit)
  | fixed g => .done (.error (g.unsupported "delete_nodes"))
  | bridged _ _ => inCloudTerms (Bridge.removeNodes nodes)
  | forwarding underlying => underlying.deleteNodes nodes

/-- Whether a group exists at its provider; a bridged group whose definition cannot be read counts
as missing. -/
def exists? : NodeGroup → Exchange Bool
  | fixed _ => .done true
  | bridged _ _ => Bridge.lookup.mapValue Lookup.isPresent
  | forwarding underlying => underlying.exists?

def create : NodeGroup → Exchange (Except CloudError Unit)
  | fixed g => .done (.error (g.unsupported "create"))
  | bridged _ bridge => inCloudTerms bridge.provision
  | forwarding underlying => underlying.create

def delete : NodeGroup → Exchange (Except CloudError Unit)
  | fixed g => .done (.error (g.unsupported "delete"))
  | bridged _ _ => inCloudTerms Bridge.teardown
  | forwarding underlying => underlying.delete

end NodeGroup

end NodeScaling
