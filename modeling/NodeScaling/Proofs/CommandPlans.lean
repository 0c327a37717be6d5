import NodeScaling.CommandLine.Run
import NodeScaling.Proofs.Attempts
import NodeScaling.Proofs.InstanceIds
import NodeScaling.Proofs.ResponseViews

/-!
Which requests a command makes, and how it exits. A plan says it of every list of requests and
responses that a command can lead to, whoever answers: what is checked before anything is sent,
which request comes after which response, and for which responses the exit is a failure.
-/
namespace NodeScaling

namespace Talk
variable {Q A α β σ : Type}

/-- Whatever is answered, the questions with their answers and the value are of some kind. -/
def Yields : Talk Q A α → (List (Q × A) → α → Prop) → Prop
  | done value, kind => kind [] value
  | ask query next, kind =>
    ∀ reply, (next reply).Yields fun log value => kind ((query, reply) :: log) value

theorem Yields.mono {t : Talk Q A α} {kind other : List (Q × A) → α → Prop}
    (yields : t.Yields kind) (within : ∀ log value, kind log value → other log value) :
    t.Yields other := by
  induction t generalizing kind other with
  | done value => exact within _ _ yields
  | ask query next ih => exact fun reply => ih reply (yields reply) fun _ _ => within _ _

end Talk

def Response.presented? (r : Response) : Option Definition :=
  (r.payload? Definition.ofJson?).filter fun d => !d.groupId.isEmpty

def Response.Presents (r : Response) : Prop :=
  ¬ r.Fails ∧ r.presented?.isSome

def Bridge.ListsBase (b : Bridge) : Prop :=
  ∃ base, b.catalog.get? b.config.baseInstanceType = some base

/-- A response to the read of an increase from which the raised target follows, in vCPUs. -/
structure Bridge.Raises (b : Bridge) (delta : Int64) (r : Response) (vcpus : Nat) : Prop where
  positive : 0 < delta
  read : ¬ r.Fails
  raised : ∃ base, b.catalog.get? b.config.baseInstanceType = some base ∧
    vcpus = raisedVcpus (readNodes base r.presented?).toNat delta.toNatClampNeg base.toNat

namespace CommandLine

abbrev Log := List (Post × Response)

def Ending.FailsIff (e : Ending) (condition : Prop) : Prop :=
  condition ∧ e.code = 1 ∨ ¬ condition ∧ e.code = 0

inductive Carried (client : Client) (b : Bridge) : Command → Log → Ending → Prop where
  | found {r : Response} {e : Ending} (present : r.Presents) (exits : e.code = 0)
      (told : e.stdout = "true\n") : Carried client b .exist [(client.post .get, r)] e
  | unfound {r : Response} {e : Ending} (missing : ¬ r.Presents) (exits : e.code = 0)
      (told : e.stdout = "false\n") : Carried client b .exist [(client.post .get, r)] e
  | shown {r : Response} {e : Ending} (exits : e.FailsIff r.Fails) :
      Carried client b .show [(client.post .get, r)] e
  | sized {r : Response} {e : Ending} (exits : e.FailsIff (r.Fails ∨ r.Presents ∧ ¬ b.ListsBase)) :
      Carried client b .targetSize [(client.post .get, r)] e
  | kept {delta : Int64} {e : Ending} (exits : e.code = 0) :
      Carried client b (.decreaseTargetSize delta) [] e
  | unmade {cause : BridgeError} {e : Ending} (faulty : b.newDefinition = .error cause)
      (exits : e.code = 1) : Carried client b .create [] e
  | created {d : Definition} {r : Response} {e : Ending} (made : b.newDefinition = .ok d)
      (exits : e.FailsIff r.Fails) : Carried client b .create [(client.post (.create d), r)] e
  | deleted {r : Response} {e : Ending} (exits : e.FailsIff r.Fails) :
      Carried client b .delete [(client.post .delete, r)] e
  | malformed {before after : List String} {id : String} {e : Ending}
      (earlier : ∀ p ∈ before, ∃ name, Names p name) (unnamed : ¬ ∃ name, Names id name)
      (exits : e.code = 1) : Carried client b (.deleteNodes (before ++ id :: after)) [] e
  | removed {ids names : List String} {r : Response} {e : Ending}
      (named : List.Forall₂ Names ids names) (exits : e.FailsIff r.Fails) :
      Carried client b (.deleteNodes ids) [(client.post (.deleteNodes 1 names), r)] e
  | refused {delta : Int64} {e : Ending} (nonpositive : delta ≤ 0) (exits : e.code = 1) :
      Carried client b (.increaseSize delta) [] e
  | unread {delta : Int64} {r : Response} {e : Ending} (positive : 0 < delta)
      (failed : r.Fails ∨ ¬ b.ListsBase) (exits : e.code = 1) :
      Carried client b (.increaseSize delta) [(client.post .get, r)] e
  | overflowing {delta : Int64} {r : Response} {vcpus : Nat} {e : Ending}
      (raises : b.Raises delta r vcpus) (beyond : UInt32.size ≤ vcpus) (exits : e.code = 1) :
      Carried client b (.increaseSize delta) [(client.post .get, r)] e
  | unwritten {delta : Int64} {r written : Response} {target : UInt32} {e : Ending}
      (raises : b.Raises delta r target.toNat) (failed : written.Fails) (exits : e.code = 1) :
      Carried client b (.increaseSize delta)
        [(client.post .get, r), (client.post (.update target), written)] e
  | increased {delta : Int64} {r written reread : Response} {target : UInt32} {e : Ending}
      (raises : b.Raises delta r target.toNat) (accepted : ¬ written.Fails)
      (exits : e.FailsIff reread.Fails) :
      Carried client b (.increaseSize delta)
        [(client.post .get, r), (client.post (.update target), written),
          (client.post .get, reread)] e

section Carrying
variable (painted : Bool) (t : Target)

section Raising
variable (more : Nat → String)

end Raising

end Carrying

def pushed (c : Config) (s : Snapshot) : Post :=
  { endpoint := c.clusterStateEndpoint, body := (ClusterState.ofSnapshot c s).toJson }

section Bounds
variable {library : HttpLibrary} (c : Config) {minSize maxSize : Nat} (ordered : minSize ≤ maxSize)
include ordered

end Bounds

end CommandLine

end NodeScaling
