import NodeScaling.Proofs.Attempts
import NodeScaling.Proofs.Session
import NodeScaling.Proofs.Sizing
import NodeScaling.Settings

/-!
Where the API key goes. A configuration takes it from its variable, and posts carry it in a member
of their bodies. Nothing else depends on it: what a session answers, what it posts besides, what is
shown of a configuration, and whether there is one.
-/
namespace NodeScaling

def Json.without (name : String) : Json → Json
  | .object ms => .object (ms.filter fun m => m.1 ≠ name)
  | other => other

def Post.keyless (p : Post) : Post :=
  { p with body := p.body.without "api_key" }

def Config.keyless (c : Config) : Config :=
  { c with apiKey := "" }

def Bridge.keyless (b : Bridge) : Bridge :=
  { b with config := b.config.keyless }

namespace Talk
variable {Q Q₂ A α β σ τ : Type}

def mapQuery (f : Q → Q₂) : Talk Q A α → Talk Q₂ A α
  | done value => done value
  | ask query next => ask (f query) fun answer => mapQuery f (next answer)

theorem mapQuery_bind (f : Q → Q₂) (t : Talk Q A α) (g : α → Talk Q A β) :
    (t.bind g).mapQuery f = (t.mapQuery f).bind fun value => (g value).mapQuery f := by
  induction t with
  | done value => rfl
  | ask query next ih => simp only [bind, mapQuery, ih]

theorem mapQuery_mapValue (f : Q → Q₂) (g : α → β) (t : Talk Q A α) :
    (t.mapValue g).mapQuery f = (t.mapQuery f).mapValue g :=
  mapQuery_bind f t _

theorem mapQuery_through {Q₁ A₁ : Type} {f : Q → Q₂} {via via' : Q₁ → Talk Q A A₁}
    (alike : ∀ query, (via query).mapQuery f = (via' query).mapQuery f) (t : Talk Q₁ A₁ α) :
    (t.through via).mapQuery f = (t.through via').mapQuery f := by
  induction t with
  | done value => rfl
  | ask query next ih => simp only [through, mapQuery_bind, alike, ih]

/-- If the other party does not see the change of the questions, it gives the same answers to the
changed ones. -/
theorem run_mapQuery {f : Q → Q₂} {view : σ → τ} {answer : σ → Q → A × σ}
    {answer₂ : τ → Q₂ → A × τ}
    (blind : ∀ state query, answer₂ (view state) (f query) =
      ((answer state query).1, view (answer state query).2))
    (t : Talk Q A α) (state : σ) :
    (t.mapQuery f).run answer₂ (view state) =
      let held := t.run answer state
      ⟨held.value, held.asked.map f, view held.state⟩ := by
  induction t generalizing state with
  | done value => rfl
  | ask query next ih => simp only [mapQuery, run, blind, ih, List.map_cons]

end Talk

namespace ScriptedService

def keyless (s : ScriptedService) : ScriptedService :=
  { s with arrived := s.arrived.map Post.keyless }

theorem answer_keyless (s : ScriptedService) (p : Post) :
    s.keyless.answer p.keyless = ((s.answer p).1, (s.answer p).2.keyless) := by
  obtain ⟨reachable, script, lostDetail, arrived⟩ := s
  cases reachable with
  | false => rfl
  | true => cases script <;> simp [answer, keyless]

end ScriptedService

section Sessions
variable (underlying : NodeGroup) (b : Bridge)

theorem ServiceCall.exchange_keyless (call : ServiceCall) :
    call.exchange underlying b.keyless = call.exchange underlying b := by
  -- no part of a bridge reads the key, so both sides unfold to the same exchange
  cases call with
  | group call => cases call <;> rfl
  | _ => rfl

theorem SessionCall.talk_keyless (call : SessionCall) :
    (call.talk underlying b.keyless).mapQuery Post.keyless =
      (call.talk underlying b).mapQuery Post.keyless := by
  cases call with
  | service call =>
    rw [talk, talk, call.exchange_keyless]
    apply Talk.mapQuery_through
    intro query
    rfl
  | report snapshot => rfl

theorem SessionCall.talkAll_keyless (calls : List SessionCall) :
    (talkAll underlying b.keyless calls).mapQuery Post.keyless =
      (talkAll underlying b calls).mapQuery Post.keyless := by
  induction calls with
  | nil => rfl
  | cons call calls ih =>
    rw [talkAll, talkAll, Talk.mapQuery_bind, Talk.mapQuery_bind, talk_keyless]
    simp only [Talk.mapQuery_mapValue, ih]

theorem SessionCall.run_keyless (calls : List SessionCall) (service : ScriptedService) :
    let held (b : Bridge) := (talkAll underlying b calls).run ScriptedService.answer service
    (held b).value = (held b.keyless).value ∧
      (held b).asked.map Post.keyless = (held b.keyless).asked.map Post.keyless := by
  intro held
  -- each run is one of the stripped conversation, and that is the same for both
  have erased (b : Bridge) := Talk.run_mapQuery ScriptedService.answer_keyless
    (talkAll underlying b calls) service
  have same := erased b.keyless
  rw [talkAll_keyless, erased b] at same
  obtain ⟨value, asked, -⟩ := Held.mk.inj same
  exact ⟨value, asked⟩

end Sessions

def Environment.keyless (env : Environment) : Environment :=
  fun name => if name = Variable.apiKey.name then none else env name

namespace Settings

def withKey (s : Settings) (key : String) : Settings :=
  { s with apiKey := some key }

def IgnoresKey (step : Settings → Except ConfigError Settings) : Prop :=
  ∀ s key, step (s.withKey key) = (step s).map fun s => s.withKey key

theorem overlayField_ignoresKey {α : Type} (env : Environment) (v : Variable)
    (read : Variable → String → Except ConfigError α) {put : Settings → α → Settings}
    (other : ∀ s key a, put (s.withKey key) a = (put s a).withKey key) :
    IgnoresKey (overlayField env v read put) := by
  intro s key
  rw [overlayField, overlayField]
  cases env.value? v with
  | none => rfl
  | some value =>
    change (read v value).map (put (s.withKey key)) =
      ((read v value).map (put s)).map fun s => s.withKey key
    cases read v value with
    | error e => rfl
    | ok a => exact congrArg Except.ok (other s key a)

theorem overlaySteps_ignoreKey (env : Environment) : ∀ step ∈ overlaySteps env, IgnoresKey step := by
  simp only [overlaySteps, List.forall_mem_cons]
  refine ⟨?_, ?_, ?_, ?_, ?_, ?_, ?_, ?_, ?_, by nofun⟩ <;>
    exact overlayField_ignoresKey env _ _ fun _ _ _ => rfl

theorem takeSteps_withKey {steps : List (Settings → Except ConfigError Settings)}
    (ignore : ∀ step ∈ steps, IgnoresKey step) (s : Settings) (key : String) :
    takeSteps steps (s.withKey key) = ((takeSteps steps s).1.withKey key, (takeSteps steps s).2) := by
  induction steps generalizing s with
  | nil => rfl
  | cons step steps ih =>
    have first := ignore step List.mem_cons_self s key
    have later := ih fun other member => ignore other (List.mem_cons_of_mem step member)
    rw [takeSteps, takeSteps, first]
    cases step s with
    | error e => rfl
    | ok t => exact later t

theorem overlaySteps_keyless (env : Environment) :
    overlaySteps env.keyless = overlaySteps env := rfl

theorem overlayTexts_keyless {env : Environment} {value : String}
    (set : env.value? .apiKey = some value) (s : Settings) :
    overlayTexts env s = (overlayTexts env.keyless s).withKey (Text.trim value) := by
  simp only [overlayTexts, set]
  rfl

theorem overlaid_keyless {env : Environment} {value : String}
    (set : env.value? .apiKey = some value) (s : Settings) :
    overlaid env s = (overlaid env.keyless s).map fun s => s.withKey (Text.trim value) := by
  rw [overlaid, overlaid, overlay, overlay, overlayTexts_keyless set,
    takeSteps_withKey (overlaySteps_ignoreKey env), overlaySteps_keyless]
  cases takeSteps (overlaySteps env) (overlayTexts env.keyless s) with
  | mk reached fault => cases fault <;> rfl

theorem required_of_ink {key : String} (ink : Text.isBlankText key = false) (v : Variable) :
    required v (some key) = .ok key := by
  simp [required, Option.filter, ink]

theorem resolve_keyless {key key' : String} (ink : Text.isBlankText key = false)
    (ink' : Text.isBlankText key' = false) (s : Settings) :
    (s.withKey key).resolve.map Config.keyless = (s.withKey key').resolve.map Config.keyless := by
  simp only [resolve, withKey, required_of_ink ink, required_of_ink ink']
  split
  · rfl
  · simp only [map_bind_except]
    rfl

end Settings

theorem Config.ofEnvironment_keyless {env : Environment} (set : (env.value? .apiKey).isSome) :
    (ofEnvironment env).map keyless =
      (Settings.overlaid env.keyless {}).bind fun s => (s.withKey "key").resolve.map keyless := by
  obtain ⟨value, found⟩ := Option.isSome_iff_exists.mp set
  have ink := Environment.ink_of_value found
  rw [ofEnvironment, Settings.overlaid_keyless found]
  cases Settings.overlaid env.keyless {} with
  | error e => rfl
  | ok s => exact Settings.resolve_keyless (Text.isBlankText_trim ink) (by decide) s

/-- Nothing depends on the API key but the member of requests that carries it: sessions under
configurations that differ in the key answer alike and post alike, the configurations and the states
made of them look alike, and environments that differ in a key lead to configurations that differ in
the key or to the same failure. -/
theorem key_stays_in_requests :
    (∀ c c' : Config, c.keyless = c'.keyless →
      (∀ (catalog : Catalog) (underlying : NodeGroup) (calls : List SessionCall)
          (service : ScriptedService),
        let held (c : Config) :=
          (SessionCall.talkAll underlying ⟨catalog, c⟩ calls).run ScriptedService.answer service
        (held c).value = (held c').value ∧
          (held c).asked.map Post.keyless = (held c').asked.map Post.keyless) ∧
      c.inspected = c'.inspected ∧
      ∀ snapshot : Snapshot, (ClusterState.ofSnapshot c snapshot).inspected =
        (ClusterState.ofSnapshot c' snapshot).inspected) ∧
    ∀ env env' : Environment, (∀ name ≠ Variable.apiKey.name, env name = env' name) →
      (env.value? .apiKey).isSome → (env'.value? .apiKey).isSome →
        (Config.ofEnvironment env).map Config.keyless =
          (Config.ofEnvironment env').map Config.keyless := by
  constructor
  · intro c c' alike
    have shown := congrArg Config.inspected alike
    refine ⟨?_, shown, ?_⟩
    · intro catalog underlying calls service held
      have one := SessionCall.run_keyless underlying ⟨catalog, c⟩ calls service
      have other := SessionCall.run_keyless underlying ⟨catalog, c'⟩ calls service
      rw [Bridge.keyless, ← alike] at other
      exact ⟨one.1.trans other.1.symm, one.2.trans other.2.symm⟩
    · intro snapshot
      have shown := congrArg (fun c => (ClusterState.ofSnapshot c snapshot).inspected) alike
      exact shown
  · intro env env' agree set set'
    have same : env.keyless = env'.keyless := by
      funext name
      rw [Environment.keyless, Environment.keyless]
      split
      · rfl
      · next other => exact agree name other
    rw [Config.ofEnvironment_keyless set, Config.ofEnvironment_keyless set', same]

theorem rotated_key_stays_in_requests :
    let config (key : String) : Config := { Config.bare "workers" "c3.xlarge" with apiKey := key }
    let group := NodeGroup.fixed { id := "workers", minSize := 0, maxSize := 9 }
    let calls : List SessionCall := [.service (.group .create), .report {}, .service (.increaseBy 2)]
    let posts (key : String) : List Post :=
      ((SessionCall.talkAll group ⟨Catalog.ofRecords [("c3.xlarge", 4)], config key⟩ calls).run
        ScriptedService.answer {}).asked
    let env (key : String) : Environment := fun name =>
      if name = Variable.apiKey.name then some key
      else if name = Variable.instanceTypes.name then some "c3.xlarge" else some "workers"
    (posts "old").length = 3 ∧
      (posts "old").map Post.keyless = (posts "new").map Post.keyless ∧
      (Config.ofEnvironment (env "old")).map Config.keyless =
        (Config.ofEnvironment (env " new")).map Config.keyless := by
  intro config group calls posts env
  obtain ⟨sessions, -⟩ := key_stays_in_requests.1 (config "old") (config "new") rfl
  refine ⟨rfl, (sessions _ group calls {}).2, ?_⟩
  refine key_stays_in_requests.2 (env "old") (env " new") ?_ (by decide) (by decide)
  intro name other
  simp only [env, if_neg other]

end NodeScaling
