import ForwardedClient.Middleware.Resolution
import ForwardedClient.Proofs.Request.View

/-!
Contract: how the resolution of a request runs.

Owns: the laws of single steps and of pairs of them, the parts of the world that steps leave alone,
the chain that a request carries in the dialect of the settings, and the outcome of `resolve` in
terms of the walk along it.

Does not own: what the overrides do to a request.
-/

namespace ForwardedClient.Middleware

open ForwardedClient.Forwarded
open ForwardedClient.Journal
open ForwardedClient.Request
open ForwardedClient.Trust

/-! ### Steps -/

namespace Step

variable {α β : Type}

theorem run_bind (step : Step α) (next : α → Step β) (world : World) :
    (step >>= next).run world =
      match step.run world with
      | (.ok value, after) => (next value).run after
      | (.error fault, after) => (.error fault, after) := by
  have continued : (step >>= next).run world =
      ExceptT.bindCont next (step.run world).1 (step.run world).2 := rfl
  rw [continued]
  rcases step.run world with ⟨outcome, after⟩
  cases outcome <;> rfl

theorem run_report (reports : List Report) (world : World) :
    (report reports).run world = (.ok (), world.report reports) := rfl

theorem run_ofExcept (outcome : Except Fault α) (world : World) :
    (ofExcept outcome).run world = (outcome, world) := by
  cases outcome <;> rfl

/-- A step that leaves a part of the world alone. -/
def Keeps {γ : Type} (part : World → γ) (step : Step α) : Prop :=
  ∀ world, part (step.run world).2 = part world

section Keeps

variable {γ : Type} (part : World → γ)

theorem Keeps.pure (value : α) : Keeps part (Pure.pure value : Step α) := fun _ => rfl

theorem Keeps.report (unreported : ∀ world reports, part (World.report world reports) = part world)
    (reports : List Report) : Keeps part (Step.report reports) :=
  fun world => unreported world reports

theorem Keeps.ofExcept (outcome : Except Fault α) : Keeps part (Step.ofExcept outcome) := by
  intro world
  rw [run_ofExcept]

variable {part}

theorem Keeps.bind {step : Step α} {next : α → Step β} (first : Keeps part step)
    (rest : ∀ value, Keeps part (next value)) : Keeps part (step >>= next) := by
  intro world
  rw [run_bind, ← first world]
  rcases step.run world with ⟨outcome, after⟩
  cases outcome with
  | error fault => rfl
  | ok value => exact rest value after

end Keeps

/-- A step that ends in the same way in every world. -/
def IsSteady (step : Step α) : Prop := ∀ world other, (step.run world).1 = (step.run other).1

namespace IsSteady

theorem pure (value : α) : IsSteady (Pure.pure value : Step α) := fun _ _ => rfl

theorem report (reports : List Report) : IsSteady (Step.report reports) := fun _ _ => rfl

theorem ofExcept (outcome : Except Fault α) : IsSteady (Step.ofExcept outcome) := by
  intro world other
  rw [run_ofExcept, run_ofExcept]

theorem bind {step : Step α} {next : α → Step β} (first : IsSteady step)
    (rest : ∀ value, IsSteady (next value)) : IsSteady (step >>= next) := by
  intro world other
  have same := first world other
  rw [run_bind, run_bind]
  cases ran : step.run world with
  | mk outcome after =>
      cases otherRan : step.run other with
      | mk otherOutcome ended =>
          rw [ran, otherRan] at same
          have equal : outcome = otherOutcome := same
          subst equal
          cases outcome with
          | error fault => rfl
          | ok value => exact rest value after ended

end IsSteady

/-- A step whose value, if it ends with one, has a property. -/
def Ensures (property : α → Prop) (step : Step α) : Prop :=
  ∀ world value after, step.run world = (.ok value, after) → property value

namespace Ensures

theorem pure {property : α → Prop} {value : α} (holds : property value) :
    Ensures property (Pure.pure value : Step α) := by
  intro world other after ran
  exact Except.ok.inj (congrArg Prod.fst ran) ▸ holds

theorem trivial (step : Step α) : Ensures (fun _ => True) step := fun _ _ _ _ => True.intro

theorem ofExcept {property : α → Prop} {outcome : Except Fault α}
    (holds : ∀ value, outcome = .ok value → property value) :
    Ensures property (Step.ofExcept outcome) := by
  intro world value after ran
  rw [run_ofExcept] at ran
  exact holds value (congrArg Prod.fst ran)

theorem bind {first : α → Prop} {property : β → Prop} {step : Step α} {next : α → Step β}
    (ensured : Ensures first step) (rest : ∀ value, first value → Ensures property (next value)) :
    Ensures property (step >>= next) := by
  intro world value after ran
  rw [run_bind] at ran
  cases begun : step.run world with
  | mk outcome between =>
      rw [begun] at ran
      cases outcome with
      | error fault => exact nomatch congrArg Prod.fst ran
      | ok middle => exact rest middle (ensured world middle between begun) between value after ran

end Ensures

section Relation

variable {relation : α → α → Prop} {further : β → β → Prop}

/-- Two steps that end alike, whatever worlds they start in. -/
def Agrees (relation : α → α → Prop) (first second : Step α) : Prop :=
  ∀ world other, EndAlike relation (first.run world).1 (second.run other).1

namespace Agrees

theorem pure {value other : α} (related : relation value other) :
    Agrees relation (Pure.pure value) (Pure.pure other) := fun _ _ => .ok related

theorem report (reports remarks : List Report) :
    Agrees Eq (Step.report reports) (Step.report remarks) := fun _ _ => .ok rfl

theorem ofExcept {outcome ending : Except Fault α} (alike : EndAlike relation outcome ending) :
    Agrees relation (Step.ofExcept outcome) (Step.ofExcept ending) := by
  intro world other
  rw [run_ofExcept, run_ofExcept]
  exact alike

theorem steady {step : Step α} (isSteady : IsSteady step) : Agrees Eq step step := by
  intro world other
  rw [isSteady world other]
  cases (step.run other).1 with
  | error fault => exact .error fault
  | ok value => exact .ok rfl

theorem bind {first second : Step α} {next others : α → Step β}
    (begun : Agrees relation first second)
    (rest : ∀ value other, relation value other → Agrees further (next value) (others other)) :
    Agrees further (first >>= next) (second >>= others) := by
  intro world other
  have alike := begun world other
  rw [run_bind, run_bind]
  generalize first.run world = ran at alike ⊢
  generalize second.run other = otherRan at alike ⊢
  obtain ⟨outcome, after⟩ := ran
  obtain ⟨ending, ended⟩ := otherRan
  cases alike with
  | error fault => exact .error fault
  | ok related => exact rest _ _ related after ended

/-- Steps that agree on the same begin agree if what follows does. -/
theorem bind_steady {step : Step α} {next others : α → Step β} (isSteady : IsSteady step)
    (rest : ∀ value, Agrees further (next value) (others value)) :
    Agrees further (step >>= next) (step >>= others) :=
  bind (steady isSteady) fun value _ same => same ▸ rest value

end Agrees

end Relation

end Step

/-! ### Host names -/

/-- The host name that goes with an address. -/
def hostNameOf (settings : Settings) (lookup : Lookup) (address : String) : String :=
  if settings.looksUpNames then (lookup address).toOption.getD address else address

/-- The addresses that are looked up for the client of a walk. -/
def lookedUp (settings : Settings) (client : Option String) : List String :=
  if settings.looksUpNames then client.toList else []

/-- The client of a walk, and nobody else, is looked up if look-ups are on. -/
theorem walkHost_run (settings : Settings) (lookup : Lookup) (walk : Walk) (world : World) :
    ∃ after,
      (walkHost settings lookup walk).run world =
        (.ok (walk.client.map (hostNameOf settings lookup)), after) ∧
      after.lookups = world.lookups ++ lookedUp settings walk.client := by
  unfold walkHost hostNameOf lookedUp
  cases walk.client with
  | none => exact ⟨world, rfl, by simp⟩
  | some address =>
      simp only [remoteHostOf, Option.map_some, Option.toList_some]
      cases looks : settings.looksUpNames with
      | false => exact ⟨world, rfl, by simp⟩
      | true =>
          cases outcome : lookup address with
          | ok name => exact ⟨_, rfl, rfl⟩
          | error failure => exact ⟨_, rfl, rfl⟩

/-! ### What resolution leaves alone -/

section Reporting

variable {γ : Type} (part : World → γ)
  (unreported : ∀ world reports, part (World.report world reports) = part world)

include unreported

theorem protocolClaims_keeps (settings : Settings) (headers : List Header) :
    (protocolClaims settings headers).Keeps part := by
  unfold protocolClaims
  split
  · exact Step.Keeps.pure part _
  · refine Step.Keeps.bind (Step.Keeps.ofExcept part _) fun values => ?_
    split
    · exact Step.Keeps.pure part _
    · refine Step.Keeps.bind (Step.Keeps.ofExcept part _) fun port => ?_
      exact Step.Keeps.bind (Step.Keeps.report part unreported _) fun _ => Step.Keeps.pure part _

theorem separateClaims_keeps (settings : Settings) (headers : List Header) :
    (separateClaims settings headers).Keeps part := by
  unfold separateClaims
  refine Step.Keeps.bind (protocolClaims_keeps part unreported settings headers) fun claims => ?_
  refine Step.Keeps.bind (Step.Keeps.ofExcept part _) fun claim => ?_
  split
  · exact Step.Keeps.pure part _
  · exact Step.Keeps.bind (Step.Keeps.report part unreported _) fun _ => Step.Keeps.pure part _

variable (unlooked : ∀ world address,
  part { world with lookups := world.lookups ++ [address] } = part world)

include unlooked

theorem walkHost_keeps (settings : Settings) (lookup : Lookup) (walk : Walk) :
    (walkHost settings lookup walk).Keeps part := by
  intro world
  unfold walkHost
  cases walk.client with
  | none => rfl
  | some address =>
      simp only [remoteHostOf]
      cases settings.looksUpNames with
      | false => rfl
      | true =>
          cases outcome : lookup address with
          | ok name => exact unlooked world address
          | error failure => exact (unreported _ _).trans (unlooked world address)

/-- Resolution reports and looks up, and does nothing else. -/
theorem resolve_keeps (settings : Settings) (lookup : Lookup) (request : Request)
    (peer : String) : (resolve settings lookup request peer).Keeps part := by
  have reported := Step.Keeps.report part unreported
  have hosted := walkHost_keeps part unreported unlooked settings lookup
  unfold resolve
  refine Step.Keeps.bind (Step.Keeps.ofExcept _ _) fun headers => ?_
  split
  · refine Step.Keeps.bind (Step.Keeps.ofExcept _ _) fun values => ?_
    refine Step.Keeps.bind (reported _) fun _ => ?_
    refine Step.Keeps.bind (hosted _) fun host => ?_
    exact Step.Keeps.bind (reported _) fun _ => Step.Keeps.pure _ _
  · refine Step.Keeps.bind (Step.Keeps.ofExcept _ _) fun values => ?_
    refine Step.Keeps.bind (hosted _) fun host => ?_
    exact Step.Keeps.bind (separateClaims_keeps part unreported settings headers) fun _ =>
      Step.Keeps.pure _ _

end Reporting

/-- Resolution ties nothing to the journal. -/
theorem resolve_keeps_context (settings : Settings) (lookup : Lookup) (request : Request)
    (peer : String) : (resolve settings lookup request peer).Keeps World.context :=
  resolve_keeps World.context (fun _ _ => rfl) (fun _ _ => rfl) settings lookup request peer

/-! ### The same in every world -/

theorem walkHost_isSteady (settings : Settings) (lookup : Lookup) (walk : Walk) :
    (walkHost settings lookup walk).IsSteady := by
  intro world other
  obtain ⟨after, ran, -⟩ := walkHost_run settings lookup walk world
  obtain ⟨ended, otherRan, -⟩ := walkHost_run settings lookup walk other
  rw [ran, otherRan]

theorem protocolClaims_isSteady (settings : Settings) (headers : List Header) :
    (protocolClaims settings headers).IsSteady := by
  unfold protocolClaims
  split
  · exact .pure _
  · refine .bind (.ofExcept _) fun values => ?_
    split
    · exact .pure _
    · refine .bind (.ofExcept _) fun port => ?_
      exact .bind (.report _) fun _ => .pure _

theorem separateClaims_isSteady (settings : Settings) (headers : List Header) :
    (separateClaims settings headers).IsSteady := by
  unfold separateClaims
  refine .bind (protocolClaims_isSteady settings headers) fun claims => ?_
  refine .bind (.ofExcept _) fun claim => ?_
  split
  · exact .pure _
  · exact .bind (.report _) fun _ => .pure _

/-- What a request resolves to does not depend on what the journal and the look-ups have seen. -/
theorem resolve_isSteady (settings : Settings) (lookup : Lookup) (request : Request)
    (peer : String) : (resolve settings lookup request peer).IsSteady := by
  unfold resolve
  refine .bind (.ofExcept _) fun headers => ?_
  split
  · refine .bind (.ofExcept _) fun values => ?_
    refine .bind (.report _) fun _ => ?_
    refine .bind (walkHost_isSteady settings lookup _) fun host => ?_
    exact .bind (.report _) fun _ => .pure _
  · refine .bind (.ofExcept _) fun values => ?_
    refine .bind (walkHost_isSteady settings lookup _) fun host => ?_
    exact .bind (separateClaims_isSteady settings headers) fun _ => .pure _

/-- Only the headers of a request are resolved. -/
theorem resolve_of_headers (settings : Settings) (lookup : Lookup) {request other : Request}
    (same : other.headers = request.headers) (peer : String) :
    resolve settings lookup other peer = resolve settings lookup request peer := by
  unfold resolve headerList
  rw [same]

/-! ### The chain of a request -/

/-- The header that carries the chain in the dialect of the settings. -/
def chainHeader (settings : Settings) : String :=
  if settings.standardHeaderOnly then Settings.standardHeader else settings.clientHeader

/-- The chain that the occurrences of that header spell. -/
def readChain (settings : Settings) (values : List String) : List String :=
  if settings.standardHeaderOnly then (DirectiveMap.read values).1.values "for"
  else Chain.read values

/-- The walk along the chain of a request from a peer. -/
def chainWalk (settings : Settings) (values : List String) (peer : String) : Walk :=
  walk settings.rules (readChain settings values) peer

/-- A request whose chain header has some values, one for each occurrence. -/
structure Carries (settings : Settings) (request : Request) (headers : List Header)
    (values : List String) : Prop where
  listed : request.headers = some headers
  found : headerValues headers (chainHeader settings) = .ok values

theorem Carries.unique {settings : Settings} {request : Request} {headers others : List Header}
    {values otherValues : List String} (carries : Carries settings request headers values)
    (otherCarries : Carries settings request others otherValues) :
    others = headers ∧ otherValues = values := by
  have sameHeaders : others = headers :=
    Option.some.inj (otherCarries.listed.symm.trans carries.listed)
  subst sameHeaders
  exact ⟨rfl, Except.ok.inj (otherCarries.found.symm.trans carries.found)⟩

section Resolve

variable {settings : Settings} {lookup : Lookup} {request : Request} {peer : String}
  {headers : List Header} {values : List String}

/-- In the standard dialect resolution always succeeds, with the client and its host name, the
shortened header and the claims of the whole header. -/
theorem resolve_standard (standard : settings.standardHeaderOnly = true)
    (carries : Carries settings request headers values) (world : World) :
    ∃ after,
      (resolve settings lookup request peer).run world =
        (.ok (overridesOf (chainWalk settings values peer)
          ((chainWalk settings values peer).client.map (hostNameOf settings lookup))
          (standardUpdates (DirectiveMap.read values).1 (chainWalk settings values peer))
          (standardClaims settings (DirectiveMap.read values).1).1), after) ∧
      after.lookups =
        world.lookups ++ lookedUp settings (chainWalk settings values peer).client := by
  have found := carries.found
  rw [chainHeader, if_pos standard] at found
  have walked : chainWalk settings values peer =
      walk settings.rules ((DirectiveMap.read values).1.values "for") peer := by
    rw [chainWalk, readChain, if_pos standard]
  obtain ⟨after, hosted, looked⟩ := walkHost_run settings lookup
    (walk settings.rules ((DirectiveMap.read values).1.values "for") peer)
    (world.report (DirectiveMap.read values).2)
  rw [walked]
  refine ⟨after.report (standardClaims settings (DirectiveMap.read values).1).2, ?_, looked⟩
  simp only [resolve, headerList, carries.listed, found, standard, if_true, Step.run_bind,
    Step.run_ofExcept, Step.run_report, hosted]
  rfl

/-- In the dialect of separate headers resolution ends as the claims do, with the client and its
host name, and the shortened chain. -/
theorem resolve_separate (separate : settings.standardHeaderOnly = false)
    (carries : Carries settings request headers values) (world : World) :
    ∃ hosted,
      (resolve settings lookup request peer).run world =
        (match (separateClaims settings headers).run hosted with
        | (.ok claims, after) =>
          (.ok (overridesOf (chainWalk settings values peer)
            ((chainWalk settings values peer).client.map (hostNameOf settings lookup))
            (chainUpdates settings (chainWalk settings values peer)) claims), after)
        | (.error fault, after) => (.error fault, after)) ∧
      hosted.lookups =
        world.lookups ++ lookedUp settings (chainWalk settings values peer).client := by
  have found := carries.found
  have other : ¬ settings.standardHeaderOnly = true := by simp [separate]
  rw [chainHeader, if_neg other] at found
  have walked : chainWalk settings values peer =
      walk settings.rules (Chain.read values) peer := by
    rw [chainWalk, readChain, if_neg other]
  obtain ⟨after, hosted, looked⟩ := walkHost_run settings lookup
    (walk settings.rules (Chain.read values) peer) world
  rw [walked]
  refine ⟨after, ?_, looked⟩
  simp only [resolve, headerList, carries.listed, found, separate, Bool.false_eq_true, if_false,
    Step.run_bind, Step.run_ofExcept, hosted]
  rcases (separateClaims settings headers).run after with ⟨outcome, ended⟩
  cases outcome <;> rfl

/-- In both dialects the client of the walk, and nobody else, is looked up, and no override
names another client. -/
theorem resolve_client (carries : Carries settings request headers values) (world : World) :
    ((resolve settings lookup request peer).run world).2.lookups =
        world.lookups ++ lookedUp settings (chainWalk settings values peer).client ∧
      ∀ overrides, ((resolve settings lookup request peer).run world).1 = .ok overrides →
        overrides.remoteAddress = (chainWalk settings values peer).client := by
  cases dialect : settings.standardHeaderOnly with
  | true =>
      obtain ⟨after, ran, looked⟩ := resolve_standard dialect carries world
      rw [ran]
      refine ⟨looked, ?_⟩
      intro overrides same
      injection same with same
      rw [← same]
      rfl
  | false =>
      obtain ⟨hosted, ran, looked⟩ := resolve_separate dialect carries world
      have kept := separateClaims_keeps World.lookups (fun _ _ => rfl) settings headers hosted
      rw [ran, ← looked, ← kept]
      rcases (separateClaims settings headers).run hosted with ⟨outcome, after⟩
      cases outcome with
      | error fault => exact ⟨rfl, by simp⟩
      | ok claims =>
          refine ⟨rfl, ?_⟩
          intro overrides same
          injection same with same
          rw [← same]
          rfl

/-- A request whose chain cannot be read is refused at once. -/
theorem resolve_of_uncarried (uncarried : ¬ ∃ headers values, Carries settings request headers values)
    (world : World) :
    ∃ fault, (resolve settings lookup request peer).run world = (.error fault, world) := by
  cases listed : request.headers with
  | none =>
      refine ⟨.missing "headers", ?_⟩
      simp only [resolve, headerList, listed, Step.run_bind, Step.run_ofExcept]
  | some headers =>
      cases found : headerValues headers (chainHeader settings) with
      | ok values => exact absurd ⟨headers, values, listed, found⟩ uncarried
      | error fault =>
          refine ⟨fault, ?_⟩
          unfold chainHeader at found
          cases dialect : settings.standardHeaderOnly with
          | true =>
              rw [if_pos dialect] at found
              simp only [resolve, headerList, listed, dialect, if_true, Step.run_bind,
                Step.run_ofExcept, found]
          | false =>
              rw [dialect] at found
              simp only [Bool.false_eq_true, if_false] at found
              simp only [resolve, headerList, listed, dialect, Bool.false_eq_true, if_false,
                Step.run_bind, Step.run_ofExcept, found]

/-- A request that is resolved carries the chain header, perhaps with no occurrence. -/
theorem carries_of_resolve {overrides : Overrides} {world after : World}
    (resolution : (resolve settings lookup request peer).run world = (.ok overrides, after)) :
    ∃ headers values, Carries settings request headers values := by
  refine Classical.byContradiction fun uncarried => ?_
  obtain ⟨fault, refused⟩ := @resolve_of_uncarried settings lookup request peer uncarried world
  rw [refused] at resolution
  cases resolution

/-- The updates of the chain headers in the dialect of the settings. -/
def headerUpdates (settings : Settings) (values : List String) (walk : Walk) :
    List (String × Option String) :=
  if settings.standardHeaderOnly then standardUpdates (DirectiveMap.read values).1 walk
  else chainUpdates settings walk

/-- In both dialects the overrides are those of the walk along the chain of the request, with some
claims. -/
theorem overrides_of_resolve {overrides : Overrides} {world after : World}
    (resolution : (resolve settings lookup request peer).run world = (.ok overrides, after)) :
    ∃ headers values claims, Carries settings request headers values ∧
      overrides = overridesOf (chainWalk settings values peer)
        ((chainWalk settings values peer).client.map (hostNameOf settings lookup))
        (headerUpdates settings values (chainWalk settings values peer)) claims := by
  obtain ⟨headers, values, carries⟩ := carries_of_resolve resolution
  refine ⟨headers, values, ?_⟩
  unfold headerUpdates
  cases dialect : settings.standardHeaderOnly with
  | true =>
      obtain ⟨ended, ran, -⟩ := @resolve_standard settings lookup request peer headers values
        dialect carries world
      rw [ran] at resolution
      exact ⟨_, carries, (Except.ok.inj (congrArg Prod.fst resolution)).symm⟩
  | false =>
      obtain ⟨hosted, ran, -⟩ := @resolve_separate settings lookup request peer headers values
        dialect carries world
      rw [ran] at resolution
      rcases claimed : (separateClaims settings headers).run hosted with ⟨outcome, ended⟩
      cases outcome with
      | error fault =>
          rw [claimed] at resolution
          cases resolution
      | ok claims =>
          rw [claimed] at resolution
          exact ⟨claims, carries, (Except.ok.inj (congrArg Prod.fst resolution)).symm⟩

end Resolve

end ForwardedClient.Middleware
