import ForwardedClient.Proofs.Forwarded.Omission
import ForwardedClient.Proofs.Middleware.Agreement
import ForwardedClient.Proofs.Middleware.ShownServer
import ForwardedClient.Proofs.Middleware.Stacking

/-!
Contract: claims that cannot be read, and requests without them.

Owns: the host and the port claim that count in either dialect, the headers that are left when all
claims of the one or the other kind are taken away, and the law that a claim which is rejected shows
its application no more than that.

Does not own: the remarks that a rejected claim leaves in the journal, and what the claims that are
accepted show.
-/

namespace ForwardedClient.Middleware

open ForwardedClient.Address
open ForwardedClient.Claim
open ForwardedClient.Forwarded
open ForwardedClient.Request
open ForwardedClient.Text

/-! ### Claims are what is read of them -/

/-- The host that a claim names, if there is one and it can be read. -/
def claimedHost? (claim : Option String) : Option HostClaim :=
  claim.bind fun text => (HostClaim.read text).toOption

theorem claimedHost?_some (text : String) :
    claimedHost? (some text) = (HostClaim.read text).toOption := by
  rw [claimedHost?, Option.bind_some]

section Read

variable {settings : Settings} {headers others : List Header}

theorem resolve_port_congr (settings : Settings) (protocols : List String)
    {port other : Option String} (same : port.bind claimedPort? = other.bind claimedPort?) :
    ((protocolRules settings).resolve (Chain.read protocols) port).1 =
      ((protocolRules settings).resolve (Chain.read protocols) other).1 := by
  have ported : ∀ claim : Option String, claim.toList.head? = claim := by
    intro claim
    cases claim <;> rfl
  have resolved := resolve_protocols settings protocols port.toList
  have otherResolved := resolve_protocols settings protocols other.toList
  rw [ported] at resolved otherResolved
  rw [resolved, otherResolved, same]

/-- Of the port header no more counts than the number that is read of its first value. -/
theorem protocolClaims_agrees (protocols : namedValues headers settings.protocolHeader =
      namedValues others settings.protocolHeader)
    (ports : (claimValue headers settings.portHeader).map (·.bind claimedPort?) =
      (claimValue others settings.portHeader).map (·.bind claimedPort?)) :
    Step.Agrees Eq (protocolClaims settings headers) (protocolClaims settings others) := by
  unfold protocolClaims
  unfold namedValues at protocols
  cases configured : settings.protocolHeader.filter (!·.isEmpty) with
  | none => exact .pure rfl
  | some name =>
      rw [configured] at protocols
      simp only at protocols
      simp only [protocols]
      refine .bind_steady (.ofExcept _) fun values => ?_
      split
      · exact .pure rfl
      · have claimed : Step.Agrees
            (fun port other => port.bind claimedPort? = other.bind claimedPort?)
            (Step.ofExcept (claimValue headers settings.portHeader))
            (Step.ofExcept (claimValue others settings.portHeader)) :=
          .ofExcept (endAlike_of_map_eq ports)
        refine claimed.bind fun port other same => ?_
        have resolved := resolve_port_congr settings values same
        generalize (protocolRules settings).resolve (Chain.read values) port = claim at resolved ⊢
        generalize (protocolRules settings).resolve (Chain.read values) other = called at resolved ⊢
        exact .bind (.report _ _) fun _ _ _ => .pure (congrArg _ resolved)

/-- Of the host header no more counts than what is read of its first value. -/
theorem separateClaims_agrees (protocols : namedValues headers settings.protocolHeader =
      namedValues others settings.protocolHeader)
    (ports : (claimValue headers settings.portHeader).map (·.bind claimedPort?) =
      (claimValue others settings.portHeader).map (·.bind claimedPort?))
    (hosts : (claimValue headers settings.hostHeader).map claimedHost? =
      (claimValue others settings.hostHeader).map claimedHost?) :
    Step.Agrees Eq (separateClaims settings headers) (separateClaims settings others) := by
  have claimed : Step.Agrees (fun claim other => claimedHost? claim = claimedHost? other)
      (Step.ofExcept (claimValue headers settings.hostHeader))
      (Step.ofExcept (claimValue others settings.hostHeader)) :=
    .ofExcept (endAlike_of_map_eq hosts)
  unfold separateClaims
  refine (protocolClaims_agrees protocols ports).bind fun claims _ same => ?_
  subst same
  refine claimed.bind fun claim other alike => ?_
  have resolved : ∀ text, claims.addHost
      (HostClaim.resolve text (settings.hostHeader.getD "")).1 =
        claims.addHost (claimedHost? (some text)) := by
    intro text
    rw [resolve_fst, claimedHost?_some]
  -- A claim that gives no host adds nothing, like none.
  have added := congrArg claims.addHost alike
  cases claim with
  | none =>
      cases other with
      | none => exact .pure rfl
      | some text =>
          have same := added.trans (resolved text).symm
          simp only
          generalize HostClaim.resolve text (settings.hostHeader.getD "") = host at same ⊢
          exact fun _ _ => .ok same
  | some claim =>
      have own := (resolved claim).trans added
      simp only
      generalize HostClaim.resolve claim (settings.hostHeader.getD "") = host at own ⊢
      cases other with
      | none => exact fun _ _ => .ok own
      | some text =>
          have same := own.trans (resolved text).symm
          simp only
          generalize HostClaim.resolve text (settings.hostHeader.getD "") = otherHost at same ⊢
          exact fun _ _ => .ok same

end Read

/-! ### Requests without a header -/

/-- The headers without those of a name, if one is configured. -/
def withoutNamed (headers : List Header) (name : Option String) : List Header :=
  match name.filter (!·.isEmpty) with
  | none => headers
  | some name =>
    match headerName name with
    | .ok bytes => Headers.erase headers bytes
    | .error _ => headers

section Without

variable {headers : List Header} {name : Option String}

/-- Headers of other names stay. -/
theorem values_withoutNamed {other : LatinText}
    (differ : ∀ text, name.filter (!·.isEmpty) = some text → lower text ≠ other.text) :
    Headers.values (withoutNamed headers name) other = Headers.values headers other := by
  unfold withoutNamed
  cases configured : name.filter (!·.isEmpty) with
  | none => rfl
  | some text =>
      simp only
      cases named : headerName text with
      | error cause => rfl
      | ok bytes =>
          have unlike : bytes ≠ other := fun same =>
            headerName_ne (differ text configured) (same ▸ named)
          exact Headers.values_erase_of_ne unlike

theorem headerValues_withoutNamed {other : String}
    (differ : ∀ text, name.filter (!·.isEmpty) = some text → lower text ≠ lower other) :
    headerValues (withoutNamed headers name) other = headerValues headers other := by
  unfold headerValues
  cases named : headerName other with
  | error cause => rfl
  | ok bytes =>
      have spelled := text_of_headerName named
      simp only
      rw [values_withoutNamed fun text same => spelled ▸ differ text same]

theorem namedValues_withoutNamed {other : Option String}
    (differ : ∀ text, name.filter (!·.isEmpty) = some text →
      ∀ title, other.filter (!·.isEmpty) = some title → lower text ≠ lower title) :
    namedValues (withoutNamed headers name) other = namedValues headers other := by
  unfold namedValues
  cases configured : other.filter (!·.isEmpty) with
  | none => rfl
  | some title => exact headerValues_withoutNamed fun text same => differ text same title configured

/-- No header of the name stays. -/
theorem claimValue_withoutNamed {claim : Option String}
    (claimed : claimValue headers name = .ok claim) :
    claimValue (withoutNamed headers name) name = .ok none := by
  unfold claimValue withoutNamed at *
  cases configured : name.filter (!·.isEmpty) with
  | none => rfl
  | some text =>
      rw [configured] at claimed
      cases named : headerName text with
      | error cause => simp [headerValues, named, Except.map] at claimed
      | ok bytes => simp [headerValues, named, Except.map, Headers.values_erase]

end Without

/-- Of the claim headers of distinct names that are configured no two have the same name. -/
theorem HasDistinctNames.claims_apart {settings : Settings} (names : HasDistinctNames settings) :
    [settings.protocolHeader, settings.portHeader, settings.hostHeader].Pairwise fun name other =>
      ∀ text, name.filter (!·.isEmpty) = some text →
        ∀ title, other.filter (!·.isEmpty) = some title → lower text ≠ lower title := by
  have distinct : ((claimNames settings).map lower).Nodup := by
    simp only [HasDistinctNames, List.cons_append, List.map_cons, List.map_append,
      List.nodup_cons] at names
    exact (List.nodup_append.mp names.2.2).1
  rw [claimNames, List.Nodup, List.pairwise_map, List.pairwise_filterMap] at distinct
  exact distinct

/-! ### Requests without a directive -/

/-- A header, without the pairs of a directive if it is a standard header. -/
def omitFromStandard (name : String) (header : Header) : Header :=
  if header.name = standardName then { header with value := withoutDirective name header.value }
  else header

section Omitted

variable {name : String} {headers : List Header}

theorem values_omitFromStandard_of_ne {other : LatinText} (differ : standardName ≠ other) :
    Headers.values (headers.map (omitFromStandard name)) other = Headers.values headers other := by
  induction headers with
  | nil => rfl
  | cons header rest inductionHypothesis =>
      rw [List.map_cons, Headers.values_cons, Headers.values_cons, inductionHypothesis]
      unfold omitFromStandard
      by_cases standard : header.name = standardName
      · rw [if_pos standard, if_neg (standard ▸ differ), if_neg (standard ▸ differ)]
      · rw [if_neg standard]

theorem values_omitFromStandard :
    Headers.values (headers.map (omitFromStandard name)) standardName =
      ((headers.filter (·.name = standardName)).map (·.value)).map fun value =>
        (withoutDirective name value).text := by
  induction headers with
  | nil => rfl
  | cons header rest inductionHypothesis =>
      rw [List.map_cons, Headers.values_cons, inductionHypothesis]
      unfold omitFromStandard
      by_cases standard : header.name = standardName
      · simp [standard]
      · simp [standard]

/-- The standard headers hold the same values without the pairs of a directive, but for those of
the directive. -/
theorem values_read_omitFromStandard (other : String) :
    (DirectiveMap.read (Headers.values (headers.map (omitFromStandard name))
        standardName)).1.values other =
      if other = name then []
      else (DirectiveMap.read (Headers.values headers standardName)).1.values other := by
  rw [values_omitFromStandard, DirectiveMap.values_read_withoutDirective, List.map_map]
  rfl

end Omitted

/-! ### Resolutions -/

section Resolutions

variable {settings : Settings} {request other : Request} {headers others : List Header}

/-- In the dialect of separate headers requests with the same chain resolve to the same if their
claims do. -/
theorem resolve_agrees_of_claims (separate : settings.standardHeaderOnly = false)
    (listed : request.headers = some headers) (otherListed : other.headers = some others)
    (chain : headerValues headers settings.clientHeader =
      headerValues others settings.clientHeader)
    (claims : Step.Agrees Eq (separateClaims settings headers) (separateClaims settings others))
    (lookup : Lookup) (peer : String) :
    Step.Agrees CallAlike (resolve settings lookup request peer)
      (resolve settings lookup other peer) := by
  have begun : Step.Agrees (fun list rest => list = headers ∧ rest = others)
      (Step.ofExcept request.headerList) (Step.ofExcept other.headerList) := by
    rw [headerList, headerList, listed, otherListed]
    exact .ofExcept (.ok ⟨rfl, rfl⟩)
  have apart : ¬ settings.standardHeaderOnly = true := by simp [separate]
  refine begun.bind ?_
  rintro _ _ ⟨rfl, rfl⟩
  rw [if_neg apart, if_neg apart, chain]
  refine .bind_steady (.ofExcept _) fun values => ?_
  refine .bind_steady (walkHost_isSteady settings lookup _) fun host => ?_
  refine .bind claims fun own _ same => .pure ?_
  subst same
  exact ⟨rfl, .refl _⟩

theorem writeAlike_standardHeader {text rest : String} (alike : IsLatin text ↔ IsLatin rest) :
    WriteAlike [(Settings.standardHeader, unlessEmpty text)]
      [(Settings.standardHeader, unlessEmpty rest)] := by
  have assignable : ∀ headers text, (Headers.assignAll headers
      [(Settings.standardHeader, unlessEmpty text)]).2 = none ↔ IsLatin text := by
    intro headers text
    rw [← @exists_assignAll_iff headers]
    exact ⟨fun done => ⟨_, Prod.ext rfl done⟩, fun ⟨_, done⟩ => congrArg Prod.snd done⟩
  refine ⟨rfl, fun headers others => ?_⟩
  rw [assignable, assignable]
  exact alike

/-- Updates of the standard header by one walk can be made alike, whatever the header says besides
the chain. -/
theorem writeAlike_standardUpdates {values rest : List String} {peer : String}
    (latin : ∀ value ∈ values, IsLatin value) (otherLatin : ∀ value ∈ rest, IsLatin value)
    (walked : chainWalk settings values peer = chainWalk settings rest peer) :
    WriteAlike
      (standardUpdates (DirectiveMap.read values).1 (chainWalk settings values peer))
      (standardUpdates (DirectiveMap.read rest).1 (chainWalk settings rest peer)) := by
  by_cases crossed : (chainWalk settings values peer).isResolved = true ∨
      0 < (chainWalk settings values peer).chainProxies
  · rw [standardUpdates_of_crossed crossed, standardUpdates_of_crossed (walked ▸ crossed)]
    exact writeAlike_standardHeader
      ((isLatin_shortened latin).trans (isLatin_shortened otherLatin).symm)
  · rw [not_or, Bool.not_eq_true, Nat.not_lt, Nat.le_zero] at crossed
    rw [standardUpdates_of_internal crossed.1 crossed.2,
      standardUpdates_of_internal (walked ▸ crossed.1) (walked ▸ crossed.2)]
    exact .refl []

/-- In the standard dialect requests with the same chain resolve to the same if their claims do. -/
theorem resolve_agrees_of_standardClaims (standard : settings.standardHeaderOnly = true)
    (listed : request.headers = some headers) (otherListed : other.headers = some others)
    (chain : (DirectiveMap.read (Headers.values headers standardName)).1.values "for" =
      (DirectiveMap.read (Headers.values others standardName)).1.values "for")
    (claims :
      (standardClaims settings (DirectiveMap.read (Headers.values headers standardName)).1).1 =
        (standardClaims settings (DirectiveMap.read (Headers.values others standardName)).1).1)
    (lookup : Lookup) (peer : String) :
    Step.Agrees CallAlike (resolve settings lookup request peer)
      (resolve settings lookup other peer) := by
  have found : ∀ list, headerValues list (chainHeader settings) =
      .ok (Headers.values list standardName) := by
    intro list
    rw [chainHeader, if_pos standard, headerValues, headerName_standard]
  have walked : chainWalk settings (Headers.values headers standardName) peer =
      chainWalk settings (Headers.values others standardName) peer := by
    rw [chainWalk, chainWalk, readChain, readChain, if_pos standard, if_pos standard, chain]
  have latin : ∀ list, ∀ value ∈ Headers.values list standardName, IsLatin value :=
    fun _ _ member => Headers.isLatin_of_mem_values member
  intro world ended
  obtain ⟨_, ran, -⟩ := @resolve_standard settings lookup request peer _ _ standard
    ⟨listed, found headers⟩ world
  obtain ⟨_, otherRan, -⟩ := @resolve_standard settings lookup other peer _ _ standard
    ⟨otherListed, found others⟩ ended
  rw [ran, otherRan]
  refine .ok ⟨?_, writeAlike_standardUpdates (latin headers) (latin others) walked⟩
  rw [walked, claims]
  rfl

end Resolutions

/-! ### Claims that count -/

/-- The host claim that counts: the first value of the host claim header, or the first host in the
standard headers. -/
def pickedHost? (settings : Settings) (headers : List Header) : Option String :=
  if settings.standardHeaderOnly then
    ((DirectiveMap.read (Headers.values headers standardName)).1.values "host").head?
  else (claimValue headers settings.hostHeader).toOption.join

/-- The port claim that counts: the first value of the port header, in the dialect that has one. -/
def pickedPort? (settings : Settings) (headers : List Header) : Option String :=
  if settings.standardHeaderOnly then none
  else (claimValue headers settings.portHeader).toOption.join

/-- The headers without any host claim. -/
def withoutHosts (settings : Settings) (headers : List Header) : List Header :=
  if settings.standardHeaderOnly then headers.map (omitFromStandard "host")
  else withoutNamed headers settings.hostHeader

/-- The headers without any port claim. -/
def withoutPorts (settings : Settings) (headers : List Header) : List Header :=
  withoutNamed headers settings.portHeader

theorem claimValue_of_join {headers : List Header} {name : Option String} {claim : String}
    (picked : (claimValue headers name).toOption.join = some claim) :
    claimValue headers name = .ok (some claim) := by
  cases found : claimValue headers name with
  | error fault =>
      rw [found] at picked
      exact nomatch picked
  | ok value =>
      rw [found] at picked
      exact congrArg Except.ok picked

/-- Two requests that are passed on alike: either both applications run or neither does, and then
they are shown the same, up to headers that are not the host header. -/
structure ArePassedAlike (settings : Settings) (lookup : Lookup) (application : Application)
    (world : World) (left right : Request) : Prop where
  both : (prepare settings lookup left world).fault = none ↔
    (prepare settings lookup right world).fault = none
  called : (prepare settings lookup left world).fault = none →
    ∀ request ∈ [left, right],
      let prepared := prepare settings lookup request world
      handle settings lookup application request world =
        finish prepared.view (application prepared.request prepared.world)
  server : (prepare settings lookup left world).fault = none →
    (prepare settings lookup left world).request.serverNameAndPort =
      (prepare settings lookup right world).request.serverNameAndPort
  agrees : (prepare settings lookup left world).fault = none →
    Agrees (prepare settings lookup left world) (prepare settings lookup right world)

section Passed

variable {settings : Settings} {lookup : Lookup} {request : Request} {peer : Endpoint}
  {kind : String} {headers others : List Header}
  (names : HasDistinctNames settings) (handled : request.kind = some kind)
  (known : isHandledKind kind = true) (proxied : IsProxied settings request peer)
  (listed : request.headers = some headers)

include names handled known proxied listed in
/-- It takes the same host headers and resolutions that agree. -/
theorem arePassedAlike_of_resolutions
    (hosts : Headers.values headers hostHeader = Headers.values others hostHeader)
    (resolutions : ∀ left right : Request, left.headers = some headers →
      right.headers = some others →
        Step.Agrees CallAlike (resolve settings lookup left peer.host)
          (resolve settings lookup right peer.host))
    (application : Application) (world : World) :
    ArePassedAlike settings lookup application world request
      { request with headers := some others } := by
  have alike : IsAlike request { request with headers := some others } :=
    ⟨headers, others, by rw [← listed], rfl, hosts⟩
  have ensured : ∀ (left : Request) (list : List Header), left.headers = some list →
      left.ensureState.headers = some list := by
    intro left list same
    rw [ensureState_eq]
    exact same
  obtain ⟨both, agree⟩ := agrees_of_resolutions names.client_ne_host names.proxies_ne_host alike
    proxied (resolutions _ _ (ensured request headers listed) (ensured _ others rfl)) world
  refine ⟨both, fun reached passed member => ?_, fun reached =>
    (agree reached).request.serverNameAndPort, agree⟩
  rcases List.mem_cons.mp member with same | other
  · rw [same]
    exact handle_of_reached handled known reached
  · rw [List.mem_singleton.mp other]
    exact handle_of_reached handled known (both.mp reached)

include names in
/-- Taking a claim header away leaves the host header and the chain. -/
theorem values_withoutNamed_of_claim {name : Option String}
    (claimed : name ∈ [settings.protocolHeader, settings.portHeader, settings.hostHeader]) :
    Headers.values (withoutNamed headers name) hostHeader = Headers.values headers hostHeader ∧
      headerValues (withoutNamed headers name) settings.clientHeader =
        headerValues headers settings.clientHeader := by
  have isClaim : ∀ text, name.filter (!·.isEmpty) = some text → text ∈ claimNames settings :=
    fun text configured => List.mem_filterMap.mpr ⟨name, claimed, configured⟩
  exact ⟨values_withoutNamed fun text same => (names.claim_ne (isClaim text same)).1,
    headerValues_withoutNamed fun text same => (names.claim_ne (isClaim text same)).2.1.symm⟩

include names handled known proxied listed in
/-- In the dialect of separate headers it takes claims that count the same. -/
theorem arePassedAlike_withoutNamed (separate : settings.standardHeaderOnly = false)
    {name : Option String}
    (claimed : name ∈ [settings.protocolHeader, settings.portHeader, settings.hostHeader])
    (claims : Step.Agrees Eq (separateClaims settings headers)
      (separateClaims settings (withoutNamed headers name)))
    (application : Application) (world : World) :
    ArePassedAlike settings lookup application world request
      { request with headers := some (withoutNamed headers name) } := by
  obtain ⟨hosts, chain⟩ := values_withoutNamed_of_claim names claimed
  refine arePassedAlike_of_resolutions names handled known proxied listed hosts.symm ?_
    application world
  intro left right own other
  exact resolve_agrees_of_claims separate own other chain.symm claims lookup peer.host

include names in
/-- A host claim that is rejected counts no more than none. -/
theorem separateClaims_agrees_withoutHosts {claim failure : String}
    (picked : claimValue headers settings.hostHeader = .ok (some claim))
    (rejected : HostClaim.read claim = .error failure) :
    Step.Agrees Eq (separateClaims settings headers)
      (separateClaims settings (withoutNamed headers settings.hostHeader)) := by
  obtain ⟨protocolApart, portApart⟩ := List.pairwise_cons.mp names.claims_apart
  refine separateClaims_agrees ?protocols ?ports ?hosts
  case protocols =>
    exact (namedValues_withoutNamed fun text same title other =>
      (protocolApart settings.hostHeader (by simp) title other text same).symm).symm
  case ports =>
    have apart := (List.pairwise_cons.mp portApart).1
    rw [claimValue_eq, claimValue_eq, namedValues_withoutNamed fun text same title other =>
      (apart settings.hostHeader (by simp) title other text same).symm]
  case hosts =>
    have unread : claimedHost? (some claim) = none := by
      rw [claimedHost?_some, rejected]
      rfl
    rw [claimValue_withoutNamed picked, picked, Except.map, unread]
    rfl

include names in
/-- A port claim that is rejected counts no more than none. -/
theorem separateClaims_agrees_withoutPorts {claim : String} {failure : PortError}
    (picked : claimValue headers settings.portHeader = .ok (some claim))
    (rejected : readPort claim = .error failure) :
    Step.Agrees Eq (separateClaims settings headers)
      (separateClaims settings (withoutNamed headers settings.portHeader)) := by
  obtain ⟨protocolApart, portApart⟩ := List.pairwise_cons.mp names.claims_apart
  refine separateClaims_agrees ?protocols ?ports ?hosts
  case protocols =>
    exact (namedValues_withoutNamed fun text same title other =>
      (protocolApart settings.portHeader (by simp) title other text same).symm).symm
  case ports =>
    have unread : (some claim).bind claimedPort? = none := by
      rw [Option.bind_some, ← toOption_readPort, rejected]
      rfl
    rw [claimValue_withoutNamed picked, picked, Except.map, unread]
    rfl
  case hosts =>
    have apart := (List.pairwise_cons.mp portApart).1
    rw [claimValue_eq, claimValue_eq, namedValues_withoutNamed fun text same title other =>
      apart settings.hostHeader (by simp) text same title other]

/-- A host that is rejected counts no more than none, also in the standard headers. -/
theorem standardClaims_withoutHosts {claim failure : String}
    (picked : ((DirectiveMap.read (Headers.values headers standardName)).1.values "host").head? =
      some claim) (rejected : HostClaim.read claim = .error failure) :
    (standardClaims settings (DirectiveMap.read (Headers.values headers standardName)).1).1 =
      (standardClaims settings (DirectiveMap.read
        (Headers.values (headers.map (omitFromStandard "host")) standardName)).1).1 := by
  rw [standardClaims_eq, standardClaims_eq, values_read_omitFromStandard,
    values_read_omitFromStandard, if_neg (by decide), if_pos rfl, claimsOfValues, claimsOfValues,
    picked]
  simp only [resolve_fst, rejected]
  rfl

include names handled known proxied listed in
/-- Rejected claims are inert. A request from a proxy whose host claim cannot be read is passed on
as the request without any host claim is, in both dialects; and one whose port claim cannot be read
as the request without any port claim. -/
theorem rejected_claims_are_inert (application : Application) (world : World) :
    (∀ claim failure, pickedHost? settings headers = some claim →
        HostClaim.read claim = .error failure →
          ArePassedAlike settings lookup application world request
            { request with headers := some (withoutHosts settings headers) }) ∧
      ∀ claim failure, pickedPort? settings headers = some claim →
        readPort claim = .error failure →
          ArePassedAlike settings lookup application world request
            { request with headers := some (withoutPorts settings headers) } := by
  refine ⟨fun claim failure picked rejected => ?host, fun claim failure picked rejected => ?port⟩
  case host =>
    cases dialect : settings.standardHeaderOnly with
    | true =>
        rw [pickedHost?, if_pos dialect] at picked
        rw [withoutHosts, if_pos dialect]
        refine arePassedAlike_of_resolutions names handled known proxied listed
          (values_omitFromStandard_of_ne standardName_ne_host).symm ?_ application world
        intro left right own other
        refine resolve_agrees_of_standardClaims dialect own other ?_
          (standardClaims_withoutHosts picked rejected) lookup peer.host
        rw [values_read_omitFromStandard, if_neg (by decide)]
    | false =>
        have apart : ¬ settings.standardHeaderOnly = true := by simp [dialect]
        rw [pickedHost?, if_neg apart] at picked
        rw [withoutHosts, if_neg apart]
        exact arePassedAlike_withoutNamed names handled known proxied listed dialect (by simp)
          (separateClaims_agrees_withoutHosts names (claimValue_of_join picked) rejected)
          application world
  case port =>
    cases dialect : settings.standardHeaderOnly with
    | true =>
        rw [pickedPort?, if_pos dialect] at picked
        cases picked
    | false =>
        rw [pickedPort?, if_neg (by simp [dialect])] at picked
        exact arePassedAlike_withoutNamed names handled known proxied listed dialect (by simp)
          (separateClaims_agrees_withoutPorts names (claimValue_of_join picked) rejected)
          application world

end Passed

/-! ### Malformed claims at the edge -/

theorem hasDistinctNames_claimSettings : HasDistinctNames claimSettings :=
  .of_lower ["x-forwarded-for", "x-forwarded-by", "x-forwarded-proto", "x-forwarded-port",
    "x-forwarded-host", "host", "forwarded"] (by decide +kernel) (by decide)

theorem hasDistinctNames_standardSettings : HasDistinctNames standardSettings :=
  .of_lower ["x-forwarded-for", "x-forwarded-by", "host", "forwarded"] (by decide +kernel)
    (by decide)

/-- Two host claims, the first of which cannot be read, and a port claim that is no number. -/
def malformedHeaders : List Header :=
  [⟨hostHeader, onWire "localhost:8080"⟩,
    ⟨onWire "x-forwarded-for", onWire "203.0.113.7"⟩,
    ⟨onWire "x-forwarded-proto", onWire "https"⟩,
    ⟨onWire "x-forwarded-port", onWire "https"⟩,
    ⟨onWire "x-forwarded-host", onWire "edge..example"⟩,
    ⟨onWire "x-forwarded-host", onWire "shop.example"⟩]

/-- The same host claims in standard headers. -/
def malformedStandardHeaders : List Header :=
  [⟨hostHeader, onWire "localhost:8080"⟩,
    ⟨standardName, onWire "for=203.0.113.7;Host=\"edge..example\";proto=https"⟩,
    ⟨standardName, onWire "host=shop.example"⟩]

/-- A request from the proxy with some headers. -/
def relayedRequest (headers : List Header) : Request :=
  { kind := some "http"
    scheme := some "http"
    headers := some headers
    client := .value edgePeer }

/-- What a call shows of such a request. -/
def relayed (settings : Settings) (headers : List Header) : Prepared :=
  prepare settings nowhere (relayedRequest headers) {}

/-- The protocol counts, but neither host nor port does: the name is still that of the request, and
the port goes with the scheme. -/
theorem malformed_claims_show_nothing :
    (relayed claimSettings malformedHeaders).fault = none ∧
      shownServer (relayed claimSettings malformedHeaders) =
        some (some "https", some "localhost", some 443) ∧
      Agrees (relayed claimSettings malformedHeaders)
        (relayed claimSettings (withoutHosts claimSettings malformedHeaders)) ∧
      Agrees (relayed claimSettings malformedHeaders)
        (relayed claimSettings (withoutPorts claimSettings malformedHeaders)) ∧
      (relayed standardSettings malformedStandardHeaders).fault = none ∧
      Headers.values (withoutHosts standardSettings malformedStandardHeaders) standardName =
        ["for=203.0.113.7;;proto=https", ""] ∧
      Agrees (relayed standardSettings malformedStandardHeaders)
        (relayed standardSettings (withoutHosts standardSettings malformedStandardHeaders)) := by
  have unreadable : HostClaim.read "edge..example" =
      .error "Invalid host name: edge..example" := by rfl
  have unnumbered : readPort "https" = .error (.notNumeral "https") := by rfl
  obtain ⟨hosts, ports⟩ := @rejected_claims_are_inert claimSettings nowhere
    (relayedRequest malformedHeaders) edgePeer "http" malformedHeaders
    hasDistinctNames_claimSettings rfl (by rfl) ⟨rfl, by decide +kernel⟩ rfl (run nowhere []) {}
  obtain ⟨standardHosts, -⟩ := @rejected_claims_are_inert standardSettings nowhere
    (relayedRequest malformedStandardHeaders) edgePeer "http" malformedStandardHeaders
    hasDistinctNames_standardSettings rfl (by rfl) ⟨rfl, by decide +kernel⟩ rfl (run nowhere []) {}
  have shown : shownServer (relayed claimSettings malformedHeaders) =
      some (some "https", some "localhost", some 443) := by
    decide +kernel
  have reached : (relayed claimSettings malformedHeaders).fault = none :=
    fault_of_shownServer shown
  have standardReached : (relayed standardSettings malformedStandardHeaders).fault = none := by
    decide +kernel
  exact ⟨reached, shown, (hosts _ _ (by decide +kernel) unreadable).agrees reached,
    (ports _ _ (by decide +kernel) unnumbered).agrees reached, standardReached,
    by decide +kernel, (standardHosts _ _ (by decide +kernel) unreadable).agrees standardReached⟩

end ForwardedClient.Middleware
