import ForwardedClient.Proofs.Middleware.ForgedPrefix
import ForwardedClient.Proofs.Middleware.ShownServer

/-!
Contract: what a client can do to scheme, server name and port by writing into the standard
header before the first proxy does.

Owns: the exact condition under which two beginnings of the header show an application the same.

Does not own: the client, which no beginning of the header changes. The claims of all hops are
taken together, those of nobody's hop among them, so that the condition is not always met.
-/

namespace ForwardedClient.Middleware

open ForwardedClient.Address
open ForwardedClient.Forwarded
open ForwardedClient.Request
open ForwardedClient.Text
open ForwardedClient.Trust

/-! ### Requests that show all claims -/

/-- A request that names no server itself. -/
def probe (peer : Endpoint) (scheme : String) : Request :=
  { kind := some "http", scheme := some scheme, client := .value peer }

section Probe

variable {settings : Settings} {claims : ServerClaims} {peer : Endpoint}

theorem calledHost_probe (claims : ServerClaims) (peer : Endpoint) (scheme : String) :
    calledHost claims (probe peer scheme) =
      claims.serverName.map fun name =>
        hostText (claims.secure.getD (isSecureScheme scheme)) name claims.serverPort := by
  unfold calledHost claimOverrides Overrides.hostHeader?
  cases name : claims.serverName <;> cases port : claims.serverPort <;> rfl

theorem isShown_probe (sound : claims.IsSound settings)
    (showable : settings.rules.isInternal peer.host = true ∨ IsLatin peer.host)
    (scheme : String) : IsShown settings peer.host claims (probe peer scheme) where
  present := by simp [probe]
  peer := showable
  host := by
    rw [calledHost_probe]
    intro host called
    cases named : claims.serverName with
    | none => simp [named] at called
    | some name =>
        rw [named, Option.map_some] at called
        rw [← Option.some.inj called]
        exact isLatin_hostText (sound.name name named).2 _ _

/-- On such a request the name is the claimed one, and its port the claimed one or the default. -/
theorem serverUnder_probe (sound : claims.IsSound settings) (scheme : String) :
    serverUnder settings claims (probe peer scheme) =
      ((claims.secure.map fun secure => if secure then "https" else "http").orElse
          fun _ => some scheme,
        claims.serverName,
        claims.serverName.map fun _ =>
          claims.serverPort.getD (defaultPort (claims.secure.getD (isSecureScheme scheme)))) := by
  have spelled : ((probe peer scheme).withScheme claims.secure).scheme =
      (claims.secure.map fun secure => if secure then "https" else "http").orElse
        fun _ => some scheme := by
    cases claims.secure with
    | none => rfl
    | some secure => cases secure <;> rfl
  refine Prod.ext spelled ?_
  show serverFrom _ _ _ = _
  rw [calledHost_probe]
  cases named : claims.serverName with
  | none =>
      have missing : (initialView settings).localEnd (claimOverrides claims) .missing =
          .missing := by
        simp [ForwardedView.localEnd, claimOverrides, named, Slot.get?]
      show serverFrom _ none ((initialView settings).localEnd (claimOverrides claims) .missing) = _
      rw [missing]
      rfl
  | some name =>
      obtain ⟨isName, -⟩ := sound.name name named
      obtain ⟨port, same, bounded⟩ := sound.exists_port
      have filled : (hostText (claims.secure.getD (isSecureScheme scheme)) name
          claims.serverPort).isEmpty = false := by
        rw [same, String.isEmpty_eq_false_iff]
        exact hostText_ne_empty isName _ port
      show serverFrom (claims.secure.getD (isSecureScheme scheme))
        (some (hostText (claims.secure.getD (isSecureScheme scheme)) name claims.serverPort)) _ = _
      rw [serverFrom, Option.filter_some_pos (by simp [filled])]
      simp only [same, hostNameAndPort_hostText _ isName bounded, Option.map_some]

/-- A port that is claimed cannot be taken for a default one, since the default depends on the
scheme. -/
theorem port_eq_of_shown {left right : ServerClaims} (priced : ∀ claims ∈ [left, right],
      claims.secure.isSome = true → claims.serverPort.isSome = true)
    (secure : left.secure = right.secure)
    (same : ∀ scheme,
      left.serverPort.getD (defaultPort (left.secure.getD (isSecureScheme scheme))) =
        right.serverPort.getD (defaultPort (right.secure.getD (isSecureScheme scheme)))) :
    left.serverPort = right.serverPort := by
  have plain := same "http"
  have ciphered := same "https"
  rw [← secure] at plain ciphered
  cases unsettled : left.secure with
  | some settled =>
      have leftPriced := priced left List.mem_cons_self (by rw [unsettled]; rfl)
      have rightPriced := priced right (by simp) (by rw [← secure, unsettled]; rfl)
      obtain ⟨number, isNumber⟩ := Option.isSome_iff_exists.mp leftPriced
      obtain ⟨other, isOther⟩ := Option.isSome_iff_exists.mp rightPriced
      rw [isNumber, isOther] at plain ⊢
      exact congrArg some plain
  | none =>
      -- A port that equals the default of one scheme differs from that of the other.
      rw [unsettled] at plain ciphered
      have lower : defaultPort ((none : Option Bool).getD (isSecureScheme "http")) = 80 := by
        decide
      have upper : defaultPort ((none : Option Bool).getD (isSecureScheme "https")) = 443 := by
        decide
      rw [lower] at plain
      rw [upper] at ciphered
      cases isNumber : left.serverPort <;> cases isOther : right.serverPort <;>
        simp only [isNumber, isOther, Option.getD_none, Option.getD_some] at plain ciphered
      case none.none => rfl
      case none.some other => omega
      case some.none number => omega
      case some.some number other => rw [plain]

/-- Sound claims are told apart by what they show of such requests. -/
theorem eq_of_serverUnder_probe (peer : Endpoint) {left right : ServerClaims}
    (soundLeft : left.IsSound settings) (soundRight : right.IsSound settings)
    (same : ∀ scheme, serverUnder settings left (probe peer scheme) =
      serverUnder settings right (probe peer scheme)) : left = right := by
  simp only [serverUnder_probe soundLeft, serverUnder_probe soundRight, Prod.mk.injEq] at same
  have secure : left.secure = right.secure := by
    have scheme := (same "ftp").1
    generalize left.secure = before at scheme ⊢
    generalize right.secure = after at scheme ⊢
    rcases before with _ | _ | _ <;> rcases after with _ | _ | _ <;>
      first | rfl | exact absurd scheme (by decide)
  have name : left.serverName = right.serverName := (same "ftp").2.1
  have port : left.serverPort = right.serverPort := by
    cases named : left.serverName with
    | none => rw [soundLeft.implied named, soundRight.implied (name ▸ named), secure]
    | some host =>
        refine port_eq_of_shown ?_ secure ?_
        · intro claims member
          rcases List.mem_cons.mp member with isLeft | isRight
          · rw [isLeft]
            exact soundLeft.priced
          · rw [List.mem_singleton.mp isRight]
            exact soundRight.priced
        · intro scheme
          have shown := (same scheme).2.2
          rw [← name, named] at shown
          exact Option.some.inj shown
  cases left
  cases right
  simp only at secure name port
  rw [secure, name, port]

end Probe

/-! ### Prefixes -/

theorem isResolved_beforeComma {settings : Settings} {text : LatinText}
    (exposed : ∃ entry ∈ readChain settings [text.text], settings.rules.isProxy entry = false)
    (forged : LatinText) (peer : String) :
    (chainWalk settings [(beforeComma forged text).text] peer).isResolved = true := by
  obtain ⟨client, stopped⟩ := exists_client_of_exposed exposed peer
  obtain ⟨older, walked⟩ := chainWalk_of_prefixed
    (Prefixed.joined : Prefixed forged.text text.text _) exposed peer
  have found : (chainWalk settings [(beforeComma forged text).text] peer).client = some client := by
    rw [beforeComma, walked]
    exact stopped
  rw [Walk.isResolved, found, Option.isSome_some]

theorem isSound_headerClaims (settings : Settings) (value : LatinText) :
    (headerClaims settings value).IsSound settings := by
  refine isSound_standardClaims settings (DirectiveMap.isWire_read ?_)
  intro word member
  rw [List.mem_singleton.mp member]
  exact value.isLatin_text

/-- What a header claims that begins with one text and ends with another: the protocols of both
count together, and of the hosts of both the first. -/
def claimsWithPrefix (settings : Settings) (forged text : String) : ServerClaims :=
  claimsOfValues settings
    ((DirectiveMap.read [forged ++ ","]).1.values "proto" ++
      (DirectiveMap.read [text]).1.values "proto")
    ((DirectiveMap.read [forged ++ ","]).1.values "host" ++
      (DirectiveMap.read [text]).1.values "host")

theorem headerClaims_beforeComma (settings : Settings) (forged text : LatinText) :
    headerClaims settings (beforeComma forged text) =
      claimsWithPrefix settings forged.text text.text := by
  rw [headerClaims, standardClaims_eq, beforeComma, DirectiveMap.values_read_append_comma,
    DirectiveMap.values_read_append_comma]
  rfl

/-- When a forged prefix cannot change scheme, server name and port. If the client is found in a
text, two beginnings of the standard header before it show the application the same on every
request from a peer exactly if the protocols and hosts in both headers amount to the same claims,
or if the address of the peer keeps every request from its application. -/
theorem forged_prefix_keeps_server_iff (settings : Settings) (peer : Endpoint)
    (text forged other : LatinText) (standard : settings.standardHeaderOnly = true)
    (known : settings.rules.isProxy peer.host = true)
    (exposed : ∃ entry ∈ readChain settings [text.text],
      settings.rules.isProxy entry = false) :
    (∀ (lookup : Lookup) (world : World) (request : Request) (kind : String),
        request.kind = some kind → isHandledKind kind = true →
        IsProxied settings request peer →
        shownServer (prepare settings lookup
            (withStandard request (beforeComma forged text)) world) =
          shownServer (prepare settings lookup
            (withStandard request (beforeComma other text)) world)) ↔
      (settings.rules.isInternal peer.host = true ∨ IsLatin peer.host →
        claimsWithPrefix settings forged.text text.text =
          claimsWithPrefix settings other.text text.text) := by
  rw [← headerClaims_beforeComma, ← headerClaims_beforeComma]
  have resolved := isResolved_beforeComma exposed forged peer.host
  have resolvedOther := isResolved_beforeComma exposed other peer.host
  constructor
  · intro same showable
    -- Claims can be read off the requests of `probe`, whose schemes tell all ports apart.
    have sound := isSound_headerClaims settings (beforeComma forged text)
    have soundOther := isSound_headerClaims settings (beforeComma other text)
    refine eq_of_serverUnder_probe peer sound soundOther fun scheme => ?_
    have proxied : IsProxied settings (probe peer scheme) peer := ⟨rfl, known⟩
    have shown := same (fun _ => .error .unknownHost) {} (probe peer scheme) "http" rfl rfl proxied
    rw [shownServer_of_isShown standard proxied resolved (isShown_probe sound showable scheme),
      shownServer_of_isShown standard proxied resolvedOther
        (isShown_probe soundOther showable scheme)] at shown
    exact Option.some.inj shown
  · intro agree lookup world request kind _ _ proxied
    -- The same claims show the same, and keep the same requests from the application.
    by_cases shown : IsShown settings peer.host
        (headerClaims settings (beforeComma forged text)) request
    · have same := agree shown.peer
      rw [shownServer_of_isShown standard proxied resolved shown,
        shownServer_of_isShown standard proxied resolvedOther (same ▸ shown), same]
    · have hidden : ¬ IsShown settings peer.host
          (headerClaims settings (beforeComma other text)) request := by
        intro shownOther
        have same := agree shownOther.peer
        exact shown (same.symm ▸ shownOther)
      rw [shownServer_of_not_isShown standard proxied resolved shown,
        shownServer_of_not_isShown standard proxied resolvedOther hidden]

theorem forged_prefix_without_claims_keeps_server :
    shownServer (prepare standardSettings nowhere (withStandard edgeRequest
        (beforeComma { text := "for=198.51.100.1" } { text := "for=203.0.113.7" })) {}) =
      shownServer (prepare standardSettings nowhere (withStandard edgeRequest
        (beforeComma { text := "\"proto=ftp" } { text := "for=203.0.113.7" })) {}) :=
  (forged_prefix_keeps_server_iff standardSettings edgePeer { text := "for=203.0.113.7" }
    { text := "for=198.51.100.1" } { text := "\"proto=ftp" } rfl (by decide +kernel)
    (by decide +kernel)).mpr (fun _ => by decide +kernel) nowhere {} edgeRequest "http" rfl rfl
    ⟨rfl, by decide +kernel⟩

/-- A prefix that names a host and a protocol is believed. -/
theorem forged_prefix_moves_server :
    standardSettings.standardHeaderOnly = true ∧
      IsProxied standardSettings edgeRequest edgePeer ∧
      (∃ entry ∈ readChain standardSettings ["for=203.0.113.7"],
        standardSettings.rules.isProxy entry = false) ∧
      shownServer (prepare standardSettings nowhere (withStandard edgeRequest
          (beforeComma { text := "for=198.51.100.1" } { text := "for=203.0.113.7" })) {}) =
        some (some "http", some "edge.example", some 80) ∧
      shownServer (prepare standardSettings nowhere (withStandard edgeRequest
          (beforeComma { text := "for=198.51.100.1;host=forged.example;proto=https" }
            { text := "for=203.0.113.7" })) {}) =
        some (some "https", some "forged.example", some 443) := by
  refine ⟨rfl, ⟨rfl, ?_⟩, ?_, ?_, ?_⟩ <;> decide +kernel

end ForwardedClient.Middleware
