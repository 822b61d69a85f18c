import ForwardedClient.Proofs.Chain.CommaList
import ForwardedClient.Proofs.Forwarded.Latin
import ForwardedClient.Proofs.Forwarded.WellFormed
import ForwardedClient.Proofs.Middleware.Resolution
import ForwardedClient.Proofs.Request.Header
import ForwardedClient.Proofs.Trust.Walk

/-!
Contract: what a walk makes of the headers that its chain came in.

Owns: where the entries of a walk come from, the updates of either dialect for each outcome of a
walk, and the map that the standard header is written from.

Does not own: how updates are put on a request, and what is read back from them.
-/

namespace ForwardedClient.Middleware

open ForwardedClient.Forwarded
open ForwardedClient.Request
open ForwardedClient.Text
open ForwardedClient.Trust

theorem latin_standardName : "forwarded".toList.all isLatin = true := by decide

/-- The name of the standard header as it stands on the wire. -/
def standardName : LatinText := ⟨"forwarded", latin_standardName⟩

theorem headerName_standard : headerName Settings.standardHeader = .ok standardName := by
  decide +kernel

theorem standardName_ne_host : standardName ≠ hostHeader := by decide

/-! ### The entries of a walk -/

section Entries

variable {settings : Settings} {values : List String} {peer : String}

theorem mem_readChain_of_mem_proxies {address : String}
    (member : address ∈ (chainWalk settings values peer).proxies) :
    address ∈ readChain settings values ∨
      settings.rules.isInternal peer = false ∧ address = peer := by
  rw [chainWalk, walk_eq] at member
  rcases List.mem_append.mp member with crossed | own
  · exact Or.inl ((List.rtakeWhile_suffix _ _).mem (List.mem_filter.mp crossed).1)
  · split at own
    · simp at own
    · rename_i outside
      exact Or.inr ⟨by simpa using outside, List.mem_singleton.mp own⟩

theorem mem_readChain_of_mem_remaining {address : String}
    (member : address ∈ (chainWalk settings values peer).remaining) :
    address ∈ readChain settings values := by
  rw [chainWalk, walk_eq] at member
  exact (List.rdropWhile_prefix _ _).mem (List.dropLast_subset _ member)

theorem mem_proxies_of_outside (outside : settings.rules.isInternal peer = false) :
    peer ∈ (chainWalk settings values peer).proxies := by
  rw [chainWalk, walk_eq, if_neg (by simp [outside])]
  exact List.mem_append_right _ List.mem_cons_self

theorem proxies_ne_nil {rules : Rules} {chain : List String} {peer : String}
    (crossed : 0 < (Trust.walk rules chain peer).chainProxies) :
    (Trust.walk rules chain peer).proxies ≠ [] := by
  rw [walk_eq] at crossed ⊢
  exact List.append_ne_nil_of_left_ne_nil (List.length_pos_iff.mp crossed) _

theorem isLatin_of_mem_readChain (latin : ∀ value ∈ values, IsLatin value) :
    ∀ address ∈ readChain settings values, IsLatin address := by
  intro address member
  unfold readChain at member
  split at member
  · exact DirectiveMap.isLatin_of_mem_values (DirectiveMap.isWire_read latin) member
  · exact Chain.isLatin_of_mem_read latin member

/-- The proxies of a walk along a chain of bytes are bytes, unless the peer is one and is not. -/
theorem isLatin_of_mem_proxies (latin : ∀ value ∈ values, IsLatin value)
    (showable : settings.rules.isInternal peer = true ∨ IsLatin peer) {address : String}
    (member : address ∈ (chainWalk settings values peer).proxies) : IsLatin address := by
  rcases mem_readChain_of_mem_proxies member with crossed | ⟨outside, same⟩
  · exact isLatin_of_mem_readChain latin address crossed
  · rw [outside] at showable
    rw [same]
    exact showable.resolve_left Bool.false_ne_true

theorem isLatin_of_mem_remaining (latin : ∀ value ∈ values, IsLatin value) {address : String}
    (member : address ∈ (chainWalk settings values peer).remaining) : IsLatin address :=
  isLatin_of_mem_readChain latin address (mem_readChain_of_mem_remaining member)

end Entries

/-! ### Separate headers -/

section Separate

variable {settings : Settings} {walk : Walk}

/-- Setting one update keeps the others. -/
theorem mem_setUpdate {updates : List (String × Option String)} {name : String}
    {value : Option String} {update : String × Option String}
    (member : update ∈ setUpdate updates name value) :
    update ∈ updates ∨ update = (name, value) := by
  unfold setUpdate at member
  split at member
  · obtain ⟨old, isOld, same⟩ := List.mem_map.mp member
    split at same
    · exact Or.inr same.symm
    · exact Or.inl (same ▸ isOld)
  · rcases List.mem_append.mp member with old | new
    · exact Or.inl old
    · exact Or.inr (List.mem_singleton.mp new)

/-- There are no updates but those of the two chain headers. -/
theorem mem_chainUpdates {update : String × Option String}
    (member : update ∈ chainUpdates settings walk) :
    update.1 = settings.proxiesHeader ∨ update.1 = settings.clientHeader := by
  unfold chainUpdates at member
  split at member
  · rcases mem_setUpdate member with crossed | unreached
    · exact Or.inl (List.mem_singleton.mp crossed ▸ rfl)
    · exact Or.inr (unreached ▸ rfl)
  · split at member
    · exact absurd member List.not_mem_nil
    · exact Or.inl (List.mem_singleton.mp member ▸ rfl)

/-- If the client is found both headers are set, the proxies first. -/
theorem chainUpdates_of_resolved (distinct : lower settings.clientHeader ≠
      lower settings.proxiesHeader) (resolved : walk.isResolved = true) :
    chainUpdates settings walk =
      [(settings.proxiesHeader, unlessEmpty (Chain.write walk.proxies)),
        (settings.clientHeader, unlessEmpty (Chain.write walk.remaining))] := by
  have differ : settings.proxiesHeader ≠ settings.clientHeader :=
    fun same => distinct (congrArg lower same.symm)
  rw [chainUpdates, if_pos resolved]
  simp [setUpdate, differ]

/-- If all of a chain is trusted only the proxies are recorded. -/
theorem chainUpdates_of_crossed (unresolved : walk.isResolved = false)
    (crossed : 0 < walk.chainProxies) :
    chainUpdates settings walk = [(settings.proxiesHeader, some (Chain.write walk.proxies))] := by
  have some_crossed : ¬ (walk.chainProxies == 0) = true := by
    rw [beq_iff_eq]
    omega
  rw [chainUpdates, if_neg (by simp [unresolved]), if_neg some_crossed]

theorem chainUpdates_of_internal (unresolved : walk.isResolved = false)
    (internal : walk.chainProxies = 0) : chainUpdates settings walk = [] := by
  rw [chainUpdates, if_neg (by simp [unresolved]), if_pos (by simp [internal])]

end Separate

/-! ### The standard header -/

section Standard

variable {map : DirectiveMap} {walk : Walk}

/-- What is left of the `for` values after a walk: the entries that were not reached if the client
is found, else all. -/
def leftAddresses (map : DirectiveMap) (walk : Walk) : List String :=
  if walk.isResolved then walk.remaining else map.values "for"

/-- The map of the header after a walk. -/
def shorten (map : DirectiveMap) (walk : Walk) : DirectiveMap :=
  if walk.isResolved then (map.replace "by" walk.proxies).replace "for" walk.remaining
  else map.replace "by" walk.proxies

theorem values_shorten_for : (shorten map walk).values "for" = leftAddresses map walk := by
  unfold shorten leftAddresses
  split
  · rw [DirectiveMap.values_replace, if_pos rfl]
  · rw [DirectiveMap.values_replace, if_neg (by decide)]

theorem values_shorten_by : (shorten map walk).values "by" = walk.proxies := by
  unfold shorten
  split
  · rw [DirectiveMap.values_replace, if_neg (by decide), DirectiveMap.values_replace, if_pos rfl]
  · rw [DirectiveMap.values_replace, if_pos rfl]

/-- A walk leaves the claims alone. -/
theorem values_shorten_of_ne {name : String} (notFor : "for" ≠ name) (notBy : "by" ≠ name) :
    (shorten map walk).values name = map.values name := by
  unfold shorten
  split
  · rw [DirectiveMap.values_replace, if_neg notFor, DirectiveMap.values_replace, if_neg notBy]
  · rw [DirectiveMap.values_replace, if_neg notBy]

theorem isWellFormed_shorten (wellFormed : map.IsWellFormed)
    (proxies : ∀ address ∈ walk.proxies, IsAccepted "by" address)
    (remaining : ∀ address ∈ walk.remaining, IsAccepted "for" address) :
    (shorten map walk).IsWellFormed := by
  unfold shorten
  split
  · exact (wellFormed.replace proxies).replace remaining
  · exact wellFormed.replace proxies

theorem known_shorten (named : ∀ entry ∈ map.entries, isKnown entry.1 = true) :
    ∀ entry ∈ (shorten map walk).entries, isKnown entry.1 = true := by
  have recorded := DirectiveMap.known_replace named (by decide : isKnown "by" = true) walk.proxies
  unfold shorten
  split
  · exact DirectiveMap.known_replace recorded (by decide) walk.remaining
  · exact recorded

theorem isWire_shorten (wire : map.IsWire) (proxies : ∀ address ∈ walk.proxies, IsLatin address)
    (remaining : ∀ address ∈ walk.remaining, IsLatin address) : (shorten map walk).IsWire := by
  have recorded := DirectiveMap.isWire_replace wire (by decide : isKnown "by" = true) proxies
  unfold shorten
  split
  · exact DirectiveMap.isWire_replace recorded (by decide) remaining
  · exact recorded

theorem standardUpdates_of_crossed (crossed : walk.isResolved = true ∨ 0 < walk.chainProxies) :
    standardUpdates map walk =
      [(Settings.standardHeader, unlessEmpty (shorten map walk).write)] := by
  have changes : ¬ (!walk.isResolved && walk.chainProxies == 0) = true := by
    simp only [Bool.and_eq_true, Bool.not_eq_true', beq_iff_eq]
    rintro ⟨unresolved, internal⟩
    rcases crossed with resolved | some_crossed
    · exact Bool.false_ne_true (unresolved.symm.trans resolved)
    · omega
  rw [standardUpdates, if_neg changes]
  rfl

theorem standardUpdates_of_internal (unresolved : walk.isResolved = false)
    (internal : walk.chainProxies = 0) : standardUpdates map walk = [] := by
  rw [standardUpdates, if_pos (by simp [unresolved, internal])]

/-- There is no update but that of the standard header. -/
theorem mem_standardUpdates {update : String × Option String}
    (member : update ∈ standardUpdates map walk) :
    update = (Settings.standardHeader, unlessEmpty (shorten map walk).write) := by
  unfold standardUpdates at member
  split at member
  · exact absurd member List.not_mem_nil
  · exact List.mem_singleton.mp member

end Standard

/-! ### Both dialects -/

/-- No chain header is the host header, so no update of one is. -/
theorem unmanaged_headerUpdates {settings : Settings}
    (clientNotHost : lower settings.clientHeader ≠ "host")
    (proxiesNotHost : lower settings.proxiesHeader ≠ "host") (values : List String) (walk : Walk) :
    ∀ update ∈ headerUpdates settings values walk, headerName update.1 ≠ .ok hostHeader := by
  intro update member
  unfold headerUpdates at member
  split at member
  · rw [mem_standardUpdates member, headerName_standard]
    exact fun same => standardName_ne_host (Except.ok.inj same)
  · rcases mem_chainUpdates member with isProxies | isClient
    · exact headerName_ne (isProxies ▸ proxiesNotHost)
    · exact headerName_ne (isClient ▸ clientNotHost)

end ForwardedClient.Middleware
