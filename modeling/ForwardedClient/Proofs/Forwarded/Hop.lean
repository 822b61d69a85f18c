import ForwardedClient.Proofs.Chain.CommaList
import ForwardedClient.Proofs.Forwarded.Respelling

/-!
Contract: one list of hops, written in either dialect.

Owns: hops with a node and perhaps a protocol, how they are spelled with a host claim in a standard
header, and what is read from a chain of their nodes and from such a header.

Does not own: the headers of a request.
-/

namespace ForwardedClient.Forwarded

open ForwardedClient.Address
open ForwardedClient.Text

/-! ### Nodes -/

/-- A text that is a node in both dialects as it stands. -/
structure IsPlainNode (text : String) : Prop where
  clean : IsClean text
  noBlank : ∀ char ∈ text.toList, isBlank char = false
  unopened : text.toList.head? ≠ some '['
  given : isWithheld text = false

/-- Who a hop was received from: a plain text, or an IPv6 address without a zone, with or without
a port. -/
inductive Node where
  | plain (text : String) (spelled : IsPlainNode text)
  | ipv6 (address : List Char) (port : Option (List Char)) (spelled : IsPlainIpv6 address)
      (checked : ∀ text, port = some text → isPortText text = true)

namespace Node

/-- A node as it stands in a chain. -/
def address : Node → String
  | plain text _ => text
  | ipv6 address port _ _ => String.ofList (address ++ portTail port)

/-- A node as it stands in a standard header, but for quotes. -/
def enclosed : Node → String
  | plain text _ => text
  | ipv6 address port _ _ => String.ofList ('[' :: (address ++ ']' :: portTail port))

theorem isClean_enclosed (node : Node) : IsClean node.enclosed := by
  cases node with
  | plain text spelled => exact spelled.clean
  | ipv6 address port spelled checked =>
      refine ⟨fun empty => ?_, fun char member => ?_⟩
      · have letters := congrArg String.toList empty
        rw [enclosed, String.toList_ofList] at letters
        exact absurd letters (List.cons_ne_nil _ _)
      rw [enclosed, String.toList_ofList, List.mem_cons, List.mem_append, List.mem_cons] at member
      have inside : char = ':' ∨ isTokenChar char = true → isPlain char = true := by
        rintro (colon | token)
        · exact colon ▸ by decide
        · exact isPlain_of_isTokenChar token
      rcases member with opening | inAddress | closing | inPort
      · exact opening ▸ by decide
      · exact inside (isTokenChar_of_isPlainIpv6 spelled inAddress)
      · exact closing ▸ by decide
      · exact inside (mem_portTail checked inPort)

/-- The brackets of a node are gone once it is read. -/
theorem recorded_enclosed (node : Node) : recorded "for" node.enclosed = node.address := by
  cases node with
  | plain text spelled => exact recorded_of_kept fun opened => spelled.unopened opened.2
  | ipv6 address port spelled checked =>
      have written : (enclosed (.ipv6 address port spelled checked)).toList =
          '[' :: (address ++ ']' :: portTail port) := String.toList_ofList
      rw [recorded_of_opened (by rw [written, List.head?_cons])]
      exact unbracket_enclosed written spelled.ipv6 spelled.enclosed checked

theorem counts_address (node : Node) : counts "for" node.address = true := by
  have given : isWithheld node.address = false := by
    cases node with
    | plain text spelled => exact spelled.given
    | ipv6 address port spelled checked =>
        obtain ⟨first, rest, letters, isFirst⟩ := head_of_isIpv6 spelled.ipv6
        refine isWithheld_of_digit ?_ isFirst
        rw [Node.address, String.toList_ofList, letters, List.cons_append, List.head?_cons]
  rw [counts, if_pos (by decide), given]
  rfl

theorem isEntry_of_clean {text : String} (clean : IsClean text)
    (noBlank : ∀ char ∈ text.toList, isBlank char = false) : Chain.IsEntry text where
  filled := clean.filled
  noComma := by
    rintro char member rfl
    exact absurd (clean.plain ',' member) (by decide)
  trimmed := strip_of_noBlank noBlank

/-- A node is an entry of a chain. -/
theorem isEntry_address (node : Node) : Chain.IsEntry node.address := by
  cases node with
  | plain text spelled => exact isEntry_of_clean spelled.clean spelled.noBlank
  | ipv6 address port spelled checked =>
      have isNode : IsNode (Node.address (.ipv6 address port spelled checked)) :=
        .ipv6 address port String.toList_ofList spelled checked
      refine ⟨isNode.ne_empty, fun char member => isNode.ne_of_mem member (by decide), ?_⟩
      refine strip_of_noBlank fun char member => ?_
      rcases isNode.mem_cases member with colon | token
      · exact colon ▸ by decide
      · exact isBlank_of_isTokenChar token

end Node

/-! ### Hops -/

/-- A hop of a request: who it was received from, and perhaps over which protocol. -/
structure Hop where
  node : Node
  protocol : Option String := none
  supported : ∀ text, protocol = some text → isProtocol text = true

/-- A host that a standard header can claim. -/
structure IsHostClaim (claim : String) : Prop where
  clean : IsClean claim
  given : isWithheld claim = false

/-- The chain of hops. -/
def addresses (hops : List Hop) : List String := hops.map (·.node.address)

/-- The protocols of the hops that have one. -/
def protocols (hops : List Hop) : List String := hops.filterMap (·.protocol)

theorem read_addresses (hops : List Hop) :
    Chain.read [Chain.write (addresses hops)] = addresses hops := by
  refine Chain.read_write fun entry member => ?_
  obtain ⟨hop, -, same⟩ := List.mem_map.mp member
  exact same ▸ hop.node.isEntry_address

theorem isProtocol_of_mem {hops : List Hop} {protocol : String}
    (member : protocol ∈ protocols hops) : isProtocol protocol = true := by
  obtain ⟨hop, -, same⟩ := List.mem_filterMap.mp member
  exact hop.supported protocol same

theorem isClean_of_isProtocol {protocol : String} (supported : isProtocol protocol = true) :
    IsClean protocol := by
  refine ⟨fun empty => ?_, fun char => isPlain_of_isProtocol supported⟩
  rw [empty] at supported
  exact absurd supported (by decide)

theorem read_protocols (hops : List Hop) :
    Chain.read [Chain.write (protocols hops)] = protocols hops :=
  Chain.read_write fun _ member =>
    have supported := isProtocol_of_mem member
    Node.isEntry_of_clean (isClean_of_isProtocol supported) fun _ =>
      isBlank_of_isProtocol supported

/-! ### The standard header -/

/-- Elements of name and value pairs as a standard header; `quote` says how values are shown. -/
def writeElements (quote : String → String) (elements : List (List (String × String))) : String :=
  String.intercalate ", " (elements.map fun element =>
    String.intercalate ";" (element.map fun pair => pair.1 ++ "=" ++ quote pair.2))

namespace Hop

/-- The pairs of a hop, with the claim of a host if it makes one. -/
def pairs (host : Option String) (hop : Hop) : List (String × String) :=
  ("for", hop.node.enclosed) ::
    (host.toList.map (Prod.mk "host") ++ hop.protocol.toList.map (Prod.mk "proto"))

end Hop

/-- The elements of a standard header; its first hop claims the host. -/
def elements (host : Option String) : List Hop → List (List (String × String))
  | [] => []
  | first :: rest => first.pairs host :: rest.map (Hop.pairs none)

/-- The pairs of written elements are scanned from their header. -/
theorem pairs_writeElements {quote : String → String}
    (quotes : ∀ value, IsShownAs value (quote value)) {elements : List (List (String × String))}
    (filled : ∀ element ∈ elements, element ≠ [])
    (clean : ∀ element ∈ elements, ∀ pair ∈ element, isKnown pair.1 = true ∧ IsClean pair.2) :
    pairs (writeElements quote elements) = elements.flatten := by
  have comma : IsJoint ", " := ⟨',', [' '], rfl, by decide, by simp⟩
  have semicolon : IsJoint ";" := ⟨';', [], rfl, by decide, by simp⟩
  by_cases empty : elements = []
  · rw [empty]
    rfl
  · have each : ∀ element ∈ elements,
        Yields (String.intercalate ";" (element.map fun pair => pair.1 ++ "=" ++ quote pair.2))
          element := by
      intro element member
      have joined := yields_intercalate semicolon
        (fun pair : String × String => pair.1 ++ "=" ++ quote pair.2) (fun pair => [pair])
        (fun pair inside => by
          obtain ⟨known, value⟩ := clean element member pair inside
          have named := isClean_of_isKnown known
          exact yields_pair named.filled value.filled named.plain value.plain (quotes pair.2))
        (filled element member)
      rwa [List.flatMap_singleton'] at joined
    have joined := yields_intercalate comma _ id each empty
    rw [List.flatMap_id] at joined
    exact joined.alone

namespace DirectiveMap

/-- A pair that counts contributes what it is recorded as, to its own directive. -/
theorem contribution_of_counts {directive word : String} (known : isKnown directive = true)
    (filled : word ≠ "") (fits : counts directive (recorded directive word) = true)
    (name : String) :
    contribution name (directive, word) =
      if directive = name then some (recorded directive word) else none := by
  have made : (normalize directive word).1 = some (directive, recorded directive word) :=
    (normalize_of_isKnown known filled).trans (if_pos fits)
  by_cases here : directive = name
  · subst here
    simp [contribution, made, Option.filter]
  · simp [contribution, made, Option.filter, here]

/-- What is given for a directive that keeps its values, or is not given, contributes itself. -/
theorem filterMap_contribution_given {directive : String} {given : Option String}
    (known : isKnown directive = true) (keeps : directive ≠ "for")
    (fits : ∀ word, given = some word → word ≠ "" ∧ counts directive word = true) (name : String) :
    (given.toList.map (Prod.mk directive)).filterMap (contribution name) =
      if directive = name then given.toList else [] := by
  cases given with
  | none => split <;> rfl
  | some word =>
      obtain ⟨filled, counted⟩ := fits word rfl
      have kept : recorded directive word = word := recorded_of_kept fun opened => keeps opened.1
      have made := contribution_of_counts known filled (kept.symm ▸ counted) name
      rw [kept] at made
      simp only [Option.toList_some, List.map_singleton, List.filterMap_cons, made]
      by_cases here : directive = name <;> simp [here]

/-- What a hop contributes to each directive. -/
theorem filterMap_contribution_pairs {host : Option String}
    (claimed : ∀ claim, host = some claim → IsHostClaim claim) (hop : Hop) (name : String) :
    (hop.pairs host).filterMap (contribution name) =
      (if "for" = name then [hop.node.address] else []) ++
        ((if "host" = name then host.toList else []) ++
          if "proto" = name then hop.protocol.toList else []) := by
  have ofNode : contribution name ("for", hop.node.enclosed) =
      if "for" = name then some hop.node.address else none := by
    have made := contribution_of_counts (by decide) hop.node.isClean_enclosed.filled
      (hop.node.recorded_enclosed.symm ▸ hop.node.counts_address) name
    rwa [hop.node.recorded_enclosed] at made
  have ofHost := filterMap_contribution_given (by decide : isKnown "host" = true) (by decide)
    (fun claim given => ⟨(claimed claim given).clean.filled, by
      rw [counts, if_pos (by decide), (claimed claim given).given]
      rfl⟩) name
  have ofProtocol := filterMap_contribution_given (by decide : isKnown "proto" = true) (by decide)
    (fun protocol spoken => ⟨(isClean_of_isProtocol (hop.supported protocol spoken)).filled,
      (if_neg (by decide)).trans (hop.supported protocol spoken)⟩) name
  rw [Hop.pairs, List.filterMap_cons, ofNode, List.filterMap_append, ofHost, ofProtocol]
  by_cases here : "for" = name <;> simp [here]

variable {quote : String → String} {host : Option String} {hops : List Hop}

/-- The values of a directive in the header of some hops, hop by hop. -/
theorem values_read_elements (quotes : ∀ value, IsShownAs value (quote value))
    (claimed : ∀ claim, host = some claim → IsHostClaim claim) (name : String) :
    (read [writeElements quote (elements host hops)]).1.values name =
      (elements host hops).flatMap (·.filterMap (contribution name)) := by
  have ofHop : ∀ (claim : Option String), (∀ text, claim = some text → IsHostClaim text) →
      ∀ hop : Hop, hop.pairs claim ≠ [] ∧
        ∀ pair ∈ hop.pairs claim, isKnown pair.1 = true ∧ IsClean pair.2 := by
    intro claim isClaim hop
    refine ⟨List.cons_ne_nil _ _, fun pair member => ?_⟩
    simp only [Hop.pairs, List.mem_cons, List.mem_append, List.mem_map, Option.mem_toList] at member
    rcases member with same | ⟨text, given, same⟩ | ⟨protocol, spoken, same⟩
    · exact same ▸ ⟨(by decide : isKnown "for" = true), hop.node.isClean_enclosed⟩
    · exact same ▸ ⟨(by decide : isKnown "host" = true), (isClaim text given).clean⟩
    · exact same ▸ ⟨(by decide : isKnown "proto" = true),
        isClean_of_isProtocol (hop.supported protocol spoken)⟩
  have each : ∀ element ∈ elements host hops, element ≠ [] ∧
      ∀ pair ∈ element, isKnown pair.1 = true ∧ IsClean pair.2 := by
    intro element member
    cases hops with
    | nil => exact absurd member List.not_mem_nil
    | cons first rest =>
        rcases List.mem_cons.mp member with same | later
        · exact same ▸ ofHop host claimed first
        · obtain ⟨hop, -, same⟩ := List.mem_map.mp later
          exact same ▸ ofHop none (by simp) hop
  rw [values_read, List.flatMap_singleton, pairs_writeElements quotes
    (fun element member => (each element member).1) (fun element member => (each element member).2),
    List.filterMap_flatten, List.flatMap_def]

/-- What is read from the header of some hops: their nodes and protocols, and the claim of the
first. -/
theorem values_read_hops (quotes : ∀ value, IsShownAs value (quote value))
    (claimed : ∀ claim, host = some claim → IsHostClaim claim) (filled : hops ≠ []) :
    let map := (read [writeElements quote (elements host hops)]).1
    map.values "for" = addresses hops ∧ map.values "proto" = protocols hops ∧
      map.values "host" = host.toList := by
  intro map
  have drawn := @values_read_elements quote host hops quotes claimed
  obtain ⟨first, rest, same⟩ := List.exists_cons_of_ne_nil filled
  subst same
  have spread : ∀ name, map.values name =
      (first.pairs host).filterMap (contribution name) ++
        rest.flatMap fun hop => (hop.pairs none).filterMap (contribution name) := by
    intro name
    rw [drawn, elements, List.flatMap_cons, List.flatMap_map]
  have unclaimed := @filterMap_contribution_pairs none fun _ none => nomatch none
  simp only [filterMap_contribution_pairs claimed, unclaimed] at spread
  refine ⟨?addresses, ?protocols, ?hosts⟩
  case addresses =>
    rw [spread, addresses, List.map_cons, List.map_eq_flatMap]
    rfl
  case protocols =>
    rw [spread, protocols, List.filterMap_eq_flatMap_toList, List.flatMap_cons]
    rfl
  case hosts =>
    rw [spread]
    simp

end DirectiveMap

end ForwardedClient.Forwarded
