import ForwardedClient.Proofs.Forwarded.Respelling

/-!
Contract: which maps come of reading headers.

Owns: the order in which the directives of a map stand, the conditions that every map meets which
was read, and the law that these are all: each map that meets them is read from some headers.

Does not own: the header that a map is written into, which may be read as another map.
-/

namespace ForwardedClient.Forwarded

open ForwardedClient.Address
open ForwardedClient.Journal
open ForwardedClient.Text

/-! ### Order -/

/-- The directive and the value that a raw pair contributes, if it is accepted. -/
def contributed (pair : String × String) : Option (String × String) :=
  (normalize pair.1 pair.2).1

/-- What the raw pairs of header values contribute, in order. -/
def contributions (values : List String) : List (String × String) :=
  (values.flatMap pairs).filterMap contributed

theorem eraseDups_concat (earlier : List String) (name : String) :
    (earlier ++ [name]).eraseDups =
      if name ∈ earlier.eraseDups then earlier.eraseDups else earlier.eraseDups ++ [name] := by
  simp only [List.eraseDups_append, List.mem_eraseDups]
  by_cases known : name ∈ earlier
  · simp [List.removeAll, known]
  · simp [List.removeAll, known, List.eraseDups_cons]

namespace DirectiveMap

/-- Pairs leave the names in order of their first appearance, if they were in this order before. -/
theorem names_foldl_addPair {state : DirectiveMap × List Report} {earlier : List String}
    (ordered : state.1.entries.map (·.1) = earlier.eraseDups) (raw : List (String × String)) :
    (raw.foldl addPair state).1.entries.map (·.1) =
      (earlier ++ (raw.filterMap contributed).map (·.1)).eraseDups := by
  induction raw generalizing state earlier with
  | nil => simpa using ordered
  | cons pair rest inductionHypothesis =>
      obtain ⟨key, word⟩ := pair
      rw [List.foldl_cons]
      cases outcome : contributed (key, word) with
      | none =>
          rw [List.filterMap_cons_none outcome]
          exact inductionHypothesis (addPair_of_dropped outcome state ▸ ordered)
      | some entry =>
          have longer : (addPair state (key, word)).1.entries.map (·.1) =
              (earlier ++ [entry.1]).eraseDups := by
            rw [addPair_of_normalize outcome, add, names_modifyEntry, eraseDups_concat, ordered]
          rw [List.filterMap_cons_some outcome, inductionHypothesis longer, List.map_cons,
            List.append_assoc, List.singleton_append]

/-- The directives of a map that was read stand in the order in which they were first accepted. -/
theorem names_read (values : List String) :
    (read values).1.entries.map (·.1) = ((contributions values).map (·.1)).eraseDups :=
  @names_foldl_addPair ({}, []) [] rfl (values.flatMap pairs)

end DirectiveMap

/-! ### Values -/

/-- What a value of a directive can be: a text without separators, equals signs, quotes and spaces;
an address that is not withheld, or a protocol; and no address in brackets if it is one that the
chain of clients is made of. -/
structure IsTidy (name value : String) : Prop where
  filled : value ≠ ""
  plain : ∀ mark ∈ [',', ';', '=', ' ', '"'], mark ∉ value.toList
  given : name ∈ ["for", "by", "host"] →
    value.toList.head? ≠ some '_' ∧ lower value ≠ "unknown"
  supported : name = "proto" → lower value = "http" ∨ lower value = "https"
  unbracketed : name = "for" → value.toList.head? = some '[' →
    ∀ literal, HostLiteral.read value ≠ .ok literal

section Tidy

variable {name value : String}

theorem isClean_iff : IsClean value ↔
    value ≠ "" ∧ ∀ mark ∈ [',', ';', '=', ' ', '"'], mark ∉ value.toList := by
  have foreign : ∀ char, isPlain char = true ↔ char ∉ [',', ';', '=', ' ', '"'] := by
    intro char
    simp only [isPlain, isBreak, Bool.not_eq_true', Bool.or_eq_false_iff, beq_eq_false_iff_ne,
      List.mem_cons, List.not_mem_nil, or_false, not_or, and_assoc, ne_eq]
  constructor
  · rintro ⟨filled, plain⟩
    exact ⟨filled, fun mark isMark member => (foreign mark).mp (plain mark member) isMark⟩
  · rintro ⟨filled, absent⟩
    exact ⟨filled, fun char member => (foreign char).mpr fun isMark => absent char isMark member⟩

/-- A value is recorded as itself unless it is an address in brackets of the chain of clients. -/
theorem recorded_eq_self_iff :
    recorded name value = value ↔
      (name = "for" → value.toList.head? = some '[' →
        ∀ literal, HostLiteral.read value ≠ .ok literal) := by
  by_cases bracketed : name = "for" ∧ value.toList.head? = some '['
  · obtain ⟨isFor, opened⟩ := bracketed
    subst isFor
    rw [recorded_of_opened opened]
    simp only [opened, forall_const]
    cases parsed : HostLiteral.read value with
    | error failure => simp [unbracket_of_refused parsed]
    | ok host =>
        obtain ⟨address, port, spelled, shown, -⟩ := enclosed_of_read opened parsed
        have shorter : (unbracket value).1 ≠ value := by
          intro same
          rw [same, spelled] at shown
          have lengths := congrArg List.length shown
          simp only [List.length_cons, List.length_append] at lengths
          omega
        simp [shorter]
  · rw [recorded_of_kept bracketed]
    simp only [true_iff]
    exact fun isFor opened => absurd ⟨isFor, opened⟩ bracketed

theorem IsAccepted.counts (accepted : IsAccepted name value) : counts name value = true := by
  unfold Forwarded.counts
  split
  · rename_i addressed
    rw [accepted.given addressed]
    rfl
  · rename_i unaddressed
    exact accepted.supported (Bool.eq_false_iff.mpr unaddressed)

/-- Tidy values of known directives are those that are accepted and recorded as themselves. -/
theorem isTidy_iff (known : isKnown name = true) :
    IsTidy name value ↔ IsAccepted name value ∧ recorded name value = value := by
  have addressed : name ∈ ["for", "by", "host"] ↔ hasAddress name = true := by
    simp [hasAddress, or_assoc]
  have protocol : name = "proto" ↔ hasAddress name = false := by
    rcases cases_of_isKnown known with same | same | same | same <;> subst same <;> decide
  have withheld : isWithheld value = false ↔
      value.toList.head? ≠ some '_' ∧ lower value ≠ "unknown" := by
    simp [isWithheld]
  have isOne : isProtocol value = true ↔ lower value = "http" ∨ lower value = "https" := by
    simp [isProtocol]
  rw [recorded_eq_self_iff]
  constructor
  · rintro ⟨filled, plain, given, supported, unbracketed⟩
    exact ⟨⟨known, isClean_iff.mpr ⟨filled, plain⟩,
      fun isAddress => withheld.mpr (given (addressed.mpr isAddress)),
      fun other => isOne.mpr (supported (protocol.mpr other))⟩, unbracketed⟩
  · rintro ⟨⟨-, clean, given, supported⟩, unbracketed⟩
    obtain ⟨filled, plain⟩ := isClean_iff.mp clean
    exact ⟨filled, plain, fun isAddress => withheld.mp (given (addressed.mp isAddress)),
      fun isProto => isOne.mp (supported (protocol.mp isProto)), unbracketed⟩

end Tidy

/-! ### Maps -/

namespace DirectiveMap

/-- A map as it comes of reading: known directives, none of them twice and none without values,
and tidy values. -/
structure IsCollected (map : DirectiveMap) : Prop where
  known : ∀ entry ∈ map.entries, entry.1 ∈ ["for", "by", "host", "proto"]
  distinct : (map.entries.map (·.1)).Nodup
  filled : ∀ entry ∈ map.entries, entry.2 ≠ []
  tidy : ∀ entry ∈ map.entries, ∀ value ∈ entry.2, IsTidy entry.1 value

theorem isKnown_iff {name : String} :
    isKnown name = true ↔ name ∈ ["for", "by", "host", "proto"] := by
  simp [isKnown, or_assoc]

variable {map : DirectiveMap}

theorem isCollected_iff : map.IsCollected ↔ map.IsWellFormed ∧ map.IsSettled := by
  constructor
  · rintro ⟨known, distinct, filled, tidy⟩
    have accepted : ∀ entry ∈ map.entries, ∀ value ∈ entry.2,
        IsAccepted entry.1 value ∧ recorded entry.1 value = value :=
      fun entry member value inside =>
        (isTidy_iff (isKnown_iff.mpr (known entry member))).mp (tidy entry member value inside)
    exact ⟨⟨distinct, filled, fun entry member value inside =>
      (accepted entry member value inside).1⟩,
      fun entry member value inside => (accepted entry member value inside).2⟩
  · rintro ⟨wellFormed, settled⟩
    exact ⟨fun entry member => isKnown_iff.mp (wellFormed.named entry member),
      wellFormed.distinct, wellFormed.filled, fun entry member value inside =>
        (isTidy_iff (wellFormed.named entry member)).mpr
          ⟨wellFormed.accepted entry member value inside, settled entry member value inside⟩⟩

/-- The values of a map one by one, each with its name. -/
def singles (map : DirectiveMap) : List (String × String) :=
  map.entries.flatMap fun entry => entry.2.map fun value => (entry.1, value)

/-- A header for each value of a map. -/
def writeSingles (map : DirectiveMap) : List String :=
  map.singles.map fun single => single.1 ++ "=" ++ single.2

theorem pairs_writeSingles (wellFormed : map.IsWellFormed) :
    map.writeSingles.flatMap pairs = map.singles := by
  have own : ∀ single ∈ map.singles, pairs (single.1 ++ "=" ++ single.2) = [single] := by
    intro single member
    obtain ⟨entry, place, inside⟩ := List.mem_flatMap.mp member
    obtain ⟨value, isValue, same⟩ := List.mem_map.mp inside
    subst same
    have named := isClean_of_isKnown (wellFormed.named entry place)
    have clean := (wellFormed.accepted entry place value isValue).clean
    exact (yields_pair named.filled clean.filled named.plain clean.plain (Or.inl rfl)).alone
  rw [writeSingles, List.flatMap_map, List.flatMap_def, List.map_congr_left own,
    ← List.flatMap_def, List.flatMap_singleton']

/-- Every map that meets the conditions is read, from a header for each of its values. -/
theorem read_writeSingles (collected : map.IsCollected) : (read map.writeSingles).1 = map := by
  obtain ⟨wellFormed, settled⟩ := isCollected_iff.mp collected
  have made : ∀ entry ∈ map.entries, ∀ value ∈ entry.2,
      (normalize entry.1 value).1 = some (entry.1, value) := by
    intro entry member value inside
    have accepted := wellFormed.accepted entry member value inside
    rw [normalize_of_isKnown accepted.known accepted.clean.filled,
      settled entry member value inside, if_pos accepted.counts]
  have entries := @foldl_addPair_entries [] map.entries (fun _ value => value)
    (fun _ value => value) wellFormed.distinct wellFormed.filled made ({}, []) rfl
  rw [read, pairs_writeSingles wellFormed, singles, entries]
  simp

/-- Reading collects the directives of all headers: those that are known, in the order in which
they were first accepted, each with some values, all of them tidy. Nothing more can be said of the
map, because every map like this is read from some headers. -/
theorem directives_are_collected :
    (∀ values, (read values).1.IsCollected ∧
        (read values).1.entries.map (·.1) = ((contributions values).map (·.1)).eraseDups) ∧
      ∀ map : DirectiveMap, map.IsCollected → ∃ values, (read values).1 = map :=
  ⟨fun values =>
    ⟨isCollected_iff.mpr ⟨isWellFormed_read values, isSettled_read values⟩, names_read values⟩,
    fun map collected => ⟨map.writeSingles, read_writeSingles collected⟩⟩

/-- Two headers with an address that keeps its brackets, because it is none, and with directives
that are withheld or not supported. -/
def mixedHeaders : List String :=
  ["for=\"[2001:db8::1]:_edge\";Proto=HTTPS, by=_hidden",
    "host=unKnown;for=\"[edge\";by=192.0.2.1,proto=ftp"]

def mixedDirectives : DirectiveMap :=
  ⟨[("for", ["2001:db8::1:_edge", "[edge"]), ("proto", ["HTTPS"]), ("by", ["192.0.2.1"])]⟩

theorem read_mixedHeaders : (read mixedHeaders).1 = mixedDirectives := by decide +kernel

theorem mixedHeaders_are_collected :
    mixedDirectives.entries.map (·.1) = ((contributions mixedHeaders).map (·.1)).eraseDups ∧
      IsTidy "for" "[edge" ∧ ∃ values, (read values).1 = mixedDirectives := by
  obtain ⟨collects, exhausts⟩ := directives_are_collected
  obtain ⟨collected, ordered⟩ := collects mixedHeaders
  rw [read_mixedHeaders] at collected ordered
  exact ⟨ordered, collected.tidy _ List.mem_cons_self "[edge" (by simp),
    exhausts mixedDirectives collected⟩

end DirectiveMap

end ForwardedClient.Forwarded
