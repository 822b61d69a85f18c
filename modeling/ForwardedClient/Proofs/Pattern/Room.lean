import ForwardedClient.Proofs.Pattern.Limits

/-!
Contract: what room means for the reading of patterns.

Owns: that more room never changes an outcome other than that the room is used up; that a text is
read as it is without any bound on the room, or ends so; which texts have room enough; that a text
that begins with more parentheses than there is room for has not.

Does not own: how much room there is.
-/

namespace ForwardedClient.Pattern

open ForwardedClient.Text
open Read

/-! ### More room -/

/-- A step that does as another one, unless its room is used up. -/
def Follows {α : Type} (narrow wide : Read α) : Prop :=
  ∀ state, narrow state = .error (.malformed .nestedTooDeep none) ∨ narrow state = wide state

namespace Follows

variable {α β : Type}

theorem refl (step : Read α) : Follows step step := fun _ => .inr rfl

theorem bind {narrow wide : Read β} {next later : β → Read α} (first : Follows narrow wide)
    (rest : ∀ value, Follows (next value) (later value)) :
    Follows (narrow >>= next) (wide >>= later) := by
  intro state
  rw [run_bind, run_bind]
  rcases first state with used | same
  · rw [used]
    exact .inl rfl
  · rw [same]
    cases wide state with
    | error fault => exact .inr rfl
    | ok done => exact rest done.1 done.2

/-- The same step, and after it two that follow each other. -/
theorem after {step : Read β} {next later : β → Read α}
    (rest : ∀ value, Follows (next value) (later value)) :
    Follows (step >>= next) (step >>= later) := (refl step).bind rest

theorem ite {chosen : Prop} [Decidable chosen] {first second third fourth : Read α}
    (holds : Follows first third) (fails : Follows second fourth) :
    Follows (if chosen then first else second) (if chosen then third else fourth) := by
  split
  · exact holds
  · exact fails

theorem descend {room more : Nat} {narrow wide : Nat → Read α} (less : room ≤ more)
    (below : ∀ room more, room ≤ more → Follows (narrow room) (wide more)) :
    Follows (Pattern.descend room narrow) (Pattern.descend more wide) := by
  cases room with
  | zero => exact fun _ => .inl rfl
  | succ room =>
      cases more with
      | zero => exact absurd less (Nat.not_succ_le_zero room)
      | succ more => exact below room more (Nat.le_of_succ_le_succ less)

end Follows

/-- All three readers follow themselves with more room. -/
structure ReadersFollow (fuel : Nat) : Prop where
  alternatives : ∀ {room more}, room ≤ more → ∀ flags top first,
    Follows (readAlternatives fuel room flags top first)
      (readAlternatives fuel more flags top first)
  sequence : ∀ {room more}, room ≤ more → ∀ flags first parts,
    Follows (readSequence fuel room flags first parts) (readSequence fuel more flags first parts)
  parenthesis : ∀ {room more}, room ≤ more → ∀ flags first parts opening,
    Follows (readParenthesis fuel room flags first parts opening)
      (readParenthesis fuel more flags first parts opening)

section Step

variable {fuel room more : Nat} (below : ReadersFollow fuel) (less : room ≤ more) (flags : Flags)
include below less

theorem follows_readAlternatives (top first : Bool) :
    Follows (readAlternatives (fuel + 1) room flags top first)
      (readAlternatives (fuel + 1) more flags top first) := by
  unfold readAlternatives
  have inner := Follows.descend less fun room more less =>
    below.sequence less flags (top && first) []
  refine inner.bind fun node => .after fun accepted => .ite ?_ (.refl _)
  refine .ite (.after fun state => .after fun later => ?_) (.after fun later => ?_)
  · exact (below.alternatives less _ _ _).bind fun _ => .refl _
  · exact (below.alternatives less _ _ _).bind fun _ => .refl _

theorem follows_readSequence (first : Bool) (parts : List Part) :
    Follows (readSequence (fuel + 1) room flags first parts)
      (readSequence (fuel + 1) more flags first parts) := by
  have onward (parts : List Part) : Follows (readSequence fuel room flags first parts)
      (readSequence fuel more flags first parts) := below.sequence less flags first parts
  unfold readSequence
  refine .after fun signPosition => .after fun found => .ite (.refl _) (.after fun found => ?_)
  rcases found with _ | char | char
  · exact .refl _
  · simp only
    refine .ite (onward _) (.ite (.after fun state => .after fun _ => onward _) ?_)
    split
    · exact .after fun _ => onward _
    · exact onward _
    · exact onward _
    · exact onward _
    · exact below.parenthesis less _ _ _ _
    · refine .ite (.after fun counts => ?_) (onward _)
      rcases counts with _ | ⟨least, most⟩
      · exact onward _
      · exact .after fun _ => onward _
  · exact .after fun _ => onward _

theorem follows_readParenthesis (first : Bool) (parts : List Part) (opening : Nat) :
    Follows (readParenthesis (fuel + 1) room flags first parts opening)
      (readParenthesis (fuel + 1) more flags first parts opening) := by
  have onward (flags : Flags) (parts : List Part) :
      Follows (readSequence fuel room flags first parts)
        (readSequence fuel more flags first parts) := below.sequence less flags first parts
  have body (flags : Flags) :
      Follows (descend room fun room => readAlternatives fuel room flags false false)
        (descend more fun room => readAlternatives fuel room flags false false) :=
    .descend less fun room more less => below.alternatives less flags false false
  have branch : Follows (descend room fun room => readSequence fuel room flags false [])
      (descend more fun room => readSequence fuel room flags false []) :=
    .descend less fun room more less => below.sequence less flags false []
  unfold readParenthesis
  refine .after fun form => ?_
  rcases form with name | ⟨on, off⟩ | _ | ⟨behind, negated⟩ | _ | _ | _ | _
  · exact .after fun index => (body _).bind fun _ => .after fun _ => .after fun _ => onward _ _
  · exact (body _).bind fun _ => .after fun _ => onward _ _
  · exact (body _).bind fun _ => .after fun _ => onward _ _
  · cases behind with
    | false => exact (body _).bind fun _ => .after fun _ => onward _ _
    | true =>
        refine .after fun state => .after fun _ => (body _).bind fun _ => ?_
        exact .after fun _ => .after fun _ => onward _ _
  · refine .after fun index => branch.bind fun present => .after fun accepted => .ite ?_ ?_
    · refine branch.bind fun absent => .after fun found => .ite (.after fun _ => ?_) ?_
      · exact .after fun _ => .after fun _ => onward _ _
      · exact .after fun _ => .after fun _ => onward _ _
    · exact .after fun _ => .after fun _ => onward _ _
  · exact .after fun _ => onward _ _
  · exact .after fun state => .after fun _ => onward _ _
  · refine .ite (.after fun _ => .after fun state => onward _ _) (.after fun state => onward _ _)

end Step

theorem readersFollow (fuel : Nat) : ReadersFollow fuel := by
  induction fuel with
  | zero =>
      refine ⟨fun _ flags top first => ?_, fun _ flags first parts => ?_,
        fun _ flags first parts opening => ?_⟩
      · unfold readAlternatives
        exact .refl _
      · unfold readSequence
        exact .refl _
      · unfold readParenthesis
        exact .refl _
  | succ fuel inductionHypothesis =>
      exact ⟨follows_readAlternatives inductionHypothesis,
        follows_readSequence inductionHypothesis, follows_readParenthesis inductionHypothesis⟩

theorem follows_readPattern {room more : Nat} (less : room ≤ more) :
    Follows (readPattern room) (readPattern more) := by
  refine .after fun _ => .after fun start => ?_
  have tree := Follows.descend less fun room more less =>
    (readersFollow (4 * start.left.length + 4)).alternatives less {} true true
  exact tree.bind fun node => .refl _

/-- With more room a pattern has the same tree or fault, unless less was not enough. -/
theorem parse_of_le {room more : Nat} (less : room ≤ more) (pattern : String) :
    Node.parse room pattern = .error (.malformed .nestedTooDeep none) ∨
      Node.parse room pattern = Node.parse more pattern := by
  let start : ReadState :=
    { left := (tokens pattern.toList).1, dangling := (tokens pattern.toList).2 }
  have unfolded (room : Nat) : Node.parse room pattern = (readPattern room start).map (·.1) := rfl
  rw [unfolded, unfolded]
  rcases follows_readPattern less start with used | same
  · rw [used]
    exact .inl rfl
  · rw [same]
    exact .inr rfl

theorem readWithin_eq_ok_iff {room : Nat} {pattern : String} {node : Node} :
    Node.readWithin room pattern = .ok node ↔
      Node.parse room pattern = .ok node ∧ node.depth < room := by
  rw [Node.readWithin]
  cases Node.parse room pattern with
  | error fault => exact ⟨nofun, nofun⟩
  | ok tree =>
      simp only [Except.bind]
      by_cases shallow : tree.depth < room
      · rw [if_pos shallow]
        exact ⟨fun same => ⟨same, Except.ok.inj same ▸ shallow⟩, And.left⟩
      · rw [if_neg shallow]
        refine ⟨nofun, fun ⟨same, isShallow⟩ => ?_⟩
        cases same
        exact absurd isShallow shallow

theorem readWithin_of_parse_fails {room : Nat} {pattern : String} {fault : PatternError}
    (fails : Node.parse room pattern = .error fault) :
    Node.readWithin room pattern = .error fault := by
  rw [Node.readWithin, fails]
  rfl

/-- A tree that was made fits, or is too deep to be compiled. -/
theorem readWithin_of_parse {room : Nat} {pattern : String} {node : Node}
    (parses : Node.parse room pattern = .ok node) :
    Node.readWithin room pattern = .error (.malformed .nestedTooDeep none) ∨
      Node.readWithin room pattern = .ok node := by
  by_cases shallow : node.depth < room
  · exact .inr (readWithin_eq_ok_iff.mpr ⟨parses, shallow⟩)
  · rw [Node.readWithin, parses]
    exact .inl (if_neg shallow)

/-! ### Room enough -/

/-- The faults that do not say that the room is used up. -/
def IsRoomy (fault : PatternError) : Prop := ∀ position, fault ≠ .malformed .nestedTooDeep position

instance : AllowsFaultsOfText IsRoomy where
  malformed := by
    rintro cause position ofText other same
    cases same
    cases ofText
  conflictingFlags := nofun

theorem isRoomy_of_read {pattern : String} {fault : PatternError}
    (fails : Node.read pattern = .error fault) : IsRoomy fault := by
  refine allowed_of_parse (.inl ⟨nofun, nofun⟩) (.inl ?_) fails
  have fewer := parentheses_le_count pattern.toList
  have atMost : pattern.toList.count '(' ≤ pattern.toList.length := List.count_le_length
  rw [String.length_toList] at atMost
  omega

theorem parse_eq_read_or (room : Nat) (pattern : String) :
    Node.parse room pattern = .error (.malformed .nestedTooDeep none) ∨
      Node.parse room pattern = Node.read pattern := by
  rcases Nat.le_total room (2 * pattern.length + 2) with less | more
  · exact parse_of_le less pattern
  · rcases parse_of_le more pattern with used | same
    · exact absurd rfl (isRoomy_of_read used none)
    · exact .inr same.symm

/-- A pattern is read as it is where nothing bounds the room, unless the room is used up. -/
theorem readWithin_eq_read_or (room : Nat) (pattern : String) :
    Node.readWithin room pattern = .error (.malformed .nestedTooDeep none) ∨
      Node.readWithin room pattern = Node.read pattern := by
  rcases parse_eq_read_or room pattern with used | same
  · exact .inl (readWithin_of_parse_fails used)
  · rw [← same]
    cases parsed : Node.parse room pattern with
    | error fault => exact .inr (readWithin_of_parse_fails parsed)
    | ok node => exact readWithin_of_parse parsed

theorem read_of_readWithin {room : Nat} {pattern : String} {node : Node}
    (reads : Node.readWithin room pattern = .ok node) : Node.read pattern = .ok node := by
  rcases readWithin_eq_read_or room pattern with used | same
  · rw [reads] at used
    cases used
  · exact same ▸ reads

theorem isOk_read_of_readWithin {room : Nat} {pattern : String}
    (readable : (Node.readWithin room pattern).isOk = true) :
    (Node.read pattern).isOk = true := by
  rcases readWithin_eq_read_or room pattern with used | same
  · rw [used] at readable
    cases readable
  · exact same ▸ readable

/-- A pattern that is read can be read within any room that holds its parentheses and its tree. -/
theorem readWithin_of_read {room : Nat} {pattern : String} {node : Node}
    (reads : Node.read pattern = .ok node) (roomy : 2 * pattern.length + 2 ≤ room)
    (shallow : node.depth < room) : Node.readWithin room pattern = .ok node := by
  refine readWithin_eq_ok_iff.mpr ⟨?_, shallow⟩
  rcases parse_of_le roomy pattern with used | same
  · exact absurd rfl (isRoomy_of_read used none)
  · exact same.symm.trans reads

theorem readWithin_of_ok {room more : Nat} (less : room ≤ more) {pattern : String} {node : Node}
    (reads : Node.readWithin room pattern = .ok node) :
    Node.readWithin more pattern = .ok node := by
  obtain ⟨parses, shallow⟩ := readWithin_eq_ok_iff.mp reads
  refine readWithin_eq_ok_iff.mpr ⟨?_, Nat.lt_of_lt_of_le shallow less⟩
  rcases parse_of_le less pattern with used | same
  · rw [parses] at used
    cases used
  · exact same.symm.trans parses

/-- A pattern with bounded numbers and with room for all of its parentheses and for its tree is
read, or its fault is reported. -/
theorem isReported_of_readWithin {room : Nat} {pattern : String} {fault : PatternError}
    (bounded : HasBoundedNumbers pattern) (roomy : 2 * pattern.toList.count '(' + 2 ≤ room)
    (shallow : ∀ node, Node.read pattern = .ok node → node.depth < room)
    (fails : Node.readWithin room pattern = .error fault) : IsReported fault := by
  cases parsed : Node.parse room pattern with
  | error cause =>
      rw [readWithin_of_parse_fails parsed] at fails
      exact Except.error.inj fails ▸ isReported_of_parse bounded roomy parsed
  | ok node =>
      rcases parse_eq_read_or room pattern with used | same
      · rw [parsed] at used
        cases used
      · have fits := readWithin_eq_ok_iff.mpr ⟨parsed, shallow node (same ▸ parsed)⟩
        rw [fits] at fails
        cases fails

/-! ### Deep patterns -/

section Deep

variable {fuel room : Nat} {flags : Flags} {first top : Bool} {parts : List Part}
variable {state : ReadState} {fault : PatternError} {rest : List Token}

theorem readAlternatives_of_fails
    (fails : descend room (fun room => readSequence fuel room flags (top && first) []) state =
      .error fault) :
    readAlternatives (fuel + 1) room flags top first state = .error fault := by
  unfold readAlternatives
  rw [run_bind, fails]
  rfl

/-- A parenthesis right behind another one opens a group. -/
theorem readParenthesis_of_fails {opening : Nat} (isNext : state.left.head? = some (.plain '('))
    (fails : ∀ opened : ReadState, opened.left = state.left →
      descend room (fun room => readAlternatives fuel room flags false false) opened =
        .error fault) :
    readParenthesis (fuel + 1) room flags first parts opening state = .error fault := by
  have form : readForm state = .ok (.group none, state) := by
    have other : state.left.head? ≠ some (.plain '?') := by
      rw [isNext]
      decide
    rw [readForm, accept_bind_run, if_neg other]
    rfl
  have opened : openGroup none state =
      .ok (state.groups.length, { state with groups := state.groups ++ [none] }) := rfl
  unfold readParenthesis
  rw [run_bind, form]
  simp only [Except.bind]
  rw [run_bind, opened]
  simp only [Except.bind]
  rw [run_bind, fails { state with groups := state.groups ++ [none] } rfl]
  rfl

theorem readSequence_of_parenthesis (inhabited : rest ≠ [])
    (isLeft : state.left = .plain '(' :: rest) :
    readSequence (fuel + 1) room flags first parts state =
      readParenthesis fuel room flags first parts state.position
        { state with left := rest, position := state.position + 1 } := by
  have looked : position state = .ok (state.position, state) := rfl
  have seen : peek state = .ok (some (.plain '('), state) := by
    rw [peek_run, isLeft]
    rfl
  have taken : next state = .ok (some (.plain '('),
      { state with left := rest, position := state.position + 1 }) := by
    have more : rest.isEmpty = false := by simpa using inhabited
    rw [next_run isLeft, checkDangling_run]
    simp only [more, Bool.false_and]
    rfl
  have notBlank : isVerboseBlank '(' = false := by decide
  have notComment : ('(' == '#') = false := by decide
  have onward : Option.all Token.endsSequence (some (.plain '(')) = false := by decide
  unfold readSequence
  rw [run_bind, looked]
  simp only [Except.bind]
  rw [run_bind, seen]
  simp only [Except.bind, onward]
  rw [if_neg Bool.false_ne_true, run_bind, taken]
  simp only [Except.bind, notBlank, notComment, Bool.and_false]
  rfl

/-- One parenthesis after another is opened until there is no room left. -/
theorem readSequence_of_deep {depth : Nat} (deep : room < 2 * depth) (enough : 3 * depth ≤ fuel)
    (isLeft : state.left = List.replicate (depth + 1) (.plain '(') ++ rest) :
    readSequence fuel room flags first parts state =
      .error (.malformed .nestedTooDeep none) := by
  induction depth generalizing fuel room flags first parts state with
  | zero => exact absurd deep (Nat.not_lt_zero room)
  | succ depth inductionHypothesis =>
      obtain ⟨fuel, rfl⟩ : ∃ lower, fuel = lower + 3 := ⟨fuel - 3, by omega⟩
      have next : state.left = .plain '(' :: (List.replicate (depth + 1) (.plain '(') ++ rest) := by
        rw [isLeft, List.replicate_succ, List.cons_append]
      rw [readSequence_of_parenthesis (by simp) next]
      refine readParenthesis_of_fails rfl fun opened same => ?_
      cases room with
      | zero => rfl
      | succ room =>
          refine readAlternatives_of_fails ?_
          cases room with
          | zero => rfl
          | succ room => exact inductionHypothesis (by omega) (by omega) same

theorem tokens_of_deep (count : Nat) (text : List Char) :
    tokens (List.replicate count '(' ++ text) =
      (List.replicate count (.plain '(') ++ (tokens text).1, (tokens text).2) := by
  induction count with
  | zero => rfl
  | succ count inductionHypothesis =>
      have first (chars : List Char) : tokens ('(' :: chars) =
          (.plain '(' :: (tokens chars).1, (tokens chars).2) := by
        rw [tokens]
        all_goals simp
      rw [List.replicate_succ, List.cons_append, first, inductionHypothesis]
      rfl

/-- A text that begins with more parentheses than there is room for is not read to its end. -/
theorem readWithin_of_deep {count : Nat} {text : List Char} {pattern : String}
    (deep : room < 2 * count) (begins : pattern.toList = List.replicate count '(' ++ text) :
    Node.readWithin room pattern = .error (.malformed .nestedTooDeep none) := by
  refine readWithin_of_parse_fails ?_
  obtain ⟨depth, rfl⟩ : ∃ depth, count = depth + 1 := ⟨count - 1, by omega⟩
  let start : ReadState :=
    { left := List.replicate (depth + 1) (.plain '(') ++ (tokens text).1
      dangling := (tokens text).2 }
  have unfolded : Node.parse room pattern = (readPattern room start).map (·.1) := by
    rw [Node.parse, begins, tokens_of_deep]
    rfl
  have inhabited : start.left.isEmpty = false := rfl
  have fails : descend room (fun room =>
      readAlternatives (4 * start.left.length + 4) room {} true true) start =
        .error (.malformed .nestedTooDeep none) := by
    cases room with
    | zero => rfl
    | succ room =>
        refine readAlternatives_of_fails ?_
        cases room with
        | zero => rfl
        | succ room =>
            refine readSequence_of_deep (by omega) ?_ rfl
            simp only [start, List.length_append, List.length_replicate]
            omega
  have looked : (MonadState.get : Read ReadState) start = .ok (start, start) := rfl
  rw [unfolded, readPattern, run_bind, checkDangling_run, inhabited]
  simp only [Bool.false_and]
  rw [if_neg Bool.false_ne_true]
  simp only [Except.bind]
  rw [run_bind, looked]
  simp only [Except.bind]
  rw [run_bind, fails]
  rfl

end Deep

end ForwardedClient.Pattern
