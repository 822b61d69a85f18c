import ForwardedClient.Proofs.Pattern.ReaderParts

/-!
Contract: which patterns are beyond the limits of their reader.

Owns: that the reader never runs out of steps; how much room parentheses take at most;
`HasBoundedNumbers`, a condition on the text of a pattern under which its reader never meets a
number beyond all bounds; the law for a whole pattern.

Does not own: what becomes of patterns beyond the limits.
-/

namespace ForwardedClient.Pattern

open ForwardedClient.Text
open Read

/-- How many parentheses are opened among some tokens. -/
def parentheses (all : List Token) : Nat := all.count (.plain '(')

/-- Either there is room enough, or it is allowed that it is used up. -/
def HasRoom (allowed : PatternError → Prop) (needed room : Nat) : Prop :=
  needed ≤ room ∨ ∀ position, allowed (.malformed .nestedTooDeep position)

theorem HasRoom.of_le {allowed : PatternError → Prop} {needed more room : Nat}
    (roomy : HasRoom allowed more room) (less : needed ≤ more) : HasRoom allowed needed room :=
  roomy.imp_left (Nat.le_trans less)

theorem parentheses_le_of_suffix {rest all : List Token} (later : rest <:+ all) :
    parentheses rest ≤ parentheses all := later.sublist.count_le _

/-! ### Whole patterns -/

section Whole

variable {allowed : PatternError → Prop} {all : List Token} {fuel room : Nat}

/-- A call that is opened has one less left below it. -/
theorem ensures_descend {α : Type} {post : α → Prop} {call : Nat → Read α} {needed : Nat}
    (roomy : HasRoom allowed (needed + 1) room)
    (below : ∀ room, HasRoom allowed needed room → Ensures allowed all post (call room)) :
    Ensures allowed all post (descend room call) := by
  cases room with
  | zero => exact .throw (roomy.resolve_left (Nat.not_succ_le_zero needed) _)
  | succ room => exact below room (roomy.imp_left Nat.le_of_succ_le_succ)

theorem allowed_of_bind {first second : Except PatternError Unit}
    (ofFirst : ∀ fault, first = .error fault → allowed fault)
    (ofSecond : ∀ fault, second = .error fault → allowed fault) {fault : PatternError}
    (fails : (first >>= fun _ => second) = .error fault) : allowed fault := by
  cases first with
  | error cause =>
      cases fails
      exact ofFirst _ rfl
  | ok => exact ofSecond _ fails

variable [AllowsFaultsOfText allowed]

/-- All three readers stay within any tokens that so many steps and so much room are enough for.
Every token takes four steps at most, and every parenthesis room for two calls. -/
structure ReadersStay (allowed : PatternError → Prop) (fuel : Nat) : Prop where
  alternatives : ∀ {all room}, Tolerates allowed all → 4 * all.length + 4 ≤ fuel →
    HasRoom allowed (2 * parentheses all + 1) room → ∀ flags top first,
      Stays allowed all (readAlternatives fuel room flags top first)
  sequence : ∀ {all room}, Tolerates allowed all → 4 * all.length + 3 ≤ fuel →
    HasRoom allowed (2 * parentheses all) room → ∀ flags first parts,
      Stays allowed all (readSequence fuel room flags first parts)
  parenthesis : ∀ {all room}, Tolerates allowed all → 4 * all.length + 5 ≤ fuel →
    HasRoom allowed (2 * parentheses all + 2) room → ∀ flags first parts opening,
      Stays allowed all (readParenthesis fuel room flags first parts opening)

section Step

variable (below : ReadersStay allowed fuel) (tolerant : Tolerates allowed all) (flags : Flags)
include below tolerant

theorem ensures_readAlternatives (enough : 4 * all.length + 4 ≤ fuel + 1)
    (roomy : HasRoom allowed (2 * parentheses all + 1) room) (top first : Bool) :
    Stays allowed all (readAlternatives (fuel + 1) room flags top first) := by
  unfold readAlternatives
  have first : Stays allowed all
      (descend room fun room => readSequence fuel room flags (top && first) []) :=
    ensures_descend roomy fun room roomy => below.sequence tolerant (by omega) roomy _ _ _
  refine first.bind fun node _ => ensures_accept_bind (.done _) fun rest within => ?_
  have later : rest <:+ all := (List.suffix_cons _ rest).trans within
  have shorter := within.length_le
  rw [List.length_cons] at shorter
  have roomyLater : HasRoom allowed (2 * parentheses rest + 1) room :=
    roomy.of_le (by have fewer := parentheses_le_of_suffix later; omega)
  have onward (flags : Flags) :
      Stays allowed rest (readAlternatives fuel room flags top false) :=
    below.alternatives (tolerant.of_suffix later) (by omega) roomyLater _ _ _
  simp only [if_true]
  split
  · refine Ensures.get.bind fun state _ => (Ensures.done _).bind fun later _ => ?_
    exact (onward _).bind fun _ _ => .done _
  · refine (Ensures.done _).bind fun later _ => ?_
    exact (onward _).bind fun _ _ => .done _

theorem ensures_readSequence (enough : 4 * all.length + 3 ≤ fuel + 1)
    (roomy : HasRoom allowed (2 * parentheses all) room) (first : Bool) (parts : List Part) :
    Stays allowed all (readSequence (fuel + 1) room flags first parts) := by
  unfold readSequence
  refine ensures_position.bind fun signPosition _ => ensures_peek.bind fun _ _ => ?_
  split
  · exact .done _
  refine ensures_next_bind (.done _) fun token rest within => ?_
  have later : rest <:+ all := (List.suffix_cons token rest).trans within
  have shorter := within.length_le
  rw [List.length_cons] at shorter
  have tolerantLater := tolerant.of_suffix later
  have onward (flags : Flags) (parts : List Part) :
      Stays allowed rest (readSequence fuel room flags first parts) :=
    below.sequence tolerantLater (by omega)
      (roomy.of_le (Nat.mul_le_mul_left 2 (parentheses_le_of_suffix later))) flags first parts
  cases token with
  | escaped char =>
      have short := tolerant.short_of_mem (within.subset List.mem_cons_self)
      exact (ensures_readEscape flags short).bind fun _ _ => onward _ _
  | plain char =>
      simp only
      split
      · exact onward _ _
      split
      · refine Ensures.get.bind fun state _ => (ensures_skipLine _).bind fun _ _ => ?_
        exact onward _ _
      split
      · exact (ensures_readClass tolerantLater flags).bind fun _ _ => onward _ _
      · exact onward _ _
      · exact onward _ _
      · exact onward _ _
      · have fewer : parentheses rest + 1 ≤ parentheses all := by
          have counted := parentheses_le_of_suffix within
          rwa [parentheses, List.count_cons_self] at counted
        exact below.parenthesis tolerantLater (by omega) (roomy.of_le (by omega)) _ _ _ _
      · split
        · refine (ensures_readRepeat tolerantLater _).bind fun counts _ => ?_
          split
          · exact onward _ _
          · exact (ensures_repeatLast _ _ _ _).bind fun _ _ => onward _ _
        · exact onward _ _

theorem ensures_readParenthesis (enough : 4 * all.length + 5 ≤ fuel + 1)
    (roomy : HasRoom allowed (2 * parentheses all + 2) room) (first : Bool) (parts : List Part)
    (opening : Nat) :
    Stays allowed all (readParenthesis (fuel + 1) room flags first parts opening) := by
  have onward (flags : Flags) (parts : List Part) :
      Stays allowed all (readSequence fuel room flags first parts) :=
    below.sequence tolerant (by omega) (roomy.of_le (by omega)) flags first parts
  have body (flags : Flags) : Stays allowed all
      (descend room fun room => readAlternatives fuel room flags false false) :=
    ensures_descend roomy fun room roomy => below.alternatives tolerant (by omega) roomy _ _ _
  have branch : Stays allowed all
      (descend room fun room => readSequence fuel room flags false []) :=
    ensures_descend roomy fun room roomy =>
      below.sequence tolerant (by omega) (roomy.of_le (by omega)) _ _ _
  have closes : Stays allowed all (closeParenthesis opening) := ensures_closeParenthesis opening
  unfold readParenthesis
  refine ensures_readForm.bind fun form _ => ?_
  simp only
  split
  · refine Ensures.look fun state within => ?_
    refine (ensures_skipComment _ (Nat.lt_succ_self _)).bind fun _ _ => ?_
    refine below.sequence (tolerant.of_suffix within) ?_ (roomy.of_le ?_) _ _ _
    · have shorter := within.length_le
      omega
    · have fewer := parentheses_le_of_suffix within
      omega
  · refine .guard (.malformed _ _ rfl) fun _ => Ensures.get.bind fun state _ => ?_
    exact onward _ _
  · exact (ensures_readNamedReference flags).bind fun _ _ => onward _ _
  · refine (ensures_openGroup _).bind fun index _ => (body _).bind fun node _ => ?_
    exact closes.bind fun _ _ => (ensures_closeGroup _ _).bind fun _ _ => onward _ _
  · exact (body _).bind fun _ _ => closes.bind fun _ _ => onward _ _
  · exact (body _).bind fun _ _ => closes.bind fun _ _ => onward _ _
  · exact (body _).bind fun _ _ => closes.bind fun _ _ => onward _ _
  · refine Ensures.get.bind fun state _ => ?_
    refine Ensures.bind (.edit fun _ => rfl) fun _ _ => (body _).bind fun _ _ => ?_
    refine Ensures.bind (.edit fun _ => rfl) fun _ _ => closes.bind fun _ _ => ?_
    exact onward _ _
  · refine ensures_readCondition.bind fun index _ => branch.bind fun present _ => ?_
    refine (ensures_accept _).bind fun _ _ => ?_
    have finishes (absent : Node) : Stays allowed all (do
        closeParenthesis opening
        readSequence fuel room flags first
          ({ node := .ifGroup index present absent, enclosed := true } :: parts)) :=
      closes.bind fun _ _ => onward _ _
    split
    · refine branch.bind fun absent _ => ensures_peek.bind fun _ _ => ?_
      refine .guard (ensures_fail _ _ rfl) fun _ => ?_
      exact (Ensures.done _).bind fun absent _ => finishes absent
    · exact (Ensures.done _).bind fun absent _ => finishes absent

end Step

theorem readersStay (fuel : Nat) : ReadersStay allowed fuel := by
  induction fuel with
  | zero =>
      refine ⟨fun _ enough => ?_, fun _ enough => ?_, fun _ enough => ?_⟩
      all_goals omega
  | succ fuel inductionHypothesis =>
      refine ⟨fun tolerant enough roomy flags => ?_, fun tolerant enough roomy flags => ?_,
        fun tolerant enough roomy flags => ?_⟩
      · exact ensures_readAlternatives inductionHypothesis tolerant flags enough roomy
      · exact ensures_readSequence inductionHypothesis tolerant flags enough roomy
      · exact ensures_readParenthesis inductionHypothesis tolerant flags enough roomy

theorem allowed_of_check {template : Bool} (node : Node) :
    ∀ fault, node.check template = .error fault → allowed fault := by
  induction node with
  | empty | one | anchored | sameAs => nofun
  | seq first second ofFirst ofSecond | alt first second ofFirst ofSecond
  | ifGroup index first second ofFirst ofSecond =>
      exact fun _ => allowed_of_bind ofFirst ofSecond
  | group index body inductionHypothesis | atomic body inductionHypothesis
  | ahead negated body inductionHypothesis => exact inductionHypothesis
  | repeated greed least most body inductionHypothesis =>
      intro fault fails
      unfold Node.check at fails
      split at fails
      · cases fails
        exact AllowsFaultsOfText.malformed _ _ rfl
      · exact inductionHypothesis fault fails
  | behind negated body inductionHypothesis =>
      intro fault fails
      unfold Node.check at fails
      simp only at fails
      split at fails
      · cases fails
        exact AllowsFaultsOfText.malformed _ _ rfl
      split at fails
      · cases fails
        exact AllowsFaultsOfText.malformed _ _ rfl
      · exact inductionHypothesis fault fails

theorem ensures_readPattern (tolerant : Tolerates allowed all)
    (roomy : HasRoom allowed (2 * parentheses all + 2) room) :
    Stays allowed all (readPattern room) := by
  refine ensures_checkDangling.bind fun _ _ => Ensures.look fun start within => ?_
  have roomyLeft : HasRoom allowed (2 * parentheses start.left + 2) room :=
    roomy.of_le (by have fewer := parentheses_le_of_suffix within; omega)
  have tree : Stays allowed start.left (descend room fun room =>
      readAlternatives (4 * start.left.length + 4) room {} true true) :=
    ensures_descend roomyLeft fun room roomy =>
      (readersStay _).alternatives (tolerant.of_suffix within) (Nat.le_refl _) roomy _ _ _
  refine tree.bind fun node _ => Ensures.get.bind fun state _ => ?_
  refine .guard (.throw AllowsFaultsOfText.conflictingFlags) fun _ => ?_
  refine .require (ensures_fail _ _ rfl) fun _ => ?_
  have checked : Stays allowed start.left (do
      (liftM (node.check state.flags.template) : Read Unit)
      return node) :=
    (Ensures.lift (allowed_of_check node)).bind fun _ _ => .done _
  simp only
  split
  · exact Ensures.bind (.malformed _ _ rfl) fun _ (impossible : False) => impossible.elim
  · exact checked

/-- Every fault of a pattern is one that is allowed. -/
theorem allowed_of_parse {pattern : String} {fault : PatternError}
    (tolerant : Tolerates allowed (tokens pattern.toList).1)
    (roomy : HasRoom allowed (2 * parentheses (tokens pattern.toList).1 + 2) room)
    (fails : Node.parse room pattern = .error fault) : allowed fault := by
  let start : ReadState :=
    { left := (tokens pattern.toList).1, dangling := (tokens pattern.toList).2 }
  have stays := ensures_readPattern tolerant roomy start (List.suffix_refl _)
  have unfolded : Node.parse room pattern = (readPattern room start).map (·.1) := rfl
  rw [unfolded] at fails
  cases ran : readPattern room start with
  | ok done =>
      rw [ran] at fails
      cases fails
  | error cause =>
      rw [ran] at fails stays
      cases fails
      exact stays

end Whole

/-! ### Texts within the limits -/

/-- The faults that do not say that the reader has run out of steps. -/
def IsFinished (fault : PatternError) : Prop :=
  ∀ position, fault ≠ .malformed .unfinished position

instance : AllowsFaultsOfText IsFinished where
  malformed := by
    rintro cause position ofText other same
    cases same
    cases ofText
  conflictingFlags := nofun

/-- The reader never runs out of steps, whatever room it has. -/
theorem isFinished_of_parse {room : Nat} {pattern : String} {fault : PatternError}
    (fails : Node.parse room pattern = .error fault) : IsFinished fault :=
  allowed_of_parse (.inl ⟨nofun, nofun⟩) (.inr nofun) fails

/-- The faults with which the reading of settings goes on. -/
def IsReported (fault : PatternError) : Prop := fault.endsReading = false

instance : AllowsFaultsOfText IsReported where
  malformed := by
    intro cause position ofText
    cases cause <;> first | rfl | cases ofText
  conflictingFlags := rfl

/-- A text without the long escape of a code point, and without ten digits in a row. -/
structure HasBoundedNumbers (pattern : String) : Prop where
  noLongEscape : ¬ ['\\', 'U'] <:+: pattern.toList
  shortRuns : ∀ digits, digits <:+: pattern.toList →
    (∀ digit ∈ digits, isAsciiDigit digit = true) → digits.length < 10

theorem infix_of_tokens {run : List Token} {text : List Char} (within : run <:+: (tokens text).1) :
    run.flatMap Token.chars <:+: text := by
  obtain ⟨before, after, split⟩ := within
  refine ⟨before.flatMap Token.chars,
    after.flatMap Token.chars ++ (if (tokens text).2 then ['\\'] else []), ?_⟩
  rw [← List.append_assoc, ← List.flatMap_append, ← List.flatMap_append, split, tokens_chars]

theorem areBounded_tokens {pattern : String} (bounded : HasBoundedNumbers pattern) :
    AreBounded (tokens pattern.toList).1 where
  noLongEscape := by
    intro member
    obtain ⟨before, after, split⟩ := List.append_of_mem member
    have within : [.escaped 'U'] <:+: (tokens pattern.toList).1 :=
      ⟨before, after, by rw [split, List.append_assoc]; rfl⟩
    exact bounded.noLongEscape (infix_of_tokens within)
  shortRuns := by
    intro digits within areDigits
    have spelled : (digits.map Token.plain).flatMap Token.chars = digits := by
      rw [List.flatMap_map]
      exact List.flatMap_singleton' digits
    exact bounded.shortRuns digits (spelled ▸ infix_of_tokens within) areDigits

theorem parentheses_le_count_chars (all : List Token) :
    parentheses all ≤ (all.flatMap Token.chars).count '(' := by
  induction all with
  | nil => exact Nat.le_refl 0
  | cons token rest inductionHypothesis =>
      rw [parentheses, List.count_cons, List.flatMap_cons, List.count_append]
      have own : (if token == .plain '(' then 1 else 0) ≤ token.chars.count '(' := by
        split
        · rename_i opens
          rw [eq_of_beq opens]
          exact Nat.le_refl 1
        · exact Nat.zero_le _
      rw [parentheses] at inductionHypothesis
      omega

theorem parentheses_le_count (text : List Char) :
    parentheses (tokens text).1 ≤ text.count '(' := by
  have spelled := tokens_chars text
  have fewer := parentheses_le_count_chars (tokens text).1
  rw [← spelled, List.count_append, spelled]
  exact Nat.le_add_right_of_le fewer

/-- A pattern with bounded numbers and with room for all of its parentheses has a tree, or its fault
is reported. -/
theorem isReported_of_parse {room : Nat} {pattern : String} {fault : PatternError}
    (bounded : HasBoundedNumbers pattern) (roomy : 2 * pattern.toList.count '(' + 2 ≤ room)
    (fails : Node.parse room pattern = .error fault) : IsReported fault := by
  refine allowed_of_parse (.inr (areBounded_tokens bounded)) (.inl ?_) fails
  have fewer := parentheses_le_count pattern.toList
  omega

end ForwardedClient.Pattern
