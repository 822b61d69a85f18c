import ForwardedClient.Pattern.Reader

/-!
Contract: steps of the pattern reader.

Owns: the steps that stay within the tokens they were given and fail at most in an allowed way; that
the elementary steps of the reader, those for tokens and those for groups, are of this kind as soon
as the faults of a text are allowed.

Does not own: the steps that read numbers, and the parts of a pattern.
-/

namespace ForwardedClient.Pattern

open ForwardedClient.Text

/-- Faults of which every one may be met that a text has for itself. -/
class AllowsFaultsOfText (allowed : PatternError → Prop) : Prop where
  malformed : ∀ cause position, cause.isOfText = true → allowed (.malformed cause position)
  conflictingFlags : allowed .conflictingFlags

namespace Read

/-! ### Steps of the reader -/

theorem run_bind {α β : Type} (step : Read β) (next : β → Read α) (state : ReadState) :
    (step >>= next) state = (step state).bind fun done => next done.1 done.2 := rfl

section Ensures

variable {α β : Type} {allowed : PatternError → Prop} {all : List Token} {post : α → Prop}

/-- An outcome that stays within some tokens, is no other fault than those that are allowed, and
whose value has a property. -/
def IsEnsured (allowed : PatternError → Prop) (all : List Token) (post : α → Prop) :
    Except PatternError (α × ReadState) → Prop
  | .ok (value, after) => post value ∧ after.left <:+ all
  | .error fault => allowed fault

/-- A step with such outcomes only, as long as it begins within the tokens. -/
def Ensures (allowed : PatternError → Prop) (all : List Token) (post : α → Prop) (step : Read α) :
    Prop :=
  ∀ state, state.left <:+ all → IsEnsured allowed all post (step state)

/-- A step of which nothing more is asked. -/
abbrev Stays (allowed : PatternError → Prop) (all : List Token) (step : Read α) : Prop :=
  Ensures allowed all (fun _ => True) step

theorem IsEnsured.widen {rest : List Token} {outcome : Except PatternError (α × ReadState)}
    (later : rest <:+ all) (ensured : IsEnsured allowed rest post outcome) :
    IsEnsured allowed all post outcome := by
  cases outcome with
  | ok done => exact ⟨ensured.1, ensured.2.trans later⟩
  | error fault => exact ensured

namespace Ensures

theorem pure {value : α} (holds : post value) :
    Ensures allowed all post (Pure.pure value : Read α) :=
  fun _ within => ⟨holds, within⟩

theorem done (value : α) : Stays allowed all (Pure.pure value : Read α) := pure True.intro

theorem bind {middle : β → Prop} {step : Read β} {next : β → Read α}
    (first : Ensures allowed all middle step)
    (rest : ∀ value, middle value → Ensures allowed all post (next value)) :
    Ensures allowed all post (step >>= next) := by
  intro state within
  have ensured := first state within
  rw [run_bind]
  cases ran : step state with
  | error fault =>
      rw [ran] at ensured
      exact ensured
  | ok done =>
      rw [ran] at ensured
      exact rest done.1 ensured.1 done.2 ensured.2

theorem weaken {before : α → Prop} {step : Read α} (ensured : Ensures allowed all before step)
    (implied : ∀ value, before value → post value) : Ensures allowed all post step := by
  intro state within
  have holds := ensured state within
  cases ran : step state with
  | ok done =>
      rw [ran] at holds
      exact ⟨implied _ holds.1, holds.2⟩
  | error fault =>
      rw [ran] at holds
      exact holds

theorem throw {fault : PatternError} (mayFail : allowed fault) :
    Ensures allowed all post (MonadExcept.throw fault : Read α) := fun _ _ => mayFail

theorem malformed [AllowsFaultsOfText allowed] (cause : Cause) (position : Option Nat)
    (ofText : cause.isOfText = true) :
    Ensures allowed all post (MonadExcept.throw (.malformed cause position) : Read α) :=
  throw (AllowsFaultsOfText.malformed cause position ofText)

theorem get : Ensures allowed all (·.left <:+ all) (MonadState.get : Read ReadState) :=
  fun _ within => ⟨within, within⟩

/-- What follows a look at the state has the tokens that are left to stay within. -/
theorem look {next : ReadState → Read α}
    (rest : ∀ state, state.left <:+ all → Ensures allowed state.left post (next state)) :
    Ensures allowed all post (MonadState.get >>= next) :=
  fun state within => (rest state within state (List.suffix_refl _)).widen within

theorem set {state : ReadState} (within : state.left <:+ all) :
    Stays allowed all (MonadStateOf.set state : Read Unit) := fun _ _ => ⟨True.intro, within⟩

theorem lift {outcome : Except PatternError α}
    (mayFail : ∀ fault, outcome = .error fault → allowed fault) :
    Stays allowed all (liftM outcome : Read α) := by
  intro state within
  cases outcome with
  | error fault => exact mayFail fault rfl
  | ok value => exact ⟨True.intro, within⟩

theorem edit {change : ReadState → ReadState} (kept : ∀ state, (change state).left = state.left) :
    Stays allowed all (modify change : Read Unit) :=
  fun state within => ⟨True.intro, (kept state).symm ▸ within⟩

/-- A check that ends the reading or lets it go on. -/
theorem guard {refused : Prop} [Decidable refused] {halt : Read Unit} {next : Unit → Read α}
    (halts : Ensures allowed all (fun _ => False) halt)
    (rest : ¬ refused → Ensures allowed all post (next ())) :
    Ensures allowed all post (if refused then halt >>= next else next ()) := by
  split
  · exact halts.bind fun _ impossible => impossible.elim
  · exact rest ‹_›

theorem require {granted : Prop} [Decidable granted] {halt : Read Unit} {next : Unit → Read α}
    (halts : Ensures allowed all (fun _ => False) halt)
    (rest : granted → Ensures allowed all post (next ())) :
    Ensures allowed all post (if granted then next () else halt >>= next) := by
  split
  · exact rest ‹_›
  · exact halts.bind fun _ impossible => impossible.elim

/-- Two ways to a value with which the reading goes on. -/
theorem either {middle : β → Prop} {chosen : Prop} [Decidable chosen] {first second : Read β}
    {next : β → Read α} (left : Ensures allowed all middle first)
    (right : Ensures allowed all middle second)
    (rest : ∀ value, middle value → Ensures allowed all post (next value)) :
    Ensures allowed all post (if chosen then first >>= next else second >>= next) := by
  split
  · exact left.bind rest
  · exact right.bind rest

end Ensures

end Ensures

/-! ### Tokens -/

section Tokens

variable {α : Type} {allowed : PatternError → Prop} {all : List Token} {post : α → Prop}

theorem ensures_position : Stays allowed all position := Ensures.get.bind fun _ _ => .done _

theorem ensures_peek : Ensures allowed all (fun found => ∀ token ∈ found, token ∈ all) peek := by
  refine Ensures.get.bind fun state within => .pure fun token found => ?_
  exact within.subset (List.mem_of_mem_head? found)

variable [AllowsFaultsOfText allowed]

theorem ensures_fail (cause : Cause) (back : Nat) (ofText : cause.isOfText = true) :
    Ensures allowed all post (fail cause back) :=
  Ensures.get.bind fun _ _ => .malformed _ _ ofText

/-- Nothing comes after a fault. -/
theorem ensures_fail_bind {β : Type} (cause : Cause) (back : Nat) (next : β → Read α)
    (ofText : cause.isOfText = true) :
    Ensures allowed all post (fail cause back >>= next) :=
  (ensures_fail cause back ofText).bind fun _ (impossible : False) => impossible.elim

theorem ensures_checkDangling : Stays allowed all checkDangling := by
  refine Ensures.get.bind fun state _ => ?_
  split
  · exact .malformed _ _ rfl
  · exact .done _

theorem checkDangling_run (state : ReadState) :
    checkDangling state =
      if (state.left.isEmpty && state.dangling) = true then
        .error (.malformed .danglingBackslash (some state.position))
      else .ok ((), state) := by
  have unfolded : checkDangling state =
      (if (state.left.isEmpty && state.dangling) = true then
        throw (.malformed .danglingBackslash (some state.position))
      else pure () : Read Unit) state := rfl
  rw [unfolded]
  split <;> rfl

theorem next_run {state : ReadState} {token : Token} {rest : List Token}
    (isLeft : state.left = token :: rest) :
    next state =
      (checkDangling { state with left := rest, position := state.position + token.width }).map
        fun done => (some token, done.2) := by
  obtain ⟨left, dangling, place, flags, groups, names, lookbehindFrom, mentions⟩ := state
  subst isLeft
  rfl

theorem next_run_nil {state : ReadState} (isLeft : state.left = []) :
    next state = .ok (none, state) := by
  obtain ⟨left, dangling, place, flags, groups, names, lookbehindFrom, mentions⟩ := state
  subst isLeft
  rfl

theorem isEnsured_next_bind {state : ReadState} {token : Token} {rest : List Token}
    {onward : Option Token → Read α} (isLeft : state.left = token :: rest)
    (more : Ensures allowed rest post (onward (some token))) :
    IsEnsured allowed rest post ((next >>= onward) state) := by
  rw [run_bind, next_run isLeft, checkDangling_run]
  split
  · exact AllowsFaultsOfText.malformed _ _ rfl
  · exact more _ (List.suffix_refl _)

/-- After a token there are fewer tokens to stay within. -/
theorem ensures_next_bind {onward : Option Token → Read α}
    (atEnd : Ensures allowed all post (onward none))
    (more : ∀ token rest, (token :: rest) <:+ all →
      Ensures allowed rest post (onward (some token))) :
    Ensures allowed all post (next >>= onward) := by
  intro state within
  cases isLeft : state.left with
  | nil =>
      rw [run_bind, next_run_nil isLeft]
      exact atEnd state within
  | cons token rest =>
      rw [isLeft] at within
      exact (isEnsured_next_bind isLeft (more token rest within)).widen
        ((List.suffix_cons token rest).trans within)

theorem ensures_next : Ensures allowed all (fun found => ∀ token ∈ found, token ∈ all) next := by
  have taken : Ensures allowed all (fun found => ∀ token ∈ found, token ∈ all)
      (next >>= Pure.pure) := by
    refine ensures_next_bind (.pure nofun) fun token rest within => .pure ?_
    rintro other same
    cases same
    exact within.subset List.mem_cons_self
  rwa [bind_pure] at taken

theorem peek_run (state : ReadState) : peek state = .ok (state.left.head?, state) := rfl

theorem accept_bind_run {char : Char} (onward : Bool → Read α) (state : ReadState) :
    (accept char >>= onward) state =
      if state.left.head? = some (.plain char) then (next >>= fun _ => onward true) state
      else onward false state := by
  have unfolded : (accept char >>= onward) state =
      ((if (state.left.head? == some (.plain char)) = true then next >>= fun _ => pure true
        else pure false : Read Bool) >>= onward) state := rfl
  rw [unfolded]
  by_cases isNext : state.left.head? = some (.plain char)
  · rw [if_pos (beq_iff_eq.mpr isNext), if_pos isNext, bind_assoc]
    rfl
  · rw [if_neg (by simpa using isNext), if_neg isNext]
    rfl

/-- A character that is taken leaves fewer tokens to stay within. -/
theorem ensures_accept_bind {char : Char} {onward : Bool → Read α}
    (absent : Ensures allowed all post (onward false))
    (taken : ∀ rest, (.plain char :: rest) <:+ all →
      Ensures allowed rest post (onward true)) :
    Ensures allowed all post (accept char >>= onward) := by
  intro state within
  rw [accept_bind_run]
  split
  · rename_i isNext
    obtain ⟨rest, isLeft⟩ := List.head?_eq_some_iff.mp isNext
    rw [isLeft] at within
    exact (isEnsured_next_bind isLeft (taken rest within)).widen
      ((List.suffix_cons _ rest).trans within)
  · exact absent state within

theorem ensures_accept (char : Char) : Stays allowed all (accept char) := by
  refine ensures_peek.bind fun _ _ => ?_
  split
  · exact ensures_next.bind fun _ _ => .done _
  · exact .done _

theorem takeUpTo_of_member {isMember : Char → Bool} {count : Nat} {state : ReadState} {char : Char}
    {rest : List Token} (isLeft : state.left = .plain char :: rest)
    (member : isMember char = true) :
    takeUpTo isMember (count + 1) state =
      (next state).bind fun done =>
        (takeUpTo isMember count done.2).bind fun taken => .ok (char :: taken.1, taken.2) := by
  have seen : peek state = .ok (some (.plain char), state) := by
    have looked : peek state = .ok (state.left.head?, state) := rfl
    rw [looked, isLeft]
    rfl
  rw [takeUpTo, run_bind, seen]
  simp only [Except.bind, member, if_true]
  rfl

theorem takeUpTo_of_other {isMember : Char → Bool} {count : Nat} {state : ReadState}
    (other : ∀ char, state.left.head? = some (.plain char) → isMember char = false) :
    takeUpTo isMember (count + 1) state = .ok ([], state) := by
  have seen : peek state = .ok (state.left.head?, state) := rfl
  rw [takeUpTo, run_bind, seen]
  cases found : state.left.head? with
  | none => rfl
  | some token =>
      cases token with
      | escaped char => rfl
      | plain char =>
          simp only [Except.bind, other char found]
          rfl

/-- The members that are taken are the next tokens. -/
theorem takeUpTo_run (isMember : Char → Bool) (count : Nat) (state : ReadState) :
    match takeUpTo isMember count state with
    | .ok (chars, after) =>
      state.left = chars.map .plain ++ after.left ∧ (∀ char ∈ chars, isMember char = true) ∧
        chars.length ≤ count
    | .error fault => ∃ position, fault = .malformed .danglingBackslash position := by
  induction count generalizing state with
  | zero => exact ⟨rfl, nofun, Nat.le_refl 0⟩
  | succ count inductionHypothesis =>
      by_cases starts : ∃ char rest, state.left = .plain char :: rest ∧ isMember char = true
      · obtain ⟨char, rest, isLeft, member⟩ := starts
        rw [takeUpTo_of_member isLeft member, next_run isLeft, checkDangling_run]
        by_cases ends : (rest.isEmpty && state.dangling) = true
        · rw [if_pos ends]
          exact ⟨_, rfl⟩
        · rw [if_neg ends]
          have induced := inductionHypothesis
            { state with left := rest, position := state.position + (Token.plain char).width }
          simp only [Except.map, Except.bind]
          cases ran : takeUpTo isMember count
            { state with left := rest, position := state.position + (Token.plain char).width } with
          | error fault =>
              rw [ran] at induced
              exact induced
          | ok taken =>
              rw [ran] at induced
              obtain ⟨split, members, short⟩ := induced
              refine ⟨?_, ?_, Nat.succ_le_succ short⟩
              · rw [isLeft, List.map_cons, List.cons_append, ← split]
              · exact List.forall_mem_cons.mpr ⟨member, members⟩
      · rw [takeUpTo_of_other]
        · exact ⟨rfl, nofun, Nat.zero_le _⟩
        · intro char found
          obtain ⟨rest, isLeft⟩ := List.head?_eq_some_iff.mp found
          exact Bool.eq_false_iff.mpr fun member => starts ⟨char, rest, isLeft, member⟩

theorem ensures_takeUpTo {all : List Token} (isMember : Char → Bool) (count : Nat) :
    Ensures allowed all
      (fun chars => chars.map .plain <:+: all ∧ (∀ char ∈ chars, isMember char = true) ∧
        chars.length ≤ count)
      (takeUpTo isMember count) := by
  intro state within
  have run := takeUpTo_run isMember count state
  cases ran : takeUpTo isMember count state with
  | ok done =>
      rw [ran] at run
      obtain ⟨split, members, short⟩ := run
      have taken : done.1.map .plain <:+: all :=
        (List.prefix_append _ _).isInfix.trans (split ▸ within).isInfix
      exact ⟨⟨taken, members, short⟩, (List.suffix_append _ _).trans (split ▸ within)⟩
  | error fault =>
      rw [ran] at run
      obtain ⟨position, rfl⟩ := run
      exact AllowsFaultsOfText.malformed _ _ rfl

theorem ensures_takeName (terminator : Char) (what : String) {fuel : Nat} (taken : List Char)
    (enough : all.length < fuel) : Stays allowed all (takeName terminator what fuel taken) := by
  induction fuel generalizing all taken with
  | zero => exact absurd enough (Nat.not_lt_zero _)
  | succ fuel inductionHypothesis =>
      refine ensures_next_bind ?_ fun token rest within => ?_
      · simp only
        split <;> exact ensures_fail _ _ rfl
      · simp only
        split
        · split
          · exact ensures_fail _ _ rfl
          · exact .done _
        · exact inductionHypothesis _
            (Nat.lt_of_lt_of_le within.length_le (Nat.le_of_lt_succ enough))

theorem ensures_nameUntil (terminator : Char) (what : String) :
    Stays allowed all (nameUntil terminator what) :=
  .look fun _ _ => ensures_takeName terminator what [] (Nat.lt_succ_self _)

theorem ensures_checkName (name : List Char) : Stays allowed all (checkName name) := by
  rw [checkName]
  split
  · exact .done _
  · exact ensures_fail _ _ rfl

end Tokens

/-! ### Groups -/

section Groups

variable {allowed : PatternError → Prop} {all : List Token}

theorem ensures_isClosed (index : Nat) : Stays allowed all (isClosed index) :=
  Ensures.get.bind fun _ _ => .done _

theorem ensures_reference (flags : Flags) (index : Nat) :
    Stays allowed all (reference flags index) :=
  Ensures.get.bind fun _ _ => .done _

theorem ensures_closeGroup (index : Nat) (body : Node) :
    Stays allowed all (closeGroup index body) :=
  Ensures.edit fun _ => rfl

variable [AllowsFaultsOfText allowed]

theorem ensures_checkLookbehind (index : Nat) : Stays allowed all (checkLookbehind index) := by
  refine Ensures.get.bind fun state _ => ?_
  split
  · exact .done _
  · refine (ensures_isClosed index).bind fun closed _ => .require (ensures_fail _ _ rfl) fun _ => ?_
    split
    · exact ensures_fail _ _ rfl
    · exact .done _

theorem ensures_openGroup (name : Option (List Char)) : Stays allowed all (openGroup name) := by
  refine Ensures.get.bind fun state within => ?_
  cases name with
  | none =>
      refine Ensures.bind (.set ?_) fun _ _ => .done _
      exact within
  | some name =>
      simp only
      split
      · exact ensures_fail_bind _ _ _ rfl
      · refine Ensures.bind (.set ?_) fun _ _ => .done _
        exact within

end Groups

end Read

end ForwardedClient.Pattern
