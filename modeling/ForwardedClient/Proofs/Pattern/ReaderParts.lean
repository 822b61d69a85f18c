import ForwardedClient.Proofs.Pattern.ReaderSteps

/-!
Contract: the parts of a pattern, as its reader takes them.

Owns: the tokens whose numbers are bounded; that the readers of escapes, classes, repetitions and
what opens a parenthesis stay within their tokens, and fail at most in an allowed way where numbers
beyond all bounds are allowed or there are none. They never run out of steps.

Does not own: sequences and alternatives, and what becomes of numbers beyond all bounds.
-/

namespace ForwardedClient.Pattern

open ForwardedClient.Text

/-- Tokens without the long escape of a code point, and without ten digits in a row. -/
structure AreBounded (all : List Token) : Prop where
  noLongEscape : .escaped 'U' ∉ all
  shortRuns : ∀ digits : List Char, digits.map .plain <:+: all →
    (∀ digit ∈ digits, isAsciiDigit digit = true) → digits.length < 10

/-- Either numbers beyond all bounds are allowed, or there are none among the tokens. -/
def Tolerates (allowed : PatternError → Prop) (all : List Token) : Prop :=
  (allowed .countTooLarge ∧ allowed .codePointTooLarge) ∨ AreBounded all

namespace Tolerates

variable {allowed : PatternError → Prop} {all rest : List Token}

theorem of_suffix (later : rest <:+ all) (tolerant : Tolerates allowed all) :
    Tolerates allowed rest := by
  refine tolerant.imp_right fun bounded => ⟨fun member => ?_, fun digits within => ?_⟩
  · exact bounded.noLongEscape (later.subset member)
  · exact bounded.shortRuns digits (within.trans later.isInfix)

theorem short_of_mem {char : Char} (tolerant : Tolerates allowed all)
    (member : .escaped char ∈ all) : char ≠ 'U' ∨ allowed .codePointTooLarge := by
  rcases tolerant with ⟨-, codePoints⟩ | bounded
  · exact .inr codePoints
  · exact .inl fun same => bounded.noLongEscape (same ▸ member)

theorem short_of_infix {digits : List Char} (tolerant : Tolerates allowed all)
    (within : digits.map .plain <:+: all)
    (areDigits : ∀ digit ∈ digits, isAsciiDigit digit = true) :
    digits.length < 10 ∨ allowed .countTooLarge := by
  rcases tolerant with ⟨counts, -⟩ | bounded
  · exact .inr counts
  · exact .inl (bounded.shortRuns digits within areDigits)

end Tolerates

/-- The steps that are left suffice for the tokens behind another one. -/
theorem length_lt_of_behind {token : Token} {all rest : List Token} {fuel : Nat}
    (within : token :: rest <:+ all) (enough : all.length < fuel + 1) : rest.length < fuel :=
  Nat.lt_of_lt_of_le within.length_le (Nat.le_of_lt_succ enough)

/-! ### Numbers -/

section Numbers

theorem foldl_digits_lt {base : Nat} {value : Char → Nat} {digits : List Char}
    (small : ∀ digit ∈ digits, value digit < base) (start : Nat) :
    digits.foldl (fun number digit => base * number + value digit) start <
      (start + 1) * base.pow digits.length := by
  induction digits generalizing start with
  | nil => exact Nat.lt_of_lt_of_eq (Nat.lt_succ_self start) (Nat.mul_one _).symm
  | cons digit rest inductionHypothesis =>
      obtain ⟨first, others⟩ := List.forall_mem_cons.mp small
      have bounded := inductionHypothesis others (base * start + value digit)
      have carried : base * start + value digit + 1 ≤ (start + 1) * base := by
        rw [Nat.add_mul, Nat.one_mul, Nat.mul_comm]
        omega
      calc (digit :: rest).foldl (fun number digit => base * number + value digit) start
          < (base * start + value digit + 1) * base.pow rest.length := bounded
        _ ≤ (start + 1) * base * base.pow rest.length := Nat.mul_le_mul_right _ carried
        _ = (start + 1) * (base.pow rest.length * base) := by
          rw [Nat.mul_assoc, Nat.mul_comm base]

theorem decimalValue_lt {digits : List Char} {count : Nat}
    (areDigits : ∀ digit ∈ digits, isAsciiDigit digit = true) (few : digits.length ≤ count) :
    decimalValue digits < Nat.pow 10 count := by
  have small : ∀ digit ∈ digits, digit.toNat - '0'.toNat < 10 := by
    intro digit member
    have bounds := areDigits digit member
    simp only [isAsciiDigit, Bool.and_eq_true, decide_eq_true_eq] at bounds
    have high : digit.toNat ≤ 57 := bounds.2
    show digit.toNat - 48 < 10
    omega
  have bounded : decimalValue digits < Nat.pow 10 digits.length := by
    simpa [decimalValue] using foldl_digits_lt small 0
  exact Nat.lt_of_lt_of_le bounded (Nat.pow_le_pow_right (by decide) few)

theorem hexDigitValue_lt {digit : Char} {value : Nat} (found : hexDigitValue? digit = some value) :
    value < 16 := by
  unfold hexDigitValue? at found
  split at found
  · rename_i bounds
    have high : digit.toNat ≤ 57 := bounds.2
    obtain rfl : digit.toNat - 48 = value := Option.some.inj found
    omega
  split at found
  · rename_i bounds
    have high : digit.toNat ≤ 102 := bounds.2
    obtain rfl : digit.toNat - 97 + 10 = value := Option.some.inj found
    omega
  split at found
  · rename_i bounds
    have high : digit.toNat ≤ 70 := bounds.2
    obtain rfl : digit.toNat - 65 + 10 = value := Option.some.inj found
    omega
  · cases found

theorem hexValue_lt {digits : List Char} {count : Nat} (few : digits.length ≤ count) :
    hexValue digits < Nat.pow 16 count := by
  have small : ∀ digit ∈ digits, (hexDigitValue? digit).getD 0 < 16 := by
    intro digit _
    cases found : hexDigitValue? digit with
    | none => decide
    | some value => exact hexDigitValue_lt found
  have bounded : hexValue digits < Nat.pow 16 digits.length := by
    simpa [hexValue] using foldl_digits_lt small 0
  exact Nat.lt_of_lt_of_le bounded (Nat.pow_le_pow_right (by decide) few)

end Numbers

open Read

/-! ### Escapes -/

section Escapes

variable {allowed : PatternError → Prop} [AllowsFaultsOfText allowed] {all : List Token}

theorem ensures_readHexEscape (letter : Char) {count : Nat}
    (short : count < 8 ∨ allowed .codePointTooLarge) :
    Stays allowed all (readHexEscape letter count) := by
  refine (ensures_takeUpTo isHexDigit count).bind fun digits taken => ?_
  refine .guard (ensures_fail _ _ rfl) fun _ => ?_
  simp only
  split
  · rename_i beyond
    have mayFail : allowed .codePointTooLarge := by
      refine short.resolve_left fun few => absurd beyond (Nat.not_le.mpr ?_)
      have short : digits.length ≤ 7 := by omega
      exact Nat.lt_of_lt_of_le (hexValue_lt short) (by decide)
    exact Ensures.bind (.throw mayFail) fun _ (impossible : False) => impossible.elim
  · refine .guard (ensures_fail _ _ rfl) fun _ => ?_
    exact .done _

theorem ensures_readNamedEscape : Stays allowed all readNamedEscape := by
  refine (ensures_accept _).bind fun _ _ => .require (ensures_fail _ _ rfl) fun _ => ?_
  refine (ensures_nameUntil _ _).bind fun name _ => ?_
  split
  · exact .done _
  · exact ensures_fail _ _ rfl

/-- The long escape is the only one with eight digits. -/
theorem ensures_readCodeEscape {letter : Char}
    (short : letter ≠ 'U' ∨ allowed .codePointTooLarge) :
    Stays allowed all (readCodeEscape? letter) := by
  unfold readCodeEscape?
  split
  · exact (ensures_readHexEscape _ (.inl (by decide))).bind fun _ _ => .done _
  · exact (ensures_readHexEscape _ (.inl (by decide))).bind fun _ _ => .done _
  · have mayFail := short.resolve_left fun other => other rfl
    exact (ensures_readHexEscape _ (.inr mayFail)).bind fun _ _ => .done _
  · exact ensures_readNamedEscape.bind fun _ _ => .done _
  · exact .done _

theorem ensures_checkOctal (digits : List Char) : Stays allowed all (checkOctal digits) := by
  unfold checkOctal
  refine .guard (ensures_fail _ _ rfl) fun _ => ?_
  exact .done _

theorem ensures_readPlainEscape (char : Char) : Stays allowed all (readPlainEscape char) := by
  unfold readPlainEscape
  refine .guard (ensures_fail _ _ rfl) fun _ => ?_
  exact .done _

theorem ensures_readClassEscape {char : Char} (short : char ≠ 'U' ∨ allowed .codePointTooLarge) :
    Stays allowed all (readClassEscape char) := by
  rw [readClassEscape]
  split
  · exact .done _
  · split
    · exact .done _
    · refine (ensures_readCodeEscape short).bind fun code _ => ?_
      split
      · exact .done _
      · split
        · refine (ensures_takeUpTo isOctalDigit 2).bind fun others _ => ?_
          exact (ensures_checkOctal _).bind fun _ _ => .done _
        · exact (ensures_readPlainEscape char).bind fun _ _ => .done _

theorem ensures_readDigitEscape (flags : Flags) (first : Char) :
    Stays allowed all (readDigitEscape flags first) := by
  refine (ensures_takeUpTo isAsciiDigit 1).bind fun second _ => ?_
  have third : Stays allowed all (takeUpTo isOctalDigit 1) :=
    (ensures_takeUpTo isOctalDigit 1).weaken fun _ _ => True.intro
  refine .either third (.done _) fun third _ => ?_
  simp only
  split
  · exact (ensures_checkOctal _).bind fun _ _ => .done _
  · refine Ensures.get.bind fun state _ => ?_
    split
    · refine (ensures_isClosed _).bind fun _ _ => .require (ensures_fail _ _ rfl) fun _ => ?_
      exact (ensures_checkLookbehind _).bind fun _ _ => ensures_reference _ _
    · exact ensures_fail _ _ rfl

theorem ensures_readEscape (flags : Flags) {char : Char}
    (short : char ≠ 'U' ∨ allowed .codePointTooLarge) :
    Stays allowed all (readEscape flags char) := by
  rw [readEscape]
  split
  · exact .done _
  · split
    · exact .done _
    · split
      · exact .done _
      · refine (ensures_readCodeEscape short).bind fun code _ => ?_
        split
        · exact .done _
        · split
          · exact (ensures_takeUpTo isOctalDigit 2).bind fun _ _ => .done _
          · split
            · exact ensures_readDigitEscape flags char
            · exact (ensures_readPlainEscape char).bind fun _ _ => .done _

end Escapes

/-! ### Classes and repetitions -/

section Parts

variable {allowed : PatternError → Prop} {all : List Token}

/-- Fewer than ten digits are a number that can be counted to. -/
theorem ensures_checkCount {digits : List Char}
    (areDigits : ∀ digit ∈ digits, isAsciiDigit digit = true)
    (short : digits.length < 10 ∨ allowed .countTooLarge) :
    Stays allowed all (checkCount digits) := by
  unfold checkCount
  split
  · exact .done _
  · simp only
    split
    · rename_i beyond
      have mayFail : allowed .countTooLarge := by
        refine short.resolve_left fun few => absurd beyond (Nat.not_le.mpr ?_)
        exact Nat.lt_of_lt_of_le (decimalValue_lt areDigits (Nat.le_of_lt_succ few)) (by decide)
      exact Ensures.bind (.throw mayFail) fun _ (impossible : False) => impossible.elim
    · exact .done _

variable [AllowsFaultsOfText allowed]

theorem ensures_readClassMember {token : Token} {tokens : List Token}
    (tolerant : Tolerates allowed tokens) (member : token ∈ tokens) :
    Stays allowed all (readClassMember token) := by
  cases token with
  | plain char => exact .done _
  | escaped char => exact ensures_readClassEscape (tolerant.short_of_mem member)

theorem ensures_readClassItems (tolerant : Tolerates allowed all) (opening : Nat) {fuel : Nat}
    (items : List ClassItem) (enough : all.length < fuel) :
    Stays allowed all (readClassItems opening fuel items) := by
  induction fuel generalizing all items with
  | zero => exact absurd enough (Nat.not_lt_zero _)
  | succ fuel inductionHypothesis =>
      refine ensures_next_bind (.malformed _ _ rfl) fun this rest within => ?_
      have later : rest <:+ all := (List.suffix_cons this rest).trans within
      have onward (items : List ClassItem) :
          Stays allowed rest (readClassItems opening fuel items) :=
        inductionHypothesis (tolerant.of_suffix later) items (length_lt_of_behind within enough)
      simp only
      split
      · exact .done _
      · refine (ensures_readClassMember tolerant (within.subset List.mem_cons_self)).bind
          fun member _ => ?_
        refine (ensures_accept _).bind fun _ _ => ?_
        split
        · refine ensures_next.bind fun found members => ?_
          split
          · exact .malformed _ _ rfl
          · rename_i that
            split
            · exact .done _
            · refine (ensures_readClassMember (tolerant.of_suffix later)
                (members that rfl)).bind fun last _ => ?_
              split
              · refine .guard (ensures_fail _ _ rfl) fun _ => ?_
                exact onward _
              · exact ensures_fail _ _ rfl
        · exact onward _

theorem ensures_readClass (tolerant : Tolerates allowed all) (flags : Flags) :
    Stays allowed all (readClass flags) := by
  refine ensures_position.bind fun _ _ => (ensures_accept _).bind fun _ _ => ?_
  refine .look fun state within => ?_
  exact (ensures_readClassItems (tolerant.of_suffix within) _ _ (Nat.lt_succ_self _)).bind
    fun _ _ => .done _

theorem ensures_readCounts (tolerant : Tolerates allowed all) : Stays allowed all readCounts := by
  refine Ensures.get.bind fun start within => ensures_peek.bind fun _ _ => ?_
  split
  · exact .done _
  · refine (ensures_takeUpTo isAsciiDigit _).bind fun low lowTaken => ?_
    have digits : Ensures allowed all
        (fun high => high.map .plain <:+: all ∧ ∀ digit ∈ high, isAsciiDigit digit = true)
        (takeUpTo isAsciiDigit start.left.length) :=
      (ensures_takeUpTo isAsciiDigit _).weaken fun _ taken => ⟨taken.1, taken.2.1⟩
    refine (ensures_accept _).bind fun _ _ => ?_
    refine .either digits (.pure ⟨lowTaken.1, lowTaken.2.1⟩) fun high highTaken => ?_
    refine (ensures_accept _).bind fun _ _ => ?_
    split
    · have few := tolerant.short_of_infix lowTaken.1 lowTaken.2.1
      refine (ensures_checkCount lowTaken.2.1 few).bind fun least _ => ?_
      have few := tolerant.short_of_infix highTaken.1 highTaken.2
      refine (ensures_checkCount highTaken.2 few).bind fun most _ => ?_
      simp only
      split
      · refine .guard (.malformed _ _ rfl) fun _ => ?_
        exact .done _
      · exact .done _
    · refine Ensures.bind (.set ?_) fun _ _ => .done _
      exact within

theorem ensures_readRepeat (tolerant : Tolerates allowed all) (sign : Char) :
    Stays allowed all (readRepeat sign) := by
  unfold readRepeat
  split
  · exact .done _
  · exact .done _
  · exact .done _
  · exact ensures_readCounts tolerant

theorem ensures_readGreed : Stays allowed all readGreed := by
  refine (ensures_accept _).bind fun _ _ => ?_
  split
  · exact .done _
  · refine (ensures_accept _).bind fun _ _ => ?_
    split <;> exact .done _

theorem ensures_repeatLast (signPosition : Nat) (parts : List Part) (least : Nat)
    (most : Option Nat) : Stays allowed all (repeatLast signPosition parts least most) := by
  cases parts with
  | nil => exact .malformed _ _ rfl
  | cons part earlier =>
      unfold repeatLast
      refine .guard (.malformed _ _ rfl) fun _ => ?_
      refine .guard (.malformed _ _ rfl) fun _ => ?_
      exact ensures_readGreed.bind fun _ _ => .done _

end Parts

/-! ### Parentheses -/

section Forms

variable {allowed : PatternError → Prop} [AllowsFaultsOfText allowed] {all : List Token}

theorem isOfText_flagFault (expected : String) (token : Token) :
    (flagFault expected token).isOfText = true := by
  rw [flagFault]
  split <;> rfl

theorem ensures_readFlagsOn {fuel : Nat} (flag : Flag) (earlier : List Flag)
    (enough : all.length < fuel) : Stays allowed all (readFlagsOn fuel flag earlier) := by
  induction fuel generalizing all flag earlier with
  | zero => exact absurd enough (Nat.not_lt_zero _)
  | succ fuel inductionHypothesis =>
      unfold readFlagsOn
      refine .guard (ensures_fail _ _ rfl) fun _ => .guard (ensures_fail _ _ rfl) fun _ => ?_
      refine ensures_next_bind (ensures_fail _ _ rfl) fun token rest within => ?_
      simp only
      split
      · exact .done _
      · exact .done _
      · exact .done _
      · split
        · exact inductionHypothesis _ _ (length_lt_of_behind within enough)
        · exact ensures_fail _ _ (isOfText_flagFault _ _)

theorem ensures_readFlagsOff {fuel : Nat} (flag : Flag) (earlier : List Flag)
    (enough : all.length < fuel) : Stays allowed all (readFlagsOff fuel flag earlier) := by
  induction fuel generalizing all flag earlier with
  | zero => exact absurd enough (Nat.not_lt_zero _)
  | succ fuel inductionHypothesis =>
      unfold readFlagsOff
      refine .guard (ensures_fail _ _ rfl) fun _ => ?_
      refine ensures_next_bind (ensures_fail _ _ rfl) fun token rest within => ?_
      simp only
      split
      · exact .done _
      · split
        · exact inductionHypothesis _ _ (length_lt_of_behind within enough)
        · exact ensures_fail _ _ (isOfText_flagFault _ _)

theorem ensures_readFlags (first : Token) : Stays allowed all (readFlags first) := by
  refine .look fun state _ => ?_
  extract_lets fuel finish
  have enough : state.left.length < fuel := Nat.lt_add_of_pos_right (by decide)
  have finishes (on : List Flag) (stop : Char) :
      Stays allowed state.left (finish (on, stop)) := by
    simp only [finish]
    split
    · refine Ensures.bind (.edit fun _ => rfl) fun _ _ => ?_
      exact .done _
    · refine .guard (ensures_fail _ _ rfl) fun _ => ?_
      split
      · refine ensures_next.bind fun found _ => ?_
        split
        · exact ensures_fail_bind _ _ _ rfl
        · split
          · refine (ensures_readFlagsOff _ _ enough).bind fun off _ => ?_
            refine .guard (ensures_fail _ _ rfl) fun _ => .guard (ensures_fail _ _ rfl) fun _ => ?_
            exact .done _
          · exact ensures_fail_bind _ _ _ (isOfText_flagFault _ _)
      · refine (Ensures.done _).bind fun off _ => ?_
        refine .guard (ensures_fail _ _ rfl) fun _ => .guard (ensures_fail _ _ rfl) fun _ => ?_
        exact .done _
  split
  · exact (ensures_readFlagsOn _ _ enough).bind fun read _ => finishes read.1 read.2
  · exact (Ensures.done _).bind fun read _ => finishes read.1 read.2

theorem ensures_skipComment (opening : Nat) {fuel : Nat} (enough : all.length < fuel) :
    Stays allowed all (skipComment opening fuel) := by
  induction fuel generalizing all with
  | zero => exact absurd enough (Nat.not_lt_zero _)
  | succ fuel inductionHypothesis =>
      refine ensures_next_bind (.malformed _ _ rfl) fun token rest within => ?_
      simp only
      split
      · exact .done _
      · exact inductionHypothesis (length_lt_of_behind within enough)

theorem ensures_skipLine (fuel : Nat) : Stays allowed all (skipLine fuel) := by
  induction fuel with
  | zero => exact .done _
  | succ fuel inductionHypothesis =>
      refine ensures_next.bind fun found _ => ?_
      split
      · exact .done _
      · split
        · exact .done _
        · exact inductionHypothesis

theorem ensures_closeParenthesis (opening : Nat) :
    Stays allowed all (closeParenthesis opening) := by
  refine (ensures_accept _).bind fun _ _ => ?_
  split
  · exact .done _
  · exact .malformed _ _ rfl

theorem ensures_readCondition : Stays allowed all readCondition := by
  refine (ensures_nameUntil _ _).bind fun name _ => ?_
  extract_lets text finish
  have finishes (index : Nat) : Stays allowed all (finish index) :=
    (ensures_checkLookbehind index).bind fun _ _ => .done _
  split
  · refine Ensures.get.bind fun state _ => ?_
    split
    · exact (Ensures.done _).bind fun index _ => finishes index
    · exact ensures_fail_bind _ _ _ rfl
  · split
    · exact ensures_fail_bind _ _ _ rfl
    · refine .guard (ensures_fail _ _ rfl) fun _ => .guard (ensures_fail _ _ rfl) fun _ => ?_
      refine ensures_position.bind fun _ _ => Ensures.bind (.edit fun state => ?_) fun _ _ => ?_
      · split <;> rfl
      · exact (Ensures.done _).bind fun index _ => finishes index

theorem ensures_readNamedReference (flags : Flags) :
    Stays allowed all (readNamedReference flags) := by
  refine (ensures_nameUntil _ _).bind fun name _ => (ensures_checkName name).bind fun _ _ => ?_
  refine Ensures.get.bind fun state _ => ?_
  split
  · exact ensures_fail _ _ rfl
  · refine (ensures_isClosed _).bind fun _ _ => .require (ensures_fail _ _ rfl) fun _ => ?_
    exact (ensures_checkLookbehind _).bind fun _ _ => ensures_reference _ _

theorem ensures_readForm : Stays allowed all readForm := by
  refine (ensures_accept _).bind fun _ _ => ?_
  split
  case isFalse => exact .done _
  refine ensures_next.bind fun found _ => ?_
  split
  · exact ensures_fail _ _ rfl
  split
  · refine (ensures_accept _).bind fun _ _ => ?_
    split
    · refine (ensures_nameUntil _ _).bind fun name _ => ?_
      exact (ensures_checkName name).bind fun _ _ => .done _
    · refine (ensures_accept _).bind fun _ _ => ?_
      split
      · exact .done _
      · refine ensures_next.bind fun found _ => ?_
        split <;> exact ensures_fail _ _ rfl
  · exact .done _
  · exact .done _
  · exact .done _
  · exact .done _
  · refine ensures_next.bind fun found _ => ?_
    split
    · exact ensures_fail _ _ rfl
    · exact .done _
    · exact .done _
    · exact ensures_fail _ _ rfl
  · exact .done _
  · exact .done _
  · split
    · refine (ensures_readFlags _).bind fun scope _ => ?_
      split <;> exact .done _
    · exact ensures_fail _ _ rfl

end Forms

end ForwardedClient.Pattern
