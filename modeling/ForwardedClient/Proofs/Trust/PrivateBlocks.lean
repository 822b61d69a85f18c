import ForwardedClient.Proofs.Address.HostLiteral
import ForwardedClient.Proofs.Pattern.Language
import ForwardedClient.Proofs.Pattern.Room
import ForwardedClient.Trust.Rules
import Mathlib.Algebra.Ring.Nat

/-!
Contract: which addresses the default pattern counts as internal.

Owns: IPv4 addresses and blocks of them as numbers, the tree that the default pattern is read into,
and that it accepts, of all IPv4 addresses, exactly those of the private, link-local and loopback
blocks, and of all other texts only groups of digits between full stops and the two spellings of
the IPv6 loopback address.

Does not own: patterns that are configured.
-/

namespace ForwardedClient.Trust

open ForwardedClient.Address
open ForwardedClient.Pattern
open ForwardedClient.Pattern.Node
open ForwardedClient.Text

/-! ### Addresses and blocks -/

abbrev Octet := Fin 256

/-- An IPv4 address by its four octets. -/
structure Ipv4 where
  first : Octet
  second : Octet
  third : Octet
  fourth : Octet
deriving DecidableEq

/-- An octet in decimal digits without leading zeros. -/
def digits (octet : Octet) : List Char := Nat.toDigits 10 octet.val

namespace Ipv4

def octets (address : Ipv4) : List Octet :=
  [address.first, address.second, address.third, address.fourth]

def text (address : Ipv4) : String :=
  String.intercalate "." (address.octets.map fun octet => toString octet.val)

/-- The address as a number of 32 bits. -/
def value (address : Ipv4) : Nat :=
  address.octets.foldl (fun value octet => 256 * value + octet.val) 0

theorem toList_text (address : Ipv4) :
    address.text.toList =
      digits address.first ++ '.' :: (digits address.second ++ '.' ::
        (digits address.third ++ '.' :: digits address.fourth)) := by
  simp [text, octets, digits, String.intercalate_cons_cons, Nat.toString_eq_repr, Nat.toList_repr]

theorem value_eq (address : Ipv4) :
    address.value = 256 * (256 * (256 * address.first.val + address.second.val) +
      address.third.val) + address.fourth.val := by
  simp [value, octets]

theorem value_div_24 (address : Ipv4) : address.value / 2 ^ 24 = address.first.val := by
  have bounds := And.intro address.second.isLt (And.intro address.third.isLt address.fourth.isLt)
  rw [value_eq]
  omega

theorem value_div_20 (address : Ipv4) :
    address.value / 2 ^ 20 = 16 * address.first.val + address.second.val / 16 := by
  have bounds := And.intro address.second.isLt (And.intro address.third.isLt address.fourth.isLt)
  rw [value_eq]
  omega

theorem value_div_16 (address : Ipv4) :
    address.value / 2 ^ 16 = 256 * address.first.val + address.second.val := by
  have bounds := And.intro address.second.isLt (And.intro address.third.isLt address.fourth.isLt)
  rw [value_eq]
  omega

end Ipv4

/-- The addresses that share a number of leading bits with some address. -/
structure Ipv4Block where
  network : Ipv4
  length : Nat

namespace Ipv4Block

def Contains (block : Ipv4Block) (address : Ipv4) : Prop :=
  address.value / 2 ^ (32 - block.length) = block.network.value / 2 ^ (32 - block.length)

instance (block : Ipv4Block) (address : Ipv4) : Decidable (block.Contains address) :=
  inferInstanceAs (Decidable (_ = _))

variable {block : Ipv4Block} {address : Ipv4}

theorem contains_iff_of_8 (isLength : block.length = 8) :
    block.Contains address ↔ address.first = block.network.first := by
  rw [Contains, isLength]
  show address.value / 2 ^ 24 = block.network.value / 2 ^ 24 ↔ _
  rw [Ipv4.value_div_24, Ipv4.value_div_24, Fin.ext_iff]

theorem contains_iff_of_12 (isLength : block.length = 12) :
    block.Contains address ↔
      address.first = block.network.first ∧
        address.second.val / 16 = block.network.second.val / 16 := by
  have bounds := And.intro address.second.isLt block.network.second.isLt
  rw [Contains, isLength]
  show address.value / 2 ^ 20 = block.network.value / 2 ^ 20 ↔ _
  rw [Ipv4.value_div_20, Ipv4.value_div_20, Fin.ext_iff]
  omega

theorem contains_iff_of_16 (isLength : block.length = 16) :
    block.Contains address ↔
      address.first = block.network.first ∧ address.second = block.network.second := by
  have bounds := And.intro address.second.isLt block.network.second.isLt
  rw [Contains, isLength]
  show address.value / 2 ^ 16 = block.network.value / 2 ^ 16 ↔ _
  rw [Ipv4.value_div_16, Ipv4.value_div_16, Fin.ext_iff, Fin.ext_iff]
  omega

end Ipv4Block

/-- The blocks of private, link-local and loopback addresses. -/
def privateBlocks : List Ipv4Block :=
  [⟨⟨10, 0, 0, 0⟩, 8⟩, ⟨⟨192, 168, 0, 0⟩, 16⟩, ⟨⟨169, 254, 0, 0⟩, 16⟩, ⟨⟨127, 0, 0, 0⟩, 8⟩,
    ⟨⟨172, 16, 0, 0⟩, 12⟩]

/-- The spellings of the IPv6 loopback address that count as internal. -/
def ipv6Loopbacks : List String := ["0:0:0:0:0:0:0:1", "::1"]

/-- One to three decimal digits of any script. -/
structure IsDigitGroup (group : List Char) : Prop where
  filled : 1 ≤ group.length
  short : group.length ≤ 3
  digits : ∀ char ∈ group, isDecimalDigit char = true

/-- Four groups of decimal digits between full stops. -/
def IsDottedDigits (text : String) : Prop :=
  ∃ first second third fourth,
    text.toList = first ++ '.' :: (second ++ '.' :: (third ++ '.' :: fourth)) ∧
    IsDigitGroup first ∧ IsDigitGroup second ∧ IsDigitGroup third ∧ IsDigitGroup fourth

/-! ### The tree of the default pattern -/

/-- A text, character by character. -/
def literal (text : List Char) : List Node := text.map fun char => .one (.single {} char.toNat)

/-- A digit between two others. -/
def digitBetween (low high : Char) : Node := .one { items := [.range low.toNat high.toNat] }

/-- One to three digits. -/
def anyGroup : List Node :=
  [.repeated .greedy 1 (some 3) (.one { items := [.ofKind .digit false] })]

/-- Four groups between full stops. -/
def dotted (first second third fourth : List Node) : Node :=
  .ofList (first ++ (literal ['.'] ++ (second ++ (literal ['.'] ++
    (third ++ (literal ['.'] ++ fourth))))))

/-- The first two groups of the alternatives for IPv4. -/
def privateGroups : List (List Node × List Node) :=
  [(literal (digits 10), anyGroup), (literal (digits 192), literal (digits 168)),
    (literal (digits 169), literal (digits 254)), (literal (digits 127), anyGroup),
    (literal (digits 172), literal ['1'] ++ [digitBetween '6' '9']),
    (literal (digits 172), literal ['2'] ++ [digitBetween '0' '9']),
    (literal (digits 172), literal ['3'] ++ [digitBetween '0' '1'])]

def loopbackTree : Node :=
  .alt (.ofList (literal "0:0:0:0:0:0:0:1".toList)) (.ofList (literal "::1".toList))

def privateTree : Node :=
  privateGroups.foldr
    (fun groups others => .alt (dotted groups.1 groups.2 anyGroup anyGroup) others) loopbackTree

/-- The default pattern has no parentheses, so that it needs little room: it is a choice of
repetitions. -/
theorem readWithin_defaultInternal : Node.readWithin 3 defaultInternal = .ok privateTree :=
  eq_ok_of_toOption (by decide +kernel)

/-! ### Texts of groups -/

theorem takes_literal_iff {text taken : List Char} :
    (ofList (literal text)).Takes taken ↔ taken = text := by
  induction text generalizing taken with
  | nil => exact takes_empty_iff
  | cons char rest inductionHypothesis =>
      rw [show literal (char :: rest) = [.one (.single {} char.toNat)] ++ literal rest from rfl,
        takes_ofList_append_iff]
      simp only [ofList, takes_single_iff, inductionHypothesis]
      constructor
      · rintro ⟨_, _, rfl, rfl, rfl⟩
        rfl
      · rintro rfl
        exact ⟨[char], rest, rfl, rfl, rfl⟩

theorem takes_anyGroup_iff {taken : List Char} :
    (ofList anyGroup).Takes taken ↔ IsDigitGroup taken := by
  have accepts : ∀ char, CharClass.contains { items := [.ofKind .digit false] } char =
      isDecimalDigit char := by
    intro char
    simp [CharClass.contains, ClassItem.holds, CharKind.holds]
  refine takes_repeated_one_iff.trans ?_
  simp only [accepts, Option.mem_some_iff, forall_eq']
  constructor
  · rintro ⟨filled, short, digits⟩
    exact ⟨filled, short, digits⟩
  · rintro ⟨filled, short, digits⟩
    exact ⟨filled, short, digits⟩

theorem takes_dotted_iff {first second third fourth : List Node} {taken : List Char} :
    (dotted first second third fourth).Takes taken ↔
      ∃ w x y z, taken = w ++ '.' :: (x ++ '.' :: (y ++ '.' :: z)) ∧ (ofList first).Takes w ∧
        (ofList second).Takes x ∧ (ofList third).Takes y ∧ (ofList fourth).Takes z := by
  have stop : ∀ {nodes : List Node} {taken : List Char},
      (ofList (literal ['.'] ++ nodes)).Takes taken ↔
        ∃ later, taken = '.' :: later ∧ (ofList nodes).Takes later := by
    intro nodes taken
    rw [takes_ofList_append_iff]
    simp only [takes_literal_iff]
    constructor
    · rintro ⟨_, later, rfl, rfl, takes⟩
      exact ⟨later, rfl, takes⟩
    · rintro ⟨later, rfl, takes⟩
      exact ⟨['.'], later, rfl, rfl, takes⟩
  have parts (front : List Node) {back : List Node} {taken : List Char} :
      (ofList (front ++ back)).Takes taken ↔ ∃ left right, taken = left ++ right ∧
        (ofList front).Takes left ∧ (ofList back).Takes right := takes_ofList_append_iff
  simp only [dotted, parts first, parts second, parts third, stop]
  constructor
  · rintro ⟨w, _, rfl, takesFirst, _, rfl, x, _, rfl, takesSecond, _, rfl, y, _, rfl, takesThird,
      z, rfl, takesFourth⟩
    exact ⟨w, x, y, z, rfl, takesFirst, takesSecond, takesThird, takesFourth⟩
  · rintro ⟨w, x, y, z, rfl, takesFirst, takesSecond, takesThird, takesFourth⟩
    exact ⟨w, _, rfl, takesFirst, _, rfl, x, _, rfl, takesSecond, _, rfl, y, _, rfl, takesThird, z,
      rfl, takesFourth⟩

theorem takes_digitBetween_iff {first low high : Char} {taken : List Char} :
    (ofList (literal [first] ++ [digitBetween low high])).Takes taken ↔
      ∃ char, taken = [first, char] ∧ low.toNat ≤ char.toNat ∧ char.toNat ≤ high.toNat := by
  have contains : ∀ char, CharClass.contains { items := [.range low.toNat high.toNat] } char =
      (decide (low.toNat ≤ char.toNat) && decide (char.toNat ≤ high.toNat)) := by
    intro char
    simp [CharClass.contains, ClassItem.holds, CharMode.variants]
  rw [takes_ofList_append_iff]
  constructor
  · rintro ⟨left, right, rfl, takesFirst, takesDigit⟩
    rw [takes_literal_iff.mp takesFirst]
    obtain ⟨char, rfl, accepted⟩ := takes_one_iff.mp takesDigit
    rw [contains, Bool.and_eq_true, decide_eq_true_eq, decide_eq_true_eq] at accepted
    exact ⟨char, rfl, accepted⟩
  · rintro ⟨char, rfl, bounds⟩
    refine ⟨[first], [char], rfl, takes_literal_iff.mpr rfl, takes_one_iff.mpr ⟨char, rfl, ?_⟩⟩
    rw [contains, Bool.and_eq_true, decide_eq_true_eq, decide_eq_true_eq]
    exact bounds

/-! ### Groups of digits -/

theorem isDigitGroup_digits (octet : Octet) : IsDigitGroup (digits octet) := by
  refine ⟨List.length_pos_iff.mpr Nat.toDigits_ne_nil, ?_, fun char member => ?_⟩
  · rw [digits, Nat.length_toDigits_le_iff (by decide) (by decide)]
    have small := octet.isLt
    omega
  · exact isDecimalDigit_of_isAsciiDigit char (isAsciiDigit_of_mem_toDigits member)

theorem IsDigitGroup.noStop {group : List Char} (digits : IsDigitGroup group) : '.' ∉ group := by
  intro member
  exact absurd (digits.digits '.' member) (by decide)

theorem digits_inj {first second : Octet} : digits first = digits second ↔ first = second := by
  refine ⟨fun same => Fin.ext ?_, fun same => same ▸ rfl⟩
  have decoded := congrArg (Nat.ofDigitChars 10 · 0) same
  simpa only [digits, Nat.ofDigitChars_ten_toDigits] using decoded

/-- Two digits tell an octet. -/
theorem val_of_digits {octet : Octet} {tens units : Char} (spelled : digits octet = [tens, units]) :
    octet.val = 10 * (tens.toNat - '0'.toNat) + (units.toNat - '0'.toNat) := by
  have decoded := congrArg (Nat.ofDigitChars 10 · 0) spelled
  simpa only [digits, Nat.ofDigitChars_ten_toDigits, Nat.ofDigitChars_cons, Nat.ofDigitChars_nil,
    Nat.mul_zero, Nat.zero_add] using decoded

theorem digits_of_two {octet : Octet} (least : 10 ≤ octet.val) (most : octet.val < 100) :
    digits octet = [Nat.digitChar (octet.val / 10), Nat.digitChar (octet.val % 10)] := by
  rw [digits, Nat.toDigits_of_base_le (by decide) least, Nat.toDigits_of_lt_base (by omega)]
  rfl

theorem toNat_digitChar {digit : Nat} (small : digit < 10) :
    digit.digitChar.toNat = 0x30 + digit := by
  have checked : ∀ digit < 10, (Nat.digitChar digit).toNat = 0x30 + digit := by decide
  exact checked digit small

theorem isDigitGroup_of_takes {group taken : List Char} (digits : IsDigitGroup group)
    (takes : (ofList (literal group)).Takes taken) : IsDigitGroup taken :=
  takes_literal_iff.mp takes ▸ digits

theorem isDigitGroup_of_between {first low high : Char} {taken : List Char}
    (isDigit : isDecimalDigit first = true) (least : 0x30 ≤ low.toNat) (most : high.toNat ≤ 0x39)
    (takes : (ofList (literal [first] ++ [digitBetween low high])).Takes taken) :
    IsDigitGroup taken := by
  obtain ⟨char, rfl, above, below⟩ := takes_digitBetween_iff.mp takes
  refine ⟨by simp, by simp, fun other member => ?_⟩
  rcases List.mem_cons.mp member with same | last
  · exact same ▸ isDigit
  · rw [List.mem_singleton.mp last]
    refine isDecimalDigit_of_isAsciiDigit char ?_
    rw [isAsciiDigit, Bool.and_eq_true, decide_eq_true_eq, decide_eq_true_eq]
    exact ⟨Nat.le_trans least above, Nat.le_trans below most⟩

/-- The alternatives for IPv4 take groups of digits. -/
theorem isDigitGroups_of_mem {groups : List Node × List Node} (member : groups ∈ privateGroups) :
    (∀ taken, (ofList groups.1).Takes taken → IsDigitGroup taken) ∧
      ∀ taken, (ofList groups.2).Takes taken → IsDigitGroup taken := by
  have number (octet : Octet) : ∀ taken, (ofList (literal (digits octet))).Takes taken →
      IsDigitGroup taken := fun _ takes => isDigitGroup_of_takes (isDigitGroup_digits octet) takes
  have any : ∀ taken, (ofList anyGroup).Takes taken → IsDigitGroup taken :=
    fun _ takes => takes_anyGroup_iff.mp takes
  simp only [privateGroups, List.mem_cons, List.not_mem_nil, or_false] at member
  rcases member with rfl | rfl | rfl | rfl | rfl | rfl | rfl
  · exact ⟨number 10, any⟩
  · exact ⟨number 192, number 168⟩
  · exact ⟨number 169, number 254⟩
  · exact ⟨number 127, any⟩
  · exact ⟨number 172, fun _ => isDigitGroup_of_between (by decide) (by decide) (by decide)⟩
  · exact ⟨number 172, fun _ => isDigitGroup_of_between (by decide) (by decide) (by decide)⟩
  · exact ⟨number 172, fun _ => isDigitGroup_of_between (by decide) (by decide) (by decide)⟩

/-! ### What the tree accepts -/

theorem isPlain_literal (text : List Char) : (ofList (literal text)).IsPlain := by
  induction text with
  | nil => exact .empty
  | cons char rest inductionHypothesis =>
      have first : (ofList [.one (.single {} char.toNat)]).IsPlain := .one _
      exact isPlain_ofList_append first inductionHypothesis

theorem isPlain_between (first low high : Char) :
    (ofList (literal [first] ++ [digitBetween low high])).IsPlain :=
  isPlain_ofList_append (isPlain_literal [first]) (.one _)

theorem isPlain_anyGroup : (ofList anyGroup).IsPlain :=
  .repeated (.one _) not_takes_one_nil (by simp)

theorem isPlain_dotted {groups : List Node × List Node} (member : groups ∈ privateGroups) :
    (dotted groups.1 groups.2 anyGroup anyGroup).IsPlain := by
  have ends : (ofList groups.1).IsPlain ∧ (ofList groups.2).IsPlain := by
    simp only [privateGroups, List.mem_cons, List.not_mem_nil, or_false] at member
    rcases member with rfl | rfl | rfl | rfl | rfl | rfl | rfl
    · exact ⟨isPlain_literal _, isPlain_anyGroup⟩
    · exact ⟨isPlain_literal _, isPlain_literal _⟩
    · exact ⟨isPlain_literal _, isPlain_literal _⟩
    · exact ⟨isPlain_literal _, isPlain_anyGroup⟩
    · exact ⟨isPlain_literal _, isPlain_between _ _ _⟩
    · exact ⟨isPlain_literal _, isPlain_between _ _ _⟩
    · exact ⟨isPlain_literal _, isPlain_between _ _ _⟩
  have stop := isPlain_literal ['.']
  exact isPlain_ofList_append ends.1 (isPlain_ofList_append stop (isPlain_ofList_append ends.2
    (isPlain_ofList_append stop (isPlain_ofList_append isPlain_anyGroup
      (isPlain_ofList_append stop isPlain_anyGroup)))))

theorem isPlain_privateTree : privateTree.IsPlain := by
  have alternatives (list : List (List Node × List Node))
      (plain : ∀ groups ∈ list, (dotted groups.1 groups.2 anyGroup anyGroup).IsPlain) :
      (list.foldr (fun groups others => .alt (dotted groups.1 groups.2 anyGroup anyGroup) others)
        loopbackTree).IsPlain := by
    induction list with
    | nil => exact .alt (isPlain_literal _) (isPlain_literal _)
    | cons groups rest inductionHypothesis =>
        exact .alt (plain groups List.mem_cons_self)
          (inductionHypothesis fun other member => plain other (List.mem_cons_of_mem groups member))
  exact alternatives privateGroups fun _ member => isPlain_dotted member

theorem takes_privateTree_iff {taken : List Char} :
    privateTree.Takes taken ↔
      (∃ groups ∈ privateGroups, (dotted groups.1 groups.2 anyGroup anyGroup).Takes taken) ∨
        taken ∈ ipv6Loopbacks.map String.toList := by
  have loopback : loopbackTree.Takes taken ↔ taken ∈ ipv6Loopbacks.map String.toList := by
    rw [loopbackTree, takes_alt_iff, takes_literal_iff, takes_literal_iff]
    simp only [ipv6Loopbacks, List.map_cons, List.map_nil, List.mem_cons, List.not_mem_nil,
      or_false]
  rw [privateTree, ← loopback]
  induction privateGroups with
  | nil => simp
  | cons groups rest inductionHypothesis =>
      refine takes_alt_iff.trans ((or_congr_right inductionHypothesis).trans ?_)
      simp only [List.mem_cons, exists_eq_or_imp, or_assoc]

/-- The first group up to a full stop is determined by the text. -/
theorem eq_of_append_stop {left right front back : List Char} (noStop : '.' ∉ left)
    (noStopEither : '.' ∉ right) (same : left ++ '.' :: front = right ++ '.' :: back) :
    left = right ∧ front = back := by
  have cut (before after : List Char) (absent : '.' ∉ before) :
      partitionAt (· == '.') (before ++ '.' :: after) = (before, some after) :=
    partitionAt_append (by decide) (fun char member => by
      rw [beq_eq_false_iff_ne]
      rintro rfl
      exact absent member) after
  have cuts := congrArg (partitionAt (· == '.')) same
  rw [cut left front noStop, cut right back noStopEither] at cuts
  simpa using cuts

/-- An alternative takes an address if its first two octets are those of the alternative. -/
theorem takes_dotted_address_iff (address : Ipv4) {groups : List Node × List Node}
    (member : groups ∈ privateGroups) :
    (dotted groups.1 groups.2 anyGroup anyGroup).Takes address.text.toList ↔
      (ofList groups.1).Takes (digits address.first) ∧
        (ofList groups.2).Takes (digits address.second) := by
  obtain ⟨firstDigits, secondDigits⟩ := isDigitGroups_of_mem member
  rw [takes_dotted_iff, Ipv4.toList_text]
  constructor
  · rintro ⟨first, second, third, fourth, same, takesFirst, takesSecond, -, -⟩
    obtain ⟨sameFirst, later⟩ := eq_of_append_stop (isDigitGroup_digits _).noStop
      (firstDigits first takesFirst).noStop same
    obtain ⟨sameSecond, -⟩ := eq_of_append_stop (isDigitGroup_digits _).noStop
      (secondDigits second takesSecond).noStop later
    rw [sameFirst, sameSecond]
    exact ⟨takesFirst, takesSecond⟩
  · rintro ⟨takesFirst, takesSecond⟩
    exact ⟨_, _, _, _, rfl, takesFirst, takesSecond,
      takes_anyGroup_iff.mpr (isDigitGroup_digits address.third),
      takes_anyGroup_iff.mpr (isDigitGroup_digits address.fourth)⟩

theorem takes_number_iff {number octet : Octet} :
    (ofList (literal (digits number))).Takes (digits octet) ↔ octet = number :=
  takes_literal_iff.trans digits_inj

/-- The three alternatives for 172 take the second octets from 16 to 31. -/
theorem takes_between_iff (octet : Octet) :
    (ofList (literal ['1'] ++ [digitBetween '6' '9'])).Takes (digits octet) ∨
        (ofList (literal ['2'] ++ [digitBetween '0' '9'])).Takes (digits octet) ∨
        (ofList (literal ['3'] ++ [digitBetween '0' '1'])).Takes (digits octet) ↔
      16 ≤ octet.val ∧ octet.val ≤ 31 := by
  simp only [takes_digitBetween_iff, Char.reduceToNat]
  constructor
  · rintro (⟨units, spelled, low, high⟩ | ⟨units, spelled, low, high⟩ | ⟨units, spelled, low, high⟩)
    all_goals
      have value := val_of_digits spelled
      simp only [Char.reduceToNat] at value
      omega
  · rintro ⟨least, most⟩
    have tens : octet.val / 10 = 1 ∨ octet.val / 10 = 2 ∨ octet.val / 10 = 3 := by omega
    have units := toNat_digitChar (Nat.mod_lt octet.val (show 0 < 10 by decide))
    have spelled : digits octet = _ := digits_of_two (by omega) (by omega)
    rcases tens with tens | tens | tens <;> rw [tens] at spelled
    · exact .inl ⟨_, spelled, by omega, by omega⟩
    · exact .inr (.inl ⟨_, spelled, by omega, by omega⟩)
    · exact .inr (.inr ⟨_, spelled, by omega, by omega⟩)

theorem exists_private_groups_iff {first second : Octet} :
    (∃ groups ∈ privateGroups, (ofList groups.1).Takes (digits first) ∧
        (ofList groups.2).Takes (digits second)) ↔
      first = 10 ∨ first = 192 ∧ second = 168 ∨ first = 169 ∧ second = 254 ∨ first = 127 ∨
        first = 172 ∧ 16 ≤ second.val ∧ second.val ≤ 31 := by
  have any (octet : Octet) : (ofList anyGroup).Takes (digits octet) :=
    takes_anyGroup_iff.mpr (isDigitGroup_digits octet)
  rw [← takes_between_iff]
  simp only [privateGroups, List.mem_cons, List.not_mem_nil, or_false, exists_eq_or_imp,
    exists_eq_left, takes_number_iff, any, and_true, and_or_left]

/-- Membership in the private blocks is told by the first two octets. -/
theorem exists_privateBlock_iff (address : Ipv4) :
    (∃ block ∈ privateBlocks, block.Contains address) ↔
      address.first = 10 ∨ address.first = 192 ∧ address.second = 168 ∨
        address.first = 169 ∧ address.second = 254 ∨ address.first = 127 ∨
        address.first = 172 ∧ 16 ≤ address.second.val ∧ address.second.val ≤ 31 := by
  have sixteen : address.second.val / 16 = 1 ↔
      16 ≤ address.second.val ∧ address.second.val ≤ 31 := by
    omega
  simp only [privateBlocks, List.mem_cons, List.not_mem_nil, or_false, exists_eq_or_imp,
    exists_eq_left, ← sixteen]
  exact or_congr (Ipv4Block.contains_iff_of_8 rfl) (or_congr (Ipv4Block.contains_iff_of_16 rfl)
    (or_congr (Ipv4Block.contains_iff_of_16 rfl) (or_congr (Ipv4Block.contains_iff_of_8 rfl)
      (Ipv4Block.contains_iff_of_12 rfl))))

/-! ### The default pattern -/

/-- The default pattern can be read, accepts an IPv4 address exactly if it lies in one of the
private, link-local and loopback blocks, and accepts no text but four groups of one to three
decimal digits between full stops and the spellings of the IPv6 loopback address. -/
theorem default_internal_is_private_blocks :
    ∃ rules, Rules.read (some defaultInternal) none = .ok rules ∧
      (∀ address : Ipv4, rules.isInternal address.text = true ↔
        ∃ block ∈ privateBlocks, block.Contains address) ∧
      ∀ text, ¬ IsDottedDigits text → text ∉ ipv6Loopbacks → rules.isInternal text = false := by
  have accepts (text : String) :
      Rules.isInternal ⟨some ⟨defaultInternal, privateTree⟩, none⟩ text = true ↔
        (∃ groups ∈ privateGroups,
          (dotted groups.1 groups.2 anyGroup anyGroup).Takes text.toList) ∨
        text ∈ ipv6Loopbacks := by
    refine (accepts_iff isPlain_privateTree text.toList).trans (takes_privateTree_iff.trans ?_)
    simp only [List.mem_map, String.toList_inj, exists_eq_right]
  refine ⟨⟨some ⟨defaultInternal, privateTree⟩, none⟩, ?read, fun address => ?blocks,
    fun text undotted foreign => ?others⟩
  case read =>
    have filled : ¬ defaultInternal.isEmpty = true := by decide +kernel
    have fits : Node.readWithin stackRoom defaultInternal = .ok privateTree :=
      readWithin_of_ok (by decide) readWithin_defaultInternal
    rw [Rules.read, AddressPattern.readOptional_of_reads filled fits]
    rfl
  case blocks =>
    rw [accepts, exists_privateBlock_iff, ← exists_private_groups_iff]
    constructor
    · rintro (⟨groups, member, takes⟩ | loopback)
      · exact ⟨groups, member, (takes_dotted_address_iff address member).mp takes⟩
      · have stop : '.' ∈ address.text.toList := by
          rw [Ipv4.toList_text]
          simp
        have noStop : ∀ text ∈ ipv6Loopbacks, '.' ∉ text.toList := by decide
        exact absurd stop (noStop address.text loopback)
    · rintro ⟨groups, member, takes⟩
      exact .inl ⟨groups, member, (takes_dotted_address_iff address member).mpr takes⟩
  case others =>
    rw [← Bool.not_eq_true, accepts]
    rintro (⟨groups, member, takes⟩ | loopback)
    · obtain ⟨firstDigits, secondDigits⟩ := isDigitGroups_of_mem member
      obtain ⟨first, second, third, fourth, split, takesFirst, takesSecond, takesThird,
        takesFourth⟩ := takes_dotted_iff.mp takes
      exact undotted ⟨first, second, third, fourth, split, firstDigits first takesFirst,
        secondDigits second takesSecond, takes_anyGroup_iff.mp takesThird,
        takes_anyGroup_iff.mp takesFourth⟩
    · exact foreign loopback

theorem IsDottedDigits.count_stop {text : String} (dotted : IsDottedDigits text) :
    text.toList.count '.' = 3 := by
  obtain ⟨first, second, third, fourth, split, isFirst, isSecond, isThird, isFourth⟩ := dotted
  have none (group : List Char) (digits : IsDigitGroup group) : group.count '.' = 0 :=
    List.count_eq_zero.mpr digits.noStop
  simp [split, List.count_append, none first isFirst, none second isSecond, none third isThird,
    none fourth isFourth]

/-- The last address of the block behind 172.16.0.0 is internal, the next address is not, and
neither is a name that begins with an internal address. -/
theorem block_edges_told_apart :
    ∃ rules, Rules.read (some defaultInternal) none = .ok rules ∧
      rules.isInternal "172.31.255.255" = true ∧ rules.isInternal "172.32.0.0" = false ∧
      ¬ IsDottedDigits "10.0.0.1.evil.com" ∧ "10.0.0.1.evil.com" ∉ ipv6Loopbacks ∧
      rules.isInternal "10.0.0.1.evil.com" = false := by
  obtain ⟨rules, read, blocks, others⟩ := default_internal_is_private_blocks
  have last : rules.isInternal (Ipv4.text ⟨172, 31, 255, 255⟩) = true :=
    (blocks ⟨172, 31, 255, 255⟩).mpr (by decide)
  have next : rules.isInternal (Ipv4.text ⟨172, 32, 0, 0⟩) = false := by
    rw [← Bool.not_eq_true, blocks ⟨172, 32, 0, 0⟩]
    decide
  have undotted : ¬ IsDottedDigits "10.0.0.1.evil.com" := by
    intro dotted
    exact absurd dotted.count_stop (by decide)
  have foreign : "10.0.0.1.evil.com" ∉ ipv6Loopbacks := by decide
  exact ⟨rules, read, last, next, undotted, foreign, others _ undotted foreign⟩

end ForwardedClient.Trust
