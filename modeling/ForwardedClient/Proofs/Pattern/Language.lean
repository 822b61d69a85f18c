import ForwardedClient.Pattern.Matcher
import ForwardedClient.Pattern.Reader

/-!
Contract: the texts that a plain tree takes.

Owns: `Takes`, the texts of a tree, told without a run; `IsPlain`, the trees of single characters,
sequences, alternatives and counted repetitions of what is never empty; and that the run of such a
tree finds a way through a text exactly if there is one.

Does not own: trees with groups, anchors or looks around them, whose run depends on more than the
text that they take.
-/

namespace ForwardedClient.Pattern

namespace Place

/-- The place behind a text that was taken. -/
def advance (place : Place) (taken remaining : List Char) : Place :=
  { place with
    before := taken.reverse ++ place.before
    offset := place.offset + taken.length
    after := remaining }

theorem advance_nil (place : Place) : place.advance [] place.after = place := rfl

theorem advance_advance (place : Place) (first second between remaining : List Char) :
    (place.advance first between).advance second remaining =
      place.advance (first ++ second) remaining := by
  simp [advance, Nat.add_assoc]

end Place

namespace Node

/-- A pattern is read into the tree that its reader finds. -/
theorem eq_ok_of_toOption {outcome : Except PatternError Node} {node : Node}
    (found : outcome.toOption = some node) : outcome = .ok node := by
  cases outcome with
  | ok other => exact congrArg Except.ok (Option.some.inj found)
  | error cause => cases found

/-- The texts of a tree. -/
inductive Takes : Node → List Char → Prop
  | empty : Takes .empty []
  | one {charClass : CharClass} {char : Char} (accepted : charClass.contains char = true) :
      Takes (.one charClass) [char]
  | seq {first second : Node} {front back : List Char} (taken : Takes first front)
      (later : Takes second back) : Takes (.seq first second) (front ++ back)
  | former {first second : Node} {text : List Char} (taken : Takes first text) :
      Takes (.alt first second) text
  | latter {first second : Node} {text : List Char} (taken : Takes second text) :
      Takes (.alt first second) text
  | repeated {least : Nat} {most : Option Nat} {body : Node} {turns : List (List Char)}
      (enough : least ≤ turns.length) (bounded : ∀ bound ∈ most, turns.length ≤ bound)
      (each : ∀ turn ∈ turns, Takes body turn) :
      Takes (.repeated .greedy least most body) turns.flatten

/-- Trees whose run depends on nothing but the text they take. -/
inductive IsPlain : Node → Prop
  | empty : IsPlain .empty
  | one (charClass : CharClass) : IsPlain (.one charClass)
  | seq {first second : Node} (front : IsPlain first) (back : IsPlain second) :
      IsPlain (.seq first second)
  | alt {first second : Node} (former : IsPlain first) (latter : IsPlain second) :
      IsPlain (.alt first second)
  | repeated {least : Nat} {most : Option Nat} {body : Node} (plain : IsPlain body)
      (filled : ¬ body.Takes []) (ordered : ∀ bound ∈ most, least ≤ bound) :
      IsPlain (.repeated .greedy least most body)

section Texts

variable {first second body : Node} {charClass : CharClass} {text : List Char} {least : Nat}
  {most : Option Nat}

theorem takes_empty_iff : Takes .empty text ↔ text = [] := by
  constructor
  · rintro ⟨⟩
    rfl
  · rintro rfl
    exact .empty

theorem takes_one_iff :
    Takes (.one charClass) text ↔ ∃ char, text = [char] ∧ charClass.contains char = true := by
  constructor
  · rintro (_ | accepted)
    exact ⟨_, rfl, accepted⟩
  · rintro ⟨char, rfl, accepted⟩
    exact .one accepted

theorem takes_single_iff {char : Char} :
    Takes (.one (.single {} char.toNat)) text ↔ text = [char] := by
  refine takes_one_iff.trans ⟨?_, ?_⟩
  · rintro ⟨other, rfl, accepted⟩
    rw [CharClass.contains_single, decide_eq_true_eq] at accepted
    rw [Char.toNat_inj.mp accepted]
  · rintro rfl
    exact ⟨char, rfl, by rw [CharClass.contains_single, decide_eq_true_eq]⟩

theorem not_takes_one_nil : ¬ Takes (.one charClass) [] := by
  rintro ⟨⟩

theorem takes_seq_iff :
    Takes (.seq first second) text ↔
      ∃ front back, text = front ++ back ∧ first.Takes front ∧ second.Takes back := by
  constructor
  · intro takes
    cases takes with
    | seq taken later => exact ⟨_, _, rfl, taken, later⟩
  · rintro ⟨front, back, rfl, taken, later⟩
    exact .seq taken later

theorem takes_alt_iff : Takes (.alt first second) text ↔ first.Takes text ∨ second.Takes text := by
  constructor
  · intro takes
    cases takes with
    | former taken => exact .inl taken
    | latter taken => exact .inr taken
  · rintro (taken | taken)
    · exact .former taken
    · exact .latter taken

theorem takes_repeated_iff :
    Takes (.repeated .greedy least most body) text ↔
      ∃ turns : List (List Char), text = turns.flatten ∧ least ≤ turns.length ∧
        (∀ bound ∈ most, turns.length ≤ bound) ∧ ∀ turn ∈ turns, body.Takes turn := by
  constructor
  · intro takes
    cases takes with
    | repeated enough bounded each => exact ⟨_, rfl, enough, bounded, each⟩
  · rintro ⟨turns, rfl, enough, bounded, each⟩
    exact .repeated enough bounded each

/-- Each turn of a repeated class takes one character. -/
theorem takes_repeated_one_iff :
    Takes (.repeated .greedy least most (.one charClass)) text ↔
      least ≤ text.length ∧ (∀ bound ∈ most, text.length ≤ bound) ∧
        ∀ char ∈ text, charClass.contains char = true := by
  rw [takes_repeated_iff]
  constructor
  · rintro ⟨turns, rfl, enough, bounded, each⟩
    have spelled : turns.flatten.length = turns.length := by
      have single : ∀ turn ∈ turns, turn.length = 1 := by
        intro turn member
        obtain ⟨char, rfl, -⟩ := takes_one_iff.mp (each turn member)
        rfl
      rw [List.length_flatten, List.map_congr_left single, List.map_const',
        List.sum_replicate_nat, Nat.mul_one]
    rw [spelled]
    refine ⟨enough, bounded, fun char member => ?_⟩
    obtain ⟨turn, isTurn, inside⟩ := List.mem_flatten.mp member
    obtain ⟨other, rfl, accepted⟩ := takes_one_iff.mp (each turn isTurn)
    exact List.mem_singleton.mp inside ▸ accepted
  · rintro ⟨enough, bounded, accepted⟩
    have joined : text = (text.map ([·])).flatten := by
      rw [← List.flatMap_def, List.flatMap_singleton']
    refine ⟨text.map ([·]), joined, by simpa using enough, by simpa using bounded, ?_⟩
    intro turn member
    obtain ⟨char, inside, rfl⟩ := List.mem_map.mp member
    exact .one (accepted char inside)

/-- What may be left out takes nothing, or one text of its own. -/
theorem takes_optional_iff :
    Takes (.repeated .greedy 0 (some 1) body) text ↔ text = [] ∨ body.Takes text := by
  rw [takes_repeated_iff]
  constructor
  · rintro ⟨turns, rfl, -, bounded, each⟩
    match turns, bounded 1 rfl, each with
    | [], _, _ => exact .inl rfl
    | [turn], _, each =>
        rw [List.flatten_singleton]
        exact .inr (each turn (List.mem_singleton_self turn))
  · rintro (rfl | taken)
    · exact ⟨[], rfl, by simp⟩
    · exact ⟨[text], by simp, by simp, by simp, by simpa using taken⟩

/-- The parts of a sequence take the parts of its text. -/
theorem takes_ofList_append_iff {front back : List Node} :
    (ofList (front ++ back)).Takes text ↔
      ∃ left right, text = left ++ right ∧ (ofList front).Takes left ∧
        (ofList back).Takes right := by
  induction front generalizing text with
  | nil =>
      constructor
      · intro taken
        exact ⟨[], text, rfl, .empty, taken⟩
      · rintro ⟨left, right, rfl, nothing, taken⟩
        rw [takes_empty_iff.mp nothing]
        exact taken
  | cons node rest inductionHypothesis =>
      cases rest with
      | nil =>
          cases back with
          | nil => simp [ofList, takes_empty_iff]
          | cons next others => exact takes_seq_iff
      | cons next others =>
          simp only [List.cons_append, ofList, takes_seq_iff] at inductionHypothesis ⊢
          constructor
          · rintro ⟨start, others, rfl, taken, later⟩
            obtain ⟨left, right, rfl, inner, final⟩ := inductionHypothesis.mp later
            exact ⟨start ++ left, right, by rw [List.append_assoc],
              ⟨start, left, rfl, taken, inner⟩,
              final⟩
          · rintro ⟨_, right, rfl, ⟨start, left, rfl, taken, inner⟩, final⟩
            exact ⟨start, left ++ right, by rw [List.append_assoc], taken,
              inductionHypothesis.mpr ⟨left, right, rfl, inner, final⟩⟩

end Texts

theorem isPlain_ofList_append {front back : List Node} (plainFront : (ofList front).IsPlain)
    (plainBack : (ofList back).IsPlain) : (ofList (front ++ back)).IsPlain := by
  induction front with
  | nil => exact plainBack
  | cons node rest inductionHypothesis =>
      cases rest with
      | nil =>
          cases back with
          | nil => exact plainFront
          | cons next others => exact .seq plainFront plainBack
      | cons next others =>
          cases plainFront with
          | seq plain later => exact .seq plain (inductionHypothesis later)

/-! ### Runs -/

theorem run_alt (first second : Node) (place : Place) (rest : Rest) :
    (alt first second).run place rest = (first.run place rest).or (second.run place rest) := by
  rw [run]
  cases first.run place rest <;> rfl

theorem runGreedy_zero (turn : Turn) (rest : Rest) (fuel : Nat) (most last : Option Nat)
    (place : Place) :
    runGreedy turn rest (fuel + 1) 0 most last place =
      if mayTurn most last place then
        (turn place fun next =>
          runGreedy turn rest fuel 0 (most.map (· - 1)) (some place.offset) next).or (rest place)
      else rest place := by
  rw [runGreedy]
  split
  · cases turn place _ <;> rfl
  · rfl

/-- That the run of a tree finds a way exactly if the tree takes a part of the text behind which
the rest succeeds. -/
def FindsTexts (body : Node) : Prop :=
  ∀ (place : Place) (rest : Rest),
    (body.run place rest).isSome = true ↔
      ∃ taken remaining, place.after = taken ++ remaining ∧ body.Takes taken ∧
        (rest (place.advance taken remaining)).isSome = true

/-- A way to take texts of the body, between the bounds of a repetition, from which the rest of the
pattern succeeds. -/
def HasWay (body : Node) (rest : Rest) (least : Nat) (most : Option Nat) (place : Place) : Prop :=
  ∃ (turns : List (List Char)) (remaining : List Char),
    place.after = turns.flatten ++ remaining ∧ least ≤ turns.length ∧
    (∀ bound ∈ most, turns.length ≤ bound) ∧ (∀ turn ∈ turns, body.Takes turn) ∧
    (rest (place.advance turns.flatten remaining)).isSome = true

section Turns

variable {body : Node} {rest : Rest} {least : Nat} {most : Option Nat} {place : Place}

/-- A way of one turn more begins with a text of the body. -/
theorem hasWay_succ_iff (positive : ∀ bound ∈ most, 0 < bound) :
    HasWay body rest (least + 1) most place ↔
      ∃ taken remaining, place.after = taken ++ remaining ∧ body.Takes taken ∧
        HasWay body rest least (most.map (· - 1)) (place.advance taken remaining) := by
  constructor
  · rintro ⟨turns, remaining, split, enough, bounded, each, found⟩
    cases turns with
    | nil => exact absurd enough (by simp)
    | cons turn others =>
        rw [List.flatten_cons] at split found
        refine ⟨turn, others.flatten ++ remaining, by rw [split, List.append_assoc],
          each turn List.mem_cons_self, others, remaining, rfl, Nat.le_of_succ_le_succ enough,
          ?_, ?_, ?_⟩
        · intro bound known
          obtain ⟨whole, isWhole, rfl⟩ := Option.map_eq_some_iff.mp known
          have short := bounded whole isWhole
          rw [List.length_cons] at short
          omega
        · exact fun other member => each other (List.mem_cons_of_mem turn member)
        · rw [Place.advance_advance]
          exact found
  · rintro ⟨turn, after, split, first, others, remaining, inner, enough, bounded, each, found⟩
    rw [show (place.advance turn after).after = after from rfl] at inner
    refine ⟨turn :: others, remaining, ?_, Nat.succ_le_succ enough, ?_, ?_, ?_⟩
    · rw [split, inner, List.flatten_cons, List.append_assoc]
    · intro bound known
      have short := bounded (bound - 1) (Option.map_eq_some_iff.mpr ⟨bound, known, rfl⟩)
      have wide := positive bound known
      rw [List.length_cons]
      omega
    · intro other member
      rcases List.mem_cons.mp member with same | later
      · exact same ▸ first
      · exact each other later
    · rw [List.flatten_cons, ← Place.advance_advance]
      exact found

theorem hasWay_zero_iff :
    HasWay body rest 0 most place ↔
      HasWay body rest 1 most place ∨ (rest place).isSome = true := by
  constructor
  · rintro ⟨turns, remaining, split, -, bounded, each, found⟩
    cases turns with
    | nil =>
        rw [List.flatten_nil, List.nil_append] at split
        rw [List.flatten_nil, ← split, Place.advance_nil] at found
        exact .inr found
    | cons turn others =>
        exact .inl ⟨turn :: others, remaining, split, by simp, bounded, each, found⟩
  · rintro (⟨turns, remaining, split, -, bounded, each, found⟩ | found)
    · exact ⟨turns, remaining, split, Nat.zero_le _, bounded, each, found⟩
    · exact ⟨[], place.after, rfl, Nat.zero_le _, by simp, by simp, found⟩

/-- A turn finds a way of one turn more if all that follows it finds the ways that are left. -/
theorem turn_isSome_iff (finds : FindsTexts body) (positive : ∀ bound ∈ most, 0 < bound)
    {onward : Rest}
    (later : ∀ taken remaining, place.after = taken ++ remaining → body.Takes taken →
      ((onward (place.advance taken remaining)).isSome = true ↔
        HasWay body rest least (most.map (· - 1)) (place.advance taken remaining))) :
    (body.run place onward).isSome = true ↔ HasWay body rest (least + 1) most place := by
  rw [finds, hasWay_succ_iff positive]
  exact exists_congr fun taken => exists_congr fun remaining =>
    and_congr_right fun ahead => and_congr_right fun takes => later taken remaining ahead takes

/-- A repetition succeeds exactly if there is a way between its bounds. There is fuel for one turn
per character, and no turn is refused for beginning where the last one began, since every turn
takes something. -/
theorem runGreedy_isSome_iff (finds : FindsTexts body) (filled : ¬ body.Takes []) {fuel : Nat}
    {last : Option Nat} (fuelled : least + place.after.length + 2 ≤ fuel)
    (ordered : ∀ bound ∈ most, least ≤ bound) (fresh : ∀ start ∈ last, start < place.offset) :
    (runGreedy (fun next onward => body.run next onward) rest fuel least most last
        place).isSome = true ↔ HasWay body rest least most place := by
  induction fuel generalizing least most last place with
  | zero => omega
  | succ fuel inductionHypothesis =>
      have takesSome : ∀ taken : List Char, body.Takes taken → 0 < taken.length :=
        fun taken takes => List.length_pos_iff.mpr fun empty => filled (empty ▸ takes)
      cases least with
      | succ least =>
          have positive : ∀ bound ∈ most, 0 < bound := fun bound known =>
            Nat.lt_of_lt_of_le (Nat.succ_pos least) (ordered bound known)
          have orderedLater : ∀ bound ∈ most.map (· - 1), least ≤ bound := by
            intro bound known
            obtain ⟨whole, isWhole, rfl⟩ := Option.map_eq_some_iff.mp known
            have wide := ordered whole isWhole
            omega
          rw [runGreedy]
          refine turn_isSome_iff finds positive fun taken remaining ahead _ => ?_
          refine inductionHypothesis ?_ orderedLater fun start known =>
            Nat.lt_add_right _ (fresh start known)
          rw [ahead, List.length_append] at fuelled
          show least + remaining.length + 2 ≤ fuel
          omega
      | zero =>
          have begins : (last != some place.offset) = true := by
            rw [bne_iff_ne]
            intro same
            exact Nat.lt_irrefl _ (fresh place.offset same)
          rw [runGreedy_zero, mayTurn, begins, Bool.and_true, hasWay_zero_iff]
          by_cases allowed : (most != some 0) = true
          · have positive : ∀ bound ∈ most, 0 < bound := by
              intro bound known
              refine Nat.pos_of_ne_zero fun zero => ?_
              rw [bne_iff_ne] at allowed
              exact allowed (zero ▸ known)
            rw [if_pos allowed, Option.isSome_or, Bool.or_eq_true]
            refine or_congr_left ?_
            refine turn_isSome_iff finds positive fun taken remaining ahead takes => ?_
            have filling := takesSome taken takes
            refine inductionHypothesis ?_ (fun _ _ => Nat.zero_le _) ?_
            · rw [ahead, List.length_append] at fuelled
              show 0 + remaining.length + 2 ≤ fuel
              omega
            · intro start known
              rw [← Option.mem_some.mp known]
              exact Nat.lt_add_of_pos_right filling
          · rw [if_neg allowed]
            refine (or_iff_right ?_).symm
            rintro ⟨turns, remaining, -, enough, bounded, -, -⟩
            have closed : most = some 0 := by simpa using allowed
            have short := bounded 0 closed
            omega

end Turns

namespace FindsTexts

variable {first second body : Node}

theorem empty : FindsTexts .empty := by
  intro place rest
  constructor
  · intro found
    exact ⟨[], place.after, rfl, .empty, found⟩
  · rintro ⟨taken, remaining, split, takes, found⟩
    rw [takes_empty_iff.mp takes] at split found
    rw [List.nil_append] at split
    rw [← split] at found
    exact found

theorem one (charClass : CharClass) : FindsTexts (.one charClass) := by
  intro place rest
  simp only [takes_one_iff]
  cases ahead : place.after with
  | nil => simp [run, ahead]
  | cons char remaining =>
      simp only [run, ahead]
      constructor
      · intro found
        split at found
        · rename_i accepted
          exact ⟨[char], remaining, rfl, ⟨char, rfl, accepted⟩, found⟩
        · exact absurd found (by simp)
      · rintro ⟨_, others, split, ⟨_, rfl, accepted⟩, found⟩
        obtain ⟨rfl, rfl⟩ := List.cons.inj split
        rw [if_pos accepted]
        exact found

theorem seq (front : FindsTexts first) (back : FindsTexts second) :
    FindsTexts (.seq first second) := by
  intro place rest
  rw [run, front]
  constructor
  · rintro ⟨taken, between, split, takes, found⟩
    obtain ⟨later, remaining, inner, takesLater, final⟩ := (back _ _).mp found
    rw [show (place.advance taken between).after = between from rfl] at inner
    refine ⟨taken ++ later, remaining, ?_, .seq takes takesLater, ?_⟩
    · rw [split, inner, List.append_assoc]
    · rw [← Place.advance_advance]
      exact final
  · rintro ⟨taken, remaining, split, takes, found⟩
    obtain ⟨left, right, rfl, takesLeft, takesRight⟩ := takes_seq_iff.mp takes
    rw [List.append_assoc] at split
    refine ⟨left, right ++ remaining, split, takesLeft,
      (back _ _).mpr ⟨right, remaining, rfl, takesRight, ?_⟩⟩
    rw [Place.advance_advance]
    exact found

theorem alt (former : FindsTexts first) (latter : FindsTexts second) :
    FindsTexts (.alt first second) := by
  intro place rest
  rw [run_alt, Option.isSome_or, Bool.or_eq_true, former, latter]
  simp only [takes_alt_iff]
  constructor
  · rintro (⟨taken, remaining, split, takes, found⟩ | ⟨taken, remaining, split, takes, found⟩)
    · exact ⟨taken, remaining, split, .inl takes, found⟩
    · exact ⟨taken, remaining, split, .inr takes, found⟩
  · rintro ⟨taken, remaining, split, takes | takes, found⟩
    · exact .inl ⟨taken, remaining, split, takes, found⟩
    · exact .inr ⟨taken, remaining, split, takes, found⟩

theorem repeated {least : Nat} {most : Option Nat} (finds : FindsTexts body)
    (filled : ¬ body.Takes []) (ordered : ∀ bound ∈ most, least ≤ bound) :
    FindsTexts (.repeated .greedy least most body) := by
  intro place rest
  have fuelled : least + place.after.length + 2 ≤ turnFuel least place := Nat.le_refl _
  have fresh : ∀ start ∈ (none : Option Nat), start < place.offset := by simp
  rw [run, runGreedy_isSome_iff finds filled fuelled ordered fresh, HasWay]
  constructor
  · rintro ⟨turns, remaining, split, enough, bounded, each, found⟩
    exact ⟨turns.flatten, remaining, split, .repeated enough bounded each, found⟩
  · rintro ⟨taken, remaining, split, takes, found⟩
    obtain ⟨turns, rfl, enough, bounded, each⟩ := takes_repeated_iff.mp takes
    exact ⟨turns, remaining, split, enough, bounded, each, found⟩

end FindsTexts

/-- The run of a plain tree goes on with the rest behind each text of the tree. -/
theorem findsTexts_of_isPlain {node : Node} (plain : node.IsPlain) : FindsTexts node := by
  induction plain with
  | empty => exact .empty
  | one charClass => exact .one charClass
  | seq _ _ front back => exact front.seq back
  | alt _ _ former latter => exact former.alt latter
  | repeated _ filled ordered finds => exact finds.repeated filled ordered

/-- A plain tree accepts exactly its texts. -/
theorem accepts_iff {node : Node} (plain : node.IsPlain) (text : List Char) :
    node.accepts text = true ↔ node.Takes text := by
  rw [accepts, findsTexts_of_isPlain plain]
  constructor
  · rintro ⟨taken, remaining, split, takes, found⟩
    cases remaining with
    | nil =>
        rw [List.append_nil] at split
        exact (show text = taken from split) ▸ takes
    | cons char others => exact absurd found (by simp [Place.advance])
  · intro takes
    exact ⟨text, [], (List.append_nil text).symm, takes, rfl⟩

end Node

end ForwardedClient.Pattern
