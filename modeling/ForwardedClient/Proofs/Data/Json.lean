import ForwardedClient.Data.Json
import ForwardedClient.Proofs.Data.Fields

/-!
Contract: which values JSON can write, and how long their text is.

Owns: `IsUnwritable`, the values that JSON cannot write; `charSize`, how many characters it takes
for each character of a text; the length of an object as a sum over its fields.

Does not own: the order of the fields.
-/

namespace ForwardedClient.Data

open ForwardedClient.Text

variable {foreign : Prop}

/-! ### Values that cannot be written -/

theorem exists_map_eq_ok_iff {ε α β : Type} {outcome : Except ε α} {change : α → β} :
    (∃ result, outcome.map change = .ok result) ↔ ∃ value, outcome = .ok value := by
  cases outcome with
  | error fault => exact ⟨nofun, nofun⟩
  | ok value => exact ⟨fun _ => ⟨value, rfl⟩, fun _ => ⟨change value, rfl⟩⟩

namespace Datum

/-- Keys that an object may have. -/
def isKey : Datum foreign → Bool
  | .null | .bool _ | .float _ | .text _ => true
  | .int value => !isLong value
  | .other _ _ (some value) => isKey value
  | _ => false

/-- Values that hold others, which JSON writes. -/
def holdsValues : Datum foreign → Bool
  | .list _ | .tuple _ | .object _ | .mapping _ _ => true
  | _ => false

/-- Values that JSON cannot write with room for so many values inside each other: numbers with too
many digits, bytes, sets and other objects, values that hold themselves, and those with such a value
or with a key of another type at some depth, or deeper than there is room for. -/
inductive IsUnwritable : Nat → Datum foreign → Prop
  | long {room : Nat} {value : Int} (long : isLong value = true) : IsUnwritable room (.int value)
  | bytes {room : Nat} {value : String} : IsUnwritable room (.bytes value)
  | set {room : Nat} {allowed : foreign} {frozen : Bool} {items : List (Datum foreign)} :
      IsUnwritable room (.set allowed frozen items)
  | other {room : Nat} {allowed : foreign} {thing : ForeignObject} :
      IsUnwritable room (.other allowed thing none)
  | enclosing {room : Nat} {allowed : foreign} {container : Container} :
      IsUnwritable room (.enclosing allowed container)
  | written {room : Nat} {allowed : foreign} {thing : ForeignObject} {value : Datum foreign}
      (inner : IsUnwritable room value) : IsUnwritable room (.other allowed thing (some value))
  | deep {value : Datum foreign} (holds : value.holdsValues = true) : IsUnwritable 0 value
  | list {room : Nat} {items : List (Datum foreign)} {item : Datum foreign} (member : item ∈ items)
      (inner : IsUnwritable room item) : IsUnwritable (room + 1) (.list items)
  | tuple {room : Nat} {items : List (Datum foreign)} {item : Datum foreign} (member : item ∈ items)
      (inner : IsUnwritable room item) : IsUnwritable (room + 1) (.tuple items)
  | object {room : Nat} {fields : List (String × Datum foreign)} {field : String × Datum foreign}
      (member : field ∈ fields) (inner : IsUnwritable room field.2) :
      IsUnwritable (room + 1) (.object fields)
  | key {room : Nat} {allowed : foreign} {entries : List (Datum foreign × Datum foreign)}
      {entry : Datum foreign × Datum foreign} (member : entry ∈ entries)
      (notKey : entry.1.isKey = false) : IsUnwritable (room + 1) (.mapping allowed entries)
  | mapping {room : Nat} {allowed : foreign} {entries : List (Datum foreign × Datum foreign)}
      {entry : Datum foreign × Datum foreign} (member : entry ∈ entries)
      (inner : IsUnwritable room entry.2) : IsUnwritable (room + 1) (.mapping allowed entries)

/-- More room makes no value unwritable. -/
theorem IsUnwritable.of_le {less more : Nat} {value : Datum foreign}
    (unwritable : IsUnwritable more value) (le : less ≤ more) : IsUnwritable less value := by
  induction unwritable generalizing less with
  | long long => exact .long long
  | bytes => exact .bytes
  | set => exact .set
  | other => exact .other
  | enclosing => exact .enclosing
  | written _ inductionHypothesis => exact .written (inductionHypothesis le)
  | deep holds =>
      obtain rfl := Nat.le_zero.mp le
      exact .deep holds
  | list member _ inductionHypothesis =>
      cases less with
      | zero => exact .deep rfl
      | succ less => exact .list member (inductionHypothesis (Nat.le_of_succ_le_succ le))
  | tuple member _ inductionHypothesis =>
      cases less with
      | zero => exact .deep rfl
      | succ less => exact .tuple member (inductionHypothesis (Nat.le_of_succ_le_succ le))
  | object member _ inductionHypothesis =>
      cases less with
      | zero => exact .deep rfl
      | succ less => exact .object member (inductionHypothesis (Nat.le_of_succ_le_succ le))
  | key member notKey =>
      cases less with
      | zero => exact .deep rfl
      | succ less => exact .key member notKey
  | mapping member _ inductionHypothesis =>
      cases less with
      | zero => exact .deep rfl
      | succ less => exact .mapping member (inductionHypothesis (Nat.le_of_succ_le_succ le))

/-- A value that JSON writes, with room for so many values inside each other. -/
def IsWritten (room : Nat) (value : Datum foreign) : Prop :=
  ∃ json, value.writeJson room = .ok json

theorem isWritten_text {room : Nat} {text : String} :
    IsWritten room (.text text : Datum foreign) := ⟨jsonText text, by rw [writeJson]⟩

theorem exists_writeWhole_iff {value : Int} :
    (∃ text, writeWhole value = .ok text) ↔ isLong value = false := by
  rw [writeWhole]
  split
  · rename_i long
    simp [long]
  · rename_i short
    simp [short]

theorem exists_writeKey_iff (key : Datum foreign) :
    (∃ text, writeKey key = .ok text) ↔ key.isKey = true := by
  induction key using isKey.induct with
  | case1 | case2 | case3 | case4 => simp [writeKey, isKey]
  | case5 value => rw [writeKey, exists_writeWhole_iff, isKey, Bool.not_eq_true']
  | case6 allowed thing value inductionHypothesis =>
      rw [isKey, ← inductionHypothesis, writeKey]
      split
      · rename_i fault ran
        rw [ran]
        exact ⟨nofun, nofun⟩
      · rfl
  | case7 => simp [writeKey, isKey, *]

section Cases

variable {room : Nat} {allowed : foreign} {thing : ForeignObject} {value : Datum foreign}
variable {items : List (Datum foreign)} {fields : List (String × Datum foreign)}
variable {entries : List (Datum foreign × Datum foreign)}

theorem isUnwritable_long_iff {value : Int} :
    IsUnwritable room (.int value : Datum foreign) ↔ isLong value = true := by
  constructor
  · rintro (long | _ | _ | _ | _ | _ | holds)
    · exact long
    · cases holds
  · exact .long

theorem isUnwritable_written_iff :
    IsUnwritable room (.other allowed thing (some value)) ↔ IsUnwritable room value := by
  constructor
  · rintro (_ | _ | _ | _ | _ | inner | holds)
    · exact inner
    · cases holds
  · exact .written

theorem isUnwritable_list_iff :
    IsUnwritable (room + 1) (.list items) ↔ ∃ item ∈ items, IsUnwritable room item := by
  constructor
  · rintro ⟨⟩
    exact ⟨_, ‹_›, ‹_›⟩
  · rintro ⟨item, member, inner⟩
    exact .list member inner

theorem isUnwritable_tuple_iff :
    IsUnwritable (room + 1) (.tuple items) ↔ ∃ item ∈ items, IsUnwritable room item := by
  constructor
  · rintro ⟨⟩
    exact ⟨_, ‹_›, ‹_›⟩
  · rintro ⟨item, member, inner⟩
    exact .tuple member inner

theorem isUnwritable_object_iff :
    IsUnwritable (room + 1) (.object fields) ↔ ∃ field ∈ fields, IsUnwritable room field.2 := by
  constructor
  · rintro ⟨⟩
    exact ⟨_, ‹_›, ‹_›⟩
  · rintro ⟨field, member, inner⟩
    exact .object member inner

theorem isUnwritable_mapping_iff :
    IsUnwritable (room + 1) (.mapping allowed entries) ↔
      ∃ entry ∈ entries, entry.1.isKey = false ∨ IsUnwritable room entry.2 := by
  constructor
  · rintro (_ | _ | _ | _ | _ | _ | _ | _ | _ | _ | ⟨member, notKey⟩ | ⟨member, inner⟩)
    · exact ⟨_, member, .inl notKey⟩
    · exact ⟨_, member, .inr inner⟩
  · rintro ⟨entry, member, notKey | inner⟩
    · exact .key member notKey
    · exact .mapping member inner

end Cases

section Lists

variable {room : Nat} {allowed : foreign}

theorem exists_writeAll_cons_iff {item : Datum foreign} {rest : List (Datum foreign)} :
    (∃ written, writeAll room (item :: rest) = .ok written) ↔
      IsWritten room item ∧ ∃ written, writeAll room rest = .ok written := by
  rw [writeAll, IsWritten]
  cases writeJson room item <;> cases writeAll room rest <;>
    simp [bind, Except.bind, pure, Except.pure]

theorem exists_writeFields_cons_iff {name : String} {value : Datum foreign}
    {rest : Fields foreign} :
    (∃ written, writeFields room ((name, value) :: rest) = .ok written) ↔
      IsWritten room value ∧ ∃ written, writeFields room rest = .ok written := by
  rw [writeFields, IsWritten]
  cases writeJson room value <;> cases writeFields room rest <;>
    simp [bind, Except.bind, pure, Except.pure]

theorem exists_writeEntries_cons_iff {key value : Datum foreign}
    {rest : List (Datum foreign × Datum foreign)} :
    (∃ written, writeEntries room ((key, value) :: rest) = .ok written) ↔
      key.isKey = true ∧ IsWritten room value ∧
        ∃ written, writeEntries room rest = .ok written := by
  rw [writeEntries, IsWritten, ← exists_writeKey_iff]
  cases writeKey key <;> cases writeJson room value <;> cases writeEntries room rest <;>
    simp [bind, Except.bind, pure, Except.pure]

end Lists

mutual

/-- JSON can write exactly the values that are not unwritable. -/
theorem isWritten_iff : ∀ (room : Nat) (value : Datum foreign),
    IsWritten room value ↔ ¬ IsUnwritable room value
  | room, .null | room, .bool _ | room, .float _ | room, .text _ => by
      refine iff_of_true ?_ ?_
      · rw [IsWritten, writeJson]
        exact ⟨_, rfl⟩
      · rintro (_ | _ | _ | _ | _ | _ | holds)
        cases holds
  | room, .int value => by
      rw [isUnwritable_long_iff, Bool.not_eq_true, ← exists_writeWhole_iff, IsWritten, writeJson]
  | room, .other allowed thing (some value) => by
      rw [isUnwritable_written_iff, ← isWritten_iff room value, IsWritten, IsWritten, writeJson]
  | room, .bytes _ => iff_of_false (by cases room <;> nofun) (not_not_intro .bytes)
  | room, .set _ _ _ => iff_of_false (by cases room <;> nofun) (not_not_intro .set)
  | room, .other _ _ none => iff_of_false (by cases room <;> nofun) (not_not_intro .other)
  | room, .enclosing _ _ => iff_of_false (by cases room <;> nofun) (not_not_intro .enclosing)
  | 0, .list _ | 0, .tuple _ | 0, .object _ | 0, .mapping _ _ =>
      iff_of_false nofun (not_not_intro (.deep rfl))
  | room + 1, .list items => by
      rw [isUnwritable_list_iff, ← exists_writeAll_iff room items, IsWritten, writeJson,
        openWritten, exists_map_eq_ok_iff]
  | room + 1, .tuple items => by
      rw [isUnwritable_tuple_iff, ← exists_writeAll_iff room items, IsWritten, writeJson,
        openWritten, exists_map_eq_ok_iff]
  | room + 1, .object fields => by
      rw [isUnwritable_object_iff, ← exists_writeFields_iff room fields, IsWritten, writeJson,
        openWritten, exists_map_eq_ok_iff]
  | room + 1, .mapping allowed entries => by
      rw [isUnwritable_mapping_iff, ← exists_writeEntries_iff room entries, IsWritten, writeJson,
        openWritten, exists_map_eq_ok_iff]

theorem exists_writeAll_iff : ∀ (room : Nat) (items : List (Datum foreign)),
    (∃ written, writeAll room items = .ok written) ↔ ¬ ∃ item ∈ items, IsUnwritable room item
  | room, [] => by simp [writeAll]
  | room, item :: rest => by
      rw [exists_writeAll_cons_iff, isWritten_iff room item, exists_writeAll_iff room rest]
      simp

theorem exists_writeFields_iff : ∀ (room : Nat) (fields : List (String × Datum foreign)),
    (∃ written, writeFields room fields = .ok written) ↔
      ¬ ∃ field ∈ fields, IsUnwritable room field.2
  | room, [] => by simp [writeFields]
  | room, (name, value) :: rest => by
      rw [exists_writeFields_cons_iff, isWritten_iff room value, exists_writeFields_iff room rest]
      simp

theorem exists_writeEntries_iff :
    ∀ (room : Nat) (entries : List (Datum foreign × Datum foreign)),
      (∃ written, writeEntries room entries = .ok written) ↔
        ¬ ∃ entry ∈ entries, entry.1.isKey = false ∨ IsUnwritable room entry.2
  | room, [] => by simp [writeEntries]
  | room, (key, value) :: rest => by
      rw [exists_writeEntries_cons_iff, isWritten_iff room value, exists_writeEntries_iff room rest]
      simp [and_assoc]

end

theorem IsWritten.of_le {less more : Nat} {value : Datum foreign} (written : IsWritten less value)
    (le : less ≤ more) : IsWritten more value :=
  (isWritten_iff more value).mpr fun unwritable =>
    (isWritten_iff less value).mp written (unwritable.of_le le)

theorem isWritten_object_iff {room : Nat} {fields : Fields foreign} :
    IsWritten (room + 1) (.object fields) ↔ ∀ field ∈ fields, IsWritten room field.2 := by
  rw [isWritten_iff, isUnwritable_object_iff]
  simp only [isWritten_iff, not_exists, not_and]

/-- Where names are distinct, an object is written if all that is found in it is. -/
theorem isWritten_object_iff_find? {room : Nat} {fields : Fields foreign}
    (distinct : fields.HasDistinctNames) :
    IsWritten (room + 1) (.object fields) ↔
      ∀ name value, fields.find? name = some value → IsWritten room value := by
  rw [isWritten_object_iff]
  constructor
  · intro all name value found
    exact all (name, value) (Fields.mem_of_find? found)
  · rintro all ⟨name, value⟩ member
    exact all name value (Fields.find?_of_mem distinct member)

end Datum

/-! ### Sizes -/

section Characters

/-- How many characters JSON takes for a character. -/
def charSize (char : Char) : Nat := (jsonChar char).length

/-- How many characters JSON takes for a text, without its quotes. -/
def textSize (text : String) : Nat := (text.toList.map charSize).sum

/-- The characters that JSON writes as themselves. -/
def IsVerbatim (char : Char) : Prop :=
  0x20 ≤ char.toNat ∧ char.toNat ≤ 0x7E ∧ char ≠ '"' ∧ char ≠ '\\'

theorem length_hexNumeral {width value : Nat} (positive : 0 < width) (small : value < 16 ^ width) :
    (hexNumeral width value).length = width := by
  have digits : (Nat.toDigits 16 value).length ≤ width :=
    (Nat.length_toDigits_le_iff (by decide) positive).mpr small
  simp only [hexNumeral, String.length_ofList, List.length_append, List.length_replicate]
  omega

theorem length_unitEscape {unit : Nat} (small : unit < 0x10000) : (unitEscape unit).length = 6 := by
  rw [unitEscape, String.length_append, length_hexNumeral (by decide) small]
  rfl

theorem charSize_of_isVerbatim {char : Char} (verbatim : IsVerbatim char) : charSize char = 1 := by
  obtain ⟨low, high, notQuote, notBackslash⟩ := verbatim
  have isPrinted : ∀ control : Char, control.toNat < 0x20 → (char == control) = false := by
    intro control below
    rw [beq_eq_false_iff_ne]
    rintro rfl
    omega
  simp [charSize, jsonChar, notQuote, notBackslash, isPrinted, low, high]

/-- Every other character becomes an escape of two, of six or of twelve characters. -/
theorem charSize_of_not_isVerbatim {char : Char} (escaped : ¬ IsVerbatim char) :
    charSize char = 2 ∨ charSize char = 6 ∨ charSize char = 12 := by
  rw [charSize, jsonChar]
  by_cases isQuote : char = '"'
  · rw [if_pos (by simpa using isQuote)]
    exact .inl rfl
  by_cases isBackslash : char = '\\'
  · rw [if_neg (by simpa using isQuote), if_pos (by simpa using isBackslash)]
    exact .inl rfl
  rw [if_neg (by simpa using isQuote), if_neg (by simpa using isBackslash)]
  -- Five control characters have escapes of their own.
  iterate 5
    split
    · exact .inl rfl
  split
  case isTrue printed =>
    rw [Bool.and_eq_true, decide_eq_true_iff, decide_eq_true_iff] at printed
    exact absurd ⟨printed.1, printed.2, isQuote, isBackslash⟩ escaped
  case isFalse =>
    split
    case isTrue small => exact .inr (.inl (length_unitEscape (by omega)))
    case isFalse large =>
      have valid : char.toNat < 0xD800 ∨ 0xDFFF < char.toNat ∧ char.toNat < 0x110000 := char.valid
      refine .inr (.inr ?_)
      rw [String.length_append, length_unitEscape (by omega), length_unitEscape (by omega)]

end Characters

section Texts

theorem length_foldl_jsonChar (chars : List Char) (written : String) :
    (chars.foldl (fun written char => written ++ jsonChar char) written).length =
      written.length + (chars.map charSize).sum := by
  induction chars generalizing written with
  | nil => rfl
  | cons char rest inductionHypothesis =>
      rw [List.foldl_cons, inductionHypothesis, String.length_append, List.map_cons, List.sum_cons,
        Nat.add_assoc]
      rfl

theorem length_jsonText (text : String) : (jsonText text).length = textSize text + 2 := by
  rw [jsonText, String.length_append, String.length_append, length_foldl_jsonChar]
  have quote : "\"".length = 1 := rfl
  have nothing : "".length = 0 := rfl
  rw [quote, nothing, textSize]
  omega

theorem textSize_append (front back : String) :
    textSize (front ++ back) = textSize front + textSize back := by
  simp [textSize]

theorem textSize_ofList (chars : List Char) :
    textSize (String.ofList chars) = (chars.map charSize).sum := by
  rw [textSize, String.toList_ofList]

theorem sum_charSize_of_isVerbatim {chars : List Char}
    (verbatim : ∀ char ∈ chars, IsVerbatim char) :
    (chars.map charSize).sum = chars.length := by
  induction chars with
  | nil => rfl
  | cons char rest inductionHypothesis =>
      have ⟨first, others⟩ := List.forall_mem_cons.mp verbatim
      rw [List.map_cons, List.sum_cons, charSize_of_isVerbatim first, inductionHypothesis others,
        List.length_cons, Nat.add_comm]

theorem sum_charSize_le (chars : List Char) : (chars.map charSize).sum ≤ 12 * chars.length := by
  induction chars with
  | nil => exact Nat.le_refl 0
  | cons char rest inductionHypothesis =>
      have first : charSize char ≤ 12 := by
        by_cases verbatim : IsVerbatim char
        · rw [charSize_of_isVerbatim verbatim]
          decide
        · have escape := charSize_of_not_isVerbatim verbatim
          omega
      rw [List.map_cons, List.sum_cons, List.length_cons]
      omega

end Texts

section Objects

namespace Datum

variable {room : Nat}

/-- How many characters a value takes as JSON. -/
def jsonSize (room : Nat) (value : Datum foreign) : Nat :=
  match value.writeJson room with
  | .ok json => json.length
  | .error _ => 0

/-- How many characters a field takes in an object: its name, a colon, its value and a comma. -/
def fieldSize (room : Nat) (field : String × Datum foreign) : Nat :=
  (jsonText field.1).length + field.2.jsonSize room + 4

theorem fieldSize_text (name text : String) :
    fieldSize room (name, (.text text : Datum foreign)) = textSize name + textSize text + 8 := by
  have written : jsonSize room (.text text : Datum foreign) = textSize text + 2 := by
    rw [jsonSize, writeJson]
    exact length_jsonText text
  simp only [fieldSize, written, length_jsonText]
  omega

theorem length_intercalate (first : String) (rest : List String) :
    (String.intercalate ", " (first :: rest)).length + 2 =
      ((first :: rest).map (·.length + 2)).sum := by
  induction rest generalizing first with
  | nil => simp
  | cons second rest inductionHypothesis =>
      rw [String.intercalate_cons_cons, String.length_append, String.length_append, List.map_cons,
        List.sum_cons, ← inductionHypothesis]
      have comma : ", ".length = 2 := rfl
      omega

theorem sum_of_writeFields {fields : Fields foreign} {pieces : List String}
    (written : writeFields room fields = .ok pieces) :
    (pieces.map (·.length + 2)).sum = (fields.map (fieldSize room)).sum := by
  induction fields generalizing pieces with
  | nil =>
      rw [writeFields] at written
      rw [← Except.ok.inj written]
      rfl
  | cons field rest inductionHypothesis =>
      obtain ⟨name, value⟩ := field
      rw [writeFields] at written
      cases isFirst : writeJson room value with
      | error fault =>
          rw [isFirst] at written
          cases written
      | ok first =>
          cases isRest : writeFields room rest with
          | error fault =>
              rw [isFirst, isRest] at written
              cases written
          | ok others =>
              rw [isFirst, isRest] at written
              rw [← Except.ok.inj written, List.map_cons, List.sum_cons, List.map_cons,
                List.sum_cons, inductionHypothesis isRest, fieldSize, jsonSize, isFirst,
                String.length_append, String.length_append]
              have colon : ": ".length = 2 := rfl
              dsimp only
              omega

/-- The braces of an object that has fields take as much as the comma that one field lacks. -/
theorem length_of_writeJson_object {fields : Fields foreign} {line : String}
    (inhabited : fields ≠ []) (written : (object fields).writeJson (room + 1) = .ok line) :
    line.length = (fields.map (fieldSize room)).sum := by
  rw [writeJson, openWritten] at written
  cases ofFields : writeFields room fields with
  | error fault =>
      rw [ofFields] at written
      cases written
  | ok pieces =>
      rw [ofFields] at written
      rw [← Except.ok.inj written, ← sum_of_writeFields ofFields]
      cases pieces with
      | nil =>
          obtain ⟨field, rest, rfl⟩ := List.exists_cons_of_ne_nil inhabited
          have none := sum_of_writeFields ofFields
          rw [List.map_cons, List.sum_cons, fieldSize] at none
          simp only [List.map_nil, List.sum_nil] at none
          omega
      | cons first rest =>
          rw [← length_intercalate, String.length_append, String.length_append]
          have opening : "\x7b".length = 1 := rfl
          have closing : "\x7d".length = 1 := rfl
          omega

/-- An object with a text under a name is written if the others of its fields are, and takes as many
characters more as name and text do. -/
theorem exists_writeJson_of_erase {fields : Fields foreign} {name text others : String}
    (distinct : fields.HasDistinctNames) (said : fields.find? name = some (.text text))
    (written : (object (fields.erase name)).writeJson (room + 1) = .ok others)
    (inhabited : fields.erase name ≠ []) :
    ∃ line, (object fields).writeJson (room + 1) = .ok line ∧
      line.length = others.length + (textSize name + textSize text + 8) := by
  have isWritten : IsWritten (room + 1) (.object fields) := by
    rw [isWritten_object_iff]
    rintro ⟨other, value⟩ member
    by_cases here : other = name
    · have found := Fields.find?_of_mem distinct member
      rw [here, said] at found
      rw [← Option.some.inj found]
      exact isWritten_text
    · have kept : (other, value) ∈ fields.erase name :=
        List.mem_filter.mpr ⟨member, by simpa using here⟩
      exact isWritten_object_iff.mp ⟨others, written⟩ _ kept
  obtain ⟨line, isLine⟩ := isWritten
  refine ⟨line, isLine, ?_⟩
  have some : fields ≠ [] := fun none => inhabited (by rw [none]; rfl)
  rw [length_of_writeJson_object some isLine, Fields.sum_eq_erase (fieldSize room) distinct said,
    ← length_of_writeJson_object inhabited written, fieldSize_text]

end Datum

end Objects

end ForwardedClient.Data
