import ForwardedClient.Request.View

/-!
Contract: what writing headers does to the look-up of one of them, and to all others.

Owns: the headers that stay where they stand when others are set, removed or assigned, and the
values of a header after it, or another, was, with its first value.

Does not own: which headers are written.
-/

namespace ForwardedClient.Request

open ForwardedClient.Text

/-- Headers are told apart by their names in lower case. -/
theorem text_of_headerName {title : String} {name : LatinText}
    (named : headerName title = .ok name) : name.text = lower title :=
  LatinText.text_of_encode named

theorem headerName_ne {title : String} {name : LatinText} (differ : lower title ≠ name.text) :
    headerName title ≠ .ok name :=
  fun named => differ (text_of_headerName named).symm

namespace Headers

variable {headers : List Header} {name other : LatinText}

/-! ### Other headers -/

section Others

variable (keep : LatinText → Bool)

/-- What is kept of a header list, by names of which one is not kept, does not change when the
header of that name is removed. -/
theorem filter_erase (dropped : keep name = false) (headers : List Header) :
    (erase headers name).filter (keep ·.name) = headers.filter (keep ·.name) := by
  unfold erase
  rw [List.filter_filter]
  refine List.filter_congr fun header _ => ?_
  by_cases here : header.name = name
  · simp [here, dropped]
  · simp [here]

/-- Nor does it change when the header of that name is set, wherever it then stands. -/
theorem filter_set (dropped : keep name = false) (headers : List Header) (value : LatinText) :
    (set headers name value).filter (keep ·.name) = headers.filter (keep ·.name) := by
  induction headers with
  | nil => simp [set, dropped]
  | cons header rest inductionHypothesis =>
      unfold set
      by_cases same : header.name = name
      · rw [if_pos same, List.filter_cons_of_neg (by simp [dropped]),
          List.filter_cons_of_neg (by simp [same, dropped]), filter_erase keep dropped]
      · rw [if_neg same, List.filter_cons, List.filter_cons, inductionHypothesis]

end Others

/-! ### All values -/

theorem values_cons (header : Header) (rest : List Header) (name : LatinText) :
    values (header :: rest) name =
      if header.name = name then header.value.text :: values rest name else values rest name := by
  unfold values
  by_cases same : header.name = name
  · rw [if_pos same, List.filter_cons_of_pos (by simpa using same), List.map_cons]
  · rw [if_neg same, List.filter_cons_of_neg (by simpa using same)]

theorem values_erase_of_ne (differ : name ≠ other) :
    values (erase headers name) other = values headers other :=
  congrArg (List.map _) (filter_erase (· = other) (decide_eq_false differ) headers)

theorem values_set_of_ne (differ : name ≠ other) (value : LatinText) :
    values (set headers name value) other = values headers other :=
  congrArg (List.map _) (filter_set (· = other) (decide_eq_false differ) headers value)

section Assign

variable {title : String} {value : Option String} {changed : List Header}

/-- An assignment sets a header to one value or removes it. -/
theorem cases_of_assign (assigned : assign headers title value = .ok changed) :
    ∃ name, headerName title = .ok name ∧
      (value = none ∧ changed = erase headers name ∨
        ∃ bytes : LatinText, value = some bytes.text ∧ changed = set headers name bytes) := by
  unfold assign at assigned
  cases named : headerName title with
  | error cause => simp [named, bind, Except.bind] at assigned
  | ok name =>
      refine ⟨name, rfl, ?_⟩
      cases value with
      | none =>
          simp only [named, bind, Except.bind, pure, Except.pure, Except.ok.injEq] at assigned
          exact Or.inl ⟨rfl, assigned.symm⟩
      | some value =>
          cases encoded : LatinText.encode value with
          | error cause => simp [named, encoded, bind, Except.bind] at assigned
          | ok bytes =>
              simp only [named, encoded, bind, Except.bind, pure, Except.pure,
                Except.ok.injEq] at assigned
              exact Or.inr ⟨bytes, congrArg some (LatinText.text_of_encode encoded).symm,
                assigned.symm⟩

theorem values_assign (named : headerName title = .ok name)
    (assigned : assign headers title value = .ok changed) :
    values changed name = value.toList := by
  obtain ⟨found, isName, ⟨removed, same⟩ | ⟨bytes, written, same⟩⟩ := cases_of_assign assigned
  · rw [Except.ok.inj (named.symm.trans isName), same, values_erase, removed]
    rfl
  · rw [Except.ok.inj (named.symm.trans isName), same, values_set, written]
    rfl

/-- An assignment leaves the headers of other names alone, where they stand. -/
theorem filter_assign (keep : LatinText → Bool)
    (dropped : ∀ name, headerName title = .ok name → keep name = false)
    (assigned : assign headers title value = .ok changed) :
    changed.filter (keep ·.name) = headers.filter (keep ·.name) := by
  obtain ⟨name, named, ⟨-, same⟩ | ⟨bytes, -, same⟩⟩ := cases_of_assign assigned
  · rw [same, filter_erase keep (dropped name named)]
  · rw [same, filter_set keep (dropped name named)]

end Assign

section AssignAll

variable {updates : List (String × Option String)} {changed : List Header}

/-- Assignments that all succeed are one and then the others. -/
theorem assign_of_assignAll_cons {update : String × Option String}
    (assigned : assignAll headers (update :: updates) = (changed, none)) :
    ∃ next, assign headers update.1 update.2 = .ok next ∧
      assignAll next updates = (changed, none) := by
  rw [assignAll] at assigned
  cases once : assign headers update.1 update.2 with
  | error cause => simp [once] at assigned
  | ok next =>
      rw [once] at assigned
      exact ⟨next, rfl, assigned⟩

/-- Assignments leave the headers that none of them names alone, where they stand. -/
theorem filter_assignAll (keep : LatinText → Bool)
    (dropped : ∀ update ∈ updates, ∀ name, headerName update.1 = .ok name → keep name = false)
    (assigned : assignAll headers updates = (changed, none)) :
    changed.filter (keep ·.name) = headers.filter (keep ·.name) := by
  induction updates generalizing headers with
  | nil =>
      simp only [assignAll, Prod.mk.injEq, and_true] at assigned
      rw [assigned]
  | cons update rest inductionHypothesis =>
      obtain ⟨next, once, later⟩ := assign_of_assignAll_cons assigned
      rw [inductionHypothesis (fun later member => dropped later (List.mem_cons_of_mem _ member))
        later, filter_assign keep (dropped update List.mem_cons_self) once]

theorem values_assignAll_of_ne
    (differ : ∀ update ∈ updates, headerName update.1 ≠ .ok other)
    (assigned : assignAll headers updates = (changed, none)) :
    values changed other = values headers other := by
  refine congrArg (List.map _) (filter_assignAll (· = other) ?_ assigned)
  intro update member name named
  exact decide_eq_false fun same => differ update member (same ▸ named)

/-- A header has the value it was assigned, if none that is assigned later has its name. -/
theorem values_assignAll_cons {title : String} {value : Option String}
    (last : ∀ update ∈ updates, lower update.1 ≠ lower title)
    (assigned : assignAll headers ((title, value) :: updates) = (changed, none)) :
    ∃ name, headerName title = .ok name ∧ values changed name = value.toList := by
  obtain ⟨next, once, later⟩ := assign_of_assignAll_cons assigned
  obtain ⟨name, named, -⟩ := cases_of_assign once
  have differ : ∀ update ∈ updates, headerName update.1 ≠ .ok name := by
    intro update member
    exact headerName_ne (text_of_headerName named ▸ last update member)
  exact ⟨name, named, (values_assignAll_of_ne differ later).trans (values_assign named once)⟩

end AssignAll

/-! ### Writing what is there -/

theorem erase_of_values (absent : values headers name = []) : erase headers name = headers := by
  rw [values, List.map_eq_nil_iff, List.filter_eq_nil_iff] at absent
  exact List.filter_eq_self.mpr fun header member => by simpa using absent header member

/-- A header that is there once, with the value it is set to, stays where it is. -/
theorem set_of_values {value : LatinText} (single : values headers name = [value.text]) :
    set headers name value = headers := by
  induction headers with
  | nil => exact nomatch single
  | cons header rest inductionHypothesis =>
      rw [values_cons] at single
      unfold set
      by_cases same : header.name = name
      · rw [if_pos same, List.cons.injEq] at single
        have sameValue : header.value = value := by
          have encoded := LatinText.encode_text header.value
          rw [single.1, LatinText.encode_text] at encoded
          exact (Except.ok.inj encoded).symm
        rw [if_pos same, erase_of_values single.2, ← same, ← sameValue]
      · rw [if_neg same] at single
        rw [if_neg same, inductionHypothesis single]

theorem assign_of_values {title : String} {value : Option String}
    (named : headerName title = .ok name) (there : values headers name = value.toList) :
    assign headers title value = .ok headers := by
  unfold assign
  cases value with
  | none =>
      simp only [named, bind, Except.bind, pure, Except.pure, erase_of_values there]
  | some text =>
      have member : text ∈ values headers name := by
        rw [there]
        exact List.mem_singleton_self text
      obtain ⟨header, -, same⟩ := List.mem_map.mp member
      have single : values headers name = [header.value.text] := by
        rw [there, same]
        rfl
      have encoded : LatinText.encode text = .ok header.value := by
        rw [← same, LatinText.encode_text]
      simp only [named, encoded, bind, Except.bind, pure, Except.pure, set_of_values single]

section AssignAgain

variable {updates : List (String × Option String)} {changed written : List Header}

/-- Headers of different names all have the values that they were assigned. -/
theorem values_of_mem_updates (distinct : (updates.map fun update => lower update.1).Nodup)
    (assigned : assignAll headers updates = (changed, none)) {update : String × Option String}
    (member : update ∈ updates) :
    ∃ name, headerName update.1 = .ok name ∧ values changed name = update.2.toList := by
  induction updates generalizing headers with
  | nil => exact absurd member List.not_mem_nil
  | cons first rest inductionHypothesis =>
      rw [List.map_cons, List.nodup_cons, List.mem_map] at distinct
      rcases List.mem_cons.mp member with same | later
      · subst same
        refine values_assignAll_cons (fun other inside => ?_) assigned
        exact fun equal => distinct.1 ⟨other, inside, equal⟩
      · obtain ⟨next, -, others⟩ := assign_of_assignAll_cons assigned
        exact inductionHypothesis distinct.2 others later

theorem assignAll_of_settled
    (settled : ∀ update ∈ updates, assign written update.1 update.2 = .ok written) :
    assignAll written updates = (written, none) := by
  induction updates with
  | nil => rfl
  | cons update rest inductionHypothesis =>
      rw [assignAll, settled update List.mem_cons_self]
      exact inductionHypothesis fun later member => settled later (List.mem_cons_of_mem _ member)

/-- Updates of different names that were made change nothing when they are made again, also after
another header was written. -/
theorem assignAll_again (distinct : (updates.map fun update => lower update.1).Nodup)
    (assigned : assignAll headers updates = (changed, none))
    (kept : ∀ update ∈ updates, ∀ name, headerName update.1 = .ok name →
      values written name = values changed name) :
    assignAll written updates = (written, none) := by
  refine assignAll_of_settled fun update member => ?_
  obtain ⟨name, named, there⟩ := values_of_mem_updates distinct assigned member
  exact assign_of_values named ((kept update member name named).trans there)

end AssignAgain

/-! ### The first value -/

theorem first?_eq (headers : List Header) (name : LatinText) :
    first? headers name = (values headers name).head? := by
  rw [first?, values, List.head?_map, List.head?_filter]

theorem first?_set_of_ne (differ : name ≠ other) (value : LatinText) :
    first? (set headers name value) other = first? headers other := by
  rw [first?_eq, first?_eq, values_set_of_ne differ]

theorem first?_assignAll {updates : List (String × Option String)} {changed : List Header}
    (differ : ∀ update ∈ updates, headerName update.1 ≠ .ok other)
    (assigned : assignAll headers updates = (changed, none)) :
    first? changed other = first? headers other := by
  rw [first?_eq, first?_eq, values_assignAll_of_ne differ assigned]

end Headers

end ForwardedClient.Request
