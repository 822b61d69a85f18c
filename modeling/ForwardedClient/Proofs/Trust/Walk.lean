import ForwardedClient.Trust.Walk
import Mathlib.Data.List.DropRight

/-!
Contract: where a walk cuts its chain.

Owns: the longest suffix of known proxies, the parts into which a walk splits a chain at that
suffix, and the independence of a stopped walk from everything left of its stop.

Does not own: how header texts become chains.
-/

namespace ForwardedClient.Trust

/-! ### The suffix of known proxies -/

/-- A suffix of a chain that holds only known proxies and that no such suffix is longer
than. -/
structure IsLongestProxySuffix (rules : Rules) (chain suffix : List String) : Prop where
  suffix_chain : suffix <:+ chain
  known : ∀ entry ∈ suffix, rules.isProxy entry = true
  longest : ∀ other, other <:+ chain → (∀ entry ∈ other, rules.isProxy entry = true) →
    other <:+ suffix

theorem isLongestProxySuffix_rtakeWhile (rules : Rules) (chain : List String) :
    IsLongestProxySuffix rules chain (chain.rtakeWhile rules.isProxy) where
  suffix_chain := List.rtakeWhile_suffix _ _
  known := fun _ member => List.mem_rtakeWhile_imp member
  longest := by
    intro other isSuffix known
    obtain ⟨older, split⟩ := isSuffix
    -- Read from the right, the other suffix comes first, so that the scan takes all of it.
    have reversedKnown : ∀ entry ∈ other.reverse, rules.isProxy entry = true :=
      fun entry member => known entry (List.mem_reverse.mp member)
    have taken : chain.reverse.takeWhile rules.isProxy =
        other.reverse ++ older.reverse.takeWhile rules.isProxy := by
      rw [← split, List.reverse_append, List.takeWhile_append_of_pos reversedKnown]
    refine ⟨(older.reverse.takeWhile rules.isProxy).reverse, ?_⟩
    rw [List.rtakeWhile, taken, List.reverse_append, List.reverse_reverse]

/-! ### One pass from the nearest hop -/

/-- The outcome of the pass in closed form: the known proxies in front are crossed, the entry
after them is the client, and what follows it is not reached. -/
theorem walkFrom_eq (rules : Rules) (crossed entries : List String) :
    walkFrom rules crossed entries =
      ((entries.dropWhile rules.isProxy).head?,
        ((entries.takeWhile rules.isProxy).filter fun entry => !rules.isInternal entry).reverse ++
          crossed,
        (entries.dropWhile rules.isProxy).tail.reverse) := by
  induction entries generalizing crossed with
  | nil => rfl
  | cons entry older inductionHypothesis =>
      unfold walkFrom
      by_cases internal : rules.isInternal entry = true
      · have proxy : rules.isProxy entry = true := by simp [Rules.isProxy, internal]
        rw [if_pos internal, inductionHypothesis, List.dropWhile_cons_of_pos proxy,
          List.takeWhile_cons_of_pos proxy, List.filter_cons_of_neg (by simp [internal])]
      · rw [if_neg internal]
        by_cases trusted : rules.isTrusted entry = true
        · have proxy : rules.isProxy entry = true := by simp [Rules.isProxy, trusted]
          rw [if_pos trusted, inductionHypothesis, List.dropWhile_cons_of_pos proxy,
            List.takeWhile_cons_of_pos proxy, List.filter_cons_of_pos (by simp [internal])]
          simp
        · have stranger : ¬ rules.isProxy entry = true := by
            simp [Rules.isProxy, internal, trusted]
          rw [if_neg trusted, List.dropWhile_cons_of_neg stranger,
            List.takeWhile_cons_of_neg stranger]
          rfl

/-- The parts of a chain cut at its suffix of known proxies. -/
theorem walk_eq (rules : Rules) (chain : List String) (peer : String) :
    walk rules chain peer =
      { client := (chain.rdropWhile rules.isProxy).getLast?
        proxies := (chain.rtakeWhile rules.isProxy).filter (fun entry => !rules.isInternal entry) ++
          (if rules.isInternal peer then [] else [peer])
        remaining := (chain.rdropWhile rules.isProxy).dropLast
        chainProxies :=
          ((chain.rtakeWhile rules.isProxy).filter fun entry => !rules.isInternal entry).length } := by
  simp only [walk, walkFrom_eq, List.rdropWhile, List.rtakeWhile, List.append_nil,
    List.filter_reverse, List.length_reverse, List.getLast?_reverse, List.dropLast_reverse]
  split <;> simp

/-- The entry at which a walk stops is no known proxy. -/
theorem not_isProxy_of_client {rules : Rules} {chain : List String} {peer address : String}
    (stopped : (walk rules chain peer).client = some address) :
    rules.isProxy address = false := by
  rw [walk_eq] at stopped
  have nonempty : chain.rdropWhile rules.isProxy ≠ [] := by
    intro empty
    simp [empty] at stopped
  have last := List.rdropWhile_last_not rules.isProxy chain nonempty
  rw [List.getLast?_eq_some_getLast nonempty] at stopped
  rw [← Option.some.inj stopped]
  simpa using last

/-! ### The split of a chain -/

/-- A walk splits its chain at the longest suffix of known proxies: all of the chain is that
suffix and nobody is found, or the chain is the entries not reached, the client and that suffix.
The proxies are those of the suffix that are not internal, in chain order, with the peer last
unless it is internal. -/
theorem walk_splits_chain (rules : Rules) (chain : List String) (peer : String) :
    ∃ suffix, IsLongestProxySuffix rules chain suffix ∧
      (suffix = chain →
        (walk rules chain peer).client = none ∧ (walk rules chain peer).remaining = []) ∧
      (suffix ≠ chain → ∃ address,
        (walk rules chain peer).client = some address ∧
          rules.isInternal address = false ∧ rules.isTrusted address = false ∧
          chain = (walk rules chain peer).remaining ++ [address] ++ suffix) ∧
      (walk rules chain peer).proxies =
        suffix.filter (fun entry => !rules.isInternal entry) ++
          (if rules.isInternal peer then [] else [peer]) ∧
      (walk rules chain peer).chainProxies =
        (suffix.filter fun entry => !rules.isInternal entry).length := by
  have rejoined := chain.rdropWhile_append_rtakeWhile (p := rules.isProxy)
  refine ⟨chain.rtakeWhile rules.isProxy, isLongestProxySuffix_rtakeWhile rules chain,
    ?whole, ?part, ?proxies, ?count⟩
  case whole =>
    intro whole
    have dropped : chain.rdropWhile rules.isProxy = [] := by
      rw [whole] at rejoined
      exact List.append_left_eq_self.mp rejoined
    simp [walk_eq, dropped]
  case part =>
    intro part
    have nonempty : chain.rdropWhile rules.isProxy ≠ [] := by
      intro empty
      rw [empty, List.nil_append] at rejoined
      exact part rejoined
    have client : (walk rules chain peer).client =
        some ((chain.rdropWhile rules.isProxy).getLast nonempty) := by
      rw [walk_eq]
      exact List.getLast?_eq_some_getLast nonempty
    have stranger := not_isProxy_of_client client
    rw [Rules.isProxy, Bool.or_eq_false_iff] at stranger
    refine ⟨_, client, stranger.1, stranger.2, ?_⟩
    calc chain = chain.rdropWhile rules.isProxy ++ chain.rtakeWhile rules.isProxy := rejoined.symm
      _ = (walk rules chain peer).remaining ++
            [(chain.rdropWhile rules.isProxy).getLast nonempty] ++
            chain.rtakeWhile rules.isProxy := by
        rw [walk_eq, List.dropLast_append_getLast nonempty]
  case proxies => rw [walk_eq]
  case count => rw [walk_eq]

/-! ### What stands left of the stop -/

section Exposed

variable {rules : Rules} {chain : List String}

theorem rdropWhile_ne_nil_of_exposed
    (exposed : ∃ entry ∈ chain, rules.isProxy entry = false) :
    chain.rdropWhile rules.isProxy ≠ [] := by
  obtain ⟨entry, member, stranger⟩ := exposed
  intro empty
  have known := List.rdropWhile_eq_nil_iff.mp empty entry member
  rw [stranger] at known
  exact Bool.false_ne_true known

/-- A chain with an entry that is no known proxy has a client. -/
theorem exists_client_of_exposed
    (exposed : ∃ entry ∈ chain, rules.isProxy entry = false) (peer : String) :
    ∃ address, (walk rules chain peer).client = some address := by
  rw [walk_eq]
  exact ⟨_, List.getLast?_eq_some_getLast (rdropWhile_ne_nil_of_exposed exposed)⟩

/-- A walk that stops within a chain is the same walk whatever stands left of that chain; the
entries there are only kept. -/
theorem walk_append_of_exposed
    (exposed : ∃ entry ∈ chain, rules.isProxy entry = false) (older : List String)
    (peer : String) :
    walk rules (older ++ chain) peer =
      { walk rules chain peer with remaining := older ++ (walk rules chain peer).remaining } := by
  have nonempty := rdropWhile_ne_nil_of_exposed exposed
  have stops : ¬ (chain.reverse.dropWhile rules.isProxy).isEmpty = true := by
    simpa [List.rdropWhile] using nonempty
  have dropped : (older ++ chain).rdropWhile rules.isProxy =
      older ++ chain.rdropWhile rules.isProxy := by
    rw [List.rdropWhile, List.rdropWhile, List.reverse_append, List.dropWhile_append,
      if_neg stops, List.reverse_append, List.reverse_reverse]
  -- Both chains are their parts rejoined, and the parts on the left cancel.
  have taken : (older ++ chain).rtakeWhile rules.isProxy = chain.rtakeWhile rules.isProxy := by
    have whole := (older ++ chain).rdropWhile_append_rtakeWhile (p := rules.isProxy)
    rw [dropped, List.append_assoc] at whole
    have rejoined := chain.rdropWhile_append_rtakeWhile (p := rules.isProxy)
    exact List.append_cancel_left ((List.append_cancel_left whole).trans rejoined.symm)
  simp only [walk_eq, dropped, taken, List.getLast?_append_of_ne_nil _ nonempty,
    List.dropLast_append_of_ne_nil nonempty]

end Exposed

end ForwardedClient.Trust
