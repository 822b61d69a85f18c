import ForwardedClient.Middleware.Program
import ForwardedClient.Proofs.Middleware.OwnChange

/-!
Contract: how an application that is a list of actions runs.

Owns: the start of a run, the moments it passes through, and the reading of a nested call as the
handling of the current request.

Does not own: what single actions do.
-/

namespace ForwardedClient.Middleware

open ForwardedClient.Data
open ForwardedClient.Request

/-- An application that was called with a request and has done nothing so far. -/
def begun (request : Request) (world : World) : Running :=
  ⟨⟨⟨request, none⟩, none⟩, world.witness (.called request world.context), none⟩

section Run

variable (lookup : Lookup)

theorem run_eq (actions : List Action) (request : Request) (world : World) :
    run lookup actions request world = (performAll lookup actions (begun request world)).close :=
  rfl

/-- A nested call handles the current request around the nested application. -/
theorem perform_nest (settings : Settings) (application : List Action) (running : Running) :
    perform lookup running (.nest settings application) =
      running.resume (.nest settings application)
        (handle settings lookup (run lookup application) running.frame.current.request
          running.world) := by
  rw [perform]
  rfl

/-- A run passes through what its first actions come to, unless they fail. -/
theorem performAll_append {early : List Action} (late : List Action) {running : Running}
    (unfailed : (performAll lookup early running).failure = none) :
    performAll lookup (early ++ late) running =
      performAll lookup late (performAll lookup early running) := by
  induction early generalizing running with
  | nil => rw [List.nil_append, performAll]
  | cons action rest inductionHypothesis =>
      rw [List.cons_append, performAll, performAll]
      rw [performAll] at unfailed
      by_cases failed : (perform lookup running action).failure.isSome = true
      · rw [if_pos failed] at unfailed
        rw [unfailed] at failed
        exact absurd failed Bool.false_ne_true
      · rw [if_neg failed] at unfailed ⊢
        rw [if_neg failed, inductionHypothesis unfailed]

end Run

end ForwardedClient.Middleware
