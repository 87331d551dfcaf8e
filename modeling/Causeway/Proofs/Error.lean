import Causeway.Error
import Mathlib.Data.List.Infix
import Mathlib.Data.List.Induction

/-!
# Contexts hide nothing of an error

Whatever messages are added to a failure, it stays a failure of the same kind, what it says ends in
what the error itself says, and on the way down its sources every layer is met, then the error
itself, then what is below that (`contexts_hide_nothing`). One more message is put around all that are
there, so the inductions are on the message added last.
-/

namespace Causeway

namespace Error

variable (e : Error) (messages : List String)

/-- What does not depend on the last context does not depend on any. -/
theorem view_withContexts {β : Type} {view : Error → β}
    (h : ∀ message e, view (.context message e) = view e) :
    view (e.withContexts messages) = view e := by
  induction messages using List.reverseRecOn with
  | nil => rfl
  | append_singleton messages message ih => rw [withContexts_concat, h, ih]

theorem isConfiguration_withContexts :
    (e.withContexts messages).isConfiguration = e.isConfiguration :=
  view_withContexts e messages fun _ _ => rfl

theorem isConnectivity_withContexts :
    (e.withContexts messages).isConnectivity = e.isConnectivity :=
  view_withContexts e messages fun _ _ => rfl

theorem not_isConfiguration_and_isConnectivity :
    ¬(e.isConfiguration = true ∧ e.isConnectivity = true) := by
  rintro ⟨hconfiguration, hconnectivity⟩
  induction e with
  | context _ e ih => exact ih hconfiguration hconnectivity
  | config | unsupportedDataSource | yamlParse | jsonParse => cases hconnectivity
  | _ => cases hconfiguration

theorem message_withContexts :
    (e.withContexts messages).message = ": ".intercalate (messages.reverse ++ [e.message]) := by
  induction messages using List.reverseRecOn with
  | nil => exact String.intercalate_singleton.symm
  | append_singleton messages message ih =>
    have hne : messages.reverse ++ [e.message] ≠ [] := by simp
    calc (e.withContexts (messages ++ [message])).message
        = message ++ ": " ++ (e.withContexts messages).message := by
          rw [withContexts_concat, message_context]
      _ = message ++ ": " ++ ": ".intercalate (messages.reverse ++ [e.message]) := by rw [ih]
      _ = ": ".intercalate ((messages ++ [message]).reverse ++ [e.message]) := by
          rw [List.reverse_concat, List.cons_append, String.intercalate_cons_of_ne_nil hne]

/-- The layers under the outermost one, each with what it says, lie above the sources of the error
itself. -/
theorem sources_withContexts :
    (e.withContexts messages).sources =
      (messages.reverse.tails.tail.map fun inner => ": ".intercalate (inner ++ [e.message])) ++
        e.sources := by
  induction messages using List.reverseRecOn with
  | nil => rfl
  | append_singleton messages message ih =>
    -- under the new message lie the old outermost layer and all that were under that one
    have htails : messages.reverse.tails = messages.reverse :: messages.reverse.tails.tail := by
      cases messages.reverse <;> rfl
    rw [withContexts_concat, sources_context, message_withContexts, ih, List.reverse_concat,
      List.tails_cons, List.tail_cons, htails, List.map_cons, List.cons_append]
    rfl

end Error

/-- The two ways to add a message to what has failed. -/
inductive Addition where
  | text (message : String)
  | made (message : Unit → String)

namespace Addition

variable {ε α : Type} [ToError ε]

def message : Addition → String
  | .text message => message
  | .made message => message ()

def apply : Addition → Except ε α → Except Error α
  | .text message => inContext message
  | .made message => inContextBy message

theorem apply_error (a : Addition) (x : ε) :
    a.apply (.error x : Except ε α) = .error (.context a.message (toError x)) := by
  cases a <;> rfl

/-- Adds messages one after the other, the last one outermost. -/
def applyAll (additions : List Addition) (r : Except Error α) : Except Error α :=
  additions.foldl (fun r a => a.apply r) r

theorem applyAll_error (additions : List Addition) (e : Error) :
    applyAll additions (.error e : Except Error α) =
      .error (e.withContexts (additions.map message)) := by
  induction additions generalizing e with
  | nil => rfl
  | cons a additions ih =>
    calc applyAll (a :: additions) (.error e : Except Error α)
        = applyAll additions (.error (.context a.message e)) :=
          congrArg (applyAll additions) (apply_error a e)
      _ = .error ((Error.context a.message e).withContexts (additions.map message)) := ih _

end Addition

/-- Messages added to a failure in any mix of the two ways leave it a failure, of the same kind. It says
the messages, the outermost first, and then what the error said. Its sources are the layers from the
next one down to the error, and then those of the error. -/
theorem contexts_hide_nothing {ε α : Type} [ToError ε] (x : ε) (first : Addition)
    (later : List Addition) :
    let e := toError x
    let messages := ((first :: later).map Addition.message).reverse
    (∃ w, Addition.applyAll later (first.apply (.error x : Except ε α)) = .error w ∧
      w.isConfiguration = e.isConfiguration ∧ w.isConnectivity = e.isConnectivity ∧
      w.message = ": ".intercalate (messages ++ [e.message]) ∧
      w.sources =
        (messages.tails.tail.map fun inner => ": ".intercalate (inner ++ [e.message])) ++
          e.sources) ∧
    ∀ f : Error, ¬(f.isConfiguration = true ∧ f.isConnectivity = true) := by
  intro e messages
  let added := (first :: later).map Addition.message
  refine ⟨⟨e.withContexts added, ?_, e.isConfiguration_withContexts added,
    e.isConnectivity_withContexts added, e.message_withContexts added,
    e.sources_withContexts added⟩, Error.not_isConfiguration_and_isConnectivity⟩
  rw [Addition.apply_error, Addition.applyAll_error]
  rfl

end Causeway
