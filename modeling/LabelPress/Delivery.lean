import LabelPress.Number.Parse

/-!
# Delivery

A document goes to a sink, and several go one after another until one fails. A network printer is
named by its host, with or without a port.

## Main definitions

* `Sink` - a place for documents, by its state and what it does with one.
* `sendAll` - delivers documents in order.
* `Sink.memory` - the sink that keeps every document.
* `Address.ofTarget` - the host and port of a target.
-/

namespace LabelPress

open LabelPress.Number LabelPress.Text

/-- A place for documents: what it does with one, given its state. -/
structure Sink (σ ε : Type) where
  /-- Delivers a document, or fails; either way the state may change. -/
  send : σ → String → σ × Except ε Unit

namespace Sink

/-- Delivers documents in order and stops at the first failure. The answer is their number. -/
def sendAllFrom {σ ε : Type} (sink : Sink σ ε) (sent : Nat) :
    σ → List String → σ × Except ε Nat
  | state, [] => (state, .ok sent)
  | state, document :: documents =>
    match sink.send state document with
    | (state, .ok ()) => sendAllFrom sink (sent + 1) state documents
    | (state, .error fault) => (state, .error fault)

/-- Delivers documents in order and stops at the first failure. The answer is their number. -/
def sendAll {σ ε : Type} (sink : Sink σ ε) (state : σ) (documents : List String) :
    σ × Except ε Nat :=
  sink.sendAllFrom 0 state documents

/-- Keeps every document, in order; it never fails. -/
def memory : Sink (List String) Empty where
  send kept document := (kept ++ [document], .ok ())

end Sink

/-! ## Addresses -/

/-- The port of printers. -/
def defaultPort : Nat := 9100

/-- A host and a port. -/
structure Address where
  host : String
  port : Nat
deriving DecidableEq, Repr

/-- The address of a target. A port stands behind the only colon; a target with more colons, or with
something else behind its colon, is all host. -/
def Address.ofTarget (target : String) : Address :=
  match splitAtLast? ':' target.toList with
  | some (host, port) =>
    match natUpTo? 65535 port with
    | some port => if ':' ∈ host then ⟨target, defaultPort⟩ else ⟨String.ofList host, port⟩
    | none => ⟨target, defaultPort⟩
  | none => ⟨target, defaultPort⟩

example : Address.ofTarget "printer:9101" = ⟨"printer", 9101⟩ ∧ Address.ofTarget "::1" = ⟨"::1", 9100⟩ := by
  decide

end LabelPress
