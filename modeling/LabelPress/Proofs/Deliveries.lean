import LabelPress.CommandLine.Memory

/-!
# Deliveries

Documents go to a sink one after another until one fails. A sink is what it does with a document in
each of its states, so it may fail by the document as well as by what came before.

* `Sink.Takes`: documents are taken one after another, from a state to the next.
* `Sink.FailsAt`: some documents are taken, and the one behind them fails.
* `Sink.sendAll_of_takes`, `Sink.sendAll_of_failsAt`: what becomes of the documents then.
* `Sink.takes_or_failsAt`: one of the two holds.
* `Sink.deliversInOrder`: **a delivery ends at the first failure**, and the sink was passed the
  documents up to there, each of them once (`Sink.noting`).
-/

namespace LabelPress.Sink

open LabelPress.CommandLine

variable {σ ε : Type} {sink : Sink σ ε} {state between after : σ} {document : String}
  {delivered rest documents : List String} {fault : ε}

/-! ## Runs of a sink -/

variable (sink) in
/-- The sink takes documents one after another, from a state to the next. -/
inductive Takes : σ → List String → σ → Prop
  | nil (state : σ) : Takes state [] state
  | cons {state next after : σ} {document : String} {documents : List String}
      (hsend : sink.send state document = (next, .ok ())) (hrest : Takes next documents after) :
      Takes state (document :: documents) after

variable (sink) in
/-- The sink takes some documents and then fails at one. -/
def FailsAt (state : σ) (delivered : List String) (document : String) (after : σ) (fault : ε) :
    Prop :=
  ∃ between, sink.Takes state delivered between ∧
    sink.send between document = (after, .error fault)

theorem FailsAt.cons {next : σ} {first : String}
    (hsend : sink.send state first = (next, .ok ()))
    (h : sink.FailsAt next delivered document after fault) :
    sink.FailsAt state (first :: delivered) document after fault := by
  obtain ⟨between, htakes, hfail⟩ := h
  exact ⟨between, .cons hsend htakes, hfail⟩

/-- A sink takes all of the documents, or there is a first one at which it fails. -/
theorem takes_or_failsAt (sink : Sink σ ε) (state : σ) (documents : List String) :
    (∃ after, sink.Takes state documents after) ∨
      ∃ delivered document rest after fault, documents = delivered ++ document :: rest ∧
        sink.FailsAt state delivered document after fault := by
  induction documents generalizing state with
  | nil => exact .inl ⟨state, .nil state⟩
  | cons first documents ih =>
    cases hsend : sink.send state first with
    | mk next answer =>
      cases answer with
      | error fault =>
        exact .inr ⟨[], first, documents, next, fault, rfl, state, .nil state, hsend⟩
      | ok _ =>
        rcases ih next with ⟨after, htakes⟩ | ⟨delivered, document, rest, after, fault, rfl, h⟩
        · exact .inl ⟨after, .cons hsend htakes⟩
        · exact .inr ⟨first :: delivered, document, rest, after, fault, rfl, h.cons hsend⟩

/-! ## Deliveries -/

/-- The count goes on from the documents that were sent before. -/
theorem sendAllFrom_of_takes (h : sink.Takes state documents after) (sent : Nat) :
    sink.sendAllFrom sent state documents = (after, .ok (sent + documents.length)) := by
  induction h generalizing sent with
  | nil state => rfl
  | cons hsend _ ih =>
    rw [sendAllFrom, hsend]
    dsimp only
    rw [ih, List.length_cons, Nat.add_assoc, Nat.add_comm 1]

theorem sendAll_of_takes (h : sink.Takes state documents after) :
    sink.sendAll state documents = (after, .ok documents.length) := by
  rw [sendAll, sendAllFrom_of_takes h, Nat.zero_add]

/-- What stands behind the document at which the sink fails does not matter. -/
theorem sendAllFrom_of_takes_of_error (h : sink.Takes state delivered between)
    (hfail : sink.send between document = (after, .error fault)) (rest : List String)
    (sent : Nat) :
    sink.sendAllFrom sent state (delivered ++ document :: rest) = (after, .error fault) := by
  induction h generalizing sent with
  | nil state =>
    rw [List.nil_append, sendAllFrom, hfail]
  | cons hsend _ ih =>
    rw [List.cons_append, sendAllFrom, hsend]
    exact ih hfail (sent + 1)

theorem sendAll_of_failsAt (h : sink.FailsAt state delivered document after fault)
    (rest : List String) :
    sink.sendAll state (delivered ++ document :: rest) = (after, .error fault) := by
  obtain ⟨between, htakes, hfail⟩ := h
  exact sendAllFrom_of_takes_of_error htakes hfail rest 0

theorem sendAll_eq_ok_iff {n : Nat} : sink.sendAll state documents = (after, .ok n) ↔
    sink.Takes state documents after ∧ n = documents.length := by
  constructor
  · intro h
    rcases takes_or_failsAt sink state documents with
      ⟨after', htakes⟩ | ⟨delivered, document, rest, after', fault, rfl, hfails⟩
    · rw [sendAll_of_takes htakes] at h
      cases h
      exact ⟨htakes, rfl⟩
    · rw [sendAll_of_failsAt hfails] at h
      cases h
  · rintro ⟨htakes, rfl⟩
    exact sendAll_of_takes htakes

theorem sendAll_eq_error_iff : sink.sendAll state documents = (after, .error fault) ↔
    ∃ delivered document rest, documents = delivered ++ document :: rest ∧
      sink.FailsAt state delivered document after fault := by
  constructor
  · intro h
    rcases takes_or_failsAt sink state documents with
      ⟨after', htakes⟩ | ⟨delivered, document, rest, after', fault', rfl, hfails⟩
    · rw [sendAll_of_takes htakes] at h
      cases h
    · rw [sendAll_of_failsAt hfails] at h
      cases h
      exact ⟨delivered, document, rest, rfl, hfails⟩
  · rintro ⟨delivered, document, rest, rfl, hfails⟩
    exact sendAll_of_failsAt hfails rest

/-! ## What a sink is passed -/

variable (sink) in
/-- The sink with a list of what it was passed, whether it took it or not. -/
def noting : Sink (σ × List String) ε where
  send noted document :=
    let (after, answer) := sink.send noted.1 document
    ((after, noted.2 ++ [document]), answer)

theorem Takes.noting (h : sink.Takes state documents after) (passed : List String) :
    sink.noting.Takes (state, passed) documents (after, passed ++ documents) := by
  induction h generalizing passed with
  | nil state =>
    rw [List.append_nil]
    exact .nil _
  | @cons state next after document documents hsend _ ih =>
    have hnoted : sink.noting.send (state, passed) document =
        ((next, passed ++ [document]), .ok ()) := by
      simp only [Sink.noting, hsend]
    have htail := ih (passed ++ [document])
    rw [List.append_assoc, List.singleton_append] at htail
    exact .cons hnoted htail

theorem FailsAt.noting (h : sink.FailsAt state delivered document after fault)
    (passed : List String) :
    sink.noting.FailsAt (state, passed) delivered document
      (after, passed ++ delivered ++ [document]) fault := by
  obtain ⟨between, htakes, hfail⟩ := h
  refine ⟨_, htakes.noting passed, ?_⟩
  simp only [Sink.noting, hfail]

/-! ## Sinks of the program -/

theorem takes_memory (kept documents : List String) :
    memory.Takes kept documents (kept ++ documents) := by
  induction documents generalizing kept with
  | nil =>
    rw [List.append_nil]
    exact .nil kept
  | cons document documents ih =>
    have htail := ih (kept ++ [document])
    rw [List.append_assoc, List.singleton_append] at htail
    exact .cons rfl htail

/-- A printer at an address, as a sink. -/
def printerAt (shell : Shell (StateM σ)) (address : Address) : Sink σ String where
  send state document :=
    let (answer, after) := (shell.deliver address document).run state
    (after, answer)

theorem deliverAll_cons {m : Type → Type} [Monad m] (shell : Shell m) (address : Address)
    (document : String) (documents : List String) :
    deliverAll shell address (document :: documents) =
      (do
        match ← shell.deliver address document with
        | .ok () => return ()
        | .error reason => throw (.transport reason)) >>=
          fun _ => deliverAll shell address documents :=
  rfl

/-- A command delivers documents as to a sink, and a failure is an error of the command. -/
theorem run_deliverAll (shell : Shell (StateM σ)) (address : Address) (state : σ)
    (documents : List String) :
    (deliverAll shell address documents).run.run state =
      let (after, answer) := (printerAt shell address).sendAll state documents
      ((answer.map fun _ => ()).mapError LabelError.transport, after) := by
  -- The answer of a command has no count, so the statement holds wherever the count starts.
  have hcount : ∀ sent, (deliverAll shell address documents).run.run state =
      let (after, answer) := (printerAt shell address).sendAllFrom sent state documents
      ((answer.map fun _ => ()).mapError LabelError.transport, after) := by
    induction documents generalizing state with
    | nil => exact fun sent => rfl
    | cons document documents ih =>
      intro sent
      rw [deliverAll_cons, run_bind, run_bind, run_lift, sendAllFrom]
      simp only [printerAt]
      rcases (shell.deliver address document).run state with ⟨answer, after⟩
      cases answer with
      | error reason => rfl
      | ok _ => exact ih after (sent + 1)
  exact hcount 0

variable (sink state documents) in
/-- What becomes of documents that are sent one after another. -/
structure DeliversInOrder : Prop where
  /-- The delivery succeeds if the sink takes all of them; the answer is their number. -/
  ok_iff : ∀ after n, sink.sendAll state documents = (after, .ok n) ↔
    sink.Takes state documents after ∧ n = documents.length
  /-- It fails with the fault of the first at which the sink fails, in the state that this left. -/
  error_iff : ∀ after fault, sink.sendAll state documents = (after, .error fault) ↔
    ∃ delivered document rest, documents = delivered ++ document :: rest ∧
      sink.FailsAt state delivered document after fault
  /-- If it takes all, the sink is passed each of them once and in order, -/
  passedAll : ∀ after, sink.Takes state documents after → ∀ passed,
    sink.noting.sendAll (state, passed) documents =
      ((after, passed ++ documents), .ok documents.length)
  /-- and if it fails at one, those up to there and none behind. -/
  passedSome : ∀ delivered document rest after fault, documents = delivered ++ document :: rest →
    sink.FailsAt state delivered document after fault → ∀ passed,
    sink.noting.sendAll (state, passed) documents =
      ((after, passed ++ delivered ++ [document]), .error fault)
  /-- Memory has, behind what it had before, all of them. -/
  kept : ∀ kept, memory.sendAll kept documents = (kept ++ documents, .ok documents.length)
  /-- The commands deliver in this way, to whatever answers at an address. -/
  commands : ∀ (shell : Shell (StateM σ)) (address : Address),
    (deliverAll shell address documents).run.run state =
      let (after, answer) := (printerAt shell address).sendAll state documents
      ((answer.map fun _ => ()).mapError LabelError.transport, after)

/-- **A delivery ends at the first failure**: up to there each document was passed to the sink once,
in order, and the others not at all. -/
theorem deliversInOrder (sink : Sink σ ε) (state : σ) (documents : List String) :
    DeliversInOrder sink state documents := by
  constructor
  case ok_iff => exact fun after n => sendAll_eq_ok_iff
  case error_iff => exact fun after fault => sendAll_eq_error_iff
  case passedAll => exact fun after htakes passed => sendAll_of_takes (htakes.noting passed)
  case passedSome =>
    rintro delivered document rest after fault rfl hfails passed
    exact sendAll_of_failsAt (hfails.noting passed) rest
  case kept => exact fun kept => sendAll_of_takes (takes_memory kept documents)
  case commands => exact fun shell address => run_deliverAll shell address state documents

end LabelPress.Sink
